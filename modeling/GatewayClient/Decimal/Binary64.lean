/-!
# Binary floating point, exactly

Finite binary64 numbers as `± mantissa * 2 ^ exponent`, with arithmetic in
`Nat`: a rational is rounded to the nearest such number, a tie going to the
even mantissa, and products and quotients are the rounded exact ones. Nothing
here depends on the machine's own floating point.

* `Binary64.nearest`: the rounding everything else is built from; it answers
  nothing when the rational is beyond the largest finite number.
* `Binary64.mul`, `Binary64.div`: the rounded product and quotient.
* `Binary64.roundInt`: a whole number rounded; `Binary64.roundNat_of_lt`: one of at most 53
  bits stays as it is; `Binary64.roundNat_le_roundNat`: rounding keeps the order.
-/

namespace GatewayClient

/-- A finite binary64 number, `± mantissa * 2 ^ exponent`. The mantissa is
    below `2 ^ 53`, the exponent at least `-1074`. -/
structure Binary64 where
  /-- Whether the sign bit is set; zero has a sign too. -/
  negative : Bool
  /-- The mantissa as a whole number. -/
  mantissa : Nat
  /-- The power of two that the mantissa counts. -/
  exponent : Int
  deriving DecidableEq, Repr

namespace Binary64

/-- The least exponent, that of the subnormal numbers. -/
def minExponent : Int := -1074

/-- The greatest exponent of a finite number. -/
def maxExponent : Int := 971

/-- Zero with the given sign. -/
def zero (negative : Bool) : Binary64 := ⟨negative, 0, minExponent⟩

/-- `num / den` divided by `2 ^ e`, as a fraction. -/
def scaled (num den : Nat) (e : Int) : Nat × Nat :=
  if 0 ≤ e then (num, den * Nat.pow 2 e.toNat) else (num * Nat.pow 2 (-e).toNat, den)

/-- `num / den` to the nearest whole number, a tie to the even one. -/
def roundHalfEven (num den : Nat) : Nat :=
  let whole := num / den
  let twice := 2 * (num % den)
  if twice < den then whole
  else if den < twice then whole + 1
  else whole + whole % 2

/-- The exponent at which `num / den` has a mantissa of 53 bits, or the least
    one if it is too small for that. -/
def placeOf (num den : Nat) : Int :=
  let guess : Int := (num.log2 : Int) - den.log2 - 53
  let (n, d) := scaled num den guess
  max minExponent (if Nat.pow 2 53 * d ≤ n then guess + 1 else guess)

/-- The binary64 number nearest to `± num / den`, or nothing if that is beyond
    the finite ones. -/
def nearest (negative : Bool) (num den : Nat) : Option Binary64 :=
  if num = 0 then some (zero negative)
  else
    let e := placeOf num den
    let (n, d) := scaled num den e
    let m := roundHalfEven n d
    let (m, e) := if m = Nat.pow 2 53 then (Nat.pow 2 52, e + 1) else (m, e)
    if maxExponent < e then none
    else if m = 0 then some (zero negative)
    else some ⟨negative, m, e⟩

/-- The magnitude of a number as a fraction. -/
def magnitude (x : Binary64) : Nat × Nat :=
  if 0 ≤ x.exponent then (x.mantissa * Nat.pow 2 x.exponent.toNat, 1)
  else (x.mantissa, Nat.pow 2 (-x.exponent).toNat)

/-- Whether a number is zero of either sign. -/
def isZero (x : Binary64) : Bool := x.mantissa == 0

/-- The rounded product. -/
def mul (x y : Binary64) : Option Binary64 :=
  let (a, b) := x.magnitude
  let (c, d) := y.magnitude
  nearest (x.negative != y.negative) (a * c) (b * d)

/-- The rounded quotient, for a divisor other than zero. -/
def div (x y : Binary64) : Option Binary64 :=
  let (a, b) := x.magnitude
  let (c, d) := y.magnitude
  nearest (x.negative != y.negative) (a * d) (b * c)

/-! ## Whole numbers -/

/-- What the last of the 53 bits counts in which a whole number is written. -/
def unitOf (n : Nat) : Nat := Nat.pow 2 (n.log2 - 52)

/-- The binary64 number nearest to a whole one, which is whole, too. -/
def roundNat (n : Nat) : Nat := roundHalfEven n (unitOf n) * unitOf n

/-- The same with a sign. -/
def roundInt (n : Int) : Int := n.sign * roundNat n.natAbs

@[simp] theorem roundInt_natCast (n : Nat) : roundInt n = roundNat n := by
  cases n with
  | zero => decide
  | succ n =>
    have hsign : ((n + 1 : Nat) : Int).sign = 1 := Int.sign_eq_one_of_pos (by omega)
    rw [roundInt, hsign, Int.one_mul, Int.natAbs_natCast]

theorem roundHalfEven_mul (m : Nat) {d : Nat} (hd : 0 < d) : roundHalfEven (m * d) d = m := by
  simp [roundHalfEven, Nat.mul_div_cancel _ hd, hd]

theorem div_le_roundHalfEven (n d : Nat) :
    n / d ≤ roundHalfEven n d ∧ roundHalfEven n d ≤ n / d + 1 := by
  simp only [roundHalfEven]
  repeat' split
  all_goals omega

theorem roundHalfEven_le_roundHalfEven {m n : Nat} (d : Nat) (h : m ≤ n) :
    roundHalfEven m d ≤ roundHalfEven n d := by
  have hwhole : m / d ≤ n / d := Nat.div_le_div_right h
  rcases Nat.eq_or_lt_of_le hwhole with heq | hlt
  · -- Of two numbers with the same whole part the parts that are left keep the order.
    have hm := Nat.div_add_mod m d
    have hn := Nat.div_add_mod n d
    rw [heq] at hm
    simp only [roundHalfEven, heq]
    repeat' split
    all_goals omega
  · calc roundHalfEven m d ≤ m / d + 1 := (div_le_roundHalfEven m d).2
      _ ≤ n / d := hlt
      _ ≤ roundHalfEven n d := (div_le_roundHalfEven n d).1

theorem roundNat_of_lt {n : Nat} (h : n < Nat.pow 2 53) : roundNat n = n := by
  have hlog : n.log2 - 52 = 0 := by
    by_cases hn : n = 0
    · subst hn
      decide
    · have hlt : n.log2 < 53 := (Nat.log2_lt hn).2 h
      omega
  have hunit : unitOf n = 1 := by rw [unitOf, hlog, Nat.pow_eq, Nat.pow_zero]
  have hround := roundHalfEven_mul n Nat.one_pos
  rw [Nat.mul_one] at hround
  rw [roundNat, hunit, Nat.mul_one, hround]

/-- A power of two is met where the numbers are rounded that have one bit more. -/
theorem roundHalfEven_two_pow {k e : Nat} (h : e ≤ k) :
    roundHalfEven (Nat.pow 2 k) (Nat.pow 2 e) * Nat.pow 2 e = Nat.pow 2 k := by
  have hpow : Nat.pow 2 (k - e) * Nat.pow 2 e = Nat.pow 2 k := Nat.pow_sub_mul_pow 2 h
  have hround : roundHalfEven (Nat.pow 2 (k - e) * Nat.pow 2 e) (Nat.pow 2 e) = Nat.pow 2 (k - e) :=
    roundHalfEven_mul _ (Nat.two_pow_pos e)
  rw [← hpow, hround]

/-- Rounding does not go beyond the powers of two around a number. -/
theorem two_pow_log2_le_roundNat {n : Nat} (hn : n ≠ 0) :
    Nat.pow 2 n.log2 ≤ roundNat n ∧ roundNat n ≤ Nat.pow 2 (n.log2 + 1) := by
  have hbelow : Nat.pow 2 n.log2 ≤ n := Nat.log2_self_le hn
  have habove : n ≤ Nat.pow 2 (n.log2 + 1) := Nat.le_of_lt Nat.lt_log2_self
  constructor
  · rw [← roundHalfEven_two_pow (Nat.sub_le n.log2 52)]
    exact Nat.mul_le_mul_right _ (roundHalfEven_le_roundHalfEven (unitOf n) hbelow)
  · rw [← roundHalfEven_two_pow (show n.log2 - 52 ≤ n.log2 + 1 by omega)]
    exact Nat.mul_le_mul_right _ (roundHalfEven_le_roundHalfEven (unitOf n) habove)

theorem roundNat_le_roundNat {m n : Nat} (h : m ≤ n) : roundNat m ≤ roundNat n := by
  by_cases hm : m = 0
  · rw [hm, roundNat_of_lt (Nat.two_pow_pos 53)]
    exact Nat.zero_le _
  have hn : n ≠ 0 := by omega
  have hlog : m.log2 ≤ n.log2 := (Nat.le_log2 hn).2 (Nat.le_trans (Nat.log2_self_le hm) h)
  rcases Nat.eq_or_lt_of_le hlog with heq | hlt
  · have hunit : unitOf m = unitOf n := by rw [unitOf, unitOf, heq]
    rw [roundNat, roundNat, hunit]
    exact Nat.mul_le_mul_right _ (roundHalfEven_le_roundHalfEven (unitOf n) h)
  · calc roundNat m ≤ Nat.pow 2 (m.log2 + 1) := (two_pow_log2_le_roundNat hm).2
      _ ≤ Nat.pow 2 n.log2 := Nat.pow_le_pow_right (by decide) hlt
      _ ≤ roundNat n := (two_pow_log2_le_roundNat hn).1

/-- A number of at most 53 bits compares with another one as with what that is rounded to. -/
theorem le_roundNat_iff {m n : Nat} (hm : m < Nat.pow 2 53) : m ≤ roundNat n ↔ m ≤ n := by
  refine ⟨fun h => Nat.le_of_not_lt fun hlt => ?_, fun h => ?_⟩
  · rw [roundNat_of_lt (Nat.lt_trans hlt hm)] at h
    exact Nat.not_lt.2 h hlt
  · have hround := roundNat_le_roundNat h
    rwa [roundNat_of_lt hm] at hround

theorem roundInt_lt_zero {n : Int} (h : n < 0) : roundInt n < 0 := by
  have hpos : 1 ≤ roundNat n.natAbs := (le_roundNat_iff (by decide)).2 (by omega)
  rw [roundInt, Int.sign_eq_neg_one_of_neg h]
  omega

theorem roundInt_le_roundInt {m n : Int} (h : m ≤ n) : roundInt m ≤ roundInt n := by
  by_cases hn : n < 0
  · have hround : roundNat n.natAbs ≤ roundNat m.natAbs := roundNat_le_roundNat (by omega)
    rw [roundInt, roundInt, Int.sign_eq_neg_one_of_neg hn,
      Int.sign_eq_neg_one_of_neg (Int.lt_of_le_of_lt h hn)]
    omega
  obtain ⟨k, rfl⟩ := Int.eq_ofNat_of_zero_le (Int.not_lt.1 hn)
  by_cases hm : m < 0
  · have hround := roundInt_lt_zero hm
    rw [roundInt_natCast]
    omega
  · obtain ⟨j, rfl⟩ := Int.eq_ofNat_of_zero_le (Int.not_lt.1 hm)
    rw [roundInt_natCast, roundInt_natCast, Int.ofNat_le]
    exact roundNat_le_roundNat (Int.ofNat_le.1 h)

theorem roundInt_lt_iff {m : Int} {n : Nat} (hn : n < Nat.pow 2 53) :
    roundInt m < roundInt n ↔ m < n := by
  rw [roundInt_natCast, roundNat_of_lt hn]
  by_cases hm : m < 0
  · have hround := roundInt_lt_zero hm
    omega
  · obtain ⟨k, rfl⟩ := Int.eq_ofNat_of_zero_le (Int.not_lt.1 hm)
    have hle := le_roundNat_iff (n := k) hn
    rw [roundInt_natCast]
    omega

end Binary64

end GatewayClient
