import GatewayClient.Decimal.Binary64

/-!
# Shortest decimal text of a binary number

The decimal with the fewest digits that still reads back as the same binary64
number; of two such decimals with equally many digits the one nearer to the
number, and of two equally near ones the one whose last digit is even.

The numbers that read back as `m * 2 ^ q` are those between the midpoints to
its two neighbours, the midpoints included exactly if `m` is even. For one
digit, two digits and so on, only the two multiples of the matching power of
ten around the number itself can be the answer.

`Shortest.text` then lays the digits out: with a point inside or after them
while the first digit stands between 10⁻⁵ and 10¹⁵, with an exponent
otherwise, and always with a point or an exponent.
-/

namespace GatewayClient.Shortest

/-- A decimal `digits * 10 ^ exponent`. -/
structure Decimal where
  /-- The digits as one number. -/
  digits : Nat
  /-- The power of ten they count. -/
  exponent : Int
  deriving DecidableEq, Repr

/-- The interval of rationals that round to a number, as numerators over one
    common denominator. -/
structure Interval where
  /-- The lower end. -/
  lower : Nat
  /-- The number itself. -/
  value : Nat
  /-- The upper end. -/
  upper : Nat
  /-- The common denominator. -/
  denominator : Nat
  /-- Whether the ends belong to it. -/
  closed : Bool

/-- The interval around `m * 2 ^ q`. Below a power of two the neighbours are
    half as far apart, except at the least exponent. -/
def Interval.around (m : Nat) (q : Int) : Interval :=
  let unit := if 0 ≤ q then Nat.pow 2 q.toNat else 1
  let den := if 0 ≤ q then 4 else 4 * Nat.pow 2 (-q).toNat
  let below := if m = Nat.pow 2 52 ∧ Binary64.minExponent < q then 1 else 2
  { lower := (4 * m - below) * unit
    value := 4 * m * unit
    upper := (4 * m + 2) * unit
    denominator := den
    closed := m % 2 == 0 }

/-- The interval in units of `10 ^ k`: its ends and the number over one
    denominator. -/
def Interval.inUnits (i : Interval) (k : Int) : Interval :=
  if 0 ≤ k then { i with denominator := i.denominator * Nat.pow 10 k.toNat }
  else
    let f := Nat.pow 10 (-k).toNat
    { i with lower := i.lower * f, value := i.value * f, upper := i.upper * f }

/-- Whether the whole number `d` lies in the interval. -/
def Interval.holds (i : Interval) (d : Nat) : Bool :=
  let x := d * i.denominator
  if i.closed then i.lower ≤ x && x ≤ i.upper else i.lower < x && x < i.upper

/-- The whole number in the interval that is nearest to its middle value. -/
def Interval.pick (i : Interval) : Option Nat :=
  let d := i.value / i.denominator
  let rest := i.value % i.denominator
  match i.holds d, i.holds (d + 1) with
  | false, false => none
  | true, false => some d
  | false, true => some (d + 1)
  | true, true =>
    if 2 * rest < i.denominator then some d
    else if i.denominator < 2 * rest then some (d + 1)
    else some (d + d % 2)

/-- The place of the first digit of `num / den`: the greatest power of ten not
    above it. -/
def leadingPlace (num den : Nat) : Int :=
  if den ≤ num then ((Nat.toDigits 10 (num / den)).length : Int) - 1
  else
    let zeros := ((List.range 340).find? (fun j => den ≤ num * Nat.pow 10 (j + 1))).getD 340
    Int.negSucc zeros

/-- Moves trailing zeros of the digits into the exponent. -/
def Decimal.trim : Nat → Decimal → Decimal
  | 0, d => d
  | n + 1, d =>
    if d.digits % 10 = 0 ∧ d.digits ≠ 0 then trim n ⟨d.digits / 10, d.exponent + 1⟩ else d

/-- The shortest decimal that reads back as `m * 2 ^ q`, for `m` above zero. -/
def decimal (m : Nat) (q : Int) : Decimal :=
  let i := Interval.around m q
  let place := leadingPlace i.value i.denominator
  let found := (List.range 18).findSome? fun (n : Nat) =>
    let k := place - (n : Int)
    (i.inUnits k).pick.map fun d => Decimal.mk d k
  (found.getD ⟨m, q⟩).trim 20

/-- An exponent with its sign and at least two digits. -/
def exponentText (e : Int) : List Char :=
  let digits := Nat.toDigits 10 e.natAbs
  (if e < 0 then '-' else '+') :: (if digits.length < 2 then '0' :: digits else digits)

/-- Digits with the first of them at `place`: positional from 10⁻⁵ to 10¹⁵, with
    an exponent elsewhere. -/
def layOut (digits : List Char) (place : Int) : List Char :=
  if -5 ≤ place ∧ place ≤ 15 then
    if place < 0 then
      '0' :: '.' :: (List.replicate (-place - 1).toNat '0' ++ digits)
    else
      let whole := place.toNat + 1
      if digits.length ≤ whole then
        digits ++ List.replicate (whole - digits.length) '0' ++ ['.', '0']
      else digits.take whole ++ '.' :: digits.drop whole
  else
    let mantissa := match digits with
      | [] => []
      | [d] => [d]
      | d :: rest => d :: '.' :: rest
    mantissa ++ 'e' :: exponentText place

/-- The shortest text of a number. -/
def text (x : Binary64) : List Char :=
  let sign := if x.negative then ['-'] else []
  if x.isZero then sign ++ ['0', '.', '0']
  else
    let d := decimal x.mantissa x.exponent
    let digits := Nat.toDigits 10 d.digits
    sign ++ layOut digits (d.exponent + digits.length - 1)

end GatewayClient.Shortest
