import GatewayClient.Decimal.Natural

/-!
# Whole numbers in text

A whole number in text is a sign, which may be left out, and at least one digit.
It has to fit into a signed word of 64 bits.

* `Integer.ofText?_text`: what is written reads back.
-/

namespace GatewayClient.Integer

/-- Whether a number fits into a signed word of 64 bits. -/
def Fits (n : Int) : Prop := -Nat.pow 2 63 ≤ n ∧ n < Nat.pow 2 63

instance (n : Int) : Decidable (Fits n) := inferInstanceAs (Decidable (_ ∧ _))

/-- The number that a text writes. -/
def ofText? (cs : List Char) : Option Int :=
  let number : Option Int := match cs with
    | '-' :: digits =>
      if Natural.isDigits digits then some (-Nat.ofDigitChars 10 digits 0) else none
    | cs =>
      let digits := Natural.unsigned cs
      if Natural.isDigits digits then some (Nat.ofDigitChars 10 digits 0) else none
  number.filter fun n => Fits n

/-- A number in digits, with a sign if it is negative. -/
def text (n : Int) : List Char :=
  if n < 0 then '-' :: Nat.toDigits 10 n.natAbs else Nat.toDigits 10 n.natAbs

theorem isDigits_toDigits (n : Nat) : Natural.isDigits (Nat.toDigits 10 n) = true := by
  have hd : ∀ c ∈ Nat.toDigits 10 n, c.isDigit = true := fun c hc =>
    Nat.isDigit_of_mem_toDigits (by omega) (by omega) hc
  simp only [Natural.isDigits, Bool.and_eq_true, List.all_eq_true]
  exact ⟨by simp, hd⟩

/-- Digits do not start with a sign. -/
theorem toDigits_eq_cons (n : Nat) :
    ∃ c rest, Nat.toDigits 10 n = c :: rest ∧ c ≠ '-' ∧ c ≠ '+' := by
  match h : Nat.toDigits 10 n with
  | [] => exact absurd h Nat.toDigits_ne_nil
  | c :: rest =>
    have hc : c.isDigit = true :=
      Nat.isDigit_of_mem_toDigits (by omega) (by omega) (h ▸ List.mem_cons_self)
    exact ⟨c, rest, rfl, fun e => by simp [e] at hc, fun e => by simp [e] at hc⟩

theorem ofText?_text (n : Int) (h : Fits n) : ofText? (text n) = some n := by
  have hv : Nat.ofDigitChars 10 (Nat.toDigits 10 n.natAbs) 0 = n.natAbs :=
    Nat.ofDigitChars_toDigits (by omega) (by omega)
  have hd := isDigits_toDigits n.natAbs
  unfold text
  split
  · simp only [ofText?, hd, hv, if_true]
    rw [show -(n.natAbs : Int) = n by omega]
    simp only [Option.filter_some, h, decide_true, if_true]
  · obtain ⟨c, rest, hcons, hminus, hplus⟩ := toDigits_eq_cons n.natAbs
    have hu : Natural.unsigned (Nat.toDigits 10 n.natAbs) = Nat.toDigits 10 n.natAbs := by
      rw [hcons]; unfold Natural.unsigned; split <;> simp_all
    unfold ofText?
    split
    · next heq => rw [hcons] at heq; simp_all
    · simp only [hu, hd, hv, if_true]
      rw [show (n.natAbs : Int) = n by omega]
      simp only [Option.filter_some, h, decide_true, if_true]

end GatewayClient.Integer
