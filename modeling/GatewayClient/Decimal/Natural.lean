/-!
# Natural numbers in text

A natural number in text is a plus sign, which may be left out, and at least one
digit. Leading zeros are allowed; blanks, other signs and separators are not.
-/

namespace GatewayClient.Natural

/-- Whether a text has digits only, and at least one. -/
def isDigits (cs : List Char) : Bool := !cs.isEmpty && cs.all Char.isDigit

/-- The digits of a number without its plus sign. -/
def unsigned : List Char → List Char
  | '+' :: digits => digits
  | digits => digits

/-- The number up to `max` that a text writes. -/
def ofText? (max : Nat) (cs : List Char) : Option Nat :=
  let digits := unsigned cs
  if isDigits digits then
    let n := Nat.ofDigitChars 10 digits 0
    if n ≤ max then some n else none
  else none

/-- A number is known from its digits. -/
theorem toDigits_injective {m n : Nat} (h : Nat.toDigits 10 m = Nat.toDigits 10 n) : m = n := by
  have hread := congrArg (Nat.ofDigitChars 10 · 0) h
  simpa only [Nat.ofDigitChars_ten_toDigits] using hread

end GatewayClient.Natural
