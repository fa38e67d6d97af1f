import GatewayClient.Decimal.Binary64
import GatewayClient.Decimal.Natural

/-!
# Decimal fractions in text

A fraction in text has a sign, which may be left out, digits with a point
anywhere among them, and an exponent, which may be left out too. It stands for
the nearest binary64 number. The words `inf`, `infinity` and `nan`, in any case,
stand for what is no number.

* `Scientific.split?`: the parts of a text that follow the grammar.
* `Scientific.ofText?`: what a text stands for.
-/

namespace GatewayClient

/-- What a fraction in text stands for. -/
inductive Scientific where
  | finite (value : Binary64)
  | infinite (negative : Bool)
  | notANumber
  deriving DecidableEq, Repr

namespace Scientific

/-- A text with its sign taken off; whether that is a minus sign. -/
def splitSign : List Char → Bool × List Char
  | '-' :: rest => (true, rest)
  | '+' :: rest => (false, rest)
  | rest => (false, rest)

/-- The exponent that comes last in a text, or zero if nothing comes. -/
def exponent? : List Char → Option Int
  | [] => some 0
  | c :: rest =>
    if c = 'e' || c = 'E' then
      let (negative, digits) := splitSign rest
      if Natural.isDigits digits then
        let n := Nat.ofDigitChars 10 digits 0
        some (if negative then -n else n)
      else none
    else none

/-- The digits and the places after the point at the start of a text, with what
    comes after them. There must be a digit on one side of the point. -/
def digits? (cs : List Char) : Option (List Char × Nat × List Char) :=
  let whole := cs.takeWhile Char.isDigit
  let (places, rest) := match cs.dropWhile Char.isDigit with
    | '.' :: rest => (rest.takeWhile Char.isDigit, rest.dropWhile Char.isDigit)
    | rest => ([], rest)
  if (whole ++ places).isEmpty then none else some (whole ++ places, places.length, rest)

/-- `± digits * 10 ^ exponent` as the nearest binary64 number. An exponent that is
    far beyond the range of these is not computed with. -/
def ofParts (negative : Bool) (digits : List Char) (exponent : Int) : Scientific :=
  let n := Nat.ofDigitChars 10 digits 0
  let lead := (digits.dropWhile (· = '0')).length + exponent
  if n = 0 || lead < -400 then .finite (Binary64.zero negative)
  else if 400 < lead then .infinite negative
  else
    let value :=
      if 0 ≤ exponent then Binary64.nearest negative (n * Nat.pow 10 exponent.toNat) 1
      else Binary64.nearest negative n (Nat.pow 10 (-exponent).toNat)
    match value with
    | some x => .finite x
    | none => .infinite negative

/-- What a text stands for, if it is a fraction. -/
def ofText? (cs : List Char) : Option Scientific :=
  let (negative, rest) := splitSign cs
  let word := String.ofList (rest.map Char.toLower)
  if word = "inf" || word = "infinity" then some (.infinite negative)
  else if word = "nan" then some .notANumber
  else do
    let (digits, places, rest) ← digits? rest
    let exponent ← exponent? rest
    return ofParts negative digits (exponent - places)

end Scientific

end GatewayClient
