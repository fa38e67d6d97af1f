import GatewayClient.Decimal.Integer
import GatewayClient.Decimal.Shortest

/-!
# JSON numbers

A number is an integer if it is written as one and fits a 64-bit word, signed
when it is negative; every other number is a binary64 float.

A float literal is read with the digits that fit a 64-bit word: digits are taken
while the number they form fits, the rest of the integer part only counts
places, and the rest of the decimals is dropped. The word is then rounded to a
float and scaled by a rounded power of ten, so a float may come out one unit
away from the nearest. Beyond the finite floats the literal has no value.

* `Number.ofLiteral`: the value of a literal.
* `Number.text`: the text of a value, digits for an integer and the shortest
  decimal for a float.
-/

namespace GatewayClient.Json

/-- A number as JSON tells them apart. -/
inductive Number where
  /-- Written as an integer, within a 64-bit word. -/
  | int (value : Int)
  /-- Every other number. -/
  | float (value : Binary64)
  deriving DecidableEq, Repr

/-- The parts of a number literal that follow the grammar. -/
structure Literal where
  /-- Whether a minus sign leads. -/
  negative : Bool
  /-- The digits before the point. -/
  whole : List Char
  /-- The digits after the point; none if there is no point. -/
  decimals : List Char
  /-- The exponent: whether it is negative, and its digits. -/
  exponent : Option (Bool × List Char)

namespace Number

/-- The greatest unsigned 64-bit word. -/
def maxWord : Nat := UInt64.size - 1

/-- The value of a digit. -/
def digit (c : Char) : Nat := c.toNat - '0'.toNat

/-- Appends digits to a number while the result fits a word; the digits that do
    not fit are left over. -/
def extend (n : Nat) : List Char → Nat × List Char
  | [] => (n, [])
  | c :: rest =>
    let next := n * 10 + digit c
    if next ≤ maxWord then extend next rest else (n, c :: rest)

/-- `10 ^ k` rounded to a float, for `k` up to 308. -/
def power (k : Nat) : Binary64 := (Binary64.nearest false (Nat.pow 10 k) 1).getD (Binary64.zero false)

/-- `x` divided by `10 ^ k`, in steps of at most 308 places. `fuel` bounds the
    steps; the quotient is zero long before it runs out. -/
def shrink : Nat → Binary64 → Nat → Binary64
  | 0, x, _ => x
  | fuel + 1, x, k =>
    if k ≤ 308 then (x.div (power k)).getD x
    else if x.isZero then x
    else shrink fuel ((x.div (power 308)).getD x) (k - 308)

/-- A word scaled by a power of ten, with a sign. -/
def scale (negative : Bool) (word : Nat) (exponent : Int) : Option Binary64 :=
  if word = 0 then some (Binary64.zero negative)
  else
    (Binary64.nearest negative word 1).bind fun x =>
      if 0 ≤ exponent then
        if exponent ≤ 308 then x.mul (power exponent.toNat) else none
      else some (shrink 8 x (-exponent).toNat)

/-- The exponent that digits write, bounded so that a longer one stays
    computable; beyond the bound every exponent has the same effect. -/
def exponentOf (negative : Bool) (digits : List Char) : Int :=
  let magnitude := digits.foldl (fun n c => min (n * 10 + digit c) 2147483648) 0
  if negative then -(magnitude : Int) else magnitude

/-- The float that a literal writes. -/
def floatOf (l : Literal) : Option Binary64 :=
  let (word, uncounted) := extend 0 l.whole
  let (word, dropped) := extend word l.decimals
  let places : Int := (uncounted.length : Int) - (l.decimals.length - dropped.length : Nat)
  let exponent := match l.exponent with
    | none => 0
    | some (negative, digits) => exponentOf negative digits
  scale l.negative word (places + exponent)

/-- The value of a literal: nothing if it is beyond the finite floats. -/
def ofLiteral (l : Literal) : Option Number :=
  let plain := l.decimals.isEmpty && l.exponent.isNone
  let value := Nat.ofDigitChars 10 l.whole 0
  if plain && !l.negative && value ≤ maxWord then some (.int value)
  else if plain && l.negative && 0 < value && value ≤ Nat.pow 2 63 then some (.int (-value))
  else (floatOf l).map .float

/-- The text of a number. -/
def text : Number → List Char
  | .int i => Integer.text i
  | .float x => Shortest.text x

end Number

end GatewayClient.Json
