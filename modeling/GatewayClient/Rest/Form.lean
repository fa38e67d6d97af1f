import GatewayClient.Text.Utf8

/-!
# Forms

Pairs of names and values as the fields of a form. Letters, digits and a few
marks stand for themselves, a space is written as a plus sign, and every other
byte of the UTF-8 text as a percent sign and two hexadecimal digits.
-/

namespace GatewayClient.Form

/-- The hexadecimal digit of a number below sixteen, in upper case. -/
def hexDigit (n : Nat) : Char := if n < 10 then Char.ofNat (48 + n) else Char.ofNat (55 + n)

/-- A byte that stands for itself. -/
def isPlain (b : UInt8) : Bool :=
  (0x30 ≤ b && b ≤ 0x39) || (0x41 ≤ b && b ≤ 0x5A) || (0x61 ≤ b && b ≤ 0x7A)
    || b = 0x2A || b = 0x2D || b = 0x2E || b = 0x5F

/-- A byte as it is written. -/
def byteText (b : UInt8) : List Char :=
  if isPlain b then [Char.ofNat b.toNat]
  else if b = 0x20 then ['+']
  else ['%', hexDigit (b.toNat / 16), hexDigit (b.toNat % 16)]

/-- A name or a value as it is written. -/
def field (s : String) : String := String.ofList ((Utf8.encode s).flatMap byteText)

/-- The text of a form. -/
def text (pairs : List (String × String)) : String :=
  "&".intercalate (pairs.map fun (name, value) => field name ++ "=" ++ field value)

end GatewayClient.Form
