import GatewayClient.Json.Number

/-!
# Tokens of JSON text

The strict grammar: space, tab, line feed and carriage return between tokens;
no comments, no leading zeros or plus signs, no bare control characters in
strings, no escapes beyond the eight letters and `\u` with four hex digits.

A literal can be well formed and still have no value: a number beyond the finite
floats, or a string with an escape that is half of a surrogate pair. Such a
token carries nothing, and whoever needs its value refuses it.

* `Token.scan`: the tokens of a text as far as it has any, and whether they
  reach its end.
-/

namespace GatewayClient.Json

/-- A token of JSON text. -/
inductive Token where
  | openBrace
  | closeBrace
  | openBracket
  | closeBracket
  | comma
  | colon
  | null
  | bool (value : Bool)
  /-- A number; nothing if it is too large to have a value. -/
  | number (value : Option Number)
  /-- A string; nothing if an escape in it names no character. -/
  | string (value : Option String)
  deriving DecidableEq, Repr

/-- What stands in a string literal: a character, or a 16-bit unit written as an
    escape. -/
inductive Piece where
  | char (c : Char)
  | unit (value : Nat)

namespace Piece

/-- Whether a unit is the first half of a surrogate pair. -/
def isHigh (u : Nat) : Bool := 0xD800 ≤ u && u < 0xDC00

/-- Whether a unit is the second half of a surrogate pair. -/
def isLow (u : Nat) : Bool := 0xDC00 ≤ u && u < 0xE000

/-- The characters that pieces spell, or nothing if a half of a pair stands
    alone. `acc` holds the characters before them, last first. -/
def join (acc : List Char) : List Piece → Option (List Char)
  | [] => some acc.reverse
  | .char c :: rest => join (c :: acc) rest
  | .unit u :: .unit v :: rest =>
    if isHigh u then
      if isLow v then
        join (Char.ofNat (0x10000 + (u - 0xD800) * 0x400 + (v - 0xDC00)) :: acc) rest
      else none
    else if isLow u then none
    else join (Char.ofNat u :: acc) (.unit v :: rest)
  | .unit u :: rest =>
    if isHigh u || isLow u then none else join (Char.ofNat u :: acc) rest

end Piece

namespace Token

/-- White space between tokens. -/
def isBlank (c : Char) : Bool := c = ' ' || c = '\t' || c = '\n' || c = '\r'

/-- The value of a hexadecimal digit. -/
def hexDigit? (c : Char) : Option Nat :=
  if '0' ≤ c ∧ c ≤ '9' then some (c.toNat - '0'.toNat)
  else if 'a' ≤ c ∧ c ≤ 'f' then some (c.toNat - 'a'.toNat + 10)
  else if 'A' ≤ c ∧ c ≤ 'F' then some (c.toNat - 'A'.toNat + 10)
  else none

/-- The unit that four hexadecimal digits write. -/
def hexUnit? (a b c d : Char) : Option Nat := do
  return (((← hexDigit? a) * 16 + (← hexDigit? b)) * 16 + (← hexDigit? c)) * 16 + (← hexDigit? d)

/-- The character that a one-letter escape stands for. -/
def escape? : Char → Option Char
  | '"' => some '"'
  | '\\' => some '\\'
  | '/' => some '/'
  | 'b' => some '\x08'
  | 'f' => some '\x0c'
  | 'n' => some '\n'
  | 'r' => some '\r'
  | 't' => some '\t'
  | _ => none

/-- The pieces of a string literal up to its closing quote, and the text after
    it. `acc` holds the pieces so far, last first. -/
def stringPieces (acc : List Piece) : List Char → Option (List Piece × List Char)
  | [] => none
  | '"' :: rest => some (acc.reverse, rest)
  | '\\' :: 'u' :: a :: b :: c :: d :: rest =>
    match hexUnit? a b c d with
    | some u => stringPieces (.unit u :: acc) rest
    | none => none
  | '\\' :: e :: rest =>
    match escape? e with
    | some c => stringPieces (.char c :: acc) rest
    | none => none
  | c :: rest => if c.toNat < 0x20 || c = '\\' then none else stringPieces (.char c :: acc) rest

/-- The exponent of a number literal, if one follows: whether it is negative,
    its digits, and the text after it. -/
def exponentPart : List Char → Option (Option (Bool × List Char) × List Char)
  | c :: rest =>
    if c = 'e' ∨ c = 'E' then
      let (negative, rest) := match rest with
        | '-' :: r => (true, r)
        | '+' :: r => (false, r)
        | r => (false, r)
      let digits := rest.takeWhile Char.isDigit
      if digits.isEmpty then none
      else some (some (negative, digits), rest.dropWhile Char.isDigit)
    else some (none, c :: rest)
  | [] => some (none, [])

/-- The decimals of a number literal, if a point follows, and the text after
    them. -/
def decimalPart : List Char → Option (List Char × List Char)
  | '.' :: rest =>
    let digits := rest.takeWhile Char.isDigit
    if digits.isEmpty then none else some (digits, rest.dropWhile Char.isDigit)
  | rest => some ([], rest)

/-- A number literal without its sign, and the text after it. -/
def numberLiteral (negative : Bool) (text : List Char) : Option (Literal × List Char) := do
  let whole := text.takeWhile Char.isDigit
  let rest := text.dropWhile Char.isDigit
  if whole.isEmpty || (whole.head? = some '0' && 1 < whole.length) then none
  let (decimals, rest) ← decimalPart rest
  let (exponent, rest) ← exponentPart rest
  return ({ negative, whole, decimals, exponent }, rest)

/-- A word that must stand next in the text. -/
def expect (word : List Char) (token : Token) (text : List Char) : Option (Token × List Char) :=
  if word.isPrefixOf text then some (token, text.drop word.length) else none

/-- The token that starts with a character, and the text after it. -/
def next (c : Char) (rest : List Char) : Option (Token × List Char) :=
  match c with
  | '{' => some (.openBrace, rest)
  | '}' => some (.closeBrace, rest)
  | '[' => some (.openBracket, rest)
  | ']' => some (.closeBracket, rest)
  | ',' => some (.comma, rest)
  | ':' => some (.colon, rest)
  | 'n' => expect ['u', 'l', 'l'] .null rest
  | 't' => expect ['r', 'u', 'e'] (.bool true) rest
  | 'f' => expect ['a', 'l', 's', 'e'] (.bool false) rest
  | '"' =>
    (stringPieces [] rest).map fun (pieces, rest) =>
      (.string ((Piece.join [] pieces).map String.ofList), rest)
  | '-' => (numberLiteral true rest).map fun (l, rest) => (.number (Number.ofLiteral l), rest)
  | c =>
    if c.isDigit then
      (numberLiteral false (c :: rest)).map fun (l, rest) => (.number (Number.ofLiteral l), rest)
    else none

/-- The tokens of a text and whether they reach its end. `fuel` is at least the
    length of the text, and `acc` holds the tokens so far, last first. -/
def scanFrom : Nat → List Token → List Char → List Token × Bool
  | _, acc, [] => (acc.reverse, true)
  | 0, acc, _ :: _ => (acc.reverse, false)
  | fuel + 1, acc, c :: rest =>
    if isBlank c then scanFrom fuel acc rest
    else
      match next c rest with
      | some (token, rest) => scanFrom fuel (token :: acc) rest
      | none => (acc.reverse, false)

/-- The tokens of a text as far as it is well formed, and whether that is to its
    end. -/
def scan (text : List Char) : List Token × Bool := scanFrom text.length [] text

end Token

end GatewayClient.Json
