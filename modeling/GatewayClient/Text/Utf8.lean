/-!
# UTF-8

Bytes as text. A byte sequence that is no character in UTF-8 either makes the
whole text unreadable (`Utf8.decode?`) or is shown as a replacement character,
one for each longest piece that begins like a character (`Utf8.decodeLossy`).
-/

namespace GatewayClient.Utf8

/-- The bytes of a text. -/
def encode (s : String) : List UInt8 := s.toUTF8.toList

/-- Whether a byte continues a character. -/
def isContinuation (b : UInt8) : Bool := 0x80 ≤ b && b ≤ 0xBF

/-- The six bits of a continuation. -/
def low (b : UInt8) : Nat := b.toNat % 64

/-- The bytes that may follow the first one of a character of several bytes:
    the least and the greatest, and how many continuations come after it. -/
def second? (b : UInt8) : Option (UInt8 × UInt8 × Nat) :=
  if 0xC2 ≤ b && b ≤ 0xDF then some (0x80, 0xBF, 0)
  else if b = 0xE0 then some (0xA0, 0xBF, 1)
  else if b = 0xED then some (0x80, 0x9F, 1)
  else if 0xE1 ≤ b && b ≤ 0xEF then some (0x80, 0xBF, 1)
  else if b = 0xF0 then some (0x90, 0xBF, 2)
  else if b = 0xF4 then some (0x80, 0x8F, 2)
  else if 0xF1 ≤ b && b ≤ 0xF3 then some (0x80, 0xBF, 2)
  else none

/-- The number that `count` further continuations complete, with what is left;
    no number where one of them is missing. -/
def continue? (value : Nat) : Nat → List UInt8 → Option Nat × List UInt8
  | 0, rest => (some value, rest)
  | _ + 1, [] => (none, [])
  | count + 1, b :: rest =>
    if isContinuation b then continue? (value * 64 + low b) count rest else (none, b :: rest)

/-- The character that begins with the byte `b`, with what is left after it or
    after the piece that begins like one. -/
def next (b : UInt8) (rest : List UInt8) : Option Char × List UInt8 :=
  if b < 0x80 then (some (Char.ofNat b.toNat), rest)
  else
    match second? b, rest with
    | some (least, greatest, more), c :: rest' =>
      if least ≤ c && c ≤ greatest then
        let lead := b.toNat % (if more = 0 then 32 else if more = 1 then 16 else 8)
        let piece := continue? (lead * 64 + low c) more rest'
        (piece.1.map Char.ofNat, piece.2)
      else (none, c :: rest')
    | _, rest => (none, rest)

theorem length_continue? (value count : Nat) (rest : List UInt8) :
    (continue? value count rest).2.length ≤ rest.length := by
  fun_induction continue? value count rest <;> simp_all
  omega

theorem length_next (b : UInt8) (rest : List UInt8) : (next b rest).2.length ≤ rest.length := by
  unfold next
  split
  · exact Nat.le_refl _
  · split
    · split
      · exact Nat.le_trans (length_continue? _ _ _) (Nat.le_succ _)
      · exact Nat.le_refl _
    · exact Nat.le_refl _

/-- The characters of the bytes, nothing for each piece that is none. -/
def pieces : List UInt8 → List (Option Char)
  | [] => []
  | b :: rest => (next b rest).1 :: pieces (next b rest).2
termination_by bs => bs.length
decreasing_by
  have h := length_next b rest
  simp only [List.length_cons]
  omega

/-- The text of the bytes, if it is one. -/
def decode? (bytes : List UInt8) : Option String := ((pieces bytes).mapM id).map String.ofList

/-- The text of the bytes, with a replacement character for each piece that is no
    character. -/
def decodeLossy (bytes : List UInt8) : String :=
  String.ofList ((pieces bytes).map fun c => c.getD '\uFFFD')

end GatewayClient.Utf8
