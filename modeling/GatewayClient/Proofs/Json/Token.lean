import GatewayClient.Json.Value

/-!
# Tokens of written text

What is written for a number or a string is one token again, whatever comes after it; only
after a number nothing may come that could belong to it.

* `Token.Spelled`: the tokens of a text that is well formed to its end.
* `Token.numberLiteral_toDigits`, `Token.Spelled.number`: numbers.
* `Token.stringPieces_flatMap_escaped`, `Token.Spelled.string`: strings.
-/

namespace GatewayClient.Json

namespace Number

/-- Whether a number is an integer that fits a 64-bit word, signed where it is negative. -/
def isWord : Number → Bool
  | .int i => -Nat.pow 2 63 ≤ i && i ≤ maxWord
  | .float _ => false

theorem exists_of_isWord {n : Number} (h : n.isWord) :
    ∃ i : Int, n = .int i ∧ -Nat.pow 2 63 ≤ i ∧ i ≤ maxWord := by
  cases n with
  | int i => exact ⟨i, rfl, by simpa [isWord] using h⟩
  | float x => exact absurd h Bool.false_ne_true

end Number

namespace Token

/-- The tokens of a text that is well formed to its end. -/
inductive Spelled : List Char → List Token → Prop
  | nil : Spelled [] []
  | cons {c : Char} {text : List Char} {token : Token} {tokens : List Token} (rest : List Char) :
    isBlank c = false → next c text = some (token, rest) → rest.length ≤ text.length →
    Spelled rest tokens → Spelled (c :: text) (token :: tokens)

namespace Spelled

variable {text rest : List Char} {tokens : List Token}

theorem scanFrom (h : Spelled text tokens) (acc : List Token) {fuel : Nat}
    (hfuel : text.length ≤ fuel) : scanFrom fuel acc text = (acc.reverse ++ tokens, true) := by
  induction h generalizing acc fuel with
  | nil => simp [Token.scanFrom]
  | @cons c text token tokens rest hc hnext hlength _ ih =>
    obtain ⟨fuel, rfl⟩ : ∃ n, fuel = n + 1 := ⟨fuel - 1, by simp at hfuel; omega⟩
    have hrest : rest.length ≤ fuel := by simp at hfuel; omega
    simp [Token.scanFrom, hc, hnext, ih (token :: acc) hrest]

theorem scan (h : Spelled text tokens) : scan text = (tokens, true) :=
  h.scanFrom [] (Nat.le_refl _)

end Spelled

/-! ## Numbers -/

/-- Whether what comes next in a text is no part of a number that comes before it. -/
def endsNumber (rest : List Char) : Bool :=
  rest.head?.all fun c => !c.isDigit && c ≠ '.' && c ≠ 'e' && c ≠ 'E'

theorem endsNumber_cons {c : Char} {rest : List Char} :
    endsNumber (c :: rest) ↔ c.isDigit = false ∧ c ≠ '.' ∧ c ≠ 'e' ∧ c ≠ 'E' := by
  simp [endsNumber, and_assoc]

/-- Only the number zero begins with the digit zero. -/
theorem eq_zero_of_head?_toDigits (n : Nat) (h : (Nat.toDigits 10 n).head? = some '0') :
    n = 0 := by
  induction n using Nat.strongRecOn with
  | ind n ih =>
    by_cases hn : n < 10
    · rw [Nat.toDigits_of_lt_base hn, List.head?_cons, Option.some_inj] at h
      exact Nat.digitChar_eq_zero.1 h
    · obtain ⟨c, digits, hcons⟩ := List.exists_cons_of_ne_nil
        (Nat.toDigits_ne_nil : Nat.toDigits 10 (n / 10) ≠ [])
      have hlead : (Nat.toDigits 10 (n / 10)).head? = some '0' := by
        rw [Nat.toDigits_of_base_le (by omega) (by omega), hcons] at h
        rw [hcons]
        exact h
      have := ih (n / 10) (by omega) hlead
      omega

theorem exponentPart_of_endsNumber {rest : List Char} (h : endsNumber rest) :
    exponentPart rest = some (none, rest) := by
  cases rest with
  | nil => rfl
  | cons c rest =>
    obtain ⟨-, -, he, hE⟩ := endsNumber_cons.1 h
    simp [exponentPart, he, hE]

theorem decimalPart_of_endsNumber {rest : List Char} (h : endsNumber rest) :
    decimalPart rest = some ([], rest) := by
  unfold decimalPart
  split
  · exact absurd rfl (endsNumber_cons.1 h).2.1
  · rfl

/-- The digits of a number are a literal, if no part of one follows. -/
theorem numberLiteral_toDigits (negative : Bool) (n : Nat) {rest : List Char}
    (h : endsNumber rest) : numberLiteral negative (Nat.toDigits 10 n ++ rest) =
      some (⟨negative, Nat.toDigits 10 n, [], none⟩, rest) := by
  have hdigits : ∀ c ∈ Nat.toDigits 10 n, c.isDigit = true := fun c hc =>
    Nat.isDigit_of_mem_toDigits (by omega) (by omega) hc
  -- The literal ends with the digits, as what comes next is none.
  have hrest : rest.takeWhile Char.isDigit = [] ∧ rest.dropWhile Char.isDigit = rest := by
    cases rest with
    | nil => exact ⟨rfl, rfl⟩
    | cons c rest => simp [(endsNumber_cons.1 h).1]
  have hlead : ¬ ((Nat.toDigits 10 n).isEmpty ||
      ((Nat.toDigits 10 n).head? = some '0' && 1 < (Nat.toDigits 10 n).length)) := by
    rw [Bool.or_eq_true, Bool.and_eq_true, decide_eq_true_eq, decide_eq_true_eq]
    rintro (hempty | ⟨hzero, hlong⟩)
    · exact Nat.toDigits_ne_nil (List.isEmpty_iff.1 hempty)
    · rw [eq_zero_of_head?_toDigits n hzero, Nat.toDigits_zero] at hlong
      exact absurd hlong (by decide)
  simp only [numberLiteral, List.takeWhile_append_of_pos hdigits,
    List.dropWhile_append_of_pos hdigits, hrest, List.append_nil, if_neg hlead]
  simp [decimalPart_of_endsNumber h, exponentPart_of_endsNumber h]

theorem ofLiteral_toDigits {n : Nat} (h : n ≤ Number.maxWord) :
    Number.ofLiteral ⟨false, Nat.toDigits 10 n, [], none⟩ = some (.int n) := by
  simp [Number.ofLiteral, Nat.ofDigitChars_ten_toDigits, h]

theorem ofLiteral_negative_toDigits {n : Nat} (hpos : 0 < n) (h : n ≤ Nat.pow 2 63) :
    Number.ofLiteral ⟨true, Nat.toDigits 10 n, [], none⟩ = some (.int (-n)) := by
  simp [Number.ofLiteral, Nat.ofDigitChars_ten_toDigits, hpos, h]

theorem isBlank_of_isDigit {c : Char} (hc : c.isDigit) : isBlank c = false := by
  rw [← Bool.not_eq_true, isBlank]
  simp only [Bool.or_eq_true, decide_eq_true_eq]
  rintro (((rfl | rfl) | rfl) | rfl) <;> exact absurd hc (by decide)

/-- A digit begins a number and nothing else. -/
theorem next_of_isDigit {c : Char} (hc : c.isDigit) (text : List Char) :
    next c text = (numberLiteral false (c :: text)).map fun (l, rest) =>
      (.number (Number.ofLiteral l), rest) := by
  unfold next
  split <;> first | exact absurd hc (by decide) | rw [if_pos hc]

/-- What is written for an integer is one token. -/
theorem Spelled.number {n : Number} {rest : List Char} {tokens : List Token} (hn : n.isWord)
    (hend : endsNumber rest) (h : Spelled rest tokens) :
    Spelled (n.text ++ rest) (.number (some n) :: tokens) := by
  obtain ⟨i, rfl, hlow, hhigh⟩ := Number.exists_of_isWord hn
  rw [Number.text, Integer.text]
  split
  · next hneg =>
    -- The sign begins the token, and the digits are read after it.
    have hvalue := ofLiteral_negative_toDigits (n := i.natAbs) (by omega) (by omega)
    rw [show -(i.natAbs : Int) = i by omega] at hvalue
    refine .cons rest rfl ?_ (by simp) h
    simp [next, numberLiteral_toDigits true i.natAbs hend, hvalue]
  · next hneg =>
    -- The token begins with the first digit, which has to be known as one.
    have hvalue := ofLiteral_toDigits (n := i.natAbs) (by omega)
    rw [show (i.natAbs : Int) = i by omega] at hvalue
    have hliteral := numberLiteral_toDigits false i.natAbs hend
    obtain ⟨c, digits, hcons, hminus, -⟩ := Integer.toDigits_eq_cons i.natAbs
    have hc : c.isDigit :=
      Nat.isDigit_of_mem_toDigits (by omega) (by omega) (hcons ▸ List.mem_cons_self)
    rw [hcons, List.cons_append]
    refine .cons rest (isBlank_of_isDigit hc) ?_ (by simp) h
    rw [next_of_isDigit hc, ← List.cons_append, ← hcons, hliteral]
    simp only [Option.map_some, hvalue]

/-! ## Strings -/

theorem hexDigit?_hexDigit : ∀ n < 16, hexDigit? (Value.hexDigit n) = some n := by decide

/-- What a written character is read as: control characters without a letter of their own are
    written by their number. -/
def pieceOf (c : Char) : Piece :=
  if c.toNat < 0x20 ∧ c ∉ ['\x08', '\x0c', '\n', '\r', '\t'] then .unit c.toNat else .char c

theorem stringPieces_cons {acc : List Piece} {c : Char} {rest : List Char} (hquote : c ≠ '"')
    (hslash : c ≠ '\\') (hcontrol : ¬ c.toNat < 0x20) :
    stringPieces acc (c :: rest) = stringPieces (.char c :: acc) rest := by
  rw [stringPieces.eq_def]
  split
  case h_5 _ _ _ _ _ heq =>
    obtain ⟨rfl, rfl⟩ := List.cons.inj heq
    rw [if_neg (by simp [hslash, Nat.not_lt.1 hcontrol])]
  all_goals simp_all

/-- A character inside a string literal is read as one piece. -/
theorem stringPieces_escaped (acc : List Piece) (c : Char) (rest : List Char) :
    stringPieces acc (Value.escaped c ++ rest) = stringPieces (pieceOf c :: acc) rest := by
  unfold Value.escaped
  split
  case h_8 _ hquote hslash hb hf hn hr ht =>
    -- A character that has no letter to be escaped by: by its number, or as it is.
    split
    · next hcontrol =>
      have hunit : hexUnit? '0' '0' (Value.hexDigit (c.toNat / 16)) (Value.hexDigit (c.toNat % 16))
          = some c.toNat := by
        rw [hexUnit?, hexDigit?_hexDigit _ (by omega), hexDigit?_hexDigit _ (by omega),
          show hexDigit? '0' = some 0 from rfl]
        simp
        omega
      have hpiece : pieceOf c = .unit c.toNat := by
        rw [pieceOf, if_pos ⟨hcontrol, by simp_all⟩]
      simp [stringPieces, hunit, hpiece]
    · next hcontrol =>
      have hpiece : pieceOf c = .char c := by
        rw [pieceOf, if_neg fun h => hcontrol h.1]
      rw [hpiece, List.singleton_append, stringPieces_cons hquote hslash hcontrol]
  all_goals rfl

theorem join_pieceOf (acc : List Char) (c : Char) (rest : List Piece) :
    Piece.join acc (pieceOf c :: rest) = Piece.join (c :: acc) rest := by
  unfold pieceOf
  split
  · next h =>
    have hhigh : Piece.isHigh c.toNat = false := by simp [Piece.isHigh]; omega
    have hlow : Piece.isLow c.toNat = false := by simp [Piece.isLow]; omega
    have hc : Char.ofNat c.toNat = c := Char.ofNat_toNat c
    match rest with
    | [] | .char _ :: _ | .unit _ :: _ => simp [Piece.join, hhigh, hlow, hc]
  · simp [Piece.join]

theorem join_map_pieceOf (acc cs : List Char) :
    Piece.join acc (cs.map pieceOf) = some (acc.reverse ++ cs) := by
  induction cs generalizing acc with
  | nil => simp [Piece.join]
  | cons c rest ih => rw [List.map_cons, join_pieceOf, ih, List.reverse_cons, List.append_assoc,
      List.singleton_append]

theorem stringPieces_flatMap_escaped (acc : List Piece) (cs rest : List Char) :
    stringPieces acc (cs.flatMap Value.escaped ++ '"' :: rest) =
      some (acc.reverse ++ cs.map pieceOf, rest) := by
  induction cs generalizing acc with
  | nil => simp [stringPieces]
  | cons c cs ih =>
    rw [List.flatMap_cons, List.append_assoc, stringPieces_escaped, ih, List.reverse_cons,
      List.map_cons, List.append_assoc, List.singleton_append]

/-- What is written for a string is one token. -/
theorem Spelled.string {s : String} {rest : List Char} {tokens : List Token}
    (h : Spelled rest tokens) : Spelled (Value.quoted s rest) (.string (some s) :: tokens) := by
  refine .cons rest rfl ?_ (by simp; omega) h
  simp only [next, stringPieces_flatMap_escaped, List.reverse_nil, List.nil_append,
    join_map_pieceOf, Option.map_some, String.ofList_toList]

end Token

end GatewayClient.Json
