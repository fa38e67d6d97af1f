import GatewayClient.Proofs.Json.Token

/-!
# Trees of written text

The text of a value is well formed, and what is read from it is the value as it would be
written. A value has no more than one text, so nothing is said here about blanks or other
spellings of it.

* `Value.all`: a property of all values inside a value; `Value.isInteger`: that all numbers
  are integers.
* `Value.tokens`: the tokens of a value, and `Value.spelled_text`: they are those of its text.
* `Position.run_tokensBefore`: what the tokens of a value come to, wherever it stands.
* `Outline.read_text`: the text of an object read as a record.
-/

namespace GatewayClient.Json

namespace Value

mutual

/-- Whether all values inside a value, and the value itself, have a property. -/
def all (p : Value → Bool) : Value → Bool
  | .null => p .null
  | .bool b => p (.bool b)
  | .number n => p (.number n)
  | .string s => p (.string s)
  | .array items => p (.array items) && allItems p items
  | .object members => p (.object members) && allMembers p members

/-- Whether all values inside the items of an array have a property. -/
def allItems (p : Value → Bool) : List Value → Bool
  | [] => true
  | v :: rest => all p v && allItems p rest

/-- Whether all values inside the members of an object have a property. -/
def allMembers (p : Value → Bool) : List (String × Value) → Bool
  | [] => true
  | (_, v) :: rest => all p v && allMembers p rest

end

/-- Whether a value is no number, or one that is an integer within a word. -/
def hasWord : Value → Bool
  | .number n => n.isWord
  | _ => true

/-- Whether all numbers in a value are integers within a word. -/
def isInteger (v : Value) : Bool := v.all hasWord

mutual

/-- The tokens of a value, before the tokens `more`. -/
def tokensBefore (more : List Token) : Value → List Token
  | .null => .null :: more
  | .bool b => .bool b :: more
  | .number n => .number (some n) :: more
  | .string s => .string (some s) :: more
  | .array [] => .openBracket :: .closeBracket :: more
  | .array (v :: items) =>
    .openBracket :: tokensBefore (itemTokensBefore (.closeBracket :: more) items) v
  | .object [] => .openBrace :: .closeBrace :: more
  | .object ((name, v) :: members) =>
    .openBrace :: .string (some name) :: .colon ::
      tokensBefore (memberTokensBefore (.closeBrace :: more) members) v

/-- The tokens of further items of an array, before the tokens `more`. -/
def itemTokensBefore (more : List Token) : List Value → List Token
  | [] => more
  | v :: items => .comma :: tokensBefore (itemTokensBefore more items) v

/-- The tokens of further members of an object, before the tokens `more`. -/
def memberTokensBefore (more : List Token) : List (String × Value) → List Token
  | [] => more
  | (name, v) :: members =>
    .comma :: .string (some name) :: .colon :: tokensBefore (memberTokensBefore more members) v

end

/-- The tokens of a value. -/
def tokens (v : Value) : List Token := v.tokensBefore []

/-! ## From the text to the tokens -/

theorem endsNumber_itemsBefore {rest : List Char} (h : Token.endsNumber rest)
    (items : List Value) : Token.endsNumber (itemsBefore rest items) := by
  cases items with
  | nil => exact h
  | cons v items => rfl

theorem endsNumber_membersBefore {rest : List Char} (h : Token.endsNumber rest)
    (members : List (String × Value)) : Token.endsNumber (membersBefore rest members) := by
  cases members with
  | nil => exact h
  | cons m members => rfl

mutual

/-- What is written for a value has the value's tokens. -/
theorem spelled_textBefore (v : Value) {rest : List Char} {more : List Token} (hv : v.isInteger)
    (hend : Token.endsNumber rest) (h : Token.Spelled rest more) :
    Token.Spelled (v.textBefore rest) (v.tokensBefore more) := by
  match v with
  | .null | .bool true | .bool false =>
    exact .cons rest rfl rfl (by simp only [List.length_cons]; omega) h
  | .number n => exact .number hv hend h
  | .string s => exact .string h
  | .array [] => exact .cons _ rfl rfl (Nat.le_refl _) (.cons _ rfl rfl (Nat.le_refl _) h)
  | .object [] => exact .cons _ rfl rfl (Nat.le_refl _) (.cons _ rfl rfl (Nat.le_refl _) h)
  | .array (v :: items) =>
    have hall : v.isInteger ∧ allItems hasWord items := by
      simpa [isInteger, all, allItems, hasWord] using hv
    have hclose : Token.Spelled (']' :: rest) (.closeBracket :: more) :=
      .cons _ rfl rfl (Nat.le_refl _) h
    refine .cons _ rfl rfl (Nat.le_refl _) ?_
    exact spelled_textBefore v hall.1 (endsNumber_itemsBefore rfl items)
      (spelled_itemsBefore items hall.2 rfl hclose)
  | .object ((name, v) :: members) =>
    have hall : v.isInteger ∧ allMembers hasWord members := by
      simpa [isInteger, all, allMembers, hasWord] using hv
    have hclose : Token.Spelled ('}' :: rest) (.closeBrace :: more) :=
      .cons _ rfl rfl (Nat.le_refl _) h
    refine .cons _ rfl rfl (Nat.le_refl _) (.string (.cons _ rfl rfl (Nat.le_refl _) ?_))
    exact spelled_textBefore v hall.1 (endsNumber_membersBefore rfl members)
      (spelled_membersBefore members hall.2 rfl hclose)

theorem spelled_itemsBefore (items : List Value) {rest : List Char} {more : List Token}
    (hitems : allItems hasWord items) (hend : Token.endsNumber rest)
    (h : Token.Spelled rest more) :
    Token.Spelled (itemsBefore rest items) (itemTokensBefore more items) := by
  match items with
  | [] => exact h
  | v :: items =>
    have hall : v.isInteger ∧ allItems hasWord items := by
      simpa [isInteger, allItems] using hitems
    refine .cons _ rfl rfl (Nat.le_refl _) ?_
    exact spelled_textBefore v hall.1 (endsNumber_itemsBefore hend items)
      (spelled_itemsBefore items hall.2 hend h)

theorem spelled_membersBefore (members : List (String × Value)) {rest : List Char}
    {more : List Token} (hmembers : allMembers hasWord members) (hend : Token.endsNumber rest)
    (h : Token.Spelled rest more) :
    Token.Spelled (membersBefore rest members) (memberTokensBefore more members) := by
  match members with
  | [] => exact h
  | (name, v) :: members =>
    have hall : v.isInteger ∧ allMembers hasWord members := by
      simpa [isInteger, allMembers] using hmembers
    refine .cons _ rfl rfl (Nat.le_refl _) (.string (.cons _ rfl rfl (Nat.le_refl _) ?_))
    exact spelled_textBefore v hall.1 (endsNumber_membersBefore hend members)
      (spelled_membersBefore members hall.2 hend h)

end

/-- The tokens of the text of a value are those of the value. -/
theorem scan_text {v : Value} (hv : v.isInteger) : Token.scan v.text.toList = (v.tokens, true) := by
  rw [text, String.toList_ofList]
  exact (spelled_textBefore v hv rfl .nil).scan

end Value

/-! ## From the tokens to the tree -/

namespace Position

open Value

/-- A value may stand first in an array as it may stand anywhere. -/
theorem run_firstItem (v : Value) (more : List Token) (outer : List Frame) :
    run (.firstItem outer) (v.tokensBefore more) =
      run (.value (.item [] :: outer)) (v.tokensBefore more) := by
  match v with
  | .null | .bool _ | .number _ | .string _ | .array [] | .array (_ :: _) | .object []
  | .object (_ :: _) => rfl

mutual

/-- After the tokens of a value, the reader has its tree. -/
theorem run_tokensBefore (v : Value) (more : List Token) (outer : List Frame) :
    run (.value outer) (v.tokensBefore more) = run (place v.toTree outer) more := by
  match v with
  | .null | .bool _ | .number _ | .string _ | .array [] | .object [] => rfl
  | .array (v :: items) =>
    calc
      run (.firstItem outer) (v.tokensBefore (itemTokensBefore (.closeBracket :: more) items)) =
          run (.afterItem [v.toTree] outer) (itemTokensBefore (.closeBracket :: more) items) := by
        rw [run_firstItem, run_tokensBefore]
        rfl
      _ = run (place (.array (toTrees (v :: items))) outer) more :=
        run_itemTokensBefore items more [v.toTree] outer
  | .object ((name, v) :: members) =>
    calc
      run (.value (.member [] (some name) :: outer))
            (v.tokensBefore (memberTokensBefore (.closeBrace :: more) members)) =
          run (.afterMember [(some name, v.toTree)] outer)
            (memberTokensBefore (.closeBrace :: more) members) :=
        run_tokensBefore v _ _
      _ = run (place (.object (toMembers ((name, v) :: members))) outer) more :=
        run_memberTokensBefore members more [(some name, v.toTree)] outer

theorem run_itemTokensBefore (items : List Value) (more : List Token) (held : List Tree)
    (outer : List Frame) :
    run (.afterItem held outer) (itemTokensBefore (.closeBracket :: more) items) =
      run (place (.array (held.reverse ++ toTrees items)) outer) more := by
  match items with
  | [] => rw [toTrees, List.append_nil]; rfl
  | v :: items =>
    calc
      run (.value (.item held :: outer))
            (v.tokensBefore (itemTokensBefore (.closeBracket :: more) items)) =
          run (.afterItem (v.toTree :: held) outer)
            (itemTokensBefore (.closeBracket :: more) items) :=
        run_tokensBefore v _ _
      _ = run (place (.array (held.reverse ++ toTrees (v :: items))) outer) more := by
        rw [run_itemTokensBefore items, List.reverse_cons, List.append_assoc, toTrees,
          List.singleton_append]

theorem run_memberTokensBefore (members : List (String × Value)) (more : List Token)
    (held : Members) (outer : List Frame) :
    run (.afterMember held outer) (memberTokensBefore (.closeBrace :: more) members) =
      run (place (.object (held.reverse ++ toMembers members)) outer) more := by
  match members with
  | [] => rw [toMembers, List.append_nil]; rfl
  | (name, v) :: members =>
    calc
      run (.value (.member held (some name) :: outer))
            (v.tokensBefore (memberTokensBefore (.closeBrace :: more) members)) =
          run (.afterMember ((some name, v.toTree) :: held) outer)
            (memberTokensBefore (.closeBrace :: more) members) :=
        run_tokensBefore v _ _
      _ = run (place (.object (held.reverse ++ toMembers ((name, v) :: members))) outer)
            more := by
        rw [run_memberTokensBefore members, List.reverse_cons, List.append_assoc, toMembers,
          List.singleton_append]

end

end Position

/-- The text of an object, read as a record, has the members of the object. -/
theorem Outline.read_text {members : List (String × Value)}
    (h : (Value.object members).isInteger) :
    Outline.read (Value.object members).text = ⟨.byName (Value.toMembers members), true⟩ := by
  have hrun := Position.run_tokensBefore (.object members) [] []
  rw [Outline.read, Value.scan_text h, Value.tokens]
  simp only [hrun]
  rfl

end GatewayClient.Json
