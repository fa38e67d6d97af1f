import GatewayClient.Gateway.Envelope
import GatewayClient.Proofs.Json.Record
import Mathlib

/-!
# Writing and reading messages

A message whose payload has no fractions is read from its own text as it is. So its text is
the canonical one among all that write it.

* `Envelope.IsPlain`: the messages of which this holds.
* `Envelope.read_write`: what is read from the text of a message.
* `Envelope.isPlain_of_read`: all that is read is plain, fractions apart.
-/

namespace GatewayClient

open Json

namespace Envelope

/-- The number of containers inside each other in a message, itself included. -/
def depth (e : Envelope) : Nat := e.payload.depth + 1

/-- A message that a client can hold and that has no fractions in it. -/
structure IsPlain (e : Envelope) : Prop where
  /-- Its number is a word. -/
  sequence : ∀ n ∈ e.sequence, n ≤ Number.maxWord
  /-- Its payload has no fractions in it. -/
  payload : e.payload.IsPlain
  /-- It nests no deeper than a reader allows. -/
  depth : e.depth ≤ maxDepth

variable {e : Envelope}

/-! ## Reading what is written -/

/-- A message is written without fractions. -/
theorem isInteger_members (he : e.IsPlain) : (Value.object e.members).isInteger := by
  refine Value.all_object.2 ⟨rfl, fun m hm => ?_⟩
  simp only [members, List.mem_append, List.mem_singleton, Option.mem_toList,
    Option.map_eq_some_iff] at hm
  rcases hm with ((rfl | ⟨name, -, rfl⟩) | ⟨n, hn, rfl⟩) | rfl
  · cases e.op <;> rfl
  · rfl
  · exact Value.isInteger_ofNat (he.sequence n hn)
  · exact he.payload.integer

namespace Draft

variable {d : Draft}

theorem readOp_toTree (op : OpCode) : readOp (Value.ofNat op.code).toTree = .ok op := by
  cases op <;> rfl

theorem put_op (h : d.op = none) (op : OpCode) :
    d.put "op" (Value.ofNat op.code).toTree = .ok { d with op := some op } := by
  simp only [put, h, Option.isSome_none, Bool.false_eq_true, if_false, readOp_toTree]
  rfl

theorem put_name (h : d.name = none) (name : String) :
    d.put "t" (Value.string name).toTree = .ok { d with name := some (some name) } := by
  simp only [put, h, Option.isSome_none, Bool.false_eq_true, if_false, Value.toTree]
  rfl

theorem put_sequence (h : d.sequence = none) {n : Nat} (hn : n ≤ Number.maxWord) :
    d.put "s" (Value.ofNat n).toTree = .ok { d with sequence := some (some n) } := by
  have hread : readNullable Tree.word64? (Value.ofNat n).toTree = .ok (some n) := by
    simp only [readNullable, Value.optional_ofNat Tree.word64? n, Value.word64?_ofNat hn]
    rfl
  simp only [put, h, Option.isSome_none, Bool.false_eq_true, if_false, hread]
  rfl

theorem put_payload (h : d.payload = none) {v : Value} (hv : v.isSorted)
    (hdepth : v.depth ≤ maxDepth - 1) :
    d.put "d" v.toTree = .ok { d with payload := some v } := by
  simp only [put, h, Option.isSome_none, Bool.false_eq_true, if_false,
    Value.ofTree?_toTree v hv hdepth]
  rfl

theorem putMembers_cons {d' : Draft} {name : String} {t : Tree} {rest : Members}
    (h : d.put name t = .ok d') : d.putMembers ((some name, t) :: rest) = d'.putMembers rest := by
  change (d.put name t >>= fun d => d.putMembers rest) = _
  rw [h]
  rfl

end Draft

/-- The draft of what is written has all of the message. -/
theorem putMembers_toMembers (he : e.IsPlain) :
    Draft.empty.putMembers (Value.toMembers e.members) =
      .ok ⟨some e.op, e.name.map some, e.sequence.map some, some e.payload⟩ := by
  obtain ⟨op, name, sequence, payload⟩ := e
  have hop {rest : Members} : Draft.empty.putMembers ((some "op", (Value.ofNat op.code).toTree) ::
      rest) = Draft.putMembers { Draft.empty with op := some op } rest :=
    Draft.putMembers_cons (Draft.put_op rfl op)
  have hdepth : payload.depth ≤ maxDepth - 1 := Nat.le_pred_of_lt he.depth
  have hlast {d : Draft} (hd : d.payload = none) :
      d.putMembers [(some "d", payload.toTree)] = .ok { d with payload := some payload } :=
    Draft.putMembers_cons (Draft.put_payload hd he.payload.sorted hdepth)
  -- The operation comes first and the payload last, whichever of the two others there are.
  match name, sequence with
  | none, none => exact hop.trans (hlast rfl)
  | some name, none =>
    exact hop.trans ((Draft.putMembers_cons (Draft.put_name rfl name)).trans (hlast rfl))
  | none, some n =>
    exact hop.trans ((Draft.putMembers_cons (Draft.put_sequence rfl (he.sequence n rfl))).trans
      (hlast rfl))
  | some name, some n =>
    exact hop.trans ((Draft.putMembers_cons (Draft.put_name rfl name)).trans
      ((Draft.putMembers_cons (Draft.put_sequence rfl (he.sequence n rfl))).trans (hlast rfl)))

/-- A message is read from its own text as it is. -/
theorem read_write (he : e.IsPlain) : read e.write = .ok e := by
  simp only [read, write, Outline.read_text (isInteger_members he), putMembers_toMembers he]
  obtain ⟨op, name, sequence, payload⟩ := e
  cases name <;> cases sequence <;> rfl

/-! ## What is read -/

namespace Draft

/-- What a draft holds comes from a text: a word for a number, and a payload whose members are
    in order and that nests no deeper than a reader allows. -/
structure IsRead (d : Draft) : Prop where
  sequence : ∀ n, d.sequence = some (some n) → n ≤ Number.maxWord
  payload : ∀ v, d.payload = some v → v.isSorted ∧ v.depth ≤ maxDepth - 1

variable {d d' : Draft}

theorem isRead_empty : empty.IsRead := ⟨nofun, nofun⟩

theorem exists_of_bind_eq_ok {α β : Type} {x : Except DecodeError α}
    {f : α → Except DecodeError β} {b : β} (h : x >>= f = .ok b) : ∃ a, x = .ok a ∧ f a = .ok b := by
  cases x with
  | ok a => exact ⟨a, rfl, h⟩
  | error reason => cases h

theorem wellFormed_eq_ok {α : Type} {x : Option α} {a : α} (h : wellFormed x = .ok a) :
    x = some a := by
  cases x with
  | some b => cases h; rfl
  | none => cases h

theorem natural?_le {max n : Nat} {t : Tree} (h : t.natural? max = some n) : n ≤ max := by
  unfold Tree.natural? at h
  split at h
  · split at h
    · cases h
      omega
    · cases h
  · cases h

theorem le_maxWord_of_readNullable {t : Tree} {n : Nat}
    (h : readNullable Tree.word64? t = .ok (some n)) : n ≤ Number.maxWord := by
  have hread := wellFormed_eq_ok h
  unfold Field.optional at hread
  split at hread
  · cases hread
  · obtain ⟨m, hm, heq⟩ := Option.map_eq_some_iff.1 hread
    cases heq
    exact natural?_le hm
  · cases hread
  · cases hread

theorem IsRead.put (hd : d.IsRead) {name : String} {t : Tree} (h : d.put name t = .ok d') :
    d'.IsRead := by
  unfold Draft.put at h
  split at h
  · split at h
    · cases h
    · obtain ⟨op, -, heq⟩ := exists_of_bind_eq_ok h
      cases heq
      exact ⟨hd.sequence, hd.payload⟩
  · split at h
    · cases h
    · obtain ⟨name, -, heq⟩ := exists_of_bind_eq_ok h
      cases heq
      exact ⟨hd.sequence, hd.payload⟩
  · split at h
    · cases h
    · obtain ⟨n, hn, heq⟩ := exists_of_bind_eq_ok h
      cases heq
      refine ⟨fun m hm => ?_, hd.payload⟩
      rw [Option.some.inj hm] at hn
      exact le_maxWord_of_readNullable hn
  · split at h
    · cases h
    · obtain ⟨v, hv, heq⟩ := exists_of_bind_eq_ok h
      cases heq
      refine ⟨hd.sequence, fun w hw => Value.isSorted_of_ofTree? t ?_⟩
      rw [← Option.some.inj hw]
      exact wellFormed_eq_ok hv
  · cases h
    exact hd

theorem IsRead.putMembers (hd : d.IsRead) {members : Members}
    (h : d.putMembers members = .ok d') : d'.IsRead := by
  induction members generalizing d with
  | nil =>
    cases h
    exact hd
  | cons m rest ih =>
    obtain ⟨name, -, h⟩ := exists_of_bind_eq_ok h
    obtain ⟨next, hnext, h⟩ := exists_of_bind_eq_ok h
    exact ih (hd.put hnext) h

theorem IsRead.putItems (hd : d.IsRead) {names : List String} {items : List Tree}
    (h : d.putItems names items = .ok d') : d'.IsRead := by
  induction items generalizing d names with
  | nil =>
    unfold Draft.putItems at h
    cases h
    exact hd
  | cons t rest ih =>
    cases names with
    | nil => cases h
    | cons name names =>
      obtain ⟨next, hnext, h⟩ := exists_of_bind_eq_ok h
      exact ih (hd.put hnext) h

theorem IsRead.isPlain (hd : d.IsRead) (h : d.finish = .ok e) (he : e.payload.isInteger) :
    e.IsPlain := by
  unfold finish at h
  split at h
  · cases h
  · cases h
    have hpayload : (d.payload.getD .null).isSorted ∧
        (d.payload.getD .null).depth ≤ maxDepth - 1 := by
      cases hv : d.payload with
      | none => exact ⟨rfl, Nat.zero_le _⟩
      | some v => exact hd.payload v hv
    refine ⟨fun n hn => hd.sequence n ?_, ⟨he, hpayload.1⟩, Nat.add_le_of_le_sub ?_ hpayload.2⟩
    · cases hsequence : d.sequence with
      | none =>
        rw [hsequence] at hn
        cases hn
      | some m =>
        rw [hsequence] at hn
        exact congrArg some hn
    · decide

end Draft

/-- What is read is plain as soon as it has no fractions in it. -/
theorem isPlain_of_read {text : String} (h : read text = .ok e) (he : e.payload.isInteger) :
    e.IsPlain := by
  have hfinish {d : Draft} (hd : d.IsRead)
      (h : (if (Outline.read text).whole then d.finish else throw .malformed) = .ok e) :
      e.IsPlain := by
    split at h
    · exact hd.isPlain h he
    · cases h
  unfold read at h
  simp only at h
  split at h
  · obtain ⟨d, hd, h⟩ := Draft.exists_of_bind_eq_ok h
    exact hfinish (.putMembers Draft.isRead_empty hd) h
  · obtain ⟨d, hd, h⟩ := Draft.exists_of_bind_eq_ok h
    exact hfinish (.putItems Draft.isRead_empty hd) h
  · cases h

/-! ## Canonical texts -/

/-- A message without fractions is read from its own text as it is, so it is written the same
    when it is written again. Of whatever text a message was read, the message's own text is
    one that it is read from too, and no other message has that text. -/
theorem write_canonical :
    (∀ e : Envelope, e.IsPlain → read e.write = .ok e) ∧
    (∀ e e' : Envelope, e.IsPlain → read e.write = .ok e' → e'.write = e.write) ∧
    ∀ text e, read text = .ok e → e.payload.isInteger →
      read e.write = .ok e ∧
      ∀ text' e', read text' = .ok e' → e'.payload.isInteger → (e'.write = e.write ↔ e' = e) := by
  refine ⟨fun e he => read_write he, fun e e' he h => ?_, fun text e h he => ?_⟩
  · rw [read_write he] at h
    rw [Except.ok.inj h]
  · have hread := read_write (isPlain_of_read h he)
    refine ⟨hread, fun text' e' h' he' => ⟨fun hwrite => ?_, fun heq => by rw [heq]⟩⟩
    have hread' := read_write (isPlain_of_read h' he')
    rw [hwrite, hread] at hread'
    exact (Except.ok.inj hread').symm

/-- An event whose payload has names that are escaped, containers inside each other, and the
    least integer. -/
def escapedEvent : Envelope where
  op := .dispatch
  name := some "A\nB"
  sequence := some 18446744073709551615
  payload := .object [("\x01", .number (.int (-9223372036854775808))),
    ("\"é", .array [.null, .bool true, .object []])]

theorem isPlain_escapedEvent : escapedEvent.IsPlain :=
  ⟨by decide, ⟨by decide, by decide⟩, by decide⟩

/-- An event with members in their order. -/
def respelledEvent : Envelope where
  op := .dispatch
  name := none
  sequence := none
  payload := .object [("a", .number (.int 2)), ("b", .string "A")]

/-- The event in another spelling: the fields by their position, the members in another order
    and one of them twice, with blanks and with a letter by its number. -/
def respelling : String := "[0, null, null, \x7b\"b\": 1, \"a\": 2, \"b\": \"\\u0041\"\x7d]"

theorem read_respelling : read respelling = .ok respelledEvent := by cbv

theorem write_canonical_respelling :
    (escapedEvent.IsPlain ∧ read escapedEvent.write = .ok escapedEvent) ∧
    (read respelling = .ok respelledEvent ∧ respelledEvent.payload.isInteger ∧
      respelledEvent.write ≠ respelling ∧ read respelledEvent.write = .ok respelledEvent) ∧
    (escapedEvent.write = respelledEvent.write ↔ escapedEvent = respelledEvent) := by
  have hescaped := write_canonical.1 escapedEvent isPlain_escapedEvent
  obtain ⟨hread, hunique⟩ :=
    write_canonical.2.2 respelling respelledEvent read_respelling (by decide)
  exact ⟨⟨isPlain_escapedEvent, hescaped⟩, ⟨read_respelling, by decide, by decide, hread⟩,
    hunique escapedEvent.write escapedEvent hescaped (by decide)⟩

end Envelope

end GatewayClient
