import GatewayClient.Gateway.OpCode
import GatewayClient.Json.Record

/-!
# Message envelopes

Every message is an envelope: an operation, for events a name and a sequence
number, and a payload. It is written as an object with these four members in the
order `op`, `t`, `s`, `d`; name and number are left out when there are none, the
payload is always there.

An envelope is read in the order in which its text gives the fields, and the
first fault decides. An operation code that is a byte but belongs to no
operation is a fault of its own; all others say only that the text is malformed.

* `Envelope.write`, `Envelope.read`: the text of an envelope and back.
-/

namespace GatewayClient

open Json

/-- A gateway message. -/
structure Envelope where
  /-- What the message is. -/
  op : OpCode
  /-- The name of the event. -/
  name : Option String
  /-- The sequence number of the event. -/
  sequence : Option Nat
  /-- The payload, `null` if there is none. -/
  payload : Value
  deriving BEq, Repr

/-- Why a text is no message. -/
inductive DecodeError where
  /-- The text does not have the form of the message. -/
  | malformed
  /-- The operation code belongs to no operation. -/
  | unknownOp (code : Nat)
  deriving DecidableEq, Repr

/-- The reason, where it is the client's own. -/
def DecodeError.reason? : DecodeError → Option String
  | malformed => none
  | unknownOp n => some s!"invalid op code: {n}"

namespace Envelope

/-- A message that carries only a payload. -/
def ofPayload (op : OpCode) (payload : Value) : Envelope := ⟨op, none, none, payload⟩

/-- The message with operation, name and number for people. -/
def description (e : Envelope) : String :=
  match e.name, e.sequence with
  | some t, some s => s!"GatewayMessage(op={e.op.text}, t={t}, s={s})"
  | some t, none => s!"GatewayMessage(op={e.op.text}, t={t})"
  | none, _ => s!"GatewayMessage(op={e.op.text})"

/-- The members of the object that an envelope is written as. -/
def members (e : Envelope) : List (String × Value) :=
  [("op", .ofNat e.op.code)]
    ++ (e.name.map fun t => ("t", Value.string t)).toList
    ++ (e.sequence.map fun s => ("s", Value.ofNat s)).toList
    ++ [("d", e.payload)]

/-- The text of an envelope. -/
def write (e : Envelope) : String := (Value.object e.members).text

/-- The fields of an envelope as far as they have been read. -/
structure Draft where
  op : Option OpCode
  name : Option (Option String)
  sequence : Option (Option Nat)
  payload : Option Value

namespace Draft

/-- Nothing read yet. -/
def empty : Draft := ⟨none, none, none, none⟩

/-- A reading that may fail only as malformed. -/
def wellFormed {α : Type} : Option α → Except DecodeError α
  | some a => .ok a
  | none => .error .malformed

/-- An operation code: a byte that belongs to an operation. -/
def readOp (t : Tree) : Except DecodeError OpCode := do
  let n ← wellFormed t.byte?
  match OpCode.ofCode? n with
  | some op => return op
  | none => throw (.unknownOp n)

/-- A field that may be `null`. -/
def readNullable {α : Type} (read : Tree → Option α) (t : Tree) :
    Except DecodeError (Option α) :=
  wellFormed ((Field.given t).optional read)

/-- The draft with one more entry. A field must not come twice, and a name that
    is no field's is passed over. -/
def put (d : Draft) (name : String) (t : Tree) : Except DecodeError Draft :=
  match name with
  | "op" => if d.op.isSome then throw .malformed else do
      return { d with op := some (← readOp t) }
  | "t" => if d.name.isSome then throw .malformed else do
      return { d with name := some (← readNullable Tree.text? t) }
  | "s" => if d.sequence.isSome then throw .malformed else do
      return { d with sequence := some (← readNullable Tree.word64? t) }
  | "d" => if d.payload.isSome then throw .malformed else do
      return { d with payload := some (← wellFormed (Value.ofTree? (maxDepth - 1) t)) }
  | _ => return d

/-- The draft with the members of an object, in their order. -/
def putMembers (d : Draft) : Members → Except DecodeError Draft
  | [] => return d
  | (name, t) :: rest => do
    let name ← wellFormed name
    (← d.put name t).putMembers rest

/-- The draft with the items of an array, which stand for the fields in their
    order; there must be no more items than fields. -/
def putItems (d : Draft) : List String → List Tree → Except DecodeError Draft
  | _, [] => return d
  | [], _ :: _ => throw .malformed
  | name :: names, t :: rest => do (← d.put name t).putItems names rest

/-- The envelope, if nothing that it needs is missing. -/
def finish (d : Draft) : Except DecodeError Envelope :=
  match d.op with
  | none => throw .malformed
  | some op => return {
      op
      name := d.name.getD none
      sequence := d.sequence.getD none
      payload := d.payload.getD .null }

end Draft

/-- The envelope that a text writes. -/
def read (text : String) : Except DecodeError Envelope := do
  let outline := Outline.read text
  let draft ← match outline.entries with
    | .byName members => Draft.empty.putMembers members
    | .byPosition items => Draft.empty.putItems ["op", "t", "s", "d"] items
    | .none => throw .malformed
  if outline.whole then draft.finish else throw .malformed

end Envelope

end GatewayClient
