import GatewayClient.Json.Value

/-!
# Records in JSON

A record with named fields is written as an object, or as an array of the fields
in their order. In an object the members with other names are ignored, whatever
they hold, and a field must not occur twice. In an array there must be no
further items.

What an absent field means depends on the form: an optional field may be left
out of an object, but in an array only a field with a default may be left out,
and then all that follow it too.

* `Tree.fields`: what a tree gives for each field of a record.
* `Field.required`, `Field.optional`, `Field.withDefault`: reading one of them.
* `Tree.natural?`, `Tree.text?`, `Tree.flag?`: the scalar readers.
-/

namespace GatewayClient.Json

/-- What a record's text gives for one field. -/
inductive Field where
  /-- The field is written. -/
  | given (tree : Tree)
  /-- It is no member of the object. -/
  | leftOut
  /-- The array ends before it. -/
  | cutOff

namespace Field

/-- The value of a field that must be there. -/
def required {α : Type} (read : Tree → Option α) : Field → Option α
  | given t => read t
  | leftOut => none
  | cutOff => none

/-- The value of a field that stands for a default when it is absent. -/
def withDefault {α : Type} (default : α) (read : Tree → Option α) : Field → Option α
  | given t => read t
  | leftOut => some default
  | cutOff => some default

/-- The value of a field that may be `null` or, in an object, absent. -/
def optional {α : Type} (read : Tree → Option α) : Field → Option (Option α)
  | given .null => some none
  | given t => (read t).map some
  | leftOut => some none
  | cutOff => none

/-- The value of a field that may be `null` or absent in either form. -/
def optionalWithDefault {α : Type} (read : Tree → Option α) : Field → Option (Option α)
  | given .null => some none
  | given t => (read t).map some
  | leftOut => some none
  | cutOff => some none

end Field

namespace Tree

/-- The field with a name among an object's members. A member's name must have a
    value, and the field must occur at most once. -/
def memberField (name : String) (members : Members) : Option Field :=
  match members.filter (fun m => m.1 = some name) with
  | [] => some .leftOut
  | [(_, t)] => some (.given t)
  | _ => none

/-- The fields of a record in the order of `names`, or nothing if the tree is not
    a record with these fields. -/
def fields (names : List String) : Tree → Option (List Field)
  | .array items =>
    if names.length < items.length then none
    else some (items.map .given ++ List.replicate (names.length - items.length) .cutOff)
  | .object members =>
    if members.all fun m => m.1.isSome then names.mapM (memberField · members) else none
  | _ => none

/-- A natural number up to `max`, written as an integer. -/
def natural? (max : Nat) : Tree → Option Nat
  | .number (some (.int i)) => if 0 ≤ i ∧ i ≤ max then some i.toNat else none
  | _ => none

/-- A natural number in a byte. -/
def byte? : Tree → Option Nat := natural? (UInt8.size - 1)

/-- A natural number in 32 bits. -/
def word32? : Tree → Option Nat := natural? (UInt32.size - 1)

/-- A natural number in 64 bits. -/
def word64? : Tree → Option Nat := natural? (UInt64.size - 1)

/-- An integer in 64 bits with a sign. -/
def integer64? : Tree → Option Int
  | .number (some (.int i)) => if -Nat.pow 2 63 ≤ i ∧ i < Nat.pow 2 63 then some i else none
  | _ => none

/-- A string. -/
def text? : Tree → Option String
  | .string s => s
  | _ => none

/-- A truth value. -/
def flag? : Tree → Option Bool
  | .bool b => some b
  | _ => none

/-- A list whose items are read one by one. -/
def list? {α : Type} (read : Tree → Option α) : Tree → Option (List α)
  | .array items => items.mapM read
  | _ => none

/-- A pair written as an array of two. -/
def pair? {α : Type} (read : Tree → Option α) : Tree → Option (α × α)
  | .array [a, b] => do return (← read a, ← read b)
  | _ => none

end Tree

end GatewayClient.Json
