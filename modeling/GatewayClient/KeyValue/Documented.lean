import GatewayClient.KeyValue.Command
import GatewayClient.Table

/-!
# What is documented of key-value servers

What is put under a key stays there until something else is, or until its lifetime is
over. Before that time the key is there, and after it the key is gone; in the very
millisecond in which the lifetime ends it may be either.

* `View`: how the keys of a server are seen in its state.
* `View.IsDocumented`: what a server does on each command.
-/

namespace GatewayClient

/-- What a key holds. -/
inductive Datum where
  | text (s : String)
  | record (fields : Table String String)
  deriving Repr

/-- A key's value and lifetime. -/
structure Entry where
  datum : Datum
  /-- The time at which the lifetime is over, if it ever is. -/
  expiry : Option Nat
  deriving Repr

/-- How the keys of a server are seen in its state. -/
structure View (σ : Type) where
  /-- What was put under a key last and not taken away since, be its lifetime over or
      not. -/
  holds : σ → String → Option Entry
  /-- Whether a key is still there in the millisecond in which its lifetime ends. -/
  lingers : String → Nat → Bool

/-- Whether a key can be given a lifetime at a time. The clock of a server is a signed
    word of 64 bits. -/
def IsLifetime (now lifetime : Nat) : Prop :=
  0 < lifetime ∧ Integer.Fits ((now : Int) + lifetime)

instance (now lifetime : Nat) : Decidable (IsLifetime now lifetime) :=
  inferInstanceAs (Decidable (_ ∧ _))

namespace View

variable {σ : Type} (view : View σ)

/-- Whether what was put under a key is there at a time. -/
def isThere (key : String) (now : Nat) (e : Entry) : Bool :=
  e.expiry.all fun x => now < x || (now = x && view.lingers key x)

/-- What a key holds at a time. -/
def find? (s : σ) (key : String) (now : Nat) : Option Entry :=
  (view.holds s key).filter (view.isThere key now)

/-! ## Replies -/

/-- The answer to the question for a text. -/
def textReply : Option Entry → Reply
  | none => .absent
  | some ⟨.text s, _⟩ => .text s
  | some ⟨.record _, _⟩ => .refused .wrongKind

/-- How long a key has left: -1 if it has no end, and -2 if it is not there. -/
def left (now : Nat) : Option Entry → Int
  | none => -2
  | some ⟨_, none⟩ => -1
  | some ⟨_, some x⟩ => x - now

/-- The record under a key; one without fields if the key is not there. -/
def record? : Option Entry → Option (Table String String)
  | none => some ∅
  | some ⟨.record fields, _⟩ => some fields
  | some ⟨.text _, _⟩ => none

/-- The answer to the question for some fields. -/
def fieldsReply (names : List String) (fields : Table String String) : Reply :=
  .list (names.map fun name => (fields.get? name).elim .absent .text)

/-- A record with some fields set. -/
def withFields (fields : Table String String) (changes : List (String × String)) :
    Table String String :=
  changes.foldl (fun t c => t.insert c.1 c.2) fields

/-! ## Commands -/

variable (execute : Execution σ)

/-- A command is answered so, and its key holds this afterwards. -/
def Does (c : Command) (now : Nat) (s : σ) (reply : Reply) (after : Option Entry) : Prop :=
  (execute c now s).1 = reply ∧ view.holds (execute c now s).2 c.key = after

/-- What is documented of the commands. -/
structure IsDocumented : Prop where
  /-- A command changes nothing but its key. -/
  others : ∀ c now s key, key ≠ c.key →
    view.holds (execute c now s).2 key = view.holds s key
  get : ∀ key now s,
    view.Does execute (.get key) now s (textReply (view.find? s key now)) (view.holds s key)
  set : ∀ key value lifetime now s, IsLifetime now lifetime →
    view.Does execute (.set key value lifetime) now s (.status "OK")
      (some ⟨.text value, some (now + lifetime)⟩)
  set_refused : ∀ key value lifetime now s, ¬ IsLifetime now lifetime →
    view.Does execute (.set key value lifetime) now s (.refused .badLifetime) (view.holds s key)
  setNew : ∀ key value lifetime now s, IsLifetime now lifetime → view.find? s key now = none →
    view.Does execute (.setNew key value lifetime) now s (.status "OK")
      (some ⟨.text value, some (now + lifetime)⟩)
  /-- A key that is there is left alone. -/
  setNew_found : ∀ key value lifetime now s e, IsLifetime now lifetime →
    view.find? s key now = some e →
      view.Does execute (.setNew key value lifetime) now s .absent (view.holds s key)
  setNew_refused : ∀ key value lifetime now s, ¬ IsLifetime now lifetime →
    view.Does execute (.setNew key value lifetime) now s (.refused .badLifetime)
      (view.holds s key)
  timeLeft : ∀ key now s,
    view.Does execute (.timeLeft key) now s (.integer (left now (view.find? s key now)))
      (view.holds s key)
  fields : ∀ key names now s fields, record? (view.find? s key now) = some fields →
    view.Does execute (.fields key names) now s (fieldsReply names fields) (view.holds s key)
  fields_refused : ∀ key names now s, record? (view.find? s key now) = none →
    view.Does execute (.fields key names) now s (.refused .wrongKind) (view.holds s key)
  /-- The answer is how many fields are new. The lifetime stays as it is. -/
  setFields : ∀ key changes now s fields, record? (view.find? s key now) = some fields →
    view.Does execute (.setFields key changes) now s
      (.integer ((withFields fields changes).size - fields.size))
      (some ⟨.record (withFields fields changes), (view.find? s key now).bind (·.expiry)⟩)
  setFields_refused : ∀ key changes now s, record? (view.find? s key now) = none →
    view.Does execute (.setFields key changes) now s (.refused .wrongKind) (view.holds s key)
  keep : ∀ key lifetime now s e, IsLifetime now lifetime → view.find? s key now = some e →
    view.Does execute (.keep key lifetime) now s (.integer 1)
      (some { e with expiry := some (now + lifetime) })
  /-- A key that has no time left is taken away. -/
  keep_zero : ∀ key (now : Nat) s e, Integer.Fits now → view.find? s key now = some e →
    view.Does execute (.keep key 0) now s (.integer 1) none
  keep_absent : ∀ key (lifetime now : Nat) s, Integer.Fits ((now : Int) + lifetime) →
    view.find? s key now = none →
      view.Does execute (.keep key lifetime) now s (.integer 0) (view.holds s key)
  keep_refused : ∀ key (lifetime now : Nat) s, ¬ Integer.Fits ((now : Int) + lifetime) →
    view.Does execute (.keep key lifetime) now s (.refused .badLifetime) (view.holds s key)

end View

end GatewayClient
