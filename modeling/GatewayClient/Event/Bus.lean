import GatewayClient.Event.Kind
import GatewayClient.Json.Value

/-!
# Listeners

Who wants to hear of which events. A bus is shared by all shards of a client; an
event reaches the listeners of its kind one after another, in the order in which
they were registered.
-/

namespace GatewayClient

/-- An event as listeners get it. -/
structure Event where
  /-- The kind of the event. -/
  kind : EventKind
  /-- Its sequence number. -/
  sequence : Option Nat
  /-- Its payload. -/
  data : Json.Value
  deriving BEq, Repr

/-- The registered listeners, the first one first. -/
structure Bus (Listener : Type) where
  /-- Each listener with the kind of events that it wants. -/
  registered : List (EventKind × Listener)

namespace Bus

variable {Listener : Type}

/-- A bus without listeners. -/
def empty : Bus Listener := ⟨[]⟩

/-- The bus with one more listener, which comes after all others. -/
def register (b : Bus Listener) (kind : EventKind) (listener : Listener) : Bus Listener :=
  ⟨b.registered ++ [(kind, listener)]⟩

/-- The listeners of a kind of events, in the order of their registration. -/
def listeners (b : Bus Listener) (kind : EventKind) : List Listener :=
  (b.registered.filter fun r => r.1 = kind).map Prod.snd

/-- The number of listeners of a kind of events. -/
def count (b : Bus Listener) (kind : EventKind) : Nat := (b.listeners kind).length

/-- The kinds of events that anyone wants. -/
def kinds (b : Bus Listener) : List EventKind := EventKind.all.filter fun k => 0 < b.count k

/-- The bus for people. -/
def text (b : Bus Listener) : String := s!"EventBus \x7b event_types: {b.kinds.length} \x7d"

theorem listeners_register (b : Bus Listener) (kind kind' : EventKind) (listener : Listener) :
    (b.register kind listener).listeners kind' =
      b.listeners kind' ++ if kind = kind' then [listener] else [] := by
  by_cases h : kind = kind' <;> simp [register, listeners, h]

end Bus

end GatewayClient
