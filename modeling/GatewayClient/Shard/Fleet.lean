import GatewayClient.Shard.Manager
import GatewayClient.Shard.Operation

/-!
# Runs of a manager

The shards of a manager go on side by side. Each has its own connection, and what happens
to one of them does nothing to the others; but all share the bus, so that the calls of the
listeners form one log.

* `Manager.step`: something that happens to a manager.
* `Manager.run`: a sequence of it.
-/

namespace GatewayClient

/-- Something that happens to a manager. -/
inductive ManagerMove (Listener : Type) where
  /-- A listener is registered. -/
  | register (kind : EventKind) (listener : Listener)
  /-- Something happens to the shard with an index. -/
  | perform (index : Nat) (op : Operation)

/-- The listener that a move registers, with the kind of events that it wants. -/
def ManagerMove.registration? {Listener : Type} :
    ManagerMove Listener → Option (EventKind × Listener)
  | register kind listener => some (kind, listener)
  | perform _ _ => none

namespace Manager

variable {Listener : Type}

/-- One move: which listeners were called, and the manager after it. -/
def step (m : Manager Listener) : ManagerMove Listener → List (Call Listener) × Manager Listener
  | .register kind listener => ([], m.register kind listener)
  | .perform index op =>
    match m.shard? index with
    | none => ([], m)
    | some s =>
      let p := s.perform m.bus op
      (p.calls, { m with shards := m.shards.set index p.shard })

/-- Several moves, with the log of all calls. -/
def run (m : Manager Listener) :
    List (ManagerMove Listener) → List (Call Listener) × Manager Listener
  | [] => ([], m)
  | move :: rest =>
    let (calls, m) := m.step move
    let (log, m) := m.run rest
    (calls ++ log, m)

end Manager

end GatewayClient
