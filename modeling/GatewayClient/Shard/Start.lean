import GatewayClient.RateLimit.Handshakes
import GatewayClient.Shard.Attempt
import GatewayClient.Shard.Manager

/-!
# The start of all shards

A manager starts its shards at once: each of them attempts to connect, and those whose
attempts fail go on in the background. The waits for handshake slots space the attempts
out. Where the gateway greets a shard as soon as it has a connection, and takes every
message, an attempt is over when the wait is, and how it ends depends on that only.

* `Manager.started`: what has come of the attempts whose waits have ended.
* `Started.identifies`: whether a shard has asked for a new session.
-/

namespace GatewayClient

/-- What has come of a shard's attempt to connect. -/
structure Started where
  shard : Nat
  time : Instant
  /-- How the attempt has ended. A shard goes on in the background after a failure. -/
  result : Except ShardError Unit
  sent : List (Connection × Sending)

/-- Whether the shard has asked for a new session. -/
def Started.identifies (s : Started) : Bool :=
  s.sent.any fun (_, what) => match what with
    | .message e => e.op = .identify
    | .close _ => false

/-- A shard's first attempt at a gateway that greets it at once and takes every message,
    where waiting for the slot has ended in some way. -/
def Attempt.welcomed (greeting : Greeting) (slot : Except StoreError Unit) : Attempt where
  connection := some 0
  greeting
  slot := slot.mapError .store
  isDelivered := true

/-- What has come of the attempts of a manager's shards, in the order in which their waits
    for slots have ended. -/
def Manager.started {Listener : Type} (m : Manager Listener) (greeting : Nat → Greeting)
    (answers : List SlotAnswer) : List Started :=
  answers.filterMap fun a => (m.shard? a.shard).map fun s =>
    let attempted := s.connect (.welcomed (greeting a.shard) a.result)
    ⟨a.shard, a.time, attempted.result, attempted.sent⟩

end GatewayClient
