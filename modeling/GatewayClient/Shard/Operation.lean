import GatewayClient.Shard.Attempt
import GatewayClient.Shard.Monitor
import GatewayClient.Shard.Reader

/-!
# Runs of a shard

The life of a shard whose operations do not overlap: each one, whether the
application, the gateway or the clock causes it, ends before the next begins. Then
a shard has a reader and a monitor exactly while it is connected, and they are of
its current generation.

* `Shard.perform`: one operation.
* `Shard.run`: a sequence of them.
* `Shard.IsReachable`: the states that some sequence leads to.
-/

namespace GatewayClient

/-- Something that happens to a shard. -/
inductive Operation where
  /-- An attempt to connect, by the application or after a loss. -/
  | connect (a : Attempt)
  /-- The connection is dropped. -/
  | kill
  /-- The shard is shut down. -/
  | shutdown
  /-- Something comes on the connection. -/
  | inbound (i : Inbound) (now : Instant)
  /-- A heartbeat is due. -/
  | beat (isDelivered : Bool) (now : Instant)
  /-- The application shows a presence. -/
  | updatePresence (p : Presence) (isDelivered : Bool)

/-- What an operation did. -/
structure Performed (Listener : Type) where
  shard : Shard
  /-- Why it failed, if it did. -/
  result : Except ShardError Unit
  /-- The address that it went to, where it was an attempt to connect. -/
  dialed : Option String
  sent : List (Connection × Sending)
  calls : List (Call Listener)
  /-- Whether the shard is to connect again. -/
  reconnects : Bool

namespace Shard

variable {Listener : Type}

/-- An operation that did nothing. -/
def idle (s : Shard) (result : Except ShardError Unit) : Performed Listener :=
  ⟨s, result, none, [], [], false⟩

/-- One operation. What would come on a connection, or to its monitor, comes to
    nothing without one. -/
def perform (s : Shard) (bus : Bus Listener) : Operation → Performed Listener
  | .connect a =>
    let attempted := s.connect a
    ⟨attempted.shard, attempted.result, some attempted.dialed, attempted.sent, [], false⟩
  | .kill =>
    let (s, sent) := s.kill
    ⟨s, .ok (), none, sent, [], false⟩
  | .shutdown =>
    let (s, sent) := s.shutdown
    ⟨s, .ok (), none, sent, [], false⟩
  | .inbound i now =>
    if s.isConnected then
      let r := s.read bus s.generation i now
      ⟨r.shard, .ok (), none, r.sent, r.calls, r.reconnects⟩
    else s.idle (.ok ())
  | .beat isDelivered now =>
    if s.isConnected then
      let r := s.beat s.generation isDelivered now
      ⟨r.shard, .ok (), none, r.sent, [], r.reconnects⟩
    else s.idle (.ok ())
  | .updatePresence p isDelivered =>
    match s.updatePresence p isDelivered with
    | .ok sent => ⟨s, .ok (), none, sent, [], false⟩
    | .error reason => s.idle (.error reason)

/-- What a sequence of operations did, one by one, with the shard after them. -/
def run (s : Shard) (bus : Bus Listener) : List Operation → List (Performed Listener) × Shard
  | [] => ([], s)
  | op :: rest =>
    let p := s.perform bus op
    let (ps, s) := p.shard.run bus rest
    (p :: ps, s)

/-- The states of a shard that some sequence of operations leads to. -/
inductive IsReachable (bus : Bus Listener) (index : Nat) (config : ShardConfig) : Shard → Prop
  | new : IsReachable bus index config (Shard.new index config)
  | perform {s : Shard} (op : Operation) :
    IsReachable bus index config s → IsReachable bus index config (s.perform bus op).shard

end Shard

end GatewayClient
