import GatewayClient.Shard.Basic

/-!
# Monitoring

Each connection has a monitor, which sends the heartbeats. It first sleeps for a
random part of the interval, and then for the interval that was valid when the
last heartbeat was due. A heartbeat counts as sent at the instant at which it was
due. When the previous one has gone unacknowledged too long, or a heartbeat cannot
be sent, the connection is lost.

* `Shard.beat`: what happens when a heartbeat is due.
-/

namespace GatewayClient

/-- What a due heartbeat did. -/
structure BeatResult where
  shard : Shard
  sent : List (Connection × Sending)
  /-- When the next one is due, if the monitor goes on. -/
  next : Option Instant
  /-- Whether the shard is to connect again. -/
  reconnects : Bool

namespace Shard

/-- The monitor of a generation finds the connection lost. -/
def beatLoss (s : Shard) (generation : Nat) : BeatResult :=
  let (loss, s, sent) := s.lose generation none
  ⟨s, sent, none, loss.reconnects⟩

/-- What the monitor of a generation does when a heartbeat is due. -/
def beat (s : Shard) (generation : Nat) (isDelivered : Bool) (now : Instant) : BeatResult :=
  if s.generation ≠ generation then ⟨s, [], none, false⟩
  else
    match s.heartbeat.check now, s.sink with
    | .send, some c =>
      if isDelivered then
        ⟨{ s with heartbeat := s.heartbeat.recordSent now },
          [(c, .message (.heartbeat s.session.sequence))],
          some (now + s.heartbeat.interval), false⟩
      else s.beatLoss generation
    | _, _ => s.beatLoss generation

end Shard

end GatewayClient
