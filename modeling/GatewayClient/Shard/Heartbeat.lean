import GatewayClient.Time

/-!
# Heartbeats

A shard sends a heartbeat once an interval, and the gateway acknowledges it. A
connection whose last heartbeat has gone unacknowledged for a whole interval is
dead, even if nothing else says so.

* `Heartbeat.check`: whether to send the next heartbeat or to give up.
* `Heartbeat.latency`: how long the last acknowledgement took.
-/

namespace GatewayClient

/-- When heartbeats were sent and acknowledged on one connection. -/
structure Heartbeat where
  /-- The time from one heartbeat to the next. -/
  interval : Duration
  /-- When the last heartbeat was sent. -/
  sentAt : Option Instant
  /-- When the last acknowledgement came. -/
  ackedAt : Option Instant
  deriving DecidableEq, Repr

/-- What to do when a heartbeat is due. -/
inductive Pulse where
  /-- Send it. -/
  | send
  /-- Give up on the connection. -/
  | zombie
  deriving DecidableEq, Repr

namespace Heartbeat

/-- A new connection, on which nothing has been sent. -/
def fresh (interval : Duration) : Heartbeat := ⟨interval, none, none⟩

/-- Whether a heartbeat has been sent. -/
def hasSent (h : Heartbeat) : Bool := h.sentAt.isSome

/-- Whether the last heartbeat is acknowledged. -/
def isAcked (h : Heartbeat) : Bool :=
  match h.sentAt, h.ackedAt with
  | some sent, some acked => sent ≤ acked
  | _, _ => false

/-- What to do at an instant at which a heartbeat is due. -/
def check (h : Heartbeat) (now : Instant) : Pulse :=
  match h.sentAt with
  | some sent => if ! h.isAcked && h.interval ≤ now - sent then .zombie else .send
  | none => .send

/-- A heartbeat has been sent. -/
def recordSent (h : Heartbeat) (now : Instant) : Heartbeat := { h with sentAt := some now }

/-- An acknowledgement has come. -/
def recordAck (h : Heartbeat) (now : Instant) : Heartbeat := { h with ackedAt := some now }

/-- Another interval from now on; a heartbeat that is under way still counts. -/
def setInterval (h : Heartbeat) (interval : Duration) : Heartbeat := { h with interval }

/-- How long the acknowledgement of the last heartbeat took. -/
def latency (h : Heartbeat) : Option Duration :=
  match h.sentAt, h.ackedAt with
  | some sent, some acked => if sent ≤ acked then some (acked - sent) else none
  | _, _ => none

/-- Whether a delay before the first heartbeat is allowed. Shards wait a random
    part of an interval, so that those started together do not beat together. -/
def isFirstDelay (interval delay : Duration) : Bool := delay < interval || interval = 0

end Heartbeat

end GatewayClient
