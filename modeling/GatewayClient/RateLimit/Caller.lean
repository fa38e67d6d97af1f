import GatewayClient.RateLimit.Limiter
import GatewayClient.Schedule

/-!
# Callers

Several callers that wait at one limiter at the same time. A caller finds out its
bucket when it comes, and stays with it.

* `Caller.turn`: one turn of a caller for admission.
* `Slot.turn`: one turn of a caller for a handshake slot.
* `Limiter.acquireAll`, `Limiter.identifyAll`: callers that come at one instant.
-/

namespace GatewayClient

/-- A caller in the middle of its wait for admission. -/
structure Caller where
  /-- The bucket that it wants a token of. -/
  key : String
  /-- How often it may still ask. -/
  left : Nat
  /-- The last wait that it was given. -/
  lastWait : Duration
  deriving DecidableEq, Repr

/-- A caller for admission: one that comes, or one that has come. -/
inductive AdmissionTask where
  | comes (route : Route)
  | waits (caller : Caller)
  deriving DecidableEq, Repr

namespace Limiter

variable {σ : Type} (l : Limiter σ)

/-- One turn of a caller that knows its bucket. -/
def waitTurn (c : Caller) (now : Instant) (s : σ) :
    Turn AdmissionTask (Except RateLimitError String) × σ :=
  match c.left with
  | 0 => (.done (.error (.exhausted c.key l.config.maxAttempts c.lastWait)), s)
  | left + 1 =>
    match (l.attempt c.key).runAt now s with
    | (.error reason, s) => (.done (.error (.store reason)), s)
    | (.ok .granted, s) => (.done (.ok c.key), s)
    | (.ok (.wait d), s) => (.sleep (.waits ⟨c.key, left, d⟩) d, s)

/-- One turn of a caller for admission. -/
def admissionTurn (task : AdmissionTask) (now : Instant) (s : σ) :
    Turn AdmissionTask (Except RateLimitError String) × σ :=
  match task with
  | .comes route =>
    match (l.bucketKey route).runAt now s with
    | (.error reason, s) => (.done (.error (.store reason)), s)
    | (.ok key, s) => l.waitTurn ⟨key, l.config.maxAttempts, 0⟩ now s
  | .waits c => l.waitTurn c now s

/-- One turn of a shard that wants its handshake slot. -/
def identifyTurn (shard : Nat) (now : Instant) (s : σ) :
    Turn Nat (Except StoreError Unit) × σ :=
  match (l.tryIdentify shard).runAt now s with
  | (.error reason, s) => (.done (.error reason), s)
  | (.ok none, s) => (.done (.ok ()), s)
  | (.ok (some d), s) => (.sleep shard d, s)

/-- Callers for admission that come at one instant, until each has its answer. -/
def acquireAll (routes : List Route) (now : Instant) (s : σ) :
    List (Instant × Except RateLimitError String) × σ :=
  let turns := routes.length * (l.config.maxAttempts + 1)
  let (results, s, _) :=
    Schedule.run l.admissionTurn turns (routes.map fun r => (now, .comes r)) s
  (results, s)

/-- Shards that want their handshake slots from one instant on, in at most `turns`
    turns. -/
def identifyAll (turns : Nat) (shards : List Nat) (now : Instant) (s : σ) :
    List (Instant × Except StoreError Unit) × σ :=
  let (results, s, _) := Schedule.run l.identifyTurn turns (shards.map fun i => (now, i)) s
  (results, s)

end Limiter

end GatewayClient
