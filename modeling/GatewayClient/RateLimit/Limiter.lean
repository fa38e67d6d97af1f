import GatewayClient.RateLimit.Route
import GatewayClient.RateLimit.Store

/-!
# The rate limiter

A request is admitted when the whole account is not locked out and its bucket has
a token. Until then its caller sleeps and asks again, a bounded number of times.
The bucket is the one that the server has named for the request's route, or one
of the route's own as long as the server has named none.

Handshakes are spaced out as well: shards share a few slots, and a slot that is
taken stays so for a while.

* `Limiter.bucketKey`: where a route is accounted for.
* `Limiter.attempt`: one request for admission.
* `Limiter.update`: what a response reports is entered.
* `Limiter.acquire`: the whole wait of a caller that is alone.
-/

namespace GatewayClient

/-- How a limiter limits. -/
structure LimiterConfig where
  /-- How long a handshake slot stays taken. -/
  identifyCooldown : Duration := Duration.ofSeconds 6
  /-- The number of handshake slots. -/
  identifyConcurrency : Nat := 1
  /-- How often a caller asks before it gives up. -/
  maxAttempts : Nat := 64
  deriving DecidableEq, Repr

/-- Why a request was not admitted. -/
inductive RateLimitError where
  /-- The store failed. -/
  | store (reason : StoreError)
  /-- The caller has asked as often as it may. -/
  | exhausted (key : String) (attempts : Nat) (lastWait : Duration)
  deriving DecidableEq, Repr

/-- The reason for people, where the words are the client's own. -/
def RateLimitError.message? : RateLimitError → Option String
  | store reason => reason.message?.map fun m => s!"Rate limit store failure: {m}"
  | exhausted key attempts lastWait => some
      s!"Bucket {key} still exhausted after {attempts} waits (last wait {lastWait.text})"

/-- The configuration for people. -/
def LimiterConfig.text (c : LimiterConfig) : String :=
  "CoordinatorConfig \x7b identify_cooldown: " ++ c.identifyCooldown.text
    ++ ", identify_concurrency: " ++ toString c.identifyConcurrency
    ++ ", max_attempts: " ++ toString c.maxAttempts ++ " \x7d"

/-- A limiter on the accounts `σ`. -/
structure Limiter (σ : Type) where
  store : Store σ
  config : LimiterConfig

namespace Limiter

variable {σ : Type} (l : Limiter σ)

/-- The limiter for people. -/
def text : String := "RateLimitCoordinator \x7b config: " ++ l.config.text ++ " \x7d"

/-- The key under which a route is accounted for. -/
def bucketKey (route : Route) : StoreAction σ String := do
  return (← l.store.bucketOf route.key).getD route.key

/-- One request for admission to a bucket. A lockout comes before the bucket, and
    no token is taken during it. -/
def attempt (key : String) : StoreAction σ Admission := do
  match ← l.store.lockout with
  | some d => return .wait d
  | none => l.store.take key

/-- The key under which a report on a route is entered. A bucket that the server
    names is remembered for the route. -/
def reportKey (route : Route) (report : RateLimitReport) : StoreAction σ String := do
  match report.bucket with
  | some name =>
    if (← l.store.bucketOf route.key) ≠ some name then l.store.learnBucket route.key name
    return name
  | none => l.bucketKey route

/-- Enters a report under a key. -/
def enter (key : String) (report : RateLimitReport) : StoreAction σ Unit := do
  if let some u := report.update? then l.store.record key u
  if let some d := report.lockout? then l.store.lockOut d

/-- Enters what a response to a request on a route reports. -/
def update (route : Route) (report : RateLimitReport) : StoreAction σ Unit := do
  l.enter (← l.reportKey route report) report

/-- The handshake slot of a shard. -/
def slotOf (shard : Nat) : Nat := shard % max l.config.identifyConcurrency 1

/-- Tries to take the handshake slot of a shard; if it is held, says for how
    long. -/
def tryIdentify (shard : Nat) : StoreAction σ (Option Duration) :=
  l.store.trySlot (l.slotOf shard) l.config.identifyCooldown

/-- Up to `n` requests for admission, with a sleep after each that is put off.
    The answer comes with the instant at which the caller has it. -/
def acquireWithin (key : String) :
    Nat → Duration → Instant → σ → Except RateLimitError String × Instant × σ
  | 0, lastWait, now, s => (.error (.exhausted key l.config.maxAttempts lastWait), now, s)
  | n + 1, _, now, s =>
    match (l.attempt key).runAt now s with
    | (.error reason, s) => (.error (.store reason), now, s)
    | (.ok .granted, s) => (.ok key, now, s)
    | (.ok (.wait d), s) => acquireWithin key n d (now + d) s

/-- The wait for admission of a caller that is alone: the key of the bucket that
    admitted it, and when. -/
def acquire (route : Route) (now : Instant) (s : σ) :
    Except RateLimitError String × Instant × σ :=
  match (l.bucketKey route).runAt now s with
  | (.error reason, s) => (.error (.store reason), now, s)
  | (.ok key, s) => l.acquireWithin key l.config.maxAttempts 0 now s

end Limiter

end GatewayClient
