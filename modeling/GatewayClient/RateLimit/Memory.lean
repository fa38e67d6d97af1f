import GatewayClient.RateLimit.Store
import GatewayClient.Table

/-!
# Accounts in memory

The accounts of a single client. Its operations fail only where a deadline lies
beyond the clock. Then they change nothing, except that the tokens which a report
tells of a known bucket are entered before its deadline is.
-/

namespace GatewayClient

/-- The accounts of a single client. -/
structure MemoryAccounts where
  /-- What is known about the buckets, by key. -/
  buckets : Table String Bucket
  /-- The names that the server gave to the buckets of routes, by route key. -/
  names : Table String String
  /-- Until when each handshake slot is held. -/
  slots : Table Nat Instant
  /-- Until when the whole account is locked out. -/
  lockedUntil : Option Instant
  deriving Repr

namespace MemoryAccounts

/-- Accounts of which nothing is known. -/
def empty : MemoryAccounts := ⟨∅, ∅, ∅, none⟩

/-- The number of buckets of which something is known. -/
def bucketCount (m : MemoryAccounts) : Nat := m.buckets.size

/-- Takes a token. A bucket of which nothing is known admits and stays
    unknown. -/
def take (m : MemoryAccounts) (key : String) (now : Instant) : Admission × MemoryAccounts :=
  match m.buckets.get? key with
  | some b =>
    let (admission, b) := b.take now
    (admission, { m with buckets := m.buckets.insert key b })
  | none => (.granted, m)

/-- The bucket after a report. -/
def bucketAfter? (m : MemoryAccounts) (key : String) (u : BucketUpdate) (now : Instant) :
    Option Bucket :=
  match m.buckets.get? key with
  | some b => some (b.reported u now)
  | none => Bucket.ofUpdate? u now

/-- Enters a report. -/
def record (m : MemoryAccounts) (key : String) (u : BucketUpdate) (now : Instant) :
    MemoryAccounts :=
  match m.bucketAfter? key u now with
  | some b => { m with buckets := m.buckets.insert key b }
  | none => m

/-- How long the account is still locked out. A lockout that is over is
    forgotten. -/
def lockout (m : MemoryAccounts) (now : Instant) : Option Duration × MemoryAccounts :=
  match m.lockedUntil with
  | some deadline =>
    if now < deadline then (some (deadline - now), m) else (none, { m with lockedUntil := none })
  | none => (none, m)

/-- Locks the account out, unless a longer lockout is there already. -/
def lockOut? (m : MemoryAccounts) (d : Duration) (now : Instant) : Option MemoryAccounts :=
  (Instant.after? now d).map fun deadline =>
    if m.lockedUntil.all (· < deadline) then { m with lockedUntil := some deadline } else m

/-- Takes a handshake slot, or says how long it is still held. -/
def trySlot? (m : MemoryAccounts) (slot : Nat) (cooldown : Duration) (now : Instant) :
    Option (Option Duration × MemoryAccounts) :=
  match (m.slots.get? slot).filter (now < ·) with
  | some held => some (some (held - now), m)
  | none => (Instant.after? now cooldown).map fun free =>
      (none, { m with slots := m.slots.insert slot free })

/-- The operations as those of a store. -/
def store : Store MemoryAccounts where
  take key := .of fun now m => let (a, m) := m.take key now; (.ok a, m)
  record key u := .of fun now m =>
    (if (Instant.after? now u.resetAfter).isSome then .ok () else .error .clockOverflow,
      m.record key u now)
  lockout := .of fun now m => let (d, m) := m.lockout now; (.ok d, m)
  lockOut d := .of fun now m => match m.lockOut? d now with
    | some m => (.ok (), m)
    | none => (.error .clockOverflow, m)
  bucketOf key := .of fun _ m => (.ok (m.names.get? key), m)
  learnBucket key name := .of fun _ m => (.ok (), { m with names := m.names.insert key name })
  trySlot slot cooldown := .of fun now m => match m.trySlot? slot cooldown now with
    | some (held, m) => (.ok held, m)
    | none => (.error .clockOverflow, m)

end MemoryAccounts

end GatewayClient
