import GatewayClient.RateLimit.Bucket

/-!
# Stores

A store keeps the accounts of a rate limiter: the buckets, the names that the
server gave them, the lockout of the whole account, and who holds which
handshake slot. Each of its operations is one step that no other caller can
interrupt; it looks at the clock once, and it may fail.

A store is given by its operations on some state, so that a limiter can be run on
accounts in memory, on accounts that a server keeps for several clients, and on a
store that fails.
-/

namespace GatewayClient

/-- Why an operation of a store failed. -/
inductive StoreError where
  /-- A server is to keep the accounts, but no address is given. -/
  | noAddress
  /-- The address is none of a server that could keep them. -/
  | badAddress
  /-- The server cannot be reached. -/
  | unreachable
  /-- The server answered with an error, or not in the form that the operation
      has. -/
  | command
  /-- The store answered what it never should. -/
  | unexpectedReply (reply : String)
  /-- A deadline lies beyond the clock. -/
  | clockOverflow
  deriving DecidableEq, Repr

/-- The reason for people, where the words are the client's own. -/
def StoreError.message? : StoreError → Option String
  | noAddress => some "Failed to create Redis pool: redis backend selected without REDIS_URL"
  | badAddress => none
  | unreachable => none
  | command => none
  | unexpectedReply reply => some s!"Unexpected store reply: {reply}"
  | clockOverflow => none

/-- An operation on the accounts `σ` at one instant. What it has changed before
    it fails stays changed. -/
abbrev StoreAction (σ α : Type) := ReaderT Instant (ExceptT StoreError (StateM σ)) α

/-- The result of an operation at an instant, and the accounts after it. -/
def StoreAction.runAt {σ α : Type} (action : StoreAction σ α) (now : Instant) (s : σ) :
    Except StoreError α × σ :=
  (action.run now).run.run s

/-- An operation from what it does. -/
def StoreAction.of {σ α : Type} (f : Instant → σ → Except StoreError α × σ) : StoreAction σ α :=
  fun now => ExceptT.mk fun s => f now s

namespace StoreAction

variable {σ α β : Type}

@[simp] theorem runAt_of (f : Instant → σ → Except StoreError α × σ) (now : Instant) (s : σ) :
    (StoreAction.of f).runAt now s = f now s := rfl

@[simp] theorem runAt_pure (a : α) (now : Instant) (s : σ) :
    (pure a : StoreAction σ α).runAt now s = (.ok a, s) := rfl

@[simp] theorem runAt_throw (e : StoreError) (now : Instant) (s : σ) :
    (throw e : StoreAction σ α).runAt now s = (.error e, s) := rfl

/-- The second of two operations sees the accounts that the first one left, and is left
    out if that one failed. -/
theorem runAt_bind (action : StoreAction σ α) (next : α → StoreAction σ β) (now : Instant) (s : σ) :
    (action >>= next).runAt now s =
      match action.runAt now s with
      | (.ok a, s) => (next a).runAt now s
      | (.error e, s) => (.error e, s) := by
  have h : (action >>= next).runAt now s =
      ExceptT.bindCont (fun a => next a now) (action.runAt now s).1 (action.runAt now s).2 := rfl
  rw [h]
  rcases action.runAt now s with ⟨_ | _, _⟩ <;> rfl

theorem runAt_bind_of_ok {action : StoreAction σ α} {now : Instant} {s s' : σ} {a : α}
    (next : α → StoreAction σ β) (h : action.runAt now s = (.ok a, s')) :
    (action >>= next).runAt now s = (next a).runAt now s' := by
  rw [runAt_bind, h]

theorem runAt_bind_of_error {action : StoreAction σ α} {now : Instant} {s s' : σ} {e : StoreError}
    (next : α → StoreAction σ β) (h : action.runAt now s = (.error e, s')) :
    (action >>= next).runAt now s = (.error e, s') := by
  rw [runAt_bind, h]

@[simp] theorem runAt_map (f : α → β) (action : StoreAction σ α) (now : Instant) (s : σ) :
    (f <$> action).runAt now s = ((action.runAt now s).1.map f, (action.runAt now s).2) := by
  rw [map_eq_pure_bind, runAt_bind]
  rcases action.runAt now s with ⟨_ | _, _⟩ <;> rfl

end StoreAction

/-- The operations of a store on its accounts `σ`. -/
structure Store (σ : Type) where
  /-- Takes a token from a bucket. A bucket of which nothing is known admits. -/
  take : String → StoreAction σ Admission
  /-- Enters what a response reports about a bucket. -/
  record : String → BucketUpdate → StoreAction σ Unit
  /-- How long the whole account is still locked out, if it is. -/
  lockout : StoreAction σ (Option Duration)
  /-- Locks the whole account out; never shortens a lockout. -/
  lockOut : Duration → StoreAction σ Unit
  /-- The bucket that the server named for a route. -/
  bucketOf : String → StoreAction σ (Option String)
  /-- Enters the bucket that the server named for a route. -/
  learnBucket : String → String → StoreAction σ Unit
  /-- Takes a handshake slot for some time; if it is held, says for how long. -/
  trySlot : Nat → Duration → StoreAction σ (Option Duration)

end GatewayClient
