import GatewayClient.Time

/-!
# Buckets

The server counts requests in windows: a bucket has so many tokens, each request
takes one, and at the end of the window all of them are back. A client keeps its
own count, since many requests may be under way at once: it takes a token before
it sends, and what a response reports can only lower the count of the window that
is open.

When a window ends before a response has told of the next one, the client starts
a window by itself. Its end is not known, and tokens taken in it count against
the window that the next response reports.

* `Bucket.take`: one request asks for a token.
* `Bucket.reported`: a response reports the state of the bucket.
-/

namespace GatewayClient

/-- The answer to a request that asks for a token. -/
inductive Admission where
  /-- It may be sent. -/
  | granted
  /-- It has to ask again later. -/
  | wait (d : Duration)
  deriving DecidableEq, Repr

/-- The state of a bucket as a response reports it. -/
structure BucketUpdate where
  /-- The tokens of a whole window. -/
  limit : Nat
  /-- The tokens that are left in this window. -/
  remaining : Nat
  /-- The time that is left in this window. -/
  resetAfter : Duration
  deriving DecidableEq, Repr

/-- What a client knows about a bucket. -/
structure Bucket where
  /-- The tokens of a whole window. -/
  limit : Nat
  /-- The tokens that are left. -/
  remaining : Nat
  /-- The end of the window, unless the client has started it by itself. -/
  resetAt : Option Instant
  deriving DecidableEq, Repr

/-- How long to wait in a window whose end is not known. -/
def pendingWait : Duration := Duration.ofMillis 250

namespace Bucket

/-- The bucket at an instant: after the end of its window the client starts the
    next one by itself. -/
def refill (b : Bucket) (now : Instant) : Bucket :=
  if b.resetAt.any (· ≤ now) then { b with remaining := b.limit, resetAt := none } else b

/-- The time until an empty bucket may have tokens again. -/
def waitAt (b : Bucket) (now : Instant) : Duration :=
  match b.resetAt with
  | some reset => reset - now
  | none => pendingWait

/-- One request asks for a token. -/
def take (b : Bucket) (now : Instant) : Admission × Bucket :=
  let b := b.refill now
  if 0 < b.remaining then (.granted, { b with remaining := b.remaining - 1 })
  else (.wait (b.waitAt now), b)

/-- Whether the window is open. One that the client has started by itself is. -/
def isOpen (b : Bucket) (now : Instant) : Bool := b.resetAt.all (now < ·)

/-- The tokens that are left after a report. Responses overtake each other, so
    in an open window none of the tokens taken comes back. -/
def remainingAfter (b : Bucket) (u : BucketUpdate) (now : Instant) : Nat :=
  if b.isOpen now then min u.remaining b.remaining else u.remaining

/-- The bucket after a report. The tokens are entered first: where the end of the
    window is beyond the clock, only that is left as it was. -/
def reported (b : Bucket) (u : BucketUpdate) (now : Instant) : Bucket :=
  { limit := u.limit
    remaining := b.remainingAfter u now
    resetAt := (Instant.after? now u.resetAfter).or b.resetAt }

/-- A bucket of which nothing was known before a report, unless the end of its
    window is beyond the clock. -/
def ofUpdate? (u : BucketUpdate) (now : Instant) : Option Bucket :=
  (Instant.after? now u.resetAfter).map fun reset =>
    { limit := u.limit, remaining := u.remaining, resetAt := some reset }

end Bucket

/-- What the headers of a response say about the limits. -/
structure RateLimitReport where
  /-- The tokens of a whole window. -/
  limit : Option Nat
  /-- The tokens that are left in this window. -/
  remaining : Option Nat
  /-- The time that is left in this window. -/
  resetAfter : Option Duration
  /-- The server's name for the bucket. -/
  bucket : Option String
  /-- Whether the limit of the whole account was hit. -/
  isGlobal : Bool
  /-- When to try again. -/
  retryAfter : Option Duration
  deriving DecidableEq, Repr

namespace RateLimitReport

/-- A report that says nothing. -/
def empty : RateLimitReport := ⟨none, none, none, none, false, none⟩

/-- The state of the bucket, if the report has all of it. -/
def update? (r : RateLimitReport) : Option BucketUpdate := do
  return ⟨← r.limit, ← r.remaining, ← r.resetAfter⟩

/-- How long no request may be sent at all, where the report says so. -/
def lockout? (r : RateLimitReport) : Option Duration :=
  if r.isGlobal then some (r.retryAfter.getD (Duration.ofSeconds 1)) else none

end RateLimitReport

end GatewayClient
