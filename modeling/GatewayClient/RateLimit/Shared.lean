import GatewayClient.KeyValue.Command
import GatewayClient.RateLimit.Store

/-!
# Accounts on a server

The accounts of several clients that share a limit, kept on a key-value server.
What has to happen in one step is a script. The server counts in milliseconds of
the wall clock, so durations lose what is less than that, a deadline is a signed
word of 64 bits that goes around, and scripts compute with binary64 numbers.

* `SharedAccounts.takeToken`, `SharedAccounts.report`, `SharedAccounts.extend`:
  the scripts.
* `SharedAccounts.store`: the store, given by what carries out its commands.
-/

namespace GatewayClient.SharedAccounts

/-! ## Keys and lifetimes -/

/-- The key of a bucket. -/
def bucketKey (key : String) : String := "ratelimit:bucket:" ++ key

/-- The key of the name that the server of the application gave to the bucket of a
    route. -/
def nameKey (route : String) : String := "ratelimit:hash:" ++ route

/-- The key of a handshake slot. -/
def slotKey (slot : Nat) : String := "ratelimit:identify:" ++ String.ofList (Nat.toDigits 10 slot)

/-- The key of the lockout of the whole account. -/
def lockoutKey : String := "ratelimit:global"

/-- The milliseconds for which a bucket is kept after the end of its window. -/
def idleTime : Nat := 10 * 60 * 1000

/-- The milliseconds for which the name of a bucket is kept: a day. -/
def nameTime : Nat := 24 * 60 * 60 * 1000

/-- The whole milliseconds of a duration, as far as a word of 64 bits goes. -/
def millis (d : Duration) : Nat := min d.millis (UInt64.size - 1)

/-! ## Scripts -/

section Scripts

open Binary64 (roundInt)

variable {σ : Type} (execute : Execution σ)

/-- A number as a field holds it. -/
def digits (n : Int) : String := String.ofList (Integer.text n)

/-- A number that a script computed, as a reply has it: a signed word of 64 bits, the
    least one for a number that is none. -/
def word (n : Int) : Int := if Integer.Fits n then n else -Nat.pow 2 63

/-- Takes one of the tokens that are left. Answers whether there was one, and if not the
    milliseconds to wait; when the window ends is not known if `reset` is 0. -/
def spend (key : String) (left : Option String) (reset now : Int) (pending : Nat) :
    ServerAction σ Reply := do
  let remaining ← ServerAction.number left
  if 0 < remaining then
    ServerAction.tell execute (.setFields key [("remaining", digits (roundInt (remaining - 1)))])
    return .list [.integer 1, .integer 0]
  else
    let wait := if reset = 0 then roundInt pending else roundInt (reset - now)
    return .list [.integer 0, .integer (word wait)]

/-- Takes a token from a bucket. A bucket of which nothing is known admits. After the
    end of its window, `reset_at`, a bucket has all its tokens again and `reset_at` is 0
    until a response tells of the next window. -/
def takeToken (key : String) (now : Int) (pending : Nat) : ServerAction σ Reply := do
  let state ← ServerAction.command execute (.fields key ["limit", "remaining", "reset_at"])
  match state.textAt? 0 with
  | none => return .list [.integer 1, .integer 0]
  | some limit =>
    let now := roundInt now
    let reset ← ServerAction.number (state.textAt? 2)
    if 0 < reset ∧ reset ≤ now then
      ServerAction.tell execute (.setFields key [("reset_at", digits 0)])
      spend execute key (some limit) 0 now pending
    else spend execute key (state.textAt? 1) reset now pending

/-- Sets the fields of a bucket and its lifetime. -/
def enter (key : String) (limit : Nat) (left resetAt : Int) (lifetime : Nat) :
    ServerAction σ Reply := do
  ServerAction.tell execute <| .setFields key
    [("limit", digits limit), ("remaining", digits left), ("reset_at", digits resetAt)]
  ServerAction.tell execute (.keep key lifetime)
  return .integer (word left)

/-- Enters the state of a bucket. While its window is open none of the tokens taken
    comes back. -/
def report (key : String) (limit remaining : Nat) (resetAt now : Int) (lifetime : Nat) :
    ServerAction σ Reply := do
  let state ← ServerAction.command execute (.fields key ["remaining", "reset_at"])
  let reset := ((state.textAt? 1).bind fun s => Integer.ofText? s.toList).map roundInt
  if (state.textAt? 0).isSome && reset.any fun r => r = 0 || roundInt now < r then
    let known ← ServerAction.number (state.textAt? 0)
    enter execute key limit (min (roundInt remaining) known) resetAt lifetime
  else enter execute key limit (roundInt remaining) resetAt lifetime

/-- Puts a mark under a key, unless it stays there longer already. -/
def extend (key : String) (lifetime : Nat) : ServerAction σ Reply := do
  let left ← ServerAction.integer (← ServerAction.command execute (.timeLeft key))
  if left < roundInt lifetime then
    ServerAction.tell execute (.set key "1" lifetime)
  return .integer 1

end Scripts

/-! ## The store -/

variable {σ : Type} (execute : Execution σ) (epoch : Nat)

/-- A step on the server, which may depend on the wall clock, and what its answer says.
    The wall clock shows `epoch` when the clock of the client starts. -/
def ask {α : Type} (read : Reply → Option α) (c : Nat → ServerAction σ Reply) : StoreAction σ α :=
  .of fun now s =>
    let wall := epoch + Duration.millis now
    match (c wall).run wall s with
    | (.ok reply, s) => ((read reply).elim (.error .command) .ok, s)
    | (.error _, s) => (.error .command, s)

/-- The admission that a reply to `takeToken` stands for. -/
def admission (taken wait : Int) : Admission :=
  if taken = 1 then .granted else .wait (Duration.ofMillis wait.toNat)

/-- How long to wait for a slot whose mark has some milliseconds left. A mark that is
    gone by now can be set at once; one without an end is waited for like a new
    one. -/
def slotWait (left : Int) (cooldown : Duration) : Duration :=
  if left = -1 then cooldown else Duration.ofMillis left.toNat

/-- The operations on the accounts. -/
def store : Store σ where
  take key := do
    let (taken, wait) ← ask epoch Reply.integers? fun wall =>
      takeToken execute (bucketKey key) wall (millis pendingWait)
    return admission taken wait
  record key u := do
    let left := millis u.resetAfter
    let _ ← ask epoch Reply.integer? fun wall =>
      report execute (bucketKey key) u.limit u.remaining (Int.bmod (wall + left) UInt64.size) wall
        ((left + idleTime) % UInt64.size)
  lockout := do
    let left ← ask epoch Reply.integer? fun _ => .command execute (.timeLeft lockoutKey)
    return if 0 < left then some (Duration.ofMillis left.toNat) else none
  lockOut d := do
    let _ ← ask epoch Reply.integer? fun _ => extend execute lockoutKey (max (millis d) 1)
  bucketOf route :=
    ask epoch Reply.optionalText? fun _ => .command execute (.get (nameKey route))
  learnBucket route name :=
    ask epoch Reply.done? fun _ => .command execute (.set (nameKey route) name nameTime)
  trySlot slot cooldown := do
    let key := slotKey slot
    match ← ask epoch Reply.optionalText? fun _ =>
        .command execute (.setNew key "1" (max (millis cooldown) 1)) with
    | some word =>
      if word = "OK" then return none
      else throw (.unexpectedReply s!"SET NX on {key} returned {word}")
    | none =>
      let left ← ask epoch Reply.integer? fun _ => .command execute (.timeLeft key)
      return some (slotWait left cooldown)

end GatewayClient.SharedAccounts
