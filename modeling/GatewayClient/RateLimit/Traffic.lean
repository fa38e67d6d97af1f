import GatewayClient.RateLimit.Caller
import GatewayClient.RateLimit.Memory

/-!
# Traffic

Many requests that wait at one limiter at the same time, and many responses that
are entered meanwhile. Each is a task, by the point that it has reached; what a
task does to the accounts is one operation of the store, and tasks take their
steps in any order. Others may use the store as well.

A task is given by what it asks the store for next (`LimiterTask.ask`) and by how
it goes on with the answer (`LimiterTask.resume`), so that all that happens to the
accounts is known from the operation alone.

* `Store.perform`: one operation of a store; `Store.after`, `Store.answers`: several.
* `Traffic.step`: one step of the whole, as a `LimiterMove` chooses it.
* `LimiterTask.settle`: the steps of a task that nobody interrupts.
-/

namespace GatewayClient

/-- An operation of a store. -/
inductive StoreCall where
  | take (key : String)
  | record (key : String) (u : BucketUpdate)
  | lockout
  | lockOut (d : Duration)
  | bucketOf (key : String)
  | learnBucket (key name : String)
  | trySlot (slot : Nat) (cooldown : Duration)
  deriving DecidableEq, Repr

/-- What an operation of a store answers. -/
inductive StoreReply where
  | admission (a : Admission)
  | entered
  | lockedFor (d : Option Duration)
  | name (name : Option String)
  | heldFor (d : Option Duration)
  deriving DecidableEq, Repr

/-- One operation of a store. -/
def Store.perform {σ : Type} (store : Store σ) : StoreCall → StoreAction σ StoreReply
  | .take key => do return .admission (← store.take key)
  | .record key u => do store.record key u; return .entered
  | .lockout => do return .lockedFor (← store.lockout)
  | .lockOut d => do store.lockOut d; return .entered
  | .bucketOf key => do return .name (← store.bucketOf key)
  | .learnBucket key name => do store.learnBucket key name; return .entered
  | .trySlot slot cooldown => do return .heldFor (← store.trySlot slot cooldown)

/-- An operation of a store and the instant at which it is performed. -/
structure TimedCall where
  time : Instant
  call : StoreCall
  deriving DecidableEq, Repr

namespace Store

variable {σ : Type} (store : Store σ)

/-- The accounts after some operations, one after the other. -/
def after : List TimedCall → σ → σ
  | [], s => s
  | c :: rest, s => after rest ((store.perform c.call).runAt c.time s).2

/-- The answers to some operations, one after the other. -/
def answers : List TimedCall → σ → List (Except StoreError StoreReply)
  | [], _ => []
  | c :: rest, s =>
    ((store.perform c.call).runAt c.time s).1 ::
      answers rest ((store.perform c.call).runAt c.time s).2

end Store

/-- What can be seen of a step. -/
inductive LimiterNote where
  /-- A request was admitted to a bucket. -/
  | admitted (key : String)
  /-- A request was given up. -/
  | refused (reason : RateLimitError)
  /-- A response was entered, or could not be. -/
  | entered (result : Except StoreError Unit)

/-- Whether a request was admitted to the bucket with a key. -/
def LimiterNote.isAdmission (key : String) : LimiterNote → Bool
  | admitted k => k = key
  | _ => false

/-- A task at a limiter, by the point that it has reached. -/
inductive LimiterTask where
  /-- A request on a route has come. -/
  | coming (route : Route)
  /-- A caller is about to look whether the account is locked out. -/
  | looking (c : Caller)
  /-- A caller is about to ask for a token. -/
  | taking (c : Caller)
  /-- A caller sleeps. -/
  | asleep (c : Caller) (wake : Instant)
  /-- A response is about to be entered. -/
  | responding (route : Route) (report : RateLimitReport)
  /-- The bucket that a response names is about to be remembered. -/
  | learning (route : Route) (name : String) (report : RateLimitReport)
  /-- The state that a response reports is about to be entered. -/
  | recording (key : String) (report : RateLimitReport)
  /-- The lockout that a response reports is about to be entered. -/
  | locking (report : RateLimitReport)
  deriving DecidableEq, Repr

/-- A caller that was put off. -/
def Caller.putOff (c : Caller) (d : Duration) : Caller := ⟨c.key, c.left - 1, d⟩

namespace LimiterTask

/-- What a task has become, and what could be seen. -/
abbrev Outcome := Option LimiterTask × List LimiterNote

/-- What a task asks the store for next. -/
def ask : LimiterTask → Option StoreCall
  | coming route => some (.bucketOf route.key)
  | looking c => if c.left = 0 then none else some .lockout
  | taking c => some (.take c.key)
  | asleep _ _ => none
  | responding route _ => some (.bucketOf route.key)
  | learning route name _ => some (.learnBucket route.key name)
  | recording key report => report.update?.map (.record key)
  | locking report => report.lockout?.map .lockOut

/-- How a task goes on with the store's answer. Nothing stands for an answer to
    something else. -/
def resume (config : LimiterConfig) (now : Instant) : LimiterTask → StoreReply → Option Outcome
  | coming route, .name known =>
    some (some (.looking ⟨known.getD route.key, config.maxAttempts, 0⟩), [])
  | looking c, .lockedFor none => some (some (.taking c), [])
  | looking c, .lockedFor (some d) => some (some (.asleep (c.putOff d) (now + d)), [])
  | taking c, .admission .granted => some (none, [.admitted c.key])
  | taking c, .admission (.wait d) => some (some (.asleep (c.putOff d) (now + d)), [])
  | responding route report, .name known =>
    match report.bucket with
    | some name =>
      some (some (if known = some name then .recording name report
        else .learning route name report), [])
    | none => some (some (.recording (known.getD route.key) report), [])
  | learning _ name report, .entered => some (some (.recording name report), [])
  | recording _ report, .entered => some (some (.locking report), [])
  | locking _, .entered => some (none, [.entered (.ok ())])
  | _, _ => none

/-- How a task goes on that asks the store for nothing. -/
def proceed (config : LimiterConfig) (now : Instant) : LimiterTask → Option Outcome
  | looking c => some (none, [.refused (.exhausted c.key config.maxAttempts c.lastWait)])
  | asleep c wake => if wake ≤ now then some (some (.looking c), []) else none
  | recording _ report => some (some (.locking report), [])
  | locking _ => some (none, [.entered (.ok ())])
  | _ => none

/-- What is seen of a task that ends because the store fails. -/
def failure (reason : StoreError) : LimiterTask → LimiterNote
  | coming _ | looking _ | taking _ | asleep _ _ => .refused (.store reason)
  | _ => .entered (.error reason)

variable {σ : Type} (l : Limiter σ)

/-- A step of a task. Nothing stands for a task that has to sleep. -/
def step (now : Instant) (s : σ) (t : LimiterTask) : Option (Outcome × σ) :=
  match t.ask with
  | some call =>
    match (l.store.perform call).runAt now s with
    | (.ok reply, s) => (t.resume l.config now reply).map fun o => (o, s)
    | (.error reason, s) => some ((none, [t.failure reason]), s)
  | none => (t.proceed l.config now).map fun o => (o, s)

/-- Up to so many steps of a task that nobody interrupts, until it ends or sleeps. -/
def settle (now : Instant) : Nat → LimiterTask → σ → Outcome × σ
  | 0, t, s => ((some t, []), s)
  | _, asleep c wake, s => ((some (.asleep c wake), []), s)
  | n + 1, t, s =>
    match t.step l now s with
    | some ((some t, _), s) => settle now n t s
    | some r => r
    | none => ((some t, []), s)

/-- What a turn of a caller comes to for the task that takes it. -/
def ofTurn (now : Instant) : Turn AdmissionTask (Except RateLimitError String) → Outcome
  | .done (.ok key) => (none, [.admitted key])
  | .done (.error reason) => (none, [.refused reason])
  | .sleep (.comes route) _ => (some (.coming route), [])
  | .sleep (.waits c) d => (some (.asleep c (now + d)), [])

end LimiterTask

/-- A limiter on the accounts `σ` with all its tasks. -/
structure Traffic (σ : Type) where
  accounts : σ
  now : Instant
  tasks : List LimiterTask
  /-- What could be seen so far, the last first. -/
  log : List LimiterNote

/-- What happens next. -/
inductive LimiterMove where
  /-- A request on a route comes. -/
  | request (route : Route)
  /-- A response to a request on a route comes. -/
  | response (route : Route) (report : RateLimitReport)
  /-- A task takes a step. -/
  | step (task : Nat)
  /-- Someone else uses the store. -/
  | perform (call : StoreCall)
  /-- Time passes. -/
  | advance (d : Duration)
  deriving DecidableEq, Repr

/-- What is seen of an operation that someone else performs: a token that is taken
    counts as a request that was admitted. -/
def StoreCall.notes : StoreCall → Except StoreError StoreReply → List LimiterNote
  | .take key, .ok (.admission .granted) => [.admitted key]
  | _, _ => []

namespace Traffic

variable {σ : Type} (l : Limiter σ)

/-- The operation of the store that a move makes. -/
def call? (y : Traffic σ) : LimiterMove → Option StoreCall
  | .step i => y.tasks[i]?.bind LimiterTask.ask
  | .perform call => some call
  | _ => none

/-- One step of the whole, if the move is possible. -/
def step (y : Traffic σ) : LimiterMove → Option (Traffic σ)
  | .request route => some { y with tasks := y.tasks ++ [.coming route] }
  | .response route report => some { y with tasks := y.tasks ++ [.responding route report] }
  | .advance d => some { y with now := y.now + d }
  | .perform call =>
    let (reply, accounts) := (l.store.perform call).runAt y.now y.accounts
    some { y with accounts, log := call.notes reply ++ y.log }
  | .step i => do
    let task ← y.tasks[i]?
    let ((next, notes), accounts) ← task.step l y.now y.accounts
    return { y with
      accounts
      tasks := y.tasks.take i ++ next.toList ++ y.tasks.drop (i + 1)
      log := notes ++ y.log }

/-- The number of requests that were admitted to a bucket. -/
def admissions (y : Traffic σ) (key : String) : Nat := y.log.countP (LimiterNote.isAdmission key)

end Traffic

end GatewayClient
