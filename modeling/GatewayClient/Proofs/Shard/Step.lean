import GatewayClient.Proofs.Shard.Basic
import GatewayClient.Shard.System

/-!
# The steps of tasks, one by one

All that a step of a task can do, as a relation with a case for each way to go on.
What holds of every step of every task is proved by cases on it.

* `Inbound.isLoss`: what ends a connection.
* `Task.Goes`: the ways to go on.
* `Task.goes_of_step`: a step is one of them.
* `System.step_cases`, `System.goes_of_step`: a step of the whole is a step of one task.
-/

namespace GatewayClient

variable {Listener : Type}

/-- Whether something that comes on a connection ends it: it is closed, or breaks, or the
    gateway wants it replaced. -/
def Inbound.isLoss : Inbound → Bool
  | .closed _ | .lost => true
  | .text s => match Frame.read s with
    | .ok .reconnect | .ok (.invalidSession _) => true
    | _ => false
  | .other => false

/-- Only two frames want a connection replaced. -/
theorem Shard.flow_handle (s : Shard) (bus : Bus Listener) (text : String) (now : Instant) :
    (s.handle bus text now).flow = .ok .reconnect ↔ (Inbound.text text).isLoss := by
  simp only [handle, Inbound.isLoss, Frame.read]
  cases Envelope.read text with
  | error reason => simp
  | ok e =>
    simp only
    cases Frame.ofEnvelope e with
    | error fault => simp
    | ok frame =>
      cases frame with
      | hello h =>
        simp only [act]
        split <;> simp
      | _ => simp [act]

namespace Task

/-- The ways in which a task goes on, where the next connection has the number `fresh`. -/
inductive Goes (s : Shard) (fresh : Connection) (now : Instant) :
    Task → Input → Step Listener → Prop
  -- What the application asks for
  | kill {input} : Goes s fresh now .killing input
      ⟨s.bump, [.tearingDown CloseCode.resumable .stop .over], none, []⟩
  | markShutDown {input} : Goes s fresh now (.shuttingDown .mark) input
      ⟨s.markShutDown, [.shuttingDown .bump], none, []⟩
  | bumpShutDown {input} : Goes s fresh now (.shuttingDown .bump) input
      ⟨s.bump, [.shuttingDown .clear], none, []⟩
  | clearShutDown {input} : Goes s fresh now (.shuttingDown .clear) input
      ⟨s.clearSession, [.tearingDown CloseCode.normal.code .stop .over], none, [.shutDown]⟩
  -- Teardowns
  | takeStop {input} (code : Nat) (next : AfterTeardown) :
      Goes s fresh now (.tearingDown code .stop next) input
        ⟨{ s with stop := none }, [.tearingDown code .mark next], s.stop, []⟩
  | markDisconnecting {input} (code : Nat) (next : AfterTeardown) :
      Goes s fresh now (.tearingDown code .mark next) input
        ⟨s.markDisconnecting, [.tearingDown code .sink next], none, []⟩
  | takeSink {input} (code : Nat) (next : AfterTeardown) (c : Connection) : s.sink = some c →
      Goes s fresh now (.tearingDown code .sink next) input
        ⟨{ s with sink := none }, [.tearingDown code (.deliver c) next], none, []⟩
  | noSink {input} (code : Nat) (next : AfterTeardown) : s.sink = none →
      Goes s fresh now (.tearingDown code .sink next) input
        ⟨{ s with sink := none }, [.tearingDown code .finish next], none, []⟩
  | close (code : Nat) (c : Connection) (next : AfterTeardown) (isDelivered : Bool) :
      Goes s fresh now (.tearingDown code (.deliver c) next) (.delivered isDelivered)
        ⟨s, [.tearingDown code .finish next], none,
          if isDelivered then [.sent c (.close code)] else []⟩
  | tornDown {input} (code : Nat) (next : AfterTeardown) :
      Goes s fresh now (.tearingDown code .finish next) input
        ⟨s.setState .dead, after next, none, []⟩
  -- Attempts to connect
  | start {input} (by' : Requester) : s.state = .dead →
      Goes s fresh now (.connecting by' .start) input ⟨s, [.connecting by' .mark], none, []⟩
  | startOver {input} (by' : Requester) : s.state ≠ .dead →
      Goes s fresh now (.connecting by' .start) input ⟨s, [.connecting by' .replace], none, []⟩
  | replace {input} (by' : Requester) : Goes s fresh now (.connecting by' .replace) input
      ⟨s.bump, [.tearingDown CloseCode.resumable .stop (.attempt by')], none, []⟩
  | markConnecting {input} (by' : Requester) : Goes s fresh now (.connecting by' .mark) input
      ⟨s.setState .connecting, [.connecting by' .aim], none, []⟩
  | aim {input} (by' : Requester) : Goes s fresh now (.connecting by' .aim) input
      ⟨s, [.connecting by' .dial], none, [.dialed s.target]⟩
  | dial (by' : Requester) : Goes s fresh now (.connecting by' .dial) (.dialed true)
      ⟨s, [.connecting by' (.greet fresh)], none, []⟩
  | failing {input} (by' : Requester) (point : AttemptPoint) :
      point = .dial ∨ (∃ c, point = .greet c) ∨ (∃ c interval, point = .slot c interval) ∨
        (∃ c interval e, point = .deliver c interval e) →
      Goes s fresh now (.connecting by' point) input ⟨s, [.connecting by' .fail], none, []⟩
  | greet (by' : Requester) (c : Connection) (g : Greeting) (interval : Duration) :
      g.interval = .ok interval →
      Goes s fresh now (.connecting by' (.greet c)) (.greeting g)
        ⟨s, [.connecting by' (.choose c interval)], none, []⟩
  | identify {input} (by' : Requester) (c : Connection) (interval : Duration) :
      s.session.handshake = .identify →
      Goes s fresh now (.connecting by' (.choose c interval)) input
        ⟨s, [.connecting by' (.slot c interval)], none, []⟩
  | resume {input} (by' : Requester) (c : Connection) (interval : Duration) (id : String)
      (n : Nat) : s.session.handshake = .resume id n →
      Goes s fresh now (.connecting by' (.choose c interval)) input
        ⟨s, [.connecting by' (.deliver c interval (s.opening (.resume id n)))], none, []⟩
  | slot (by' : Requester) (c : Connection) (interval : Duration) :
      Goes s fresh now (.connecting by' (.slot c interval)) (.slot (.ok ()))
        ⟨s, [.connecting by' (.deliver c interval (s.opening .identify))], none, []⟩
  | deliver (by' : Requester) (c : Connection) (interval : Duration) (e : Envelope) :
      Goes s fresh now (.connecting by' (.deliver c interval e)) (.delivered true)
        ⟨s, [.connecting by' (.number c interval)], none, [.sent c (.message e)]⟩
  | number {input} (by' : Requester) (c : Connection) (interval : Duration) :
      Goes s fresh now (.connecting by' (.number c interval)) input
        ⟨s.bump, [.connecting by' (.stop c interval (s.generation + 1))], none, []⟩
  | installStop {input} (by' : Requester) (c : Connection) (interval : Duration)
      (generation : Nat) : Goes s fresh now (.connecting by' (.stop c interval generation)) input
        ⟨s.installStop c, [.connecting by' (.heartbeat c interval generation)], s.stop, []⟩
  | resetHeartbeat {input} (by' : Requester) (c : Connection) (interval : Duration)
      (generation : Nat) :
      Goes s fresh now (.connecting by' (.heartbeat c interval generation)) input
        ⟨s.resetHeartbeat interval, [.connecting by' (.sink c generation)], none, []⟩
  | installSink {input} (by' : Requester) (c : Connection) (generation : Nat) :
      Goes s fresh now (.connecting by' (.sink c generation)) input
        ⟨s.installSink c, [.connecting by' (.finish c generation)], none, []⟩
  | establish {input} (by' : Requester) (c : Connection) (generation : Nat) :
      Goes s fresh now (.connecting by' (.finish c generation)) input
        ⟨s.setState .connected, [.connecting by' (.launch c generation)], none,
          [.established generation c]⟩
  | launch {input} (by' : Requester) (c : Connection) (generation : Nat) :
      Goes s fresh now (.connecting by' (.launch c generation)) input
        ⟨s, [.reading generation c, .pacing generation c], none, []⟩
  | failApplication {input} : Goes s fresh now (.connecting .application .fail) input
      ⟨s.setState .dead, [], none, []⟩
  | failStarting {input} : Goes s fresh now (.connecting .starting .fail) input
      ⟨s.setState .dead, [.deciding none], none, []⟩
  | failBackground (failures : Nat) (d : Duration) : s.config.isWait failures d →
      Goes s fresh now (.connecting (.background failures) .fail) (.wait d)
        ⟨s.setState .dead, [.asleep (failures + 1) (now + d)], none, []⟩
  -- Loops
  | retry {input} (failures : Nat) : s.isShutDown = false →
      Goes s fresh now (.retrying failures) input
        ⟨s, [.connecting (.background failures) .start], none, []⟩
  | giveUp {input} (failures : Nat) : s.isShutDown →
      Goes s fresh now (.retrying failures) input ⟨s, [], none, []⟩
  | wake {input} (failures : Nat) (wake : Instant) : wake ≤ now →
      Goes s fresh now (.asleep failures wake) input ⟨s, [.retrying failures], none, []⟩
  -- Readers
  | read (generation : Nat) (c : Connection) (text : String) (session : Session)
      (heartbeat : Heartbeat) (calls : List (Call Listener)) :
      (Inbound.text text).isLoss = false →
      Goes s fresh now (.reading generation c) (.inbound (.text text))
        ⟨{ s with session, heartbeat }, [.looking generation c], none, calls.map .called⟩
  | readLoss (generation : Nat) (c : Connection) (i : Inbound) (code : Option Nat)
      (session : Session) (heartbeat : Heartbeat) (calls : List (Call Listener)) : i.isLoss →
      Goes s fresh now (.reading generation c) (.inbound i)
        ⟨{ s with session, heartbeat }, [.losing generation code], none, calls.map .called⟩
  | readOther (generation : Nat) (c : Connection) :
      Goes s fresh now (.reading generation c) (.inbound .other)
        ⟨s, [.looking generation c], none, []⟩
  | readerStopped (generation : Nat) (c : Connection) :
      Goes s fresh now (.reading generation c) .stopped ⟨s, [], none, []⟩
  | readOn {input} (generation : Nat) (c : Connection) : s.generation = generation →
      Goes s fresh now (.looking generation c) input ⟨s, [.reading generation c], none, []⟩
  | readNoMore {input} (generation : Nat) (c : Connection) :
      Goes s fresh now (.looking generation c) input ⟨s, [], none, []⟩
  -- Losses
  | lose {input} (generation : Nat) (code : Option Nat) : s.generation = generation →
      Goes s fresh now (.losing generation code) input
        ⟨s.bump, [.voiding code], none, [.lost generation]⟩
  | notNews {input} (generation : Nat) (code : Option Nat) : s.generation ≠ generation →
      Goes s fresh now (.losing generation code) input ⟨s, [], none, []⟩
  | void {input} (code : Option Nat) : Goes s fresh now (.voiding code) input
      ⟨s.voidSession code, [.tearingDown CloseCode.resumable .stop (.decide code)], none, []⟩
  | reconnect {input} (code : Option Nat) : s.wantsReconnect →
      code.any CloseCode.codeIsFatal = false →
      Goes s fresh now (.deciding code) input ⟨s, [.retrying 0], none, []⟩
  | stayDead {input} (code : Option Nat) :
      (s.wantsReconnect && !code.any CloseCode.codeIsFatal) = false →
      Goes s fresh now (.deciding code) input ⟨s, [], none, []⟩
  -- Monitors
  | pace (generation : Nat) (c : Connection) (d : Duration) :
      Heartbeat.isFirstDelay s.heartbeat.interval d →
      Goes s fresh now (.pacing generation c) (.wait d)
        ⟨s, [.monitoring generation c (now + d)], none, []⟩
  | tick (generation : Nat) (c : Connection) (due : Instant) : due ≤ now →
      s.generation = generation →
      Goes s fresh now (.monitoring generation c due) .nothing
        ⟨s, [.beating generation c], none, []⟩
  | tickNoMore (generation : Nat) (c : Connection) (due : Instant) : s.generation ≠ generation →
      Goes s fresh now (.monitoring generation c due) .nothing ⟨s, [], none, []⟩
  | monitorStopped (generation : Nat) (c : Connection) (due : Instant) :
      Goes s fresh now (.monitoring generation c due) .stopped ⟨s, [], none, []⟩
  | zombie {input} (generation : Nat) (c : Connection) : s.heartbeat.check now = .zombie →
      Goes s fresh now (.beating generation c) input ⟨s, [.losing generation none], none, []⟩
  | beat {input} (generation : Nat) (c : Connection) : s.heartbeat.check now = .send →
      Goes s fresh now (.beating generation c) input
        ⟨s, [.numbering generation c now s.heartbeat.interval], none, []⟩
  | numberBeat {input} (generation : Nat) (c : Connection) (at' : Instant)
      (interval : Duration) :
      Goes s fresh now (.numbering generation c at' interval) input
        ⟨s, [.sending generation c at' interval s.session.sequence], none, []⟩
  | send (generation : Nat) (c : Connection) (at' : Instant) (interval : Duration)
      (sequence : Option Nat) (sink : Connection) : s.sink = some sink →
      Goes s fresh now (.sending generation c at' interval sequence) (.delivered true)
        ⟨s, [.recording generation c at' interval], none,
          [.sent sink (.message (.heartbeat sequence))]⟩
  | sendLoss (generation : Nat) (c : Connection) (at' : Instant) (interval : Duration)
      (sequence : Option Nat) (isDelivered : Bool) : s.sink = none ∨ isDelivered = false →
      Goes s fresh now (.sending generation c at' interval sequence) (.delivered isDelivered)
        ⟨s, [.losing generation none], none, []⟩
  | record {input} (generation : Nat) (c : Connection) (at' : Instant) (interval : Duration) :
      Goes s fresh now (.recording generation c at' interval) input
        ⟨{ s with heartbeat := s.heartbeat.recordSent at' },
          [.monitoring generation c (now + interval)], none, []⟩

variable {s : Shard} {bus : Bus Listener} {fresh : Connection} {stopped : List Connection}
  {now : Instant} {input : Input} {r : Step Listener}

theorem goes_of_teardownStep {code : Nat} {next : AfterTeardown} {point : TeardownPoint}
    (h : teardownStep s code next input point = some r) :
    Goes s fresh now (.tearingDown code point next) input r := by
  cases point with
  | stop =>
    cases h
    exact .takeStop code next
  | mark =>
    cases h
    exact .markDisconnecting code next
  | sink =>
    simp only [teardownStep, Shard.takeSink] at h
    cases hs : s.sink with
    | none =>
      rw [hs] at h
      cases h
      exact .noSink code next hs
    | some c =>
      rw [hs] at h
      cases h
      exact .takeSink code next c hs
  | deliver c =>
    cases input with
    | delivered isDelivered =>
      cases h
      exact .close code c next isDelivered
    | _ => cases h
  | finish =>
    cases h
    exact .tornDown code next

theorem goes_of_attemptStep {by' : Requester} {point : AttemptPoint}
    (h : attemptStep s by' fresh now input point = some r) :
    Goes s fresh now (.connecting by' point) input r := by
  cases point with
  | start =>
    simp only [attemptStep] at h
    split at h
    · rename_i hs
      cases h
      exact .start by' hs
    · rename_i hs
      cases h
      exact .startOver by' hs
  | replace =>
    cases h
    exact .replace by'
  | mark =>
    cases h
    exact .markConnecting by'
  | aim =>
    cases h
    exact .aim by'
  | dial =>
    simp only [attemptStep] at h
    split at h
    · cases h
      exact .dial by'
    · cases h
      exact .failing by' _ (by simp)
    · cases h
  | greet c =>
    simp only [attemptStep] at h
    split at h
    · split at h
      · rename_i hinterval
        cases h
        exact .greet by' c _ _ hinterval
      · cases h
        exact .failing by' _ (by simp)
    · cases h
  | choose c interval =>
    simp only [attemptStep] at h
    split at h
    · rename_i hs
      cases h
      exact .identify by' c interval hs
    · rename_i hs
      cases h
      exact .resume by' c interval _ _ hs
  | slot c interval =>
    simp only [attemptStep] at h
    split at h
    · cases h
      exact .slot by' c interval
    · cases h
      exact .failing by' _ (by simp)
    · cases h
  | deliver c interval e =>
    simp only [attemptStep] at h
    split at h
    · cases h
      exact .deliver by' c interval e
    · cases h
      exact .failing by' _ (by simp)
    · cases h
  | number c interval =>
    cases h
    exact .number by' c interval
  | stop c interval generation =>
    cases h
    exact .installStop by' c interval generation
  | heartbeat c interval generation =>
    cases h
    exact .resetHeartbeat by' c interval generation
  | sink c generation =>
    cases h
    exact .installSink by' c generation
  | finish c generation =>
    cases h
    exact .establish by' c generation
  | launch c generation =>
    cases h
    exact .launch by' c generation
  | fail =>
    simp only [attemptStep] at h
    split at h
    · cases h
      exact .failApplication
    · cases h
      exact .failStarting
    · split at h
      · rename_i hd
        cases h
        exact .failBackground _ _ hd
      · cases h
    · cases h

theorem goes_of_readStep {generation : Nat} {c : Connection} {i : Inbound}
    (h : readStep s bus generation c now i = some r) :
    Goes s fresh now (.reading generation c) (.inbound i) r := by
  cases i with
  | text text =>
    cases h
    obtain ⟨session, heartbeat, hs⟩ := s.exists_handle bus text now
    have hflow := s.flow_handle bus text now
    rw [hs]
    split
    · rename_i hreconnect
      exact .readLoss generation c _ none session heartbeat _ (hflow.1 hreconnect)
    · rename_i hgoesOn
      exact .read generation c text session heartbeat _ (by
        simpa using fun h => hgoesOn (hflow.2 h))
  | other =>
    cases h
    exact .readOther generation c
  | closed code =>
    cases h
    exact .readLoss generation c _ code s.session s.heartbeat [] rfl
  | lost =>
    cases h
    exact .readLoss generation c _ none s.session s.heartbeat [] rfl

/-- A step of a task is one of the ways to go on. -/
theorem goes_of_step {t : Task} (h : t.step s bus fresh stopped now input = some r) :
    Goes s fresh now t input r := by
  cases t with
  | killing =>
    cases h
    exact .kill
  | shuttingDown point =>
    cases point with
    | mark =>
      cases h
      exact .markShutDown
    | bump =>
      cases h
      exact .bumpShutDown
    | clear =>
      cases h
      exact .clearShutDown
  | tearingDown code point next => exact goes_of_teardownStep h
  | connecting by' point => exact goes_of_attemptStep h
  | retrying failures =>
    cases h
    cases hs : s.isShutDown with
    | true => exact .giveUp failures hs
    | false => exact .retry failures hs
  | asleep failures wake =>
    simp only [step] at h
    split at h
    · rename_i hwake
      cases h
      exact .wake failures wake hwake
    · cases h
  | reading generation c =>
    cases input with
    | inbound i => exact goes_of_readStep h
    | stopped =>
      simp only [step] at h
      split at h
      · cases h
        exact .readerStopped generation c
      · cases h
    | _ => cases h
  | looking generation c =>
    simp only [step] at h
    split at h
    · rename_i hs
      cases h
      exact .readOn generation c hs.1
    · cases h
      exact .readNoMore generation c
  | losing generation code =>
    by_cases hg : s.generation = generation
    · simp only [step, Shard.bumpFrom, hg, if_true] at h
      cases h
      exact .lose generation code hg
    · simp only [step, Shard.bumpFrom, hg, if_false] at h
      cases h
      exact .notNews generation code hg
  | voiding code =>
    cases h
    exact .void code
  | deciding code =>
    cases h
    cases hs : s.wantsReconnect && !code.any CloseCode.codeIsFatal with
    | true =>
      rw [Bool.and_eq_true, Bool.not_eq_true'] at hs
      exact .reconnect code hs.1 hs.2
    | false => exact .stayDead code hs
  | pacing generation c =>
    cases input with
    | wait d =>
      simp only [step] at h
      split at h
      · rename_i hd
        cases h
        exact .pace generation c d hd
      · cases h
    | _ => cases h
  | monitoring generation c due =>
    cases input with
    | nothing =>
      simp only [step] at h
      split at h
      · rename_i hdue
        split at h
        · rename_i hg
          cases h
          exact .tick generation c due hdue hg
        · rename_i hg
          cases h
          exact .tickNoMore generation c due hg
      · cases h
    | stopped =>
      simp only [step] at h
      split at h
      · cases h
        exact .monitorStopped generation c due
      · cases h
    | _ => cases h
  | beating generation c =>
    simp only [step] at h
    split at h
    · rename_i hcheck
      cases h
      exact .zombie generation c hcheck
    · rename_i hcheck
      cases h
      exact .beat generation c hcheck
  | numbering generation c at' interval =>
    cases h
    exact .numberBeat generation c at' interval
  | sending generation c at' interval sequence =>
    cases input with
    | delivered isDelivered =>
      simp only [step] at h
      split at h
      · rename_i sink hsink
        cases isDelivered with
        | true =>
          cases h
          exact .send generation c at' interval sequence sink hsink
        | false =>
          cases h
          exact .sendLoss generation c at' interval sequence false (.inr rfl)
      · rename_i hsink
        cases h
        exact .sendLoss generation c at' interval sequence isDelivered (.inl hsink)
    | _ => cases h
  | recording generation c at' interval =>
    cases h
    exact .record generation c at' interval

end Task

namespace System

variable {bus : Bus Listener} {y y' : System Listener} {i : Nat} {input : Input}

/-- A step of the system is a step of one of its tasks, which what it has become takes
    the place of. -/
theorem step_cases (h : y.step bus (.step i input) = some y') : ∃ t r,
    y.tasks[i]? = some t ∧ t.step y.shard bus y.opened y.stopped y.now input = some r ∧
      y'.shard = r.shard ∧ y'.tasks = y.tasks.take i ++ r.tasks ++ y.tasks.drop (i + 1) ∧
      y'.log = r.notes.reverse ++ y.log := by
  obtain ⟨t, ht, h⟩ := Option.bind_eq_some_iff.1 h
  obtain ⟨r, hr, h⟩ := Option.bind_eq_some_iff.1 h
  cases h
  exact ⟨t, r, ht, hr, rfl, rfl, rfl⟩

/-- Any step of a task is one of the system. -/
theorem step_eq {t : Task} {r : Step Listener} (ht : y.tasks[i]? = some t) :
    t.step y.shard bus y.opened y.stopped y.now input = some r →
    y.step bus (.step i input) = some { y with
      shard := r.shard
      opened := match input with
        | .dialed true => y.opened + 1
        | _ => y.opened
      stopped := r.stopped.toList ++ y.stopped
      tasks := y.tasks.take i ++ r.tasks ++ y.tasks.drop (i + 1)
      log := r.notes.reverse ++ y.log } := by
  intro hr
  simp only [step, ht, hr, Option.bind_eq_bind, Option.bind_some]
  rfl

theorem IsReachable.run {index : Nat} {config : ShardConfig} {moves : List Move}
    (hy : IsReachable bus index config y) (h : y.run bus moves = some y') :
    IsReachable bus index config y' := by
  induction moves generalizing y with
  | nil =>
    cases h
    exact hy
  | cons m rest ih =>
    obtain ⟨y₁, hstep, hrest⟩ := Option.bind_eq_some_iff.1 h
    exact ih (hy.step m hstep) hrest

/-- A system in which a task has gone on, with the tasks before it and behind it. -/
def went (y : System Listener) (front : List Task) (input : Input) (r : Step Listener)
    (back : List Task) : System Listener :=
  { y with
    shard := r.shard
    opened := match input with
      | .dialed true => y.opened + 1
      | _ => y.opened
    stopped := r.stopped.toList ++ y.stopped
    tasks := front ++ r.tasks ++ back
    log := r.notes.reverse ++ y.log }

/-- A step of the whole is a step of one of its tasks. -/
theorem goes_of_step (h : y.step bus (.step i input) = some y') : ∃ front t back r,
    y.tasks = front ++ t :: back ∧ y.tasks[i]? = some t ∧
      t.step y.shard bus y.opened y.stopped y.now input = some r ∧
      t.Goes y.shard y.opened y.now input r ∧ y' = y.went front input r back := by
  obtain ⟨t, ht, h⟩ := Option.bind_eq_some_iff.1 h
  obtain ⟨r, hr, h⟩ := Option.bind_eq_some_iff.1 h
  cases h
  refine ⟨y.tasks.take i, t, y.tasks.drop (i + 1), r, ?_, ht, hr, Task.goes_of_step hr, rfl⟩
  obtain ⟨hi, rfl⟩ := List.getElem?_eq_some_iff.1 ht
  rw [List.getElem_cons_drop, List.take_append_drop]

/-- Any step of a task is one of the whole. -/
theorem step_went {front back : List Task} {t : Task} {r : Step Listener}
    (htasks : y.tasks = front ++ t :: back)
    (hr : t.step y.shard bus y.opened y.stopped y.now input = some r) :
    y.step bus (.step front.length input) = some (y.went front input r back) := by
  have ht : y.tasks[front.length]? = some t := by simp [htasks]
  have hfront : y.tasks.take front.length = front := by rw [htasks, List.take_left]
  have hback : y.tasks.drop (front.length + 1) = back := by
    rw [htasks, ← List.drop_drop, List.drop_left]
    rfl
  rw [step_eq ht hr, hfront, hback]
  rfl

/-- A task was there before, or has come of the task that has gone on. -/
theorem mem_tasks_went {front back : List Task} {t t' : Task} {r : Step Listener}
    (htasks : y.tasks = front ++ t :: back) (h : t' ∈ (y.went front input r back).tasks) :
    t' ∈ r.tasks ∨ t' ∈ y.tasks := by
  rw [htasks, List.mem_append, List.mem_cons]
  rcases List.mem_append.1 h with h | h
  · rcases List.mem_append.1 h with h | h
    · exact .inr (.inl h)
    · exact .inl h
  · exact .inr (.inr (.inr h))

/-- What the other moves do. -/
theorem eq_of_request {request : Request} (h : y.step bus (.request request) = some y') :
    y' = { y with tasks := y.tasks ++ [request.task] } := (Option.some.inj h).symm

theorem eq_of_advance {d : Duration} (h : y.step bus (.advance d) = some y') :
    y' = { y with now := y.now + d } := (Option.some.inj h).symm

end System

end GatewayClient
