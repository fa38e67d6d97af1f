import GatewayClient.Shard.Attempt
import GatewayClient.Shard.Monitor
import GatewayClient.Shard.Reader

/-!
# Shards with tasks that overlap

A shard is driven by several tasks at once: what the application asked for, the
loops that connect again, and the reader and the monitor of each connection that
was established. A task is here the point that it has reached, and a step of it is
one access to the shard, one wait for the outside world to do something, or all that
is done with one message. Tasks take their steps in any order.

A reader and a monitor end when the stop signal of their connection was given, or
another one has taken its place, but not at once: what has come on the connection
before may still be read.

* `Task.step`: one step of a task.
* `System.step`: one step of the whole system, as a `Move` chooses it.
* `System.IsReachable`: the systems that some moves lead to.
-/

namespace GatewayClient

/-- Who wants a connection. -/
inductive Requester where
  /-- The application. -/
  | application
  /-- The start of all shards, after which a shard that failed connects again. -/
  | starting
  /-- A loop that connects again after so many failures. -/
  | background (failures : Nat)
  deriving DecidableEq, Repr

/-- What follows when a connection is torn down. -/
inductive AfterTeardown where
  /-- Nothing. -/
  | over
  /-- The attempt for which it had to go. -/
  | attempt (by' : Requester)
  /-- The decision whether to connect again. -/
  | decide (code : Option Nat)
  deriving DecidableEq, Repr

/-- The points of a teardown. -/
inductive TeardownPoint where
  | stop
  | mark
  | sink
  | deliver (c : Connection)
  | finish
  deriving DecidableEq, Repr

/-- The points of an attempt to connect. -/
inductive AttemptPoint where
  | start
  | replace
  | mark
  | aim
  | dial
  | greet (c : Connection)
  | choose (c : Connection) (interval : Duration)
  | slot (c : Connection) (interval : Duration)
  | deliver (c : Connection) (interval : Duration) (e : Envelope)
  | number (c : Connection) (interval : Duration)
  | stop (c : Connection) (interval : Duration) (generation : Nat)
  | heartbeat (c : Connection) (interval : Duration) (generation : Nat)
  | sink (c : Connection) (generation : Nat)
  | finish (c : Connection) (generation : Nat)
  | launch (c : Connection) (generation : Nat)
  | fail
  deriving BEq, Repr

/-- The points of a shutdown before its teardown. -/
inductive ShutdownPoint where
  | mark
  | bump
  | clear
  deriving DecidableEq, Repr

/-- A task, by the point that it has reached. -/
inductive Task where
  /-- The application drops the connection. -/
  | killing
  /-- The application shuts the shard down. -/
  | shuttingDown (point : ShutdownPoint)
  /-- A connection is torn down with a close code. -/
  | tearingDown (code : Nat) (point : TeardownPoint) (after : AfterTeardown)
  /-- A connection is wanted. -/
  | connecting (by' : Requester) (point : AttemptPoint)
  /-- A loop is about to try again. -/
  | retrying (failures : Nat)
  /-- A loop waits after a failure. -/
  | asleep (failures : Nat) (wake : Instant)
  /-- A reader waits. -/
  | reading (generation : Nat) (c : Connection)
  /-- A reader looks whether its connection is still the shard's. -/
  | looking (generation : Nat) (c : Connection)
  /-- A connection was found lost, perhaps by a close code. -/
  | losing (generation : Nat) (code : Option Nat)
  /-- A loss is news, and its code is applied to the session. -/
  | voiding (code : Option Nat)
  /-- The decision whether to connect again. -/
  | deciding (code : Option Nat)
  /-- A monitor is about to choose its first wait. -/
  | pacing (generation : Nat) (c : Connection)
  /-- A monitor waits. -/
  | monitoring (generation : Nat) (c : Connection) (due : Instant)
  /-- A heartbeat is due. -/
  | beating (generation : Nat) (c : Connection)
  /-- The number that a heartbeat carries is looked up. -/
  | numbering (generation : Nat) (c : Connection) (at' : Instant) (interval : Duration)
  /-- A heartbeat that was due at an instant is sent. -/
  | sending (generation : Nat) (c : Connection) (at' : Instant) (interval : Duration)
    (sequence : Option Nat)
  /-- A heartbeat that was due at an instant was sent. -/
  | recording (generation : Nat) (c : Connection) (at' : Instant) (interval : Duration)
  deriving BEq, Repr

/-- What the outside world does in a step. -/
inductive Input where
  /-- Nothing. -/
  | nothing
  /-- A connection can be opened, or not. -/
  | dialed (isOpen : Bool)
  /-- The first thing on a connection. -/
  | greeting (g : Greeting)
  /-- Waiting for a handshake slot ends. -/
  | slot (r : Except RateLimitError Unit)
  /-- Something can be sent, or not. -/
  | delivered (isDelivered : Bool)
  /-- Something comes on the connection. -/
  | inbound (i : Inbound)
  /-- The stop signal of the connection is seen. -/
  | stopped
  /-- How long to wait. -/
  | wait (d : Duration)

/-- What can be seen of a step. -/
inductive Note (Listener : Type) where
  /-- An attempt went to an address. -/
  | dialed (address : String)
  /-- Something was sent on a connection. -/
  | sent (c : Connection) (what : Sending)
  /-- A listener heard of an event. -/
  | called (call : Call Listener)
  /-- A connection became the shard's, with a generation. -/
  | established (generation : Nat) (c : Connection)
  /-- The loss of a generation's connection was news. -/
  | lost (generation : Nat)
  /-- A shutdown has begun to end the connection. -/
  | shutDown

/-- What a step did. -/
structure Step (Listener : Type) where
  shard : Shard
  /-- What has become of the task, and the tasks that it started. -/
  tasks : List Task
  /-- A connection whose stop signal was given or replaced. -/
  stopped : Option Connection
  notes : List (Note Listener)

namespace Task

variable {Listener : Type}

/-- A step that only leads to other points. -/
def goto (s : Shard) (tasks : List Task) : Option (Step Listener) := some ⟨s, tasks, none, []⟩

/-- What follows when a connection is torn down. -/
def after : AfterTeardown → List Task
  | .over => []
  | .attempt by' => [.connecting by' .mark]
  | .decide code => [.deciding code]

/-- A step of a teardown. -/
def teardownStep (s : Shard) (code : Nat) (next : AfterTeardown) (input : Input) :
    TeardownPoint → Option (Step Listener)
  | .stop =>
    let (stopped, s) := s.takeStop
    some ⟨s, [.tearingDown code .mark next], stopped, []⟩
  | .mark => goto s.markDisconnecting [.tearingDown code .sink next]
  | .sink =>
    match s.takeSink with
    | (some c, s) => goto s [.tearingDown code (.deliver c) next]
    | (none, s) => goto s [.tearingDown code .finish next]
  | .deliver c =>
    match input with
    | .delivered isDelivered =>
      some ⟨s, [.tearingDown code .finish next], none,
        if isDelivered then [.sent c (.close code)] else []⟩
    | _ => none
  | .finish => goto (s.setState .dead) (after next)

/-- A step of an attempt to connect. A new connection gets the number `fresh`. -/
def attemptStep (s : Shard) (by' : Requester) (fresh : Connection) (now : Instant)
    (input : Input) : AttemptPoint → Option (Step Listener)
  | .start =>
    goto s [.connecting by' (if s.state = .dead then .mark else .replace)]
  | .replace => goto s.bump [.tearingDown CloseCode.resumable .stop (.attempt by')]
  | .mark => goto (s.setState .connecting) [.connecting by' .aim]
  | .aim => some ⟨s, [.connecting by' .dial], none, [.dialed s.target]⟩
  | .dial =>
    match input with
    | .dialed true => goto s [.connecting by' (.greet fresh)]
    | .dialed false => goto s [.connecting by' .fail]
    | _ => none
  | .greet c =>
    match input with
    | .greeting g =>
      match g.interval with
      | .ok interval => goto s [.connecting by' (.choose c interval)]
      | .error _ => goto s [.connecting by' .fail]
    | _ => none
  | .choose c interval =>
    match s.session.handshake with
    | .identify => goto s [.connecting by' (.slot c interval)]
    | .resume id n => goto s [.connecting by' (.deliver c interval (s.opening (.resume id n)))]
  | .slot c interval =>
    match input with
    | .slot (.ok ()) => goto s [.connecting by' (.deliver c interval (s.opening .identify))]
    | .slot (.error _) => goto s [.connecting by' .fail]
    | _ => none
  | .deliver c interval e =>
    match input with
    | .delivered true => some ⟨s, [.connecting by' (.number c interval)], none,
        [.sent c (.message e)]⟩
    | .delivered false => goto s [.connecting by' .fail]
    | _ => none
  | .number c interval =>
    goto s.bump [.connecting by' (.stop c interval (s.generation + 1))]
  | .stop c interval generation =>
    some ⟨s.installStop c, [.connecting by' (.heartbeat c interval generation)], s.stop, []⟩
  | .heartbeat c interval generation =>
    goto (s.resetHeartbeat interval) [.connecting by' (.sink c generation)]
  | .sink c generation => goto (s.installSink c) [.connecting by' (.finish c generation)]
  | .finish c generation =>
    some ⟨s.setState .connected, [.connecting by' (.launch c generation)], none,
      [.established generation c]⟩
  | .launch c generation => goto s [.reading generation c, .pacing generation c]
  | .fail =>
    match by', input with
    | .application, _ => goto (s.setState .dead) []
    | .starting, _ => goto (s.setState .dead) [.deciding none]
    | .background failures, .wait d =>
      if s.config.isWait failures d then
        goto (s.setState .dead) [.asleep (failures + 1) (now + d)]
      else none
    | _, _ => none

/-- A step of a reader that something comes to. -/
def readStep (s : Shard) (bus : Bus Listener) (generation : Nat) (c : Connection) (now : Instant) :
    Inbound → Option (Step Listener)
  | .text text =>
    let handled := s.handle bus text now
    let next : Task := match handled.flow with
      | .ok .reconnect => .losing generation none
      | _ => .looking generation c
    some ⟨handled.shard, [next], none, handled.calls.map .called⟩
  | .other => goto s [.looking generation c]
  | .closed code => goto s [.losing generation code]
  | .lost => goto s [.losing generation none]

/-- A step of a task. Nothing stands for a task that has to wait, or that the
    outside world does not do what it waits for. -/
def step (s : Shard) (bus : Bus Listener) (fresh : Connection) (stopped : List Connection)
    (now : Instant) (input : Input) : Task → Option (Step Listener)
  | .killing => goto s.bump [.tearingDown CloseCode.resumable .stop .over]
  | .shuttingDown .mark => goto s.markShutDown [.shuttingDown .bump]
  | .shuttingDown .bump => goto s.bump [.shuttingDown .clear]
  | .shuttingDown .clear =>
    some ⟨s.clearSession, [.tearingDown CloseCode.normal.code .stop .over], none, [.shutDown]⟩
  | .tearingDown code point next => teardownStep s code next input point
  | .connecting by' point => attemptStep s by' fresh now input point
  | .retrying failures =>
    goto s (if s.isShutDown then [] else [.connecting (.background failures) .start])
  | .asleep failures wake => if wake ≤ now then goto s [.retrying failures] else none
  | .reading generation c =>
    match input with
    | .inbound i => readStep s bus generation c now i
    | .stopped => if c ∈ stopped then goto s [] else none
    | _ => none
  | .looking generation c =>
    goto s (if s.generation = generation ∧ s.isConnected then [.reading generation c] else [])
  | .losing generation code =>
    match s.bumpFrom generation with
    | (true, s) => some ⟨s, [.voiding code], none, [.lost generation]⟩
    | (false, s) => goto s []
  | .voiding code =>
    goto (s.voidSession code) [.tearingDown CloseCode.resumable .stop (.decide code)]
  | .deciding code =>
    goto s (if s.wantsReconnect && !code.any CloseCode.codeIsFatal then [.retrying 0] else [])
  | .pacing generation c =>
    match input with
    | .wait d =>
      if Heartbeat.isFirstDelay s.heartbeat.interval d then
        goto s [.monitoring generation c (now + d)]
      else none
    | _ => none
  | .monitoring generation c due =>
    match input with
    | .nothing =>
      if due ≤ now then goto s (if s.generation = generation then [.beating generation c] else [])
      else none
    | .stopped => if c ∈ stopped then goto s [] else none
    | _ => none
  | .beating generation c =>
    match s.heartbeat.check now with
    | .zombie => goto s [.losing generation none]
    | .send => goto s [.numbering generation c now s.heartbeat.interval]
  | .numbering generation c at' interval =>
    goto s [.sending generation c at' interval s.session.sequence]
  | .sending generation c at' interval sequence =>
    match input with
    | .delivered isDelivered =>
      match s.sink with
      | some sink =>
        if isDelivered then
          some ⟨s, [.recording generation c at' interval], none,
            [.sent sink (.message (.heartbeat sequence))]⟩
        else goto s [.losing generation none]
      | none => goto s [.losing generation none]
    | _ => none
  | .recording generation c at' interval =>
    goto { s with heartbeat := s.heartbeat.recordSent at' }
      [.monitoring generation c (now + interval)]

end Task

/-- A shard with all its tasks. -/
structure System (Listener : Type) where
  shard : Shard
  now : Instant
  /-- The number of connections opened so far. -/
  opened : Nat
  /-- The connections whose stop signal was given or replaced. -/
  stopped : List Connection
  tasks : List Task
  /-- What could be seen so far, the last first. -/
  log : List (Note Listener)

/-- What the application asks for. -/
inductive Request where
  /-- A connection. -/
  | connect
  /-- A connection, now or later. -/
  | start
  /-- A connection, in the background. -/
  | reconnect
  /-- That the connection is dropped. -/
  | kill
  /-- That the shard is shut down. -/
  | shutdown
  deriving DecidableEq, Repr

/-- The task that a request starts. -/
def Request.task : Request → Task
  | connect => .connecting .application .start
  | start => .connecting .starting .start
  | reconnect => .deciding none
  | kill => .killing
  | shutdown => .shuttingDown .mark

/-- What happens next. -/
inductive Move where
  /-- The application asks for something. -/
  | request (r : Request)
  /-- A task takes a step, while the outside world does something. -/
  | step (task : Nat) (input : Input)
  /-- Time passes. -/
  | advance (d : Duration)

namespace System

variable {Listener : Type}

/-- A shard that nothing has happened to. -/
def new (index : Nat) (config : ShardConfig) : System Listener where
  shard := .new index config
  now := 0
  opened := 0
  stopped := []
  tasks := []
  log := []

/-- One step of the whole, if the move is possible. -/
def step (bus : Bus Listener) (y : System Listener) : Move → Option (System Listener)
  | .request r => some { y with tasks := y.tasks ++ [r.task] }
  | .advance d => some { y with now := y.now + d }
  | .step i input => do
    let task ← y.tasks[i]?
    let r ← task.step y.shard bus y.opened y.stopped y.now input
    return { y with
      shard := r.shard
      opened := match input with
        | .dialed true => y.opened + 1
        | _ => y.opened
      stopped := r.stopped.toList ++ y.stopped
      tasks := y.tasks.take i ++ r.tasks ++ y.tasks.drop (i + 1)
      log := r.notes.reverse ++ y.log }

/-- Several steps, if each move is possible. -/
def run (bus : Bus Listener) (y : System Listener) : List Move → Option (System Listener)
  | [] => some y
  | m :: rest => (y.step bus m).bind fun y => y.run bus rest

/-- The systems that some moves lead to. -/
inductive IsReachable (bus : Bus Listener) (index : Nat) (config : ShardConfig) :
    System Listener → Prop
  | new : IsReachable bus index config (System.new index config)
  | step {y y' : System Listener} (m : Move) :
    IsReachable bus index config y → y.step bus m = some y' → IsReachable bus index config y'

end System

end GatewayClient
