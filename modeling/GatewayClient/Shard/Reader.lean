import GatewayClient.Event.Bus
import GatewayClient.Event.Ready
import GatewayClient.Shard.Basic
import GatewayClient.Shard.Error

/-!
# Reading

What a shard does with what comes on its connection. A text is decoded, its
sequence number is recorded, and then its frame acts: an event reaches the
listeners of its kind, one after another, and the first event of a session starts
the session; other frames change the heartbeats or end the connection. A text that
is no frame is dropped.

* `Shard.handle`: what a text does.
* `Shard.read`: what anything that comes on a connection does to the shard and to
  the connection's reader.
-/

namespace GatewayClient

open Json

/-- A listener hears of an event; at that moment the shard knows `session`. -/
structure Call (Listener : Type) where
  listener : Listener
  /-- The shard that the event came to. -/
  shard : Nat
  event : Event
  session : Session
  deriving BEq, Repr

/-- What becomes of a connection after a text. -/
inductive Flow where
  /-- It goes on. -/
  | goesOn
  /-- The gateway wants it replaced. -/
  | reconnect
  deriving DecidableEq, Repr

/-- What a text did. -/
structure Handled (Listener : Type) where
  flow : Except FrameError Flow
  shard : Shard
  /-- Which listeners heard of it. -/
  calls : List (Call Listener)

/-- What comes on a connection. -/
inductive Inbound where
  /-- A text message. -/
  | text (s : String)
  /-- A message that is no text, or none at all. -/
  | other
  /-- The gateway closes the connection, perhaps with a number. -/
  | closed (code : Option Nat)
  /-- The connection ends or breaks. -/
  | lost
  deriving DecidableEq, Repr

/-- What something on a connection did. -/
structure ReadResult (Listener : Type) where
  shard : Shard
  calls : List (Call Listener)
  sent : List (Connection × Sending)
  /-- Whether the reader goes on. -/
  goesOn : Bool
  /-- Whether the shard is to connect again. -/
  reconnects : Bool

namespace Shard

variable {Listener : Type}

/-- The shard after a sequence number. -/
def recordSequence (s : Shard) (sequence : Option Nat) : Shard :=
  match sequence with
  | some n => { s with session := s.session.recordSequence n }
  | none => s

/-- The shard after an event of a kind: the first one of a session starts it. -/
def afterEvent (s : Shard) (event : Event) : Shard :=
  if event.kind = .ready then
    match Ready.ofValue? event.data with
    | some r => { s with session := .start r.sessionId event.sequence r.resumeUrl }
    | none => s
  else s

/-- The listeners that hear of an event. -/
def callsOf (s : Shard) (bus : Bus Listener) (event : Event) : List (Call Listener) :=
  (bus.listeners event.kind).map fun listener => ⟨listener, s.index, event, s.session⟩

/-- What an event with a name does. An event that nobody knows does nothing. -/
def dispatch (s : Shard) (bus : Bus Listener) (name : String) (sequence : Option Nat)
    (data : Value) : Shard × List (Call Listener) :=
  match EventKind.ofName? name with
  | none => (s, [])
  | some kind =>
    let event : Event := ⟨kind, sequence, data⟩
    let s := s.afterEvent event
    (s, s.callsOf bus event)

/-- What a frame does that came with a sequence number. -/
def act (s : Shard) (bus : Bus Listener) (sequence : Option Nat) (frame : Frame)
    (now : Instant) : Flow × Shard × List (Call Listener) :=
  match frame with
  | .dispatch name data => (.goesOn, s.dispatch bus name sequence data)
  | .heartbeat => (.goesOn, s, [])
  | .reconnect => (.reconnect, s, [])
  | .invalidSession resumable => (.reconnect, if resumable then s else s.clearSession, [])
  | .hello h =>
    if h.heartbeatInterval = 0 then (.goesOn, s, [])
    else
      let interval := Duration.ofMillis h.heartbeatInterval
      (.goesOn, { s with heartbeat := s.heartbeat.setInterval interval }, [])
  | .heartbeatAck => (.goesOn, { s with heartbeat := s.heartbeat.recordAck now }, [])

/-- What a text does. The sequence number counts even where the frame does not. -/
def handle (s : Shard) (bus : Bus Listener) (text : String) (now : Instant) : Handled Listener :=
  match Envelope.read text with
  | .error reason => ⟨.error (.decode reason), s, []⟩
  | .ok e =>
    let s := s.recordSequence e.sequence
    match Frame.ofEnvelope e with
    | .error fault => ⟨.error fault, s, []⟩
    | .ok frame =>
      let (flow, s, calls) := s.act bus e.sequence frame now
      ⟨.ok flow, s, calls⟩

/-- The connection of a generation is lost. -/
def readLoss (s : Shard) (calls : List (Call Listener)) (generation : Nat) (code : Option Nat) :
    ReadResult Listener :=
  let (loss, s, sent) := s.lose generation code
  ⟨s, calls, sent, false, loss.reconnects⟩

/-- What something on the connection of a generation does. The reader ends when the
    connection is lost, or is no longer the shard's. -/
def read (s : Shard) (bus : Bus Listener) (generation : Nat) (inbound : Inbound)
    (now : Instant) : ReadResult Listener :=
  let goesOn (s : Shard) : Bool := s.generation = generation && s.isConnected
  match inbound with
  | .text text =>
    let handled := s.handle bus text now
    match handled.flow with
    | .ok .reconnect => handled.shard.readLoss handled.calls generation none
    | .ok .goesOn | .error _ => ⟨handled.shard, handled.calls, [], goesOn handled.shard, false⟩
  | .other => ⟨s, [], [], goesOn s, false⟩
  | .closed code => s.readLoss [] generation code
  | .lost => s.readLoss [] generation none

end Shard

end GatewayClient
