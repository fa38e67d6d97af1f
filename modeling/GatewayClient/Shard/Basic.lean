import GatewayClient.Gateway.CloseCode
import GatewayClient.Shard.Config
import GatewayClient.Shard.Heartbeat
import GatewayClient.Shard.Session

/-!
# Shards

A shard has at most one connection to the gateway at a time. What it knows
outlives its connections: the session, and whether it was shut down. What belongs
to one connection is installed when the connection is established and taken out
when it is torn down: its sending half, and the signal that stops its reader and
its monitor.

Each connection has a generation. The generation moves on when a connection is
established and whenever one is given up, so that a task can tell whether the
connection that it was started for is still the shard's.

The operations here are the single accesses of which everything that a shard does
is made up; between two of them another task may come in. `Shard.teardown`,
`Shard.kill` and `Shard.shutdown` are what they amount to when none does.
-/

namespace GatewayClient

/-- Where a shard is in the life of its connection. -/
inductive ConnectionState where
  /-- There is no connection. -/
  | dead
  /-- One is being opened. -/
  | connecting
  /-- The handshake is sent, reader and monitor run. -/
  | connected
  /-- The connection is being torn down. -/
  | disconnecting
  deriving DecidableEq, Repr

namespace ConnectionState

/-- The name of a state. -/
def name : ConnectionState → String
  | dead => "dead"
  | connecting => "connecting"
  | connected => "connected"
  | disconnecting => "disconnecting"

/-- The name of a state with a capital. -/
def title : ConnectionState → String
  | dead => "Dead"
  | connecting => "Connecting"
  | connected => "Connected"
  | disconnecting => "Disconnecting"

end ConnectionState

/-- A connection, by a number that no other one of the shard has. -/
abbrev Connection := Nat

/-- A shard. -/
structure Shard where
  /-- Its number among the shards of the client. -/
  index : Nat
  config : ShardConfig
  state : ConnectionState
  /-- What is known about the session. -/
  session : Session
  /-- The heartbeats of the last connection. -/
  heartbeat : Heartbeat
  /-- The connection whose sending half is installed. -/
  sink : Option Connection
  /-- The connection whose reader and monitor can be stopped. -/
  stop : Option Connection
  /-- The generation of the last connection, or beyond it once that is given
      up. -/
  generation : Nat
  /-- Whether the shard was shut down. -/
  isShutDown : Bool
  deriving BEq, Repr

/-- What a shard sends on a connection. -/
inductive Sending where
  /-- A message. -/
  | message (e : Envelope)
  /-- A close frame with a code, after which nothing comes. -/
  | close (code : Nat)
  deriving BEq, Repr

namespace Shard

/-- The interval between heartbeats that a shard has before any connection. -/
def initialInterval : Duration := Duration.ofSeconds 45

/-- A shard that has never had a connection. -/
def new (index : Nat) (config : ShardConfig) : Shard where
  index
  config
  state := .dead
  session := .none
  heartbeat := .fresh initialInterval
  sink := none
  stop := none
  generation := 0
  isShutDown := false

/-- Whether the shard has a connection that works. -/
def isConnected (s : Shard) : Bool := s.state = .connected

/-- The shard for people. -/
def text (s : Shard) : String :=
  s!"Shard \x7b index: {s.index}, shard_count: {s.config.shardCount}, state: {s.state.title} \x7d"

/-! ### Single accesses -/

/-- The state is set. -/
def setState (s : Shard) (state : ConnectionState) : Shard := { s with state }

/-- The generation moves on. -/
def bump (s : Shard) : Shard := { s with generation := s.generation + 1 }

/-- The generation moves on if it still is the given one; whether it was. -/
def bumpFrom (s : Shard) (generation : Nat) : Bool × Shard :=
  if s.generation = generation then (true, s.bump) else (false, s)

/-- The signal that stops reader and monitor is taken out. -/
def takeStop (s : Shard) : Option Connection × Shard := (s.stop, { s with stop := none })

/-- The state says that the connection is being torn down, if there is one. -/
def markDisconnecting (s : Shard) : Shard :=
  if s.state = .dead then s else s.setState .disconnecting

/-- The sending half is taken out. -/
def takeSink (s : Shard) : Option Connection × Shard := (s.sink, { s with sink := none })

/-- The shard is marked as shut down. -/
def markShutDown (s : Shard) : Shard := { s with isShutDown := true }

/-- The session is forgotten. -/
def clearSession (s : Shard) : Shard := { s with session := .none }

/-- The gateway's close code is applied to the session. -/
def voidSession (s : Shard) (code : Option Nat) : Shard :=
  match code with
  | some code => { s with session := s.session.afterClose code }
  | none => s

/-- The signal that stops a connection's reader and monitor is installed. -/
def installStop (s : Shard) (c : Connection) : Shard := { s with stop := some c }

/-- The heartbeats of a new connection begin. -/
def resetHeartbeat (s : Shard) (interval : Duration) : Shard :=
  { s with heartbeat := .fresh interval }

/-- The sending half of a connection is installed. -/
def installSink (s : Shard) (c : Connection) : Shard := { s with sink := some c }

/-! ### Without interruption -/

/-- The connection, if there is one, is closed with a code and given up. -/
def teardown (s : Shard) (code : Nat) : Shard × List (Connection × Sending) :=
  ({ s with stop := none, sink := none, state := .dead },
    s.sink.toList.map fun c => (c, .close code))

/-- The connection is dropped so that its session can be resumed. -/
def kill (s : Shard) : Shard × List (Connection × Sending) := s.bump.teardown CloseCode.resumable

/-- The connection is closed for good and the session is forgotten. -/
def shutdown (s : Shard) : Shard × List (Connection × Sending) :=
  s.markShutDown.bump.clearSession.teardown CloseCode.normal.code

/-- A connection becomes the shard's. -/
def establish (s : Shard) (c : Connection) (interval : Duration) : Shard :=
  (((s.bump.installStop c).resetHeartbeat interval).installSink c).setState .connected

/-- Whether the shard connects again by itself after its connection was lost. -/
def wantsReconnect (s : Shard) : Bool := !s.isShutDown && s.config.autoReconnect

/-- What is to be done about a lost connection: whether the loss was news, and
    whether the shard is to connect again. -/
structure Loss where
  isNews : Bool
  reconnects : Bool
  deriving DecidableEq, Repr

/-- A task noticed that the connection of a generation is lost, perhaps by a close
    code. Only the first to notice counts. -/
def lose (s : Shard) (generation : Nat) (code : Option Nat) :
    Loss × Shard × List (Connection × Sending) :=
  match s.bumpFrom generation with
  | (false, s) => (⟨false, false⟩, s, [])
  | (true, s) =>
    let (s, sent) := (s.voidSession code).teardown CloseCode.resumable
    (⟨true, s.wantsReconnect && !code.any CloseCode.codeIsFatal⟩, s, sent)

end Shard

end GatewayClient
