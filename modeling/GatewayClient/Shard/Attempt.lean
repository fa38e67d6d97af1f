import GatewayClient.Shard.Basic
import GatewayClient.Shard.Error

/-!
# Connecting

To connect, a shard opens a connection, waits for the gateway's greeting, and
opens or resumes its session. Only when the message that does so is sent does the
connection become the shard's; an attempt that fails before leaves the shard as it
was, without a connection.

* `Shard.opening`: the message that opens or resumes the session.
* `Shard.connect`: an attempt without interruption.
-/

namespace GatewayClient

/-- What comes first on a connection. -/
inductive Greeting where
  /-- A text message. -/
  | text (s : String)
  /-- The gateway closes the connection, perhaps with a number. -/
  | closed (code : Option Nat)
  /-- The connection ends. -/
  | ended
  /-- The connection breaks. -/
  | broken
  /-- Nothing comes in time. -/
  | late
  deriving DecidableEq, Repr

/-- The interval between heartbeats that a greeting asks for. -/
def Greeting.interval : Greeting → Except ShardError Duration
  | text s =>
    match Frame.read s with
    | .error fault => .error (.frame fault)
    | .ok (.hello h) =>
      if h.heartbeatInterval = 0 then .error (.handshake .zeroInterval)
      else .ok (Duration.ofMillis h.heartbeatInterval)
    | .ok frame => .error (.handshake (.notHello frame))
  | closed code => .error (.handshake (.closed code))
  | ended => .error (.handshake .ended)
  | broken => .error .socket
  | late => .error (.handshake .timedOut)

/-- What the outside world does during an attempt to connect. -/
structure Attempt where
  /-- The connection, if one can be opened. -/
  connection : Option Connection
  /-- What comes first on it. -/
  greeting : Greeting
  /-- How waiting for a handshake slot ends, where the shard does. -/
  slot : Except RateLimitError Unit
  /-- Whether the shard's message can be sent. -/
  isDelivered : Bool

/-- What an attempt to connect did. -/
structure Attempted where
  /-- How it ended. -/
  result : Except ShardError Unit
  shard : Shard
  /-- The address that it went to. -/
  dialed : String
  sent : List (Connection × Sending)

namespace Shard

/-- The address that an attempt goes to. -/
def target (s : Shard) : String := s.session.connectUrl s.config.url

/-- The message with which a connection begins. -/
def opening (s : Shard) : Handshake → Envelope
  | .identify => .identify (s.config.identify s.index)
  | .resume sessionId seq => .resume { token := s.config.token, sessionId, seq }

/-- The part of an attempt before the connection becomes the shard's: the
    connection, the interval between heartbeats, and the message that was sent. -/
def openSession (s : Shard) (a : Attempt) :
    Except ShardError (Connection × Duration × Envelope) := do
  let c ← match a.connection with
    | some c => pure c
    | none => throw .connect
  let interval ← a.greeting.interval
  let handshake := s.session.handshake
  if handshake = .identify then
    match a.slot with
    | .ok () => pure ()
    | .error reason => throw (.rateLimit reason)
  if a.isDelivered then return (c, interval, s.opening handshake) else throw .socket

/-- The shard without the connection that it may still have, ready for an
    attempt. -/
def prepare (s : Shard) : Shard × List (Connection × Sending) :=
  let (s, sent) := if s.state = .dead then (s, []) else s.kill
  (s.setState .connecting, sent)

/-- An attempt to connect. Where it goes is decided once the old connection is gone. -/
def connect (s : Shard) (a : Attempt) : Attempted :=
  let (s, sent) := s.prepare
  match s.openSession a with
  | .ok (c, interval, e) => ⟨.ok (), s.establish c interval, s.target, sent ++ [(c, .message e)]⟩
  | .error reason => ⟨.error reason, s.setState .dead, s.target, sent⟩

/-- A message is sent on the shard's connection. -/
def send (s : Shard) (e : Envelope) (isDelivered : Bool) :
    Except ShardError (List (Connection × Sending)) :=
  match s.sink with
  | none => .error .notConnected
  | some c => if isDelivered then .ok [(c, .message e)] else .error .socket

/-- A presence is shown from now on. -/
def updatePresence (s : Shard) (p : Presence) (isDelivered : Bool) :
    Except ShardError (List (Connection × Sending)) :=
  if s.isConnected then s.send (.presenceUpdate p) isDelivered else .error .notConnected

end Shard

end GatewayClient
