import GatewayClient.Gateway.Payload

/-!
# Frames

What a received message means to the client. Operations that only clients send
are refused, and so are an event without a name and a greeting without a usable
interval.
-/

namespace GatewayClient

open Json

/-- A received message by its operation. -/
inductive Frame where
  /-- An event with its payload. -/
  | dispatch (event : String) (data : Value)
  /-- The gateway asks for a heartbeat. -/
  | heartbeat
  /-- The gateway asks the client to connect anew. -/
  | reconnect
  /-- The session is void, unless it may be resumed. -/
  | invalidSession (resumable : Bool)
  /-- The gateway's greeting, or a new interval for heartbeats. -/
  | hello (hello : Hello)
  /-- A heartbeat is acknowledged. -/
  | heartbeatAck
  deriving BEq, Repr

/-- Why a message is no frame. -/
inductive FrameError where
  /-- The text or a payload is malformed. -/
  | decode (reason : DecodeError)
  /-- An event that has no name. -/
  | unnamedEvent
  /-- An operation that a client never receives. -/
  | sendOnly (op : OpCode)
  deriving DecidableEq, Repr

namespace Frame

/-- The frame that a message is. A flag that is no truth value counts as
    resumable. -/
def ofEnvelope (e : Envelope) : Except FrameError Frame :=
  match e.op with
  | .dispatch =>
    match e.name with
    | some event => .ok (.dispatch event e.payload)
    | none => .error .unnamedEvent
  | .heartbeat => .ok .heartbeat
  | .reconnect => .ok .reconnect
  | .invalidSession => .ok (.invalidSession (e.payload.asBool?.getD true))
  | .hello =>
    match Hello.ofValue? e.payload with
    | some h => .ok (.hello h)
    | none => .error (.decode .malformed)
  | .heartbeatAck => .ok .heartbeatAck
  | op => .error (.sendOnly op)

/-- The frame that a text is. -/
def read (text : String) : Except FrameError Frame :=
  match Envelope.read text with
  | .ok e => ofEnvelope e
  | .error reason => .error (.decode reason)

end Frame

end GatewayClient
