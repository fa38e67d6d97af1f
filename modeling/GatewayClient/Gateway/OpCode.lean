/-!
# Operation codes

Every message on the gateway says by a code what it is. A client sends some of
them and receives others; heartbeats go both ways.
-/

namespace GatewayClient

/-- What a gateway message is. -/
inductive OpCode where
  /-- An event. -/
  | dispatch
  /-- A heartbeat, or the gateway's request for one. -/
  | heartbeat
  /-- Opens a new session. -/
  | identify
  /-- Changes the client's presence. -/
  | presenceUpdate
  /-- Continues a session. -/
  | resume
  /-- The gateway asks the client to connect anew. -/
  | reconnect
  /-- Asks for the members of a guild. -/
  | requestGuildMembers
  /-- The session is void, or may be resumed. -/
  | invalidSession
  /-- The gateway's first message. -/
  | hello
  /-- Acknowledges a heartbeat. -/
  | heartbeatAck
  deriving DecidableEq, Repr

namespace OpCode

/-- All operation codes by ascending number. -/
def all : List OpCode :=
  [dispatch, heartbeat, identify, presenceUpdate, resume, reconnect, requestGuildMembers,
    invalidSession, hello, heartbeatAck]

/-- The number of an operation. -/
def code : OpCode → Nat
  | dispatch => 0
  | heartbeat => 1
  | identify => 2
  | presenceUpdate => 3
  | resume => 6
  | reconnect => 7
  | requestGuildMembers => 8
  | invalidSession => 9
  | hello => 10
  | heartbeatAck => 11

/-- The operation with a number. -/
def ofCode? (n : Nat) : Option OpCode := all.find? fun op => op.code = n

theorem ofCode?_code (op : OpCode) : ofCode? op.code = some op := by cases op <;> rfl

/-- The name of an operation. -/
def name : OpCode → String
  | dispatch => "Dispatch"
  | heartbeat => "Heartbeat"
  | identify => "Identify"
  | presenceUpdate => "PresenceUpdate"
  | resume => "Resume"
  | reconnect => "Reconnect"
  | requestGuildMembers => "RequestGuildMembers"
  | invalidSession => "InvalidSession"
  | hello => "Hello"
  | heartbeatAck => "HeartbeatAck"

/-- Whether a client sends the operation. -/
def isSent : OpCode → Bool
  | heartbeat | identify | presenceUpdate | resume | requestGuildMembers => true
  | _ => false

/-- Whether a client receives the operation. -/
def isReceived : OpCode → Bool
  | dispatch | heartbeat | reconnect | invalidSession | hello | heartbeatAck => true
  | _ => false

/-- An operation by name and number. -/
def text (op : OpCode) : String := s!"{op.name} ({op.code})"

end OpCode

end GatewayClient
