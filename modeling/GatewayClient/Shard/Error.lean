import GatewayClient.Gateway.Frame
import GatewayClient.RateLimit.Limiter

/-!
# Errors of shards

Why a shard could not connect, send or read. The words are the client's own where
`message?` has any.
-/

namespace GatewayClient

/-- Why the gateway's greeting opens no connection. -/
inductive HandshakeFault where
  /-- The gateway closed the connection, perhaps with a number. -/
  | closed (code : Option Nat)
  /-- The connection ended. -/
  | ended
  /-- The greeting asks for heartbeats without a pause. -/
  | zeroInterval
  /-- The greeting did not come in time. -/
  | timedOut
  /-- Another message came first. -/
  | notHello (frame : Frame)
  deriving BEq, Repr

/-- What went wrong with a shard. -/
inductive ShardError where
  /-- No connection could be opened. -/
  | connect
  /-- The connection broke. -/
  | socket
  /-- The gateway did not greet. -/
  | handshake (fault : HandshakeFault)
  /-- A message is no frame. -/
  | frame (fault : FrameError)
  /-- The limiter failed. -/
  | rateLimit (reason : RateLimitError)
  /-- There is no connection. -/
  | notConnected
  deriving BEq, Repr

/-- Why a message is no frame, in the client's own words. -/
def FrameError.message? : FrameError → Option String
  | decode reason => reason.reason?.map fun r => s!"Malformed frame: {r}"
  | unnamedEvent => some "Unexpected frame: dispatch without event name"
  | sendOnly op => some s!"Unexpected frame: received send-only op {op.text}"

namespace Json.Value

/-- A character inside quotes, for people. -/
def shownChar (c : Char) : List Char :=
  match c with
  | '"' => ['\\', '"']
  | '\\' => ['\\', '\\']
  | '\n' => ['\\', 'n']
  | '\r' => ['\\', 'r']
  | '\t' => ['\\', 't']
  | '\x00' => ['\\', '0']
  | c =>
    if c.toNat < 0x20 || c.toNat = 0x7F then
      '\\' :: 'u' :: '\x7b' :: (Nat.toDigits 16 c.toNat ++ ['\x7d'])
    else [c]

/-- A text in quotes, for people. -/
def shownText (s : String) : String :=
  String.ofList ('"' :: (s.toList.flatMap shownChar ++ ['"']))

mutual

/-- A value with the kinds of its parts, for people. -/
def shown : Value → String
  | .null => "Null"
  | .bool b => "Bool(" ++ (if b then "true" else "false") ++ ")"
  | .number n => "Number(" ++ String.ofList n.text ++ ")"
  | .string s => "String(" ++ shownText s ++ ")"
  | .array items => "Array [" ++ ", ".intercalate (shownItems items) ++ "]"
  | .object members =>
    "Object \x7b" ++ ", ".intercalate (shownMembers members) ++ "\x7d"

/-- The items of an array, for people. -/
def shownItems : List Value → List String
  | [] => []
  | v :: rest => shown v :: shownItems rest

/-- The members of an object, for people. -/
def shownMembers : List (String × Value) → List String
  | [] => []
  | (name, v) :: rest => (shownText name ++ ": " ++ shown v) :: shownMembers rest

end

end Json.Value

/-- A frame for people. -/
def Frame.shown : Frame → String
  | dispatch event data =>
    "Dispatch \x7b event: " ++ Json.Value.shownText event ++ ", data: " ++ data.shown ++ " \x7d"
  | heartbeat => "Heartbeat"
  | reconnect => "Reconnect"
  | invalidSession r =>
    "InvalidSession \x7b resumable: " ++ (if r then "true" else "false") ++ " \x7d"
  | hello h =>
    "Hello(HelloPayload \x7b heartbeat_interval: " ++ toString h.heartbeatInterval ++ " \x7d)"
  | heartbeatAck => "HeartbeatAck"

namespace HandshakeFault

/-- The reason for people. -/
def reason : HandshakeFault → String
  | closed (some code) => s!"closed before Hello: Some({code})"
  | closed none => "closed before Hello: None"
  | ended => "connection ended before Hello"
  | zeroInterval => "Hello with zero heartbeat interval"
  | timedOut => "timed out waiting for Hello"
  | notHello frame => "expected Hello as first frame, got " ++ frame.shown

end HandshakeFault

/-- The reason for people, where the words are the client's own. -/
def ShardError.message? : ShardError → Option String
  | connect => none
  | socket => none
  | handshake fault => some s!"Handshake failed: {fault.reason}"
  | frame fault => fault.message?
  | rateLimit reason => reason.message?.map fun m => s!"Rate limiter failure: {m}"
  | notConnected => some "Shard is not connected"

end GatewayClient
