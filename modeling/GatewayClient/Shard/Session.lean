import GatewayClient.Gateway.CloseCode
import GatewayClient.Text.Trim

/-!
# Sessions

What a shard remembers from one connection to the next: the identifier of its
session, the last sequence number, and where to connect in order to resume. With
an identifier and a number the next connection resumes the session, otherwise it
opens a new one.

* `Session.handshake`: what the next connection has to say.
* `Session.connectUrl`: where it goes.
-/

namespace GatewayClient

/-- How a connection begins. -/
inductive Handshake where
  /-- With a new session. -/
  | identify
  /-- With the session that a shard already has. -/
  | resume (sessionId : String) (sequence : Nat)
  deriving DecidableEq, Repr

/-- What is known about a session. -/
structure Session where
  /-- The identifier that the gateway gave it. -/
  id : Option String
  /-- The greatest sequence number received. -/
  sequence : Option Nat
  /-- Where to connect in order to resume it. -/
  resumeUrl : Option String
  deriving DecidableEq, Repr

namespace Session

/-- No session. -/
def none : Session := ⟨.none, .none, .none⟩

/-- What the next connection has to say. -/
def handshake (s : Session) : Handshake :=
  match s.id, s.sequence with
  | some id, some n => .resume id n
  | _, _ => .identify

/-- The session after a message with a sequence number; the number never goes
    back. -/
def recordSequence (s : Session) (n : Nat) : Session :=
  { s with sequence := some (s.sequence.elim n (max · n)) }

/-- The session that its first message opens. Nothing of an earlier session is
    left, not even the sequence number. -/
def start (id : String) (sequence : Option Nat) (resumeUrl : Option String) : Session :=
  ⟨some id, sequence, resumeUrl⟩

/-- The session after the gateway has closed the connection with a number. -/
def afterClose (s : Session) (code : Nat) : Session :=
  if CloseCode.codeClears code then none else s

/-- The address at which a session is resumed: the announced one, with the
    query of the configured one unless it has its own. -/
def resumeTarget (announced configured : String) : String :=
  match Trim.cut? '?' configured.toList with
  | some (_, query) =>
    if announced.toList.contains '?' then announced
    else String.ofList (Trim.right (· = '/') announced.toList ++ '/' :: '?' :: query)
  | .none => announced

/-- The address of the next connection. -/
def connectUrl (s : Session) (configured : String) : String :=
  match s.resumeUrl, s.handshake with
  | some announced, .resume _ _ => resumeTarget announced configured
  | _, _ => configured

end Session

end GatewayClient
