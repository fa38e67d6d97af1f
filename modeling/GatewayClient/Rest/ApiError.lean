import GatewayClient.Json.Record

/-!
# Errors of the API

A response that does not tell of success. Its body is kept as it came; where it
is a record of a number and a message, these are read from it.
-/

namespace GatewayClient

open Json

/-- A response that does not tell of success. -/
structure ApiError where
  status : Nat
  /-- The body as it came. -/
  body : String
  /-- The number that the API gives the error. -/
  code : Option Int
  /-- What the API says about the error. -/
  message : Option String
  deriving DecidableEq, Repr

namespace ApiError

/-- The number and the message in a body. -/
def detail? (body : String) : Option (Option Int × Option String) := do
  match ← (← Tree.parse body).fields ["code", "message"] with
  | [code, message] => return (← code.optional Tree.integer64?, ← message.optional Tree.text?)
  | _ => none

/-- The error of a response. -/
def ofResponse (status : Nat) (body : String) : ApiError :=
  let (code, message) := (detail? body).getD (none, none)
  ⟨status, body, code, message⟩

/-- Whether the request is to blame. -/
def isClientError (e : ApiError) : Bool := 400 ≤ e.status && e.status < 500

/-- Whether the server is to blame. -/
def isServerError (e : ApiError) : Bool := 500 ≤ e.status && e.status < 600

/-- Whether there were too many requests. -/
def isRateLimited (e : ApiError) : Bool := e.status = 429

/-- The error for people. -/
def text (e : ApiError) : String := s!"API returned {e.status}: {e.message.getD e.body}"

end ApiError

end GatewayClient
