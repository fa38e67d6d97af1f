import GatewayClient.RateLimit.Limiter
import GatewayClient.Rest.ApiError
import GatewayClient.Rest.Body
import GatewayClient.Rest.Config
import GatewayClient.Rest.Endpoint
import GatewayClient.Rest.Headers
import GatewayClient.Rest.Url

/-!
# The API client

A request waits until the limiter admits it. Then its body is encoded, and it is
handed to an HTTP library, which answers with a response or fails. What the
response reports about the limits is entered whatever else it says; only then is
its body read. A response of success is decoded, any other one is an error of the
API.

The library checks the parts of a request before it puts it on the wire. What it
makes of a request, and what it remembers of it, is a function of the request, of
the instant at which it gets it and of what it remembers, so a client can be run
against any server.

* `Client.requestThrough`: one request from beginning to end.
* `Client.request`: one request where the library has a transport and remembers
  nothing.
-/

namespace GatewayClient

open Json

/-- Why a request failed. -/
inductive RestError where
  /-- The limiter failed. -/
  | rateLimit (reason : RateLimitError)
  /-- The body cannot be encoded. -/
  | encode (reason : EncodeError)
  /-- Nothing can be sent, or no whole response comes back. -/
  | transport
  /-- The body of a response of success is not what was asked for. -/
  | decode
  /-- The response does not tell of success. -/
  | api (e : ApiError)
  deriving DecidableEq, Repr

/-- The reason for people, where the words are the client's own. -/
def RestError.message? : RestError → Option String
  | rateLimit reason => reason.message?.map fun m => s!"Rate limiter failure: {m}"
  | encode reason => some s!"Failed to encode request body: {reason.reason}"
  | transport => none
  | decode => none
  | api e => some e.text

/-- A request as the HTTP library gets it. Whether its parts can be sent is not known
    yet. -/
structure HttpRequest where
  method : String
  /-- The address as a text. -/
  address : String
  authorization : String
  userAgent : String
  content : Option Content
  deriving DecidableEq, Repr

/-- A request on the wire. -/
structure WireRequest where
  method : String
  url : Url
  authorization : String
  userAgent : String
  content : Option Content
  deriving DecidableEq, Repr

/-- A response. -/
structure Response where
  status : Nat
  headers : Headers
  /-- How long after the request the headers came. -/
  headAfter : Duration
  /-- The body, unless it breaks off. -/
  body : Option (List UInt8)
  /-- How long after the headers the body ended. -/
  bodyAfter : Duration
  deriving DecidableEq, Repr

/-- What comes of a request. -/
inductive Exchange where
  /-- No response comes, and that takes some time to find out. -/
  | failed (after : Duration)
  | answered (response : Response)
  deriving DecidableEq, Repr

/-- What carries requests to a server. -/
abbrev Transport := WireRequest → Instant → Exchange

/-- An HTTP library that remembers `τ`. -/
abbrev Http (τ : Type) := HttpRequest → Instant → τ → Exchange × τ

/-- A client of the API. -/
structure Client (σ : Type) where
  config : RestConfig
  /-- What all requests are to keep to. -/
  limiter : Option (Limiter σ)

/-- What a request did. -/
structure Requested (σ α : Type) where
  /-- The request, if it was handed to the HTTP library, and when. -/
  handed : Option (Instant × HttpRequest)
  result : Except RestError α
  /-- When it ended. -/
  now : Instant
  accounts : σ

/-- Whether a text may be the value of a header. -/
def isHeaderValue (s : String) : Bool :=
  s.toList.all fun c => (0x20 ≤ c.toNat && c.toNat ≠ 0x7F) || c = '\t'

/-- Whether a client with a configuration can be made: its name goes into a
    header. -/
def RestConfig.isUsable (c : RestConfig) : Bool := isHeaderValue c.userAgent

/-- The request on the wire, if its parts can be sent. -/
def HttpRequest.onWire? (r : HttpRequest) : Option WireRequest := do
  let url ← Url.ofText? r.address
  if isHeaderValue r.authorization then
    return { method := r.method, url, authorization := r.authorization, userAgent := r.userAgent,
             content := r.content }
  else none

/-- A library over a transport. A request that cannot be sent fails at once. -/
def Http.over (transport : Transport) : Http Unit := fun r now _ =>
  match r.onWire? with
  | none => (.failed 0, ())
  | some w => (transport w now, ())

namespace Response

/-- Whether the response tells of success. -/
def isSuccess (status : Nat) : Bool := 200 ≤ status && status < 300

/-- A blank in a body that has nothing else. -/
def isBlankByte (b : UInt8) : Bool := b = 0x20 || b = 9 || b = 10 || b = 12 || b = 13

/-- The value that a body writes; one that is blank stands for `null`. -/
def tree? (body : List UInt8) : Option Tree :=
  if body.all isBlankByte then some .null else (Utf8.decode? body).bind Tree.parse

end Response

namespace Client

variable {σ α : Type} (c : Client σ)

/-- The request for an endpoint. -/
def httpRequest (e : Endpoint) (content : Option Content) : HttpRequest where
  method := e.method
  address := e.url c.config.baseUrl
  authorization := "Bot " ++ c.config.token
  userAgent := c.config.userAgent
  content := content

/-- The wait for admission. -/
def admission (e : Endpoint) (now : Instant) (s : σ) : Except RestError Unit × Instant × σ :=
  match c.limiter with
  | none => (.ok (), now, s)
  | some l =>
    match l.acquire e.route now s with
    | (.ok _, now, s) => (.ok (), now, s)
    | (.error reason, now, s) => (.error (.rateLimit reason), now, s)

/-- What a response reports about the limits is entered. -/
def report (e : Endpoint) (headers : Headers) (now : Instant) (s : σ) :
    Except RestError Unit × σ :=
  match c.limiter with
  | none => (.ok (), s)
  | some l =>
    match (l.update e.route headers.report).runAt now s with
    | (.ok (), s) => (.ok (), s)
    | (.error reason, s) => (.error (.rateLimit (.store reason)), s)

/-- What is asked for, from the body of a response of success. -/
def decoded (read : Tree → Option α) (body : List UInt8) : Except RestError α :=
  match (Response.tree? body).bind read with
  | some a => .ok a
  | none => .error .decode

/-- What a response with a whole body comes to. -/
def decode (read : Tree → Option α) (status : Nat) (body : List UInt8) : Except RestError α :=
  if Response.isSuccess status then decoded read body
  else .error (.api (.ofResponse status (Utf8.decodeLossy body)))

/-- A response after the library has handed it back. -/
def receive (read : Tree → Option α) (e : Endpoint) (handed : Instant × HttpRequest)
    (r : Response) (s : σ) : Requested σ α :=
  let now := handed.1 + r.headAfter
  match c.report e r.headers now s with
  | (.error reason, s) => ⟨some handed, .error reason, now, s⟩
  | (.ok (), s) =>
    let now := now + r.bodyAfter
    match r.body with
    | none => ⟨some handed, .error .transport, now, s⟩
    | some body => ⟨some handed, decode read r.status body, now, s⟩

/-- What comes of a request that was handed over. -/
def conclude (read : Tree → Option α) (e : Endpoint) (handed : Instant × HttpRequest) (s : σ) :
    Exchange → Requested σ α
  | .failed after => ⟨some handed, .error .transport, handed.1 + after, s⟩
  | .answered r => c.receive read e handed r s

/-- One request from beginning to end, at an instant. A boundary separates the
    parts of its body where it has several. -/
def requestThrough {τ : Type} (http : Http τ) (boundary : String) (read : Tree → Option α)
    (e : Endpoint) (body : Body) (now : Instant) (s : σ) (h : τ) : Requested σ α × τ :=
  match c.admission e now s with
  | (.error reason, now, s) => (⟨none, .error reason, now, s⟩, h)
  | (.ok (), now, s) =>
    match body.encode boundary with
    | .error reason => (⟨none, .error (.encode reason), now, s⟩, h)
    | .ok content =>
      let request := c.httpRequest e content
      let (exchange, h) := http request now h
      (c.conclude read e (now, request) s exchange, h)

/-- One request from beginning to end over a transport. -/
def request (transport : Transport) (boundary : String) (read : Tree → Option α) (e : Endpoint)
    (body : Body) (now : Instant) (s : σ) : Requested σ α :=
  (c.requestThrough (.over transport) boundary read e body now s ()).1

end Client

end GatewayClient
