import GatewayClient.Rest.Client

/-!
# Runs of a client

Requests that go through one client one after the other, each with what is to come
of it if it is handed over. The limiter of the client sees little of that: the route
of a request, whether its body can be encoded, and what the response reports.

* `Client.step`, `Client.after`: a request of a script, and several.
* `Limiter.serve`, `Limiter.after`: what the limiter sees of them.
-/

namespace GatewayClient

open Json

/-- A request of a script. -/
structure ScriptedRequest where
  /-- How long after the end of the one before it comes. -/
  pause : Duration
  endpoint : Endpoint
  body : Body
  /-- What separates the parts of the body. -/
  boundary : String
  /-- What is asked for. -/
  α : Type
  read : Tree → Option α
  /-- What comes of it if it is handed over. -/
  exchange : Exchange

/-- A library that makes the same of every request and remembers what it was handed. -/
def Http.scripted (exchange : Exchange) : Http (List (Instant × HttpRequest)) :=
  fun r now handed => (exchange, handed ++ [(now, r)])

/-- A client between two requests. -/
structure Situation (σ : Type) where
  now : Instant
  accounts : σ
  /-- What the HTTP library was handed. -/
  handed : List (Instant × HttpRequest)

/-- What a limiter sees of a client between two requests. -/
def Situation.limits {σ : Type} (x : Situation σ) : Instant × σ := (x.now, x.accounts)

namespace Client

variable {σ : Type} (c : Client σ)

/-- A request of a script from beginning to end, and what the library was handed then. -/
def perform (q : ScriptedRequest) (x : Situation σ) :
    Requested σ q.α × List (Instant × HttpRequest) :=
  c.requestThrough (.scripted q.exchange) q.boundary q.read q.endpoint q.body (x.now + q.pause)
    x.accounts x.handed

/-- A client after a request of a script. -/
def step (q : ScriptedRequest) (x : Situation σ) : Situation σ :=
  ⟨(c.perform q x).1.now, (c.perform q x).1.accounts, (c.perform q x).2⟩

/-- A client after the requests of a script. -/
def after : List ScriptedRequest → Situation σ → Situation σ
  | [], x => x
  | q :: rest, x => after rest (c.step q x)

end Client

/-- What a limiter hears of a request that was handed over. -/
inductive Feedback where
  /-- Nothing, for some time. -/
  | silence (time : Duration)
  /-- What the response reports, some time after the request and before the end of the
      response. -/
  | heard (headAfter : Duration) (report : RateLimitReport) (bodyAfter : Duration)

/-- What a limiter hears of an exchange. -/
def Exchange.feedback : Exchange → Feedback
  | failed after => .silence after
  | answered r => .heard r.headAfter r.headers.report r.bodyAfter

/-- What a limiter sees of a request. -/
structure LimiterUse where
  pause : Duration
  route : Route
  /-- Whether the request is handed over once it is admitted. -/
  isEncoded : Bool
  feedback : Feedback

namespace Limiter

variable {σ : Type} (l : Limiter σ)

/-- The clock and the accounts after the feedback on a request. -/
def hear (route : Route) : Feedback → Instant × σ → Instant × σ
  | .silence time, (now, s) => (now + time, s)
  | .heard headAfter report bodyAfter, (now, s) =>
    (now + headAfter + bodyAfter, ((l.update route report).runAt (now + headAfter) s).2)

/-- The clock and the accounts after a request. -/
def serve (u : LimiterUse) (x : Instant × σ) : Instant × σ :=
  match l.acquire u.route (x.1 + u.pause) x.2 with
  | (.error _, x) => x
  | (.ok _, x) => if u.isEncoded then l.hear u.route u.feedback x else x

/-- The clock and the accounts after several requests. -/
def after : List LimiterUse → Instant × σ → Instant × σ
  | [], x => x
  | u :: rest, x => after rest (l.serve u x)

end Limiter

end GatewayClient
