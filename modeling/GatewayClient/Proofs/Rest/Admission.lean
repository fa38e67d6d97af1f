import GatewayClient.RateLimit.Traffic
import GatewayClient.Rest.Client
import Mathlib

/-!
# Admission before sending

A request of a client with a limiter is handed to the HTTP library only after a token was
taken for it, and after one only. An error of the limiter is ambiguous, though: it comes
before anything is sent where the request is not admitted, and after the response where the
report in it cannot be entered.

* `Limiter.takesToken_of_acquire`: the token of an admitted caller.
* `Client.requestThrough_of_refused` and those after it: the ways that a request may go.
* `Client.isUnsentOnLimiterError_iff`: when an error of the limiter tells that nothing was
  sent.
-/

namespace GatewayClient

/-! ## The token of a caller -/

namespace Limiter

variable {σ : Type} {l : Limiter σ} {route : Route} {key : String} {now t : Instant} {s s' : σ}

/-- A token of the bucket with a key was taken at an instant, after operations of which none
    gave one. -/
def TakesToken (l : Limiter σ) (key : String) (s : σ) (t : Instant) (s' : σ) : Prop :=
  ∃ asked : List TimedCall, .ok (.admission .granted) ∉ l.store.answers asked s ∧
    (l.store.take key).runAt t (l.store.after asked s) = (.ok .granted, s')

/-- An operation that gives no token may come before. -/
theorem TakesToken.cons {time : Instant} {call : StoreCall} {s₁ : σ}
    {answer : Except StoreError StoreReply}
    (hcall : (l.store.perform call).runAt time s = (answer, s₁))
    (hanswer : answer ≠ .ok (.admission .granted)) (h : l.TakesToken key s₁ t s') :
    l.TakesToken key s t s' := by
  obtain ⟨asked, hasked, htake⟩ := h
  refine ⟨⟨time, call⟩ :: asked, ?_, ?_⟩
  · rw [Store.answers, hcall, List.mem_cons, not_or]
    exact ⟨hanswer.symm, hasked⟩
  · rw [Store.after, hcall]
    exact htake

/-- A request for admission looks at the lockout, and asks for a token if there is none. -/
theorem attempt_cases {a : Admission} (h : (l.attempt key).runAt now s = (.ok a, s')) :
    (∃ d, a = .wait d ∧ (l.store.perform .lockout).runAt now s = (.ok (.lockedFor (some d)), s')) ∨
    ∃ s₁, (l.store.perform .lockout).runAt now s = (.ok (.lockedFor none), s₁) ∧
      (l.store.take key).runAt now s₁ = (.ok a, s') := by
  rw [attempt, StoreAction.runAt_bind] at h
  rw [Store.perform, StoreAction.runAt_bind]
  rcases hlockout : l.store.lockout.runAt now s with ⟨_ | _ | d, s₁⟩
  · rw [hlockout] at h
    cases h
  · rw [hlockout] at h
    exact .inr ⟨s₁, rfl, h⟩
  · rw [hlockout] at h
    cases h
    exact .inl ⟨d, rfl, rfl⟩

theorem perform_take_of {a : Admission} {s₁ : σ}
    (h : (l.store.take key).runAt now s = (.ok a, s₁)) :
    (l.store.perform (.take key)).runAt now s = (.ok (.admission a), s₁) := by
  rw [Store.perform, StoreAction.runAt_bind, h]
  rfl

theorem takesToken_of_acquireWithin {n : Nat} {lastWait : Duration} {k : String}
    (h : l.acquireWithin key n lastWait now s = (.ok k, t, s')) :
    l.TakesToken k s t s' := by
  induction n generalizing lastWait now s with
  | zero => cases h
  | succ n ih =>
    rw [acquireWithin] at h
    split at h
    · cases h
    · next s₁ hattempt =>
      cases h
      rcases attempt_cases hattempt with ⟨d, hd, -⟩ | ⟨s₁, hlockout, htake⟩
      · cases hd
      · exact .cons hlockout nofun ⟨[], List.not_mem_nil, htake⟩
    · next d s₁ hattempt =>
      -- Put off by the lockout, or by the bucket; either way without a token.
      rcases attempt_cases hattempt with ⟨d, -, hlockout⟩ | ⟨s₂, hlockout, htake⟩
      · exact .cons hlockout nofun (ih h)
      · exact .cons hlockout nofun (.cons (perform_take_of htake) nofun (ih h))

/-- A caller that is admitted has taken a token, after operations of which none gave it one. -/
theorem takesToken_of_acquire (h : l.acquire route now s = (.ok key, t, s')) :
    l.TakesToken key s t s' := by
  rw [acquire] at h
  split at h
  · cases h
  · next k s₁ hkey =>
    rw [bucketKey, StoreAction.runAt_bind] at hkey
    split at hkey
    · next name s₂ hname =>
      cases hkey
      have hcall : (l.store.perform (.bucketOf route.key)).runAt now s =
          (.ok (.name name), s₁) := by
        rw [Store.perform, StoreAction.runAt_bind, hname]
        rfl
      exact .cons hcall nofun (takesToken_of_acquireWithin h)
    · cases hkey

end Limiter

/-! ## The ways that a request may go -/

namespace Client

variable {σ α τ : Type} {c : Client σ} {l : Limiter σ} {http : Http τ} {boundary : String}
  {read : Json.Tree → Option α} {e : Endpoint} {body : Body} {now t : Instant} {s s₁ s₂ : σ} {h : τ}
  {key : String} {handed : Instant × HttpRequest} {response : Response}

/-- A request that is not admitted. -/
theorem requestThrough_of_refused {reason : RateLimitError} (hl : c.limiter = some l)
    (hacquire : l.acquire e.route now s = (.error reason, t, s₁)) :
    c.requestThrough http boundary read e body now s h =
      (⟨none, .error (.rateLimit reason), t, s₁⟩, h) := by
  simp only [requestThrough, admission, hl, hacquire]

/-- A request that is admitted and whose body cannot be encoded. -/
theorem requestThrough_of_unencoded {reason : EncodeError} (hl : c.limiter = some l)
    (hacquire : l.acquire e.route now s = (.ok key, t, s₁))
    (hbody : body.encode boundary = .error reason) :
    c.requestThrough http boundary read e body now s h =
      (⟨none, .error (.encode reason), t, s₁⟩, h) := by
  simp only [requestThrough, admission, hl, hacquire, hbody]

/-- A request that is handed over. -/
theorem requestThrough_of_encoded {content : Option Content} (hl : c.limiter = some l)
    (hacquire : l.acquire e.route now s = (.ok key, t, s₁))
    (hbody : body.encode boundary = .ok content) :
    c.requestThrough http boundary read e body now s h =
      (c.conclude read e (t, c.httpRequest e content) s₁ (http (c.httpRequest e content) t h).1,
        (http (c.httpRequest e content) t h).2) := by
  simp only [requestThrough, admission, hl, hacquire, hbody]

/-- A response whose report cannot be entered. -/
theorem receive_of_error {reason : StoreError} (hl : c.limiter = some l)
    (hupdate : (l.update e.route response.headers.report).runAt (handed.1 + response.headAfter) s =
      (.error reason, s₁)) :
    c.receive read e handed response s =
      ⟨some handed, .error (.rateLimit (.store reason)), handed.1 + response.headAfter, s₁⟩ := by
  simp only [receive, report, hl, hupdate]

/-- A response whose report is entered. -/
theorem receive_of_entered (hl : c.limiter = some l)
    (hupdate : (l.update e.route response.headers.report).runAt (handed.1 + response.headAfter) s =
      (.ok (), s₁)) :
    c.receive read e handed response s =
      ⟨some handed, response.body.elim (.error .transport) (decode read response.status),
        handed.1 + response.headAfter + response.bodyAfter, s₁⟩ := by
  simp only [receive, report, hl, hupdate]
  cases response.body <;> rfl

theorem decode_ne_rateLimit (read : Json.Tree → Option α) (status : Nat) (bytes : List UInt8)
    (reason : RateLimitError) : decode read status bytes ≠ .error (.rateLimit reason) := by
  unfold decode decoded
  split
  · split <;> nofun
  · nofun

/-- What is handed over stays what was handed over. -/
theorem handed_conclude (exchange : Exchange) :
    (c.conclude read e handed s exchange).handed = some handed := by
  cases exchange with
  | failed after => rfl
  | answered r =>
    rw [conclude, receive]
    split
    · rfl
    · cases r.body <;> rfl

/-- What was handed over does not end with an error of the limiter exactly if the report of
    its response, should one have come, can be entered. -/
theorem conclude_ne_rateLimit_iff (hl : c.limiter = some l) {exchange : Exchange} :
    (∀ reason, (c.conclude read e handed s exchange).result ≠ .error (.rateLimit reason)) ↔
      ∀ response, exchange = .answered response →
        ((l.update e.route response.headers.report).runAt (handed.1 + response.headAfter) s).1 =
          .ok () := by
  cases exchange with
  | failed after => exact ⟨fun _ => nofun, fun _ => nofun⟩
  | answered r =>
    rcases hupdate : (l.update e.route r.headers.report).runAt (handed.1 + r.headAfter) s with
      ⟨reason | _, s₁⟩
    · have hresult : (c.conclude read e handed s (.answered r)).result =
          .error (.rateLimit (.store reason)) := by
        rw [conclude, receive_of_error hl hupdate]
      refine ⟨fun hne => absurd hresult (hne _), fun hentered => ?_⟩
      have := hentered r rfl
      rw [hupdate] at this
      cases this
    · refine ⟨fun _ response hresponse => ?_, fun _ reason => ?_⟩
      · cases hresponse
        rw [hupdate]
      · rw [conclude, receive_of_entered hl hupdate]
        cases r.body with
        | none => nofun
        | some bytes => exact decode_ne_rateLimit read r.status bytes reason

end Client

/-! ## Errors of the limiter -/

/-- If a request ends with an error of the limiter, nothing was sent for it. -/
def Requested.IsUnsentOnLimiterError {σ α : Type} (r : Requested σ α) : Prop :=
  ∀ reason, r.result = .error (.rateLimit reason) → r.handed = none

namespace Client

/-- A request is handed to the HTTP library once at most, and only at the instant at which its
    caller has taken a token, before which none was given to it. An error of the limiter tells
    that nothing was sent exactly if no response has come whose report could not be entered. -/
theorem isUnsentOnLimiterError_iff {σ α τ : Type} {c : Client σ} {l : Limiter σ}
    (hl : c.limiter = some l) (http : Http τ) (boundary : String) (read : Json.Tree → Option α)
    (e : Endpoint) (body : Body) (now : Instant) (s : σ) (h : τ) :
    let y := c.requestThrough http boundary read e body now s h
    (y.1.handed = none → y.2 = h) ∧
    (∀ t request, y.1.handed = some (t, request) → y.2 = (http request t h).2 ∧
      ∃ key s₁, l.acquire e.route now s = (.ok key, t, s₁) ∧ l.TakesToken key s t s₁) ∧
    (y.1.IsUnsentOnLimiterError ↔
      ∀ t request response key s₁, l.acquire e.route now s = (.ok key, t, s₁) →
        y.1.handed = some (t, request) → (http request t h).1 = .answered response →
        ((l.update e.route response.headers.report).runAt (t + response.headAfter) s₁).1 =
          .ok ()) := by
  intro y
  rcases hacquire : l.acquire e.route now s with ⟨reason | key, t, s₁⟩
  · have hy : y = _ := requestThrough_of_refused hl hacquire
    rw [hy]
    exact ⟨fun _ => rfl, nofun, fun _ => nofun, fun _ _ _ => rfl⟩
  rcases hbody : body.encode boundary with reason | content
  · have hy : y = _ := requestThrough_of_unencoded hl hacquire hbody
    rw [hy]
    exact ⟨fun _ => rfl, nofun, fun _ => nofun, fun _ _ _ => rfl⟩
  have hy : y = _ := requestThrough_of_encoded hl hacquire hbody
  have hhanded : y.1.handed = some (t, c.httpRequest e content) := by
    rw [hy]
    exact handed_conclude _
  have hresult : (∀ reason, y.1.result ≠ .error (.rateLimit reason)) ↔
      ∀ response, (http (c.httpRequest e content) t h).1 = .answered response →
        ((l.update e.route response.headers.report).runAt (t + response.headAfter) s₁).1 =
          .ok () := by
    rw [hy]
    exact conclude_ne_rateLimit_iff hl
  refine ⟨fun hnone => absurd hhanded (by simp [hnone]), fun t' request hrequest => ?_,
    fun hunsent t' request response k s' hsame hrequest => ?_, fun hentered reason hreason => ?_⟩
  · cases hhanded.symm.trans hrequest
    rw [hy]
    exact ⟨rfl, key, s₁, rfl, Limiter.takesToken_of_acquire hacquire⟩
  · cases hhanded.symm.trans hrequest
    cases hsame
    exact hresult.1 (fun reason hreason => nomatch hhanded.symm.trans (hunsent reason hreason))
      response
  · exact absurd hreason (hresult.2 (fun response => hentered t _ response key s₁ rfl hhanded) _)

/-- A client of a limiter with a store in memory. -/
def ofStore (store : Store MemoryAccounts) : Client MemoryAccounts where
  config := { token := "token" }
  limiter := some ⟨store, {}⟩

/-- An endpoint, to be called without a body. -/
def messages : Endpoint := ⟨"GET", "/channels/1/messages", .channel 1⟩

/-- A response of success that names a bucket. -/
def naming : Response where
  status := 200
  headers := [("x-ratelimit-bucket", Utf8.encode "b1")]
  headAfter := 0
  body := some (Utf8.encode "1")
  bodyAfter := 0

/-- A transport that hands this response back. -/
def answering : Transport := fun _ _ => .answered naming

theorem report_naming : naming.headers.report = ⟨none, none, none, some "b1", false, none⟩ := by
  cbv

/-- The request of this client, whatever its store. -/
def requested : HttpRequest := (ofStore MemoryAccounts.store).httpRequest messages none

theorem over_answering : Http.over answering requested 0 () = (.answered naming, ()) := by
  obtain ⟨w, hw⟩ := Option.isSome_iff_exists.1 (show requested.onWire?.isSome by decide)
  rw [Http.over, hw]
  rfl

/-- The request is admitted, sent and answered. -/
theorem requestThrough_messages {store : Store MemoryAccounts}
    (hacquire : (Limiter.mk store {}).acquire messages.route 0 .empty =
      (.ok "channel:1", 0, .empty)) :
    (ofStore store).requestThrough (.over answering) "" some messages .empty 0 .empty () =
      ((ofStore store).receive some messages (0, requested) naming .empty, ()) := by
  rw [requestThrough_of_encoded (l := ⟨store, {}⟩) rfl hacquire rfl]
  change ((ofStore store).conclude some messages (0, requested) .empty
    (Http.over answering requested 0 ()).1, (Http.over answering requested 0 ()).2) = _
  rw [over_answering, conclude]

theorem isUnsentOnLimiterError_iff_messages :
    let l : Limiter MemoryAccounts := ⟨MemoryAccounts.store, {}⟩
    let c := ofStore MemoryAccounts.store
    let r : Requested MemoryAccounts Json.Tree :=
      (c.requestThrough (.over answering) "" some messages .empty 0 .empty ()).1
    c.limiter = some l ∧ r.handed = some (0, requested) ∧
      (∃ key s₁, l.TakesToken key .empty 0 s₁) ∧ r.IsUnsentOnLimiterError := by
  intro l c r
  have hacquire : l.acquire messages.route 0 .empty = (.ok "channel:1", 0, .empty) := rfl
  have hhanded : r.handed = some (0, requested) := by
    have hr : r = _ := congrArg Prod.fst (requestThrough_messages hacquire)
    rw [hr]
    exact handed_conclude (.answered naming)
  obtain ⟨-, htoken, hunsent⟩ :=
    isUnsentOnLimiterError_iff (l := l) (c := c) rfl (.over answering) "" some messages .empty 0
      .empty ()
  obtain ⟨-, key, s₁, -, htakes⟩ := htoken 0 _ hhanded
  refine ⟨rfl, hhanded, ⟨key, s₁, htakes⟩, hunsent.2 fun t request response k s' hsame hrequest
    hexchange => ?_⟩
  cases hacquire.symm.trans hsame
  cases hhanded.symm.trans hrequest
  rw [over_answering] at hexchange
  cases hexchange
  rw [report_naming]
  rfl

/-- A store in memory that cannot enter the name of a bucket. -/
def nameless : Store MemoryAccounts :=
  { MemoryAccounts.store with
    learnBucket := fun _ _ => throw (.unexpectedReply "set_bucket_hash offline") }

/-- A request is sent and answered with success, and ends with an error of the limiter. -/
theorem exists_sent_on_limiter_error :
    let r : Requested MemoryAccounts Json.Tree :=
      (ofStore nameless).request answering "" some messages .empty 0 .empty
    r.result = .error (.rateLimit (.store (.unexpectedReply "set_bucket_hash offline"))) ∧
      r.handed = some (0, requested) ∧ requested.onWire?.isSome ∧ ¬ r.IsUnsentOnLimiterError := by
  intro r
  have hupdate : ((Limiter.mk nameless {}).update messages.route naming.headers.report).runAt
      (0 + naming.headAfter) .empty =
        (.error (.unexpectedReply "set_bucket_hash offline"), .empty) := by
    rw [report_naming]
    rfl
  have hr : r = ⟨some (0, requested),
      .error (.rateLimit (.store (.unexpectedReply "set_bucket_hash offline"))), 0, .empty⟩ := by
    have hthrough : r = _ := congrArg Prod.fst (requestThrough_messages rfl)
    rw [hthrough]
    exact receive_of_error rfl hupdate
  rw [hr]
  exact ⟨rfl, rfl, by decide, fun hunsent => nomatch hunsent _ rfl⟩

end Client

end GatewayClient
