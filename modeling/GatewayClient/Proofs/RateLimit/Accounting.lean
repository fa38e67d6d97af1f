import GatewayClient.Proofs.RateLimit.Report
import GatewayClient.Proofs.RateLimit.Route

/-!
# Where responses are accounted for

A response is entered under the name that it gives to the bucket of its route, or where the
route was accounted for before. So a route is always accounted for under the last name that a
response on it gave, whatever the order in which many responses, on this and on other routes,
are entered; and two routes have a counter in common exactly as long as these names are equal.

* `Traffic.Hears`: a limiter with the responses whose keys were found out, the last first.
* `LimiterTask.names_step`, `Traffic.Hears.names_eq`: what a step makes of the names, and so
  what they are.
* `MemoryAccounts.sharesCounter_iff`: which routes have a counter in common.
* `Limiter.update_own`: where a report lands.
-/

namespace GatewayClient

/-! ## Definitions -/

/-- The name that a response on a route gives to the bucket of a route. -/
def Route.namedBy? (route : Route) (response : Route × RateLimitReport) : Option String :=
  if response.1 = route then response.2.bucket else none

/-- The last name that some responses gave to the bucket of a route. -/
def Route.lastName? (route : Route) (heard : List (Route × RateLimitReport)) : Option String :=
  heard.findSome? route.namedBy?

/-- The response whose key a task finds out in its next step, with its route. A name that is
    not known is entered before. -/
def LimiterTask.hears? (m : MemoryAccounts) : LimiterTask → Option (Route × RateLimitReport)
  | responding route report =>
    if ∀ name ∈ report.bucket, m.names.get? route.key = some name then some (route, report)
    else none
  | learning route _ report => some (route, report)
  | _ => none

namespace Traffic

/-- The response whose key is found out in a move, with its route. -/
def hears? (y : Traffic MemoryAccounts) : LimiterMove → Option (Route × RateLimitReport)
  | .step i => y.tasks[i]?.bind (LimiterTask.hears? y.accounts)
  | _ => none

/-- What a limiter with accounts of its own can come to, with the responses whose keys were
    found out, the last first. Others use its accounts, but give no names. -/
inductive Hears (config : LimiterConfig) :
    Traffic MemoryAccounts → List (Route × RateLimitReport) → Prop
  | start (now : Instant) : Hears config ⟨.empty, now, [], []⟩ []
  | step {y y' : Traffic MemoryAccounts} {heard : List (Route × RateLimitReport)}
    (move : LimiterMove) : Hears config y heard →
      (∀ key name, move ≠ .perform (.learnBucket key name)) →
        y.step (.own config) move = some y' →
          Hears config y' ((y.hears? move).toList ++ heard)

end Traffic

namespace MemoryAccounts

/-- Where a report on a route lands. -/
structure Lands (m : MemoryAccounts) (route : Route) (report : RateLimitReport) (now : Instant)
    (m' : MemoryAccounts) : Prop where
  key : m'.keyOf route = report.bucket.getD (m.keyOf route)
  otherNames : ∀ r, r ≠ route → m'.names.get? r.key = m.names.get? r.key
  complete : ∀ u ∈ report.update?, m'.buckets.get? (m'.keyOf route) =
    some (Bucket.entered (m.buckets.get? (m'.keyOf route)) u now)
  incomplete : report.update? = none → ∀ k, m'.buckets.get? k = m.buckets.get? k
  otherBuckets : ∀ k, k ≠ m'.keyOf route → m'.buckets.get? k = m.buckets.get? k
  slots : m'.slots = m.slots
  lockout : ¬ report.isGlobal → m'.lockedUntil = m.lockedUntil

/-- Whatever requests and reports have come on one route, a request on another is answered as
    one on the first would be. -/
def SharesCounter (m : MemoryAccounts) (r r' : Route) : Prop :=
  ∀ calls t, (∀ c ∈ calls, c.call.touches (m.keyOf r)) →
    ((store.after calls m).take (m.keyOf r') t).1 = ((store.after calls m).take (m.keyOf r) t).1

end MemoryAccounts

/-! ## Names -/

namespace LimiterTask

variable {config : LimiterConfig} {now : Instant} {m m' : MemoryAccounts} {t : LimiterTask}
  {next : Option LimiterTask} {notes : List LimiterNote}

/-- A name is entered for no other response than the one that gives it. -/
def IsHonest (t : LimiterTask) : Prop :=
  ∀ route name report, t = .learning route name report → report.bucket = some name

/-- A task that asks for the name of a bucket, or enters one, is not failed by accounts in
    memory. -/
theorem hears?_of_error {call : StoreCall} {reason : StoreError} (hask : t.ask = some call)
    (h : (MemoryAccounts.store.perform call).runAt now m = (.error reason, m')) :
    t.hears? m = none ∧ ∀ k, call.nameAfter k (m.names.get? k) = m.names.get? k := by
  cases t with
  | responding route report =>
    cases hask
    cases h
  | learning route name report =>
    cases hask
    cases h
  | asleep c wake => cases hask
  | looking c =>
    simp only [ask] at hask
    split at hask <;> cases hask
    exact ⟨rfl, fun _ => rfl⟩
  | recording key report =>
    obtain ⟨u, -, rfl⟩ := Option.map_eq_some_iff.1 hask
    exact ⟨rfl, fun _ => rfl⟩
  | locking report =>
    obtain ⟨d, -, rfl⟩ := Option.map_eq_some_iff.1 hask
    exact ⟨rfl, fun _ => rfl⟩
  | _ =>
    cases hask
    exact ⟨rfl, fun _ => rfl⟩

/-- A step gives the bucket of a route the name that the response gives it whose key is found
    out in the step. -/
theorem names_step (ht : t.IsHonest) (h : t.step (.own config) now m = some ((next, notes), m'))
    (route : Route) :
    m'.names.get? route.key = ((t.hears? m).bind route.namedBy?).or (m.names.get? route.key) := by
  rcases cases_of_step _ h with ⟨call, reply, hask, hperform, hresumes⟩ |
    ⟨call, reason, hask, hperform, -, -⟩ | ⟨hask, rfl, hproceeds⟩
  · rw [MemoryAccounts.names_of_perform hperform]
    cases hresumes with
    | @learns report known name r hname hknown =>
      -- The name is not known, so it is entered in the next step.
      cases hperform
      have hunknown : ¬ ∀ n ∈ report.bucket, m.names.get? r.key = some n :=
        fun hall => hknown (hall name hname)
      rw [hears?, if_neg hunknown]
      rfl
    | @resolves report known r hall =>
      cases hperform
      rw [hears?, if_pos hall, Option.bind_some, Route.namedBy?]
      split
      · next hroute =>
        subst hroute
        cases hbucket : report.bucket with
        | none => rfl
        | some name => exact hall name hbucket
      · rfl
    | learned r name report =>
      rw [hears?, Option.bind_some, Route.namedBy?, StoreCall.nameAfter, ht r name report rfl]
      by_cases hroute : r = route
      · rw [if_pos hroute, if_pos (congrArg Route.key hroute), Option.some_or]
      · rw [if_neg hroute, if_neg (mt Route.key_injective hroute), Option.none_or]
    | _ => rfl
  · obtain ⟨hhears, hnames⟩ := hears?_of_error hask hperform
    rw [hhears, MemoryAccounts.names_of_perform hperform, hnames]
    rfl
  · cases hproceeds <;> rfl

/-- Honest tasks stay honest. -/
theorem isHonest_step (h : t.step (.own config) now m = some ((next, notes), m'))
    {t' : LimiterTask} (hnext : next = some t') : t'.IsHonest := by
  rintro route name report rfl
  rcases cases_of_step _ h with ⟨call, reply, -, -, hresumes⟩ | ⟨_, _, -, -, hnone, -⟩ |
    ⟨-, -, hproceeds⟩
  · cases hnext
    cases hresumes with
    | learns r hname hknown => exact hname
  · rw [hnone] at hnext
    cases hnext
  · cases hnext
    cases hproceeds

end LimiterTask

namespace Traffic

variable {config : LimiterConfig} {y y' : Traffic MemoryAccounts} {move : LimiterMove}
  {heard : List (Route × RateLimitReport)}

/-- What holds of the names all the time. -/
structure KeepsNames (y : Traffic MemoryAccounts) (heard : List (Route × RateLimitReport)) :
    Prop where
  names : ∀ route : Route, y.accounts.names.get? route.key = route.lastName? heard
  honest : ∀ t ∈ y.tasks, t.IsHonest

theorem KeepsNames.step (h : y.KeepsNames heard)
    (hmove : ∀ key name, move ≠ .perform (.learnBucket key name))
    (hstep : y.step (.own config) move = some y') :
    y'.KeepsNames ((y.hears? move).toList ++ heard) := by
  cases move with
  | request route =>
    cases hstep
    refine ⟨h.names, fun t ht => ?_⟩
    rcases List.mem_append.1 ht with ht | ht
    · exact h.honest t ht
    · obtain rfl := List.mem_singleton.1 ht
      rintro _ _ _ ⟨⟩
  | response route report =>
    cases hstep
    refine ⟨h.names, fun t ht => ?_⟩
    rcases List.mem_append.1 ht with ht | ht
    · exact h.honest t ht
    · obtain rfl := List.mem_singleton.1 ht
      rintro _ _ _ ⟨⟩
  | advance d =>
    cases hstep
    exact ⟨h.names, h.honest⟩
  | perform call =>
    cases hstep
    refine ⟨fun route => ?_, h.honest⟩
    have hcall : call.nameAfter route.key (y.accounts.names.get? route.key) =
        y.accounts.names.get? route.key := by
      cases call with
      | learnBucket key name => exact absurd rfl (hmove key name)
      | _ => rfl
    exact (MemoryAccounts.names_perform call route.key).trans (hcall.trans (h.names route))
  | step i =>
    obtain ⟨t, next, notes, m', ht, htask, rfl⟩ := exists_of_step _ hstep
    have hhonest := h.honest t (List.mem_of_getElem? ht)
    refine ⟨fun route => ?_, fun t' ht' => ?_⟩
    · rw [Route.lastName?, findSome?_append, hears?, ht, Option.bind_some, ← Route.lastName?, ← h.names]
      exact LimiterTask.names_step hhonest htask route
    · rcases List.mem_append.1 ht' with ht' | ht'
      · rcases List.mem_append.1 ht' with ht' | ht'
        · exact h.honest t' (List.mem_of_mem_take ht')
        · exact LimiterTask.isHonest_step htask (Option.mem_toList.1 ht')
      · exact h.honest t' (List.mem_of_mem_drop ht')

/-- A route is named after the last response on it that gave a name. -/
theorem Hears.names_eq (h : Hears config y heard) (route : Route) :
    y.accounts.names.get? route.key = route.lastName? heard := by
  have hkeeps : y.KeepsNames heard := by
    induction h with
    | start now => exact ⟨fun r => Table.get?_empty r.key, fun t ht => absurd ht List.not_mem_nil⟩
    | step move _ hmove hstep ih => exact ih.step hmove hstep
  exact hkeeps.names route

end Traffic

/-! ## Counters -/

namespace MemoryAccounts

variable {m m' : MemoryAccounts} {r r' route : Route} {report : RateLimitReport} {now : Instant}

/-- Requests and reports on the bucket with a key are not seen elsewhere. -/
theorem bucket_after_of_ne {key k : String} (hne : key ≠ k) :
    ∀ (calls : List TimedCall) (m : MemoryAccounts), (∀ c ∈ calls, c.call.touches key) →
      (store.after calls m).buckets.get? k = m.buckets.get? k
  | [], _, _ => rfl
  | c :: rest, m, h => by
    have hfirst : c.call.touches key := h c (List.mem_cons_self ..)
    rw [Store.after, bucket_after_of_ne hne rest _ fun c hc => h c (List.mem_cons_of_mem _ hc),
      bucket_perform]
    cases hcall : c.call with
    | take k' =>
      rw [hcall] at hfirst
      obtain rfl : k' = key := of_decide_eq_true hfirst
      exact if_neg hne
    | record k' u =>
      rw [hcall] at hfirst
      obtain rfl : k' = key := of_decide_eq_true hfirst
      exact if_neg hne
    | _ => rfl

/-- A request is answered as if nothing had happened to the bucket of another key. -/
theorem take_after_of_ne (h : m.keyOf r ≠ m.keyOf r') {calls : List TimedCall}
    (hcalls : ∀ c ∈ calls, c.call.touches (m.keyOf r)) (t : Instant) :
    ((store.after calls m).take (m.keyOf r') t).1 = (m.take (m.keyOf r') t).1 := by
  rw [take_fst, take_fst, bucket_after_of_ne h calls m hcalls]

/-- A report that no token is left makes the next request wait for as long as it says. -/
theorem take_after_record (m : MemoryAccounts) (key : String) {d : Duration} (hpos : 0 < d)
    (hfits : d < Instant.limit) :
    ((store.after [⟨0, .record key ⟨1, 0, d⟩⟩] m).take key 0).1 = .wait d := by
  have hrecord := get?_record m key (u := ⟨1, 0, d⟩)
    (Instant.isSome_after?_iff.2 ((Nat.zero_add d).symm ▸ hfits)) key
  rw [if_pos rfl] at hrecord
  rw [take_fst, Store.after, Store.after, perform_snd]
  show ((m.record key ⟨1, 0, d⟩ 0).buckets.get? key).elim _ _ = _
  rw [hrecord, Option.elim_some]
  exact Bucket.take_entered_zero (m.buckets.get? key) 1 hpos

/-- Routes have a counter in common if and only if they are accounted for under the same key. -/
theorem sharesCounter_iff : m.SharesCounter r r' ↔ m.keyOf r = m.keyOf r' := by
  constructor
  · intro h
    by_cases hne : m.keyOf r = m.keyOf r'
    · exact hne
    · -- A window of 1 or of 2 makes a difference for the first, and none for the second.
      have hwait (d : Duration) (hpos : 0 < d) (hfits : d < Instant.limit) :
          (m.take (m.keyOf r') 0).1 = .wait d := by
        have hcalls : ∀ c ∈ [TimedCall.mk 0 (.record (m.keyOf r) ⟨1, 0, d⟩)],
            c.call.touches (m.keyOf r) := by simp [StoreCall.touches]
        rw [← take_after_of_ne hne hcalls, h _ _ hcalls, take_after_record m _ hpos hfits]
      have hsame := (hwait 1 (by decide) (by decide)).symm.trans (hwait 2 (by decide) (by decide))
      exact absurd hsame (by decide)
  · intro h calls t _
    rw [h]

/-! ## Reports -/

theorem Enters.lands (h : m.Enters route report now m') : m.Lands route report now m' := by
  have hkey := h.keyOf_eq
  refine ⟨hkey, fun r hr => ?_, fun u hu => ?_, fun hnone k => ?_, fun k hk => ?_, h.slots,
    fun hglobal => ?_⟩
  · rw [h.names, if_neg (mt Route.key_injective (Ne.symm hr))]
  · rw [hkey, h.buckets, if_pos rfl, Option.mem_def.1 hu]
    rfl
  · rw [h.buckets, hnone]
    exact ite_self _
  · rw [h.buckets, if_neg (hkey ▸ Ne.symm hk)]
  · rw [h.lockedUntil, RateLimitReport.lockout?, if_neg hglobal]
    rfl

end MemoryAccounts

/-- Where a report lands, and what that makes of the accounts over a whole run. -/
theorem Limiter.update_own (config : LimiterConfig) :
    (∀ (m : MemoryAccounts) (route : Route) (report : RateLimitReport) (now : Instant),
      report.FitsAt now → ∃ m',
        ((own config).update route report).runAt now m = (.ok (), m') ∧
          m.Lands route report now m') ∧
    (∀ (m : MemoryAccounts) (r r' : Route),
      (m.SharesCounter r r' ↔ m.keyOf r = m.keyOf r') ∧
        (m.keyOf r ≠ m.keyOf r' → ∀ calls t, (∀ c ∈ calls, c.call.touches (m.keyOf r)) →
          ((MemoryAccounts.store.after calls m).take (m.keyOf r') t).1 =
            (m.take (m.keyOf r') t).1)) ∧
    ∀ y heard, Traffic.Hears config y heard → ∀ route : Route,
      ((own config).bucketKey route).runAt y.now y.accounts =
        (.ok ((route.lastName? heard).getD route.key), y.accounts) := by
  refine ⟨fun m route report now hfits => ?_, fun m r r' => ?_, fun y heard h route => ?_⟩
  · obtain ⟨m', hupdate, henters⟩ := MemoryAccounts.exists_update_eq config m route hfits
    exact ⟨m', hupdate, henters.lands⟩
  · exact ⟨MemoryAccounts.sharesCounter_iff, fun hne calls t hcalls =>
      MemoryAccounts.take_after_of_ne hne hcalls t⟩
  · rw [MemoryAccounts.bucketKey_own, MemoryAccounts.keyOf, h.names_eq]

/-- Responses on two channels name one bucket, so the channels have a counter in common. When
    the next response names another one for the second channel, the first stays where it is. -/
theorem Limiter.update_own_renamed :
    ∃ (y : Traffic MemoryAccounts) (first second third : RateLimitReport) (m' : MemoryAccounts),
      Traffic.Hears {} y [(.channel 2, second), (.channel 1, first)] ∧
      first.bucket = some "shared" ∧ second.bucket = some "shared" ∧
      y.accounts.SharesCounter (.channel 1) (.channel 2) ∧
      ¬ y.accounts.SharesCounter (.channel 1) (.guild 1) ∧
      (((own {}).bucketKey (.channel 1)).runAt y.now y.accounts).1 = .ok "shared" ∧
      third.FitsAt y.now ∧
      ((own {}).update (.channel 2) third).runAt y.now y.accounts = (.ok (), m') ∧
      m'.keyOf (.channel 2) = "own" ∧ m'.names.get? "channel:1" = some "shared" ∧
      m'.buckets.get? "own" = some ⟨5, 4, some 20⟩ ∧
      m'.buckets.get? "shared" = some ⟨2, 1, some 10⟩ := by
  let first : RateLimitReport := ⟨some 2, some 1, some 10, some "shared", false, none⟩
  let second : RateLimitReport := ⟨none, none, none, some "shared", false, none⟩
  let third : RateLimitReport := ⟨some 5, some 4, some 20, some "own", false, none⟩
  let b : Table String Bucket := ⟨[("shared", ⟨2, 1, some 10⟩)]⟩
  let y (buckets : Table String Bucket) (names : List (String × String))
      (tasks : List LimiterTask) (n : Nat) : Traffic MemoryAccounts :=
    ⟨⟨buckets, ⟨names⟩, ∅, none⟩, 0, tasks, List.replicate n (.entered (.ok ()))⟩
  let one : List (String × String) := [("channel:1", "shared")]
  let both : List (String × String) := one ++ [("channel:2", "shared")]
  have h₁ : Traffic.Hears {} (y ∅ [] [.responding (.channel 1) first] 0) [] :=
    .step (.response (.channel 1) first) (.start 0) (by simp) rfl
  have h₂ : Traffic.Hears {} (y ∅ [] [.learning (.channel 1) "shared" first] 0) [] :=
    .step (.step 0) h₁ (by simp) rfl
  have h₃ : Traffic.Hears {} (y ∅ one [.recording "shared" first] 0) [(.channel 1, first)] :=
    .step (.step 0) h₂ (by simp) rfl
  have h₄ : Traffic.Hears {} (y b one [.locking first] 0) [(.channel 1, first)] :=
    .step (.step 0) h₃ (by simp) rfl
  have h₅ : Traffic.Hears {} (y b one [] 1) [(.channel 1, first)] :=
    .step (.step 0) h₄ (by simp) rfl
  have h₆ : Traffic.Hears {} (y b one [.responding (.channel 2) second] 1)
      [(.channel 1, first)] :=
    .step (.response (.channel 2) second) h₅ (by simp) rfl
  have h₇ : Traffic.Hears {} (y b one [.learning (.channel 2) "shared" second] 1)
      [(.channel 1, first)] := .step (.step 0) h₆ (by simp) rfl
  have h₈ : Traffic.Hears {} (y b both [.recording "shared" second] 1)
      [(.channel 2, second), (.channel 1, first)] := .step (.step 0) h₇ (by simp) rfl
  have hfits : third.FitsAt 0 := by
    refine ⟨fun u hu => ?_, nofun⟩
    cases hu
    decide
  obtain ⟨hlands, hshares, hkey⟩ := update_own {}
  obtain ⟨m', hupdate, hm'⟩ := hlands ⟨b, ⟨both⟩, ∅, none⟩ (.channel 2) third 0 hfits
  have hown : m'.keyOf (.channel 2) = "own" := hm'.key
  have hothers := hm'.otherNames (.channel 1) (by decide)
  have hbucket := hm'.complete ⟨5, 4, 20⟩ rfl
  have hshared := hm'.otherBuckets "shared" (by rw [hown]; decide)
  rw [hown] at hbucket
  exact ⟨_, first, second, third, m', h₈, rfl, rfl, (hshares _ _ _).1.2 rfl,
    mt (hshares _ _ _).1.1 (by decide), congrArg Prod.fst (hkey _ _ h₈ (.channel 1)), hfits,
    hupdate, hown, hothers, hbucket, hshared⟩

end GatewayClient
