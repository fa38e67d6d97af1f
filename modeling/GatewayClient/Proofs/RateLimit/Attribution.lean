import GatewayClient.Proofs.RateLimit.Memory
import GatewayClient.Proofs.RateLimit.Window

/-!
# Where a request is accounted for

A call finds out the key of its bucket when it begins and keeps it through all its waits,
however many there are. A response that is entered meanwhile may name another bucket for
its route: that counts for the calls that begin later, and the one that waits takes its
token where it has waited for it.

* `Traffic.Follows`: a call from its beginning on, with the names that the server gave
  to the bucket of its route while it was waiting.
* `Traffic.Follows.keyOf_eq`: what the key of its route has become meanwhile.
* `Traffic.admitted_key`: a call is admitted under the key that it began with, which is
  still that of its route exactly if the last of these names is none other.
-/

namespace GatewayClient

/-- The caller that a task is, once it knows the key of its bucket. -/
def LimiterTask.caller? : LimiterTask → Option Caller
  | looking c => some c
  | taking c => some c
  | asleep c _ => some c
  | _ => none

/-- The name that an operation gives to the bucket of a route. -/
def StoreCall.nameFor? (route : String) : StoreCall → Option String
  | .learnBucket r name => if r = route then some name else none
  | _ => none

namespace Traffic

/-- Where a task stands after a move that is not its own. Tasks that have ended leave the
    list. -/
def placeAfter {σ : Type} (y y' : Traffic σ) (i : Nat) : LimiterMove → Nat
  | .step j => if j < i then i + y'.tasks.length - y.tasks.length else i
  | _ => i

/-- A call from its beginning on: its place among the tasks, its route, the key of the
    bucket with which it began, and the names that the bucket of its route was given since,
    the last first. -/
inductive Follows (config : LimiterConfig) :
    Traffic MemoryAccounts → Nat → Route → String → List String → Prop
  /-- It has found out the key. -/
  | begins {y y' : Traffic MemoryAccounts} {i : Nat} {route : Route} {key : String} :
    IsReachable config y → y.tasks[i]? = some (.coming route) →
      (((Limiter.own config).bucketKey route).runAt y.now y.accounts).1 = .ok key →
        y.step (.own config) (.step i) = some y' → Follows config y' i route key []
  /-- It has taken a step and has not ended. -/
  | continues {y y' : Traffic MemoryAccounts} {i : Nat} {route : Route} {key : String}
    {since : List String} : Follows config y i route key since →
      y.step (.own config) (.step i) = some y' → y'.tasks.length = y.tasks.length →
        Follows config y' i route key since
  /-- Something else has happened. -/
  | other {y y' : Traffic MemoryAccounts} {i : Nat} {route : Route} {key : String}
    {since : List String} (m : LimiterMove) : Follows config y i route key since → m ≠ .step i →
      y.step (.own config) m = some y' →
        Follows config y' (y.placeAfter y' i m) route key
          (((y.call? m).bind (StoreCall.nameFor? route.key)).toList ++ since)

/-- The key under which a route is accounted for. -/
def keyOf (y : Traffic MemoryAccounts) (route : Route) : String :=
  (y.accounts.names.get? route.key).getD route.key

end Traffic

/-! ## Tasks -/

namespace LimiterTask

variable {σ : Type} {l : Limiter σ} {now : Instant} {s s' : σ} {t t' : LimiterTask}
  {notes : List LimiterNote} {c' : Caller}

/-- A caller keeps its key, and begins with one that the store has told. -/
theorem caller_of_step (h : t.step l now s = some ((some t', notes), s'))
    (hc : t'.caller? = some c') :
    (∃ c, t.caller? = some c ∧ c.key = c'.key) ∨
      ∃ route, t = .coming route ∧ ((l.bucketKey route).runAt now s).1 = .ok c'.key := by
  rcases cases_of_step l h with ⟨call, reply, hask, hperform, hresumes⟩ |
    ⟨_, _, -, -, hnone, -⟩ | ⟨-, -, hproceeds⟩
  · cases hresumes with
    | begins route known =>
      cases hc
      exact .inr ⟨route, rfl, congrArg Prod.fst (l.bucketKey_of_perform hperform)⟩
    | clear c _ => cases hc; exact .inl ⟨c', rfl, rfl⟩
    | lockedOut c d _ => cases hc; exact .inl ⟨c, rfl, rfl⟩
    | waits c d => cases hc; exact .inl ⟨c, rfl, rfl⟩
    | _ => cases hc
  · cases hnone
  · cases hproceeds with
    | wakes c wake _ => cases hc; exact .inl ⟨c', rfl, rfl⟩
    | records key _ => cases hc

/-- Only a caller that is given a token is admitted. -/
theorem taking_of_step {key : String} {next : Option LimiterTask}
    (h : t.step l now s = some ((next, [.admitted key]), s')) :
    ∃ c, t = .taking c ∧ c.key = key ∧
      (l.store.perform (.take key)).runAt now s = (.ok (.admission .granted), s') := by
  rcases cases_of_step l h with ⟨call, reply, -, hperform, hresumes⟩ |
    ⟨_, reason, -, -, -, hnotes⟩ | ⟨-, -, hproceeds⟩
  · cases hresumes with
    | granted c => exact ⟨c, rfl, rfl, hperform⟩
  · cases t <;> cases hnotes
  · cases hproceeds

/-- A caller that goes on is a caller with the same key. -/
theorem caller_step {c : Caller} (hc : t.caller? = some c)
    (h : t.step l now s = some ((some t', notes), s')) :
    ∃ c', t'.caller? = some c' ∧ c'.key = c.key := by
  rcases cases_of_step l h with ⟨call, reply, -, -, hresumes⟩ |
    ⟨_, _, -, -, hnone, -⟩ | ⟨-, -, hproceeds⟩
  · cases hresumes with
    | clear c₀ _ => cases hc; exact ⟨c, rfl, rfl⟩
    | lockedOut c₀ d _ => cases hc; exact ⟨c.putOff d, rfl, rfl⟩
    | waits c₀ d => cases hc; exact ⟨c.putOff d, rfl, rfl⟩
    | _ => cases hc
  · cases hnone
  · cases hproceeds with
    | wakes c₀ wake _ => cases hc; exact ⟨c, rfl, rfl⟩
    | records key _ => cases hc

/-- A caller gives no names. -/
theorem nameFor?_of_caller {c : Caller} (hc : t.caller? = some c) (route : String) :
    t.ask.bind (StoreCall.nameFor? route) = none := by
  cases t with
  | looking c₀ =>
    simp only [ask]
    split <;> rfl
  | taking c₀ => rfl
  | asleep c₀ wake => rfl
  | _ => cases hc

end LimiterTask

/-! ## Steps -/

/-! What stands before, at and behind a place of a list into which something else is put. -/

section Put

variable {α : Type} {xs : List α} {i j : Nat}

theorem getElem?_put_of_lt (ys : List α) (hij : i < j) (hj : j < xs.length) :
    (xs.take j ++ ys ++ xs.drop (j + 1))[i]? = xs[i]? := by
  have hi : i < (xs.take j).length := by
    rw [List.length_take]
    omega
  rw [List.append_assoc, List.getElem?_append_left hi, List.getElem?_take_of_lt hij]

theorem getElem?_put_self (a : α) (hj : j < xs.length) :
    (xs.take j ++ [a] ++ xs.drop (j + 1))[j]? = some a := by
  have hlength : (xs.take j).length = j := List.length_take_of_le (Nat.le_of_lt hj)
  rw [List.append_assoc, List.getElem?_append_right (Nat.le_of_eq hlength), hlength, Nat.sub_self]
  rfl

theorem getElem?_put_of_gt (ys : List α) (hij : j < i) (hj : j < xs.length) :
    (xs.take j ++ ys ++ xs.drop (j + 1))[i + ys.length - 1]? = xs[i]? := by
  have hlength : (xs.take j ++ ys).length = j + ys.length := by
    rw [List.length_append, List.length_take_of_le (Nat.le_of_lt hj)]
  have hi : i + ys.length - 1 - (j + ys.length) = i - (j + 1) := by omega
  rw [List.getElem?_append_right (by rw [hlength]; omega), hlength, hi, List.getElem?_drop,
    Nat.add_sub_of_le hij]

end Put

namespace Traffic

section Place

variable {σ : Type} {l : Limiter σ} {y y' : Traffic σ} {m : LimiterMove} {i : Nat} {t : LimiterTask}

/-- A task stays as it is when something else happens. -/
theorem getElem?_placeAfter (h : y.step l m = some y') (hm : m ≠ .step i)
    (ht : y.tasks[i]? = some t) : y'.tasks[y.placeAfter y' i m]? = some t := by
  have hi := (List.getElem?_eq_some_iff.1 ht).1
  cases m with
  | request route =>
    cases h
    exact (List.getElem?_append_left hi).trans ht
  | response route report =>
    cases h
    exact (List.getElem?_append_left hi).trans ht
  | advance d => cases h; exact ht
  | perform call => cases h; exact ht
  | step j =>
    obtain ⟨t₀, next, notes, s, ht₀, -, rfl⟩ := exists_of_step l h
    have hj := (List.getElem?_eq_some_iff.1 ht₀).1
    have hne : j ≠ i := fun he => hm (he ▸ rfl)
    by_cases hlt : j < i
    · have hplace : i + (y.tasks.take j ++ next.toList ++ y.tasks.drop (j + 1)).length -
          y.tasks.length = i + next.toList.length - 1 := by
        simp only [List.length_append, List.length_take, List.length_drop]
        omega
      rw [placeAfter, if_pos hlt, hplace, getElem?_put_of_gt _ hlt hj, ht]
    · rw [placeAfter, if_neg hlt, getElem?_put_of_lt _ (by omega) hj, ht]

/-- A task after a move has not been moved, or has taken its step, or has just come. -/
theorem task_cases {k : Nat} (h : y.step l m = some y') (ht : y'.tasks[k]? = some t) :
    (∃ i, m ≠ .step i ∧ y.tasks[i]? = some t ∧ y.placeAfter y' i m = k) ∨
    (∃ t₀ notes s, m = .step k ∧ y.tasks[k]? = some t₀ ∧
      t₀.step l y.now y.accounts = some ((some t, notes), s) ∧
      y'.tasks.length = y.tasks.length) ∨
    t.caller? = none := by
  cases m with
  | request route =>
    cases h
    rcases Nat.lt_or_ge k y.tasks.length with hk | hk
    · exact .inl ⟨k, by simp, (List.getElem?_append_left hk).symm.trans ht, rfl⟩
    · obtain ⟨-, rfl⟩ : k - y.tasks.length = 0 ∧ LimiterTask.coming route = t := by
        rw [List.getElem?_append_right hk] at ht
        simpa [List.getElem?_singleton] using ht
      exact .inr (.inr rfl)
  | response route report =>
    cases h
    rcases Nat.lt_or_ge k y.tasks.length with hk | hk
    · exact .inl ⟨k, by simp, (List.getElem?_append_left hk).symm.trans ht, rfl⟩
    · obtain ⟨-, rfl⟩ : k - y.tasks.length = 0 ∧ LimiterTask.responding route report = t := by
        rw [List.getElem?_append_right hk] at ht
        simpa [List.getElem?_singleton] using ht
      exact .inr (.inr rfl)
  | advance d => cases h; exact .inl ⟨k, by simp, ht, rfl⟩
  | perform call => cases h; exact .inl ⟨k, by simp, ht, rfl⟩
  | step j =>
    obtain ⟨t₀, next, notes, s, ht₀, htask, rfl⟩ := exists_of_step l h
    have hj := (List.getElem?_eq_some_iff.1 ht₀).1
    by_cases hself : k = j ∧ next.isSome
    · -- The task has taken a step of its own.
      obtain ⟨rfl, hsome⟩ := hself
      obtain ⟨t', rfl⟩ := Option.isSome_iff_exists.1 hsome
      obtain rfl : t' = t := Option.some_inj.1 ((getElem?_put_self t' hj).symm.trans ht)
      refine .inr (.inl ⟨t₀, notes, s, rfl, ht₀, htask, ?_⟩)
      simp only [List.length_append, List.length_take, List.length_drop, Option.toList_some,
        List.length_singleton]
      omega
    · by_cases hlt : k < j
      · rw [getElem?_put_of_lt _ hlt hj] at ht
        refine .inl ⟨k, fun he => ?_, ht, ?_⟩
        · cases he
          exact Nat.lt_irrefl _ hlt
        · rw [placeAfter, if_neg (Nat.lt_asymm hlt)]
      · -- It stands behind the one that has taken a step.
        have hlength : next.toList.length ≤ 1 ∧ (k = j → next.toList.length = 0) := by
          cases next with
          | none => simp
          | some t' => simpa using hself
        have hplace : k + 1 - next.toList.length + next.toList.length - 1 = k := by omega
        have hbehind : j < k + 1 - next.toList.length := by omega
        have hget := getElem?_put_of_gt next.toList hbehind hj
        rw [hplace, ht] at hget
        refine .inl ⟨_, fun he => ?_, hget.symm, ?_⟩
        · rw [LimiterMove.step.injEq] at he
          omega
        · simp only [placeAfter, if_pos hbehind, List.length_append, List.length_take,
            List.length_drop]
          omega

end Place

variable {config : LimiterConfig} {y y' : Traffic MemoryAccounts} {m : LimiterMove} {i : Nat}
  {route : Route} {key : String} {since : List String}

theorem bucketKey_eq (y : Traffic MemoryAccounts) (route : Route) :
    (((Limiter.own config).bucketKey route).runAt y.now y.accounts).1 = .ok (y.keyOf route) := rfl

/-- A move changes the key of a route if it gives a name to its bucket. -/
theorem keyOf_step (h : y.step (.own config) m = some y') (route : Route) :
    y'.keyOf route = ((y.call? m).bind (StoreCall.nameFor? route.key)).getD (y.keyOf route) := by
  rw [keyOf, accounts_of_step h]
  cases y.call? m with
  | none => rfl
  | some call =>
    rw [Option.elim_some, MemoryAccounts.names_perform, Option.bind_some, keyOf]
    cases call with
    | learnBucket r name =>
      simp only [StoreCall.nameAfter, StoreCall.nameFor?]
      split <;> rfl
    | _ => rfl

/-! ## Runs -/

theorem Follows.isReachable (h : Follows config y i route key since) : IsReachable config y := by
  induction h with
  | begins hreach _ _ hstep => exact .step _ hreach hstep
  | continues _ hstep _ ih => exact .step _ ih hstep
  | other m _ _ hstep ih => exact .step m ih hstep

/-- A call that is followed is a caller with the key that it began with. -/
theorem Follows.caller (h : Follows config y i route key since) :
    ∃ t c, y.tasks[i]? = some t ∧ t.caller? = some c ∧ c.key = key := by
  induction h with
  | @begins y y' i route key _ ht hkey hstep =>
    have hi := (List.getElem?_eq_some_iff.1 ht).1
    obtain ⟨t, next, notes, s, ht', htask, rfl⟩ := exists_of_step _ hstep
    obtain rfl : .coming route = t := Option.some_inj.1 (ht.symm.trans ht')
    cases htask
    rw [bucketKey_eq, Except.ok.injEq] at hkey
    exact ⟨_, _, getElem?_put_self _ hi, rfl, hkey⟩
  | continues _ hstep hlength ih =>
    obtain ⟨t, c, ht, hc, hkey⟩ := ih
    have hi := (List.getElem?_eq_some_iff.1 ht).1
    obtain ⟨t₀, next, notes, s, ht₀, htask, rfl⟩ := exists_of_step _ hstep
    obtain rfl : t = t₀ := Option.some_inj.1 (ht.symm.trans ht₀)
    cases next with
    | none =>
      -- The task would have left the list.
      simp only [List.length_append, List.length_take, List.length_drop, Option.toList_none,
        List.length_nil] at hlength
      omega
    | some t' =>
      obtain ⟨c', hc', hkey'⟩ := LimiterTask.caller_step hc htask
      exact ⟨t', c', getElem?_put_self t' hi, hc', hkey'.trans hkey⟩
  | other m _ hm hstep ih =>
    obtain ⟨t, c, ht, hc, hkey⟩ := ih
    exact ⟨t, c, getElem?_placeAfter hstep hm ht, hc, hkey⟩

/-- The key of the route of a call is that of the last name that it was given meanwhile, if
    there is any, and otherwise the one that the call began with. -/
theorem Follows.keyOf_eq (h : Follows config y i route key since) :
    y.keyOf route = since.head?.getD key := by
  induction h with
  | @begins y y' i route key _ ht hkey hstep =>
    rw [bucketKey_eq, Except.ok.injEq] at hkey
    have hcall : y.call? (.step i) = some (.bucketOf route.key) := by
      rw [call?, ht]
      rfl
    rw [keyOf_step hstep, hcall, ← hkey]
    rfl
  | @continues y y' i route key since h hstep _ ih =>
    obtain ⟨t, c, ht, hc, -⟩ := h.caller
    have hcall : (y.call? (.step i)).bind (StoreCall.nameFor? route.key) = none := by
      rw [call?, ht, Option.bind_some, LimiterTask.nameFor?_of_caller hc]
    rw [keyOf_step hstep, hcall, Option.getD_none, ih]
  | @other y y' i route key since m _ _ hstep ih =>
    rw [keyOf_step hstep, ih]
    cases (y.call? m).bind (StoreCall.nameFor? route.key) <;> rfl

/-- Every caller has begun at some time. -/
theorem IsReachable.exists_follows {k : Nat} {t : LimiterTask} {c : Caller}
    (h : IsReachable config y) (ht : y.tasks[k]? = some t) (hc : t.caller? = some c) :
    ∃ route since, Follows config y k route c.key since := by
  induction h generalizing k t c with
  | start now => cases ht
  | step m hreach hstep ih =>
    rcases task_cases hstep ht with
      ⟨i, hm, hi, rfl⟩ | ⟨t₀, notes, s, rfl, ht₀, htask, hlength⟩ | hnone
    · obtain ⟨route, since, hfollows⟩ := ih hi hc
      exact ⟨route, _, .other m hfollows hm hstep⟩
    · rcases LimiterTask.caller_of_step htask hc with ⟨c₀, hc₀, hkey⟩ | ⟨route, rfl, hkey⟩
      · obtain ⟨route, since, hfollows⟩ := ih ht₀ hc₀
        exact ⟨route, since, hkey ▸ .continues hfollows hstep hlength⟩
      · exact ⟨route, [], .begins hreach ht₀ hkey hstep⟩
    · rw [hnone] at hc
      cases hc

/-- A request that is admitted takes its token from the bucket with the key that it was
    begun with, which has tokens, and from no other. That is still the key of its route
    exactly if the last name that the bucket of the route was given meanwhile, if there is
    any, is none other. -/
theorem admitted_key (h : IsReachable config y)
    (hstep : y.step (.own config) (.step i) = some y') (hlog : y'.log = .admitted key :: y.log) :
    (∀ b, y.bucket? key = some b →
      0 < (b.refill y.now).remaining ∧ y'.bucket? key = some (b.take y.now).2) ∧
    (∀ k, k ≠ key → y'.bucket? k = y.bucket? k) ∧
    (∃ route since, Follows config y i route key since) ∧
    ∀ route k since, Follows config y i route k since → k = key ∧
      ((((Limiter.own config).bucketKey route).runAt y.now y.accounts).1 = .ok key ↔
        ∀ name ∈ since.head?, name = key) := by
  obtain ⟨t, next, notes, s, ht, htask, rfl⟩ := exists_of_step _ hstep
  obtain rfl : notes = [.admitted key] := List.append_cancel_right hlog
  obtain ⟨c, rfl, rfl, hperform⟩ := LimiterTask.taking_of_step htask
  have hgranted : (y.accounts.take c.key y.now).1 = .granted := by
    simpa [Limiter.own, MemoryAccounts.perform_take] using congrArg Prod.fst hperform
  have haccounts : (y.accounts.take c.key y.now).2 = s := congrArg Prod.snd hperform
  refine ⟨fun b hb => ?_, fun k hk => ?_, h.exists_follows ht rfl, fun route k since hfollows => ?_⟩
  · rw [bucket?] at hb
    rw [MemoryAccounts.take, hb] at hgranted
    refine ⟨Bucket.take_fst_eq_granted_iff.1 hgranted, ?_⟩
    show s.buckets.get? c.key = _
    rw [← haccounts, MemoryAccounts.get?_buckets_take, hb]
    exact if_pos rfl
  · show s.buckets.get? k = _
    rw [← haccounts, MemoryAccounts.get?_buckets_take]
    exact if_neg (Ne.symm hk)
  · obtain ⟨t', c', ht', hc', rfl⟩ := hfollows.caller
    obtain rfl : .taking c = t' := Option.some_inj.1 (ht.symm.trans ht')
    obtain rfl : c = c' := Option.some_inj.1 hc'
    refine ⟨rfl, ?_⟩
    rw [bucketKey_eq, Except.ok.injEq, hfollows.keyOf_eq]
    cases since.head? with
    | none => simp
    | some name => simp

/-! ## A bucket that is renamed while a call waits -/

/-- A response to a request on a channel, to whose bucket the server has given the name
    `name?`: it is exhausted for so long. -/
def exhaustedFor (name? : Option String) (d : Duration) : RateLimitReport :=
  ⟨some 1, some 0, some d, name?, false, none⟩

/-- What the limiter has come to when a call has waited until the end of a window at 10, and
    at 5 a response has named another bucket, which is exhausted until 105. -/
def renamed : Traffic MemoryAccounts where
  accounts := ⟨⟨[("channel:1", ⟨1, 0, some 10⟩), ("b1", ⟨1, 0, some 105⟩)]⟩,
    ⟨[("channel:1", "b1")]⟩, ∅, none⟩
  now := 10
  tasks := [.taking ⟨"channel:1", 63, 10⟩]
  log := [.entered (.ok ()), .entered (.ok ())]

theorem follows_renamed : Follows {} renamed 0 (.channel 1) "channel:1" ["b1"] := by
  let first := exhaustedFor none 10
  let second := exhaustedFor (some "b1") 100
  let known : MemoryAccounts := ⟨⟨[("channel:1", ⟨1, 0, some 10⟩)]⟩, ∅, ∅, none⟩
  let named : MemoryAccounts := { known with names := ⟨[("channel:1", "b1")]⟩ }
  let c : Caller := ⟨"channel:1", 64, 0⟩
  let y (m : MemoryAccounts) (now : Instant) (tasks : List LimiterTask) (n : Nat) :
      Traffic MemoryAccounts := ⟨m, now, tasks, List.replicate n (.entered (.ok ()))⟩
  have h₁ : IsReachable {} (y .empty 0 [.responding (.channel 1) first] 0) :=
    .step (.response (.channel 1) first) (.start 0) rfl
  have h₂ : IsReachable {} (y .empty 0 [.recording "channel:1" first] 0) :=
    .step (.step 0) h₁ rfl
  have h₃ : IsReachable {} (y known 0 [.locking first] 0) := .step (.step 0) h₂ rfl
  have h₄ : IsReachable {} (y known 0 [] 1) := .step (.step 0) h₃ rfl
  have h₅ : IsReachable {} (y known 0 [.coming (.channel 1)] 1) :=
    .step (.request (.channel 1)) h₄ rfl
  have h₆ : Follows {} (y known 0 [.looking c] 1) 0 (.channel 1) "channel:1" [] :=
    .begins h₅ rfl rfl rfl
  have h₇ : Follows {} (y known 0 [.taking c] 1) 0 (.channel 1) "channel:1" [] :=
    .continues h₆ rfl rfl
  have h₈ : Follows {} (y known 0 [.asleep (c.putOff 10) 10] 1) 0 (.channel 1) "channel:1" [] :=
    .continues h₇ rfl rfl
  have h₉ : Follows {} (y known 5 [.asleep (c.putOff 10) 10] 1) 0 (.channel 1) "channel:1" [] :=
    .other (.advance 5) h₈ (by simp) rfl
  let sleeping : LimiterTask := .asleep (c.putOff 10) 10
  have h₁₀ : Follows {} (y known 5 [sleeping, .responding (.channel 1) second] 1) 0 (.channel 1)
      "channel:1" [] := .other (.response (.channel 1) second) h₉ (by simp) rfl
  have h₁₁ : Follows {} (y known 5 [sleeping, .learning (.channel 1) "b1" second] 1) 0 (.channel 1)
      "channel:1" [] := .other (.step 1) h₁₀ (by simp) rfl
  have h₁₂ : Follows {} (y named 5 [sleeping, .recording "b1" second] 1) 0 (.channel 1)
      "channel:1" ["b1"] := .other (.step 1) h₁₁ (by simp) rfl
  have h₁₃ : Follows {} (y renamed.accounts 5 [sleeping, .locking second] 1) 0 (.channel 1)
      "channel:1" ["b1"] := .other (.step 1) h₁₂ (by simp) rfl
  have h₁₄ : Follows {} (y renamed.accounts 5 [sleeping] 2) 0 (.channel 1) "channel:1" ["b1"] :=
    .other (.step 1) h₁₃ (by simp) rfl
  have h₁₅ : Follows {} (y renamed.accounts 10 [sleeping] 2) 0 (.channel 1) "channel:1" ["b1"] :=
    .other (.advance 5) h₁₄ (by simp) rfl
  have h₁₆ : Follows {} (y renamed.accounts 10 [.looking (c.putOff 10)] 2) 0 (.channel 1)
      "channel:1" ["b1"] := .continues h₁₅ rfl rfl
  exact .continues h₁₆ rfl rfl

/-- The call that has waited is admitted by the bucket that it began with, which is not the
    one that its route is accounted for by then. -/
theorem admitted_key_renamed : ∃ y' : Traffic MemoryAccounts, IsReachable {} renamed ∧
    renamed.step (.own {}) (.step 0) = some y' ∧ y'.log = .admitted "channel:1" :: renamed.log ∧
      y'.bucket? "channel:1" = some ⟨1, 0, none⟩ ∧
      (∃ route since, Follows {} renamed 0 route "channel:1" since) ∧
      (((Limiter.own {}).bucketKey (.channel 1)).runAt renamed.now renamed.accounts).1 ≠
        .ok "channel:1" := by
  have hstep : renamed.step (.own {}) (.step 0) = some
      ⟨⟨⟨[("channel:1", ⟨1, 0, none⟩), ("b1", ⟨1, 0, some 105⟩)]⟩, ⟨[("channel:1", "b1")]⟩,
        ∅, none⟩, 10, [], .admitted "channel:1" :: renamed.log⟩ := rfl
  obtain ⟨hbucket, -, hfollows, hkey⟩ := admitted_key follows_renamed.isReachable hstep rfl
  refine ⟨_, follows_renamed.isReachable, hstep, rfl, (hbucket ⟨1, 0, some 10⟩ rfl).2, hfollows,
    fun hsame => ?_⟩
  have hname := ((hkey _ _ _ follows_renamed).2.1 hsame) "b1" rfl
  exact absurd hname (by decide)

/-- It is admitted although its route is accounted for elsewhere by then, where it would
    have to wait. -/
theorem exists_admitted_elsewhere : ∃ (y y' : Traffic MemoryAccounts) (route : Route) (key : String)
    (since : List String), IsReachable {} y ∧ Follows {} y 0 route key since ∧
      y.step (.own {}) (.step 0) = some y' ∧ y'.log = .admitted key :: y.log ∧
      (((Limiter.own {}).bucketKey route).runAt y.now y.accounts).1 = .ok "b1" ∧ key ≠ "b1" ∧
      (y.accounts.take "b1" y.now).1 = .wait 95 :=
  ⟨renamed, _, .channel 1, "channel:1", ["b1"], follows_renamed.isReachable, follows_renamed, rfl,
    rfl, rfl, by decide, rfl⟩

end Traffic

end GatewayClient
