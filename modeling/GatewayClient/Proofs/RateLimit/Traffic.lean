import GatewayClient.RateLimit.Traffic

/-!
# Steps of traffic

What a step of many tasks at one limiter does, and what a single task does that
nobody interrupts.

* `LimiterTask.cases_of_step`: all that a task can do in a step.
* `Traffic.step_cases`: a step performs at most one operation of the store, and
  admits a request exactly when that operation grants a token.
* `settle_coming`, `settle_responding`: a task that is alone takes the turn of a
  caller, or enters a response as a whole.
-/

namespace GatewayClient

open LimiterTask

variable {σ : Type} (l : Limiter σ)

/-- The key of a route is what the store answers, or else its own. -/
theorem Limiter.bucketKey_of_perform {route : Route} {now : Instant} {s s' : σ}
    {known : Option String}
    (h : (l.store.perform (.bucketOf route.key)).runAt now s = (.ok (.name known), s')) :
    (l.bucketKey route).runAt now s = (.ok (known.getD route.key), s') := by
  simp only [Store.perform, bind_pure_comp, StoreAction.runAt_map] at h
  simp only [bucketKey, bind_pure_comp, StoreAction.runAt_map]
  rcases hrun : (l.store.bucketOf route.key).runAt now s with ⟨_ | answer, s₁⟩
  · rw [hrun] at h
    cases h
  · rw [hrun] at h
    cases h
    rfl

/-! ## Tasks that nobody interrupts -/

namespace LimiterTask

@[simp] theorem settle_asleep (now : Instant) (n : Nat) (c : Caller) (wake : Instant) (s : σ) :
    settle l now n (.asleep c wake) s = ((some (.asleep c wake), []), s) := by
  cases n <;> rfl

theorem settle_succ (now : Instant) (n : Nat) {t : LimiterTask} {s : σ}
    (ht : ∀ c wake, t ≠ .asleep c wake) :
    settle l now (n + 1) t s = match t.step l now s with
      | some ((some t, _), s) => settle l now n t s
      | some r => r
      | none => ((some t, []), s) := by
  cases t with
  | asleep c wake => exact absurd rfl (ht c wake)
  | _ => rfl

theorem settle_taking (c : Caller) (now : Instant) (s : σ) :
    settle l now 1 (.taking c) s = match (l.store.take c.key).runAt now s with
      | (.ok .granted, s) => ((none, [.admitted c.key]), s)
      | (.ok (.wait d), s) => ((some (.asleep (c.putOff d) (now + d)), []), s)
      | (.error reason, s) => ((none, [.refused (.store reason)]), s) := by
  rw [settle_succ l now 0 (by simp)]
  simp only [step, ask, Store.perform, bind_pure_comp, StoreAction.runAt_map]
  rcases (l.store.take c.key).runAt now s with ⟨_ | a, s⟩
  · rfl
  · cases a <;> rfl

/-- A caller that is alone takes its turn. -/
theorem settle_looking (c : Caller) (now : Instant) (s : σ) :
    settle l now 2 (.looking c) s =
      (ofTurn now (l.waitTurn c now s).1, (l.waitTurn c now s).2) := by
  obtain ⟨key, left, lastWait⟩ := c
  cases left with
  | zero => rfl
  | succ left =>
    rw [settle_succ l now 1 (by simp)]
    simp only [step, ask, Store.perform, bind_pure_comp, StoreAction.runAt_map, Limiter.waitTurn,
      Limiter.attempt, StoreAction.runAt_bind, Nat.add_one_ne_zero, if_false]
    rcases l.store.lockout.runAt now s with ⟨_ | _ | d, s⟩
    · rfl
    · simp only [Except.map, resume, Option.map_some, settle_taking]
      rcases (l.store.take key).runAt now s with ⟨_ | a, s⟩
      · rfl
      · cases a <;> rfl
    · rfl

/-- A request that is alone takes its first turn as it comes. -/
theorem settle_coming (route : Route) (now : Instant) (s : σ) :
    settle l now 3 (.coming route) s =
      (ofTurn now (l.admissionTurn (.comes route) now s).1,
        (l.admissionTurn (.comes route) now s).2) := by
  rw [settle_succ l now 2 (by simp)]
  simp only [step, ask, Store.perform, bind_pure_comp, StoreAction.runAt_map,
    Limiter.admissionTurn, Limiter.bucketKey]
  rcases (l.store.bucketOf route.key).runAt now s with ⟨_ | known, s⟩
  · rfl
  · simp only [Except.map, resume, Option.map_some, settle_looking]

theorem settle_locking (n : Nat) (report : RateLimitReport) (now : Instant) (s : σ) :
    settle l now (n + 1) (.locking report) s = match report.lockout? with
      | some d => ((none, [.entered ((l.store.lockOut d).runAt now s).1]),
          ((l.store.lockOut d).runAt now s).2)
      | none => ((none, [.entered (.ok ())]), s) := by
  rw [settle_succ l now n (by simp)]
  cases h : report.lockout? with
  | none => simp [step, ask, h, proceed]
  | some d =>
    simp only [step, ask, h, Option.map_some, Store.perform, bind_pure_comp, StoreAction.runAt_map]
    rcases (l.store.lockOut d).runAt now s with ⟨_ | _, s⟩ <;> rfl

theorem settle_recording (n : Nat) (key : String) (report : RateLimitReport) (now : Instant)
    (s : σ) :
    settle l now (n + 2) (.recording key report) s =
      ((none, [.entered ((l.enter key report).runAt now s).1]),
        ((l.enter key report).runAt now s).2) := by
  rw [settle_succ l now (n + 1) (by simp), Limiter.enter]
  cases h : report.update? with
  | none =>
    simp only [step, ask, h, Option.map_none, proceed, Option.map_some, settle_locking]
    cases report.lockout? <;> simp
  | some u =>
    simp only [step, ask, h, Option.map_some, Store.perform, bind_pure_comp, StoreAction.runAt_map,
      StoreAction.runAt_bind]
    rcases (l.store.record key u).runAt now s with ⟨_ | _, s⟩
    · rfl
    · simp only [Except.map, resume, Option.map_some, settle_locking]
      cases report.lockout? <;> simp

theorem settle_learning (n : Nat) (route : Route) (name : String) (report : RateLimitReport)
    (now : Instant) (s : σ) :
    settle l now (n + 3) (.learning route name report) s =
      match (l.store.learnBucket route.key name).runAt now s with
      | (.ok _, s) => settle l now (n + 2) (.recording name report) s
      | (.error reason, s) => ((none, [.entered (.error reason)]), s) := by
  rw [settle_succ l now (n + 2) (by simp)]
  simp only [step, ask, Store.perform, bind_pure_comp, StoreAction.runAt_map]
  rcases (l.store.learnBucket route.key name).runAt now s with ⟨_ | _, s⟩ <;> rfl

/-- A response that is alone is entered as a whole. -/
theorem settle_responding (route : Route) (report : RateLimitReport) (now : Instant) (s : σ) :
    settle l now 4 (.responding route report) s =
      ((none, [.entered ((l.update route report).runAt now s).1]),
        ((l.update route report).runAt now s).2) := by
  rw [settle_succ l now 3 (by simp)]
  simp only [step, ask, Store.perform, bind_pure_comp, StoreAction.runAt_map, Limiter.update,
    StoreAction.runAt_bind]
  cases hb : report.bucket with
  | none =>
    simp only [Limiter.reportKey, hb, Limiter.bucketKey, bind_pure_comp, StoreAction.runAt_map]
    rcases (l.store.bucketOf route.key).runAt now s with ⟨_ | known, s⟩
    · rfl
    · simp only [Except.map, resume, hb, Option.map_some, settle_recording]
  | some name =>
    simp only [Limiter.reportKey, hb, StoreAction.runAt_bind]
    rcases (l.store.bucketOf route.key).runAt now s with ⟨_ | known, s⟩
    · rfl
    · simp only [Except.map, resume, hb, Option.map_some]
      by_cases hk : known = some name
      · simp [hk, settle_recording]
      · simp only [hk, if_false, ne_eq, not_false_eq_true, if_true, settle_learning,
          StoreAction.runAt_bind]
        rcases (l.store.learnBucket route.key name).runAt now s with ⟨_ | _, s⟩
        · rfl
        · simp [settle_recording]

end LimiterTask

/-! ## Steps -/

/-- The number of requests that an operation admits to the bucket with a key. -/
def StoreCall.admissions (key : String) (call : StoreCall)
    (reply : Except StoreError StoreReply) : Nat :=
  (call.notes reply).countP (LimiterNote.isAdmission key)

namespace LimiterTask

/-- How a task goes on with the answer to what it asks the store for. -/
inductive Resumes (config : LimiterConfig) (now : Instant) :
    LimiterTask → StoreCall → StoreReply → Option LimiterTask → List LimiterNote → Prop
  | begins (route : Route) (known : Option String) :
    Resumes config now (.coming route) (.bucketOf route.key) (.name known)
      (some (.looking ⟨known.getD route.key, config.maxAttempts, 0⟩)) []
  | clear (c : Caller) : c.left ≠ 0 →
    Resumes config now (.looking c) .lockout (.lockedFor none) (some (.taking c)) []
  | lockedOut (c : Caller) (d : Duration) : c.left ≠ 0 →
    Resumes config now (.looking c) .lockout (.lockedFor (some d))
      (some (.asleep (c.putOff d) (now + d))) []
  | granted (c : Caller) :
    Resumes config now (.taking c) (.take c.key) (.admission .granted) none [.admitted c.key]
  | waits (c : Caller) (d : Duration) :
    Resumes config now (.taking c) (.take c.key) (.admission (.wait d))
      (some (.asleep (c.putOff d) (now + d))) []
  /-- The response gives the bucket a name that is not known. -/
  | learns {report : RateLimitReport} {known : Option String} {name : String} (route : Route) :
    report.bucket = some name → known ≠ some name →
      Resumes config now (.responding route report) (.bucketOf route.key) (.name known)
        (some (.learning route name report)) []
  /-- It gives none, or one that is known. -/
  | resolves {report : RateLimitReport} {known : Option String} (route : Route) :
    (∀ name ∈ report.bucket, known = some name) →
      Resumes config now (.responding route report) (.bucketOf route.key) (.name known)
        (some (.recording (known.getD route.key) report)) []
  | learned (route : Route) (name : String) (report : RateLimitReport) :
    Resumes config now (.learning route name report) (.learnBucket route.key name) .entered
      (some (.recording name report)) []
  | recorded {report : RateLimitReport} {u : BucketUpdate} (key : String) :
    report.update? = some u →
      Resumes config now (.recording key report) (.record key u) .entered
        (some (.locking report)) []
  | locked {report : RateLimitReport} {d : Duration} : report.lockout? = some d →
    Resumes config now (.locking report) (.lockOut d) .entered none [.entered (.ok ())]

/-- How a task goes on that asks the store for nothing. -/
inductive Proceeds (config : LimiterConfig) (now : Instant) :
    LimiterTask → Option LimiterTask → List LimiterNote → Prop
  | givesUp (c : Caller) : c.left = 0 →
    Proceeds config now (.looking c) none
      [.refused (.exhausted c.key config.maxAttempts c.lastWait)]
  | wakes (c : Caller) (wake : Instant) : wake ≤ now →
    Proceeds config now (.asleep c wake) (some (.looking c)) []
  | records {report : RateLimitReport} (key : String) : report.update? = none →
    Proceeds config now (.recording key report) (some (.locking report)) []
  | locks {report : RateLimitReport} : report.lockout? = none →
    Proceeds config now (.locking report) none [.entered (.ok ())]

variable {config : LimiterConfig} {now : Instant} {t : LimiterTask} {call : StoreCall}
  {reply : StoreReply} {next : Option LimiterTask} {notes : List LimiterNote}

theorem resumes_of_resume (hask : t.ask = some call)
    (h : t.resume config now reply = some (next, notes)) :
    Resumes config now t call reply next notes := by
  cases t with
  | coming route => cases reply <;> cases hask <;> cases h; exact .begins route _
  | looking c =>
    obtain ⟨hleft, rfl⟩ : c.left ≠ 0 ∧ call = .lockout := by
      by_cases hc : c.left = 0 <;> simp_all [ask]
    cases reply with
    | lockedFor d =>
      cases d with
      | none => cases h; exact .clear c hleft
      | some d => cases h; exact .lockedOut c d hleft
    | _ => cases h
  | taking c =>
    cases hask
    cases reply with
    | admission a =>
      cases a with
      | granted => cases h; exact .granted c
      | wait d => cases h; exact .waits c d
    | _ => cases h
  | asleep c wake => cases hask
  | responding route report =>
    cases hask
    cases reply with
    | name known =>
      simp only [resume] at h
      split at h
      · rename_i name hname
        split at h
        · rename_i hknown
          cases h
          subst hknown
          exact .resolves route (by simp [hname])
        · rename_i hknown
          cases h
          exact .learns route hname hknown
      · rename_i hnone
        cases h
        exact .resolves route (by simp [hnone])
    | _ => cases h
  | learning route name report =>
    cases reply <;> cases hask <;> cases h; exact .learned route name report
  | recording key report =>
    obtain ⟨u, hu, rfl⟩ := Option.map_eq_some_iff.1 hask
    cases reply <;> cases h; exact .recorded key hu
  | locking report =>
    obtain ⟨d, hd, rfl⟩ := Option.map_eq_some_iff.1 hask
    cases reply <;> cases h; exact .locked hd

theorem proceeds_of_proceed (hask : t.ask = none)
    (h : t.proceed config now = some (next, notes)) : Proceeds config now t next notes := by
  cases t with
  | looking c =>
    have hleft : c.left = 0 := by
      simp only [ask] at hask
      split at hask
      · assumption
      · cases hask
    cases h
    exact .givesUp c hleft
  | asleep c wake =>
    simp only [proceed] at h
    split at h
    · cases h
      exact .wakes c wake ‹_›
    · cases h
  | recording key report => cases h; exact .records key (Option.map_eq_none_iff.1 hask)
  | locking report => cases h; exact .locks (Option.map_eq_none_iff.1 hask)
  | _ => cases h

/-- A step of a task: it goes on with the answer to what it asks the store for, or ends
    where the store fails, or goes on by itself. -/
theorem cases_of_step {s s' : σ} (h : t.step l now s = some ((next, notes), s')) :
    (∃ call reply, t.ask = some call ∧ (l.store.perform call).runAt now s = (.ok reply, s') ∧
      Resumes l.config now t call reply next notes) ∨
    (∃ call reason, t.ask = some call ∧
      (l.store.perform call).runAt now s = (.error reason, s') ∧
      next = none ∧ notes = [t.failure reason]) ∨
    (t.ask = none ∧ s' = s ∧ Proceeds l.config now t next notes) := by
  unfold step at h
  split at h
  · rename_i call hask
    split at h
    · rename_i reply s'' hperform
      obtain ⟨o, ho, he⟩ := Option.map_eq_some_iff.1 h
      cases he
      exact .inl ⟨call, reply, hask, hperform, resumes_of_resume hask ho⟩
    · rename_i reason s'' hperform
      cases h
      exact .inr (.inl ⟨call, reason, hask, hperform, rfl, rfl⟩)
  · rename_i hask
    obtain ⟨o, ho, he⟩ := Option.map_eq_some_iff.1 h
    cases he
    exact .inr (.inr ⟨hask, rfl, proceeds_of_proceed hask ho⟩)

/-- What a task does in a step: it performs what it asks the store for, or nothing; an
    admission is seen only where the answer grants a token. -/
theorem step_cases {s s' : σ} (h : t.step l now s = some ((next, notes), s')) (key : String) :
    (∃ call reply, t.ask = some call ∧ (l.store.perform call).runAt now s = (reply, s') ∧
      notes.countP (LimiterNote.isAdmission key) = call.admissions key reply) ∨
    (t.ask = none ∧ s' = s ∧ notes.countP (LimiterNote.isAdmission key) = 0) := by
  rcases cases_of_step l h with ⟨call, reply, hask, hperform, hresumes⟩ |
    ⟨call, reason, hask, hperform, -, rfl⟩ | ⟨hask, rfl, hproceeds⟩
  · refine .inl ⟨call, .ok reply, hask, hperform, ?_⟩
    cases hresumes <;> rfl
  · refine .inl ⟨call, .error reason, hask, hperform, ?_⟩
    cases call <;> cases t <;> rfl
  · refine .inr ⟨hask, rfl, ?_⟩
    cases hproceeds <;> rfl

end LimiterTask

/-- A step of one of the tasks. -/
theorem Traffic.exists_of_step {y y' : Traffic σ} {i : Nat} (h : y.step l (.step i) = some y') :
    ∃ t next notes s, y.tasks[i]? = some t ∧ t.step l y.now y.accounts = some ((next, notes), s) ∧
      y' = ⟨s, y.now, y.tasks.take i ++ next.toList ++ y.tasks.drop (i + 1), notes ++ y.log⟩ := by
  simp only [Traffic.step, Option.bind_eq_bind, Option.bind_eq_some_iff, Option.pure_def,
    Option.some.injEq] at h
  obtain ⟨t, ht, ⟨⟨next, notes⟩, s⟩, hstep, rfl⟩ := h
  exact ⟨t, next, notes, s, ht, hstep, rfl⟩

/-- The last that a history tells of something, when the last move may be told of first. -/
theorem Traffic.findSome?_append {α β : Type} (f : α → Option β) (last : Option α)
    (history : List α) :
    (last.toList ++ history).findSome? f = (last.bind f).or (history.findSome? f) := by
  rw [List.findSome?_append]
  cases last with
  | none => rfl
  | some a => cases h : f a <;> simp [h]

/-- What a step of the whole does: one operation of the store, which admits a request
    exactly when it grants a token, or none. -/
theorem Traffic.step_cases {y y' : Traffic σ} {m : LimiterMove} (h : y.step l m = some y')
    (key : String) :
    (∃ call reply, y.call? m = some call ∧
      (l.store.perform call).runAt y.now y.accounts = (reply, y'.accounts) ∧ y'.now = y.now ∧
      y'.admissions key = y.admissions key + call.admissions key reply) ∨
    (y.call? m = none ∧ y'.accounts = y.accounts ∧ y.now ≤ y'.now ∧
      y'.admissions key = y.admissions key) := by
  cases m with
  | request route => cases h; exact .inr ⟨rfl, rfl, Nat.le_refl _, rfl⟩
  | response route report => cases h; exact .inr ⟨rfl, rfl, Nat.le_refl _, rfl⟩
  | advance d => cases h; exact .inr ⟨rfl, rfl, Nat.le_add_right _ _, rfl⟩
  | perform call =>
    cases h
    refine .inl ⟨call, _, rfl, rfl, rfl, ?_⟩
    simp [admissions, StoreCall.admissions, List.countP_append, Nat.add_comm]
  | step i =>
    obtain ⟨t, next, notes, s', ht, hstep, rfl⟩ := exists_of_step l h
    have hlog : ∀ n, notes.countP (LimiterNote.isAdmission key) = n →
        (notes ++ y.log).countP (LimiterNote.isAdmission key) = y.admissions key + n := by
      intro n hn
      rw [List.countP_append, hn, Nat.add_comm]
      rfl
    rcases t.step_cases l hstep key with ⟨call, reply, hask, hr, hn⟩ | ⟨hask, rfl, hn⟩
    · exact .inl ⟨call, reply, by simp [call?, ht, hask], hr, rfl, hlog _ hn⟩
    · exact .inr ⟨by simp [call?, ht, hask], rfl, Nat.le_refl _, hlog _ hn⟩

end GatewayClient
