import GatewayClient.Proofs.RateLimit.Memory
import GatewayClient.Proofs.RateLimit.Window

/-!
# The lockout of an account

A response may lock the whole account out for some time. What is remembered is one
deadline: a later one replaces it, an earlier one is dropped, and whoever looks at it
when it is over forgets it. Callers sleep and look again, in any order. None of this
loses anything: the account is always locked out until the latest of all the ends that
were reported (`Traffic.IsReported.lockout_eq`), and as long as it is no caller is
admitted and no bucket gives a token.

A caller that finds no lockout asks for its token at once. Were others to come in
between, a lockout could begin there.
-/

namespace GatewayClient

/-! ## Lockouts that were reported -/

/-- The ends of the lockouts that some reports tell of, given when the reports were
    entered. One that lies beyond the clock is none. -/
def lockoutEnds (reports : List (Instant × RateLimitReport)) : List Instant :=
  reports.filterMap fun r => r.2.lockout?.bind (Instant.after? r.1)

/-- The latest of some instants; the start of the clock, if there is none. -/
def latestOf (ends : List Instant) : Instant := ends.foldr max 0

/-- The ends of the lockouts that an operation begins. -/
def StoreCall.lockoutEnds (now : Instant) : StoreCall → List Instant
  | .lockOut d => (Instant.after? now d).toList
  | _ => []

/-- Whether accounts know from now on whether the latest of some ends has come. -/
def MemoryAccounts.Remembers (m : MemoryAccounts) (now : Instant) (ends : List Instant) : Prop :=
  ∀ t, now ≤ t → (m.lockedUntil.getD 0 ≤ t ↔ latestOf ends ≤ t)

theorem le_latestOf {e : Instant} {ends : List Instant} (h : e ∈ ends) : e ≤ latestOf ends := by
  induction ends with
  | nil => nomatch h
  | cons e' rest ih =>
    rcases List.mem_cons.1 h with rfl | h
    · exact Nat.le_max_left _ _
    · exact Nat.le_trans (ih h) (Nat.le_max_right _ _)

namespace Traffic

/-- Whether a move does not come in between a caller's look at the lockout and its
    request for a token. -/
def IsPrompt {σ : Type} (y : Traffic σ) (m : LimiterMove) : Prop :=
  ∀ i c, y.tasks[i]? = some (.taking c) → m = .step i

/-- The report with which a move is about to lock the account out, if it says so. -/
def locking? {σ : Type} (y : Traffic σ) : LimiterMove → Option RateLimitReport
  | .step i => match y.tasks[i]? with
    | some (.locking report) => some report
    | _ => none
  | _ => none

/-- What a limiter with accounts of its own comes to, and the reports that were entered,
    the last first. Others may use the accounts as well, but do not lock them out. -/
inductive IsReported (config : LimiterConfig) :
    Traffic MemoryAccounts → List (Instant × RateLimitReport) → Prop
  | start (now : Instant) : IsReported config ⟨.empty, now, [], []⟩ []
  | step {y y' : Traffic MemoryAccounts} {reports : List (Instant × RateLimitReport)}
    (m : LimiterMove) : IsReported config y reports → y.IsPrompt m →
      (∀ d, m ≠ .perform (.lockOut d)) → y.step (.own config) m = some y' →
        IsReported config y' ((y.locking? m).toList.map (y.now, ·) ++ reports)

end Traffic

/-! ## Operations -/

namespace MemoryAccounts.Remembers

variable {m : MemoryAccounts} {now later : Instant} {ends : List Instant}

/-- An end that has come is as good as none. -/
theorem mono (h : m.Remembers now ends) (hle : now ≤ later) : m.Remembers later ends :=
  fun t ht => h t (Nat.le_trans hle ht)

/-- Accounts go on remembering the latest end after an operation. -/
theorem perform (h : m.Remembers now ends) (call : StoreCall) :
    ((store.perform call).runAt now m).2.Remembers now (call.lockoutEnds now ++ ends) := by
  intro t ht
  rw [lockedUntil_perform]
  cases call with
  | lockout =>
    -- What is forgotten is over.
    refine Iff.trans ?_ (h t ht)
    show (m.lockedUntil.filter (now < ·)).getD 0 ≤ t ↔ _
    cases m.lockedUntil with
    | none => rfl
    | some u =>
      by_cases hu : now < u
      · rw [Option.filter_some, if_pos (decide_eq_true hu)]
      · rw [Option.filter_some, if_neg (by simpa using hu)]
        exact ⟨fun _ => Nat.le_trans (Nat.not_lt.1 hu) ht, fun _ => Nat.zero_le t⟩
  | lockOut d =>
    simp only [StoreCall.lockAfter, StoreCall.lockoutEnds]
    cases Instant.after? now d with
    | none => exact h t ht
    | some deadline =>
      have hmax : (if m.lockedUntil.all (· < deadline) then some deadline
          else m.lockedUntil).getD 0 = max deadline (m.lockedUntil.getD 0) := by
        cases m.lockedUntil with
        | none => exact (Nat.max_zero deadline).symm
        | some u =>
          simp only [Option.all_some, decide_eq_true_eq, Option.getD_some]
          split
          · exact (Nat.max_eq_left (Nat.le_of_lt ‹_›)).symm
          · exact (Nat.max_eq_right (Nat.not_lt.1 ‹_›)).symm
      show (if m.lockedUntil.all (· < deadline) then some deadline
        else m.lockedUntil).getD 0 ≤ t ↔ max deadline (latestOf ends) ≤ t
      rw [hmax, Nat.max_le, Nat.max_le, h t ht]
  | _ => exact h t ht

/-- How long the account is locked out, where the latest end is remembered. -/
theorem lockout_eq (h : m.Remembers now ends) :
    (m.lockout now).1 = if now < latestOf ends then some (latestOf ends - now) else none := by
  have hnow := h now (Nat.le_refl now)
  rw [lockout_fst]
  cases hm : m.lockedUntil with
  | none =>
    rw [hm, Option.getD_none] at hnow
    rw [if_neg (Nat.not_lt.2 (hnow.1 (Nat.zero_le now))), Option.filter_none, Option.map_none]
  | some u =>
    rw [hm, Option.getD_some] at hnow
    by_cases hu : now < u
    · -- Neither of the two is later than the other.
      have hlatest := Nat.lt_of_not_le (mt hnow.2 (Nat.not_le_of_lt hu))
      have hle := h u (Nat.le_of_lt hu)
      have hge := h (latestOf ends) (Nat.le_of_lt hlatest)
      rw [hm, Option.getD_some] at hle hge
      have heq : latestOf ends = u :=
        Nat.le_antisymm (hle.1 (Nat.le_refl u)) (hge.2 (Nat.le_refl _))
      rw [heq, if_pos hu, Option.filter_some, if_pos (decide_eq_true hu), Option.map_some]
    · rw [if_neg (Nat.not_lt.2 (hnow.1 (Nat.not_lt.1 hu))), Option.filter_some,
        if_neg (by simpa using hu), Option.map_none]

end MemoryAccounts.Remembers

/-! ## Steps -/

namespace LimiterTask

variable {t : LimiterTask} {key : String} {u : BucketUpdate}

/-- Only a caller that has found no lockout asks for a token. -/
theorem eq_taking_of_ask (h : t.ask = some (.take key)) : ∃ c, t = .taking c := by
  cases t with
  | taking c => exact ⟨c, rfl⟩
  | looking c => simp only [ask] at h; split at h <;> cases h
  | recording k report => simp [ask] at h
  | locking report => simp [ask] at h
  | _ => cases h

/-- Only a response enters what it reports. -/
theorem eq_recording_of_ask (h : t.ask = some (.record key u)) :
    ∃ report, t = .recording key report := by
  cases t with
  | recording k report =>
    obtain ⟨u', -, hrecord⟩ := Option.map_eq_some_iff.1 h
    cases hrecord
    exact ⟨report, rfl⟩
  | looking c => simp only [ask] at h; split at h <;> cases h
  | locking report => simp [ask] at h
  | _ => cases h

/-- A caller asks for a token next only if it has found no lockout. -/
theorem eq_looking_of_step {σ : Type} {l : Limiter σ} {now : Instant} {s s' : σ} {c : Caller}
    {notes : List LimiterNote}
    (h : t.step l now s = some ((some (.taking c), notes), s')) :
    t.ask = some .lockout ∧
      (l.store.perform .lockout).runAt now s = (.ok (.lockedFor none), s') := by
  rcases cases_of_step l h with ⟨call, reply, hask, hperform, hresumes⟩ |
    ⟨_, _, -, -, hnone, -⟩ | ⟨-, -, hproceeds⟩
  · cases hresumes
    exact ⟨hask, hperform⟩
  · cases hnone
  · cases hproceeds

end LimiterTask

namespace Traffic

variable {config : LimiterConfig} {y y' : Traffic MemoryAccounts} {move : LimiterMove}
  {reports : List (Instant × RateLimitReport)} {i : Nat}

/-- A move begins the lockout that its report tells of. -/
theorem lockoutEnds_locking? (hmove : ∀ d, move ≠ .perform (.lockOut d)) :
    lockoutEnds ((y.locking? move).toList.map (y.now, ·)) =
      (y.call? move).elim [] (StoreCall.lockoutEnds y.now) := by
  cases move with
  | perform call =>
    cases call with
    | lockOut d => exact absurd rfl (hmove d)
    | _ => rfl
  | step i =>
    simp only [locking?, call?]
    cases y.tasks[i]? with
    | none => rfl
    | some t =>
      cases t with
      | locking report =>
        simp only [Option.bind_some, LimiterTask.ask]
        cases hlock : report.lockout? with
        | none => simp [lockoutEnds, hlock]
        | some d =>
          cases hend : Instant.after? y.now d <;>
            simp [lockoutEnds, hlock, StoreCall.lockoutEnds, hend]
      | looking c =>
        simp only [Option.bind_some, LimiterTask.ask]
        split <;> rfl
      | recording key report =>
        simp only [Option.bind_some, LimiterTask.ask]
        cases report.update? <;> rfl
      | _ => rfl
  | _ => rfl

theorem lockoutEnds_append (hmove : ∀ d, move ≠ .perform (.lockOut d)) :
    lockoutEnds ((y.locking? move).toList.map (y.now, ·) ++ reports) =
      (y.call? move).elim [] (StoreCall.lockoutEnds y.now) ++ lockoutEnds reports := by
  rw [← lockoutEnds_locking? hmove, lockoutEnds, List.filterMap_append]
  rfl

/-- A step goes on remembering the latest end. -/
theorem remembers_of_step (h : y.accounts.Remembers y.now (lockoutEnds reports))
    (hmove : ∀ d, move ≠ .perform (.lockOut d)) (hstep : y.step (.own config) move = some y') :
    y'.accounts.Remembers y'.now
      (lockoutEnds ((y.locking? move).toList.map (y.now, ·) ++ reports)) := by
  rw [lockoutEnds_append hmove, accounts_of_step hstep]
  rcases step_cases (.own config) hstep "" with
    ⟨call, reply, hcall, -, hnow, -⟩ | ⟨hcall, -, hnow, -⟩
  · rw [hcall, hnow]
    exact h.perform call
  · rw [hcall]
    exact h.mono hnow

/-! ## Runs -/

/-- What holds of the lockout all the time: the latest end is remembered, and it has come
    where a caller is about to ask for a token. -/
structure KeepsLockout (y : Traffic MemoryAccounts) (ends : List Instant) : Prop where
  remembers : y.accounts.Remembers y.now ends
  clear : ∀ c, .taking c ∈ y.tasks → latestOf ends ≤ y.now

theorem isPrompt_of_idle (h : ∀ c, .taking c ∉ y.tasks) : y.IsPrompt move :=
  fun _ c hc => absurd (List.mem_of_getElem? hc) (h c)

/-- A prompt move leaves no caller behind that has found no lockout. -/
theorem eq_step_of_isPrompt {c : Caller} (hprompt : y.IsPrompt move) (h : .taking c ∈ y.tasks) :
    ∃ i, move = .step i ∧ y.tasks[i]? = some (.taking c) := by
  obtain ⟨i, hi⟩ := List.mem_iff_getElem?.1 h
  exact ⟨i, hprompt i c hi, hi⟩

theorem KeepsLockout.step (h : y.KeepsLockout (lockoutEnds reports)) (hprompt : y.IsPrompt move)
    (hmove : ∀ d, move ≠ .perform (.lockOut d)) (hstep : y.step (.own config) move = some y') :
    y'.KeepsLockout (lockoutEnds ((y.locking? move).toList.map (y.now, ·) ++ reports)) := by
  refine ⟨remembers_of_step h.remembers hmove hstep, fun c hc => ?_⟩
  -- No caller was about to ask before, unless it is the one that the move lets ask.
  have hidle : (∀ i, move ≠ .step i) → .taking c ∉ y.tasks := by
    intro hne hc
    obtain ⟨i, rfl, -⟩ := eq_step_of_isPrompt hprompt hc
    exact hne i rfl
  cases move with
  | request route =>
    cases hstep
    exact absurd hc (by simpa using hidle (by simp))
  | response route report =>
    cases hstep
    exact absurd hc (by simpa using hidle (by simp))
  | advance d =>
    cases hstep
    exact absurd hc (hidle (by simp))
  | perform call =>
    cases hstep
    exact absurd hc (hidle (by simp))
  | step i =>
    obtain ⟨t, next, notes, s, ht, htask, rfl⟩ := exists_of_step _ hstep
    rcases List.mem_append.1 hc with hc | hc
    · rcases List.mem_append.1 hc with hc | hc
      · obtain ⟨j, hj⟩ := List.mem_iff_getElem?.1 hc
        rw [List.getElem?_take] at hj
        split at hj
        · have heq := hprompt j c hj
          simp only [LimiterMove.step.injEq] at heq
          omega
        · cases hj
      · -- The task itself is about to ask now, so it has found no lockout.
        obtain rfl : next = some (.taking c) := by simpa using hc
        obtain ⟨hask, hperform⟩ := LimiterTask.eq_looking_of_step htask
        have hnone : (y.accounts.lockout y.now).1 = none := by
          have hreply := congrArg Prod.fst hperform
          simpa [Limiter.own, MemoryAccounts.perform_lockout] using hreply
        have hcall : y.call? (.step i) = some .lockout := by
          rw [call?, ht, Option.bind_some, hask]
        rw [lockoutEnds_append hmove, hcall]
        rw [h.remembers.lockout_eq] at hnone
        show latestOf (lockoutEnds reports) ≤ y.now
        simpa using hnone
    · obtain ⟨j, hj⟩ := List.mem_iff_getElem?.1 hc
      rw [List.getElem?_drop] at hj
      have heq := hprompt _ c hj
      simp only [LimiterMove.step.injEq] at heq
      omega

theorem IsReported.keepsLockout (h : IsReported config y reports) :
    y.KeepsLockout (lockoutEnds reports) := by
  induction h with
  | start now => exact ⟨fun t _ => Iff.rfl, fun c hc => nomatch hc⟩
  | step move _ hprompt hmove hstep ih => exact ih.step hprompt hmove hstep

/-- Only a caller that is about to ask for a token is admitted in a step of its own. -/
theorem exists_taking_of_admissions_lt {key : String}
    (hstep : y.step (.own config) (.step i) = some y')
    (hless : y.admissions key < y'.admissions key) : ∃ c, .taking c ∈ y.tasks := by
  rcases step_cases (.own config) hstep key with
    ⟨call, reply, hcall, -, -, hadmissions⟩ | ⟨-, -, -, hadmissions⟩
  · obtain ⟨t, ht, hask⟩ := Option.bind_eq_some_iff.1 hcall
    cases call with
    | take k =>
      obtain ⟨c, rfl⟩ := LimiterTask.eq_taking_of_ask hask
      exact ⟨c, List.mem_of_getElem? ht⟩
    | _ => exact absurd hless (by rw [hadmissions]; exact Nat.lt_irrefl _)
  · rw [hadmissions] at hless
    exact absurd hless (Nat.lt_irrefl _)

/-- A step that enters no report and takes no token leaves the buckets alone. -/
theorem buckets_of_step (hstep : y.step (.own config) (.step i) = some y')
    (htaking : ∀ c, .taking c ∉ y.tasks)
    (hrecording : ∀ key report, y.tasks[i]? ≠ some (.recording key report)) :
    y'.accounts.buckets = y.accounts.buckets := by
  rw [accounts_of_step hstep]
  cases hcall : y.call? (.step i) with
  | none => rfl
  | some call =>
    obtain ⟨t, ht, hask⟩ := Option.bind_eq_some_iff.1 hcall
    refine MemoryAccounts.buckets_perform (fun key hcall => ?_) (fun key u hcall => ?_)
    · obtain ⟨c, rfl⟩ := LimiterTask.eq_taking_of_ask (hcall ▸ hask)
      exact htaking c (List.mem_of_getElem? ht)
    · obtain ⟨report, rfl⟩ := LimiterTask.eq_recording_of_ask (hcall ▸ hask)
      exact hrecording key report ht

/-- As long as the account is locked out, which is until the latest end that was reported, no
    caller is admitted and no bucket gives a token. -/
theorem IsReported.lockout_dominates (h : IsReported config y reports) :
    (y.accounts.lockout y.now).1 =
        (if y.now < latestOf (lockoutEnds reports) then
          some (latestOf (lockoutEnds reports) - y.now) else none) ∧
      ∀ i y', y.step (.own config) (.step i) = some y' →
        (∀ key, y.admissions key < y'.admissions key →
          ∀ u report, (u, report) ∈ reports → report.isGlobal →
            u + report.retryAfter.getD (Duration.ofSeconds 1) < Instant.limit →
              u + report.retryAfter.getD (Duration.ofSeconds 1) ≤ y.now) ∧
        ((y.accounts.lockout y.now).1.isSome →
          (∀ key, y'.admissions key = y.admissions key) ∧
          ((∀ key report, y.tasks[i]? ≠ some (.recording key report)) →
            y'.accounts.buckets = y.accounts.buckets)) := by
  have hkeeps := h.keepsLockout
  have hlockout := hkeeps.remembers.lockout_eq
  refine ⟨hlockout, fun i y' hstep => ⟨?_, fun hsome => ?_⟩⟩
  · intro key hless u report hreport hglobal hclock
    obtain ⟨c, hc⟩ := exists_taking_of_admissions_lt hstep hless
    refine Nat.le_trans (le_latestOf ?_) (hkeeps.clear c hc)
    refine List.mem_filterMap.2 ⟨_, hreport, ?_⟩
    simp only [RateLimitReport.lockout?, hglobal, if_true, Option.bind_some, Instant.after?, hclock]
  · have hidle : ∀ c, .taking c ∉ y.tasks := by
      intro c hc
      rw [hlockout, if_neg (Nat.not_lt.2 (hkeeps.clear c hc))] at hsome
      exact absurd hsome Bool.false_ne_true
    refine ⟨fun key => ?_, buckets_of_step hstep hidle⟩
    have hle : y.admissions key ≤ y'.admissions key := by
      rcases step_cases (.own config) hstep key with ⟨_, _, -, -, -, h⟩ | ⟨-, -, -, h⟩ <;> omega
    refine Nat.le_antisymm (Nat.not_lt.1 fun hless => ?_) hle
    obtain ⟨c, hc⟩ := exists_taking_of_admissions_lt hstep hless
    exact hidle c hc

/-- A caller sleeps through a lockout of 10, which a report of a lockout that ends at 5 does
    not shorten, and is admitted when it is over. -/
theorem IsReported.lockout_dominates_asleep :
    ∃ (y y' : Traffic MemoryAccounts) (key : String) (long short : RateLimitReport),
      IsReported {} y [(3, short), (0, long)] ∧ long.isGlobal ∧ long.retryAfter = some 10 ∧
      short.isGlobal ∧ short.retryAfter = some 2 ∧ y.step (.own {}) (.step 0) = some y' ∧
      y.admissions key < y'.admissions key ∧
      0 + long.retryAfter.getD (Duration.ofSeconds 1) ≤ y.now := by
  let r : Route := .guild 1
  let long : RateLimitReport := ⟨none, none, none, none, true, some 10⟩
  let short : RateLimitReport := ⟨none, none, none, none, true, some 2⟩
  let c : Caller := ⟨r.key, 64, 0⟩
  let y (now : Instant) (lock : Option Instant) (tasks : List LimiterTask) (n : Nat) :
      Traffic MemoryAccounts :=
    ⟨⟨∅, ∅, ∅, lock⟩, now, tasks, List.replicate n (.entered (.ok ()))⟩
  have h₁ : IsReported {} (y 0 none [.responding r long] 0) [] :=
    .step (.response r long) (.start 0) (isPrompt_of_idle (by simp)) (by simp) rfl
  have h₂ : IsReported {} (y 0 none [.recording r.key long] 0) [] :=
    .step (.step 0) h₁ (isPrompt_of_idle (by simp [y])) (by simp) rfl
  have h₃ : IsReported {} (y 0 none [.locking long] 0) [] :=
    .step (.step 0) h₂ (isPrompt_of_idle (by simp [y])) (by simp) rfl
  have h₄ : IsReported {} (y 0 (some 10) [] 1) [(0, long)] :=
    .step (.step 0) h₃ (isPrompt_of_idle (by simp [y])) (by simp) rfl
  have h₅ : IsReported {} (y 3 (some 10) [] 1) [(0, long)] :=
    .step (.advance 3) h₄ (isPrompt_of_idle (by simp [y])) (by simp) rfl
  have h₆ : IsReported {} (y 3 (some 10) [.responding r short] 1) [(0, long)] :=
    .step (.response r short) h₅ (isPrompt_of_idle (by simp [y])) (by simp) rfl
  have h₇ : IsReported {} (y 3 (some 10) [.recording r.key short] 1) [(0, long)] :=
    .step (.step 0) h₆ (isPrompt_of_idle (by simp [y])) (by simp) rfl
  have h₈ : IsReported {} (y 3 (some 10) [.locking short] 1) [(0, long)] :=
    .step (.step 0) h₇ (isPrompt_of_idle (by simp [y])) (by simp) rfl
  have h₉ : IsReported {} (y 3 (some 10) [] 2) [(3, short), (0, long)] :=
    .step (.step 0) h₈ (isPrompt_of_idle (by simp [y])) (by simp) rfl
  have h₁₀ : IsReported {} (y 3 (some 10) [.coming r] 2) [(3, short), (0, long)] :=
    .step (.request r) h₉ (isPrompt_of_idle (by simp [y])) (by simp) rfl
  have h₁₁ : IsReported {} (y 3 (some 10) [.looking c] 2) [(3, short), (0, long)] :=
    .step (.step 0) h₁₀ (isPrompt_of_idle (by simp [y])) (by simp) rfl
  have h₁₂ : IsReported {} (y 3 (some 10) [.asleep (c.putOff 7) 10] 2) [(3, short), (0, long)] :=
    .step (.step 0) h₁₁ (isPrompt_of_idle (by simp [y])) (by simp) rfl
  have h₁₃ : IsReported {} (y 10 (some 10) [.asleep (c.putOff 7) 10] 2) [(3, short), (0, long)] :=
    .step (.advance 7) h₁₂ (isPrompt_of_idle (by simp [y])) (by simp) rfl
  have h₁₄ : IsReported {} (y 10 (some 10) [.looking (c.putOff 7)] 2) [(3, short), (0, long)] :=
    .step (.step 0) h₁₃ (isPrompt_of_idle (by simp [y])) (by simp) rfl
  have h₁₅ : IsReported {} (y 10 none [.taking (c.putOff 7)] 2) [(3, short), (0, long)] :=
    .step (.step 0) h₁₄ (isPrompt_of_idle (by simp [y])) (by simp) rfl
  have hstep : (y 10 none [.taking (c.putOff 7)] 2).step (.own {}) (.step 0) =
      some { y 10 none [] 2 with log := .admitted r.key :: (y 10 none [] 2).log } := rfl
  have hless : (y 10 none [.taking (c.putOff 7)] 2).admissions r.key <
      Traffic.admissions { y 10 none [] 2 with log := .admitted r.key :: (y 10 none [] 2).log }
        r.key := by
    simp [admissions, y, LimiterNote.isAdmission]
  exact ⟨_, _, r.key, long, short, h₁₅, rfl, rfl, rfl, rfl, hstep, hless,
    (h₁₅.lockout_dominates.2 0 _ hstep).1 r.key hless 0 long (by simp) rfl (by decide)⟩

end Traffic

end GatewayClient
