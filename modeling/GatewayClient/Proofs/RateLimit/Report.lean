import GatewayClient.Proofs.RateLimit.Memory
import GatewayClient.Proofs.RateLimit.Window

/-!
# Reports that are entered

What a response reports on a route is entered in up to three parts: the name of the bucket,
the state of the bucket with that name, and a lockout of the account. In memory this succeeds
exactly if the clock reaches the deadlines, and then each part changes what it is about and
nothing else.

* `RateLimitReport.FitsAt`: the clock reaches the deadlines of a report.
* `MemoryAccounts.Enters`: what a report leaves of the accounts.
* `MemoryAccounts.exists_update_eq`, `MemoryAccounts.update_fst_eq_ok_iff`: so does an update,
  if and only if the deadlines fit.
-/

namespace GatewayClient

/-- The clock reaches the deadlines of a report that is heard at an instant. -/
structure RateLimitReport.FitsAt (r : RateLimitReport) (now : Instant) : Prop where
  update : ∀ u ∈ r.update?, (Instant.after? now u.resetAfter).isSome
  lockout : ∀ d ∈ r.lockout?, (Instant.after? now d).isSome

theorem Instant.isSome_after?_iff {now : Instant} {d : Duration} :
    (Instant.after? now d).isSome ↔ now + d < Instant.limit := by
  unfold Instant.after?
  split <;> simp_all

/-- A bucket, of which something may be known, after a report whose deadline the clock
    reaches. -/
def Bucket.entered (known : Option Bucket) (u : BucketUpdate) (now : Instant) : Bucket where
  limit := u.limit
  remaining := known.elim u.remaining (·.remainingAfter u now)
  resetAt := some (now + u.resetAfter)

/-- An empty bucket makes a request wait for the end of its window. -/
theorem Bucket.take_entered_zero (known : Option Bucket) (limit : Nat) {d : Duration}
    (hpos : 0 < d) : ((Bucket.entered known ⟨limit, 0, d⟩ 0).take 0).1 = .wait d := by
  have hopen : (Bucket.entered known ⟨limit, 0, d⟩ 0).isOpen 0 := by
    simp [Bucket.isOpen, Bucket.entered, hpos]
  have hremaining : (Bucket.entered known ⟨limit, 0, d⟩ 0).remaining = 0 := by
    cases known with
    | none => rfl
    | some b => exact Nat.le_zero.1 (b.remainingAfter_le_report ⟨limit, 0, d⟩ 0)
  rw [Bucket.take, Bucket.refill_of_isOpen hopen, hremaining]
  simp [Bucket.waitAt, Bucket.entered]

/-- The state and the lockout of a report are entered one after the other, where it tells of
    them. -/
theorem Limiter.enter_eq {σ : Type} (l : Limiter σ) (key : String) (report : RateLimitReport) :
    l.enter key report = (do
      report.update?.elim (pure ()) (l.store.record key)
      report.lockout?.elim (pure ()) l.store.lockOut) := by
  rw [Limiter.enter]
  cases report.update? <;> cases report.lockout? <;> rfl

namespace MemoryAccounts

/-- What a report on a route leaves of accounts in which it is entered. -/
structure Enters (m : MemoryAccounts) (route : Route) (report : RateLimitReport) (now : Instant)
    (m' : MemoryAccounts) : Prop where
  names : ∀ k, m'.names.get? k =
    if route.key = k then report.bucket.or (m.names.get? k) else m.names.get? k
  buckets : ∀ k, m'.buckets.get? k =
    if report.bucket.getD (m.keyOf route) = k then
      (report.update?.map fun u => Bucket.entered (m.buckets.get? k) u now).or (m.buckets.get? k)
    else m.buckets.get? k
  slots : m'.slots = m.slots
  lockedUntil : m'.lockedUntil =
    (report.lockout?.map fun d => max (now + d) (m.lockedUntil.getD 0)).or m.lockedUntil

variable {now : Instant} {m m' : MemoryAccounts} {key : String} {route : Route} {u : BucketUpdate}
  {d : Duration} {report : RateLimitReport} {config : LimiterConfig}

/-- The route is accounted for under the name that the report gives. -/
theorem Enters.keyOf_eq (h : m.Enters route report now m') :
    m'.keyOf route = report.bucket.getD (m.keyOf route) := by
  rw [keyOf, h.names, if_pos rfl, keyOf]
  cases report.bucket <;> rfl

/-! ## The parts of a report -/

theorem bucketKey_own (config : LimiterConfig) (m : MemoryAccounts) (route : Route)
    (now : Instant) :
    ((Limiter.own config).bucketKey route).runAt now m = (.ok (m.keyOf route), m) := rfl

/-- The name that a report gives is known afterwards, whether or not it was before. -/
theorem exists_reportKey_eq (config : LimiterConfig) (m : MemoryAccounts) (route : Route)
    (report : RateLimitReport) (now : Instant) :
    ∃ names, ((Limiter.own config).reportKey route report).runAt now m =
        (.ok (report.bucket.getD (m.keyOf route)), { m with names }) ∧
      ∀ k, names.get? k =
        if route.key = k then report.bucket.or (m.names.get? k) else m.names.get? k := by
  rw [Limiter.reportKey]
  cases report.bucket with
  | none => exact ⟨m.names, rfl, fun k => by simp⟩
  | some name =>
    have hbucketOf : ((Limiter.own config).store.bucketOf route.key).runAt now m =
      (.ok (m.names.get? route.key), m) := rfl
    simp only [StoreAction.runAt_bind, hbucketOf]
    by_cases hknown : m.names.get? route.key = some name
    · rw [if_neg (fun h => h hknown)]
      refine ⟨m.names, rfl, fun k => ?_⟩
      split
      · next hk => rw [← hk, hknown, Option.some_or]
      · rfl
    · rw [if_pos hknown]
      exact ⟨m.names.insert route.key name, rfl, fun k => m.names.get?_insert route.key k name⟩

/-- The state of a bucket can be entered exactly if the clock reaches the end of the window. -/
theorem runAt_record (m : MemoryAccounts) (key : String) (u : BucketUpdate) (now : Instant) :
    (store.record key u).runAt now m =
      (if (Instant.after? now u.resetAfter).isSome then .ok () else .error .clockOverflow,
        m.record key u now) := rfl

/-- A bucket that is entered is the only one that changes. -/
theorem get?_record (m : MemoryAccounts) (key : String)
    (h : (Instant.after? now u.resetAfter).isSome) (k : String) :
    (m.record key u now).buckets.get? k =
      if key = k then some (Bucket.entered (m.buckets.get? k) u now) else m.buckets.get? k := by
  obtain ⟨deadline, hafter⟩ := Option.isSome_iff_exists.1 h
  obtain rfl := Instant.after?_eq_some hafter
  rw [get?_buckets_record, StoreCall.bucketAfter]
  split
  · cases m.buckets.get? k with
    | none => simp [Bucket.ofUpdate?, Bucket.entered, hafter]
    | some b => simp [Bucket.reported, Bucket.entered, hafter]
  · rfl

theorem runAt_lockOut_of_isSome (m : MemoryAccounts) (h : (Instant.after? now d).isSome) :
    (store.lockOut d).runAt now m =
      (.ok (), { m with lockedUntil := some (max (now + d) (m.lockedUntil.getD 0)) }) := by
  obtain ⟨deadline, hafter⟩ := Option.isSome_iff_exists.1 h
  obtain rfl := Instant.after?_eq_some hafter
  have hrun : (store.lockOut d).runAt now m = (.ok (),
      if m.lockedUntil.all (· < now + d) then { m with lockedUntil := some (now + d) } else m) := by
    simp only [store, StoreAction.runAt_of, lockOut?, hafter, Option.map_some]
  rw [hrun]
  obtain ⟨buckets, names, slots, lockedUntil⟩ := m
  cases lockedUntil with
  | none => simp
  | some held =>
    by_cases hless : held < now + d
    · simp [hless, Nat.max_eq_left (Nat.le_of_lt hless)]
    · simp [hless, Nat.max_eq_right (Nat.not_lt.1 hless)]

theorem runAt_lockOut_of_none (m : MemoryAccounts) (h : Instant.after? now d = none) :
    (store.lockOut d).runAt now m = (.error .clockOverflow, m) := by
  simp only [store, StoreAction.runAt_of, lockOut?, h, Option.map_none]

/-! ## Whole reports -/

/-- The state that a report tells of is entered exactly if the clock reaches its deadline. -/
theorem exists_runAt_record? (m : MemoryAccounts) (key : String)
    (h : ∀ u ∈ report.update?, (Instant.after? now u.resetAfter).isSome) :
    ∃ buckets, StoreAction.runAt (report.update?.elim (pure ()) (store.record key)) now m =
        (.ok (), { m with buckets }) ∧
      ∀ k, buckets.get? k = if key = k then
          (report.update?.map fun u => Bucket.entered (m.buckets.get? k) u now).or
            (m.buckets.get? k)
        else m.buckets.get? k := by
  cases hupdate : report.update? with
  | none => exact ⟨m.buckets, rfl, fun k => by simp⟩
  | some u =>
    have hfits := h u hupdate
    obtain ⟨buckets, hrecord⟩ := exists_eq_record m key u now
    refine ⟨buckets, ?_, fun k => ?_⟩
    · rw [Option.elim_some, runAt_record, if_pos hfits, hrecord]
    · have hget := get?_record m key hfits k
      rwa [hrecord] at hget

/-- So is the lockout. -/
theorem runAt_lockOut? (m : MemoryAccounts)
    (h : ∀ d ∈ report.lockout?, (Instant.after? now d).isSome) :
    StoreAction.runAt (report.lockout?.elim (pure ()) store.lockOut) now m =
      (.ok (), { m with lockedUntil :=
        (report.lockout?.map fun d => max (now + d) (m.lockedUntil.getD 0)).or m.lockedUntil }) := by
  cases hlockout : report.lockout? with
  | none => rfl
  | some d => exact runAt_lockOut_of_isSome m (h d hlockout)

/-- A report whose deadlines the clock reaches is entered as a whole. -/
theorem exists_update_eq (config : LimiterConfig) (m : MemoryAccounts) (route : Route)
    (h : report.FitsAt now) :
    ∃ m', ((Limiter.own config).update route report).runAt now m = (.ok (), m') ∧
      m.Enters route report now m' := by
  obtain ⟨names, hkey, hnames⟩ := exists_reportKey_eq config m route report now
  obtain ⟨buckets, hrecord, hbuckets⟩ := exists_runAt_record? { m with names }
    (report.bucket.getD (m.keyOf route)) h.update
  have hlockout := runAt_lockOut? { m with names, buckets } h.lockout
  refine ⟨{ m with names, buckets, lockedUntil :=
    (report.lockout?.map fun d => max (now + d) (m.lockedUntil.getD 0)).or m.lockedUntil },
    ?_, hnames, hbuckets, rfl, rfl⟩
  rw [Limiter.update, StoreAction.runAt_bind_of_ok _ hkey, Limiter.enter_eq]
  exact (StoreAction.runAt_bind_of_ok _ hrecord).trans hlockout

/-- In memory nothing but a deadline beyond the clock keeps a report from being entered. -/
theorem update_fst_eq_ok_iff (config : LimiterConfig) (m : MemoryAccounts) (route : Route) :
    (((Limiter.own config).update route report).runAt now m).1 = .ok () ↔ report.FitsAt now := by
  constructor
  · intro h
    obtain ⟨names, hkey, -⟩ := exists_reportKey_eq config m route report now
    rw [Limiter.update, StoreAction.runAt_bind_of_ok _ hkey, Limiter.enter_eq] at h
    have hstate : ∀ u ∈ report.update?, (Instant.after? now u.resetAfter).isSome := by
      intro u hu
      by_cases hfits : (Instant.after? now u.resetAfter).isSome
      · exact hfits
      · rw [Option.mem_def.1 hu, Option.elim_some] at h
        have hrecord := runAt_record { m with names } (report.bucket.getD (m.keyOf route)) u now
        rw [if_neg hfits] at hrecord
        cases (congrArg Prod.fst (StoreAction.runAt_bind_of_error _ hrecord)).symm.trans h
    obtain ⟨buckets, hrecord, -⟩ := exists_runAt_record? { m with names }
      (report.bucket.getD (m.keyOf route)) hstate
    refine ⟨hstate, fun d hd => ?_⟩
    by_cases hfits : (Instant.after? now d).isSome
    · exact hfits
    · have henter := (congrArg Prod.fst (StoreAction.runAt_bind_of_ok _ hrecord)).symm.trans h
      rw [Option.mem_def.1 hd, Option.elim_some] at henter
      have hlockout := runAt_lockOut_of_none { m with names, buckets }
        (Option.not_isSome_iff_eq_none.1 hfits)
      cases (congrArg Prod.fst hlockout).symm.trans henter
  · intro h
    obtain ⟨m', hupdate, -⟩ := exists_update_eq config m route h
    rw [hupdate]

end MemoryAccounts

end GatewayClient
