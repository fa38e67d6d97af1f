import Mathlib
import GatewayClient.Proofs.RateLimit.ServerReport
import GatewayClient.Rest.Headers
import GatewayClient.Text.Utf8

/-!
# Deadlines that headers set

A header can tell of times of up to 2⁶⁴ seconds. Neither the clock of a client nor that of a
server goes so far. In memory a deadline beyond the clock is not set, and the response is not
entered. On a server the milliseconds of a duration stop at the largest word, and then their
sum with the time goes around: the end of a window may come to lie before its report. Scripts
on a server compare lockouts as binary64 numbers, so that one may be taken for no longer than
another that ends a little earlier.

* `RateLimitReport.FitsServerAt`, `RateLimitReport.FitsServerExactlyAt`: the clock of a server
  reaches what a report tells of.
* `MemoryAccounts.SetsDeadlines`, `SharedAccounts.SetsDeadlines`: a response is entered, and its
  deadlines are as far off as they should be.
* `Headers.setsDeadlines_report_iff`: this is so exactly for the deadlines that the clocks reach.
-/

namespace GatewayClient

/-! ## Deadlines -/

/-- Whether a deadline is when the time that is left is over. -/
def IsExactDeadline (now left deadline : Nat) : Prop := deadline = now + left

/-- Whether it is then, or at a cap that is earlier but has not passed. -/
def IsCappedDeadline (now left deadline : Nat) : Prop :=
  ∃ cap, now ≤ cap ∧ deadline = min (now + left) cap

theorem IsExactDeadline.isCapped {now left deadline : Nat} (h : IsExactDeadline now left deadline) :
    IsCappedDeadline now left deadline :=
  ⟨now + left, Nat.le_add_right _ _, by rw [Nat.min_self]; exact h⟩

theorem IsCappedDeadline.le {now left deadline : Nat} (h : IsCappedDeadline now left deadline) :
    now ≤ deadline := by
  obtain ⟨cap, hcap, rfl⟩ := h
  exact Nat.le_min.2 ⟨Nat.le_add_right _ _, hcap⟩

/-- The milliseconds of a lockout on a server, which takes at least one. -/
def RateLimitReport.lockoutTime (d : Duration) : Nat := max (Duration.millis d) 1

/-- The clock of a server reaches the deadlines of a report that is heard at a time, and until
    when it keeps the state of the bucket. A lockout is left out if the one that is there has
    as many milliseconds left, as scripts count. -/
structure RateLimitReport.FitsServerAt (r : RateLimitReport) (wall : Nat) (left : Int) : Prop where
  update : ∀ u ∈ r.update?, Integer.Fits
    ((wall + Duration.millis u.resetAfter + SharedAccounts.idleTime : Nat) : Int)
  lockout : ∀ d ∈ r.lockout?, Binary64.roundInt (lockoutTime d) ≤ Binary64.roundInt left ∨
    Integer.Fits ((wall + lockoutTime d : Nat) : Int)

/-- It does so, and no lockout is left out that would last longer. -/
structure RateLimitReport.FitsServerExactlyAt (r : RateLimitReport) (wall : Nat) (left : Int) :
    Prop extends r.FitsServerAt wall left where
  longest : ∀ d ∈ r.lockout?, lockoutTime d ≤ left ∨
    Binary64.roundInt left < Binary64.roundInt (lockoutTime d)

variable {isDeadline isDeadline' : Nat → Nat → Nat → Prop} {config : LimiterConfig} {route : Route}
  {report : RateLimitReport} {now : Instant}

/-! ## In memory -/

namespace MemoryAccounts

/-- A report on a route is entered in memory with some deadlines. -/
structure SetsDeadlines (isDeadline : Nat → Nat → Nat → Prop) (config : LimiterConfig)
    (m : MemoryAccounts) (route : Route) (report : RateLimitReport) (now : Instant)
    (m' : MemoryAccounts) : Prop where
  update : ((Limiter.own config).update route report).runAt now m = (.ok (), m')
  bucket : ∀ u ∈ report.update?, ∃ key b deadline,
    ((Limiter.own config).bucketKey route).runAt now m' = (.ok key, m') ∧
      m'.buckets.get? key = some b ∧ b.resetAt = some deadline ∧
      isDeadline now u.resetAfter deadline
  lockout : ∀ d ∈ report.lockout?, ∃ deadline, isDeadline now d deadline ∧
    m'.lockedUntil = some (max deadline (m.lockedUntil.getD 0))

variable {m m' : MemoryAccounts}

theorem SetsDeadlines.mono (h : m.SetsDeadlines isDeadline config route report now m')
    (himp : ∀ now left deadline, isDeadline now left deadline → isDeadline' now left deadline) :
    m.SetsDeadlines isDeadline' config route report now m' := by
  refine ⟨h.update, fun u hu => ?_, fun d hd => ?_⟩
  · obtain ⟨key, b, deadline, hkey, hget, hreset, hdeadline⟩ := h.bucket u hu
    exact ⟨key, b, deadline, hkey, hget, hreset, himp _ _ _ hdeadline⟩
  · obtain ⟨deadline, hdeadline, hlocked⟩ := h.lockout d hd
    exact ⟨deadline, himp _ _ _ hdeadline, hlocked⟩

/-- In memory a report is entered with exact deadlines, or not at all. -/
theorem setsDeadlines_tfae (config : LimiterConfig) (m : MemoryAccounts) (route : Route)
    (report : RateLimitReport) (now : Instant) :
    [∃ m', m.SetsDeadlines IsExactDeadline config route report now m',
      ∃ m', m.SetsDeadlines IsCappedDeadline config route report now m',
      report.FitsAt now].TFAE := by
  tfae_have 1 → 2 := by
    rintro ⟨m', h⟩
    exact ⟨m', h.mono fun _ _ _ => IsExactDeadline.isCapped⟩
  tfae_have 2 → 3 := by
    rintro ⟨m', h⟩
    exact (update_fst_eq_ok_iff config m route).1 (by rw [h.update])
  tfae_have 3 → 1 := by
    intro h
    obtain ⟨m', hupdate, henters⟩ := exists_update_eq config m route h
    refine ⟨m', hupdate, fun u hu => ⟨m'.keyOf route,
      Bucket.entered (m.buckets.get? (m'.keyOf route)) u now, now + u.resetAfter,
      bucketKey_own config m' route now, ?_, rfl, rfl⟩, fun d hd => ⟨now + d, rfl, ?_⟩⟩
    · rw [henters.keyOf_eq, henters.buckets, if_pos rfl, Option.mem_def.1 hu]
      rfl
    · rw [henters.lockedUntil, Option.mem_def.1 hd]
      rfl
  tfae_finish

end MemoryAccounts

/-! ## On a server -/

/-- A number that is not negative fits into a signed word if it has 63 bits. -/
theorem Integer.fits_natCast_iff {n : Nat} : Integer.Fits (n : Int) ↔ n < 9223372036854775808 := by
  have hbound : Nat.pow 2 63 = 9223372036854775808 := by decide
  rw [Integer.Fits, hbound]
  omega

namespace SharedAccounts

variable {wall lifetime : Nat} {u : BucketUpdate} {d : Duration}

theorem isLifetime_iff :
    IsLifetime wall lifetime ↔ 0 < lifetime ∧ wall + lifetime < 9223372036854775808 := by
  rw [IsLifetime, ← Int.natCast_add, Integer.fits_natCast_iff]

theorem millis_eq_min (d : Duration) :
    millis d = min (Duration.millis d) 18446744073709551615 := rfl

theorem recordLifetime_eq_mod (u : BucketUpdate) :
    recordLifetime u = (millis u.resetAfter + 600000) % 18446744073709551616 := rfl

theorem reportedMark_eq_bmod (wall : Nat) (u : BucketUpdate) : reportedMark wall u =
    Int.bmod ((wall + millis u.resetAfter : Nat) : Int) 18446744073709551616 := rfl

/-- As long as the clock is far from its end, a window ends when it should. -/
theorem reportedMark_eq
    (h : Integer.Fits ((wall + Duration.millis u.resetAfter + idleTime : Nat) : Int)) :
    reportedMark wall u = (wall + Duration.millis u.resetAfter : Nat) ∧
      IsLifetime wall (recordLifetime u) := by
  have hidle : idleTime = 600000 := rfl
  rw [Integer.fits_natCast_iff, hidle] at h
  have hmillis := millis_eq_min u.resetAfter
  rw [reportedMark_eq_bmod, isLifetime_iff, recordLifetime_eq_mod]
  refine ⟨?_, ?_⟩
  · rw [Int.bmod_eq_of_le (by omega) (by omega)]
    omega
  · omega

/-- Where the clock goes around, the lifetime is refused or the end of the window is over. -/
theorem fits_of_le_reportedMark (hwall : Integer.Fits wall)
    (hlifetime : Integer.Fits ((wall : Int) + (recordLifetime u : Nat)))
    (hle : wall ≤ reportedMark wall u) :
    Integer.Fits ((wall + Duration.millis u.resetAfter + idleTime : Nat) : Int) := by
  have hidle : idleTime = 600000 := rfl
  have hmillis := millis_eq_min u.resetAfter
  rw [Integer.fits_natCast_iff] at hwall ⊢
  rw [reportedMark_eq_bmod, Int.bmod_def] at hle
  rw [← Int.natCast_add, Integer.fits_natCast_iff, recordLifetime_eq_mod] at hlifetime
  rw [hidle]
  by_cases hword : millis u.resetAfter + 600000 < 18446744073709551616
  · omega
  · -- The lifetime has gone around, and with it the end of the window.
    split at hle
    · omega
    · omega

/-! ### Lockouts -/

open Binary64 (roundInt)
open RateLimitReport (lockoutTime)

section Lockout

/-- A lockout has all its time, unless that is more than a word holds. -/
theorem lockoutLifetime_cases (d : Duration) : lockoutLifetime d = lockoutTime d ∨
    lockoutLifetime d = 18446744073709551615 ∧ 18446744073709551615 ≤ lockoutTime d := by
  have hmillis := millis_eq_min d
  rw [lockoutLifetime, lockoutTime]
  omega

variable {found : Option Entry} (hfound : ∀ e ∈ found, IsSound .lockout e)

include hfound

/-- Either nothing is there, or what is there ends when its time is over, within reach of the
    clock. -/
theorem left_cases (wall : Nat) : View.left wall found = -2 ∧ endOf found = 0 ∨
    View.left wall found = (endOf found : Int) - wall ∧ endOf found < 9223372036854775808 := by
  cases found with
  | none => exact .inl ⟨rfl, rfl⟩
  | some e =>
    obtain ⟨word, x, rfl, hx⟩ := hfound e rfl
    exact .inr ⟨rfl, Integer.fits_natCast_iff.1 hx⟩

/-- The longest lockout lasts longer than any that can be there. -/
theorem extends_of_eq_top (wall : Nat) (hd : lockoutLifetime d = 18446744073709551615) :
    Extends wall found d := by
  have hleft : View.left wall found ≤ (9223372036854775808 : Nat) := by
    rcases left_cases hfound wall with ⟨hleft, -⟩ | ⟨hleft, hend⟩ <;> omega
  have hround := Binary64.roundInt_le_roundInt hleft
  have hhalf : roundInt (9223372036854775808 : Nat) < roundInt (18446744073709551615 : Nat) := by
    decide +kernel
  rw [Extends, hd]
  exact Int.lt_of_le_of_lt hround hhalf

/-- A server takes a lockout that its clock reaches, or that is left out. -/
theorem takesLockout_iff :
    (Extends wall found d → IsLifetime wall (lockoutLifetime d)) ↔
      roundInt (lockoutTime d) ≤ roundInt (View.left wall found) ∨
        Integer.Fits ((wall + lockoutTime d : Nat) : Int) := by
  have hpos : 0 < lockoutLifetime d := Nat.le_max_right _ _
  rw [isLifetime_iff, Integer.fits_natCast_iff]
  rcases lockoutLifetime_cases d with heq | ⟨htop, hle⟩
  · rw [Extends, heq]
    rw [heq] at hpos
    omega
  · have hlong := extends_of_eq_top hfound wall htop
    have hround : roundInt (View.left wall found) < roundInt (lockoutTime d) :=
      Int.lt_of_lt_of_le hlong (Binary64.roundInt_le_roundInt (by omega))
    simp only [hlong, forall_const]
    omega

/-- A lockout that is taken has all its time. -/
theorem lockoutLifetime_eq (htakes : Extends wall found d → IsLifetime wall (lockoutLifetime d)) :
    lockoutLifetime d = lockoutTime d := by
  rcases lockoutLifetime_cases d with heq | ⟨htop, -⟩
  · exact heq
  · obtain ⟨-, hlife⟩ := isLifetime_iff.1 (htakes (extends_of_eq_top hfound wall htop))
    omega

/-- It lasts until its deadline, unless it is left out: then the one that is there goes on. -/
theorem lockedUntil_cases (htakes : Extends wall found d → IsLifetime wall (lockoutLifetime d)) :
    Extends wall found d ∧ lockedUntil wall found d = wall + lockoutTime d ∧
        endOf found ≤ wall + lockoutTime d ∨
      ¬ Extends wall found d ∧ lockedUntil wall found d = endOf found ∧
        (endOf found : Int) = wall + View.left wall found ∧ wall ≤ endOf found := by
  have heq := lockoutLifetime_eq hfound htakes
  by_cases hlong : Extends wall found d
  · refine .inl ⟨hlong, by rw [lockedUntil, if_pos hlong, heq], ?_⟩
    -- What is longer as scripts count is longer.
    have hless : View.left wall found < lockoutTime d := by
      refine Int.not_le.1 fun hle => Int.not_lt.2 (Binary64.roundInt_le_roundInt hle) ?_
      rwa [← heq]
    rcases left_cases hfound wall with ⟨-, hend⟩ | ⟨hleft, -⟩ <;> omega
  · -- A lockout that is left out takes some time, so the one that is there does.
    have hleft : 0 < View.left wall found := by
      refine Int.not_le.1 fun hle => hlong ?_
      have hone : roundInt (View.left wall found) < roundInt (1 : Nat) :=
        (Binary64.roundInt_lt_iff (by decide)).2 (by omega)
      have hpos : 1 ≤ lockoutLifetime d := Nat.le_max_right _ _
      exact Int.lt_of_lt_of_le hone (Binary64.roundInt_le_roundInt (Int.ofNat_le.2 hpos))
    refine .inr ⟨hlong, by rw [lockedUntil, if_neg hlong], ?_⟩
    rcases left_cases hfound wall with ⟨hnone, -⟩ | ⟨hsome, -⟩ <;> omega

/-- So it has not passed. -/
theorem isCapped_lockedUntil (htakes : Extends wall found d → IsLifetime wall (lockoutLifetime d)) :
    ∃ deadline, IsCappedDeadline wall (lockoutTime d) deadline ∧
      lockedUntil wall found d = max deadline (endOf found) := by
  rcases lockedUntil_cases hfound htakes with ⟨-, heq, hend⟩ | ⟨-, heq, -, hend⟩
  · refine ⟨wall + lockoutTime d, IsExactDeadline.isCapped rfl, ?_⟩
    rw [heq, Nat.max_eq_left hend]
  · refine ⟨wall, ⟨wall, Nat.le_refl _, (Nat.min_eq_right (Nat.le_add_right _ _)).symm⟩, ?_⟩
    rw [heq, Nat.max_eq_right hend]

/-- It is exact unless a longer lockout is taken for one that is not. -/
theorem lockedUntil_eq_max_iff
    (htakes : Extends wall found d → IsLifetime wall (lockoutLifetime d)) :
    lockedUntil wall found d = max (wall + lockoutTime d) (endOf found) ↔
      lockoutTime d ≤ View.left wall found ∨
        roundInt (View.left wall found) < roundInt (lockoutTime d) := by
  have hlife := lockoutLifetime_eq hfound htakes
  rcases lockedUntil_cases hfound htakes with ⟨hlong, heq, hend⟩ | ⟨hlong, heq, hleft, -⟩
  · rw [Extends, hlife] at hlong
    simp only [heq, Nat.max_eq_left hend, hlong, or_true]
  · rw [Extends, hlife] at hlong
    rw [heq]
    simp only [hlong, or_false]
    omega

end Lockout

/-! ### Reports -/

/-- A report on a route is entered on a server with some deadlines, in milliseconds of the wall
    clock. -/
structure SetsDeadlines {σ : Type} (isDeadline : Nat → Nat → Nat → Prop) (view : View σ)
    (execute : Execution σ) (epoch : Nat) (config : LimiterConfig) (s : σ) (route : Route)
    (report : RateLimitReport) (now : Instant) (s' : σ) : Prop where
  update : ((Limiter.shared execute epoch config).update route report).runAt now s = (.ok (), s')
  bucket : ∀ u ∈ report.update?, ∃ key fields expiry, ∃ deadline : Nat,
    (((Limiter.shared execute epoch config).bucketKey route).runAt now s').1 = .ok key ∧
      view.find? s' (bucketKey key) (epoch + Duration.millis now) =
        some ⟨.record fields, expiry⟩ ∧
      resetOf? fields = some (deadline : Int) ∧
      isDeadline (epoch + Duration.millis now) (Duration.millis u.resetAfter) deadline
  lockout : ∀ d ∈ report.lockout?, ∃ word, ∃ deadline : Nat,
    isDeadline (epoch + Duration.millis now) (lockoutTime d) deadline ∧
      view.find? s' lockoutKey (epoch + Duration.millis now) = some ⟨.text word,
        some (max deadline (endOf (view.find? s lockoutKey (epoch + Duration.millis now))))⟩

/-- The milliseconds that a lockout has left, as a server answers the question for them. -/
def lockoutLeft {σ : Type} (view : View σ) (s : σ) (wall : Nat) : Int :=
  View.left wall (view.find? s lockoutKey wall)

section Report

variable {σ : Type} {view : View σ} {execute : Execution σ} {epoch : Nat} {s s' : σ}
  (hdoc : view.IsDocumented execute) (hs : Sound view s)
  (hfits : Integer.Fits ((epoch + Duration.millis now : Nat) + (nameTime : Nat)))

theorem SetsDeadlines.mono
    (h : SetsDeadlines isDeadline view execute epoch config s route report now s')
    (himp : ∀ now left deadline, isDeadline now left deadline → isDeadline' now left deadline) :
    SetsDeadlines isDeadline' view execute epoch config s route report now s' := by
  refine ⟨h.update, fun u hu => ?_, fun d hd => ?_⟩
  · obtain ⟨key, fields, expiry, deadline, hkey, hget, hreset, hdeadline⟩ := h.bucket u hu
    exact ⟨key, fields, expiry, deadline, hkey, hget, hreset, himp _ _ _ hdeadline⟩
  · obtain ⟨word, deadline, hdeadline, hlocked⟩ := h.lockout d hd
    exact ⟨word, deadline, himp _ _ _ hdeadline, hlocked⟩

include hs in
theorem isSound_lockout (wall : Nat) : ∀ e ∈ view.find? s lockoutKey wall, IsSound .lockout e :=
  fun e he => hs .lockout e (Option.filter_eq_some_iff.1 he).1

include hdoc hs hfits

/-- Where a report sets deadlines that have not passed, the clock of the server reaches them. -/
theorem SetsDeadlines.fitsServerAt
    (h : SetsDeadlines IsCappedDeadline view execute epoch config s route report now s') :
    report.FitsServerAt (epoch + Duration.millis now)
      (lockoutLeft view s (epoch + Duration.millis now)) := by
  obtain ⟨answer, key, s₁, hupdate, hanswer, hafter⟩ :=
    hs.exists_update_eq hdoc hfits config route report
  obtain ⟨rfl, rfl⟩ := Prod.mk.inj (hupdate.symm.trans h.update)
  obtain ⟨hkey, hrecord, -⟩ := hafter rfl
  have htakes := hanswer.1 rfl
  have hwall : Integer.Fits ((epoch + Duration.millis now : Nat) : Int) := by
    obtain ⟨-, hlt⟩ := hfits
    exact ⟨by omega, by omega⟩
  refine ⟨fun u hu => ?_,
    fun d hd => (takesLockout_iff (isSound_lockout hs _)).1 (htakes.lockout d hd)⟩
  -- There is one record under the key, so its mark is the deadline.
  obtain ⟨key', fields, expiry, deadline, hkey', hget, hreset, hdeadline⟩ := h.bucket u hu
  obtain rfl : key = key' := Except.ok.inj (hkey.symm.trans hkey')
  have hends := hrecord u hu
  rw [hget] at hends
  obtain ⟨fields', hfields, hmark⟩ := hends
  cases hfields
  rw [hreset, Option.some_inj] at hmark
  refine fits_of_le_reportedMark hwall (htakes.update u hu) ?_
  rw [← hmark]
  exact_mod_cast hdeadline.le

theorem SetsDeadlines.fitsServerExactlyAt
    (h : SetsDeadlines IsExactDeadline view execute epoch config s route report now s') :
    report.FitsServerExactlyAt (epoch + Duration.millis now)
      (lockoutLeft view s (epoch + Duration.millis now)) := by
  refine ⟨(h.mono fun _ _ _ => IsExactDeadline.isCapped).fitsServerAt hdoc hs hfits,
    fun d hd => ?_⟩
  obtain ⟨answer, key, s₁, hupdate, hanswer, hafter⟩ :=
    hs.exists_update_eq hdoc hfits config route report
  obtain ⟨rfl, rfl⟩ := Prod.mk.inj (hupdate.symm.trans h.update)
  obtain ⟨-, -, hlocked⟩ := hafter rfl
  obtain ⟨word, hget⟩ := hlocked d hd
  obtain ⟨word', deadline, rfl, hget'⟩ := h.lockout d hd
  rw [hget, Option.some_inj, Entry.mk.injEq, Option.some_inj] at hget'
  exact (lockedUntil_eq_max_iff (isSound_lockout hs _) ((hanswer.1 rfl).lockout d hd)).1 hget'.2

/-- A report whose deadlines are within reach is entered. -/
theorem exists_setsDeadlines
    (hlockout : ∀ d ∈ report.lockout?,
      (Extends (epoch + Duration.millis now)
        (view.find? s lockoutKey (epoch + Duration.millis now)) d →
          IsLifetime (epoch + Duration.millis now) (lockoutLifetime d)) →
      ∃ deadline, isDeadline (epoch + Duration.millis now) (lockoutTime d) deadline ∧
        lockedUntil (epoch + Duration.millis now)
          (view.find? s lockoutKey (epoch + Duration.millis now)) d =
            max deadline (endOf (view.find? s lockoutKey (epoch + Duration.millis now))))
    (hexact : ∀ now left deadline, IsExactDeadline now left deadline →
      isDeadline now left deadline)
    (config : LimiterConfig) (route : Route)
    (h : report.FitsServerAt (epoch + Duration.millis now)
      (lockoutLeft view s (epoch + Duration.millis now))) :
    ∃ s', SetsDeadlines isDeadline view execute epoch config s route report now s' := by
  obtain ⟨answer, key, s', hupdate, hanswer, hafter⟩ :=
    hs.exists_update_eq hdoc hfits config route report
  have htakes (d : Duration) (hd : d ∈ report.lockout?) :=
    (takesLockout_iff (isSound_lockout hs (epoch + Duration.millis now))).2 (h.lockout d hd)
  obtain rfl := hanswer.2 ⟨fun u hu => (reportedMark_eq (h.update u hu)).2.2, htakes⟩
  obtain ⟨hkey, hrecord, hlocked⟩ := hafter rfl
  refine ⟨s', hupdate, fun u hu => ?_, fun d hd => ?_⟩
  · have hends := hrecord u hu
    obtain ⟨hmark, hpos, -⟩ := reportedMark_eq (h.update u hu)
    cases hfind : view.find? s' (bucketKey key) (epoch + Duration.millis now) with
    | none =>
      rw [hfind] at hends
      exact absurd hends (Nat.ne_of_gt hpos)
    | some e =>
      rw [hfind] at hends
      obtain ⟨d, expiry⟩ := e
      obtain ⟨fields, rfl, hreset⟩ := hends
      rw [hmark] at hreset
      exact ⟨key, fields, expiry, _, hkey, hfind, hreset, hexact _ _ _ rfl⟩
  · obtain ⟨word, hget⟩ := hlocked d hd
    obtain ⟨deadline, hdeadline, heq⟩ := hlockout d hd (htakes d hd)
    rw [heq] at hget
    exact ⟨word, deadline, hdeadline, hget⟩

/-- On a server deadlines may be capped where scripts do not compute exactly. -/
theorem exists_setsDeadlines_iff (config : LimiterConfig) (route : Route)
    (report : RateLimitReport) :
    ((∃ s', SetsDeadlines IsCappedDeadline view execute epoch config s route report now s') ↔
      report.FitsServerAt (epoch + Duration.millis now)
        (lockoutLeft view s (epoch + Duration.millis now))) ∧
    ((∃ s', SetsDeadlines IsExactDeadline view execute epoch config s route report now s') ↔
      report.FitsServerExactlyAt (epoch + Duration.millis now)
        (lockoutLeft view s (epoch + Duration.millis now))) := by
  have hsound := isSound_lockout hs (epoch + Duration.millis now)
  constructor
  · refine ⟨fun ⟨s', h⟩ => h.fitsServerAt hdoc hs hfits, fun h => ?_⟩
    exact exists_setsDeadlines hdoc hs hfits (fun d _ htakes => isCapped_lockedUntil hsound htakes)
      (fun _ _ _ => IsExactDeadline.isCapped) config route h
  · refine ⟨fun ⟨s', h⟩ => h.fitsServerExactlyAt hdoc hs hfits, fun h => ?_⟩
    refine exists_setsDeadlines hdoc hs hfits (fun d hd htakes => ⟨_, rfl, ?_⟩)
      (fun _ _ _ hexact => hexact) config route h.toFitsServerAt
    exact (lockedUntil_eq_max_iff hsound htakes).2 (h.longest d hd)

end Report

end SharedAccounts

/-! ## Headers -/

namespace Headers

/-- What a response says whose bucket is empty for some time. -/
def exhausted (resetAfter : String) : Headers :=
  [("x-ratelimit-limit", Utf8.encode "1"), ("x-ratelimit-remaining", Utf8.encode "0"),
    ("x-ratelimit-reset-after", Utf8.encode resetAfter)]

theorem report_exhausted {text : String} {d : Duration}
    (htext : textOf? (Utf8.encode text) = some text) (hd : secondsOf? text = some d) :
    (exhausted text).report = ⟨some 1, some 0, some d, none, false, none⟩ := by
  have hlimit : "x-ratelimit-limit".toLower = "x-ratelimit-limit" := by cbv
  have hremaining : "x-ratelimit-remaining".toLower = "x-ratelimit-remaining" := by cbv
  have hreset : "x-ratelimit-reset-after".toLower = "x-ratelimit-reset-after" := by cbv
  have hone : textOf? (Utf8.encode "1") = some "1" := by cbv
  have hzero : textOf? (Utf8.encode "0") = some "0" := by cbv
  have htokens : tokensOf? "1" = some 1 ∧ tokensOf? "0" = some 0 := by decide
  simp [report, text?, first?, exhausted, hlimit, hremaining, hreset, hone, hzero, htokens, htext,
    hd]

/-- Whatever the headers of a response are and whatever has happened before, both stores enter
    them with deadlines that are exact, or at least have not passed, if and only if their clocks
    reach the deadlines. -/
theorem setsDeadlines_report_iff (h : Headers) (config : LimiterConfig) (route : Route)
    (now : Instant) :
    (∀ m : MemoryAccounts,
      [∃ m', m.SetsDeadlines IsExactDeadline config route h.report now m',
        ∃ m', m.SetsDeadlines IsCappedDeadline config route h.report now m',
        h.report.FitsAt now].TFAE) ∧
    ∀ {σ : Type} (view : View σ) (execute : Execution σ), view.IsDocumented execute →
      ∀ first, (∀ key, view.holds first key = none) →
      ∀ (epoch : Nat) (calls : List TimedCall), (∀ c ∈ calls, SharedAccounts.IsCounted c.call) →
      Integer.Fits ((epoch + Duration.millis now : Nat) + (SharedAccounts.nameTime : Nat)) →
      ∀ s, (SharedAccounts.store execute epoch).after calls first = s →
      ((∃ s', SharedAccounts.SetsDeadlines IsCappedDeadline view execute epoch config s route
          h.report now s') ↔
        h.report.FitsServerAt (epoch + Duration.millis now)
          (SharedAccounts.lockoutLeft view s (epoch + Duration.millis now))) ∧
      ((∃ s', SharedAccounts.SetsDeadlines IsExactDeadline view execute epoch config s route
          h.report now s') ↔
        h.report.FitsServerExactlyAt (epoch + Duration.millis now)
          (SharedAccounts.lockoutLeft view s (epoch + Duration.millis now))) := by
  refine ⟨fun m => m.setsDeadlines_tfae config route h.report now, ?_⟩
  rintro σ view execute hdoc first hfirst epoch calls hcalls hfits _ rfl
  exact SharedAccounts.exists_setsDeadlines_iff hdoc
    (SharedAccounts.sound_after hdoc hfirst epoch hcalls) hfits config route h.report

/-- Some seconds are within the reach of both clocks. -/
theorem exists_setsDeadlines_seconds : ∃ calls : List TimedCall,
    (∀ c ∈ calls, SharedAccounts.IsCounted c.call) ∧
    Integer.Fits ((1700000000000 + Duration.millis 0 : Nat) + (SharedAccounts.nameTime : Nat)) ∧
    (∃ m', MemoryAccounts.empty.SetsDeadlines IsExactDeadline {} (.channel 1)
      (exhausted "2.5").report 0 m') ∧
    ∃ s', SharedAccounts.SetsDeadlines IsExactDeadline Server.view Server.execute 1700000000000 {}
      ((SharedAccounts.store Server.execute 1700000000000).after calls .empty) (.channel 1)
        (exhausted "2.5").report 0 s' := by
  let calls : List TimedCall := [⟨0, .record "channel:1" ⟨5, 3, 1⟩⟩]
  have hcalls : ∀ c ∈ calls, SharedAccounts.IsCounted c.call := by
    intro c hc
    obtain rfl := List.mem_singleton.1 hc
    exact ⟨by decide, by decide⟩
  have hfits : Integer.Fits
      ((1700000000000 + Duration.millis 0 : Nat) + (SharedAccounts.nameTime : Nat)) := by decide
  have hreport : (exhausted "2.5").report = ⟨some 1, some 0, some 2500000000, none, false, none⟩ :=
    report_exhausted (by cbv) (by decide)
  have hmemory : (exhausted "2.5").report.FitsAt 0 := by
    rw [hreport]
    refine ⟨fun u hu => ?_, fun d hd => ?_⟩
    · cases hu
      decide
    · cases hd
  have hserver (left : Int) :
      (exhausted "2.5").report.FitsServerExactlyAt (1700000000000 + Duration.millis 0) left := by
    rw [hreport]
    refine ⟨⟨fun u hu => ?_, fun d hd => ?_⟩, fun d hd => ?_⟩
    · cases hu
      decide
    · cases hd
    · cases hd
  obtain ⟨hown, hshared⟩ := setsDeadlines_report_iff (exhausted "2.5") {} (.channel 1) 0
  exact ⟨calls, hcalls, hfits, ((hown .empty).out 0 2).2 hmemory,
    (hshared Server.view Server.execute Server.isDocumented .empty (fun _ => rfl) 1700000000000
      calls hcalls hfits _ rfl).2.2 (hserver _)⟩

/-- A window of 10¹⁹ seconds is not entered in memory. One of 2·10¹⁶ seconds is entered on a
    server as over, so that the next request is admitted at once. -/
theorem exists_past_deadline : ∃ s' admitted : Server,
    (((Limiter.own {}).update (.channel 1) (exhausted "1e19").report).runAt 0 .empty).1 =
      .error .clockOverflow ∧
    ((Limiter.shared Server.execute 1700000000000 {}).update (.channel 1)
      (exhausted "2e16").report).runAt 0 .empty = (.ok (), s') ∧
    (Limiter.shared Server.execute 1700000000000 {}).acquire (.channel 1) 0 s' =
      (.ok "channel:1", 0, admitted) ∧
    ¬ ∃ s'', SharedAccounts.SetsDeadlines IsCappedDeadline Server.view Server.execute 1700000000000
      {} .empty (.channel 1) (exhausted "2e16").report 0 s'' := by
  have hlong : (exhausted "2e16").report =
      ⟨some 1, some 0, some (Duration.ofSeconds 20000000000000000), none, false, none⟩ :=
    report_exhausted (by cbv) (by decide)
  have hlongest : (exhausted "1e19").report =
      ⟨some 1, some 0, some (Duration.ofSeconds 10000000000000000000), none, false, none⟩ :=
    report_exhausted (by cbv) (by decide)
  rw [hlong, hlongest]
  let s' : Server := ⟨⟨[("ratelimit:bucket:channel:1", ⟨.record ⟨[("limit", "1"),
    ("remaining", "0"), ("reset_at", "1699999999999")]⟩, some 1700000599999⟩)]⟩⟩
  have hupdate : ((Limiter.shared Server.execute 1700000000000 {}).update (.channel 1) ⟨some 1,
      some 0, some (Duration.ofSeconds 20000000000000000), none, false, none⟩).runAt 0 .empty =
        (.ok (), s') := rfl
  refine ⟨s', _, rfl, hupdate, rfl, ?_⟩
  rintro ⟨s'', h⟩
  obtain rfl : s' = s'' := congrArg Prod.snd (hupdate.symm.trans h.update)
  obtain ⟨key, fields, expiry, deadline, hkey, hget, hreset, hdeadline⟩ := h.bucket _ rfl
  obtain rfl : "channel:1" = key := Except.ok.inj hkey
  obtain ⟨hrecord, -⟩ := Entry.mk.inj (Option.some_inj.1 hget)
  obtain rfl := Datum.record.inj hrecord
  have hpast : SharedAccounts.resetOf? ⟨[("limit", "1"), ("remaining", "0"),
    ("reset_at", "1699999999999")]⟩ = some 1699999999999 := by decide
  have hmark : (1699999999999 : Int) = deadline := Option.some_inj.1 (hpast.symm.trans hreset)
  have hle := hdeadline.le
  have hwall : 1700000000000 + Duration.millis 0 = 1700000000000 := rfl
  omega

end Headers

end GatewayClient
