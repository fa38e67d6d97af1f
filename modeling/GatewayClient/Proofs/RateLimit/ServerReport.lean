import GatewayClient.Proofs.RateLimit.Entries
import GatewayClient.Proofs.RateLimit.Report

/-!
# Reports that are entered on a server

On a server each part of a report is entered with a script of its own, and the server may
refuse a command of it. With what the accounts hold it refuses nothing but a lifetime that its
clock does not reach: then the state of the bucket has been written all the same, and stays
without the new lifetime. Scripts compare lifetimes as binary64 numbers, so a lockout may be
left out that would last a little longer than the one that is there.

* `SharedAccounts.exists_turns_record`, `SharedAccounts.exists_turns_lockOut`: what becomes of
  the parts of a report.
* `SharedAccounts.exists_turns_reportKey`: the name that a report gives is known afterwards.
* `SharedAccounts.Sound.exists_update_eq`: when a report is entered, and what is there then.
-/

namespace GatewayClient

namespace SharedAccounts

open Binary64 (roundInt)

/-- The lifetime that a report gives the record of a bucket. -/
def recordLifetime (u : BucketUpdate) : Nat := (millis u.resetAfter + idleTime) % UInt64.size

/-- The lifetime that a lockout has. -/
def lockoutLifetime (d : Duration) : Nat := max (millis d) 1

/-- The end of a window that a report gives the record of a bucket. -/
def reportedMark (wall : Nat) (u : BucketUpdate) : Int :=
  Int.bmod (wall + millis u.resetAfter) UInt64.size

/-- The end of a window that a record has. -/
def resetOf? (fields : Table String String) : Option Int :=
  (fields.get? "reset_at").bind fun s => Integer.ofText? s.toList

/-- Whether the record of a bucket ends its window as a report says. A record that the report
    gives no time is taken away. -/
def EndsWindow (wall : Nat) (u : BucketUpdate) : Option Entry → Prop
  | none => recordLifetime u = 0
  | some e => ∃ fields, e.datum = .record fields ∧ resetOf? fields = some (reportedMark wall u)

/-- Until when an entry that was found stays, if it is there and has an end. -/
def endOf (found : Option Entry) : Nat := (found.bind (·.expiry)).getD 0

/-- Whether a lockout lasts longer than the one that was found, as a script sees it. -/
def Extends (wall : Nat) (found : Option Entry) (d : Duration) : Prop :=
  roundInt (View.left wall found) < roundInt (lockoutLifetime d)

instance (wall : Nat) (found : Option Entry) (d : Duration) : Decidable (Extends wall found d) :=
  inferInstanceAs (Decidable (_ < _))

/-- Until when the account is locked out after a lockout was entered. -/
def lockedUntil (wall : Nat) (found : Option Entry) (d : Duration) : Nat :=
  if Extends wall found d then wall + lockoutLifetime d else endOf found

variable {σ : Type} {view : View σ} {execute : Execution σ} {epoch wall : Nat} {now : Instant}
  {before : Option Entry} {key : String} {u : BucketUpdate} {d : Duration}

/-! ## States of buckets -/

theorem fits_bmod (n : Int) : Integer.Fits (Int.bmod n UInt64.size) := by
  have hle := Int.le_bmod (x := n) (m := UInt64.size) (by decide)
  have hlt := Int.bmod_lt (x := n) (m := UInt64.size) (by decide)
  exact ⟨hle, hlt⟩

theorem endsWindow_reportedFields (fields : Table String String) (u : BucketUpdate) (left : Int)
    (expiry : Option Nat) : EndsWindow wall u
      (some ⟨.record (reportedFields fields u.limit left (reportedMark wall u)), expiry⟩) := by
  refine ⟨_, rfl, ?_⟩
  rw [resetOf?, get?_reportedFields_reset, Option.bind_some]
  exact ofText?_digits (fits_bmod _)

/-- The tokens that a report leaves are a number, where they are known. -/
theorem exists_tokensAfter? {fields : Table String String} (h : HasCounts fields) (remaining : Nat)
    (now : Int) : ∃ left, tokensAfter? fields remaining now = some left := by
  simp only [tokensAfter?]
  split
  · next hopen =>
    rw [Bool.and_eq_true] at hopen
    obtain ⟨text, htext⟩ := Option.isSome_iff_exists.1 hopen.1
    obtain ⟨n, hn, rfl⟩ := h _ _ (.inr rfl) htext
    rw [htext, Option.bind_some, ofText?_digits hn.fits]
    exact ⟨_, rfl⟩
  · exact ⟨_, rfl⟩

/-- The state of a bucket is entered exactly if the clock of the server reaches the end of its
    lifetime. Its fields are set in any case. -/
theorem exists_turns_record (hdoc : view.IsDocumented execute)
    (h : ∀ e ∈ before, IsSound (.bucket key) e) (epoch : Nat) (u : BucketUpdate) (now : Instant) :
    ∃ answer after,
      view.Turns (bucketKey key) now ((store execute epoch).record key u) before answer after ∧
      (answer = .ok () ↔
        Integer.Fits ((epoch + Duration.millis now : Nat) + (recordLifetime u : Nat))) ∧
      EndsWindow (epoch + Duration.millis now) u after ∧
      (answer = .ok () →
        after.filter (view.isThere (bucketKey key) (epoch + Duration.millis now)) = after) := by
  obtain ⟨fields, hfields, hcounts⟩ : ∃ fields, View.record? (before.filter
      (view.isThere (bucketKey key) (epoch + Duration.millis now))) = some fields ∧
        HasCounts fields := by
    cases hfound : before.filter (view.isThere (bucketKey key) (epoch + Duration.millis now)) with
    | none => exact ⟨∅, rfl, fun _ _ _ hget => nomatch hget⟩
    | some e =>
      obtain ⟨d, expiry⟩ := e
      obtain ⟨fields, rfl, hcounts⟩ := h _ (Option.filter_eq_some_iff.1 hfound).1
      exact ⟨fields, rfl, hcounts⟩
  obtain ⟨left, hleft⟩ :=
    exists_tokensAfter? hcounts u.remaining (epoch + Duration.millis now : Nat)
  by_cases hfits : Integer.Fits ((epoch + Duration.millis now : Nat) + (recordLifetime u : Nat))
  · rcases Nat.eq_zero_or_pos (recordLifetime u) with hzero | hpos
    · have hwall : Integer.Fits ((epoch + Duration.millis now : Nat) : Int) := by
        rwa [hzero, Int.natCast_zero, Int.add_zero] at hfits
      have hturns := turns_report hdoc hfields hleft (turns_enter_zero hdoc hfields u.limit left
        (reportedMark (epoch + Duration.millis now) u) hwall)
      rw [← hzero] at hturns
      exact ⟨_, none, turns_record hturns, iff_of_true rfl hfits, hzero, fun _ => rfl⟩
    · exact ⟨_, _, turns_record (turns_report hdoc hfields hleft
        (turns_enter hdoc hfields u.limit left _ ⟨hpos, hfits⟩)), iff_of_true rfl hfits,
        endsWindow_reportedFields fields u left _,
        fun _ => Option.filter_some_pos (View.isThere_of_lt _ (Nat.lt_add_of_pos_right hpos))⟩
  · exact ⟨_, _, turns_record_error (turns_report hdoc hfields hleft
      (turns_enter_refused hdoc hfields u.limit left _ hfits)), iff_of_false nofun hfits,
      endsWindow_reportedFields fields u left _, nofun⟩

/-! ## Lockouts -/

/-- A lockout is entered exactly if the clock of the server reaches its end, or it is left out
    since the one that is there lasts as long. -/
theorem exists_turns_lockOut (hdoc : view.IsDocumented execute)
    (h : ∀ e ∈ before, IsSound .lockout e) (epoch : Nat) (d : Duration) (now : Instant)
    {found : Option Entry}
    (hfound : before.filter (view.isThere lockoutKey (epoch + Duration.millis now)) = found) :
    ∃ answer after,
      view.Turns lockoutKey now ((store execute epoch).lockOut d) before answer after ∧
      (answer = .ok () ↔ (Extends (epoch + Duration.millis now) found d →
        IsLifetime (epoch + Duration.millis now) (lockoutLifetime d))) ∧
      (answer = .ok () → ∃ word,
        after.filter (view.isThere lockoutKey (epoch + Duration.millis now)) = some ⟨.text word,
          some (lockedUntil (epoch + Duration.millis now) found d)⟩) := by
  subst hfound
  by_cases hlong : Extends (epoch + Duration.millis now)
      (before.filter (view.isThere lockoutKey (epoch + Duration.millis now))) d
  · by_cases hlife : IsLifetime (epoch + Duration.millis now) (lockoutLifetime d)
    · refine ⟨_, _, turns_lockOut (turns_extend hdoc hlong hlife), iff_of_true rfl fun _ => hlife,
        fun _ => ⟨"1", ?_⟩⟩
      rw [lockedUntil, if_pos hlong]
      exact Option.filter_some_pos (View.isThere_of_lt _ (Nat.lt_add_of_pos_right hlife.1))
    · exact ⟨_, before, turns_lockOut_error (turns_extend_refused hdoc hlong hlife),
        iff_of_false nofun fun h => hlife (h hlong), nofun⟩
  · refine ⟨_, before, turns_lockOut (turns_extend_of_le hdoc (Int.not_lt.1 hlong)),
      iff_of_true rfl fun h => absurd h hlong, fun _ => ?_⟩
    rw [lockedUntil, if_neg hlong]
    -- A lockout that lasts as long as another is there, and has an end.
    cases hfilter : before.filter (view.isThere lockoutKey (epoch + Duration.millis now)) with
    | none =>
      rw [hfilter] at hlong
      have habsent : roundInt (-2) < 0 := Binary64.roundInt_lt_zero (by decide)
      refine absurd (Int.lt_of_lt_of_le habsent ?_) hlong
      rw [Binary64.roundInt_natCast]
      exact Int.natCast_nonneg _
    | some e =>
      obtain ⟨word, x, rfl, -⟩ := h e (Option.filter_eq_some_iff.1 hfilter).1
      exact ⟨word, rfl⟩

/-! ## Names -/

theorem bucketKey_ne_nameKey (key route : String) : bucketKey key ≠ nameKey route := by
  intro h
  cases @AccountKey.text_injective (.bucket key) (.name route) h

theorem lockoutKey_ne_nameKey (route : String) : lockoutKey ≠ nameKey route := by
  intro h
  cases @AccountKey.text_injective .lockout (.name route) h

theorem lockoutKey_ne_bucketKey (key : String) : lockoutKey ≠ bucketKey key := by
  intro h
  cases @AccountKey.text_injective .lockout (.bucket key) h

section Names

variable {config : LimiterConfig} {route : Route}

/-- A server answers the question for a name with the one that it has. -/
theorem optionalText?_textReply {found : Option Entry}
    (h : ∀ e ∈ found, IsSound (.name route.key) e) :
    (View.textReply found).result = .ok (View.textReply found) ∧
      (View.textReply found).optionalText? = some (nameIn? found) := by
  cases found with
  | none => exact ⟨rfl, rfl⟩
  | some e =>
    obtain ⟨d, expiry⟩ := e
    obtain ⟨name, rfl⟩ := h _ rfl
    exact ⟨rfl, rfl⟩

variable (epoch) in
theorem turns_bucketOf_shared (hdoc : view.IsDocumented execute)
    (h : ∀ e ∈ before, IsSound (.name route.key) e) (now : Instant) :
    view.Turns (nameKey route.key) now ((store execute epoch).bucketOf route.key) before
      (.ok (nameIn? (before.filter
        (view.isThere (nameKey route.key) (epoch + Duration.millis now))))) before := by
  have hget := hdoc.turns_get (nameKey route.key) (epoch + Duration.millis now) before
  have hfound : ∀ e ∈ before.filter (view.isThere (nameKey route.key)
      (epoch + Duration.millis now)), IsSound (.name route.key) e :=
    fun e he => h e (Option.filter_eq_some_iff.1 he).1
  obtain ⟨hresult, hread⟩ := optionalText?_textReply hfound
  rw [hresult] at hget
  exact turns_bucketOf hget hread

variable (epoch) in
theorem turns_bucketKey (hdoc : view.IsDocumented execute)
    (h : ∀ e ∈ before, IsSound (.name route.key) e) (config : LimiterConfig) (now : Instant) :
    view.Turns (nameKey route.key) now ((Limiter.shared execute epoch config).bucketKey route)
      before (.ok ((nameIn? (before.filter
        (view.isThere (nameKey route.key) (epoch + Duration.millis now)))).getD route.key))
          before :=
  (turns_bucketOf_shared epoch hdoc h now).bind (.pure _ _)

/-- The name that a report gives is known afterwards, whether or not it was before. -/
theorem exists_turns_reportKey (hdoc : view.IsDocumented execute)
    (h : ∀ e ∈ before, IsSound (.name route.key) e)
    (hfits : Integer.Fits ((epoch + Duration.millis now : Nat) + (nameTime : Nat)))
    (config : LimiterConfig) (report : RateLimitReport) :
    ∃ key after, view.Turns (nameKey route.key) now
        ((Limiter.shared execute epoch config).reportKey route report) before (.ok key) after ∧
      (nameIn? (after.filter (view.isThere (nameKey route.key)
        (epoch + Duration.millis now)))).getD route.key = key ∧
      ∀ e ∈ after, IsSound (.name route.key) e := by
  rw [Limiter.reportKey]
  cases report.bucket with
  | none => exact ⟨_, before, turns_bucketKey epoch hdoc h config now, rfl, h⟩
  | some name =>
    have hbucketOf := turns_bucketOf_shared epoch hdoc h now
    by_cases hknown : nameIn? (before.filter (view.isThere (nameKey route.key)
        (epoch + Duration.millis now))) = some name
    · -- A name that is known is not entered again.
      refine ⟨name, before, hbucketOf.bind ?_, by rw [hknown, Option.getD_some], h⟩
      rw [if_neg fun hne => hne hknown]
      exact .pure _ _
    · have hlearn := turns_learnBucket (hdoc.turns_set (nameKey route.key) name before
        ⟨(by decide : 0 < nameTime), hfits⟩)
      refine ⟨name, some ⟨.text name, some (epoch + Duration.millis now + nameTime)⟩,
        hbucketOf.bind ?_, ?_, ?_⟩
      · rw [if_pos hknown]
        exact hlearn.bind (.pure _ _)
      · rw [Option.filter_some_pos (View.isThere_of_lt _ (Nat.lt_add_of_pos_right (by decide)))]
        rfl
      · rintro _ ⟨⟩
        exact ⟨name, rfl⟩

end Names

/-! ## Whole reports -/

/-- Whether a server takes the lifetimes of all that a report tells of. -/
structure TakesAt (wall : Nat) (found : Option Entry) (report : RateLimitReport) : Prop where
  update : ∀ u ∈ report.update?, Integer.Fits ((wall : Int) + (recordLifetime u : Nat))
  lockout : ∀ d ∈ report.lockout?, Extends wall found d → IsLifetime wall (lockoutLifetime d)

theorem exists_turns_record? (hdoc : view.IsDocumented execute)
    (h : ∀ e ∈ before, IsSound (.bucket key) e) (epoch : Nat) (report : RateLimitReport)
    (now : Instant) :
    ∃ answer after, view.Turns (bucketKey key) now
        (report.update?.elim (pure ()) ((store execute epoch).record key)) before answer after ∧
      (answer = .ok () ↔ ∀ u ∈ report.update?,
        Integer.Fits ((epoch + Duration.millis now : Nat) + (recordLifetime u : Nat))) ∧
      (answer = .ok () → ∀ u ∈ report.update?, EndsWindow (epoch + Duration.millis now) u
        (after.filter (view.isThere (bucketKey key) (epoch + Duration.millis now)))) := by
  cases report.update? with
  | none => exact ⟨_, before, .pure () before, iff_of_true rfl nofun, fun _ => nofun⟩
  | some u =>
    obtain ⟨answer, after, hturns, hanswer, hends, hthere⟩ := exists_turns_record hdoc h epoch u now
    simp only [Option.mem_some, forall_eq']
    refine ⟨answer, after, hturns, hanswer, fun hok => ?_⟩
    rw [hthere hok]
    exact hends

theorem exists_turns_lockOut? (hdoc : view.IsDocumented execute)
    (h : ∀ e ∈ before, IsSound .lockout e) (epoch : Nat) (report : RateLimitReport) (now : Instant)
    {found : Option Entry}
    (hfound : before.filter (view.isThere lockoutKey (epoch + Duration.millis now)) = found) :
    ∃ answer after, view.Turns lockoutKey now
        (report.lockout?.elim (pure ()) (store execute epoch).lockOut) before answer after ∧
      (answer = .ok () ↔ ∀ d ∈ report.lockout?, Extends (epoch + Duration.millis now) found d →
        IsLifetime (epoch + Duration.millis now) (lockoutLifetime d)) ∧
      (answer = .ok () → ∀ d ∈ report.lockout?, ∃ word,
        after.filter (view.isThere lockoutKey (epoch + Duration.millis now)) =
          some ⟨.text word, some (lockedUntil (epoch + Duration.millis now) found d)⟩) := by
  cases report.lockout? with
  | none => exact ⟨_, before, .pure () before, iff_of_true rfl nofun, fun _ => nofun⟩
  | some d =>
    obtain ⟨answer, after, hturns, hanswer, hlocked⟩ :=
      exists_turns_lockOut hdoc h epoch d now hfound
    simp only [Option.mem_some, forall_eq']
    exact ⟨answer, after, hturns, hanswer, hlocked⟩

/-- A report is entered as a whole exactly if the server takes its lifetimes. -/
theorem Sound.exists_update_eq (hdoc : view.IsDocumented execute) {s : σ} (hs : Sound view s)
    (hfits : Integer.Fits ((epoch + Duration.millis now : Nat) + (nameTime : Nat)))
    (config : LimiterConfig) (route : Route) (report : RateLimitReport) :
    ∃ answer key s', ((Limiter.shared execute epoch config).update route report).runAt now s =
        (answer, s') ∧
      (answer = .ok () ↔ TakesAt (epoch + Duration.millis now)
        (view.find? s lockoutKey (epoch + Duration.millis now)) report) ∧
      (answer = .ok () →
        (((Limiter.shared execute epoch config).bucketKey route).runAt now s').1 = .ok key ∧
        (∀ u ∈ report.update?, EndsWindow (epoch + Duration.millis now) u
          (view.find? s' (bucketKey key) (epoch + Duration.millis now))) ∧
        ∀ d ∈ report.lockout?, ∃ word,
          view.find? s' lockoutKey (epoch + Duration.millis now) = some ⟨.text word,
            some (lockedUntil (epoch + Duration.millis now)
              (view.find? s lockoutKey (epoch + Duration.millis now)) d)⟩) := by
  obtain ⟨key, named, hturns₁, hname, hnamed⟩ :=
    exists_turns_reportKey hdoc (hs (.name route.key)) hfits config report
  obtain ⟨s₁, hkey, hexcept₁, rfl⟩ := hturns₁ s rfl
  have hbucket : view.holds s₁ (bucketKey key) = view.holds s (bucketKey key) :=
    hexcept₁ _ (bucketKey_ne_nameKey _ _)
  obtain ⟨recorded, entered, hturns₂, hrecorded, hends⟩ := exists_turns_record? hdoc
    (fun e he => hs (.bucket key) e (hbucket.symm.trans he)) epoch report now
  obtain ⟨s₂, hrecord, hexcept₂, rfl⟩ := hturns₂ s₁ rfl
  -- The name and the bucket have keys of their own, so the lockout is as it was.
  have hlock : view.holds s₂ lockoutKey = view.holds s lockoutKey :=
    (hexcept₂ _ (lockoutKey_ne_bucketKey _)).trans (hexcept₁ _ (lockoutKey_ne_nameKey _))
  obtain ⟨locked, after, hturns₃, hlocked, hmark⟩ := exists_turns_lockOut? hdoc
    (fun e he => hs .lockout e (hlock.symm.trans he)) epoch report now (congrArg _ hlock)
  obtain ⟨s₃, hlockOut, hexcept₃, rfl⟩ := hturns₃ s₂ rfl
  have hrun := StoreAction.runAt_bind_of_ok
    (fun key => (Limiter.shared execute epoch config).enter key report) hkey
  rw [Limiter.enter_eq] at hrun
  rw [Limiter.update]
  cases recorded with
  | error reason =>
    -- Nothing more is entered of the report.
    refine ⟨.error reason, key, s₂, hrun.trans (StoreAction.runAt_bind_of_error _ hrecord),
      ⟨fun h => (by cases h), fun h => ?_⟩, fun h => (by cases h)⟩
    cases hrecorded.2 h.update
  | ok =>
    refine ⟨locked, key, s₃, hrun.trans ((StoreAction.runAt_bind_of_ok _ hrecord).trans hlockOut),
      ⟨fun h => ⟨hrecorded.1 rfl, hlocked.1 h⟩, fun h => hlocked.2 h.lockout⟩,
      fun h => ⟨?_, fun u hu => ?_, hmark h⟩⟩
    · have hsame : view.holds s₃ (nameKey route.key) = view.holds s₁ (nameKey route.key) :=
        (hexcept₃ _ (lockoutKey_ne_nameKey _).symm).trans
          (hexcept₂ _ (bucketKey_ne_nameKey _ _).symm)
      obtain ⟨s₄, hasked, -⟩ := turns_bucketKey epoch hdoc hnamed config now s₃ hsame
      rw [StoreAction.runAt, hasked, hname]
    · rw [View.find?, hexcept₃ _ (lockoutKey_ne_bucketKey _).symm]
      exact hends rfl u hu

end SharedAccounts

end GatewayClient
