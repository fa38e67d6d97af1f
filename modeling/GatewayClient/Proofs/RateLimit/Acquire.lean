import GatewayClient.Proofs.RateLimit.Memory
import GatewayClient.Proofs.RateLimit.Window

/-!
# A caller that is alone

A caller that nobody disturbs sleeps at most twice: through the lockout of the account,
and then to the end of the window if its bucket is exhausted until then. So the instant at
which it is admitted is known when it comes, and so is the number of requests that this
takes.

* `Limiter.PutsOff`: a caller is put off a number of times, and sleeps as long as it is told.
* `Limiter.acquireWithin_eq_exhausted_iff`: what it means that a caller has given up.
* `Limiter.attempt_of_locked`, `Limiter.attempt_of_clear`: one request for admission.
* `Limiter.acquire_own`: when a caller is admitted, and what it takes.
-/

namespace GatewayClient

/-- Whether a bucket has a limit, and tokens or a window whose end is known. -/
def Bucket.Recovers (b : Bucket) : Prop := 0 < b.limit ∧ (0 < b.remaining ∨ b.resetAt.isSome)

/-- The end of the window, if a bucket has no token until then. -/
def Bucket.exhaustedUntil? (b : Bucket) (now : Instant) : Option Instant :=
  if b.remaining = 0 then b.resetAt.filter (now < ·) else none

namespace MemoryAccounts

/-- The first instant from now on at which the account is not locked out. -/
def clearFrom (m : MemoryAccounts) (now : Instant) : Instant := max now (m.lockedUntil.getD 0)

/-- The end of the window, if the bucket with a key is known to have no token until then. -/
def exhaustedUntil? (m : MemoryAccounts) (key : String) (now : Instant) : Option Instant :=
  (m.buckets.get? key).bind (·.exhaustedUntil? now)

/-- One token is taken from the bucket with a key at an instant, if anything is known of
    that bucket, and none from the others. -/
structure TakesOne (m : MemoryAccounts) (key : String) (t : Instant) (m' : MemoryAccounts) :
    Prop where
  known : ∀ b, m.buckets.get? key = some b → 0 < (b.refill t).remaining ∧
    m'.buckets.get? key = some { b.refill t with remaining := (b.refill t).remaining - 1 }
  unknown : m.buckets.get? key = none → m'.buckets.get? key = none
  other : ∀ k, k ≠ key → m'.buckets.get? k = m.buckets.get? k

/-- No token is taken from any bucket between two instants: at most it was seen meanwhile that
    the window of the one with a key is over. -/
def TakesNone (m : MemoryAccounts) (key : String) (t t' : Instant) (m' : MemoryAccounts) : Prop :=
  (∀ k, m'.buckets.get? k = m.buckets.get? k) ∨
    ∃ seen, t ≤ seen ∧ seen ≤ t' ∧
      m'.buckets.get? key = (m.buckets.get? key).map (Bucket.refill · seen) ∧
      ∀ k, k ≠ key → m'.buckets.get? k = m.buckets.get? k

end MemoryAccounts

namespace Limiter

/-- A caller asks for admission, is put off, sleeps as long as it is told and asks again: for
    these durations, from one instant to another. -/
inductive PutsOff {σ : Type} (l : Limiter σ) (key : String) :
    Instant → σ → List Duration → Instant → σ → Prop
  | refl (now : Instant) (s : σ) : PutsOff l key now s [] now s
  | head {now t : Instant} {s s' s'' : σ} {d : Duration} {waits : List Duration} :
    (l.attempt key).runAt now s = (.ok (.wait d), s') →
      PutsOff l key (now + d) s' waits t s'' → PutsOff l key now s (d :: waits) t s''

end Limiter

/-! ## Callers of any store -/

namespace Limiter

section

variable {σ : Type} {l : Limiter σ} {key k : String} {n attempts : Nat} {now t : Instant} {s s' : σ}
  {lastWait w : Duration}

/-- A caller gives up after it was put off as often as it may ask. -/
theorem acquireWithin_eq_exhausted_iff :
    l.acquireWithin key n lastWait now s = (.error (.exhausted k attempts w), t, s') ↔
      k = key ∧ attempts = l.config.maxAttempts ∧
        ∃ waits, waits.length = n ∧ l.PutsOff key now s waits t s' ∧ w = waits.getLastD lastWait := by
  induction n generalizing lastWait now s with
  | zero =>
    constructor
    · intro h
      cases h
      exact ⟨rfl, rfl, [], rfl, .refl _ _, rfl⟩
    · rintro ⟨rfl, rfl, waits, hlength, hwaits, rfl⟩
      obtain rfl := List.length_eq_zero_iff.1 hlength
      cases hwaits
      rfl
  | succ n ih =>
    rw [acquireWithin]
    constructor
    · intro h
      split at h
      · cases h
      · cases h
      · next d s₁ hattempt =>
        obtain ⟨hk, hattempts, waits, hlength, hwaits, hw⟩ := ih.1 h
        exact ⟨hk, hattempts, d :: waits, congrArg Nat.succ hlength, .head hattempt hwaits,
          hw.trans (List.getLastD_cons ..).symm⟩
    · rintro ⟨hk, hattempts, waits, hlength, hwaits, hw⟩
      cases hwaits with
      | refl => cases hlength
      | head hattempt hwaits =>
        rw [hattempt]
        exact ih.2 ⟨hk, hattempts, _, Nat.succ.inj hlength, hwaits,
          hw.trans (List.getLastD_cons ..)⟩

/-- A caller that is put off asks again after its sleep, if it may. -/
theorem acquireWithin_of_wait {d : Duration}
    (h : (l.attempt key).runAt now s = (.ok (.wait d), s')) :
    l.acquireWithin key (n + 1) lastWait now s = l.acquireWithin key n d (now + d) s' := by
  rw [acquireWithin, h]

theorem acquireWithin_of_granted (h : (l.attempt key).runAt now s = (.ok .granted, s')) :
    l.acquireWithin key (n + 1) lastWait now s = (.ok key, now, s') := by
  rw [acquireWithin, h]

end

end Limiter

/-! ## One request for admission -/

namespace Bucket

variable {b : Bucket} {now t r : Instant}

/-- It makes no difference whether it was seen before that a window is over. -/
theorem refill_refill (h : now ≤ t) : (b.refill now).refill t = b.refill t := by
  by_cases hopen : b.isOpen now
  · rw [refill_of_isOpen hopen]
  · have hopen' : ¬ b.isOpen t := by
      rw [isOpen_iff] at hopen ⊢
      exact fun hall => hopen fun reset hreset => Nat.lt_of_le_of_lt h (hall reset hreset)
    rw [refill_of_not_isOpen hopen, refill_of_not_isOpen hopen']
    exact refill_of_isOpen rfl

/-- A request that is put off leaves the tokens there. -/
theorem take_snd_of_wait {d : Duration} (h : (b.take now).1 = .wait d) :
    (b.take now).2 = b.refill now := by
  simp only [take] at h ⊢
  split at h
  · cases h
  · rw [if_neg ‹_›]

theorem exhaustedUntil?_eq_some_iff :
    b.exhaustedUntil? now = some r ↔ b.remaining = 0 ∧ b.resetAt = some r ∧ now < r := by
  unfold exhaustedUntil?
  split
  · next h => simp [h, Option.filter_eq_some_iff]
  · next h => simp [h]

/-- A request is put off until the end of the window. -/
theorem take_of_exhaustedUntil (h : b.exhaustedUntil? now = some r) :
    b.take now = (.wait (r - now), b) := by
  obtain ⟨hremaining, hreset, hlt⟩ := exhaustedUntil?_eq_some_iff.1 h
  have hopen : b.isOpen now := by
    rw [isOpen_iff, hreset]
    rintro _ ⟨⟩
    exact hlt
  simp [take, refill_of_isOpen hopen, hremaining, waitAt, hreset]

/-- A request is granted where there is no such end, unless there is no limit or nothing is
    known of the window. -/
theorem take_granted (hb : b.Recovers) (h : b.exhaustedUntil? now = none) :
    (b.take now).1 = .granted := by
  rw [take_fst_eq_granted_iff]
  by_cases hopen : b.isOpen now
  · rw [refill_of_isOpen hopen]
    refine hb.2.elim id fun hsome => ?_
    obtain ⟨reset, hreset⟩ := Option.isSome_iff_exists.1 hsome
    refine Nat.pos_of_ne_zero fun hzero => ?_
    rw [exhaustedUntil?_eq_some_iff.2 ⟨hzero, hreset, isOpen_iff.1 hopen reset hreset⟩] at h
    cases h
  · rw [refill_of_not_isOpen hopen]
    exact hb.1

end Bucket

namespace MemoryAccounts

variable {m m' m'' : MemoryAccounts} {key : String} {now t : Instant}

/-- What a request for a token leaves of the buckets. -/
theorem get?_take (m : MemoryAccounts) (key k : String) (now : Instant) :
    (m.take key now).2.buckets.get? k =
      if key = k then (m.buckets.get? k).map fun b => (b.take now).2 else m.buckets.get? k :=
  get?_buckets_take key k

/-- A request that is granted takes one token. -/
theorem takesOne_take (h : (m.take key now).1 = .granted) :
    m.TakesOne key now (m.take key now).2 := by
  refine ⟨fun b hb => ?_, fun hb => ?_, fun k hk => ?_⟩
  · rw [take_fst, hb] at h
    rw [get?_take, if_pos rfl, hb, Option.map_some, Bucket.take_snd]
    exact ⟨Bucket.take_fst_eq_granted_iff.1 h, rfl⟩
  · rw [get?_take, if_pos rfl, hb, Option.map_none]
  · rw [get?_take, if_neg (Ne.symm hk)]

/-- A request that is put off takes none. -/
theorem takesNone_take {d : Duration} (h : (m.take key now).1 = .wait d) (hle : now ≤ t) :
    m.TakesNone key now t (m.take key now).2 := by
  refine .inr ⟨now, Nat.le_refl now, hle, ?_, fun k hk => ?_⟩
  · rw [get?_take, if_pos rfl]
    cases hb : m.buckets.get? key with
    | none => rfl
    | some b =>
      rw [take_fst, hb] at h
      rw [Option.map_some, Option.map_some, Bucket.take_snd_of_wait h]
  · rw [get?_take, if_neg (Ne.symm hk)]

theorem TakesNone.trans {t₁ t₂ t₃ : Instant} (h : m.TakesNone key t₁ t₂ m') (h₁ : t₁ ≤ t₂)
    (h₂ : t₂ ≤ t₃) (h' : m'.TakesNone key t₂ t₃ m'') : m.TakesNone key t₁ t₃ m'' := by
  rcases h with hsame | ⟨x, hx₁, hx₂, hkey, hother⟩
  · rcases h' with hsame' | ⟨y, hy₂, hy₃, hkey', hother'⟩
    · exact .inl fun k => (hsame' k).trans (hsame k)
    · refine .inr ⟨y, Nat.le_trans h₁ hy₂, hy₃, ?_, fun k hk => (hother' k hk).trans (hsame k)⟩
      rw [hkey', hsame]
  · rcases h' with hsame' | ⟨y, hy₂, hy₃, hkey', hother'⟩
    · exact .inr ⟨x, hx₁, Nat.le_trans hx₂ h₂, (hsame' key).trans hkey,
        fun k hk => (hsame' k).trans (hother k hk)⟩
    · refine .inr ⟨y, Nat.le_trans h₁ hy₂, hy₃, ?_, fun k hk => (hother' k hk).trans (hother k hk)⟩
      -- The window was over at `x` only if it was at `y`.
      have hxy : x ≤ y := Nat.le_trans hx₂ hy₂
      rw [hkey', hkey, Option.map_map]
      exact congrArg (Option.map · _) (funext fun b => b.refill_refill hxy)

/-- What is taken counts from any accounts with the same buckets. -/
theorem TakesOne.of_same (h : m'.TakesOne key t m'')
    (hsame : ∀ k, m'.buckets.get? k = m.buckets.get? k) : m.TakesOne key t m'' :=
  ⟨fun b hb => h.known b ((hsame key).trans hb), fun hb => h.unknown ((hsame key).trans hb),
    fun k hk => (h.other k hk).trans (hsame k)⟩

end MemoryAccounts

namespace Limiter

variable {config : LimiterConfig} {m m' : MemoryAccounts} {key : String} {now t : Instant}
  {waits : List Duration} {n : Nat} {lastWait : Duration} {r : Instant}

/-- During a lockout a caller is put off until its end. -/
theorem attempt_of_locked (h : now < m.lockedUntil.getD 0) :
    ((own config).attempt key).runAt now m = (.ok (.wait (m.lockedUntil.getD 0 - now)), m) := by
  cases hlocked : m.lockedUntil with
  | none =>
    rw [hlocked] at h
    exact absurd h (Nat.not_lt_zero now)
  | some deadline =>
    rw [hlocked] at h
    have hlockout : m.lockout now = (some (deadline - now), m) := by
      simp only [MemoryAccounts.lockout, hlocked]
      exact if_pos h
    have hstore : (own config).store.lockout.runAt now m = (.ok (some (deadline - now)), m) :=
      congrArg (fun x => (Except.ok x.1, x.2)) hlockout
    rw [attempt, StoreAction.runAt_bind, hstore]
    rfl

/-- Otherwise it asks for a token, and a lockout that is over is forgotten. -/
theorem attempt_of_clear (h : m.lockedUntil.getD 0 ≤ now) :
    ((own config).attempt key).runAt now m =
      (.ok (m.take key now).1, { (m.take key now).2 with lockedUntil := none }) := by
  have hlockout : m.lockout now = (none, { m with lockedUntil := none }) := by
    obtain ⟨buckets, names, slots, lockedUntil⟩ := m
    cases lockedUntil with
    | none => rfl
    | some deadline => exact if_neg (Nat.not_lt.2 h)
  have hstore : (own config).store.lockout.runAt now m =
      (.ok none, { m with lockedUntil := none }) :=
    congrArg (fun x => (Except.ok x.1, x.2)) hlockout
  rw [attempt, StoreAction.runAt_bind, hstore]
  show (Except.ok _, _) = _
  simp only [MemoryAccounts.take]
  cases m.buckets.get? key <;> rfl

/-- A token is taken at once where the bucket is not exhausted. -/
theorem exists_attempt_granted (config : LimiterConfig)
    (hclear : m.lockedUntil.getD 0 ≤ now)
    (hb : ∀ b, m.buckets.get? key = some b → b.Recovers) (h : m.exhaustedUntil? key now = none) :
    ∃ m', ((own config).attempt key).runAt now m = (.ok .granted, m') ∧ m.TakesOne key now m' := by
  have hgranted : (m.take key now).1 = .granted := by
    rw [MemoryAccounts.take_fst]
    cases hget : m.buckets.get? key with
    | none => rfl
    | some b =>
      rw [MemoryAccounts.exhaustedUntil?, hget] at h
      exact Bucket.take_granted (hb b hget) h
  have htakes := MemoryAccounts.takesOne_take hgranted
  rw [attempt_of_clear hclear, hgranted]
  exact ⟨_, rfl, htakes.known, htakes.unknown, htakes.other⟩

/-- Otherwise the caller is put off until the end of the window, and nothing has changed
    then. -/
theorem exists_attempt_wait (config : LimiterConfig) (hclear : m.lockedUntil.getD 0 ≤ now)
    (h : m.exhaustedUntil? key now = some r) :
    ∃ m', ((own config).attempt key).runAt now m = (.ok (.wait (r - now)), m') ∧
      m'.lockedUntil = none ∧ ∀ k, m'.buckets.get? k = m.buckets.get? k := by
  obtain ⟨b, hget, hb⟩ := Option.bind_eq_some_iff.1 h
  have htake := Bucket.take_of_exhaustedUntil hb
  have hwait : (m.take key now).1 = .wait (r - now) := by
    rw [MemoryAccounts.take_fst, hget, Option.elim_some, htake]
  rw [attempt_of_clear hclear, hwait]
  refine ⟨_, rfl, rfl, fun k => ?_⟩
  show (m.take key now).2.buckets.get? k = _
  rw [MemoryAccounts.get?_take]
  split
  · next hk => rw [← hk, hget, Option.map_some, htake]
  · rfl

/-- A caller that is put off takes no token, as often as it is. -/
theorem PutsOff.takesNone (h : (own config).PutsOff key now m waits t m') :
    now ≤ t ∧ m.TakesNone key now t m' := by
  induction h with
  | refl now m => exact ⟨Nat.le_refl now, .inl fun _ => rfl⟩
  | @head now t m m₁ m' d waits hattempt _ ih =>
    have hle : now ≤ now + d := Nat.le_add_right now d
    refine ⟨Nat.le_trans hle ih.1, .trans ?_ hle ih.1 ih.2⟩
    rcases Nat.lt_or_ge now (m.lockedUntil.getD 0) with hlocked | hclear
    · rw [attempt_of_locked hlocked] at hattempt
      cases hattempt
      exact .inl fun _ => rfl
    · rw [attempt_of_clear hclear] at hattempt
      obtain ⟨hwait, rfl⟩ := Prod.mk.inj hattempt
      exact MemoryAccounts.takesNone_take (Except.ok.inj hwait) hle

/-! ## All requests of a caller -/

/-- What a call with so many requests left comes to, if the last of those that it needs would
    be granted at an instant. -/
def ComesTo (config : LimiterConfig) (m : MemoryAccounts) (key : String) (needed n : Nat)
    (t : Instant) (result : Except RateLimitError String × Instant × MemoryAccounts) : Prop :=
  if needed ≤ n then ∃ m', result = (.ok key, t, m') ∧ m.TakesOne key t m'
  else ∃ w t' m', result = (.error (.exhausted key config.maxAttempts w), t', m')

variable {needed : Nat}

/-- A caller that needs a request and has none left gives up. -/
theorem comesTo_zero (h : 0 < needed) :
    ComesTo config m key needed 0 t ((own config).acquireWithin key 0 lastWait now m) := by
  rw [ComesTo, if_neg (Nat.not_le.2 h)]
  exact ⟨lastWait, now, m, rfl⟩

/-- Once put off, a caller needs one request less and has one less. -/
theorem ComesTo.of_wait {d : Duration} {later : Instant}
    (hattempt : ((own config).attempt key).runAt now m = (.ok (.wait d), m'))
    (hlater : now + d = later) (hsame : ∀ k, m'.buckets.get? k = m.buckets.get? k)
    (h : ComesTo config m' key needed n t ((own config).acquireWithin key n d later m')) :
    ComesTo config m key (needed + 1) (n + 1) t
      ((own config).acquireWithin key (n + 1) lastWait now m) := by
  rw [acquireWithin_of_wait hattempt, hlater]
  unfold ComesTo at h ⊢
  by_cases hn : needed ≤ n
  · rw [if_pos hn] at h
    rw [if_pos (Nat.succ_le_succ hn)]
    obtain ⟨m'', hresult, htakes⟩ := h
    exact ⟨m'', hresult, htakes.of_same hsame⟩
  · rw [if_neg hn] at h
    rwa [if_neg (mt Nat.le_of_succ_le_succ hn)]

/-- A caller whose bucket is not exhausted is admitted with its next request. -/
theorem comesTo_of_granted (hclear : m.lockedUntil.getD 0 ≤ now)
    (hb : ∀ b, m.buckets.get? key = some b → b.Recovers) (h : m.exhaustedUntil? key now = none) :
    ComesTo config m key 1 n now ((own config).acquireWithin key n lastWait now m) := by
  cases n with
  | zero => exact comesTo_zero Nat.one_pos
  | succ n =>
    obtain ⟨m', hattempt, htakes⟩ := exists_attempt_granted config hclear hb h
    rw [ComesTo, if_pos (Nat.le_add_left 1 n), acquireWithin_of_granted hattempt]
    exact ⟨m', rfl, htakes⟩

/-- A caller that finds no lockout sleeps at most once, until the end of the window. -/
theorem comesTo_of_clear (hclear : m.lockedUntil.getD 0 ≤ now)
    (hb : ∀ b, m.buckets.get? key = some b → b.Recovers) :
    ComesTo config m key (1 + (m.exhaustedUntil? key now).isSome.toNat) n
      ((m.exhaustedUntil? key now).getD now)
      ((own config).acquireWithin key n lastWait now m) := by
  cases h : m.exhaustedUntil? key now with
  | none => exact comesTo_of_granted hclear hb h
  | some r =>
    cases n with
    | zero => exact comesTo_zero (Nat.succ_pos 1)
    | succ n =>
      obtain ⟨m', hattempt, hunlocked, hsame⟩ := exists_attempt_wait config hclear h
      obtain ⟨b, hget, hblocked⟩ := Option.bind_eq_some_iff.1 h
      obtain ⟨hempty, hreset, hlt⟩ := Bucket.exhaustedUntil?_eq_some_iff.1 hblocked
      have hclear' : m'.lockedUntil.getD 0 ≤ r := by
        rw [hunlocked]
        exact Nat.zero_le r
      -- At the end of the window the bucket is not exhausted any more.
      have hover : m'.exhaustedUntil? key r = none := by
        rw [MemoryAccounts.exhaustedUntil?, hsame, hget]
        simp [Bucket.exhaustedUntil?, hempty, hreset]
      exact .of_wait hattempt (Nat.add_sub_of_le (Nat.le_of_lt hlt)) hsame
        (comesTo_of_granted hclear' (fun b hb' => hb b ((hsame key).symm.trans hb')) hover)

/-- A caller sleeps through the lockout first. -/
theorem comesTo_acquireWithin (config : LimiterConfig) (n : Nat) (lastWait : Duration)
    (now : Instant) (hb : ∀ b, m.buckets.get? key = some b → b.Recovers) :
    ComesTo config m key (1 + (decide (now < m.clearFrom now)).toNat +
        (m.exhaustedUntil? key (m.clearFrom now)).isSome.toNat) n
      ((m.exhaustedUntil? key (m.clearFrom now)).getD (m.clearFrom now))
      ((own config).acquireWithin key n lastWait now m) := by
  rcases Nat.lt_or_ge now (m.lockedUntil.getD 0) with hlocked | hclear
  · have hfrom : m.clearFrom now = m.lockedUntil.getD 0 := Nat.max_eq_right (Nat.le_of_lt hlocked)
    rw [hfrom, decide_eq_true hlocked, Bool.toNat_true, Nat.add_right_comm]
    cases n with
    | zero => exact comesTo_zero (Nat.succ_pos _)
    | succ n =>
      exact .of_wait (attempt_of_locked hlocked) (Nat.add_sub_of_le (Nat.le_of_lt hlocked))
        (fun _ => rfl) (comesTo_of_clear (Nat.le_refl _) hb)
  · have hfrom : m.clearFrom now = now := Nat.max_eq_left hclear
    rw [hfrom, decide_eq_false (Nat.lt_irrefl now), Bool.toNat_false, Nat.add_zero]
    exact comesTo_of_clear hclear hb

/-- A store in memory does not fail a caller: it is admitted, or it gives up. -/
theorem acquireWithin_fst (config : LimiterConfig) (m : MemoryAccounts) (key : String) (n : Nat)
    (lastWait : Duration) (now : Instant) :
    ((own config).acquireWithin key n lastWait now m).1 = .ok key ∨
      ∃ w, ((own config).acquireWithin key n lastWait now m).1 =
        .error (.exhausted key config.maxAttempts w) := by
  induction n generalizing lastWait now m with
  | zero => exact .inr ⟨lastWait, rfl⟩
  | succ n ih =>
    obtain ⟨a, m', hattempt⟩ : ∃ a m', ((own config).attempt key).runAt now m = (.ok a, m') := by
      rcases Nat.lt_or_ge now (m.lockedUntil.getD 0) with hlocked | hclear
      · exact ⟨_, _, attempt_of_locked hlocked⟩
      · exact ⟨_, _, attempt_of_clear hclear⟩
    cases a with
    | granted => exact .inl (congrArg Prod.fst (acquireWithin_of_granted hattempt))
    | wait d =>
      rw [acquireWithin_of_wait hattempt]
      exact ih m' d (now + d)

theorem acquire_eq (config : LimiterConfig) (m : MemoryAccounts) (route : Route) (now : Instant) :
    (own config).acquire route now m =
      (own config).acquireWithin (m.keyOf route) config.maxAttempts 0 now m := rfl

/-- When a caller that is alone is admitted. It needs one request, one more if the account is
    locked out when it comes, and one more if its bucket is exhausted when it is not locked out
    any more. If it may ask that often it is admitted at the end of its last sleep and takes one
    token; otherwise it gives up after as many requests as it may make, and has taken none. -/
theorem acquire_own (config : LimiterConfig) (m : MemoryAccounts) (route : Route) (now : Instant) :
    ((∀ b, m.buckets.get? (m.keyOf route) = some b → b.Recovers) →
      ((∃ k t m', (own config).acquire route now m = (.ok k, t, m')) ↔
        1 + (decide (now < m.clearFrom now)).toNat +
            (m.exhaustedUntil? (m.keyOf route) (m.clearFrom now)).isSome.toNat ≤
          config.maxAttempts) ∧
      ∀ k t m', (own config).acquire route now m = (.ok k, t, m') →
        k = m.keyOf route ∧
          t = (m.exhaustedUntil? k (m.clearFrom now)).getD (m.clearFrom now) ∧
          m.TakesOne k t m') ∧
    (∀ k attempts lastWait t m',
      (own config).acquire route now m = (.error (.exhausted k attempts lastWait), t, m') →
        k = m.keyOf route ∧ attempts = config.maxAttempts ∧
          (∃ waits, waits.length = attempts ∧ (own config).PutsOff k now m waits t m' ∧
            lastWait = waits.getLastD 0) ∧
          m.TakesNone k now t m') ∧
    (((own config).acquire route now m).1 = .ok (m.keyOf route) ∨
      ∃ lastWait, ((own config).acquire route now m).1 =
        .error (.exhausted (m.keyOf route) config.maxAttempts lastWait)) := by
  rw [acquire_eq]
  refine ⟨fun hb => ?_, fun k attempts lastWait t m' h => ?_, acquireWithin_fst ..⟩
  · have hends := comesTo_acquireWithin config config.maxAttempts 0 now hb
    unfold ComesTo at hends
    split at hends
    · next henough =>
      obtain ⟨m', hresult, htakes⟩ := hends
      rw [hresult]
      refine ⟨⟨fun _ => henough, fun _ => ⟨_, _, m', rfl⟩⟩, ?_⟩
      rintro k t _ ⟨⟩
      exact ⟨rfl, rfl, htakes⟩
    · next hfew =>
      obtain ⟨w, t, m', hresult⟩ := hends
      rw [hresult]
      exact ⟨⟨nofun, fun h => absurd h hfew⟩, nofun⟩
  · obtain ⟨rfl, rfl, waits, hlength, hwaits, hlast⟩ := acquireWithin_eq_exhausted_iff.1 h
    exact ⟨rfl, rfl, ⟨waits, hlength, hwaits, hlast⟩, hwaits.takesNone.2⟩

/-- A caller finds the account locked out until 3 and its bucket exhausted until 10. With three
    requests it is admitted at 10 and takes one of the two tokens of the next window; with two
    it gives up, having slept for 3 and for 7. -/
theorem acquire_own_exhausted :
    let m : MemoryAccounts := ⟨⟨[("channel:1", ⟨2, 0, some 10⟩)]⟩, ∅, ∅, some 3⟩
    (∀ b, m.buckets.get? (m.keyOf (.channel 1)) = some b → b.Recovers) ∧
      (∃ m', (own { maxAttempts := 3 }).acquire (.channel 1) 0 m = (.ok "channel:1", 10, m') ∧
        m'.buckets.get? "channel:1" = some ⟨2, 1, none⟩) ∧
      ∃ m', (own { maxAttempts := 2 }).acquire (.channel 1) 0 m =
          (.error (.exhausted "channel:1" 2 7), 10, m') ∧
        m'.buckets.get? "channel:1" = some ⟨2, 0, some 10⟩ := by
  intro m
  have hb : ∀ b, m.buckets.get? (m.keyOf (.channel 1)) = some b → b.Recovers := by
    intro b hget
    obtain rfl : ⟨2, 0, some 10⟩ = b := Option.some_inj.1 hget
    exact ⟨by decide, .inr rfl⟩
  have h := acquire_own { maxAttempts := 3 } m (.channel 1) 0
  obtain ⟨k, t, m', hresult⟩ := (h.1 hb).1.2 (by decide)
  obtain ⟨rfl, rfl, htakes⟩ := (h.1 hb).2 k t m' hresult
  refine ⟨hb, ⟨m', hresult, (htakes.known ⟨2, 0, some 10⟩ rfl).2⟩, ?_⟩
  exact ⟨_, rfl, rfl⟩

end Limiter

end GatewayClient
