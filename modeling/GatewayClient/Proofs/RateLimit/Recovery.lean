import GatewayClient.Proofs.RateLimit.Window

/-!
# Buckets that are exhausted

A bucket without tokens has them again at the end of its window. When the client has
started the window by itself, only a response tells where it ends. If none comes (the
requests that took the tokens may have been lost before they were answered) nothing
gives a token back, however long the callers wait.

* `Bucket.credit`: the requests that a bucket can admit without a response.
* `Traffic.Silent.credit`: the credit is what a run without a response can spend.
* `Traffic.admitted_later_iff`: a bucket admits a request later on exactly if it has
  credit, which is when it has tokens or the end of its window is known.
-/

namespace GatewayClient

/-- The requests that a bucket can admit before a response reports about it: its tokens,
    and those of a whole window if the end of this one is known. -/
def Bucket.credit (b : Bucket) : Nat := b.remaining + if b.resetAt.isSome then b.limit else 0

/-- Whether an operation enters what a response reports about a bucket. -/
def StoreCall.reports (key : String) : StoreCall → Bool
  | record k _ => k = key
  | _ => false

namespace Traffic

/-- Some steps in which no response reports about the bucket with a key. -/
inductive Silent (config : LimiterConfig) (key : String) :
    Traffic MemoryAccounts → Traffic MemoryAccounts → Prop
  | refl (y : Traffic MemoryAccounts) : Silent config key y y
  | step {y y' y'' : Traffic MemoryAccounts} (m : LimiterMove) :
    y.step (.own config) m = some y' → (y.call? m).any (StoreCall.reports key) = false →
      Silent config key y' y'' → Silent config key y y''

end Traffic

/-! ## One bucket -/

namespace Bucket

variable {b : Bucket} {now : Instant}

theorem credit_pos_iff (hlimit : 0 < b.limit) :
    0 < b.credit ↔ 0 < b.remaining ∨ b.resetAt.isSome := by
  unfold credit
  cases b.resetAt with
  | none => simp
  | some reset => simp [Nat.add_pos_right _ hlimit]

/-- The end of a window that is over was known. -/
theorem isSome_resetAt_of_not_isOpen (h : ¬ b.isOpen now) : b.resetAt.isSome := by
  cases hr : b.resetAt with
  | none => simp [isOpen, hr] at h
  | some reset => rfl

/-- A request that is granted is paid for by the credit. -/
theorem take_add_credit_le (b : Bucket) (now : Instant) :
    (decide ((b.take now).1 = .granted)).toNat + (b.take now).2.credit ≤ b.credit := by
  have htake := b.take_add_remaining now
  have hlimit := b.take_limit now
  by_cases hopen : b.isOpen now
  · -- The window is as it was.
    have hreset : (b.take now).2.resetAt = b.resetAt := by
      rw [take_snd, refill_of_isOpen hopen]
    rw [if_pos hopen] at htake
    rw [credit, credit, hreset, hlimit]
    omega
  · -- The tokens of a whole window are there for the last time.
    have hreset : (b.take now).2.resetAt = none := by
      rw [take_snd, refill_of_not_isOpen hopen]
    rw [if_neg hopen] at htake
    rw [credit, credit, hreset, isSome_resetAt_of_not_isOpen hopen]
    simp only [Option.isSome_none, Bool.false_eq_true, if_false, if_true]
    omega

/-- An operation that reports nothing spends credit for what it admits. -/
theorem takesFrom_add_credit_le (b : Bucket) {key : String} (now : Instant) {call : StoreCall}
    (hsilent : call.reports key = false) :
    ∃ b', call.bucketAfter key now (some b) = some b' ∧
      (call.takesFrom key now (some b)).toNat + b'.credit ≤ b.credit := by
  cases call with
  | take k =>
    by_cases h : k = key
    · refine ⟨(b.take now).2, by simp [StoreCall.bucketAfter, h], ?_⟩
      simpa [StoreCall.takesFrom, h] using b.take_add_credit_le now
    · exact ⟨b, by simp [StoreCall.bucketAfter, h], by simp [StoreCall.takesFrom, h]⟩
  | record k u =>
    have h : k ≠ key := by simpa [StoreCall.reports] using hsilent
    exact ⟨b, by simp [StoreCall.bucketAfter, h], by simp [StoreCall.takesFrom]⟩
  | _ => exact ⟨b, rfl, by simp [StoreCall.takesFrom]⟩

/-- With credit, a request is granted once the end of the window has come. -/
theorem take_granted_of_credit (hlimit : 0 < b.limit) (hcredit : 0 < b.credit)
    (hnow : ∀ reset, b.resetAt = some reset → reset ≤ now) : (b.take now).1 = .granted := by
  rw [take_fst_eq_granted_iff]
  by_cases hopen : b.isOpen now
  · -- An open window whose end has come is one whose end is not known.
    have hreset : b.resetAt = none := by
      cases hr : b.resetAt with
      | none => rfl
      | some reset => exact absurd (isOpen_iff.1 hopen reset hr) (Nat.not_lt.2 (hnow reset hr))
    rw [refill_of_isOpen hopen]
    simpa [credit, hreset] using hcredit
  · rw [refill_of_not_isOpen hopen]
    exact hlimit

/-- A deadline that an operation leaves was there before, or lies on the clock. -/
theorem reset_of_bucketAfter {o : Option Bucket} {key : String} {call : StoreCall} {reset : Instant}
    (h : call.bucketAfter key now o = some b) (hreset : b.resetAt = some reset) :
    (∃ b₀, o = some b₀ ∧ b₀.resetAt = some reset) ∨ reset < Instant.limit := by
  cases call with
  | take k =>
    simp only [StoreCall.bucketAfter] at h
    split at h
    · obtain ⟨b₀, rfl, rfl⟩ := Option.map_eq_some_iff.1 h
      refine .inl ⟨b₀, rfl, ?_⟩
      rw [take_snd] at hreset
      by_cases hopen : b₀.isOpen now
      · rwa [refill_of_isOpen hopen] at hreset
      · rw [refill_of_not_isOpen hopen] at hreset
        cases hreset
    · exact .inl ⟨b, h, hreset⟩
  | record k u =>
    simp only [StoreCall.bucketAfter] at h
    split at h
    · cases o with
      | none =>
        obtain ⟨deadline, hafter, rfl⟩ := Option.map_eq_some_iff.1 h
        cases hreset
        exact .inr (Instant.after?_lt_limit hafter)
      | some b₀ =>
        cases h
        rcases Option.or_eq_some_iff.1 hreset with hafter | ⟨-, hreset⟩
        · exact .inr (Instant.after?_lt_limit hafter)
        · exact .inl ⟨b₀, rfl, hreset⟩
    · exact .inl ⟨b, h, hreset⟩
  | _ => exact .inl ⟨b, h, hreset⟩

end Bucket

/-! ## Many operations -/

namespace Traffic

variable {config : LimiterConfig} {key : String} {y y' : Traffic MemoryAccounts} {m : LimiterMove}
  {b : Bucket}

/-- The step lemma: what a step without a report admits is taken from the credit. -/
theorem step_credit (hb : y.bucket? key = some b) (h : y.step (.own config) m = some y')
    (hsilent : (y.call? m).any (StoreCall.reports key) = false) :
    ∃ b', y'.bucket? key = some b' ∧
      y'.admissions key + b'.credit ≤ y.admissions key + b.credit := by
  have hstep := bucket_step h key
  rw [hb] at hstep
  rcases hstep with ⟨call, hcall, hbucket, hadm⟩ | ⟨-, hbucket, hadm⟩
  · rw [hcall, Option.any_some] at hsilent
    obtain ⟨b', hb', hle⟩ := b.takesFrom_add_credit_le y.now hsilent
    exact ⟨b', by rw [hbucket, hb'], by omega⟩
  · exact ⟨b, hbucket, by omega⟩

/-- The run lemma: without a response, no more requests are admitted than there is credit
    for. -/
theorem Silent.credit (hb : y.bucket? key = some b) (h : Silent config key y y') :
    ∃ b', y'.bucket? key = some b' ∧
      y'.admissions key + b'.credit ≤ y.admissions key + b.credit := by
  induction h generalizing b with
  | refl y => exact ⟨b, hb, Nat.le_refl _⟩
  | step m hstep hsilent _ ih =>
    obtain ⟨b₁, hb₁, hle₁⟩ := step_credit hb hstep hsilent
    obtain ⟨b₂, hb₂, hle₂⟩ := ih hb₁
    exact ⟨b₂, hb₂, by omega⟩

/-- The deadlines of buckets lie on the clock. -/
theorem IsReachable.reset_lt_limit {reset : Instant} (h : IsReachable config y)
    (hb : y.bucket? key = some b) (hreset : b.resetAt = some reset) : reset < Instant.limit := by
  induction h generalizing b with
  | start now => cases hb
  | step m _ hstep ih =>
    rcases bucket_step hstep key with ⟨call, -, hbucket, -⟩ | ⟨-, hbucket, -⟩
    · rw [hbucket] at hb
      rcases Bucket.reset_of_bucketAfter hb hreset with ⟨b₀, hb₀, hreset₀⟩ | hlt
      · exact ih hb₀ hreset₀
      · exact hlt
    · exact ih (hbucket ▸ hb) hreset

theorem take_fst_eq (hb : y.bucket? key = some b) (t : Instant) :
    (y.accounts.take key t).1 = (b.take t).1 := by
  rw [bucket?] at hb
  rw [MemoryAccounts.take, hb]

/-- Whatever admits a request at some later instant does so in a run without a response. -/
theorem exists_silent_of_granted {t : Instant} (hb : y.bucket? key = some b) (ht : y.now ≤ t)
    (hgranted : (b.take t).1 = .granted) :
    ∃ y', Silent config key y y' ∧ y.admissions key < y'.admissions key := by
  let waited : Traffic MemoryAccounts := { y with now := y.now + (t - y.now) }
  have hnow : waited.now = t := Nat.add_sub_of_le ht
  have hadvance : y.step (.own config) (.advance (t - y.now)) = some waited := rfl
  obtain ⟨y', htake⟩ : ∃ y', waited.step (.own config) (.perform (.take key)) = some y' := ⟨_, rfl⟩
  refine ⟨y', .step _ hadvance rfl (.step _ htake rfl (.refl y')), ?_⟩
  rcases bucket_step htake key with ⟨call, hcall, -, hadm⟩ | ⟨hcall, -, -⟩
  · cases hcall
    have hbucket : waited.bucket? key = some b := hb
    rw [hadm, hbucket, hnow, StoreCall.takesFrom, Option.all_some, hgranted]
    exact Nat.lt_add_of_pos_right (by simp)
  · cases hcall

/-- A bucket that has a limit admits a request later on, be it the next one or any in a run
    without a response about it, exactly if it has tokens or the end of its window is known;
    and in such a run it admits no more than these tokens and those of one window. -/
theorem admitted_later_iff (h : IsReachable config y) (hnow : y.now < Instant.limit)
    (hb : y.bucket? key = some b) (hlimit : 0 < b.limit) :
    ((∃ t, y.now ≤ t ∧ t < Instant.limit ∧ (y.accounts.take key t).1 = .granted) ↔
      0 < b.remaining ∨ b.resetAt.isSome) ∧
    ((∃ y', Silent config key y y' ∧ y.admissions key < y'.admissions key) ↔
      0 < b.remaining ∨ b.resetAt.isSome) ∧
    ∀ y', Silent config key y y' → y'.admissions key ≤ y.admissions key +
      (b.remaining + if b.resetAt.isSome then b.limit else 0) := by
  simp only [take_fst_eq hb, ← Bucket.credit_pos_iff hlimit]
  have hspent : ∀ y', Silent config key y y' → y'.admissions key ≤ y.admissions key + b.credit := by
    intro y' hrun
    obtain ⟨b', -, hle⟩ := hrun.credit hb
    omega
  -- With credit, waiting for the end of the window is enough.
  have hlater : 0 < b.credit →
      ∃ t, y.now ≤ t ∧ t < Instant.limit ∧ (b.take t).1 = .granted := by
    intro hcredit
    refine ⟨max y.now (b.resetAt.getD 0), Nat.le_max_left _ _, Nat.max_lt.2 ⟨hnow, ?_⟩,
      b.take_granted_of_credit hlimit hcredit ?_⟩
    · cases hreset : b.resetAt with
      | none => exact Nat.zero_lt_of_lt hnow
      | some reset => exact h.reset_lt_limit hb hreset
    · intro reset hreset
      rw [hreset]
      exact Nat.le_max_right _ _
  refine ⟨⟨?_, hlater⟩, ⟨?_, fun hcredit => ?_⟩, hspent⟩
  · rintro ⟨t, -, -, hgranted⟩
    have hpaid := b.take_add_credit_le t
    rw [hgranted] at hpaid
    exact Nat.lt_of_lt_of_le Nat.one_pos (Nat.le_trans (Nat.le_add_right _ _) hpaid)
  · rintro ⟨y', hrun, hless⟩
    have hle := hspent y' hrun
    omega
  · obtain ⟨t, ht, -, hgranted⟩ := hlater hcredit
    exact exists_silent_of_granted hb ht hgranted

/-- A bucket without tokens whose window is known to end at 5. -/
theorem admitted_later_iff_exhausted : ∃ (y : Traffic MemoryAccounts) (b : Bucket),
    IsReachable {} y ∧ y.now < Instant.limit ∧ y.bucket? "b" = some b ∧ 0 < b.limit ∧
      b.remaining = 0 ∧
      ∃ t, y.now ≤ t ∧ t < Instant.limit ∧ (y.accounts.take "b" t).1 = .granted := by
  let y : Traffic MemoryAccounts := ⟨⟨⟨[("b", ⟨1, 0, some 5⟩)]⟩, ∅, ∅, none⟩, 0, [], []⟩
  have hreach : IsReachable {} y := .step (.perform (.record "b" ⟨1, 0, 5⟩)) (.start 0) rfl
  have hnow : y.now < Instant.limit := by decide
  have hb : y.bucket? "b" = some ⟨1, 0, some 5⟩ := rfl
  exact ⟨y, _, hreach, hnow, hb, by decide, rfl,
    (admitted_later_iff hreach hnow hb (by decide)).1.2 (.inr rfl)⟩

/-- A bucket of one token that is never given another: the window that was reported is over,
    the client has started the next one, its token is taken, and no response comes. -/
theorem exists_refused_for_good : ∃ (y : Traffic MemoryAccounts) (b : Bucket),
    IsReachable {} y ∧ y.bucket? "b" = some b ∧ 0 < b.limit ∧
      (∀ t, y.now ≤ t → (y.accounts.take "b" t).1 = .wait pendingWait) ∧
      ¬ ∃ y', Silent {} "b" y y' ∧ y.admissions "b" < y'.admissions "b" := by
  let y (b : Bucket) (now : Instant) (log : List LimiterNote) : Traffic MemoryAccounts :=
    ⟨⟨⟨[("b", b)]⟩, ∅, ∅, none⟩, now, [], log⟩
  have h₁ : IsReachable {} (y ⟨1, 0, some 5⟩ 0 []) :=
    .step (.perform (.record "b" ⟨1, 0, 5⟩)) (.start 0) rfl
  have h₂ : IsReachable {} (y ⟨1, 0, some 5⟩ 5 []) := .step (.advance 5) h₁ rfl
  have h₃ : IsReachable {} (y ⟨1, 0, none⟩ 5 [.admitted "b"]) :=
    .step (.perform (.take "b")) h₂ rfl
  have hb : (y ⟨1, 0, none⟩ 5 [.admitted "b"]).bucket? "b" = some ⟨1, 0, none⟩ := rfl
  refine ⟨_, _, h₃, hb, by decide, fun t _ => take_fst_eq hb t, ?_⟩
  rintro ⟨y', hrun, hless⟩
  obtain ⟨b', -, hle⟩ := hrun.credit hb
  have hcredit : Bucket.credit ⟨1, 0, none⟩ = 0 := rfl
  omega

end Traffic

end GatewayClient
