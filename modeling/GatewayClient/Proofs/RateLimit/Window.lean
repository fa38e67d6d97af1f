import GatewayClient.Proofs.RateLimit.Bucket

/-!
# The budget of a window

A bucket's window ends when the first request or response comes after its end: a
request then has the tokens of a whole window, a response those that it reports.
Between two such *boundaries* tokens only go down, whatever the order in which
callers take them and responses, late ones among them, are entered: the requests
that are admitted and the tokens that are left never exceed the tokens that were
there at first (`admissions_add_remaining_le`).
-/

namespace GatewayClient

/-- The limiter of a client that keeps its own accounts. -/
def Limiter.own (config : LimiterConfig) : Limiter MemoryAccounts := ⟨MemoryAccounts.store, config⟩

/-- Whether an operation takes a token of the bucket with a key, or enters what a
    response reports about it. -/
def StoreCall.touches (key : String) : StoreCall → Bool
  | take k => k = key
  | record k _ => k = key
  | _ => false

/-- The tokens with which an operation on the bucket begins: those that are left
    while the window is open, and after its end those of a whole window, or those
    that a response reports. -/
def Bucket.installed (b : Bucket) (key : String) (now : Instant) : StoreCall → Nat
  | .take k => if k = key ∧ ¬ b.isOpen now then b.limit else b.remaining
  | .record k u => if k = key ∧ ¬ b.isOpen now then u.remaining else b.remaining
  | _ => b.remaining

namespace Traffic

/-- What is known of the bucket with a key. -/
def bucket? (y : Traffic MemoryAccounts) (key : String) : Option Bucket :=
  y.accounts.buckets.get? key

/-- Whether a move is the first to touch a bucket after the end of its window. -/
def isBoundary (y : Traffic MemoryAccounts) (key : String) (m : LimiterMove) : Bool :=
  (y.call? m).any (StoreCall.touches key) && (y.bucket? key).any fun b => !b.isOpen y.now

/-- The tokens of the bucket with which a move begins. -/
def installed (y : Traffic MemoryAccounts) (key : String) (b : Bucket) (m : LimiterMove) : Nat :=
  (y.call? m).elim b.remaining (b.installed key y.now)

/-- What a limiter with accounts of its own can come to. -/
inductive IsReachable (config : LimiterConfig) : Traffic MemoryAccounts → Prop
  | start (now : Instant) : IsReachable config ⟨.empty, now, [], []⟩
  | step {y y' : Traffic MemoryAccounts} (m : LimiterMove) :
    IsReachable config y → y.step (.own config) m = some y' → IsReachable config y'

/-- Some steps without a boundary of the bucket with a key. -/
inductive Segment (config : LimiterConfig) (key : String) :
    Traffic MemoryAccounts → Traffic MemoryAccounts → Prop
  | refl (y : Traffic MemoryAccounts) : Segment config key y y
  | step {y y' y'' : Traffic MemoryAccounts} (m : LimiterMove) :
    y.step (.own config) m = some y' → y.isBoundary key m = false →
      Segment config key y' y'' → Segment config key y y''

end Traffic

/-! ## One operation -/

namespace Bucket

variable {b : Bucket} {now : Instant}

/-- An operation leaves a known bucket known, with no more tokens than it began
    with less the one that it takes. -/
theorem takesFrom_add_remaining_le (b : Bucket) (key : String) (now : Instant) (call : StoreCall) :
    ∃ b', call.bucketAfter key now (some b) = some b' ∧
      (call.takesFrom key now (some b)).toNat + b'.remaining ≤ b.installed key now call := by
  cases call with
  | take k =>
    by_cases h : k = key
    · refine ⟨(b.take now).2, by simp [StoreCall.bucketAfter, h], ?_⟩
      have := b.take_add_remaining now
      simp only [StoreCall.takesFrom, h, true_and, Option.all_some, decide_eq_true_eq, installed]
      split <;> simp_all
    · exact ⟨b, by simp [StoreCall.bucketAfter, h], by simp [StoreCall.takesFrom, installed, h]⟩
  | record k u =>
    by_cases h : k = key
    · refine ⟨b.reported u now, by simp [StoreCall.bucketAfter, h], ?_⟩
      have := b.remainingAfter_le u now
      simp only [StoreCall.takesFrom, h, true_and, installed, reported]
      split <;> simp_all
    · exact ⟨b, by simp [StoreCall.bucketAfter, h], by simp [StoreCall.takesFrom, installed, h]⟩
  | _ => exact ⟨b, rfl, by simp [StoreCall.takesFrom, installed]⟩

end Bucket

/-! ## Many operations -/

namespace Traffic

variable {config : LimiterConfig} {key : String} {y y' y'' : Traffic MemoryAccounts}
  {m : LimiterMove} {b : Bucket}

/-- A step leaves of the accounts what its operation does. -/
theorem accounts_of_step (h : y.step (.own config) m = some y') :
    y'.accounts = (y.call? m).elim y.accounts fun call =>
      ((MemoryAccounts.store.perform call).runAt y.now y.accounts).2 := by
  rcases step_cases (.own config) h "" with
    ⟨call, reply, hcall, hperform, -, -⟩ | ⟨hcall, haccounts, -, -⟩
  · rw [hcall]
    exact (congrArg Prod.snd hperform).symm
  · rw [hcall]
    exact haccounts

/-- What a step does to a bucket and to the requests that it has admitted is what the
    operation of the step does. -/
theorem bucket_step (h : y.step (.own config) m = some y') (key : String) :
    (∃ call, y.call? m = some call ∧
      y'.bucket? key = call.bucketAfter key y.now (y.bucket? key) ∧
      y'.admissions key =
        y.admissions key + (call.takesFrom key y.now (y.bucket? key)).toNat) ∨
    (y.call? m = none ∧ y'.bucket? key = y.bucket? key ∧
      y'.admissions key = y.admissions key) := by
  rcases step_cases (.own config) h key with
    ⟨call, reply, hcall, hr, -, hadm⟩ | ⟨hcall, haccounts, -, hadm⟩
  · have hreply : reply = ((MemoryAccounts.store.perform call).runAt y.now y.accounts).1 :=
      congrArg Prod.fst hr.symm
    have haccounts : y'.accounts =
        ((MemoryAccounts.store.perform call).runAt y.now y.accounts).2 :=
      congrArg Prod.snd hr.symm
    refine .inl ⟨call, hcall, ?_, ?_⟩
    · rw [bucket?, haccounts, MemoryAccounts.bucket_perform, bucket?]
    · rw [hadm, hreply, MemoryAccounts.admissions_perform, bucket?]
  · exact .inr ⟨hcall, by rw [bucket?, haccounts, bucket?], hadm⟩

/-- The step lemma: what a step admits and leaves is at most what it begins with. -/
theorem step_budget (hb : y.bucket? key = some b) (h : y.step (.own config) m = some y') :
    ∃ b', y'.bucket? key = some b' ∧
      y'.admissions key + b'.remaining ≤ y.admissions key + y.installed key b m := by
  have hstep := bucket_step h key
  rw [hb] at hstep
  rcases hstep with ⟨call, hcall, hbucket, hadm⟩ | ⟨hcall, hbucket, hadm⟩
  · obtain ⟨b', hb', hle⟩ := b.takesFrom_add_remaining_le key y.now call
    refine ⟨b', by rw [hbucket, hb'], ?_⟩
    rw [hadm, installed, hcall, Option.elim_some]
    omega
  · exact ⟨b, hbucket, by simp [installed, hcall, hadm]⟩

/-- A step that is no boundary begins with the tokens that are left. -/
theorem installed_of_not_boundary (hb : y.bucket? key = some b) (hm : y.isBoundary key m = false) :
    y.installed key b m = b.remaining := by
  unfold installed
  unfold isBoundary at hm
  cases hc : y.call? m with
  | none => rfl
  | some call =>
    rw [hc, hb] at hm
    cases call <;> simp_all [StoreCall.touches, Bucket.installed]

/-- The run lemma: without a boundary, what is admitted and left is at most what was
    left before. -/
theorem Segment.budget (hb : y.bucket? key = some b) (h : Segment config key y y') :
    ∃ b', y'.bucket? key = some b' ∧
      y'.admissions key + b'.remaining ≤ y.admissions key + b.remaining := by
  induction h generalizing b with
  | refl y => exact ⟨b, hb, Nat.le_refl _⟩
  | step m hstep hm _ ih =>
    obtain ⟨b₁, hb₁, hle₁⟩ := step_budget hb hstep
    obtain ⟨b₂, hb₂, hle₂⟩ := ih hb₁
    rw [installed_of_not_boundary hb hm] at hle₁
    exact ⟨b₂, hb₂, by omega⟩

/-- The budget of a window. From any state in which a bucket is known, let any step
    be followed by any steps that are no boundaries of the bucket. Then the requests
    admitted to the bucket from that first step on and the tokens left at the end
    are together at most the tokens with which the first step began: the limit if it
    is a request after the end of the window, what it reports if it is a response
    after that, and the tokens that were left if the window is open. -/
theorem admissions_add_remaining_le (hb : y.bucket? key = some b)
    (hm : y.step (.own config) m = some y') (hs : Segment config key y' y'') :
    ∃ b'', y''.bucket? key = some b'' ∧
      y''.admissions key + b''.remaining ≤ y.admissions key + y.installed key b m := by
  obtain ⟨b', hb', hle⟩ := step_budget hb hm
  obtain ⟨b'', hb'', hle'⟩ := hs.budget hb'
  exact ⟨b'', hb'', by omega⟩

/-- A caller finds a window of two tokens ended and takes one of two; a late response
    that tells of two tokens left does not bring it back, and the next request takes
    the other. -/
theorem admissions_add_remaining_le_two :
    ∃ y y' y'' : Traffic MemoryAccounts, y.bucket? "b" = some ⟨2, 0, some 5⟩ ∧
      y.step (.own {}) (.step 0) = some y' ∧ Segment {} "b" y' y'' ∧
      y.isBoundary "b" (.step 0) ∧ y''.admissions "b" = 2 ∧
      ∃ b'', y''.bucket? "b" = some b'' ∧
        y''.admissions "b" + b''.remaining ≤
          y.admissions "b" + y.installed "b" ⟨2, 0, some 5⟩ (.step 0) := by
  let y (b : Bucket) (tasks : List LimiterTask) (n : Nat) : Traffic MemoryAccounts :=
    ⟨⟨⟨[("b", b)]⟩, ∅, ∅, none⟩, 5, tasks, List.replicate n (.admitted "b")⟩
  have hlate : (y ⟨2, 1, none⟩ [] 1).step (.own {}) (.perform (.record "b" ⟨2, 2, 10⟩)) =
      some (y ⟨2, 1, some 15⟩ [] 1) := rfl
  have hs : Segment {} "b" (y ⟨2, 1, none⟩ [] 1) (y ⟨2, 0, some 15⟩ [] 2) :=
    .step _ hlate (by decide) (.step (.perform (.take "b")) rfl (by decide) (.refl _))
  exact ⟨y ⟨2, 0, some 5⟩ [.taking ⟨"b", 1, 0⟩] 0, _, _, rfl, rfl, hs, by decide, by decide,
    admissions_add_remaining_le rfl rfl hs⟩

end Traffic

end GatewayClient
