import GatewayClient.Proofs.RateLimit.Traffic

/-!
# Buckets under the operations of a store

What each operation of a store does to a bucket, for accounts in memory. All else
that is known of buckets over time follows from these.

* `Bucket.take_snd`: what a request leaves of a bucket.
* `MemoryAccounts.bucket_perform`: an operation changes the bucket that it names, in
  a way that depends on nothing but that bucket, and no other one.
* `MemoryAccounts.admissions_perform`: whether it admits a request.
-/

namespace GatewayClient

namespace Bucket

variable {b : Bucket} {now : Instant}

/-- A window is open as long as its end has not come. -/
theorem isOpen_iff : b.isOpen now ↔ ∀ reset, b.resetAt = some reset → now < reset := by
  cases hr : b.resetAt <;> simp [isOpen, hr]

theorem refill_of_isOpen (h : b.isOpen now) : b.refill now = b := by
  rw [isOpen_iff] at h
  cases hr : b.resetAt with
  | none => simp [refill, hr]
  | some reset => simp [refill, hr, Nat.not_le.2 (h reset hr)]

theorem refill_of_not_isOpen (h : ¬ b.isOpen now) :
    b.refill now = { b with remaining := b.limit, resetAt := none } := by
  cases hr : b.resetAt with
  | none => simp [isOpen, hr] at h
  | some reset => simp_all [isOpen, refill]

/-- A request finds the window open, since the client starts one itself otherwise. -/
theorem isOpen_refill (b : Bucket) (now : Instant) : (b.refill now).isOpen now := by
  by_cases h : b.isOpen now
  · rwa [refill_of_isOpen h]
  · rw [refill_of_not_isOpen h]
    rfl

theorem take_refill (b : Bucket) (now : Instant) : (b.refill now).take now = b.take now := by
  rw [take, refill_of_isOpen (b.isOpen_refill now), take]

/-- A request is granted exactly when there are tokens. -/
theorem take_fst_eq_granted_iff : (b.take now).1 = .granted ↔ 0 < (b.refill now).remaining := by
  simp only [take]
  split <;> simp_all

/-- A request leaves one token less, where there are any. -/
theorem take_snd : (b.take now).2 =
    { b.refill now with remaining := (b.refill now).remaining - 1 } := by
  simp only [take]
  split
  · rfl
  · have h : (b.refill now).remaining = 0 := by omega
    rw [h, Nat.zero_sub, ← h]

theorem remainingAfter_of_isOpen {u : BucketUpdate} (h : b.isOpen now) :
    b.remainingAfter u now = min u.remaining b.remaining := by
  simp [remainingAfter, h]

theorem remainingAfter_of_not_isOpen {u : BucketUpdate} (h : ¬ b.isOpen now) :
    b.remainingAfter u now = u.remaining := by
  simp [remainingAfter, h]

theorem take_limit (b : Bucket) (now : Instant) : (b.take now).2.limit = b.limit := by
  rw [take_snd]
  by_cases h : b.isOpen now
  · rw [refill_of_isOpen h]
  · rw [refill_of_not_isOpen h]

/-- A request has the tokens of a whole window when it comes after the end of one,
    and takes one of them if it is granted. -/
theorem take_add_remaining (b : Bucket) (now : Instant) :
    (decide ((b.take now).1 = .granted)).toNat + (b.take now).2.remaining =
      if b.isOpen now then b.remaining else b.limit := by
  have hremaining : (b.refill now).remaining = if b.isOpen now then b.remaining else b.limit := by
    split
    · rw [refill_of_isOpen ‹_›]
    · rw [refill_of_not_isOpen ‹_›]
  rw [take_snd, ← hremaining]
  by_cases h : 0 < (b.refill now).remaining
  · simp only [take_fst_eq_granted_iff, h, decide_true, Bool.toNat_true]
    omega
  · simp only [take_fst_eq_granted_iff, h, decide_false, Bool.toNat_false]
    omega

/-- A response gives back no tokens as long as the window is open. -/
theorem remainingAfter_le (b : Bucket) (u : BucketUpdate) (now : Instant) :
    b.remainingAfter u now ≤ if b.isOpen now then b.remaining else u.remaining := by
  split
  · rw [remainingAfter_of_isOpen ‹_›]
    exact Nat.min_le_right _ _
  · exact Nat.le_of_eq (remainingAfter_of_not_isOpen ‹_›)

/-- A response never leaves more tokens than it reports. -/
theorem remainingAfter_le_report (b : Bucket) (u : BucketUpdate) (now : Instant) :
    b.remainingAfter u now ≤ u.remaining := by
  unfold remainingAfter
  split
  · exact Nat.min_le_left _ _
  · exact Nat.le_refl _

end Bucket

namespace StoreCall

/-- The bucket with a key after an operation. -/
def bucketAfter (key : String) (now : Instant) (b : Option Bucket) : StoreCall → Option Bucket
  | .take k => if k = key then b.map fun b => (b.take now).2 else b
  | .record k u =>
    if k = key then b.elim (Bucket.ofUpdate? u now) fun b => some (b.reported u now) else b
  | _ => b

/-- Whether an operation takes a token of the bucket with a key. A bucket of which
    nothing is known gives any number of them. -/
def takesFrom (key : String) (now : Instant) (b : Option Bucket) : StoreCall → Bool
  | .take k => k = key ∧ b.all fun b => (b.take now).1 = .granted
  | _ => false

end StoreCall

namespace MemoryAccounts

variable {m : MemoryAccounts} {now : Instant}

theorem get?_buckets_take (k key : String) :
    (m.take k now).2.buckets.get? key =
      (StoreCall.take k).bucketAfter key now (m.buckets.get? key) := by
  by_cases h : k = key
  · subst h
    cases hb : m.buckets.get? k <;> simp [take, StoreCall.bucketAfter, hb]
  · cases hb : m.buckets.get? k <;>
      simp [take, StoreCall.bucketAfter, hb, h, Table.get?_insert_of_ne]

theorem get?_buckets_record (k : String) (u : BucketUpdate) (key : String) :
    (m.record k u now).buckets.get? key =
      (StoreCall.record k u).bucketAfter key now (m.buckets.get? key) := by
  by_cases h : k = key
  · subst h
    cases hb : m.buckets.get? k with
    | none => cases hu : Bucket.ofUpdate? u now <;>
        simp [record, bucketAfter?, StoreCall.bucketAfter, hb, hu]
    | some b => simp [record, bucketAfter?, StoreCall.bucketAfter, hb]
  · cases hu : m.bucketAfter? k u now <;>
      simp [record, StoreCall.bucketAfter, hu, h, Table.get?_insert_of_ne]

/-- The bucket with a key after an operation, which depends on what it was before
    and on nothing else. -/
theorem bucket_perform (call : StoreCall) (key : String) :
    ((store.perform call).runAt now m).2.buckets.get? key =
      call.bucketAfter key now (m.buckets.get? key) := by
  cases call with
  | take k => simpa [Store.perform, store] using get?_buckets_take k key
  | record k u =>
    rw [← get?_buckets_record]
    simp only [Store.perform, store, bind_pure_comp, StoreAction.runAt_map, StoreAction.runAt_of]
  | lockout =>
    simp only [Store.perform, store, bind_pure_comp, StoreAction.runAt_map, StoreAction.runAt_of,
      lockout]
    split
    · split <;> rfl
    · rfl
  | lockOut d =>
    simp only [Store.perform, store, bind_pure_comp, StoreAction.runAt_map, StoreAction.runAt_of,
      lockOut?]
    split
    · rename_i m' hm
      obtain ⟨deadline, _, rfl⟩ := Option.map_eq_some_iff.1 hm
      split <;> rfl
    · rfl
  | bucketOf k => simp [Store.perform, store, StoreCall.bucketAfter]
  | learnBucket k name => simp [Store.perform, store, StoreCall.bucketAfter]
  | trySlot slot cooldown =>
    simp only [Store.perform, store, bind_pure_comp, StoreAction.runAt_map, StoreAction.runAt_of,
      trySlot?]
    split
    · rename_i held m' hm
      split at hm
      · cases hm
        rfl
      · obtain ⟨free, _, hm⟩ := Option.map_eq_some_iff.1 hm
        cases hm
        rfl
    · rfl

/-- An operation admits a request exactly when it takes a token. -/
theorem admissions_perform (call : StoreCall) (key : String) :
    call.admissions key ((store.perform call).runAt now m).1 =
      (call.takesFrom key now (m.buckets.get? key)).toNat := by
  cases call with
  | take k =>
    simp only [Store.perform, store, bind_pure_comp, StoreAction.runAt_map, StoreAction.runAt_of,
      Except.map, take]
    by_cases h : k = key
    · subst h
      cases hb : m.buckets.get? k with
      | none => simp [StoreCall.admissions, StoreCall.notes, StoreCall.takesFrom,
          LimiterNote.isAdmission]
      | some b => cases hr : (b.take now).1 <;> simp [StoreCall.admissions, StoreCall.notes,
          StoreCall.takesFrom, LimiterNote.isAdmission, hr]
    · have hn : ∀ a, (StoreCall.take k).admissions key (.ok (.admission a)) = 0 := by
        intro a
        cases a <;> simp [StoreCall.admissions, StoreCall.notes, LimiterNote.isAdmission, h]
      simp [hn, StoreCall.takesFrom, h]
  | _ => rfl

end MemoryAccounts

end GatewayClient
