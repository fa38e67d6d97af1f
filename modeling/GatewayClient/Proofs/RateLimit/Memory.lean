import GatewayClient.RateLimit.Traffic

/-!
# Accounts in memory under the operations of a store

What an operation answers and leaves of accounts in memory. Each changes one thing at
most, and what it makes of that depends on nothing else.

* `MemoryAccounts.keyOf`: where a route is accounted for.
* `MemoryAccounts.perform_take` and those after it: the answers.
* `MemoryAccounts.names_perform`, `MemoryAccounts.slots_perform`,
  `MemoryAccounts.lockedUntil_perform`: what is left.
-/

namespace GatewayClient

namespace StoreCall

/-- The name of the bucket of a route after an operation. -/
def nameAfter (route : String) (known : Option String) : StoreCall → Option String
  | .learnBucket r name => if r = route then some name else known
  | _ => known

/-- Until when a handshake slot is held after an operation. -/
def slotAfter (slot : Nat) (now : Instant) (held : Option Instant) : StoreCall → Option Instant
  | .trySlot n cooldown =>
    if n = slot ∧ ¬ held.any (now < ·) then (Instant.after? now cooldown).or held else held
  | _ => held

/-- Until when the account is locked out after an operation. -/
def lockAfter (now : Instant) (lockedUntil : Option Instant) : StoreCall → Option Instant
  | .lockout => lockedUntil.filter (now < ·)
  | .lockOut d => (Instant.after? now d).elim lockedUntil fun deadline =>
    if lockedUntil.all (· < deadline) then some deadline else lockedUntil
  | _ => lockedUntil

end StoreCall

namespace MemoryAccounts

/-- The key under which a route is accounted for. -/
def keyOf (m : MemoryAccounts) (route : Route) : String :=
  (m.names.get? route.key).getD route.key

variable {m m' : MemoryAccounts} {now : Instant} {key route name : String} {u : BucketUpdate}
  {d : Duration} {slot : Nat} {held : Option Duration}

/-! ## Answers -/

theorem take_fst (m : MemoryAccounts) (key : String) (now : Instant) :
    (m.take key now).1 = (m.buckets.get? key).elim .granted fun b => (b.take now).1 := by
  unfold take
  cases m.buckets.get? key <;> rfl

theorem perform_take : (store.perform (.take key)).runAt now m =
    (.ok (.admission (m.take key now).1), (m.take key now).2) := rfl

theorem perform_record (h : (Instant.after? now u.resetAfter).isSome) :
    (store.perform (.record key u)).runAt now m = (.ok .entered, m.record key u now) := by
  simp only [Store.perform, store, bind_pure_comp, StoreAction.runAt_map, StoreAction.runAt_of, h,
    if_true, Except.map]

theorem perform_lockout : (store.perform .lockout).runAt now m =
    (.ok (.lockedFor (m.lockout now).1), (m.lockout now).2) := rfl

theorem perform_lockOut (h : m.lockOut? d now = some m') :
    (store.perform (.lockOut d)).runAt now m = (.ok .entered, m') := by
  simp only [Store.perform, store, bind_pure_comp, StoreAction.runAt_map, StoreAction.runAt_of, h,
    Except.map]

theorem perform_bucketOf : (store.perform (.bucketOf route)).runAt now m =
    (.ok (.name (m.names.get? route)), m) := rfl

theorem perform_learnBucket : (store.perform (.learnBucket route name)).runAt now m =
    (.ok .entered, { m with names := m.names.insert route name }) := rfl

theorem perform_trySlot (h : m.trySlot? slot d now = some (held, m')) :
    (store.perform (.trySlot slot d)).runAt now m = (.ok (.heldFor held), m') := by
  simp only [Store.perform, store, bind_pure_comp, StoreAction.runAt_map, StoreAction.runAt_of, h,
    Except.map]

/-! ## What is left -/

/-- What an operation leaves of the accounts. -/
theorem perform_snd (call : StoreCall) : ((store.perform call).runAt now m).2 =
    match call with
    | .take key => (m.take key now).2
    | .record key u => m.record key u now
    | .lockout => (m.lockout now).2
    | .lockOut d => (m.lockOut? d now).getD m
    | .bucketOf _ => m
    | .learnBucket route name => { m with names := m.names.insert route name }
    | .trySlot slot d => ((m.trySlot? slot d now).map Prod.snd).getD m := by
  cases call with
  | record key u =>
    simp only [Store.perform, store, bind_pure_comp, StoreAction.runAt_map, StoreAction.runAt_of]
  | lockOut d =>
    simp only [Store.perform, store, bind_pure_comp, StoreAction.runAt_map, StoreAction.runAt_of]
    cases m.lockOut? d now <;> rfl
  | trySlot slot d =>
    simp only [Store.perform, store, bind_pure_comp, StoreAction.runAt_map, StoreAction.runAt_of]
    cases m.trySlot? slot d now <;> rfl
  | _ => rfl

/-- Requests and reports are about buckets alone. -/
theorem exists_eq_take (m : MemoryAccounts) (key : String) (now : Instant) :
    ∃ buckets, (m.take key now).2 = { m with buckets } := by
  unfold take
  split
  · exact ⟨_, rfl⟩
  · exact ⟨_, rfl⟩

theorem exists_eq_record (m : MemoryAccounts) (key : String) (u : BucketUpdate) (now : Instant) :
    ∃ buckets, m.record key u now = { m with buckets } := by
  unfold record
  split
  · exact ⟨_, rfl⟩
  · exact ⟨_, rfl⟩

/-- How long the account is locked out is told as long as it is. -/
theorem lockout_fst (m : MemoryAccounts) (now : Instant) :
    (m.lockout now).1 = (m.lockedUntil.filter (now < ·)).map (· - now) := by
  obtain ⟨buckets, names, slots, lockedUntil⟩ := m
  cases lockedUntil with
  | none => rfl
  | some deadline => by_cases h : now < deadline <;> simp [lockout, h, Option.filter_some]

/-- A look at the lockout forgets it once it is over, and nothing else. -/
theorem lockout_snd (m : MemoryAccounts) (now : Instant) :
    (m.lockout now).2 = { m with lockedUntil := m.lockedUntil.filter (now < ·) } := by
  obtain ⟨buckets, names, slots, lockedUntil⟩ := m
  cases lockedUntil with
  | none => rfl
  | some deadline => by_cases h : now < deadline <;> simp [lockout, h, Option.filter_some]

theorem getD_lockOut? (m : MemoryAccounts) (d : Duration) (now : Instant) :
    (m.lockOut? d now).getD m =
      { m with lockedUntil := StoreCall.lockAfter now m.lockedUntil (.lockOut d) } := by
  simp only [lockOut?, StoreCall.lockAfter]
  cases Instant.after? now d with
  | none => rfl
  | some deadline =>
    simp only [Option.map_some, Option.getD_some, Option.elim]
    split <;> rfl

theorem getD_trySlot? (m : MemoryAccounts) (slot : Nat) (d : Duration) (now : Instant) :
    ∃ slots, ((m.trySlot? slot d now).map Prod.snd).getD m = { m with slots } ∧
      ∀ n, slots.get? n = StoreCall.slotAfter n now (m.slots.get? n) (.trySlot slot d) := by
  simp only [trySlot?, StoreCall.slotAfter]
  cases hheld : (m.slots.get? slot).filter (now < ·) with
  | some held =>
    obtain ⟨hget, hlt⟩ := Option.filter_eq_some_iff.1 hheld
    refine ⟨m.slots, rfl, fun n => (if_neg ?_).symm⟩
    rintro ⟨rfl, hfree⟩
    rw [hget] at hfree
    exact hfree hlt
  | none =>
    have hfree : ¬ (m.slots.get? slot).any (now < ·) := by
      rw [← Option.isSome_filter, hheld]
      exact Bool.false_ne_true
    cases Instant.after? now d with
    | none => exact ⟨m.slots, rfl, fun n => by simp⟩
    | some free =>
      refine ⟨m.slots.insert slot free, rfl, fun n => ?_⟩
      rw [Table.get?_insert]
      by_cases hn : slot = n
      · subst hn
        simp [hfree]
      · simp [hn]

/-- What each part of the accounts is after an operation. -/
theorem exists_perform_snd (m : MemoryAccounts) (now : Instant) (call : StoreCall) :
    ∃ buckets names slots, ((store.perform call).runAt now m).2 =
        ⟨buckets, names, slots, call.lockAfter now m.lockedUntil⟩ ∧
      ((∀ key, call ≠ .take key) → (∀ key u, call ≠ .record key u) → buckets = m.buckets) ∧
      (∀ route, names.get? route = call.nameAfter route (m.names.get? route)) ∧
      ∀ slot, slots.get? slot = call.slotAfter slot now (m.slots.get? slot) := by
  rw [perform_snd]
  cases call with
  | take key =>
    obtain ⟨buckets, h⟩ := exists_eq_take m key now
    exact ⟨buckets, _, _, h, fun htake _ => absurd rfl (htake key), fun _ => rfl, fun _ => rfl⟩
  | record key u =>
    obtain ⟨buckets, h⟩ := exists_eq_record m key u now
    exact ⟨buckets, _, _, h, fun _ hrecord => absurd rfl (hrecord key u), fun _ => rfl,
      fun _ => rfl⟩
  | lockout => exact ⟨_, _, _, lockout_snd m now, fun _ _ => rfl, fun _ => rfl, fun _ => rfl⟩
  | lockOut d => exact ⟨_, _, _, getD_lockOut? m d now, fun _ _ => rfl, fun _ => rfl, fun _ => rfl⟩
  | bucketOf r => exact ⟨_, _, _, rfl, fun _ _ => rfl, fun _ => rfl, fun _ => rfl⟩
  | learnBucket r name =>
    exact ⟨_, _, _, rfl, fun _ _ => rfl, fun route => m.names.get?_insert r route name,
      fun _ => rfl⟩
  | trySlot slot d =>
    obtain ⟨slots, h, hslots⟩ := getD_trySlot? m slot d now
    exact ⟨_, _, slots, h, fun _ _ => rfl, fun _ => rfl, hslots⟩

/-- Only requests and reports change what is known about buckets. -/
theorem buckets_perform {call : StoreCall} (htake : ∀ key, call ≠ .take key)
    (hrecord : ∀ key u, call ≠ .record key u) :
    ((store.perform call).runAt now m).2.buckets = m.buckets := by
  obtain ⟨buckets, names, slots, h, hbuckets, -, -⟩ := exists_perform_snd m now call
  rw [h]
  exact hbuckets htake hrecord

theorem names_perform (call : StoreCall) (route : String) :
    ((store.perform call).runAt now m).2.names.get? route =
      call.nameAfter route (m.names.get? route) := by
  obtain ⟨buckets, names, slots, h, -, hnames, -⟩ := exists_perform_snd m now call
  rw [h]
  exact hnames route

theorem names_of_perform {call : StoreCall} {reply : Except StoreError StoreReply}
    (h : (store.perform call).runAt now m = (reply, m')) (route : String) :
    m'.names.get? route = call.nameAfter route (m.names.get? route) := by
  rw [← names_perform call route, h]

theorem slots_perform (call : StoreCall) (slot : Nat) :
    ((store.perform call).runAt now m).2.slots.get? slot =
      call.slotAfter slot now (m.slots.get? slot) := by
  obtain ⟨buckets, names, slots, h, -, -, hslots⟩ := exists_perform_snd m now call
  rw [h]
  exact hslots slot

theorem lockedUntil_perform (call : StoreCall) :
    ((store.perform call).runAt now m).2.lockedUntil = call.lockAfter now m.lockedUntil := by
  obtain ⟨buckets, names, slots, h, -, -, -⟩ := exists_perform_snd m now call
  rw [h]

end MemoryAccounts

end GatewayClient
