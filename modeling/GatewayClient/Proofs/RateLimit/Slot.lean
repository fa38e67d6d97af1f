import GatewayClient.RateLimit.Handshakes

/-!
# One handshake slot

What happens to one handshake slot while shards wait for it. A slot that is taken is
held for a cooldown, and whoever finds it held waits until it is free. So all shards
that wait for it wake at the same instant, one of them takes it, and the others wait
for another cooldown, whichever that one is.

* `SlotView.Step`: what can happen to the slot.
* `SlotView.IsSpaced`: between two shards that are given the slot lies a cooldown.
* `SlotView.IsPunctual`: nobody sleeps longer than the slot is held.
* `SlotView.Run.exists_isServed`: shards that wait for the slot are given it one by one,
  a cooldown apart, from the instant on at which it is free.
-/

namespace GatewayClient

/-- What can be seen of one handshake slot. -/
structure SlotView where
  now : Instant
  /-- Until when it is held, or was. -/
  held : Option Instant
  waiters : List SlotWaiter
  /-- How the waits for it have ended so far, in this order. -/
  answers : List SlotAnswer

namespace SlotView

/-- When the slot is free, if nobody takes it. -/
def free (v : SlotView) : Instant := max v.now (v.held.getD 0)

/-- The waits that have ended with the slot, in this order. -/
def grants (v : SlotView) : List SlotAnswer := v.answers.filter (·.result.toBool)

/-- What can happen to a slot that stays taken for `cooldown`, with the shards that come
    to it. -/
inductive Step (cooldown : Duration) : SlotView → List Nat → SlotView → Prop
  /-- Something else happens. -/
  | other (v : SlotView) : Step cooldown v [] v
  | arrives (v : SlotView) (shard : Nat) :
    Step cooldown v [shard] { v with waiters := v.waiters ++ [⟨shard, v.now⟩] }
  /-- Time passes, though not beyond the end of a wait. -/
  | passes (v : SlotView) (d : Duration) : (∀ w ∈ v.waiters, v.now + d ≤ w.wake) →
    Step cooldown v [] { v with now := v.now + d }
  /-- A shard finds the slot held. -/
  | sleeps (v : SlotView) (front : List SlotWaiter) (w : SlotWaiter) (back : List SlotWaiter) :
    v.waiters = front ++ w :: back → w.wake ≤ v.now → v.now < v.free →
      Step cooldown v [] { v with waiters := front ++ ⟨w.shard, v.free⟩ :: back }
  /-- A shard finds the slot free and takes it. -/
  | takes (v : SlotView) (front : List SlotWaiter) (w : SlotWaiter) (back : List SlotWaiter) :
    v.waiters = front ++ w :: back → w.wake ≤ v.now → v.free = v.now →
      v.now + cooldown < Instant.limit →
      Step cooldown v []
        { v with
          held := some (v.now + cooldown)
          waiters := front ++ back
          answers := v.answers ++ [⟨w.shard, v.now, .ok ()⟩] }
  /-- A shard finds the slot free, but could not hold it until an instant of the clock. -/
  | fails (v : SlotView) (front : List SlotWaiter) (w : SlotWaiter) (back : List SlotWaiter) :
    v.waiters = front ++ w :: back → w.wake ≤ v.now → v.free = v.now →
      Instant.limit ≤ v.now + cooldown →
      Step cooldown v []
        { v with
          waiters := front ++ back
          answers := v.answers ++ [⟨w.shard, v.now, .error .clockOverflow⟩] }

/-- Some steps, one after the other, with the shards that come meanwhile. -/
inductive Run (cooldown : Duration) (v : SlotView) : List Nat → SlotView → Prop
  | refl : Run cooldown v [] v
  | step {v' v'' : SlotView} {comers comers' : List Nat} :
    Run cooldown v comers v' → Step cooldown v' comers' v'' →
      Run cooldown v (comers ++ comers') v''

variable {cooldown : Duration} {v v' v'' : SlotView} {comers comers' : List Nat}

/-- A run that comes after a step. -/
theorem Run.head (hstep : Step cooldown v comers v') (hrun : Run cooldown v' comers' v'') :
    Run cooldown v (comers ++ comers') v'' := by
  induction hrun with
  | refl => simpa using Run.refl.step hstep
  | step _ hlast ih =>
    rw [← List.append_assoc]
    exact ih.step hlast

theorem now_le_free (v : SlotView) : v.now ≤ v.free := Nat.le_max_left _ _

/-- A slot is never free earlier than it was to be. -/
theorem Step.free_le (h : Step cooldown v comers v') : v.free ≤ v'.free := by
  cases h with
  | passes d _ =>
    simp only [free]
    lia
  | takes front w back _ _ hfree _ =>
    rw [hfree]
    simp only [free]
    lia
  | _ => exact Nat.le_refl _

/-! ## Spacing -/

/-- Between two shards that were given the slot lies a cooldown, and it stays held for
    as long after the last of them. -/
structure IsSpaced (cooldown : Duration) (v : SlotView) : Prop where
  pairwise : (v.grants.map SlotAnswer.time).Pairwise fun a b => a + cooldown ≤ b
  le_free : ∀ a ∈ v.grants, a.time + cooldown ≤ v.free

theorem grants_append (v : SlotView) (a : SlotAnswer) :
    { v with answers := v.answers ++ [a] }.grants = v.grants ++ [a].filter (·.result.toBool) :=
  List.filter_append ..

theorem IsSpaced.step (hv : v.IsSpaced cooldown) (h : Step cooldown v comers v') :
    v'.IsSpaced cooldown := by
  have hsame : v'.grants = v.grants → v'.IsSpaced cooldown := fun hgrants =>
    ⟨hgrants ▸ hv.pairwise, fun a ha => Nat.le_trans (hv.le_free a (hgrants ▸ ha)) h.free_le⟩
  cases h with
  | takes front w back hwaiters hwake hfree hroom =>
    have h := Step.takes v front w back hwaiters hwake hfree hroom
    -- All grants so far are a cooldown old, since the slot is free now.
    have hgrants : SlotView.grants ⟨v.now, some (v.now + cooldown), front ++ back,
        v.answers ++ [⟨w.shard, v.now, .ok ()⟩]⟩ = v.grants ++ [⟨w.shard, v.now, .ok ()⟩] :=
      grants_append v _
    refine ⟨?_, ?_⟩
    · rw [hgrants, List.map_append, List.pairwise_append]
      refine ⟨hv.pairwise, List.pairwise_singleton _ _, ?_⟩
      intro a ha b hb
      obtain ⟨g, hg, rfl⟩ := List.mem_map.1 ha
      rw [List.map_singleton, List.mem_singleton] at hb
      rw [hb, ← hfree]
      exact hv.le_free g hg
    · intro a ha
      rw [hgrants, List.mem_append, List.mem_singleton] at ha
      rcases ha with ha | rfl
      · exact Nat.le_trans (hv.le_free a ha) h.free_le
      · exact Nat.le_max_right _ _
  | fails front w back _ _ _ _ => exact hsame ((grants_append v _).trans (List.append_nil _))
  | _ => exact hsame rfl

/-! ## Waits -/

/-- Each wait ends when the slot is free at the latest, and none has ended without a
    turn. -/
def IsPunctual (v : SlotView) : Prop := ∀ w ∈ v.waiters, v.now ≤ w.wake ∧ w.wake ≤ v.free

theorem IsPunctual.step (hv : v.IsPunctual) (h : Step cooldown v comers v') :
    v'.IsPunctual := by
  have hle := h.free_le
  cases h with
  | other => exact hv
  | arrives shard =>
    intro w hw
    rcases List.mem_append.1 hw with hw | hw
    · exact hv w hw
    · rw [List.mem_singleton.1 hw]
      exact ⟨Nat.le_refl _, now_le_free _⟩
  | passes d hd => exact fun w hw => ⟨hd w hw, Nat.le_trans (hv w hw).2 hle⟩
  | sleeps front w back hwaiters _ hheld =>
    intro w' hw'
    rcases List.mem_append.1 hw' with hw' | hw'
    · exact hv w' (by simp [hwaiters, hw'])
    · rcases List.mem_cons.1 hw' with rfl | hw'
      · exact ⟨Nat.le_of_lt hheld, Nat.le_refl _⟩
      · exact hv w' (by simp [hwaiters, hw'])
  | takes front w back hwaiters _ _ _ =>
    intro w' hw'
    have hold := hv w' (by rw [hwaiters]; exact List.mem_append.2 ((List.mem_append.1 hw').imp_right
      (List.mem_cons_of_mem w)))
    exact ⟨hold.1, Nat.le_trans hold.2 hle⟩
  | fails front w back hwaiters _ _ _ =>
    intro w' hw'
    exact hv w' (by rw [hwaiters]; exact List.mem_append.2 ((List.mem_append.1 hw').imp_right
      (List.mem_cons_of_mem w)))

/-! ## Service -/

/-- What has become meanwhile of the shards that waited for a slot: those whose waits have
    ended, in this order, were given the slot one cooldown after the other from the
    instant on at which it was free. The others still wait, and the slot is free for the
    next of them a cooldown after the last. -/
structure IsServed (cooldown : Duration) (v v' : SlotView) (ended : List SlotAnswer) : Prop where
  answers : v'.answers = v.answers ++ ended
  granted : ∀ a ∈ ended, a.result = .ok ()
  times : ended.map SlotAnswer.time =
    (List.range ended.length).map fun i => v.free + i * cooldown
  shards : (ended.map SlotAnswer.shard ++ v'.waiters.map SlotWaiter.shard).Perm
    (v.waiters.map SlotWaiter.shard)
  free : v'.waiters ≠ [] → v'.free = v.free + ended.length * cooldown

theorem IsServed.refl (cooldown : Duration) (v : SlotView) : IsServed cooldown v v [] where
  answers := (List.append_nil _).symm
  granted := nofun
  times := rfl
  shards := .refl _
  free _ := by simp

/-- Nobody is lost. -/
theorem IsServed.length_add {ended : List SlotAnswer} (h : IsServed cooldown v v' ended) :
    ended.length + v'.waiters.length = v.waiters.length := by
  simpa using h.shards.length_eq

/-- A wait that ends with the slot is the next one. -/
theorem IsServed.takes {ended : List SlotAnswer} {front back : List SlotWaiter} {w : SlotWaiter}
    (h : IsServed cooldown v v' ended) (hwaiters : v'.waiters = front ++ w :: back)
    (hfree : v'.free = v'.now) :
    IsServed cooldown v
      ⟨v'.now, some (v'.now + cooldown), front ++ back,
        v'.answers ++ [⟨w.shard, v'.now, .ok ()⟩]⟩
      (ended ++ [⟨w.shard, v'.now, .ok ()⟩]) := by
  have hnow : v'.now = v.free + ended.length * cooldown := by
    rw [← hfree]
    exact h.free (by simp [hwaiters])
  have hlength (a : SlotAnswer) : (ended ++ [a]).length = ended.length + 1 := List.length_append
  refine ⟨?_, ?_, ?_, ?_, fun _ => ?_⟩
  · rw [h.answers, List.append_assoc]
  · intro a ha
    rcases List.mem_append.1 ha with ha | ha
    · exact h.granted a ha
    · rw [List.mem_singleton.1 ha]
  · rw [hlength, List.range_succ, List.map_append, List.map_append, h.times, List.map_singleton,
      List.map_singleton, hnow]
  · have hshards := h.shards
    rw [hwaiters] at hshards
    refine List.Perm.trans ?_ hshards
    simp only [List.map_append, List.map_cons, List.map_nil, List.append_assoc, List.singleton_append]
    exact List.Perm.append_left _ List.perm_middle.symm
  · rw [hlength, Nat.add_mul, Nat.one_mul, ← Nat.add_assoc, ← hnow]
    exact Nat.max_eq_right (Nat.le_add_right _ _)

/-- The step lemma: as long as no shard comes, and the clock reaches the instants until
    which the slot will be held, whoever waits is served. -/
theorem IsServed.step {ended : List SlotAnswer} (h : IsServed cooldown v v' ended)
    (hpunctual : v'.IsPunctual)
    (hlimit : v.free + v.waiters.length * cooldown < Instant.limit)
    (hstep : Step cooldown v' [] v'') : ∃ ended, IsServed cooldown v v'' ended := by
  cases hstep with
  | other => exact ⟨ended, h⟩
  | passes d hd =>
    refine ⟨ended, h.answers, h.granted, h.times, h.shards, fun hwaiters => ?_⟩
    -- Someone waits, though not longer than the slot is held, so it is still held.
    obtain ⟨w, hw⟩ := List.exists_mem_of_ne_nil _ hwaiters
    have hwake := Nat.le_trans (hd w hw) (hpunctual w hw).2
    rw [← h.free hwaiters]
    simp only [SlotView.free] at hwake ⊢
    lia
  | sleeps front w back hwaiters _ _ =>
    refine ⟨ended, h.answers, h.granted, h.times, ?_, fun _ => h.free (by simp [hwaiters])⟩
    have hshards := h.shards
    rw [hwaiters] at hshards
    simpa using hshards
  | takes front w back hwaiters _ hfree _ => exact ⟨_, h.takes hwaiters hfree⟩
  | fails front w back hwaiters _ hfree hover =>
    -- There is room on the clock for one more cooldown, since one more shard waits.
    have hnow := h.free (by simp [hwaiters])
    have hlength := h.length_add
    rw [hwaiters, List.length_append, List.length_cons] at hlength
    have hroom : (ended.length + 1) * cooldown ≤ v.waiters.length * cooldown :=
      Nat.mul_le_mul_right _ (by omega)
    rw [Nat.add_mul, Nat.one_mul] at hroom
    lia

/-- The run lemma. -/
theorem Run.exists_isServed (h : Run cooldown v comers v') (hcomers : comers = [])
    (hpunctual : v.IsPunctual)
    (hlimit : v.free + v.waiters.length * cooldown < Instant.limit) :
    v'.IsPunctual ∧ ∃ ended, IsServed cooldown v v' ended := by
  induction h with
  | refl => exact ⟨hpunctual, [], .refl cooldown v⟩
  | step _ hstep ih =>
    obtain ⟨rfl, rfl⟩ := List.append_eq_nil_iff.1 hcomers
    obtain ⟨hpunctual', ended, hserved⟩ := ih rfl
    exact ⟨hpunctual'.step hstep, hserved.step hpunctual' hlimit hstep⟩

end SlotView

end GatewayClient
