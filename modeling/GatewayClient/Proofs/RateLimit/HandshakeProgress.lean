import GatewayClient.Proofs.RateLimit.Handshakes

/-!
# Everyone is given a slot at last

All shards that wait for a slot wake at the same instant, and all but one of them go to
sleep again. Still each turn is one of few: a shard that takes its turn is done or
sleeps until its slot is free, and then no other turn of it comes before that of another
shard has made it wait longer.

* `Handshakes.rank`: a bound on the turns that are left; `Handshakes.turns_add_rank_le`.
* `Handshakes.exists_run_waiters_eq_nil`: everyone's wait can end, wherever a run has
  got to.
* `Handshakes.IsReachable.answers`: a wait that has ended has ended with the slot, as
  long as the clock goes on for a cooldown.
* `Handshakes.IsFair`: what the shards that wait for a slot can rely on.
-/

namespace GatewayClient

namespace Handshakes

variable {config : LimiterConfig} {y y' z : Handshakes MemoryAccounts} {moves : List SlotMove}

/-! ## A bound on the turns -/

/-- Whether a shard wakes before its slot is free, so that it will have to sleep again. -/
def isEarly (config : LimiterConfig) (y : Handshakes MemoryAccounts) (w : SlotWaiter) : Bool :=
  w.wake < y.freeAt (config.slotOf w.shard)

/-- A bound on the turns that are left: each shard that is given its slot may make all
    others sleep again. -/
def rank (config : LimiterConfig) (y : Handshakes MemoryAccounts) : Nat :=
  y.waiters.length * y.waiters.length + y.waiters.countP (y.isEarly config)

/-- A turn that ends a wait makes up for all the others that it makes sleep again. -/
theorem rank_lt_of_length (h : y'.waiters.length + 1 = y.waiters.length) :
    y'.rank config < y.rank config := by
  have hearly : y'.waiters.countP (y'.isEarly config) ≤ y'.waiters.length := List.countP_le_length
  simp only [rank, ← h, Nat.add_mul, Nat.mul_add]
  omega

/-- The step lemma: a turn uses up one of those that are left. -/
theorem rank_lt_of_turned {front back : List SlotWaiter} {w : SlotWaiter}
    (hwaiters : y.waiters = front ++ w :: back) (hwake : w.wake ≤ y.now)
    (h : Turned config y front w back y') : y'.rank config < y.rank config := by
  cases h with
  | sleeps hheld =>
    -- The shard wakes when its slot is free from now on, and nothing else has changed.
    have hbefore : y.isEarly config w := by
      simpa [isEarly] using Nat.lt_of_le_of_lt hwake hheld
    have hafter : ¬ y.isEarly config ⟨w.shard, y.freeAt (config.slotOf w.shard)⟩ := by
      simp [isEarly]
    have hsame : ∀ ws, isEarly config { y with waiters := ws } = y.isEarly config := fun _ => rfl
    simp only [rank, hsame, hwaiters, List.length_append, List.length_cons, List.countP_append,
      List.countP_cons_of_pos hbefore, List.countP_cons_of_neg hafter]
    omega
  | takes _ _ => exact rank_lt_of_length (by simp [hwaiters]; omega)
  | fails _ _ => exact rank_lt_of_length (by simp [hwaiters]; omega)

/-- No shard comes to wake too early while time passes, since no wait ends meanwhile. -/
theorem rank_le_of_advance {d : Duration} (h : ∀ w ∈ y.waiters, y.now + d ≤ w.wake) :
    rank config { y with now := y.now + d } ≤ y.rank config := by
  refine Nat.add_le_add_left (List.countP_mono_left fun w hw hearly => ?_) _
  have hle := h w hw
  simp only [isEarly, freeAt] at hearly ⊢
  lia

/-- Turns use up what is left of them, and without shards that come nothing adds to it. -/
theorem rank_of_step {m : SlotMove} (hcomer : m.comer? = none)
    (h : y.step (.own config) m = some y') :
    [m].countP SlotMove.isTurn + y'.rank config ≤ y.rank config := by
  cases m with
  | arrive shard => cases hcomer
  | turn i =>
    obtain ⟨front, w, back, hwaiters, hwake, hturned⟩ := exists_turned_of_step h
    have hlt := rank_lt_of_turned hwaiters hwake hturned
    simp only [SlotMove.isTurn, List.countP_singleton, if_true]
    omega
  | perform call =>
    obtain ⟨accounts, rfl, hslots⟩ := exists_accounts_of_perform h
    have hearly : isEarly config { y with accounts } = y.isEarly config := by
      funext w
      simp only [isEarly, freeAt, hslots]
      rfl
    simp [rank, hearly, SlotMove.isTurn]
  | advance d =>
    obtain ⟨rfl, hd⟩ := eq_of_advance h
    simpa [SlotMove.isTurn] using rank_le_of_advance hd

/-- The run lemma: as long as no shard comes, there are only so many turns. -/
theorem turns_add_rank_le (hcomers : moves.filterMap SlotMove.comer? = [])
    (h : y.run (.own config) moves = some z) :
    moves.countP SlotMove.isTurn + z.rank config ≤ y.rank config := by
  induction moves generalizing y with
  | nil =>
    cases h
    simp
  | cons m rest ih =>
    obtain ⟨y', hstep, hrest⟩ := Option.bind_eq_some_iff.1 h
    have hnone : ∀ m' ∈ m :: rest, m'.comer? = none := List.filterMap_eq_nil_iff.1 hcomers
    have hhead := rank_of_step (hnone m List.mem_cons_self) hstep
    have htail := ih (List.filterMap_eq_nil_iff.2 fun m' hm' =>
      hnone m' (List.mem_cons_of_mem m hm')) hrest
    rw [← List.singleton_append, List.countP_append]
    omega

/-! ## Everyone's turn -/

/-- As long as someone waits there is a next turn, that of whoever wakes first. -/
theorem exists_turn (hy : IsReachable config y) (hwaiters : y.waiters ≠ []) :
    ∃ d i z, y.run (.own config) [.advance d, .turn i] = some z := by
  have hmem : y.waiters.minOn SlotWaiter.wake hwaiters ∈ y.waiters := List.minOn_mem
  have hfirst : ∀ w ∈ y.waiters, (y.waiters.minOn SlotWaiter.wake hwaiters).wake ≤ w.wake :=
    fun w hw => List.apply_minOn_le_of_mem hw
  generalize y.waiters.minOn SlotWaiter.wake hwaiters = w at hmem hfirst
  obtain ⟨front, back, hsplit⟩ := List.append_of_mem hmem
  have hnow : y.now ≤ w.wake :=
    ((hy.view (config.slotOf w.shard)).2 w (List.mem_filter.2 ⟨hmem, by simp⟩)).1
  have hwake : y.now + (w.wake - y.now) = w.wake := Nat.add_sub_of_le hnow
  let y₁ : Handshakes MemoryAccounts := { y with now := w.wake }
  have hstep : y.step (.own config) (.advance (w.wake - y.now)) = some y₁ := by
    rw [step, hwake, if_pos hfirst]
  obtain ⟨z, hturn, -⟩ : ∃ z, y₁.step (.own config) (.turn front.length) = some z ∧
      Turned config y₁ front w back z := exists_step_turned hsplit (Nat.le_refl _)
  refine ⟨w.wake - y.now, front.length, z, ?_⟩
  rw [run, hstep, Option.bind_some, run, hturn]
  rfl

/-- Everyone's wait can end, if no others come: no shard is ever lost. -/
theorem exists_run_waiters_eq_nil (hy : IsReachable config y) :
    ∃ moves z, y.run (.own config) moves = some z ∧ moves.filterMap SlotMove.comer? = [] ∧
      z.waiters = [] := by
  generalize hn : y.rank config = n
  induction n using Nat.strongRecOn generalizing y with
  | ind n ih =>
    by_cases hwaiters : y.waiters = []
    · exact ⟨[], y, rfl, rfl, hwaiters⟩
    · obtain ⟨d, i, y', hrun⟩ := exists_turn hy hwaiters
      have hrank : [SlotMove.advance d, .turn i].countP SlotMove.isTurn + y'.rank config ≤
          y.rank config := turns_add_rank_le rfl hrun
      have hturns : [SlotMove.advance d, .turn i].countP SlotMove.isTurn = 1 := rfl
      obtain ⟨moves, z, hrest, hcomers, hz⟩ := ih (y'.rank config) (by omega) (hy.run hrun) rfl
      refine ⟨[.advance d, .turn i] ++ moves, z, run_append hrun hrest, ?_, hz⟩
      rw [List.filterMap_append, hcomers]
      rfl

/-! ## Whose waits have ended -/

/-- How a wait has ended: with the slot, if the clock goes on until it is free again. -/
theorem IsReachable.answers (hy : IsReachable config y) : ∀ a ∈ y.answers, a.time ≤ y.now ∧
    a.result = if a.time + config.identifyCooldown < Instant.limit then .ok ()
      else .error .clockOverflow := by
  induction hy with
  | start accounts now => exact nofun
  | @step y y' m _ h ih =>
    cases m with
    | arrive shard =>
      cases h
      exact ih
    | turn i =>
      obtain ⟨front, w, back, -, -, hturned⟩ := exists_turned_of_step h
      cases hturned with
      | sleeps _ => exact ih
      | takes _ hroom =>
        intro a ha
        rcases List.mem_append.1 ha with ha | ha
        · exact ih a ha
        · rw [List.mem_singleton.1 ha, if_pos hroom]
          exact ⟨Nat.le_refl _, rfl⟩
      | fails _ hover =>
        intro a ha
        rcases List.mem_append.1 ha with ha | ha
        · exact ih a ha
        · rw [List.mem_singleton.1 ha, if_neg (Nat.not_lt.2 hover)]
          exact ⟨Nat.le_refl _, rfl⟩
    | perform call =>
      obtain ⟨accounts, rfl, -⟩ := exists_accounts_of_perform h
      exact ih
    | advance d =>
      obtain ⟨rfl, -⟩ := eq_of_advance h
      exact fun a ha => ⟨Nat.le_add_right_of_le (ih a ha).1, (ih a ha).2⟩

/-- The shards whose waits have ended, and those that wait. -/
def shards (y : Handshakes MemoryAccounts) : List Nat :=
  y.answers.map SlotAnswer.shard ++ y.waiters.map SlotWaiter.shard

theorem shards_of_step {m : SlotMove} (h : y.step (.own config) m = some y') :
    y'.shards.Perm (y.shards ++ m.comer?.toList) := by
  cases m with
  | arrive shard =>
    cases h
    simp [shards, SlotMove.comer?]
  | turn i =>
    obtain ⟨front, w, back, hwaiters, -, hturned⟩ := exists_turned_of_step h
    cases hturned <;> simp [shards, SlotMove.comer?, hwaiters, List.perm_middle.symm.append_left]
  | perform call =>
    obtain ⟨accounts, rfl, -⟩ := exists_accounts_of_perform h
    simp [shards, SlotMove.comer?]
  | advance d =>
    obtain ⟨rfl, -⟩ := eq_of_advance h
    simp [shards, SlotMove.comer?]

/-- Each shard that comes waits, until its wait has ended. -/
theorem shards_of_run (h : y.run (.own config) moves = some z) :
    z.shards.Perm (y.shards ++ moves.filterMap SlotMove.comer?) := by
  induction moves generalizing y with
  | nil =>
    cases h
    simp
  | cons m rest ih =>
    obtain ⟨y', hstep, hrest⟩ := Option.bind_eq_some_iff.1 h
    have hhead := (shards_of_step hstep).append_right (rest.filterMap SlotMove.comer?)
    refine (ih hrest).trans ?_
    cases hm : m.comer? with
    | none => simpa [hm] using hhead
    | some shard => simpa [hm] using hhead

/-! ## What a shard can rely on -/

theorem grants_view (config : LimiterConfig) (slot : Nat) (y : Handshakes MemoryAccounts) :
    (y.view config slot).grants = y.grants config slot := by
  simp only [SlotView.grants, view, grants, List.filter_filter, Bool.decide_and,
    Bool.decide_eq_true, Bool.and_comm]

/-- What the shards that wait for a slot can rely on. -/
structure IsFair (config : LimiterConfig) (slot : Nat) (y : Handshakes MemoryAccounts) : Prop where
  /-- Between two shards that were given the slot lies a cooldown. -/
  spaced : ((y.grants config slot).map SlotAnswer.time).Pairwise
    fun a b => a + config.identifyCooldown ≤ b
  /-- All that happens to them from now on could happen just so if no shards waited for
      other slots, and nobody else used the store. -/
  undelayed : ∀ moves z, y.run (.own config) moves = some z →
    ∃ moves' z', (y.only config slot).run (.own config) moves' = some z' ∧
      z'.view config slot = z.view config slot ∧ (∀ m ∈ moves', config.isOwn slot m) ∧
      config.comers slot moves' = config.comers slot moves
  /-- If no others come, they are given the slot one cooldown after the other from the
      instant on at which it is free, and no time passes beyond the next of these instants
      while someone still waits. -/
  served : ∀ moves z, y.run (.own config) moves = some z → config.comers slot moves = [] →
    y.freeAt slot + (y.waiting config slot).length * config.identifyCooldown <
      Instant.limit →
    ∃ ended, SlotView.IsServed config.identifyCooldown (y.view config slot) (z.view config slot)
        ended ∧
      (z.waiting config slot ≠ [] →
        z.now ≤ y.freeAt slot + ended.length * config.identifyCooldown)
  /-- If no others come, there are only so many turns, -/
  bounded : ∃ turns, ∀ moves z, y.run (.own config) moves = some z →
    moves.filterMap SlotMove.comer? = [] → moves.countP SlotMove.isTurn ≤ turns
  /-- and they can be taken until nobody waits. -/
  complete : ∃ moves z, y.run (.own config) moves = some z ∧
    moves.filterMap SlotMove.comer? = [] ∧ z.waiters = []

theorem IsReachable.isFair (hy : IsReachable config y) (slot : Nat) : y.IsFair config slot where
  spaced := by
    rw [← grants_view]
    exact (hy.view slot).1.pairwise
  undelayed _ _ hrun := exists_run_only hrun slot
  served moves z hrun hcomers hlimit := by
    have hwaiting : (y.view config slot).waiters.length = (y.waiting config slot).length :=
      (List.length_map _).symm
    obtain ⟨hpunctual, ended, hserved⟩ := (view_of_run hrun slot).exists_isServed hcomers
      (hy.view slot).2 (by rw [hwaiting]; exact hlimit)
    refine ⟨ended, hserved, fun hz => ?_⟩
    have hne : (z.view config slot).waiters ≠ [] := fun h => hz (List.map_eq_nil_iff.2 h)
    obtain ⟨w, hw⟩ := List.exists_mem_of_ne_nil _ hne
    have hfree : (z.view config slot).free =
        y.freeAt slot + ended.length * config.identifyCooldown := hserved.free hne
    exact hfree ▸ Nat.le_trans (hpunctual w hw).1 (hpunctual w hw).2
  bounded := by
    refine ⟨y.rank config, fun moves z hrun hcomers => ?_⟩
    exact Nat.le_trans (Nat.le_add_right _ _) (turns_add_rank_le hcomers hrun)
  complete := exists_run_waiters_eq_nil hy

end Handshakes

end GatewayClient
