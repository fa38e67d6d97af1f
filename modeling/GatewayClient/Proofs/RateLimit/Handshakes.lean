import GatewayClient.Proofs.RateLimit.Memory
import GatewayClient.Proofs.RateLimit.Slot
import GatewayClient.Proofs.RateLimit.Window

/-!
# Shards that wait for their handshake slots

Shards wait for several slots at once, and each of them sees its own slot only: what
happens to the shards of a slot is what could happen to them if no others were there.
So all that holds of one slot (`SlotView`) holds of each.

* `Handshakes.view`: what can be seen of a slot; `Handshakes.view_of_run`: what happens
  to it in a run.
* `Handshakes.exists_run_only`: the shards of the other slots make no difference.
* `Handshakes.exists_run_waiters_eq_nil`: everyone's wait can end.
-/

namespace GatewayClient

/-- The shards of a slot that come in some moves. -/
def LimiterConfig.comers (config : LimiterConfig) (slot : Nat) (moves : List SlotMove) : List Nat :=
  (moves.filterMap SlotMove.comer?).filter fun shard => config.slotOf shard = slot

/-- Whether a move is one of the shards of a slot, or of the clock. -/
def LimiterConfig.isOwn (config : LimiterConfig) (slot : Nat) : SlotMove → Bool
  | .arrive shard => config.slotOf shard = slot
  | .perform _ => false
  | _ => true

namespace Handshakes

/-- What a limiter with accounts of its own can come to, whatever they are at first. -/
inductive IsReachable (config : LimiterConfig) : Handshakes MemoryAccounts → Prop
  | start (accounts : MemoryAccounts) (now : Instant) : IsReachable config ⟨accounts, now, [], []⟩
  | step {y y' : Handshakes MemoryAccounts} (m : SlotMove) :
    IsReachable config y → y.step (.own config) m = some y' → IsReachable config y'

/-- What can be seen of a slot. -/
def view (config : LimiterConfig) (slot : Nat) (y : Handshakes MemoryAccounts) : SlotView where
  now := y.now
  held := y.accounts.slots.get? slot
  waiters := y.waiters.filter fun w => config.slotOf w.shard = slot
  answers := y.answers.filter fun a => config.slotOf a.shard = slot

/-- A limiter without the shards of other slots. -/
def only (config : LimiterConfig) (slot : Nat) (y : Handshakes MemoryAccounts) :
    Handshakes MemoryAccounts :=
  { y with
    waiters := y.waiters.filter fun w => config.slotOf w.shard = slot
    answers := y.answers.filter fun a => config.slotOf a.shard = slot }

/-- What becomes of a shard that takes its turn, with those that wait before it and behind
    it. -/
inductive Turned (config : LimiterConfig) (y : Handshakes MemoryAccounts)
    (front : List SlotWaiter) (w : SlotWaiter) (back : List SlotWaiter) :
    Handshakes MemoryAccounts → Prop
  | sleeps : y.now < y.freeAt (config.slotOf w.shard) →
    Turned config y front w back
      { y with waiters := front ++ ⟨w.shard, y.freeAt (config.slotOf w.shard)⟩ :: back }
  | takes : y.freeAt (config.slotOf w.shard) = y.now →
    y.now + config.identifyCooldown < Instant.limit →
    Turned config y front w back
      { y with
        accounts.slots :=
          y.accounts.slots.insert (config.slotOf w.shard) (y.now + config.identifyCooldown)
        waiters := front ++ back
        answers := y.answers ++ [⟨w.shard, y.now, .ok ()⟩] }
  | fails : y.freeAt (config.slotOf w.shard) = y.now →
    Instant.limit ≤ y.now + config.identifyCooldown →
    Turned config y front w back
      { y with
        waiters := front ++ back
        answers := y.answers ++ [⟨w.shard, y.now, .error .clockOverflow⟩] }

end Handshakes

/-! ## Turns -/

namespace MemoryAccounts

variable {m : MemoryAccounts} {slot : Nat} {now : Instant}

theorem trySlot?_of_lt (cooldown : Duration) (h : now < max now ((m.slots.get? slot).getD 0)) :
    m.trySlot? slot cooldown now = some (some (max now ((m.slots.get? slot).getD 0) - now), m) := by
  cases hheld : m.slots.get? slot with
  | none => simp [hheld] at h
  | some held =>
    rw [hheld, Option.getD_some] at h
    have hlt : now < held := by grind
    rw [Option.getD_some, Nat.max_eq_right (Nat.le_of_lt hlt), trySlot?, hheld,
      Option.filter_some_pos (by simpa using hlt)]

theorem trySlot?_of_eq (cooldown : Duration) (h : max now ((m.slots.get? slot).getD 0) = now) :
    m.trySlot? slot cooldown now = (Instant.after? now cooldown).map fun free =>
      (none, { m with slots := m.slots.insert slot free }) := by
  have hfree : (m.slots.get? slot).filter (now < ·) = none := by
    cases hheld : m.slots.get? slot with
    | none => rfl
    | some held =>
      rw [hheld, Option.getD_some] at h
      have hle : held ≤ now := by grind
      simpa using hle
  simp only [trySlot?, hfree]

end MemoryAccounts

/-- A limiter asks for the slot of the shard. -/
theorem Limiter.slotOf_own (config : LimiterConfig) (shard : Nat) :
    (Limiter.own config).slotOf shard = config.slotOf shard := rfl

/-- A turn of a shard tries to take its slot. -/
theorem Limiter.identifyTurn_own (config : LimiterConfig) (shard : Nat) (now : Instant)
    (m : MemoryAccounts) :
    (Limiter.own config).identifyTurn shard now m =
      match m.trySlot? (config.slotOf shard) config.identifyCooldown now with
      | some (none, m) => (.done (.ok ()), m)
      | some (some d, m) => (.sleep shard d, m)
      | none => (.done (.error .clockOverflow), m) := by
  simp only [identifyTurn, tryIdentify, slotOf_own]
  simp only [own, MemoryAccounts.store, StoreAction.runAt_of]
  rcases m.trySlot? _ config.identifyCooldown now with _ | ⟨_ | d, m'⟩ <;> rfl

namespace Handshakes

variable {config : LimiterConfig} {slot : Nat} {y y' z : Handshakes MemoryAccounts}
  {moves : List SlotMove}

theorem now_le_freeAt (y : Handshakes MemoryAccounts) (slot : Nat) : y.now ≤ y.freeAt slot :=
  Nat.le_max_left _ _

theorem turned (config : LimiterConfig) (y : Handshakes MemoryAccounts)
    {front back : List SlotWaiter} {w : SlotWaiter} (hwaiters : y.waiters = front ++ w :: back) :
    Turned config y front w back (y.turn (.own config) front.length w) := by
  have htake : y.waiters.take front.length = front := by
    rw [hwaiters, List.take_left]
  have hdrop : y.waiters.drop (front.length + 1) = back := by
    rw [hwaiters, ← List.drop_drop, List.drop_left]
    rfl
  simp only [turn, Limiter.identifyTurn_own, htake, hdrop]
  rcases Nat.lt_or_eq_of_le (y.now_le_freeAt (config.slotOf w.shard)) with hlt | heq
  · have hwake : y.now + (y.freeAt (config.slotOf w.shard) - y.now) =
        y.freeAt (config.slotOf w.shard) := Nat.add_sub_of_le (Nat.le_of_lt hlt)
    rw [MemoryAccounts.trySlot?_of_lt _ hlt, ← freeAt]
    simp only [ofTurn, hwake, List.append_nil, List.append_assoc, List.singleton_append]
    exact .sleeps hlt
  · rw [MemoryAccounts.trySlot?_of_eq _ heq.symm, Instant.after?]
    by_cases hroom : y.now + config.identifyCooldown < Instant.limit
    · simp only [hroom, if_true, Option.map_some, ofTurn, List.append_nil]
      exact .takes heq.symm hroom
    · simp only [hroom, if_false, Option.map_none, ofTurn, List.append_nil]
      exact .fails heq.symm (Nat.le_of_not_lt hroom)

theorem exists_turned_of_step {i : Nat} (h : y.step (.own config) (.turn i) = some y') :
    ∃ front w back, y.waiters = front ++ w :: back ∧ w.wake ≤ y.now ∧
      Turned config y front w back y' := by
  obtain ⟨w, hw, h⟩ := Option.bind_eq_some_iff.1 h
  split at h
  · rename_i hwake
    cases h
    obtain ⟨hi, rfl⟩ := List.getElem?_eq_some_iff.1 hw
    have hwaiters : y.waiters = y.waiters.take i ++ y.waiters[i] :: y.waiters.drop (i + 1) := by
      rw [List.getElem_cons_drop, List.take_append_drop]
    have hturned := turned config y hwaiters
    rw [List.length_take_of_le (Nat.le_of_lt hi)] at hturned
    exact ⟨_, _, _, hwaiters, hwake, hturned⟩
  · cases h

/-- A shard whose wait is over can take its turn. -/
theorem exists_step_turned {front back : List SlotWaiter} {w : SlotWaiter}
    (hwaiters : y.waiters = front ++ w :: back) (hwake : w.wake ≤ y.now) :
    ∃ y', y.step (.own config) (.turn front.length) = some y' ∧
      Turned config y front w back y' := by
  refine ⟨_, ?_, turned config y hwaiters⟩
  have hw : y.waiters[front.length]? = some w := by simp [hwaiters]
  simp only [step, hw, Option.bind_eq_bind, Option.bind_some, hwake, if_true]

/-- Time passes up to the end of the next wait at most. -/
theorem eq_of_advance {d : Duration} (h : y.step (.own config) (.advance d) = some y') :
    y' = { y with now := y.now + d } ∧ ∀ w ∈ y.waiters, y.now + d ≤ w.wake := by
  simp only [step] at h
  split at h
  · rename_i hd
    exact ⟨(Option.some.inj h).symm, hd⟩
  · cases h

/-- Whoever else uses the store takes no slot. -/
theorem exists_accounts_of_perform {call : StoreCall}
    (h : y.step (.own config) (.perform call) = some y') :
    ∃ accounts, y' = { y with accounts } ∧
      ∀ slot, accounts.slots.get? slot = y.accounts.slots.get? slot := by
  simp only [step] at h
  split at h
  · cases h
  · rename_i hcall
    cases h
    refine ⟨_, rfl, fun slot => (MemoryAccounts.slots_perform call slot).trans ?_⟩
    cases call with
    | trySlot _ _ => exact absurd rfl hcall
    | _ => rfl

/-! ## What can be seen of a slot -/

/-- A turn is seen at the slot of the shard that takes it, and nowhere else. -/
theorem view_of_turned {front back : List SlotWaiter} {w : SlotWaiter}
    (hwaiters : y.waiters = front ++ w :: back) (hwake : w.wake ≤ y.now)
    (h : Turned config y front w back y') (slot : Nat) :
    (y.view config slot).Step config.identifyCooldown [] (y'.view config slot) := by
  by_cases hslot : config.slotOf w.shard = slot
  · subst hslot
    have hview : (y.view config (config.slotOf w.shard)).waiters =
        (front.filter fun x => config.slotOf x.shard = config.slotOf w.shard) ++
          w :: back.filter fun x => config.slotOf x.shard = config.slotOf w.shard := by
      simp [view, hwaiters]
    cases h with
    | sleeps hheld =>
      simpa [view, SlotView.free, freeAt] using SlotView.Step.sleeps _ _ w _ hview hwake hheld
    | takes hfree hroom => simpa [view] using SlotView.Step.takes _ _ w _ hview hwake hfree hroom
    | fails hfree hover => simpa [view] using SlotView.Step.fails _ _ w _ hview hwake hfree hover
  · have hsame : y'.view config slot = y.view config slot := by
      cases h <;> simp [view, hwaiters, hslot, Table.get?_insert_of_ne]
    rw [hsame]
    exact .other _

/-- The step lemma: what happens to a slot. -/
theorem view_of_step {m : SlotMove} (h : y.step (.own config) m = some y') (slot : Nat) :
    (y.view config slot).Step config.identifyCooldown (config.comers slot [m])
      (y'.view config slot) := by
  cases m with
  | arrive shard =>
    cases h
    by_cases hslot : config.slotOf shard = slot
    · simpa [view, LimiterConfig.comers, SlotMove.comer?, hslot] using
        SlotView.Step.arrives (y.view config slot) shard
    · simpa [view, LimiterConfig.comers, SlotMove.comer?, hslot] using
        SlotView.Step.other (y.view config slot)
  | turn i =>
    obtain ⟨front, w, back, hwaiters, hwake, hturned⟩ := exists_turned_of_step h
    exact view_of_turned hwaiters hwake hturned slot
  | perform call =>
    obtain ⟨accounts, rfl, hslots⟩ := exists_accounts_of_perform h
    have hsame : view config slot { y with accounts } = y.view config slot := by
      simp only [view, hslots]
    rw [hsame]
    exact .other _
  | advance d =>
    obtain ⟨rfl, hd⟩ := eq_of_advance h
    exact .passes _ _ fun w hw => hd w (List.mem_filter.1 hw).1

theorem comers_append (config : LimiterConfig) (slot : Nat) (moves moves' : List SlotMove) :
    config.comers slot (moves ++ moves') =
      config.comers slot moves ++ config.comers slot moves' := by
  rw [LimiterConfig.comers, List.filterMap_append, List.filter_append]
  rfl

/-- The run lemma. -/
theorem view_of_run (h : y.run (.own config) moves = some z) (slot : Nat) :
    SlotView.Run config.identifyCooldown (y.view config slot) (config.comers slot moves)
      (z.view config slot) := by
  induction moves generalizing y with
  | nil =>
    cases h
    exact .refl
  | cons m rest ih =>
    obtain ⟨y', hstep, hrest⟩ := Option.bind_eq_some_iff.1 h
    rw [← List.singleton_append, comers_append]
    exact .head (view_of_step hstep slot) (ih hrest)

/-- What holds of a slot whatever happens to it holds of each slot. -/
theorem IsReachable.view (hy : IsReachable config y) (slot : Nat) :
    (y.view config slot).IsSpaced config.identifyCooldown ∧ (y.view config slot).IsPunctual := by
  induction hy with
  | start accounts now => exact ⟨⟨.nil, nofun⟩, nofun⟩
  | step m _ hstep ih =>
    have hview := view_of_step hstep slot
    exact ⟨ih.1.step hview, ih.2.step hview⟩

theorem IsReachable.run (hy : IsReachable config y) (h : y.run (.own config) moves = some z) :
    IsReachable config z := by
  induction moves generalizing y with
  | nil =>
    cases h
    exact hy
  | cons m rest ih =>
    obtain ⟨y', hstep, hrest⟩ := Option.bind_eq_some_iff.1 h
    exact ih (hy.step m hstep) hrest

/-- A run that goes on where another has ended. -/
theorem run_append {l : Limiter MemoryAccounts} {moves' : List SlotMove}
    (h : y.run l moves = some y') (h' : y'.run l moves' = some z) :
    y.run l (moves ++ moves') = some z := by
  induction moves generalizing y with
  | nil =>
    cases h
    exact h'
  | cons m rest ih =>
    obtain ⟨y₁, hstep, hrest⟩ := Option.bind_eq_some_iff.1 h
    rw [List.cons_append, run, hstep]
    exact ih hrest

/-! ## One slot without the others -/

/-- Whatever could happen to a slot can happen to it where no others are. -/
theorem exists_run_of_step {v : SlotView} {comers : List Nat}
    (hwaiters : y.waiters = (y.view config slot).waiters)
    (hcomers : ∀ shard ∈ comers, config.slotOf shard = slot)
    (h : (y.view config slot).Step config.identifyCooldown comers v) :
    ∃ moves z, y.run (.own config) moves = some z ∧ z.view config slot = v ∧
      z.waiters = v.waiters ∧ (∀ m ∈ moves, config.isOwn slot m) ∧
      config.comers slot moves = comers := by
  have hown : ∀ w ∈ (y.view config slot).waiters, config.slotOf w.shard = slot := fun w hw => by
    simpa using (List.mem_filter.1 hw).2
  have hself : ∀ ws : List SlotWaiter, (∀ w ∈ ws, config.slotOf w.shard = slot) →
      ws.filter (fun w => config.slotOf w.shard = slot) = ws := fun ws hws =>
    List.filter_eq_self.2 fun w hw => by simpa using hws w hw
  -- The turn of a shard is possible here if it is in the view, and it goes the same way.
  have hturn : ∀ front w back, (y.view config slot).waiters = front ++ w :: back →
      w.wake ≤ y.now → ∃ z, y.run (.own config) [.turn front.length] = some z ∧
        Turned config y front w back z ∧ config.slotOf w.shard = slot ∧
        ∀ x ∈ front ++ back, config.slotOf x.shard = slot := by
    intro front w back hview hwake
    obtain ⟨z, hstep, hturned⟩ : ∃ z, y.step (.own config) (.turn front.length) = some z ∧
        Turned config y front w back z := exists_step_turned (hwaiters.trans hview) hwake
    refine ⟨z, by rw [run, hstep]; rfl, hturned, hown w (by simp [hview]), fun x hx => ?_⟩
    exact hown x (by rw [hview]; exact List.mem_append.2 ((List.mem_append.1 hx).imp_right
      (List.mem_cons_of_mem w)))
  cases h with
  | other => exact ⟨[], y, rfl, rfl, hwaiters, nofun, rfl⟩
  | arrives shard =>
    have hslot := hcomers shard (List.mem_singleton_self _)
    refine ⟨[.arrive shard], _, rfl, ?_, ?_, ?_, ?_⟩
    · simp [view, hslot]
    · rw [← hwaiters]
      rfl
    · simp [LimiterConfig.isOwn, hslot]
    · simp [LimiterConfig.comers, SlotMove.comer?, hslot]
  | passes d hd =>
    have hstep : y.step (.own config) (.advance d) = some { y with now := y.now + d } := by
      rw [step, if_pos (hwaiters ▸ hd)]
    refine ⟨[.advance d], { y with now := y.now + d }, ?_, rfl, hwaiters, ?_, rfl⟩
    · rw [run, hstep]
      rfl
    · simp [LimiterConfig.isOwn]
  | sleeps front w back hview hwake hheld =>
    obtain ⟨z, hrun, hturned, hslot, hrest⟩ := hturn front w back hview hwake
    refine ⟨_, z, hrun, ?_⟩
    subst hslot
    cases hturned with
    | sleeps _ =>
      refine ⟨?_, rfl, by simp [LimiterConfig.isOwn], rfl⟩
      have hmid := hself (front ++ ⟨w.shard, y.freeAt (config.slotOf w.shard)⟩ :: back) (by
        simpa [or_imp, forall_and] using hrest)
      simp only [view, hmid]
      rfl
    | takes hfree _ => exact absurd hfree (Nat.ne_of_gt hheld)
    | fails hfree _ => exact absurd hfree (Nat.ne_of_gt hheld)
  | takes front w back hview hwake hfree hroom =>
    obtain ⟨z, hrun, hturned, hslot, hrest⟩ := hturn front w back hview hwake
    refine ⟨_, z, hrun, ?_⟩
    subst hslot
    cases hturned with
    | sleeps hheld => exact absurd hfree (Nat.ne_of_gt hheld)
    | takes _ _ =>
      refine ⟨?_, rfl, by simp [LimiterConfig.isOwn], rfl⟩
      simp [view, hself _ hrest]
    | fails _ hover => exact absurd hroom (Nat.not_lt.2 hover)
  | fails front w back hview hwake hfree hover =>
    obtain ⟨z, hrun, hturned, hslot, hrest⟩ := hturn front w back hview hwake
    refine ⟨_, z, hrun, ?_⟩
    subst hslot
    cases hturned with
    | sleeps hheld => exact absurd hfree (Nat.ne_of_gt hheld)
    | takes _ hroom => exact absurd hroom (Nat.not_lt.2 hover)
    | fails _ _ =>
      refine ⟨?_, rfl, by simp [LimiterConfig.isOwn], rfl⟩
      simp [view, hself _ hrest]

/-- Whatever happens to a slot while shards wait for others happens to it just so when
    none do, and nobody else uses the store: the others make no difference. -/
theorem exists_run_only (h : y.run (.own config) moves = some z) (slot : Nat) :
    ∃ moves' z', (y.only config slot).run (.own config) moves' = some z' ∧
      z'.view config slot = z.view config slot ∧ (∀ m ∈ moves', config.isOwn slot m) ∧
      config.comers slot moves' = config.comers slot moves := by
  have hview : (y.only config slot).view config slot = y.view config slot := by
    simp [view, only, List.filter_filter]
  have hrun := view_of_run h slot
  have hcomers : ∀ shard ∈ config.comers slot moves, config.slotOf shard = slot :=
    fun shard hshard => by simpa using (List.mem_filter.1 hshard).2
  generalize config.comers slot moves = comers at hrun hcomers
  -- The run of the view is carried out step by step.
  suffices hsuff : ∃ moves' z', (y.only config slot).run (.own config) moves' = some z' ∧
      z'.view config slot = z.view config slot ∧ z'.waiters = (z.view config slot).waiters ∧
      (∀ m ∈ moves', config.isOwn slot m) ∧ config.comers slot moves' = comers by
    obtain ⟨moves', z', hrun', hview', -, hmoves, hcomers'⟩ := hsuff
    exact ⟨moves', z', hrun', hview', hmoves, hcomers'⟩
  generalize z.view config slot = v at hrun
  induction hrun with
  | refl => exact ⟨[], _, rfl, hview, rfl, by simp, rfl⟩
  | step _ hstep ih =>
    obtain ⟨moves₁, z₁, hrun₁, hview₁, hwaiters₁, hmoves₁, rfl⟩ := ih fun shard hshard =>
      hcomers shard (List.mem_append_left _ hshard)
    rw [← hview₁] at hstep hwaiters₁
    obtain ⟨moves₂, z₂, hrun₂, hview₂, hwaiters₂, hmoves₂, rfl⟩ :=
      exists_run_of_step hwaiters₁ (fun shard hshard =>
        hcomers shard (List.mem_append_right _ hshard)) hstep
    refine ⟨moves₁ ++ moves₂, z₂, run_append hrun₁ hrun₂, hview₂, hwaiters₂, fun m hm => ?_,
      comers_append ..⟩
    exact (List.mem_append.1 hm).elim (hmoves₁ m) (hmoves₂ m)

end Handshakes

end GatewayClient
