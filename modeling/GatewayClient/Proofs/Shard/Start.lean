import GatewayClient.Proofs.RateLimit.HandshakeProgress
import GatewayClient.Proofs.Shard.History
import GatewayClient.Proofs.Shard.Establish
import Mathlib.Data.List.Basic
import GatewayClient.Shard.Start

/-!
# Shards that are started at once

A shard that has never had a connection has no session to resume, so it asks for a new
one, once its wait for a handshake slot has ended with the slot. So the shards of a
manager ask one by one, as the slots are given to them.

* `Shard.connect_welcomed`: the first attempt of a shard.
* `Manager.started_new`: the first attempts of all shards.
* `Manager.IsSpacedOut`: what becomes of them; `Handshakes.isFair_and_isSpacedOut`: all
  that holds of shards which wait for handshake slots, and of a manager that starts.
-/

namespace GatewayClient

namespace Shard

/-- A shard's first attempt asks for a new session, if it is given its slot. -/
theorem connect_welcomed (index : Nat) (config : ShardConfig) {greeting : Greeting}
    {interval : Duration} (hgreeting : greeting.interval = .ok interval)
    (slot : Except StoreError Unit) :
    ((new index config).connect (.welcomed greeting slot)).result =
        slot.mapError (ShardError.rateLimit ∘ .store) ∧
      ((new index config).connect (.welcomed greeting slot)).sent =
        if slot.toBool then [(0, .message (.identify (config.identify index)))] else [] := by
  have hopen := openSession_eq (new index config).prepare.1 (.welcomed greeting slot)
  have hidentify : (new index config).prepare.1.session.handshake = .identify := rfl
  simp only [Attempt.welcomed, hgreeting, hidentify, if_true] at hopen
  simp only [connect, Attempt.welcomed]
  cases slot with
  | ok _ =>
    simp only [Except.mapError] at hopen
    rw [Except.mapError, hopen]
    exact ⟨rfl, rfl⟩
  | error reason =>
    simp only [Except.mapError] at hopen
    rw [Except.mapError, hopen]
    exact ⟨rfl, rfl⟩

end Shard

/-- What comes of a shard's attempt where its wait has ended so. -/
def Started.ofAnswer (config : ShardConfig) (a : SlotAnswer) : Started where
  shard := a.shard
  time := a.time
  result := a.result.mapError (ShardError.rateLimit ∘ .store)
  sent := if a.result.toBool then [(0, .message (.identify (config.identify a.shard)))] else []

@[simp] theorem Started.identifies_ofAnswer (config : ShardConfig) (a : SlotAnswer) :
    (Started.ofAnswer config a).identifies = a.result.toBool := by
  obtain ⟨shard, time, result⟩ := a
  cases result with
  | ok _ => rfl
  | error reason => rfl

namespace Manager

variable {Listener : Type}

theorem shard?_new (config : ShardConfig) {index : Nat} (h : index < max config.shardCount 1) :
    (new config : Manager Listener).shard? index =
      some (.new index { config with shardCount := max config.shardCount 1 }) := by
  simp [new, shard?, h]

/-- The shards of a new manager ask for new sessions, each when it is given its slot. -/
theorem started_new (config : ShardConfig) {greeting : Nat → Greeting}
    (hgreeting : ∀ index, ∃ interval, (greeting index).interval = .ok interval)
    {answers : List SlotAnswer} (h : ∀ a ∈ answers, a.shard < max config.shardCount 1) :
    (new config : Manager Listener).started greeting answers = answers.map
      (.ofAnswer { config with shardCount := max config.shardCount 1 }) := by
  refine List.filterMap_eq_map_iff_forall_eq_some.2 fun a ha => ?_
  obtain ⟨interval, hinterval⟩ := hgreeting a.shard
  obtain ⟨hresult, hsent⟩ := Shard.connect_welcomed a.shard
    { config with shardCount := max config.shardCount 1 } hinterval a.result
  rw [shard?_new config (h a ha), Option.map_some, Started.ofAnswer, ← hresult, ← hsent]

/-- What has become of the shards of a manager, each of which has come to wait for its
    handshake slot. -/
structure IsSpacedOut (config : LimiterConfig) (m : Manager Listener) (greeting : Nat → Greeting)
    (z : Handshakes MemoryAccounts) : Prop where
  /-- Between two of them that share a slot and ask for new sessions lies a cooldown. -/
  spaced : ∀ slot, (((m.started greeting z.answers).filter fun s =>
    s.identifies ∧ config.slotOf s.shard = slot).map Started.time).Pairwise
      fun a b => a + config.identifyCooldown ≤ b
  /-- A shard that asks does so with one message, and has a connection then. -/
  identify : ∀ s ∈ m.started greeting z.answers, s.identifies →
    ∃ shard, m.shard? s.shard = some shard ∧ s.result = .ok () ∧
      s.sent = [(0, .message (.identify (shard.config.identify s.shard)))]
  /-- No shard asks twice, -/
  nodup : (((m.started greeting z.answers).filter Started.identifies).map Started.shard).Nodup
  /-- and each of them has asked when the last wait is over, if the clock goes on for a
      cooldown more. -/
  perm : z.waiters = [] → z.now + config.identifyCooldown < Instant.limit →
    ((m.started greeting z.answers).map Started.shard).Perm (List.range m.count) ∧
      ∀ s ∈ m.started greeting z.answers, s.identifies

theorem isSpacedOut_new (config : LimiterConfig) (shards : ShardConfig) {greeting : Nat → Greeting}
    (hgreeting : ∀ index, ∃ interval, (greeting index).interval = .ok interval)
    {accounts : MemoryAccounts} {now : Instant} {moves : List SlotMove}
    {z : Handshakes MemoryAccounts}
    (hrun : Handshakes.run (.own config) ⟨accounts, now, [], []⟩ moves = some z)
    (hcomers : (moves.filterMap SlotMove.comer?).Perm
      (List.range (new shards : Manager Listener).count)) :
    (new shards : Manager Listener).IsSpacedOut config greeting z := by
  have hcount : (new shards : Manager Listener).count = max shards.shardCount 1 := by
    simp [count, new]
  rw [hcount] at hcomers
  have hz : Handshakes.IsReachable config z := (Handshakes.IsReachable.start accounts now).run hrun
  have hperm : z.shards.Perm (List.range (max shards.shardCount 1)) :=
    (Handshakes.shards_of_run hrun).trans hcomers
  have hindex : ∀ a ∈ z.answers, a.shard < max shards.shardCount 1 := fun a ha =>
    List.mem_range.1 (hperm.mem_iff.1 (List.mem_append_left _ (List.mem_map_of_mem ha)))
  have hstarted : (new shards : Manager Listener).started greeting z.answers = z.answers.map _ :=
    started_new shards hgreeting hindex
  generalize hconfig : ({ shards with shardCount := max shards.shardCount 1 } : ShardConfig) =
    shared at hstarted
  refine ⟨fun slot => ?_, fun s hs hidentifies => ?_, ?_, fun hwaiters hclock => ⟨?_, ?_⟩⟩
  · have hfair := (hz.isFair slot).spaced
    have hsame : ((fun s : Started => decide (s.identifies ∧ config.slotOf s.shard = slot)) ∘
        Started.ofAnswer shared) = fun a =>
          decide (config.slotOf a.shard = slot ∧ a.result.toBool) := by
      funext a
      simp only [Function.comp_apply, Started.identifies_ofAnswer, and_comm]
      rfl
    rw [hstarted, List.filter_map, List.map_map, hsame]
    exact hfair
  · rw [hstarted] at hs
    obtain ⟨a, ha, rfl⟩ := List.mem_map.1 hs
    rw [Started.identifies_ofAnswer] at hidentifies
    refine ⟨_, shard?_new shards (hindex a ha), ?_, ?_⟩
    · obtain ⟨shard, time, result⟩ := a
      cases result with
      | ok _ => rfl
      | error reason => cases hidentifies
    · simp [Started.ofAnswer, hidentifies, Shard.new, hconfig]
  · rw [hstarted, List.filter_map, List.map_map]
    have hnodup : (z.answers.map SlotAnswer.shard).Nodup :=
      (List.nodup_append.1 (hperm.nodup_iff.2 List.nodup_range)).1
    exact hnodup.sublist (List.filter_sublist.map _)
  · rw [Handshakes.shards, hwaiters, List.map_nil, List.append_nil] at hperm
    rw [hstarted, List.map_map, hcount]
    exact hperm
  · intro s hs
    rw [hstarted] at hs
    obtain ⟨a, ha, rfl⟩ := List.mem_map.1 hs
    obtain ⟨hle, hresult⟩ := hz.answers a ha
    rw [if_pos (Nat.lt_of_le_of_lt (Nat.add_le_add_right hle _) hclock)] at hresult
    rw [Started.identifies_ofAnswer, hresult]
    rfl

end Manager

/-- Spacing and service of handshakes. Whatever shards wait for their slots, and whatever
    the order in which they wake: whoever is given a slot comes a cooldown after the last,
    the slots do not get into each other's way, and those that wait for a slot are given
    it one cooldown after the other, as long as these instants lie on the clock. So the
    shards of a manager that start at once each ask for a new session once, at most one
    in a cooldown for each slot. -/
theorem Handshakes.isFair_and_isSpacedOut (Listener : Type) (config : LimiterConfig) :
    (∀ y, IsReachable config y → ∀ slot, y.IsFair config slot) ∧
      ∀ (shards : ShardConfig) (greeting : Nat → Greeting) (accounts : MemoryAccounts)
        (now : Instant) (moves : List SlotMove) (z : Handshakes MemoryAccounts),
        (∀ index, ∃ interval, (greeting index).interval = .ok interval) →
        run (.own config) ⟨accounts, now, [], []⟩ moves = some z →
        (moves.filterMap SlotMove.comer?).Perm
          (List.range (Manager.new shards : Manager Listener).count) →
        (Manager.new shards : Manager Listener).IsSpacedOut config greeting z :=
  ⟨fun _ hy slot => hy.isFair slot, fun shards _ _ _ _ _ hgreeting hrun hcomers =>
    Manager.isSpacedOut_new config shards hgreeting hrun hcomers⟩

/-- Three shards with two slots. The last of them takes its turn before the first, with
    which it shares a slot, so that the first sleeps; the second has the other slot to
    itself. -/
theorem Handshakes.isFair_and_isSpacedOut_three : ∃ config y z,
    config = { identifyCooldown := 6, identifyConcurrency := 2 } ∧
    run (.own config) ⟨.empty, 0, [], []⟩ [.arrive 0, .arrive 1, .arrive 2] = some y ∧
    y.run (.own config) ([.turn 2, .turn 1] ++ ([.turn 0] ++ [.advance 6, .turn 0])) = some z ∧
    z.waiters = [] ∧
    (z.grants config 0).map (fun a => (a.shard, a.time)) = [(2, 0), (0, 6)] ∧
    (z.grants config 1).map (fun a => (a.shard, a.time)) = [(1, 0)] ∧
    (∃ ended, SlotView.IsServed 6 (y.view config 0) (z.view config 0) ended) ∧
    (∃ ended, SlotView.IsServed 6 (y.view config 1) (z.view config 1) ended) ∧
    (Manager.new { shardCount := 3 } : Manager Unit).IsSpacedOut config (fun _ => .brief) z := by
  let y : Handshakes MemoryAccounts := ⟨.empty, 0, [⟨0, 0⟩, ⟨1, 0⟩, ⟨2, 0⟩], []⟩
  let y₁ : Handshakes MemoryAccounts :=
    ⟨⟨∅, ∅, ⟨[(0, 6), (1, 6)]⟩, none⟩, 0, [⟨0, 0⟩], [⟨2, 0, .ok ()⟩, ⟨1, 0, .ok ()⟩]⟩
  let y₂ : Handshakes MemoryAccounts :=
    ⟨⟨∅, ∅, ⟨[(0, 6), (1, 6)]⟩, none⟩, 0, [⟨0, 6⟩], [⟨2, 0, .ok ()⟩, ⟨1, 0, .ok ()⟩]⟩
  let z : Handshakes MemoryAccounts :=
    ⟨⟨∅, ∅, ⟨[(0, 12), (1, 6)]⟩, none⟩, 6, [],
      [⟨2, 0, .ok ()⟩, ⟨1, 0, .ok ()⟩, ⟨0, 6, .ok ()⟩]⟩
  have hcome : run (.own ⟨6, 2, 64⟩) ⟨.empty, 0, [], []⟩ [.arrive 0, .arrive 1, .arrive 2] =
    some y := rfl
  have htaken : y.run (.own ⟨6, 2, 64⟩) [.turn 2, .turn 1] = some y₁ := rfl
  have hsleep : y₁.run (.own ⟨6, 2, 64⟩) [.turn 0] = some y₂ := rfl
  have hlast : y₂.run (.own ⟨6, 2, 64⟩) [.advance 6, .turn 0] = some z := rfl
  have hrun := run_append htaken (run_append hsleep hlast)
  obtain ⟨hfair, hspaced⟩ := isFair_and_isSpacedOut Unit ⟨6, 2, 64⟩
  have hy : IsReachable ⟨6, 2, 64⟩ y := (IsReachable.start .empty 0).run hcome
  refine ⟨⟨6, 2, 64⟩, y, z, rfl, hcome, hrun, rfl, rfl, rfl, ?_, ?_, ?_⟩
  · obtain ⟨ended, hserved, -⟩ := (hfair y hy 0).served _ z hrun rfl (by decide)
    exact ⟨ended, hserved⟩
  · obtain ⟨ended, hserved, -⟩ := (hfair y hy 1).served _ z hrun rfl (by decide)
    exact ⟨ended, hserved⟩
  · exact hspaced { shardCount := 3 } (fun _ => .brief) .empty 0 _ z
      (fun _ => ⟨_, Greeting.interval_brief⟩) (run_append hcome hrun) (List.Perm.refl [0, 1, 2])

/-- A shard whose slot would be held beyond the clock is not given it, though it is free. -/
theorem Handshakes.exists_ended_without_slot : ∃ (config : LimiterConfig)
    (y z : Handshakes MemoryAccounts), IsReachable config y ∧ y.waiting config 0 = [0] ∧
      y.freeAt 0 = 0 ∧ y.run (.own config) [.turn 0] = some z ∧ z.waiters = [] ∧
      z.grants config 0 = [] := by
  let config : LimiterConfig := { identifyCooldown := Instant.limit }
  have hreach : IsReachable config ⟨.empty, 0, [⟨0, 0⟩], []⟩ := .step (.arrive 0) (.start .empty 0) rfl
  exact ⟨config, _, ⟨.empty, 0, [], [⟨0, 0, .error .clockOverflow⟩]⟩, hreach, rfl, rfl, rfl, rfl, rfl⟩

end GatewayClient
