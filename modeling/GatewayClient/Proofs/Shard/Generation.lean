import GatewayClient.Proofs.Shard.Step

/-!
# Generations

The generation of a shard only ever moves on, and each connection that is established
was given a generation of its own when it moved on to it. So whoever knows the generation
of a connection can tell that connection from all others, and a loss is news at most
once for each connection: then the generation moves on.

* `Task.Numbering`, `Task.Goes.numbering`: what a step does to generations and
  connections.
* `System.IsNumbered`: what holds of them in every reachable system.
-/

namespace GatewayClient

variable {Listener : Type}

/-- The generation of a connection that has become the shard's. -/
def Note.generation? : Note Listener → Option Nat
  | .established generation _ => some generation
  | _ => none

/-- The connection that has become the shard's. -/
def Note.connection? : Note Listener → Option Connection
  | .established _ c => some c
  | _ => none

/-- The generation whose loss was news. -/
def Note.loss? : Note Listener → Option Nat
  | .lost generation => some generation
  | _ => none

namespace Task

/-- The connection that an attempt has opened and not yet established. -/
def held? : Task → Option Connection
  | .connecting _ point => match point with
    | .greet c | .choose c _ | .slot c _ | .deliver c _ _ | .number c _ | .stop c _ _
    | .heartbeat c _ _ | .sink c _ | .finish c _ => some c
    | _ => none
  | _ => none

/-- The generation that an attempt has given its connection and not yet established. -/
def numbered? : Task → Option Nat
  | .connecting _ point => match point with
    | .stop _ _ generation | .heartbeat _ _ generation | .sink _ generation
    | .finish _ generation => some generation
    | _ => none
  | _ => none

/-- The generation whose connection a task was started for, if it watches one: a reader, a
    monitor, and what has noticed a loss. -/
def watched? : Task → Option Nat
  | .connecting _ (.launch _ generation) | .reading generation _ | .looking generation _
  | .losing generation _ | .pacing generation _ | .monitoring generation _ _
  | .beating generation _ | .numbering generation _ _ _ | .sending generation _ _ _ _
  | .recording generation _ _ _ => some generation
  | _ => none

/-- What a step does to generations and connections. -/
structure Numbering (s : Shard) (fresh : Connection) (t : Task) (input : Input)
    (r : Step Listener) : Prop where
  generation : s.generation ≤ r.shard.generation
  /-- A generation is given when the shard's moves on to it, and is kept. -/
  numbered : r.tasks.filterMap numbered? ++ r.notes.filterMap Note.generation? =
      t.numbered?.toList ∨
    t.numbered? = none ∧ r.shard.generation = s.generation + 1 ∧
      r.tasks.filterMap numbered? ++ r.notes.filterMap Note.generation? = [s.generation + 1]
  /-- A connection is opened by an attempt, which keeps it until it has failed. -/
  held : (r.tasks.filterMap held? ++ r.notes.filterMap Note.connection?).Sublist
      t.held?.toList ∨
    input = .dialed true ∧
      r.tasks.filterMap held? ++ r.notes.filterMap Note.connection? = [fresh]
  /-- Readers and monitors are started for a connection that was established. -/
  watched : ∀ t' ∈ r.tasks, ∀ generation, t'.watched? = some generation →
    t.watched? = some generation ∨ generation ∈ r.notes.filterMap Note.generation?
  /-- A loss is news to the shard's own generation only, which moves on. -/
  loss : r.notes.filterMap Note.loss? = [] ∨
    t.watched? = some s.generation ∧ r.notes.filterMap Note.loss? = [s.generation] ∧
      s.generation < r.shard.generation

variable {s : Shard} {fresh : Connection} {now : Instant} {input : Input} {t : Task}
  {r : Step Listener}

theorem Goes.numbering (h : t.Goes s fresh now input r) : t.Numbering s fresh input r := by
  cases h with
  | markDisconnecting code next =>
    refine ⟨?_, .inl rfl, .inl (List.Sublist.refl _), by simp [watched?], .inl rfl⟩
    simp only [Shard.markDisconnecting]
    split <;> exact Nat.le_refl _
  | tornDown code next =>
    cases next <;> exact ⟨Nat.le_refl _, .inl rfl, .inl (List.Sublist.refl _),
      by simp [after, watched?], .inl rfl⟩
  | failing by' point hpoint =>
    obtain rfl | ⟨c, rfl⟩ | ⟨c, interval, rfl⟩ | ⟨c, interval, e, rfl⟩ := hpoint <;>
      exact ⟨Nat.le_refl _, .inl rfl, .inl (List.nil_sublist _), by simp [watched?], .inl rfl⟩
  | lose generation code hgeneration =>
    subst hgeneration
    exact ⟨Nat.le_succ _, .inl rfl, .inl (List.Sublist.refl _), by simp [watched?],
      .inr ⟨rfl, rfl, Nat.lt_succ_self _⟩⟩
  | void code =>
    refine ⟨?_, .inl rfl, .inl (List.Sublist.refl _), by simp [watched?], .inl rfl⟩
    cases code <;> exact Nat.le_refl _
  | kill | bumpShutDown | replace =>
    exact ⟨Nat.le_succ _, .inl rfl, .inl (List.Sublist.refl _), by simp [watched?], .inl rfl⟩
  | close code c next isDelivered =>
    cases isDelivered <;>
      exact ⟨Nat.le_refl _, .inl rfl, .inl (List.Sublist.refl _), by simp [watched?], .inl rfl⟩
  | dial => exact ⟨Nat.le_refl _, .inl rfl, .inr ⟨rfl, rfl⟩, by simp [watched?], .inl rfl⟩
  | number =>
    exact ⟨Nat.le_succ _, .inr ⟨rfl, rfl, rfl⟩, .inl (List.Sublist.refl _), by simp [watched?], .inl rfl⟩
  | establish by' c generation =>
    exact ⟨Nat.le_refl _, .inl rfl, .inl (List.Sublist.refl _),
      by simp [watched?, Note.generation?], .inl rfl⟩
  | read | readLoss =>
    -- The listeners that hear of an event are all that can be seen.
    refine ⟨Nat.le_refl _, .inl ?_, .inl ?_, by simp [watched?], .inl ?_⟩ <;>
      simp [numbered?, held?, Note.generation?, Note.connection?, Note.loss?]
  | _ =>
    exact ⟨Nat.le_refl _, .inl rfl, .inl (List.Sublist.refl _), by simp [watched?], .inl rfl⟩

end Task

namespace System

variable {bus : Bus Listener} {y y' z : System Listener} {moves : List Move}

/-! ## What the tasks hold -/

/-- What the tasks hold of some kind, and what has become of it. -/
def all {α : Type} (f : Task → Option α) (n : Note Listener → Option α) (y : System Listener) :
    List α :=
  y.tasks.filterMap f ++ y.log.filterMap n

section All

variable {α : Type} (f : Task → Option α) (n : Note Listener → Option α) {front back : List Task}

/-- What the task that goes on has to do with it, and what it has not. -/
theorem all_perm {t : Task} (htasks : y.tasks = front ++ t :: back) :
    (y.all f n).Perm ((f t).toList ++ all f n { y with tasks := front ++ back }) := by
  classical
  rw [List.perm_iff_count]
  intro a
  cases hf : f t <;> simp [all, htasks, hf, List.count_cons]
  omega

theorem all_went_perm (y : System Listener) (front back : List Task) (input : Input)
    (r : Step Listener) :
    ((y.went front input r back).all f n).Perm
      (r.tasks.filterMap f ++ r.notes.filterMap n ++ all f n { y with tasks := front ++ back }) := by
  classical
  rw [List.perm_iff_count]
  intro a
  simp [all, went]
  omega

end All

/-- The generations of all connections that have become the shard's. -/
def generations (y : System Listener) : List Nat := y.log.filterMap Note.generation?

/-- All connections that have become the shard's. -/
def connections (y : System Listener) : List Connection := y.log.filterMap Note.connection?

/-- The generations of all connections whose loss was news. -/
def losses (y : System Listener) : List Nat := y.log.filterMap Note.loss?

/-- Generations and connections in a reachable system. -/
structure IsNumbered (y : System Listener) : Prop where
  /-- No two connections have the same generation, -/
  numbered : (y.all Task.numbered? Note.generation?).Nodup
  /-- and the shard's generation is beyond all of them. -/
  le : ∀ generation ∈ y.all Task.numbered? Note.generation?, generation ≤ y.shard.generation
  /-- No two attempts have the same connection, nor one that was established, -/
  held : (y.all Task.held? Note.connection?).Nodup
  /-- and the next one is none of theirs. -/
  lt : ∀ c ∈ y.all Task.held? Note.connection?, c < y.opened
  /-- Readers and monitors are those of connections that were established. -/
  watched : ∀ t ∈ y.tasks, ∀ generation, t.watched? = some generation →
    generation ∈ y.generations
  /-- No loss is news twice, -/
  nodup : y.losses.Nodup
  /-- and after it is, the generation has moved on. -/
  lost : ∀ generation ∈ y.losses, generation ∈ y.generations ∧ generation < y.shard.generation

theorem isNumbered_new (index : Nat) (config : ShardConfig) :
    (System.new index config : System Listener).IsNumbered :=
  ⟨.nil, nofun, .nil, nofun, nofun, .nil, nofun⟩

theorem opened_le_went (y : System Listener) (front back : List Task) (input : Input)
    (r : Step Listener) : y.opened ≤ (y.went front input r back).opened := by
  simp only [System.went]
  split
  · exact Nat.le_succ _
  · exact Nat.le_refl _

theorem mem_log_went {n : Note Listener} {front back : List Task} {input : Input}
    {r : Step Listener} :
    n ∈ (y.went front input r back).log ↔ n ∈ r.notes ∨ n ∈ y.log := by
  simp [System.went]

/-- What was established stays so. -/
theorem mem_generations_went {generation : Nat} {front back : List Task} {input : Input}
    {r : Step Listener} : generation ∈ (y.went front input r back).generations ↔
      generation ∈ r.notes.filterMap Note.generation? ∨ generation ∈ y.generations := by
  simp only [generations, List.mem_filterMap, mem_log_went, or_and_right, exists_or]

section Went

variable {front back : List Task} {t : Task} {input : Input} {r : Step Listener}

theorem IsNumbered.numbered_went (hy : y.IsNumbered) (htasks : y.tasks = front ++ t :: back)
    (h : t.Numbering y.shard y.opened input r) :
    ((y.went front input r back).all Task.numbered? Note.generation?).Nodup ∧
      ∀ generation ∈ (y.went front input r back).all Task.numbered? Note.generation?,
        generation ≤ r.shard.generation := by
  have hold := all_perm Task.numbered? Note.generation? htasks
  have hnew := y.all_went_perm Task.numbered? Note.generation? front back input r
  rcases h.numbered with hsame | ⟨hnone, hgeneration, hnumber⟩
  · rw [hsame] at hnew
    have hperm := hnew.trans hold.symm
    exact ⟨hperm.nodup_iff.2 hy.numbered, fun g hg =>
      Nat.le_trans (hy.le g (hperm.mem_iff.1 hg)) h.generation⟩
  · -- The generation that is given now is beyond all others.
    rw [hnone, Option.toList_none, List.nil_append] at hold
    rw [hnumber, List.singleton_append] at hnew
    have hle : ∀ g ∈ all Task.numbered? Note.generation? { y with tasks := front ++ back },
        g ≤ y.shard.generation := fun g hg => hy.le g (hold.mem_iff.2 hg)
    refine ⟨hnew.nodup_iff.2 (List.nodup_cons.2 ⟨fun hmem => ?_, hold.nodup_iff.1 hy.numbered⟩),
      fun g hg => ?_⟩
    · exact absurd (hle _ hmem) (Nat.not_succ_le_self _)
    · rcases List.mem_cons.1 (hnew.mem_iff.1 hg) with rfl | hg
      · exact Nat.le_of_eq hgeneration.symm
      · exact Nat.le_trans (hle g hg) h.generation

theorem IsNumbered.held_went (hy : y.IsNumbered) (htasks : y.tasks = front ++ t :: back)
    (h : t.Numbering y.shard y.opened input r) :
    ((y.went front input r back).all Task.held? Note.connection?).Nodup ∧
      ∀ c ∈ (y.went front input r back).all Task.held? Note.connection?,
        c < (y.went front input r back).opened := by
  have hold := all_perm Task.held? Note.connection? htasks
  have hnew := y.all_went_perm Task.held? Note.connection? front back input r
  have hopened := opened_le_went y front back input r
  rcases h.held with hsub | ⟨rfl, hfresh⟩
  · have hsub := hsub.append_right (all Task.held? Note.connection? { y with tasks := front ++ back })
    refine ⟨hnew.nodup_iff.2 ((hold.nodup_iff.1 hy.held).sublist hsub), fun c hc => ?_⟩
    have hmem := hold.mem_iff.2 (hsub.subset (hnew.mem_iff.1 hc))
    exact Nat.lt_of_lt_of_le (hy.lt c hmem) hopened
  · -- The connection that is opened now has a number beyond all others.
    rw [hfresh, List.singleton_append] at hnew
    have hlt : ∀ c ∈ all Task.held? Note.connection? { y with tasks := front ++ back },
        c < y.opened := fun c hc => hy.lt c (hold.mem_iff.2 (List.mem_append_right _ hc))
    have hrest := (List.nodup_append.1 (hold.nodup_iff.1 hy.held)).2.1
    refine ⟨hnew.nodup_iff.2 (List.nodup_cons.2 ⟨fun hmem => ?_, hrest⟩), fun c hc => ?_⟩
    · exact absurd (hlt _ hmem) (Nat.lt_irrefl _)
    · rcases List.mem_cons.1 (hnew.mem_iff.1 hc) with rfl | hc
      · exact Nat.lt_succ_self _
      · exact Nat.lt_of_lt_of_le (hlt c hc) hopened

theorem IsNumbered.watched_went (hy : y.IsNumbered) (htasks : y.tasks = front ++ t :: back)
    (h : t.Numbering y.shard y.opened input r) :
    ∀ t' ∈ (y.went front input r back).tasks, ∀ generation, t'.watched? = some generation →
      generation ∈ (y.went front input r back).generations := by
  intro t' ht' generation hwatched
  rw [mem_generations_went]
  rcases mem_tasks_went htasks ht' with hmem | hmem
  · rcases h.watched t' hmem generation hwatched with ht | hestablished
    · exact .inr (hy.watched t (by simp [htasks]) generation ht)
    · exact .inl hestablished
  · exact .inr (hy.watched t' hmem generation hwatched)

theorem IsNumbered.losses_went (hy : y.IsNumbered) (htasks : y.tasks = front ++ t :: back)
    (h : t.Numbering y.shard y.opened input r) :
    (y.went front input r back).losses.Nodup ∧
      ∀ generation ∈ (y.went front input r back).losses,
        generation ∈ (y.went front input r back).generations ∧
          generation < r.shard.generation := by
  have hlosses : (y.went front input r back).losses =
      (r.notes.filterMap Note.loss?).reverse ++ y.losses := by
    simp [losses, System.went]
  have hold : ∀ generation ∈ y.losses, generation ∈ (y.went front input r back).generations ∧
      generation < r.shard.generation := fun g hg =>
    ⟨mem_generations_went.2 (.inr (hy.lost g hg).1), Nat.lt_of_lt_of_le (hy.lost g hg).2 h.generation⟩
  rw [hlosses]
  rcases h.loss with hnone | ⟨hwatched, hloss, hlt⟩
  · rw [hnone]
    exact ⟨hy.nodup, hold⟩
  · -- The shard's own generation has not been lost yet.
    rw [hloss, List.reverse_singleton, List.singleton_append]
    refine ⟨List.nodup_cons.2 ⟨fun hmem => ?_, hy.nodup⟩, fun g hg => ?_⟩
    · exact absurd (hy.lost _ hmem).2 (Nat.lt_irrefl _)
    · rcases List.mem_cons.1 hg with rfl | hg
      · exact ⟨mem_generations_went.2 (.inr (hy.watched t (by simp [htasks]) _ hwatched)), hlt⟩
      · exact hold g hg

/-- A task that goes on. -/
theorem IsNumbered.went (hy : y.IsNumbered) (htasks : y.tasks = front ++ t :: back)
    (h : t.Numbering y.shard y.opened input r) : (y.went front input r back).IsNumbered where
  numbered := (hy.numbered_went htasks h).1
  le := (hy.numbered_went htasks h).2
  held := (hy.held_went htasks h).1
  lt := (hy.held_went htasks h).2
  watched := hy.watched_went htasks h
  nodup := (hy.losses_went htasks h).1
  lost := (hy.losses_went htasks h).2

end Went

/-- The step lemma. -/
theorem IsNumbered.step {m : Move} (hy : y.IsNumbered) (h : y.step bus m = some y') :
    y'.IsNumbered := by
  cases m with
  | request request =>
    rw [eq_of_request h]
    have hsame {α : Type} (f : Task → Option α) (n : Note Listener → Option α)
        (hf : f request.task = none) :
        all f n { y with tasks := y.tasks ++ [request.task] } = y.all f n := by
      simp [all, hf]
    have hnumbered := hsame Task.numbered? Note.generation? (by cases request <;> rfl)
    have hheld := hsame Task.held? Note.connection? (by cases request <;> rfl)
    refine ⟨hnumbered ▸ hy.numbered, hnumbered ▸ hy.le, hheld ▸ hy.held, hheld ▸ hy.lt,
      fun t ht generation hwatched => ?_, hy.nodup, hy.lost⟩
    rcases List.mem_append.1 ht with ht | ht
    · exact hy.watched t ht generation hwatched
    · rw [List.mem_singleton.1 ht] at hwatched
      cases request <;> cases hwatched
  | advance d =>
    rw [eq_of_advance h]
    exact ⟨hy.1, hy.2, hy.3, hy.4, hy.5, hy.6, hy.7⟩
  | step i input =>
    obtain ⟨front, t, back, r, htasks, -, -, hgoes, rfl⟩ := goes_of_step h
    exact hy.went htasks hgoes.numbering

theorem IsReachable.isNumbered {index : Nat} {config : ShardConfig}
    (hy : IsReachable bus index config y) : y.IsNumbered := by
  induction hy with
  | new => exact isNumbered_new index config
  | step m _ hstep ih => exact ih.step hstep

end System

end GatewayClient
