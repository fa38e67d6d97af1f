import GatewayClient.Proofs.Shard.Survival

/-!
# How a loss is handled

What is done about a loss is done by the one task to which it was news: it applies the
close code to the session, tears the connection down, and decides whether a loop is to
connect again. As a loss is news once for each connection, each of this is done once.

`System.Handling` says which loss each task of a system handles and what was done about
losses before; for every reachable system there is something that it says.

* `System.count_losses_of_run`: a loss is no news once the generation has moved on.
* `System.Handling.count_handled_add_le`: what is done about a loss.
-/

namespace GatewayClient

variable {Listener : Type}

/-- What is done about a loss. -/
inductive LossPart where
  /-- The close code is applied to the session. -/
  | void
  /-- The connection is torn down. -/
  | teardown
  /-- A loop is started that connects again. -/
  | reconnect
  deriving DecidableEq, Repr

namespace Task

/-- What a task does about a loss in its next step. -/
def lossPart? (s : Shard) : Task → Option LossPart
  | .voiding _ => some .void
  | .tearingDown _ .stop (.decide _) => some .teardown
  | .deciding code =>
    if s.wantsReconnect && !code.any CloseCode.codeIsFatal then some .reconnect else none
  | _ => none

/-- Whether a step of a task moves the generation on, so that nothing about the connections
    before is news any more: the connection is dropped, the shard is shut down, or another
    connection is given its generation. -/
def movesOn : Task → Bool
  | .killing | .shuttingDown .bump | .connecting _ .replace | .connecting _ (.number _ _) => true
  | _ => false

/-- Whether a task has still to do something about a loss. -/
def owes : LossPart → Task → Bool
  | .void, .voiding _ => true
  | .teardown, .voiding _ | .teardown, .tearingDown _ .stop (.decide _) => true
  | .reconnect, .voiding _ | .reconnect, .tearingDown _ _ (.decide _)
  | .reconnect, .deciding _ => true
  | _, _ => false

/-- The generation whose loss is handled by what has become of a task, where the task
    itself handles that of `cause`. -/
def causeAfter (s : Shard) (cause : Option Nat) : Task → Option Nat
  | .losing generation _ => if s.generation = generation then some generation else none
  | .voiding _ | .tearingDown _ _ _ => cause
  | _ => none

end Task

/-- What was done about losses in the course of a system: its tasks, each with the
    generation whose loss it handles, if it does, and what was done so far, with the
    generation whose loss it was done about. -/
inductive System.Handling (bus : Bus Listener) (index : Nat) (config : ShardConfig) :
    System Listener → List (Task × Option Nat) → List (Nat × LossPart) → Prop
  | new : Handling bus index config (.new index config) [] []
  | request {y : System Listener} {tasks : List (Task × Option Nat)}
      {handled : List (Nat × LossPart)} (request : Request) :
    Handling bus index config y tasks handled →
      Handling bus index config { y with tasks := y.tasks ++ [request.task] }
        (tasks ++ [(request.task, none)]) handled
  | advance {y : System Listener} {tasks : List (Task × Option Nat)}
      {handled : List (Nat × LossPart)} (d : Duration) :
    Handling bus index config y tasks handled →
      Handling bus index config { y with now := y.now + d } tasks handled
  | step {y : System Listener} {front : List (Task × Option Nat)} {t : Task}
      {cause : Option Nat} {back : List (Task × Option Nat)} {handled : List (Nat × LossPart)}
      {input : Input} {r : Step Listener} :
    Handling bus index config y (front ++ (t, cause) :: back) handled →
      t.step y.shard bus y.opened y.stopped y.now input = some r →
      Handling bus index config (y.went (front.map Prod.fst) input r (back.map Prod.fst))
        (front ++ r.tasks.map (·, t.causeAfter y.shard cause) ++ back)
        ((cause.bind fun generation => (t.lossPart? y.shard).map (generation, ·)).toList ++ handled)

namespace Task

variable {s : Shard} {fresh : Connection} {now : Instant} {input : Input} {t : Task}
  {r : Step Listener}

theorem Goes.generation_of_movesOn (h : t.Goes s fresh now input r) (hmoves : t.movesOn) :
    r.shard.generation = s.generation + 1 := by
  cases h with
  | kill | bumpShutDown | replace | number => rfl
  | failing by' point hpoint =>
    obtain rfl | ⟨c, rfl⟩ | ⟨c, interval, rfl⟩ | ⟨c, interval, e, rfl⟩ := hpoint <;> cases hmoves
  | _ => cases hmoves

/-- What is done about a loss was still to be done; and what is still to be done about a
    loss was so already, or the loss is news. -/
theorem Goes.owes (h : t.Goes s fresh now input r) (cause : Option Nat) (generation : Nat)
    (part : LossPart) :
    (cause.bind fun generation => (t.lossPart? s).map (generation, ·)).toList.count
        (generation, part) +
      (r.tasks.countP fun t' => t.causeAfter s cause = some generation ∧ t'.owes part) ≤
    (if cause = some generation ∧ t.owes part then 1 else 0) +
      (r.notes.filterMap Note.loss?).count generation := by
  by_cases hcause : cause = some generation
  · subst hcause
    cases h with
    | lose generation' code hgeneration =>
      by_cases hg : generation' = generation
      · cases part <;> simp [lossPart?, causeAfter, hgeneration, hg, Note.loss?, Task.owes]
      · simp [lossPart?, causeAfter, hgeneration, hg]
    | void code => cases part <;> simp [lossPart?, causeAfter, Task.owes]
    | takeStop code next | markDisconnecting code next | takeSink code next | noSink code next
    | tornDown code next =>
      cases next <;> cases part <;> simp [lossPart?, causeAfter, Task.owes, after]
    | close code c next =>
      cases next <;> cases part <;> simp [lossPart?, causeAfter, Task.owes]
    | reconnect code hwants hfatal =>
      cases part <;> simp [lossPart?, causeAfter, Task.owes, hwants, hfatal]
    | stayDead code hstay => simp [lossPart?, causeAfter, hstay]
    | failing by' point hpoint => simp [lossPart?, causeAfter]
    | _ => simp [lossPart?, causeAfter]
  · -- The task handles another loss, or none, unless one is news now.
    have hdone : (cause.bind fun generation => (t.lossPart? s).map (generation, ·)).toList.count
        (generation, part) = 0 := by
      refine List.count_eq_zero.2 fun hmem => hcause ?_
      obtain ⟨g, hg, hpart⟩ := Option.bind_eq_some_iff.1 (Option.mem_toList.1 hmem)
      obtain ⟨p, -, hp⟩ := Option.map_eq_some_iff.1 hpart
      rw [hg, (Prod.mk.inj hp).1]
    rw [hdone, Nat.zero_add]
    cases h with
    | lose generation' code hgeneration =>
      by_cases hg : generation' = generation
      · cases part <;> simp [causeAfter, hgeneration, hg, Note.loss?, Task.owes]
      · simp [causeAfter, hgeneration, hg]
    | _ => simp [causeAfter, hcause]

end Task

namespace System

variable {bus : Bus Listener} {y y' z : System Listener} {moves : List Move}

/-- The generation never moves back, and once it has moved on the loss is no news. -/
theorem count_losses_of_step {m : Move} (h : y.step bus m = some y') {generation : Nat}
    (hlt : generation < y.shard.generation) :
    generation < y'.shard.generation ∧
      y'.losses.count generation = y.losses.count generation := by
  cases m with
  | request request =>
    rw [eq_of_request h]
    exact ⟨hlt, rfl⟩
  | advance d =>
    rw [eq_of_advance h]
    exact ⟨hlt, rfl⟩
  | step i input =>
    obtain ⟨front, t, back, r, -, -, -, hgoes, rfl⟩ := goes_of_step h
    refine ⟨Nat.lt_of_lt_of_le hlt hgoes.numbering.generation, ?_⟩
    have hnotes : (r.notes.filterMap Note.loss?).count generation = 0 := by
      rcases hgoes.numbering.loss with hnone | ⟨-, hloss, -⟩
      · rw [hnone, List.count_nil]
      · rw [hloss, List.count_singleton, if_neg (by simpa using Nat.ne_of_gt hlt)]
    simp [losses, went, List.filterMap_append, List.count_append, hnotes]

theorem count_losses_of_run (h : y.run bus moves = some z) {generation : Nat}
    (hlt : generation < y.shard.generation) :
    z.losses.count generation = y.losses.count generation := by
  induction moves generalizing y with
  | nil =>
    cases h
    rfl
  | cons m rest ih =>
    obtain ⟨y', hstep, hrest⟩ := Option.bind_eq_some_iff.1 h
    obtain ⟨hlt', hcount⟩ := count_losses_of_step hstep hlt
    rw [ih hrest hlt', hcount]

end System

namespace System.Handling

variable {bus : Bus Listener} {index : Nat} {config : ShardConfig} {y : System Listener}
  {tasks : List (Task × Option Nat)} {handled : List (Nat × LossPart)}

theorem tasks_eq (h : Handling bus index config y tasks handled) :
    tasks.map Prod.fst = y.tasks := by
  induction h with
  | new => rfl
  | request request _ ih => rw [List.map_append, ih, List.map_singleton]
  | advance d _ ih => exact ih
  | step _ _ _ => simp [went, Function.comp_def]

/-- It is known of every reachable system. -/
theorem exists_of_isReachable (hy : IsReachable bus index config y) :
    ∃ tasks handled, Handling bus index config y tasks handled := by
  induction hy with
  | new => exact ⟨[], [], .new⟩
  | step m _ hstep ih =>
    obtain ⟨tasks, handled, ih⟩ := ih
    cases m with
    | request request =>
      rw [eq_of_request hstep]
      exact ⟨_, _, ih.request request⟩
    | advance d =>
      rw [eq_of_advance hstep]
      exact ⟨_, _, ih.advance d⟩
    | step i input =>
      obtain ⟨front, t, back, r, htasks, -, hr, -, rfl⟩ := goes_of_step hstep
      rw [← ih.tasks_eq] at htasks
      obtain ⟨front, rest, rfl, rfl, hrest⟩ := List.map_eq_append_iff.1 htasks
      obtain ⟨⟨t, cause⟩, back, rfl, rfl, rfl⟩ := List.map_eq_cons_iff.1 hrest
      exact ⟨_, _, ih.step hr⟩

/-- What has been done about a loss, and what is still to be done by the tasks that handle
    it, is as much as the loss was news. -/
theorem count_handled_add_le (h : Handling bus index config y tasks handled) (generation : Nat)
    (part : LossPart) :
    handled.count (generation, part) +
        tasks.countP (fun t => t.2 = some generation ∧ t.1.owes part) ≤
      y.losses.count generation := by
  induction h with
  | new => exact Nat.le_refl _
  | @request y _ _ request _ ih =>
    have hlosses : losses { y with tasks := y.tasks ++ [request.task] } = y.losses := rfl
    simpa [List.countP_append, hlosses] using ih
  | advance d _ ih => exact ih
  | @step y front t cause back handled input r _ hr ih =>
    have howes := (Task.goes_of_step hr).owes cause generation part
    have hlosses : (y.went (front.map Prod.fst) input r (back.map Prod.fst)).losses =
        (r.notes.filterMap Note.loss?).reverse ++ y.losses := by
      simp [losses, went]
    have hnew : (r.tasks.map (·, t.causeAfter y.shard cause)).countP
        (fun t => t.2 = some generation ∧ t.1.owes part) =
          r.tasks.countP fun t' => t.causeAfter y.shard cause = some generation ∧ t'.owes part :=
      List.countP_map ..
    simp only [List.countP_append, List.countP_cons, List.count_append, hlosses, hnew,
      List.count_reverse, decide_eq_true_eq] at ih howes ⊢
    omega

end System.Handling

/-! ## Stale tasks -/

namespace Task

variable {s : Shard} {fresh : Connection} {now : Instant} {input : Input} {t : Task}
  {r : Step Listener}

/-- Whether a task was started for another connection than that of a generation: a reader or
    a monitor of another, or what handles the loss of another. -/
def isStale (generation : Nat) : Task → Bool
  | .reading generation' _ | .looking generation' _ | .losing generation' _
  | .monitoring generation' _ _ | .beating generation' _ | .numbering generation' _ _ _
  | .sending generation' _ _ _ _ | .recording generation' _ _ _ => generation' ≠ generation
  | .deciding _ => true
  | t => t.isHandler

theorem isStale_of_isHandler (generation : Nat) (h : t.isHandler) : t.isStale generation := by
  cases t with
  | voiding code => rfl
  | tearingDown code point next => exact h
  | _ => cases h

/-- A stale task that does not handle a loss leaves the connection alone. -/
theorem Goes.of_stale (h : t.Goes s fresh now input r) (hstate : s.state = .connected)
    (hstale : t.isStale s.generation) (hhandler : t.isHandler = false) :
    (∃ session heartbeat, r.shard = { s with session, heartbeat }) ∧
      ∀ t' ∈ r.tasks, t'.isHandler = false := by
  cases hdecides : t.threatens s with
  | true =>
    -- Only a decision is left, and all that it does is to start a loop.
    cases t with
    | deciding code =>
      cases h with
      | reconnect => exact ⟨⟨_, _, rfl⟩, by simp [isHandler]⟩
      | stayDead => exact ⟨⟨_, _, rfl⟩, by simp⟩
    | losing generation code => simp_all [isStale, threatens]
    | tearingDown code point next => exact absurd hstale (by simpa [isStale] using hhandler)
    | voiding code => cases hhandler
    | killing | shuttingDown | connecting | retrying | asleep => cases hstale
    | _ => cases hdecides
  | false =>
    have hquiet : t.noticesLoss s now input = false := by
      cases t with
      | reading generation c | beating generation c | sending generation c at' interval sequence =>
        have hne : s.generation ≠ generation := fun h => by simp [isStale, h] at hstale
        cases input <;> simp [noticesLoss, hne]
      | _ => simp [noticesLoss]
    obtain ⟨hshard, htasks⟩ := h.of_harmless hstate hdecides hquiet
    refine ⟨hshard, fun t' ht' => ?_⟩
    cases hh : t'.isHandler with
    | false => rfl
    | true =>
      exact absurd ((htasks t' ht').symm.trans (threatens_of_isHandler s hh)) Bool.false_ne_true

end Task

namespace System

variable {bus : Bus Listener} {index : Nat} {config : ShardConfig} {y z : System Listener}

/-- Stale tasks leave the connection alone, unless one of them still handles a loss. -/
theorem Reaches.keeps_of_stale (hstate : y.shard.state = .connected)
    (hhandlers : ∀ t ∈ y.tasks, t.isHandler = false)
    (h : Reaches bus (movesOnly (Task.isStale y.shard.generation)) y z) :
    y.shard.Keeps z.shard := by
  suffices hsuff : (∃ session heartbeat, z.shard = { y.shard with session, heartbeat }) ∧
      ∀ t ∈ z.tasks, t.isHandler = false by
    obtain ⟨⟨session, heartbeat, hz⟩, -⟩ := hsuff
    rw [hz]
    exact ⟨hstate, rfl, rfl⟩
  induction h with
  | refl => exact ⟨⟨_, _, rfl⟩, hhandlers⟩
  | @step z z' m _ hkind hstep ih =>
    obtain ⟨⟨session, heartbeat, hz⟩, htasks⟩ := ih
    cases m with
    | request request => cases hkind
    | advance d =>
      rw [eq_of_advance hstep]
      exact ⟨⟨session, heartbeat, hz⟩, htasks⟩
    | step i input =>
      obtain ⟨front, t, back, r, hsplit, hi, -, hgoes, rfl⟩ := goes_of_step hstep
      have hstale : t.isStale z.shard.generation := by
        rw [hz]
        simpa [movesOnly, hi] using hkind
      obtain ⟨⟨session', heartbeat', hr⟩, hnew⟩ :=
        hgoes.of_stale (by rw [hz]; exact hstate) hstale (htasks t (by simp [hsplit]))
      refine ⟨⟨session', heartbeat', hr.trans (by rw [hz])⟩, fun t' ht' => ?_⟩
      rcases mem_tasks_went hsplit ht' with ht' | ht'
      · exact hnew t' ht'
      · exact htasks t' ht'

/-- The stale tasks of a connected shard leave its connection alone exactly if none of them
    still handles a loss. -/
theorem keeps_of_stale_iff (hy : IsReachable bus index config y)
    (hstate : y.shard.state = .connected) :
    (∀ z, Reaches bus (movesOnly (Task.isStale y.shard.generation)) y z → y.shard.Keeps z.shard) ↔
      ∀ t ∈ y.tasks, t.isHandler = false := by
  constructor
  · intro h t ht
    cases hhandler : t.isHandler with
    | false => rfl
    | true =>
      obtain ⟨z, hreaches, hlost⟩ :=
        exists_lost_of_threatens hy hstate ht (Task.threatens_of_isHandler _ hhandler)
      refine absurd (h z (hreaches.mono fun y' m hkind => ?_)) hlost
      have hmoves : y'.movesOnly Task.isHandler m := by
        simpa [hhandler] using (Bool.and_eq_true_iff.1 hkind).2
      cases m with
      | request request => exact hmoves
      | advance d => rfl
      | step i input =>
        simp only [movesOnly, Option.all_eq_true] at hmoves ⊢
        exact fun t' ht' => Task.isStale_of_isHandler _ (hmoves t' ht')
  · exact fun hhandlers z hreaches => hreaches.keeps_of_stale hstate hhandlers

/-! ## Once for each connection -/

/-- What a shard makes of the losses of its connections. -/
structure HandlesOnce (bus : Bus Listener) (index : Nat) (config : ShardConfig)
    (y : System Listener) : Prop where
  /-- No two connections are given the same generation, -/
  numbered : (y.all Task.numbered? Note.generation?).Nodup
  /-- and no connection is established twice. -/
  connections : y.connections.Nodup
  /-- Whoever watches a connection, or has noticed its loss, was started for one that was
      established. -/
  watched : ∀ t ∈ y.tasks, ∀ generation, t.watched? = some generation →
    generation ∈ y.generations
  /-- Of all notices of the loss of a connection one at most is news, -/
  nodup : y.losses.Nodup
  established : ∀ generation ∈ y.losses, generation ∈ y.generations
  /-- and none is news any more when the generation has moved on, -/
  outdated : ∀ generation < y.shard.generation, ∀ moves z, y.run bus moves = some z →
    z.losses.count generation = y.losses.count generation
  /-- as it has after each step that moves it on. -/
  movesOn : ∀ i input t z, y.tasks[i]? = some t → t.movesOn →
    y.step bus (.step i input) = some z →
    ∀ generation ∈ y.generations, generation < z.shard.generation
  /-- What is done about losses can be told, -/
  traced : ∃ tasks handled, Handling bus index config y tasks handled
  /-- and each part of it is done once at most for each connection. -/
  handled : ∀ tasks handled, Handling bus index config y tasks handled →
    ∀ generation part, handled.count (generation, part) ≤ 1 ∧
      (0 < handled.count (generation, part) → generation ∈ y.generations)
  /-- The stale tasks leave the connection that the shard has alone exactly if none of them
      still handles a loss. -/
  stale : y.shard.state = .connected →
    ((∀ z, Reaches bus (movesOnly (Task.isStale y.shard.generation)) y z →
        y.shard.Keeps z.shard) ↔
      ∀ t ∈ y.tasks, t.isHandler = false)

theorem IsReachable.handlesOnce (hy : IsReachable bus index config y) :
    y.HandlesOnce bus index config where
  numbered := hy.isNumbered.numbered
  connections := (List.nodup_append.1 hy.isNumbered.held).2.1
  watched := hy.isNumbered.watched
  nodup := hy.isNumbered.nodup
  established generation hgeneration := (hy.isNumbered.lost generation hgeneration).1
  outdated generation hlt moves z hrun := count_losses_of_run hrun hlt
  movesOn i input t z hi hmoves hstep generation hgeneration := by
    obtain ⟨front, t', back, r, -, hi', -, hgoes, rfl⟩ := goes_of_step hstep
    obtain rfl : t' = t := Option.some.inj (hi'.symm.trans hi)
    have hle := hy.isNumbered.le generation (List.mem_append_right _ hgeneration)
    have hgeneration' : r.shard.generation = y.shard.generation + 1 :=
      hgoes.generation_of_movesOn hmoves
    exact Nat.lt_of_le_of_lt hle (Nat.lt_of_lt_of_eq (Nat.lt_succ_self _) hgeneration'.symm)
  traced := Handling.exists_of_isReachable hy
  handled tasks handled hhandling generation part := by
    have hle := Nat.le_trans (Nat.le_add_right _ _) (hhandling.count_handled_add_le generation part)
    have hone := List.nodup_iff_count.1 hy.isNumbered.nodup generation
    refine ⟨Nat.le_trans hle hone, fun hpos => ?_⟩
    have hmem := List.count_pos_iff.1 (Nat.lt_of_lt_of_le hpos hle)
    exact (hy.isNumbered.lost generation hmem).1
  stale hstate := keeps_of_stale_iff hy hstate

/-- A shard whose first connection was lost, and dropped by an attempt to connect again
    before the loss was handled. The attempt waits for the greeting. -/
def secondDialed : System Unit where
  shard := { firstShard with state := .connecting, sink := none, stop := none, generation := 3 }
  now := 0
  opened := 2
  stopped := [0]
  tasks := [.voiding none, .monitoring 1 0 0] ++ .connecting .application (.greet 1) :: []
  log := [.dialed firstShard.target, .sent 0 (.close CloseCode.resumable), .lost 1] ++
    (firstConnected []).log

theorem isReachable_secondDialed : IsReachable .empty 0 {} secondDialed := by
  have hlose : (firstConnected []).run .empty ([.step 0 (.inbound .lost), .step 0 .nothing,
      .request .connect] ++ List.replicate 5 (.step 2 .nothing) ++ [.step 2 (.delivered true),
      .step 2 .nothing, .step 2 .nothing, .step 2 .nothing, .step 2 (.dialed true)]) =
    some secondDialed := rfl
  exact isReachable_first.run hlose

theorem handlesOnce_secondDialed : IsReachable .empty 0 {} secondDialed ∧
    secondDialed.generations = [1] ∧ secondDialed.losses = [1] ∧
    secondDialed.HandlesOnce .empty 0 {} :=
  ⟨isReachable_secondDialed, rfl, rfl, isReachable_secondDialed.handlesOnce⟩

/-- The loss of a connection is still handled when the next one is established, and takes
    that one down. -/
theorem exists_closed_by_handler : ∃ y z : System Unit, IsReachable .empty 0 {} y ∧
    y.shard.state = .connected ∧ y.shard.generation = 4 ∧ y.shard.sink = some 1 ∧
    Reaches .empty (movesOnly (Task.isStale 4)) y z ∧
    .sent 1 (.close CloseCode.resumable) ∈ z.log ∧ z.shard.state = .dead := by
  have htasks : secondDialed.tasks =
    [.voiding none, .monitoring 1 0 0] ++ .connecting .application (.greet 1) :: [] := rfl
  have hrun := isReachable_secondDialed.run
    (run_identify (d := 0) htasks Greeting.interval_brief rfl rfl)
  have hclose : ∃ z, (established { secondDialed with
        log := .sent 1 (.message (secondDialed.shard.opening .identify)) :: secondDialed.log }
        [.voiding none, .monitoring 1 0 0] [] 1 (Duration.ofMillis 1) 0).runOn .empty
          (movesOnly (Task.isStale 4))
          (List.replicate 4 (.step 0 .nothing) ++ [.step 0 (.delivered true), .step 0 .nothing]) =
        some z ∧
      .sent 1 (.close CloseCode.resumable) ∈ z.log ∧ z.shard.state = .dead :=
    ⟨_, rfl, List.mem_cons_self, rfl⟩
  obtain ⟨z, hrun', hclosed⟩ := hclose
  exact ⟨_, z, hrun, rfl, rfl, rfl, .of_runOn hrun', hclosed⟩

end System

end GatewayClient
