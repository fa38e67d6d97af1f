import GatewayClient.Proofs.Shard.Effect
import GatewayClient.Proofs.Shard.Establish

/-!
# After a shutdown

A shutdown sets a flag, moves the generation on, forgets the session, and tears down
what is installed at that moment. Loops that connect again look at the flag before each
attempt. An attempt that is under way looks at neither the flag nor the generation: it
goes on after the shutdown, and in the end its connection is established.

* `System.IsFinal`: nothing connects any more, unless the application asks for it.
* `System.IsQuiet.isFinal`: without attempts a shutdown is final, whatever other tasks
  are under way.
* `System.exists_run_connected`: any attempt can still establish a connection.
* `System.isFinal_iff`: a shutdown is final exactly if no attempt is under way when it
  returns.
-/

namespace GatewayClient

/-- Whether the application asks for a connection. -/
def Move.isConnect : Move → Bool
  | .request .connect | .request .start => true
  | _ => false

namespace System

variable {Listener : Type}

/-- The number of messages sent so far that open or resume a session. -/
def handshakes (y : System Listener) : Nat := y.log.countP Note.isHandshake

/-- Whatever happens, the shard never becomes connected and never sends a message that
    opens or resumes a session, as long as the application does not ask for a
    connection. -/
def IsFinal (bus : Bus Listener) (y : System Listener) : Prop :=
  ∀ moves z, (∀ m ∈ moves, m.isConnect = false) → y.run bus moves = some z →
    z.shard.state ≠ .connected ∧ z.handshakes = y.handshakes

/-- The shard was shut down, is not connected, and no attempt is under way. -/
structure IsQuiet (y : System Listener) : Prop where
  isShutDown : y.shard.isShutDown
  state : y.shard.state ≠ .connected
  attempts : ∀ t ∈ y.tasks, t.isAttempt = false

/-- The flag is set where a shutdown is under way that has begun. -/
def IsFlagged (y : System Listener) : Prop := ∀ t ∈ y.tasks, t.isShutdown → y.shard.isShutDown

variable {bus : Bus Listener} {y y' z : System Listener}

/-! ## Without attempts -/

/-- The step lemma: a quiet system stays quiet, and says nothing. -/
theorem IsQuiet.step {m : Move} (h : y.IsQuiet) (hm : m.isConnect = false)
    (hstep : y.step bus m = some y') : y'.IsQuiet ∧ y'.handshakes = y.handshakes := by
  cases m with
  | request r =>
    cases hstep
    refine ⟨⟨h.isShutDown, h.state, fun t ht => ?_⟩, rfl⟩
    rcases List.mem_append.1 ht with ht | ht
    · exact h.attempts t ht
    · rw [List.mem_singleton.1 ht]
      cases r <;> first | rfl | cases hm
  | advance d =>
    cases hstep
    exact ⟨⟨h.isShutDown, h.state, h.attempts⟩, rfl⟩
  | step i input =>
    obtain ⟨front, t, back, r, htasks, ht, -, hgoes, rfl⟩ := goes_of_step hstep
    have hquiet := h.attempts t (List.mem_of_getElem? ht)
    have heffect := hgoes.effect
    refine ⟨⟨heffect.isShutDown h.isShutDown, ?_, ?_⟩, ?_⟩
    · intro hconnected
      rcases heffect.connected hconnected with hs | ht
      · exact h.state hs
      · rw [hquiet] at ht
        cases ht
    · intro t' ht'
      rcases mem_tasks_went htasks ht' with hmem | hmem
      · -- A loop would begin an attempt only on a shard that was not shut down.
        refine Bool.eq_false_iff.2 fun hattempt => ?_
        rcases heffect.attempt t' hmem hattempt with ht | hs
        · rw [hquiet] at ht
          cases ht
        · rw [h.isShutDown] at hs
          cases hs
      · exact h.attempts t' hmem
    · show (r.notes.reverse ++ y.log).countP Note.isHandshake = y.handshakes
      rw [handshakes, List.countP_append]
      refine (Nat.add_eq_right).2 (List.countP_eq_zero.2 fun n hn hhandshake => ?_)
      have := heffect.handshake n (List.mem_reverse.1 hn) hhandshake
      rw [hquiet] at this
      cases this

/-- The run lemma: a quiet system is final. -/
theorem IsQuiet.isFinal (h : y.IsQuiet) : y.IsFinal bus := by
  intro moves
  induction moves generalizing y with
  | nil =>
    rintro z - hrun
    cases hrun
    exact ⟨h.state, rfl⟩
  | cons m rest ih =>
    intro z hmoves hrun
    obtain ⟨y', hstep, hrest⟩ := Option.bind_eq_some_iff.1 hrun
    obtain ⟨hm, hmoves⟩ := List.forall_mem_cons.1 hmoves
    obtain ⟨hquiet, hhandshakes⟩ := h.step hm hstep
    obtain ⟨hstate, hsame⟩ := ih hquiet z hmoves hrest
    exact ⟨hstate, hsame.trans hhandshakes⟩

/-! ## The flag -/

theorem IsFlagged.step {m : Move} (h : y.IsFlagged) (hstep : y.step bus m = some y') :
    y'.IsFlagged := by
  cases m with
  | request r =>
    cases hstep
    intro t ht hs
    rcases List.mem_append.1 ht with ht | ht
    · exact h t ht hs
    · rw [List.mem_singleton.1 ht] at hs
      cases r <;> cases hs
  | advance d =>
    cases hstep
    exact h
  | step i input =>
    obtain ⟨front, t, back, r, htasks, ht, -, hgoes, rfl⟩ := goes_of_step hstep
    have heffect := hgoes.effect
    intro t' ht' hs
    rcases mem_tasks_went htasks ht' with hmem | hmem
    · rcases heffect.shutdown t' hmem hs with ht'' | hflag
      · exact heffect.isShutDown (h t (List.mem_of_getElem? ht) ht'')
      · exact hflag
    · exact heffect.isShutDown (h t' hmem hs)

theorem IsReachable.isFlagged {index : Nat} {config : ShardConfig}
    (h : IsReachable bus index config y) : y.IsFlagged := by
  induction h with
  | new => intro t ht; cases ht
  | step m _ hstep ih => exact ih.step hstep

end System

/-! ## With an attempt -/

namespace Task

variable {Listener : Type}

/-- How many steps are left at most until an attempt has established its connection. -/
def rank : Task → Nat
  | .connecting _ .start => 19
  | .connecting _ .replace => 18
  | .tearingDown _ .stop _ => 17
  | .tearingDown _ .mark _ => 16
  | .tearingDown _ .sink _ => 15
  | .tearingDown _ (.deliver _) _ => 14
  | .tearingDown _ .finish _ => 13
  | .connecting _ .mark => 12
  | .connecting _ .aim => 11
  | .connecting _ .dial => 10
  | .connecting _ (.greet _) => 9
  | .connecting _ (.choose _ _) => 8
  | .connecting _ (.slot _ _) => 7
  | .connecting _ (.deliver _ _ _) => 6
  | .connecting _ (.number _ _) => 5
  | .connecting _ (.stop _ _ _) => 4
  | .connecting _ (.heartbeat _ _ _) => 3
  | .connecting _ (.sink _ _) => 2
  | .connecting _ (.finish _ _) => 1
  | _ => 0

theorem step_greet_brief {s : Shard} {bus : Bus Listener} {fresh : Connection}
    {stopped : List Connection} {now : Instant} {by' : Requester} {c : Connection} :
    (Task.connecting by' (.greet c)).step s bus fresh stopped now (.greeting .brief) =
      some ⟨s, [.connecting by' (.choose c (Duration.ofMillis 1))], none, []⟩ := by
  simp only [step, attemptStep, Greeting.interval_brief]
  rfl

/-- If the outside world plays along, every step of an attempt brings it closer to a
    connection, whatever has happened to the shard in between. -/
theorem exists_step_of_isAttempt (s : Shard) (bus : Bus Listener) (fresh : Connection)
    (stopped : List Connection) (now : Instant) {t : Task} (ht : t.isAttempt) :
    ∃ input r, t.step s bus fresh stopped now input = some r ∧
      (r.shard.state = .connected ∨
        ∃ t', r.tasks = [t'] ∧ t'.isAttempt ∧ t'.rank < t.rank) := by
  cases t with
  | tearingDown code point next =>
    cases next with
    | attempt by' =>
      -- The teardown of an earlier connection, after which the attempt goes on.
      cases point with
      | sink =>
        obtain ⟨s', t', h, ht', hlt⟩ : ∃ s' t', teardownStep s code (.attempt by') .nothing .sink =
            some (⟨s', [t'], none, []⟩ : Step Listener) ∧ t'.isAttempt ∧
            t'.rank < 15 := by
          simp only [teardownStep, Shard.takeSink]
          cases s.sink with
          | none => exact ⟨_, _, rfl, rfl, by simp [rank]⟩
          | some c => exact ⟨_, _, rfl, rfl, by simp [rank]⟩
        exact ⟨.nothing, _, h, .inr ⟨t', rfl, ht', hlt⟩⟩
      | deliver c => exact ⟨.delivered true, _, rfl, .inr ⟨_, rfl, rfl, by simp [rank]⟩⟩
      | _ => exact ⟨.nothing, _, rfl, .inr ⟨_, rfl, rfl, by simp [rank]⟩⟩
    | _ => cases ht
  | connecting by' point =>
    cases point with
    | start =>
      refine ⟨.nothing, _, rfl, .inr ⟨_, rfl, ?_, ?_⟩⟩
      · split <;> rfl
      · split <;> simp [rank]
    | dial => exact ⟨.dialed true, _, rfl, .inr ⟨_, rfl, rfl, by simp [rank]⟩⟩
    | greet c => exact ⟨.greeting .brief, _, step_greet_brief, .inr ⟨_, rfl, rfl, by simp [rank]⟩⟩
    | choose c interval =>
      obtain ⟨t', h, ht', hlt⟩ : ∃ t', attemptStep s by' fresh now .nothing (.choose c interval) =
          some (⟨s, [t'], none, []⟩ : Step Listener) ∧ t'.isAttempt ∧ t'.rank < 8 := by
        simp only [attemptStep]
        cases s.session.handshake with
        | identify => exact ⟨_, rfl, rfl, by simp [rank]⟩
        | resume id n => exact ⟨_, rfl, rfl, by simp [rank]⟩
      exact ⟨.nothing, _, h, .inr ⟨t', rfl, ht', hlt⟩⟩
    | slot c interval => exact ⟨.slot (.ok ()), _, rfl, .inr ⟨_, rfl, rfl, by simp [rank]⟩⟩
    | deliver c interval e => exact ⟨.delivered true, _, rfl, .inr ⟨_, rfl, rfl, by simp [rank]⟩⟩
    | finish c generation => exact ⟨.nothing, _, rfl, .inl rfl⟩
    | launch c generation => cases ht
    | fail => cases ht
    | _ => exact ⟨.nothing, _, rfl, .inr ⟨_, rfl, rfl, by simp [rank]⟩⟩
  | _ => cases ht

end Task

namespace System

variable {Listener : Type} {bus : Bus Listener} {y y' : System Listener}

/-- An attempt that is under way can still establish a connection. -/
theorem exists_run_connected (bus : Bus Listener) {i : Nat} {t : Task}
    (ht : y.tasks[i]? = some t) (hattempt : t.isAttempt) :
    ∃ moves z, (∀ m ∈ moves, m.isConnect = false) ∧ y.run bus moves = some z ∧
      z.shard.state = .connected := by
  -- No other task takes a step meanwhile, so the attempt stays at its place.
  induction hrank : t.rank using Nat.strongRecOn generalizing y t with
  | ind n ih =>
    obtain ⟨input, r, hr, hnext⟩ := Task.exists_step_of_isAttempt y.shard bus y.opened y.stopped
      y.now hattempt
    obtain ⟨y', hstep, hshard, htasks⟩ : ∃ y', y.step bus (.step i input) = some y' ∧
        y'.shard = r.shard ∧ y'.tasks = y.tasks.take i ++ r.tasks ++ y.tasks.drop (i + 1) :=
      ⟨_, step_eq ht hr, rfl, rfl⟩
    rcases hnext with hconnected | ⟨t', hone, hattempt', hlt⟩
    · exact ⟨[.step i input], y', by simp [Move.isConnect], by rw [run, hstep]; rfl,
        hshard ▸ hconnected⟩
    · have ht' : y'.tasks[i]? = some t' := by
        have hi : i < y.tasks.length := (List.getElem?_eq_some_iff.1 ht).1
        rw [htasks, hone]
        simp [Nat.min_eq_left (Nat.le_of_lt hi)]
      obtain ⟨moves, z, hmoves, hrun, hz⟩ := ih t'.rank (hrank ▸ hlt) ht' hattempt' rfl
      refine ⟨.step i input :: moves, z, List.forall_mem_cons.2 ⟨rfl, hmoves⟩, ?_, hz⟩
      rw [run, hstep]
      exact hrun

/-! ## When a shutdown is final -/

/-- When a shutdown is final. In any reachable system let a shutdown return, that is,
    let its teardown take its last step. From then on the shard never becomes connected
    and never opens or resumes a session, unless the application asks for a connection,
    exactly if no attempt to connect is under way at that moment. -/
theorem isFinal_iff {index : Nat} {config : ShardConfig} {i : Nat} {input : Input}
    (hy : IsReachable bus index config y)
    (ht : y.tasks[i]? = some (.tearingDown CloseCode.normal.code .finish .over))
    (hstep : y.step bus (.step i input) = some y') :
    y'.IsFinal bus ↔ ∀ t ∈ y'.tasks, t.isAttempt = false := by
  constructor
  · intro h t hmem
    refine Bool.eq_false_iff.2 fun hattempt => ?_
    obtain ⟨j, hj⟩ := List.getElem?_of_mem hmem
    obtain ⟨moves, z, hmoves, hrun, hz⟩ := exists_run_connected bus hj hattempt
    exact (h moves z hmoves hrun).1 hz
  · intro h
    have hflag : y.shard.isShutDown := hy.isFlagged _ (List.mem_of_getElem? ht) rfl
    obtain ⟨t, r, ht', hr, hshard, -, -⟩ := step_cases hstep
    rw [ht, Option.some_inj] at ht'
    subst ht'
    -- The last step of a teardown leaves the shard without a connection.
    cases hr
    refine IsQuiet.isFinal ⟨?_, ?_, h⟩
    · rw [hshard]
      exact hflag
    · rw [hshard]
      nofun

/-- A system with certain tasks in which an attempt to connect was made and a shutdown has
    begun its teardown. -/
def tornDown (s : Shard) (opened : Nat) (tasks : List Task) : System Unit :=
  ⟨s, 0, opened, [], tasks, [.shutDown, .dialed s.target]⟩

/-- A shutdown that finds a loop asleep after a failed attempt is final. -/
theorem isFinal_iff_asleep :
    let s : Shard := { Shard.new 0 {} with generation := 1, isShutDown := true }
    let asleep : Task := .asleep 1 (Duration.ofSeconds 1)
    let y := tornDown s 0 [asleep, .tearingDown CloseCode.normal.code .finish .over]
    IsReachable .empty 0 {} y ∧ y.step .empty (.step 1 .nothing) = some (tornDown s 0 [asleep]) ∧
      (tornDown s 0 [asleep]).IsFinal .empty := by
  intro s asleep y
  have hrun : (System.new 0 {} : System Unit).run .empty ([.request .reconnect,
      .step 0 .nothing, .step 0 .nothing, .step 0 .nothing, .step 0 .nothing, .step 0 .nothing,
      .step 0 (.dialed false), .step 0 (.wait (Duration.ofSeconds 1)), .request .shutdown] ++
      List.replicate 6 (.step 1 .nothing)) = some y := rfl
  have hstep : y.step .empty (.step 1 .nothing) = some (tornDown s 0 [asleep]) := rfl
  exact ⟨IsReachable.new.run hrun, hstep,
    (isFinal_iff (IsReachable.new.run hrun) rfl hstep).2 (by decide)⟩

/-- An attempt waits for the greeting when the shard is shut down. Then the gateway
    greets, and the shard, shut down as it is, opens a session and becomes connected. -/
theorem exists_connected_after_shutdown :
    let s : Shard := { Shard.new 0 {} with generation := 1, isShutDown := true }
    let attempt : Task := .connecting .application (.greet 0)
    let y := tornDown (s.setState .disconnecting) 1
      [attempt, .tearingDown CloseCode.normal.code .finish .over]
    IsReachable .empty 0 {} y ∧ y.step .empty (.step 1 .nothing) = some (tornDown s 1 [attempt]) ∧
      ∃ z, (tornDown s 1 [attempt]).run .empty ([.step 0 (.greeting .brief), .step 0 .nothing,
          .step 0 (.slot (.ok ())), .step 0 (.delivered true)] ++
          List.replicate 5 (.step 0 .nothing)) = some z ∧
        (tornDown s 1 [attempt]).handshakes = 0 ∧ z.handshakes = 1 ∧
        z.shard.state = .connected := by
  intro s attempt y
  have hrun : (System.new 0 {} : System Unit).run .empty ([.request .connect, .step 0 .nothing,
      .step 0 .nothing, .step 0 .nothing, .step 0 (.dialed true), .request .shutdown] ++
      List.replicate 6 (.step 1 .nothing)) = some y := rfl
  refine ⟨IsReachable.new.run hrun, rfl, ?_⟩
  have hstep : (tornDown s 1 [attempt]).step .empty (.step 0 (.greeting .brief)) =
      some (tornDown s 1 [.connecting .application (.choose 0 (Duration.ofMillis 1))]) := by
    rw [step_eq rfl Task.step_greet_brief]
    rfl
  rw [List.cons_append, run, hstep]
  exact ⟨_, rfl, rfl, rfl, rfl⟩

end System

end GatewayClient
