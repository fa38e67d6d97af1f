import GatewayClient.Proofs.Shard.Establish
import GatewayClient.Proofs.Shard.Generation

/-!
# What takes a connection down

A shard that is connected stays so until its connection is lost or someone takes it down.
That can only be a task that is already under way: one that tears a connection down, one
that attempts to connect, or a loop that will. Each of them does take the connection down
if the outside world lets it go on, and all other tasks leave it alone.

* `Task.threatens`: the tasks that take a connection down.
* `Task.Goes.of_harmless`: the others do nothing to it.
* `System.exists_lost_of_threatens`: these do.
-/

namespace GatewayClient

variable {Listener : Type}

/-- Whether a shard still has the connection that it has. -/
structure Shard.Keeps (s s' : Shard) : Prop where
  state : s'.state = .connected
  sink : s'.sink = s.sink
  generation : s'.generation = s.generation

namespace Task

/-- Whether a task notices that the shard's own connection is lost: its reader gets a close
    frame, an error or the end of the stream, or a frame by which the gateway wants it
    replaced; or its monitor finds that a heartbeat was not acknowledged, or cannot send
    the next one. -/
def noticesLoss (s : Shard) (now : Instant) : Input → Task → Bool
  | .inbound i, .reading generation _ => s.generation = generation && i.isLoss
  | _, .beating generation _ => s.generation = generation && s.heartbeat.check now = .zombie
  | .delivered isDelivered, .sending generation _ _ _ _ =>
    s.generation = generation && (s.sink.isNone || !isDelivered)
  | _, _ => false

/-- Whether a task is about to take the shard's connection down. -/
def threatens (s : Shard) : Task → Bool
  | .killing | .shuttingDown _ | .tearingDown _ _ _ | .voiding _ => true
  | .connecting _ (.finish _ _) | .connecting _ (.launch _ _) => false
  | .connecting _ _ => true
  | .retrying _ | .asleep _ _ => !s.isShutDown
  | .deciding code => s.wantsReconnect && !code.any CloseCode.codeIsFatal
  | .losing generation _ => s.generation = generation
  | _ => false

/-- The connection of an attempt whose sending half is not installed yet. -/
def unsunk? : Task → Option Connection
  | .connecting _ (.finish _ _) => none
  | t => t.held?

variable {s : Shard} {fresh : Connection} {now : Instant} {input : Input} {t : Task}
  {r : Step Listener}

/-- All other tasks change nothing but the session and the heartbeats, as long as no loss is
    noticed, and start no such tasks. -/
theorem Goes.of_harmless (h : t.Goes s fresh now input r) (hstate : s.state = .connected)
    (hharmless : t.threatens s = false) (hquiet : t.noticesLoss s now input = false) :
    (∃ session heartbeat, r.shard = { s with session, heartbeat }) ∧
      ∀ t' ∈ r.tasks, t'.threatens s = false := by
  cases h with
  | establish by' c generation =>
    refine ⟨⟨s.session, s.heartbeat, ?_⟩, by simp [threatens]⟩
    rw [Shard.setState, ← hstate]
  | retry failures hshut => simp [threatens, hshut] at hharmless
  | wake failures wake hwake =>
    exact ⟨⟨s.session, s.heartbeat, rfl⟩, by simpa [threatens] using hharmless⟩
  | read generation c text session heartbeat calls =>
    exact ⟨⟨session, heartbeat, rfl⟩, by simp [threatens]⟩
  | readLoss generation c i code session heartbeat calls hloss =>
    refine ⟨⟨session, heartbeat, rfl⟩, ?_⟩
    simpa [threatens, noticesLoss, hloss] using hquiet
  | zombie generation c hcheck =>
    exact ⟨⟨s.session, s.heartbeat, rfl⟩, by simpa [threatens, noticesLoss, hcheck] using hquiet⟩
  | sendLoss generation c at' interval sequence isDelivered hfails =>
    refine ⟨⟨s.session, s.heartbeat, rfl⟩, ?_⟩
    rcases hfails with hfails | hfails <;> simpa [threatens, noticesLoss, hfails] using hquiet
  | lose generation code hgeneration => simp [threatens, hgeneration] at hharmless
  | reconnect code hwants hfatal => simp [threatens, hwants, hfatal] at hharmless
  | record generation c at' interval =>
    exact ⟨⟨s.session, s.heartbeat.recordSent at', rfl⟩, by simp [threatens]⟩
  | failing by' point hpoint =>
    obtain rfl | ⟨c, rfl⟩ | ⟨c, interval, rfl⟩ | ⟨c, interval, e, rfl⟩ := hpoint <;>
      simp [threatens] at hharmless
  | launch | giveUp | readOther | readerStopped | readOn | readNoMore | notNews | stayDead | pace
  | tick | tickNoMore | monitorStopped | beat | numberBeat | send =>
    exact ⟨⟨s.session, s.heartbeat, rfl⟩, by simp [threatens]⟩
  | _ => simp [threatens] at hharmless

/-! ## Tasks that take a connection down -/

/-- Whether a task handles the loss of a connection and has not torn it down yet. -/
def isHandler : Task → Bool
  | .voiding _ | .tearingDown _ _ (.decide _) => true
  | _ => false

theorem threatens_of_isHandler (s : Shard) (h : t.isHandler) : t.threatens s := by
  cases t with
  | voiding code => rfl
  | tearingDown code point next => rfl
  | _ => cases h

theorem noticesLoss_of_threatens (input : Input) (now : Instant) (h : t.threatens s) :
    t.noticesLoss s now input = false := by
  cases t with
  | reading generation c => cases h
  | beating generation c => cases h
  | sending generation c at' interval sequence => cases h
  | _ => simp [noticesLoss]

/-- How many steps a task takes at most until it has taken the connection down. -/
def fuse : Task → Nat
  | .voiding _ | .shuttingDown .clear => 5
  | .tearingDown _ .stop _ => 4
  | .tearingDown _ .mark _ | .tearingDown _ .sink _ => 3
  | .tearingDown _ (.deliver _) _ => 2
  | .deciding _ | .asleep _ _ => 4
  | .retrying _ => 3
  | .connecting _ .start => 2
  | .connecting _ .aim | .connecting _ (.choose _ _) | .connecting _ (.stop _ _ _) => 3
  | .connecting _ .dial | .connecting _ (.greet _) | .connecting _ (.slot _ _)
  | .connecting _ (.deliver _ _ _) | .connecting _ (.heartbeat _ _ _) => 2
  | .shuttingDown .mark => 2
  | _ => 1

/-- The outside world can let such a task go on so that it takes the connection down, or
    comes closer to it. -/
theorem exists_step_of_threatens (s : Shard) (bus : Bus Listener) (fresh : Connection)
    (stopped : List Connection) (now : Instant) (hstate : s.state = .connected)
    (hthreat : t.threatens s) (hsink : ∀ c, t.unsunk? = some c → s.sink ≠ some c) :
    ∃ d input r, t.step s bus fresh stopped (now + d) input = some r ∧
      (¬ s.Keeps r.shard ∨ s.Keeps r.shard ∧ ∃ t', r.tasks = [t'] ∧ t'.threatens r.shard ∧
        t'.fuse < t.fuse ∧ (t.isHandler → t'.isHandler)) := by
  have hbump : ¬ s.Keeps s.bump := fun h => Nat.succ_ne_self _ h.generation
  have hnot {t t' : Task} (h : t.isHandler = false) : t.isHandler → t'.isHandler := fun h' =>
    absurd h' (Bool.eq_false_iff.1 h)
  have hdead : ¬ s.Keeps (s.setState .dead) := fun h => by cases h.state
  cases t with
  | killing => exact ⟨0, .nothing, _, rfl, .inl hbump⟩
  | shuttingDown point =>
    cases point with
    | mark =>
      exact ⟨0, .nothing, _, rfl, .inr ⟨⟨hstate, rfl, rfl⟩, _, rfl, rfl, by decide, hnot rfl⟩⟩
    | bump => exact ⟨0, .nothing, _, rfl, .inl hbump⟩
    | clear =>
      exact ⟨0, .nothing, _, rfl, .inr ⟨⟨hstate, rfl, rfl⟩, _, rfl, rfl, by simp [fuse], hnot rfl⟩⟩
  | tearingDown code point next =>
    have hhandler (p p' : TeardownPoint) : (tearingDown code p next).isHandler →
        (tearingDown code p' next).isHandler := by
      cases next <;> exact id
    cases point with
    | stop =>
      exact ⟨0, .nothing, _, rfl, .inr ⟨⟨hstate, rfl, rfl⟩, _, rfl, rfl, by simp [fuse],
        hhandler _ _⟩⟩
    | mark =>
      refine ⟨0, .nothing, _, rfl, .inl fun h => ?_⟩
      have hstate' := h.state
      simp [Shard.markDisconnecting, hstate, Shard.setState] at hstate'
    | sink =>
      cases hs : s.sink with
      | none =>
        refine ⟨0, .nothing, ⟨{ s with sink := none }, [.tearingDown code .finish next], none, []⟩,
          ?_, .inr ⟨⟨hstate, hs.symm, rfl⟩, _, rfl, rfl, by simp [fuse], hhandler _ _⟩⟩
        simp only [step, teardownStep, Shard.takeSink, hs, goto]
      | some c =>
        refine ⟨0, .nothing,
          ⟨{ s with sink := none }, [.tearingDown code (.deliver c) next], none, []⟩, ?_,
          .inl fun h => ?_⟩
        · simp only [step, teardownStep, Shard.takeSink, hs, goto]
        · exact absurd (h.sink.trans hs) (Option.some_ne_none c).symm
    | deliver c =>
      exact ⟨0, .delivered true, _, rfl, .inr ⟨⟨hstate, rfl, rfl⟩, _, rfl, rfl, by simp [fuse],
        hhandler _ _⟩⟩
    | finish => exact ⟨0, .nothing, _, rfl, .inl hdead⟩
  | connecting by' point =>
    -- An attempt that has a connection may fail, or else gets to where it installs it.
    have hfail : s.Keeps s ∧ ∃ t', [connecting by' .fail] = [t'] ∧ t'.threatens s ∧ t'.fuse < 2 ∧
        ((connecting by' point).isHandler → t'.isHandler) :=
      ⟨⟨hstate, rfl, rfl⟩, _, rfl, rfl, by simp [fuse], hnot rfl⟩
    cases point with
    | start =>
      refine ⟨0, .nothing, ⟨s, [.connecting by' .replace], none, []⟩, ?_,
        .inr ⟨⟨hstate, rfl, rfl⟩, _, rfl, rfl, by simp [fuse], hnot rfl⟩⟩
      simp [step, attemptStep, hstate, goto]
    | replace => exact ⟨0, .nothing, _, rfl, .inl hbump⟩
    | mark => exact ⟨0, .nothing, _, rfl, .inl fun h => by cases h.state⟩
    | aim =>
      exact ⟨0, .nothing, _, rfl,
        .inr ⟨⟨hstate, rfl, rfl⟩, _, rfl, rfl, by simp [fuse], hnot rfl⟩⟩
    | dial => exact ⟨0, .dialed false, _, rfl, .inr hfail⟩
    | greet c => exact ⟨0, .greeting .broken, _, rfl, .inr hfail⟩
    | choose c interval =>
      cases hs : s.session.handshake with
      | identify =>
        refine ⟨0, .nothing, ⟨s, [.connecting by' (.slot c interval)], none, []⟩, ?_,
          .inr ⟨⟨hstate, rfl, rfl⟩, _, rfl, rfl, by simp [fuse], hnot rfl⟩⟩
        simp only [step, attemptStep, hs, goto]
      | resume id n =>
        refine ⟨0, .nothing,
          ⟨s, [.connecting by' (.deliver c interval (s.opening (.resume id n)))], none, []⟩, ?_,
          .inr ⟨⟨hstate, rfl, rfl⟩, _, rfl, rfl, by simp [fuse], hnot rfl⟩⟩
        simp only [step, attemptStep, hs, goto]
    | slot c interval => exact ⟨0, .slot (.error (.store .clockOverflow)), _, rfl, .inr hfail⟩
    | deliver c interval e => exact ⟨0, .delivered false, _, rfl, .inr hfail⟩
    | number c interval => exact ⟨0, .nothing, _, rfl, .inl hbump⟩
    | stop c interval generation =>
      exact ⟨0, .nothing, _, rfl,
        .inr ⟨⟨hstate, rfl, rfl⟩, _, rfl, rfl, by simp [fuse], hnot rfl⟩⟩
    | heartbeat c interval generation =>
      exact ⟨0, .nothing, _, rfl,
        .inr ⟨⟨hstate, rfl, rfl⟩, _, rfl, rfl, by simp [fuse], hnot rfl⟩⟩
    | sink c generation =>
      exact ⟨0, .nothing, _, rfl, .inl fun h => hsink c rfl h.sink.symm⟩
    | finish c generation => cases hthreat
    | launch c generation => cases hthreat
    | fail =>
      cases by' with
      | application => exact ⟨0, .nothing, _, rfl, .inl hdead⟩
      | starting => exact ⟨0, .nothing, _, rfl, .inl hdead⟩
      | background failures =>
        have hwait : s.config.isWait failures (s.config.longestWait failures) := by
          simpa [ShardConfig.isWait] using Nat.le_mul_of_pos_left _ (Nat.succ_pos 1)
        refine ⟨0, .wait (s.config.longestWait failures),
          ⟨s.setState .dead, [.asleep (failures + 1) (now + 0 + s.config.longestWait failures)],
            none, []⟩, ?_, .inl hdead⟩
        simp only [step, attemptStep, hwait, if_true, goto]
  | retrying failures =>
    have hshut : s.isShutDown = false := by simpa [threatens] using hthreat
    refine ⟨0, .nothing, ⟨s, [.connecting (.background failures) .start], none, []⟩, ?_,
      .inr ⟨⟨hstate, rfl, rfl⟩, _, rfl, rfl, by simp [fuse], hnot rfl⟩⟩
    simp [step, hshut, goto]
  | asleep failures wake =>
    refine ⟨wake, .nothing, ⟨s, [.retrying failures], none, []⟩, ?_,
      .inr ⟨⟨hstate, rfl, rfl⟩, _, rfl, hthreat, by simp [fuse], hnot rfl⟩⟩
    simp [step, goto]
  | losing generation code =>
    have hgeneration : s.generation = generation := by simpa [threatens] using hthreat
    refine ⟨0, .nothing, ⟨s.bump, [.voiding code], none, [.lost generation]⟩, ?_, .inl hbump⟩
    simp only [step, Shard.bumpFrom, hgeneration, if_true]
  | voiding code =>
    refine ⟨0, .nothing, _, rfl, .inr ⟨?_, _, rfl, rfl, by simp [fuse], fun _ => rfl⟩⟩
    cases code <;> exact ⟨hstate, rfl, rfl⟩
  | deciding code =>
    have hwants : (s.wantsReconnect && !code.any CloseCode.codeIsFatal) = true := hthreat
    have hshut : s.isShutDown = false := by
      simp only [Shard.wantsReconnect, Bool.and_eq_true, Bool.not_eq_true'] at hwants
      exact hwants.1.1
    refine ⟨0, .nothing, ⟨s, [.retrying 0], none, []⟩, ?_,
      .inr ⟨⟨hstate, rfl, rfl⟩, _, rfl, by simp [threatens, hshut], by simp [fuse], hnot rfl⟩⟩
    simp only [step, hwants, if_true, goto]
  | _ => cases hthreat

/-! ## The sending half -/

theorem held?_of_unsunk? {c : Connection} (h : t.unsunk? = some c) : t.held? = some c := by
  unfold unsunk? at h
  split at h
  · cases h
  · exact h

/-- Only an attempt installs a sending half, that of its own connection. -/
theorem Goes.sink (h : t.Goes s fresh now input r) {c : Connection} (hsink : r.shard.sink = some c) :
    s.sink = some c ∨ t.held? = some c ∧ ∀ t' ∈ r.tasks, t'.unsunk? = none := by
  cases h with
  | installSink by' c' generation =>
    obtain rfl : c' = c := Option.some.inj hsink
    exact .inr ⟨rfl, by simp [unsunk?]⟩
  | markDisconnecting code next =>
    refine .inl ?_
    simp only [Shard.markDisconnecting] at hsink
    split at hsink <;> exact hsink
  | void code =>
    refine .inl ?_
    cases code <;> exact hsink
  | takeStop | takeSink | noSink | read | readLoss | record =>
    first | exact .inl hsink | cases hsink
  | _ => exact .inl hsink

/-- An attempt that has no sending half installed has opened its connection before, or does
    so now. -/
theorem Goes.unsunk (h : t.Goes s fresh now input r) :
    ∀ t' ∈ r.tasks, ∀ c, t'.unsunk? = some c → t.unsunk? = some c ∨ c = fresh := by
  cases h with
  | dial by' => simp +contextual [unsunk?, held?]
  | tornDown code next => cases next <;> simp [after, unsunk?, held?]
  | _ => simp +contextual [unsunk?, held?]

end Task

namespace System

variable {bus : Bus Listener} {index : Nat} {config : ShardConfig} {y y' z : System Listener}

/-- The connection that is installed is none that an attempt has still to install. -/
structure IsSunk (y : System Listener) : Prop where
  lt : ∀ c, y.shard.sink = some c → c < y.opened
  ne : ∀ c, y.shard.sink = some c → ∀ t ∈ y.tasks, t.unsunk? ≠ some c

theorem IsSunk.went {front back : List Task} {t : Task} {input : Input} {r : Step Listener}
    (hy : y.IsSunk) (hnumbered : y.IsNumbered) (htasks : y.tasks = front ++ t :: back)
    (h : t.Goes y.shard y.opened y.now input r) : (y.went front input r back).IsSunk := by
  have hopened := opened_le_went y front back input r
  have hperm := all_perm Task.held? Note.connection? htasks
  have ht : t ∈ y.tasks := by simp [htasks]
  refine ⟨fun c hc => Nat.lt_of_lt_of_le ?_ hopened, fun c hc t' ht' hunsunk => ?_⟩
  · rcases h.sink hc with hc | ⟨hheld, -⟩
    · exact hy.lt c hc
    · exact hnumbered.lt c (hperm.mem_iff.2 (by simp [hheld]))
  · rcases h.sink hc with hc | ⟨hheld, hnone⟩
    · rcases mem_tasks_went htasks ht' with hnew | hold
      · rcases h.unsunk t' hnew c hunsunk with hunsunk | rfl
        · exact hy.ne c hc t ht hunsunk
        · exact Nat.lt_irrefl _ (hy.lt _ hc)
      · exact hy.ne c hc t' hold hunsunk
    · -- No other attempt has the connection that is installed now.
      have hnodup := hperm.nodup_iff.1 hnumbered.held
      rw [hheld, Option.toList_some, List.singleton_append, List.nodup_cons] at hnodup
      rcases List.mem_append.1 ht' with ht' | ht'
      · rcases List.mem_append.1 ht' with ht' | ht'
        · refine hnodup.1 (List.mem_append_left _ (List.mem_filterMap.2 ⟨t', ?_, ?_⟩))
          · exact List.mem_append_left _ ht'
          · exact Task.held?_of_unsunk? hunsunk
        · exact absurd ((hnone t' ht').symm.trans hunsunk) nofun
      · refine hnodup.1 (List.mem_append_left _ (List.mem_filterMap.2 ⟨t', ?_, ?_⟩))
        · exact List.mem_append_right _ ht'
        · exact Task.held?_of_unsunk? hunsunk

theorem IsReachable.isSunk (hy : IsReachable bus index config y) : y.IsSunk := by
  induction hy with
  | new => exact ⟨nofun, nofun⟩
  | step m hy hstep ih =>
    cases m with
    | request request =>
      rw [eq_of_request hstep]
      refine ⟨ih.lt, fun c hc t ht => ?_⟩
      rcases List.mem_append.1 ht with ht | ht
      · exact ih.ne c hc t ht
      · rw [List.mem_singleton.1 ht]
        cases request <;> simp [Request.task, Task.unsunk?, Task.held?]
    | advance d =>
      rw [eq_of_advance hstep]
      exact ⟨ih.lt, ih.ne⟩
    | step i input =>
      obtain ⟨front, t, back, r, htasks, -, -, hgoes, rfl⟩ := goes_of_step hstep
      exact ih.went hy.isNumbered htasks hgoes

/-- What some moves lead to that are of a kind. -/
inductive Reaches (bus : Bus Listener) (kind : System Listener → Move → Bool)
    (y : System Listener) : System Listener → Prop
  | refl : Reaches bus kind y y
  | step {z z' : System Listener} (m : Move) :
    Reaches bus kind y z → kind z m → z.step bus m = some z' → Reaches bus kind y z'

/-- Several steps, if each move is possible and of a kind. -/
def runOn (bus : Bus Listener) (kind : System Listener → Move → Bool) (y : System Listener) :
    List Move → Option (System Listener)
  | [] => some y
  | m :: rest => if kind y m then (y.step bus m).bind fun y => y.runOn bus kind rest else none

section Reaches

variable {kind kind' : System Listener → Move → Bool}

theorem Reaches.head {m : Move} (hkind : kind y m) (hstep : y.step bus m = some y')
    (h : Reaches bus kind y' z) : Reaches bus kind y z := by
  induction h with
  | refl => exact .step m .refl hkind hstep
  | step m' _ hkind' hstep' ih => exact .step m' ih hkind' hstep'

theorem Reaches.of_runOn {moves : List Move} (h : y.runOn bus kind moves = some z) :
    Reaches bus kind y z := by
  induction moves generalizing y with
  | nil =>
    cases h
    exact .refl
  | cons m rest ih =>
    rw [runOn] at h
    split at h
    · rename_i hkind
      obtain ⟨y', hstep, hrest⟩ := Option.bind_eq_some_iff.1 h
      exact .head hkind hstep (ih hrest)
    · cases h

theorem Reaches.mono (hmono : ∀ y m, kind y m → kind' y m) (h : Reaches bus kind y z) :
    Reaches bus kind' y z := by
  induction h with
  | refl => exact .refl
  | step m _ hkind hstep ih => exact .step m ih (hmono _ m hkind) hstep

end Reaches

/-- Whether a move is a step of a task of some sort, or time passes. -/
def movesOnly (sort : Task → Bool) (y : System Listener) : Move → Bool
  | .request _ => false
  | .advance _ => true
  | .step i _ => y.tasks[i]?.all sort

/-- Whether a move neither is a request of the application nor notices that the shard's own
    connection is lost. -/
def isUneventful (y : System Listener) : Move → Bool
  | .request _ => false
  | .advance _ => true
  | .step i input => y.tasks[i]?.all fun t => !t.noticesLoss y.shard y.now input

/-- Nothing happens to the connection unless a task is under way that takes it down. -/
theorem Reaches.keeps_of_harmless (hstate : y.shard.state = .connected)
    (hharmless : ∀ t ∈ y.tasks, t.threatens y.shard = false) (h : Reaches bus isUneventful y z) :
    y.shard.Keeps z.shard := by
  suffices hsuff : (∃ session heartbeat, z.shard = { y.shard with session, heartbeat }) ∧
      ∀ t ∈ z.tasks, t.threatens y.shard = false by
    obtain ⟨⟨session, heartbeat, hz⟩, -⟩ := hsuff
    rw [hz]
    exact ⟨hstate, rfl, rfl⟩
  induction h with
  | refl => exact ⟨⟨_, _, rfl⟩, hharmless⟩
  | @step z z' m _ hquiet hstep ih =>
    obtain ⟨⟨session, heartbeat, hz⟩, htasks⟩ := ih
    cases m with
    | request request => cases hquiet
    | advance d =>
      rw [eq_of_advance hstep]
      exact ⟨⟨session, heartbeat, hz⟩, htasks⟩
    | step i input =>
      obtain ⟨front, t, back, r, hsplit, hi, -, hgoes, rfl⟩ := goes_of_step hstep
      have hthreatens : ∀ t : Task, t.threatens z.shard = t.threatens y.shard := fun t => by
        rw [hz]
        rfl
      have hnotice : t.noticesLoss z.shard z.now input = false := by
        simpa [isUneventful, hi] using hquiet
      obtain ⟨⟨session', heartbeat', hr⟩, hnew⟩ := hgoes.of_harmless (by rw [hz]; exact hstate)
        ((hthreatens t).trans (htasks t (by simp [hsplit]))) hnotice
      refine ⟨⟨session', heartbeat', hr.trans (by rw [hz])⟩, fun t' ht' => ?_⟩
      rcases mem_tasks_went hsplit ht' with ht' | ht'
      · exact (hthreatens t').symm.trans (hnew t' ht')
      · exact htasks t' ht'

/-- A task that takes the connection down can do so, without a request of the application
    and before a loss is noticed. If it handles another loss, no other task need move. -/
theorem exists_lost_of_threatens {t : Task} (hy : IsReachable bus index config y)
    (hstate : y.shard.state = .connected) (ht : t ∈ y.tasks) (hthreat : t.threatens y.shard) :
    ∃ z, Reaches bus (fun y m => y.isUneventful m && (!t.isHandler || y.movesOnly Task.isHandler m))
        y z ∧ ¬ y.shard.Keeps z.shard := by
  generalize hn : t.fuse = n
  induction n using Nat.strongRecOn generalizing y t with
  | ind n ih =>
    obtain ⟨front, back, htasks⟩ := List.append_of_mem ht
    obtain ⟨d, input, r, hr, hcase⟩ := Task.exists_step_of_threatens y.shard bus y.opened y.stopped
      y.now hstate hthreat fun c hc hsink => hy.isSunk.ne c hsink t ht hc
    let y₀ : System Listener := { y with now := y.now + d }
    have hstep : y₀.step bus (.step front.length input) = some (y₀.went front input r back) :=
      step_went htasks hr
    have hi : y₀.tasks[front.length]? = some t := by simp [y₀, htasks]
    have hquiet := Task.noticesLoss_of_threatens input y₀.now hthreat
    -- One step takes the connection down, or leads to a task that is closer to it.
    suffices hsuff : ∃ z, Reaches bus (fun y m => y.isUneventful m &&
        (!t.isHandler || y.movesOnly Task.isHandler m)) (y₀.went front input r back) z ∧
          ¬ y.shard.Keeps z.shard by
      obtain ⟨z, hreaches, hlost⟩ := hsuff
      have hadvance : (y.isUneventful (.advance d) &&
          (!t.isHandler || y.movesOnly Task.isHandler (.advance d))) = true := by
        simp [isUneventful, movesOnly]
      have hkind : (y₀.isUneventful (.step front.length input) &&
          (!t.isHandler || y₀.movesOnly Task.isHandler (.step front.length input))) = true := by
        simpa [isUneventful, movesOnly, hi] using hquiet
      exact ⟨z, .head hadvance rfl (.head hkind hstep hreaches), hlost⟩
    rcases hcase with hlost | ⟨hkeeps, t', htasks', hthreat', hlt, hhandler⟩
    · exact ⟨_, .refl, hlost⟩
    · have ht' : t' ∈ (y₀.went front input r back).tasks := by simp [went, htasks']
      have hreach : IsReachable bus index config (y₀.went front input r back) :=
        .step _ (.step (.advance d) hy rfl) hstep
      obtain ⟨z, hreaches, hlost⟩ := ih t'.fuse (hn ▸ hlt) hreach hkeeps.state ht' hthreat' rfl
      refine ⟨z, hreaches.mono fun y m h => ?_, fun hz => hlost ?_⟩
      · cases hh : t.isHandler with
        | false => simpa [hh] using (Bool.and_eq_true_iff.1 h).1
        | true => simpa [hh, hhandler hh] using h
      · exact ⟨hz.state, hz.sink.trans hkeeps.sink.symm, hz.generation.trans hkeeps.generation.symm⟩

/-- Survival. Without requests of the application, and until its loss is noticed, a
    connection stays the shard's exactly if no task is under way that takes it down. -/
theorem keeps_iff (hy : IsReachable bus index config y) (hstate : y.shard.state = .connected) :
    (∀ z, Reaches bus isUneventful y z → y.shard.Keeps z.shard) ↔
      ∀ t ∈ y.tasks, t.threatens y.shard = false := by
  constructor
  · intro h t ht
    cases hthreat : t.threatens y.shard with
    | false => rfl
    | true =>
      obtain ⟨z, hreaches, hlost⟩ := exists_lost_of_threatens hy hstate ht hthreat
      exact absurd (h z (hreaches.mono fun _ _ hkind => (Bool.and_eq_true_iff.1 hkind).1)) hlost
  · exact fun hharmless z hreaches => hreaches.keeps_of_harmless hstate hharmless

/-- A shard whose first connection was established and has sent nothing since. -/
def firstShard : Shard :=
  { Shard.new 0 {} with
    state := .connected
    heartbeat := .fresh (Duration.ofMillis 1)
    sink := some 0
    stop := some 0
    generation := 1 }

/-- A shard whose first connection was established while some loops were asleep, each after one
    attempt. -/
def firstConnected (others : List Task) : System Unit where
  shard := firstShard
  now := 0
  opened := 1
  stopped := []
  tasks := others ++ [.reading 1 0, .monitoring 1 0 0]
  log := [.established 1 0, .sent 0 (.message (firstShard.opening .identify))] ++
    List.replicate (others.length + 1) (.dialed firstShard.target)

/-- The same shard before, when the attempt waits for the greeting. -/
def firstDialed (others : List Task) : System Unit where
  shard := (Shard.new 0 {}).setState .connecting
  now := 0
  opened := 1
  stopped := []
  tasks := others ++ [.connecting .application (.greet 0)]
  log := List.replicate (others.length + 1) (.dialed firstShard.target)

theorem isReachable_firstConnected {others : List Task} {moves : List Move}
    (h : (System.new 0 {}).run .empty moves = some (firstDialed others)) :
    IsReachable .empty 0 {} (firstConnected others) := by
  have htasks : (firstDialed others).tasks =
    others ++ .connecting .application (.greet 0) :: [] := rfl
  have hrun := run_append h (run_identify (d := 0) htasks Greeting.interval_brief rfl rfl)
  have hreach := IsReachable.new.run hrun
  rwa [established, List.append_nil] at hreach

theorem isReachable_first : IsReachable .empty 0 {} (firstConnected []) := by
  have hdial : (System.new 0 {}).run .empty [.request .connect, .step 0 .nothing, .step 0 .nothing,
      .step 0 .nothing, .step 0 (.dialed true)] = some (firstDialed []) := rfl
  exact isReachable_firstConnected hdial

/-- A connection that is established by the first attempt stays the shard's. -/
theorem keeps_iff_first : IsReachable .empty 0 {} (firstConnected []) ∧
    ∀ z, Reaches .empty isUneventful (firstConnected []) z → firstShard.Keeps z.shard :=
  ⟨isReachable_first, (keeps_iff isReachable_first rfl).2 (by decide)⟩

/-- A loop that sleeps after a failed attempt wakes when the application has connected
    meanwhile, and attempts to connect again: it closes the connection, of which no loss was
    noticed. -/
theorem exists_closed_by_loop : ∃ y z : System Unit, IsReachable .empty 0 {} y ∧
    y.shard.state = .connected ∧ Reaches .empty isUneventful y z ∧
    .sent 0 (.close CloseCode.resumable) ∈ z.log ∧ z.shard.state = .dead := by
  have hdial : (System.new 0 {}).run .empty [.request .reconnect, .step 0 .nothing,
      .step 0 .nothing, .step 0 .nothing, .step 0 .nothing, .step 0 .nothing,
      .step 0 (.dialed false), .step 0 (.wait (Duration.ofSeconds 1)), .request .connect,
      .step 1 .nothing, .step 1 .nothing, .step 1 .nothing, .step 1 (.dialed true)] =
        some (firstDialed [.asleep 1 (Duration.ofSeconds 1)]) := rfl
  have hrun : ∃ z, (firstConnected [.asleep 1 (Duration.ofSeconds 1)]).runOn .empty isUneventful
        ([.advance (Duration.ofSeconds 1)] ++ List.replicate 7 (.step 0 .nothing) ++
          [.step 0 (.delivered true), .step 0 .nothing]) = some z ∧
      .sent 0 (.close CloseCode.resumable) ∈ z.log ∧ z.shard.state = .dead :=
    ⟨_, rfl, List.mem_cons_self, rfl⟩
  obtain ⟨z, hrun, hclosed⟩ := hrun
  exact ⟨_, z, isReachable_firstConnected hdial, rfl, .of_runOn hrun, hclosed⟩

end System

end GatewayClient
