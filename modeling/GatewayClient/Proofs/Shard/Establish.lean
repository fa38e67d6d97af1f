import GatewayClient.Proofs.Shard.Opening
import GatewayClient.Proofs.Shard.Step

/-!
# Attempts that nobody interrupts

An attempt whose last steps are taken one after the other does to the shard what
`Shard.establish` does, and starts the reader and the monitor of the new connection.

* `System.run_establish`: from where the connection is given its generation.
* `System.run_identify`: from the greeting on, for a shard that has no session to resume.
-/

namespace GatewayClient

variable {Listener : Type}

namespace System

variable {bus : Bus Listener} {y y' z : System Listener} {moves moves' : List Move}
  {front back : List Task} {by' : Requester} {c : Connection} {interval d : Duration}

/-- A run that goes on where another has ended. -/
theorem run_append (h : y.run bus moves = some y') (h' : y'.run bus moves' = some z) :
    y.run bus (moves ++ moves') = some z := by
  induction moves generalizing y with
  | nil =>
    cases h
    exact h'
  | cons m rest ih =>
    obtain ⟨y₁, hstep, hrest⟩ := Option.bind_eq_some_iff.1 h
    rw [List.cons_append, run, hstep]
    exact ih hrest

theorem run_went {t : Task} {input : Input} {r : Step Listener}
    (htasks : y.tasks = front ++ t :: back)
    (hr : t.step y.shard bus y.opened y.stopped y.now input = some r) :
    y.run bus (.step front.length input :: moves) =
      (y.went front input r back).run bus moves := by
  rw [run, step_went htasks hr, Option.bind_some]

/-- A task that has gone on to another point. -/
theorem tasks_went {t : Task} {input : Input} {r : Step Listener} (h : r.tasks = [t]) :
    (y.went front input r back).tasks = front ++ t :: back := by
  simp [went, h]

/-- A task that two have come of. -/
theorem tasks_went_pair {t t' : Task} {input : Input} {r : Step Listener} (h : r.tasks = [t, t']) :
    (y.went front input r back).tasks = (front ++ [t]) ++ t' :: back := by
  simp [went, h]

/-- A system in which a connection has become the shard's. -/
def established (y : System Listener) (front back : List Task) (c : Connection)
    (interval d : Duration) : System Listener :=
  { y with
    shard := y.shard.establish c interval
    stopped := y.shard.stop.toList ++ y.stopped
    tasks := front ++ [.reading (y.shard.generation + 1) c,
      .monitoring (y.shard.generation + 1) c (y.now + d)] ++ back
    log := .established (y.shard.generation + 1) c :: y.log }

/-- The moves that establish the connection of the task at a place. -/
def establishing (i : Nat) (d : Duration) : List Move :=
  List.replicate 6 (.step i .nothing) ++ [.step (i + 1) (.wait d)]

theorem run_establish (htasks : y.tasks = front ++ .connecting by' (.number c interval) :: back)
    (hd : Heartbeat.isFirstDelay interval d) :
    y.run bus (establishing front.length d) = some (y.established front back c interval d) := by
  have hpace (s : Shard) (hs : s.heartbeat.interval = interval) (opened : Nat)
      (stopped : List Connection) (now : Instant) (generation : Nat) :
      (Task.pacing generation c).step s bus opened stopped now (.wait d) =
        some ⟨s, [.monitoring generation c (now + d)], none, []⟩ := by
    simp only [Task.step, hs, hd, if_true, Task.goto]
  refine (run_went htasks rfl).trans ?_
  refine (run_went (tasks_went rfl) rfl).trans ?_
  refine (run_went (tasks_went rfl) rfl).trans ?_
  refine (run_went (tasks_went rfl) rfl).trans ?_
  refine (run_went (tasks_went rfl) rfl).trans ?_
  refine (run_went (tasks_went rfl) rfl).trans ?_
  -- The monitor begins behind the reader.
  have hfront : front.length + 1 =
      (front ++ [Task.reading (y.shard.generation + 1) c]).length := by simp
  rw [hfront]
  refine (run_went (tasks_went_pair rfl) (hpace _ rfl _ _ _ _)).trans ?_
  simp only [run, went, established, List.append_assoc, List.cons_append, List.nil_append]
  rfl

/-- The moves that take an attempt from the greeting to where the connection is given its
    generation. -/
def identifying (i : Nat) (g : Greeting) : List Move :=
  [.step i (.greeting g), .step i .nothing, .step i (.slot (.ok ())), .step i (.delivered true)]

theorem run_identify {g : Greeting} (htasks : y.tasks = front ++ .connecting by' (.greet c) :: back)
    (hg : g.interval = .ok interval) (hsession : y.shard.session.handshake = .identify)
    (hd : Heartbeat.isFirstDelay interval d) :
    y.run bus (identifying front.length g ++ establishing front.length d) =
      some (established { y with log := .sent c (.message (y.shard.opening .identify)) :: y.log }
        front back c interval d) := by
  let r : Step Listener := ⟨y.shard, [.connecting by' (.choose c interval)], none, []⟩
  have hgreet : (Task.connecting by' (.greet c)).step y.shard bus y.opened y.stopped y.now
      (.greeting g) = some r := by
    simp only [Task.step, Task.attemptStep, hg, Task.goto, r]
  have hchoose (s : Shard) (hs : s.session.handshake = .identify) (opened : Nat)
      (stopped : List Connection) (now : Instant) :
      (Task.connecting by' (.choose c interval)).step s bus opened stopped now .nothing =
        some ⟨s, [.connecting by' (.slot c interval)], none, []⟩ := by
    simp only [Task.step, Task.attemptStep, hs, Task.goto]
  refine (run_went htasks hgreet).trans ?_
  refine (run_went (y := y.went front _ r back) (tasks_went rfl) (hchoose _ hsession _ _ _)).trans ?_
  refine (run_went (tasks_went rfl) rfl).trans ?_
  refine (run_went (tasks_went rfl) rfl).trans ?_
  exact run_establish (tasks_went rfl) hd

end System

end GatewayClient
