import GatewayClient.Proofs.Shard.Survival
import Mathlib.Data.List.Chain
import Mathlib.Data.List.Nodup

/-!
# The pace of heartbeats

The monitor of a connection sleeps until the next heartbeat is due, which was settled when it
checked the last one: an interval later, the interval that was in force then. Another greeting
of the gateway changes the interval, but does not wake the monitor. So a check comes as late as
the interval before would have it, and a shorter interval counts only from then on.

* `Task.checksAt?`: when a monitor checks next; `System.Timely`: runs in which it is on time,
  with its checks.
* `IsPaced`: each check comes an interval after the one before, the interval that was in force
  at that one.
* `System.ChecksBy`: whether the next check comes by an instant.
* `System.isGreeted_of_hello`: when it does so after a greeting.
-/

namespace GatewayClient

variable {Listener : Type}

/-- A greeting that asks for a heartbeat every so many milliseconds, by a digit. -/
def Greeting.everyMillis (digit : Char) : String :=
  String.ofList ['[', '1', '0', ',', 'n', 'u', 'l', 'l', ',', 'n', 'u', 'l', 'l', ',', '[', digit,
    ']', ']']

theorem Greeting.read_everyMillis : Frame.read (everyMillis '1') = .ok (.hello ⟨1⟩) ∧
    Frame.read (everyMillis '2') = .ok (.hello ⟨2⟩) := by
  have hread (digit : Char) (n : Nat) (h : digit = '1' ∧ n = 1 ∨ digit = '2' ∧ n = 2) :
      Json.Outline.read (everyMillis digit) =
        ⟨.byPosition [.number (some (.int 10)), .null, .null, .array [.number (some (.int n))]],
          true⟩ := by
    rw [Json.Outline.read, everyMillis, String.toList_ofList]
    rcases h with ⟨rfl, rfl⟩ | ⟨rfl, rfl⟩ <;> rfl
  constructor
  · rw [Frame.read, Envelope.read, hread '1' 1 (.inl ⟨rfl, rfl⟩)]
    rfl
  · rw [Frame.read, Envelope.read, hread '2' 2 (.inr ⟨rfl, rfl⟩)]
    rfl

/-- A greeting sets the interval and does nothing else but count its sequence number. -/
theorem Shard.exists_handle_hello (s : Shard) (bus : Bus Listener) {text : String} {hello : Hello}
    (now : Instant) (h : Frame.read text = .ok (.hello hello))
    (hpos : hello.heartbeatInterval ≠ 0) :
    ∃ session, s.handle bus text now = ⟨.ok .goesOn,
      { s with
        session
        heartbeat := s.heartbeat.setInterval (.ofMillis hello.heartbeatInterval) }, []⟩ := by
  cases henvelope : Envelope.read text with
  | error reason => simp [Frame.read, henvelope] at h
  | ok e =>
    have hframe : Frame.ofEnvelope e = .ok (.hello hello) := by
      simpa [Frame.read, henvelope] using h
    simp only [handle, henvelope, hframe, act, if_neg hpos]
    cases e.sequence with
    | none => exact ⟨_, rfl⟩
    | some n => exact ⟨_, rfl⟩

/-! ## Monitors -/

namespace Task

/-- The generation whose connection a task monitors, or will when it has established it. -/
def monitored? : Task → Option Nat
  | .connecting _ point => match point with
    | .stop _ _ generation | .heartbeat _ _ generation | .sink _ generation
    | .finish _ generation | .launch _ generation => some generation
    | _ => none
  | .pacing generation _ | .monitoring generation _ _ | .beating generation _
  | .numbering generation _ _ _ | .sending generation _ _ _ _
  | .recording generation _ _ _ => some generation
  | _ => none

/-- When a monitor of a generation checks next, if it is on time. -/
def checksAt? (generation : Nat) (now : Instant) : Task → Option Instant
  | .monitoring generation' _ due => if generation' = generation then some (max due now) else none
  | .beating generation' _ => if generation' = generation then some now else none
  | .numbering generation' _ _ interval | .sending generation' _ _ interval _
  | .recording generation' _ _ interval =>
    if generation' = generation then some (now + interval) else none
  | _ => none

/-- Whether a task lets time pass until an instant: a monitor of a generation that sleeps does
    until its heartbeat is due, and takes no time for anything else. -/
def isOnTime (generation : Nat) (later : Instant) : Task → Bool
  | .monitoring generation' _ due => generation' ≠ generation || later ≤ due
  | .pacing generation' _ | .beating generation' _ | .numbering generation' _ _ _
  | .sending generation' _ _ _ _ | .recording generation' _ _ _ => generation' ≠ generation
  | _ => true

variable {s : Shard} {fresh : Connection} {now later : Instant} {input : Input} {t : Task}
  {r : Step Listener} {generation : Nat} {due : Instant}

/-- An attempt gives a generation to its connection and becomes the monitor of it. -/
theorem Goes.monitored (h : t.Goes s fresh now input r) :
    (r.tasks.filterMap monitored?).Sublist t.monitored?.toList ∨
      t.monitored? = none ∧ r.shard.generation = s.generation + 1 ∧
        r.tasks.filterMap monitored? = [s.generation + 1] := by
  cases h with
  | number => exact .inr ⟨rfl, rfl, rfl⟩
  | tornDown code next => cases next <;> exact .inl (List.Sublist.refl _)
  | failing by' point hpoint =>
    obtain rfl | ⟨c, rfl⟩ | ⟨c, interval, rfl⟩ | ⟨c, interval, e, rfl⟩ := hpoint <;>
      exact .inl (List.nil_sublist _)
  | _ => first | exact .inl (List.Sublist.refl _) | exact .inl (List.nil_sublist _)

theorem monitored?_of_checksAt? (h : t.checksAt? generation now = some due) :
    t.monitored? = some generation := by
  cases t with
  | monitoring _ _ _ | beating _ _ | numbering _ _ _ _ | sending _ _ _ _ _ | recording _ _ _ _ =>
    simp only [checksAt?, Option.ite_none_right_eq_some] at h
    exact congrArg some h.1
  | _ => cases h

theorem le_of_checksAt? (h : t.checksAt? generation now = some due) : now ≤ due := by
  cases t with
  | monitoring _ _ _ =>
    simp only [checksAt?, Option.ite_none_right_eq_some, Option.some.injEq] at h
    exact h.2 ▸ Nat.le_max_right _ _
  | beating _ _ | numbering _ _ _ _ | sending _ _ _ _ _ | recording _ _ _ _ =>
    simp only [checksAt?, Option.ite_none_right_eq_some, Option.some.injEq] at h
    simp [← h.2]
  | _ => cases h

/-- While time passes that a monitor lets pass, its next check stays where it is. -/
theorem checksAt?_of_isOnTime (h : t.checksAt? generation now = some due) (hle : now ≤ later)
    (hlater : t.isOnTime generation later) : t.checksAt? generation later = some due := by
  cases t with
  | monitoring generation' c due' =>
    simp only [checksAt?, Option.ite_none_right_eq_some, Option.some.injEq] at h
    have hdue : later ≤ due' := by simpa [isOnTime, h.1] using hlater
    rw [checksAt?, if_pos h.1, ← h.2, Nat.max_eq_left hdue,
      Nat.max_eq_left (Nat.le_trans hle hdue)]
  | beating _ _ | numbering _ _ _ _ | sending _ _ _ _ _ | recording _ _ _ _ =>
    simp only [checksAt?, Option.ite_none_right_eq_some] at h
    simp [isOnTime, h.1] at hlater
  | _ => cases h

theorem isOnTime_of_monitored?_ne (h : t.monitored? ≠ some generation) (later : Instant) :
    t.isOnTime generation later := by
  cases t with
  | pacing _ _ | monitoring _ _ _ | beating _ _ | numbering _ _ _ _ | sending _ _ _ _ _
  | recording _ _ _ _ =>
    simp only [monitored?, ne_eq, Option.some.injEq] at h
    simp [isOnTime, h]
  | _ => rfl

/-- The check that a step of a task is, for a monitor of a generation: its instant, and the
    interval that is in force then. -/
def checks (s : Shard) (generation : Nat) (now : Instant) : Task → List (Instant × Duration)
  | .beating generation' _ =>
    if generation' = generation then [(now, s.heartbeat.interval)] else []
  | _ => []

theorem checks_of_monitored?_ne (h : t.monitored? ≠ some generation) :
    t.checks s generation now = [] := by
  cases t with
  | beating generation' c => exact if_neg fun heq => h (congrArg some heq)
  | _ => rfl

end Task

/-! ## Checks at their pace -/

/-- When a check is due after others, the last one first, of which the first was due at
    `start`. -/
def dueAfter (start : Instant) : List (Instant × Duration) → Instant
  | [] => start
  | (at', interval) :: _ => at' + interval

/-- Whether each check comes when it is due. -/
def IsPaced (start : Instant) : List (Instant × Duration) → Prop
  | [] => True
  | (at', _) :: earlier => at' = dueAfter start earlier ∧ IsPaced start earlier

/-- From one check to the next it takes as long as the interval that was in force at the
    first of them. So none takes longer than the one in force at the second exactly if none
    is longer than the next. -/
theorem IsPaced.isChain_iff {start : Instant} {checks : List (Instant × Duration)}
    (h : IsPaced start checks) :
    checks.IsChain (fun later earlier => later.1 ≤ earlier.1 + later.2) ↔
      checks.IsChain (fun later earlier => earlier.2 ≤ later.2) := by
  induction checks with
  | nil => simp
  | cons last checks ih =>
    cases checks with
    | nil => simp
    | cons previous earlier =>
      have hlast : last.1 = previous.1 + previous.2 := h.1
      rw [List.isChain_cons_cons, List.isChain_cons_cons, ih h.2, hlast, Nat.add_le_add_iff_left]

/-- What a monitor does next keeps its pace: it checks when that is due, and goes on to the
    check after that. -/
theorem Task.Goes.isPaced {s : Shard} {fresh : Connection} {now start : Instant} {input : Input}
    {t : Task} {r : Step Listener} {generation : Nat} {earlier : List (Instant × Duration)}
    (h : t.Goes s fresh now input r)
    (ht : t.checksAt? generation now = some (dueAfter start earlier))
    (hearlier : IsPaced start earlier) :
    IsPaced start (t.checks s generation now ++ earlier) ∧
      ∀ t' ∈ r.tasks, t'.monitored? = some generation → t'.checksAt? generation now =
        some (dueAfter start (t.checks s generation now ++ earlier)) := by
  cases h with
  | tick generation' c due hdue =>
    refine ⟨hearlier, List.forall_mem_singleton.2 fun hmonitored => ?_⟩
    obtain rfl : generation' = generation := Option.some.inj hmonitored
    simpa [checksAt?, checks, Nat.max_eq_right hdue] using ht
  | zombie generation' c =>
    obtain rfl : generation' = generation := Option.some.inj (monitored?_of_checksAt? ht)
    have hnow : now = dueAfter start earlier := by simpa [checksAt?] using ht
    refine ⟨?_, by simp [monitored?]⟩
    simpa [checks, IsPaced] using And.intro hnow hearlier
  | beat generation' c =>
    obtain rfl : generation' = generation := Option.some.inj (monitored?_of_checksAt? ht)
    have hnow : now = dueAfter start earlier := by simpa [checksAt?] using ht
    refine ⟨?_, by simp [checksAt?, checks, dueAfter]⟩
    simpa [checks, IsPaced] using And.intro hnow hearlier
  | numberBeat generation' c at' interval =>
    exact ⟨hearlier, List.forall_mem_singleton.2 fun _ => ht⟩
  | send generation' c at' interval sequence =>
    exact ⟨hearlier, List.forall_mem_singleton.2 fun _ => ht⟩
  | record generation' c at' interval =>
    refine ⟨hearlier, List.forall_mem_singleton.2 fun hmonitored => ?_⟩
    obtain rfl : generation' = generation := Option.some.inj hmonitored
    simpa [checksAt?, checks] using ht
  | tickNoMore | monitorStopped => exact ⟨hearlier, List.forall_mem_nil _⟩
  | sendLoss => exact ⟨hearlier, by simp [monitored?]⟩
  | _ => cases ht

namespace System

variable {bus : Bus Listener} {index : Nat} {config : ShardConfig} {y y' z z' : System Listener}
  {generation : Nat} {front back : List Task} {t : Task} {input : Input} {r : Step Listener}
  {start due : Instant} {earlier : List (Instant × Duration)}

/-- Each generation has one monitor at most, and none is beyond the shard's. -/
structure IsMonitored (y : System Listener) : Prop where
  nodup : (y.tasks.filterMap Task.monitored?).Nodup
  le : ∀ generation ∈ y.tasks.filterMap Task.monitored?, generation ≤ y.shard.generation

theorem IsMonitored.went (hy : y.IsMonitored) (htasks : y.tasks = front ++ t :: back)
    (h : t.Goes y.shard y.opened y.now input r) : (y.went front input r back).IsMonitored := by
  have hold : y.tasks.filterMap Task.monitored? = front.filterMap Task.monitored? ++
      (t.monitored?.toList ++ back.filterMap Task.monitored?) := by
    rw [htasks, List.filterMap_append, List.filterMap_cons]
    cases t.monitored? <;> rfl
  have hnew : (y.went front input r back).tasks.filterMap Task.monitored? =
      front.filterMap Task.monitored? ++
        (r.tasks.filterMap Task.monitored? ++ back.filterMap Task.monitored?) := by
    simp [System.went]
  have hgeneration := h.numbering.generation
  obtain ⟨hnodup, hle⟩ := hy
  rw [hold] at hnodup hle
  rcases h.monitored with hsub | ⟨hnone, hnext, hnumber⟩
  · have hsub := (hsub.append_right (back.filterMap Task.monitored?)).append_left
      (front.filterMap Task.monitored?)
    refine ⟨?_, fun g hg => ?_⟩
    · exact hnew ▸ hnodup.sublist hsub
    · exact Nat.le_trans (hle g (hsub.subset (hnew ▸ hg))) hgeneration
  · -- The generation that is given now is beyond all others.
    rw [hnone, Option.toList_none, List.nil_append] at hnodup hle
    rw [hnumber, List.singleton_append] at hnew
    refine ⟨?_, fun g hg => ?_⟩
    · rw [hnew, List.nodup_middle, List.nodup_cons]
      exact ⟨fun hmem => absurd (hle _ hmem) (Nat.not_succ_le_self _), hnodup⟩
    · rw [hnew] at hg
      rcases List.mem_cons.1 (List.perm_middle.mem_iff.1 hg) with rfl | hg
      · exact Nat.le_of_eq hnext.symm
      · exact Nat.le_trans (hle g hg) hgeneration

theorem IsReachable.isMonitored (hy : IsReachable bus index config y) : y.IsMonitored := by
  induction hy with
  | new => exact ⟨.nil, nofun⟩
  | @step y y' m _ hstep ih =>
    cases m with
    | request request =>
      rw [eq_of_request hstep]
      have hsame : (y.tasks ++ [request.task]).filterMap Task.monitored? =
          y.tasks.filterMap Task.monitored? := by
        cases request <;> simp [Request.task, Task.monitored?]
      exact ⟨hsame ▸ ih.nodup, hsame ▸ ih.le⟩
    | advance d =>
      rw [eq_of_advance hstep]
      exact ⟨ih.nodup, ih.le⟩
    | step i input =>
      obtain ⟨front, t, back, r, htasks, -, -, hgoes, rfl⟩ := goes_of_step hstep
      exact ih.went htasks hgoes

/-- No other task is a monitor of the same generation. -/
theorem IsMonitored.ne_of_mem (hy : y.IsMonitored) (htasks : y.tasks = front ++ t :: back)
    (ht : t.monitored? = some generation) :
    ∀ t' ∈ front ++ back, t'.monitored? ≠ some generation := by
  intro t' ht' hmonitored
  have hnodup := hy.nodup
  rw [htasks, List.filterMap_append, List.filterMap_cons_some ht, List.nodup_middle,
    List.nodup_cons, ← List.filterMap_append] at hnodup
  exact hnodup.1 (List.mem_filterMap.2 ⟨t', ht', hmonitored⟩)

/-! ## Runs in which a monitor is on time -/

/-- Whether the monitors of a generation are on time in a move. -/
def isTimely (generation : Nat) (y : System Listener) : Move → Bool
  | .advance d => y.tasks.all (Task.isOnTime generation (y.now + d))
  | _ => true

/-- The check that a move is. -/
def checks (generation : Nat) (y : System Listener) : Move → List (Instant × Duration)
  | .step i _ => (y.tasks[i]?.map (Task.checks y.shard generation y.now)).getD []
  | _ => []

/-- What moves lead to in which the monitor of a generation is on time, with its checks, the
    last one first. -/
inductive Timely (bus : Bus Listener) (generation : Nat) (y : System Listener) :
    System Listener → List (Instant × Duration) → Prop
  | refl : Timely bus generation y y []
  | step {z z' : System Listener} {earlier : List (Instant × Duration)} (m : Move) :
    Timely bus generation y z earlier → z.isTimely generation m → z.step bus m = some z' →
    Timely bus generation y z' (z.checks generation m ++ earlier)

/-- Whether the next check of a generation's monitor comes by an instant, if it still comes and
    is on time. -/
def ChecksBy (bus : Bus Listener) (generation : Nat) (limit : Instant) (y : System Listener) :
    Prop :=
  ∀ z, Timely bus generation y z [] →
    (∃ t ∈ z.tasks, (t.checksAt? generation z.now).isSome) → z.now ≤ limit

/-- What holds in such runs if the first check is due at `start`. -/
structure IsPacing (generation : Nat) (start : Instant) (z : System Listener)
    (earlier : List (Instant × Duration)) : Prop where
  monitored : z.IsMonitored
  /-- The generation was given before. -/
  le : generation ≤ z.shard.generation
  paced : IsPaced start earlier
  /-- The next check comes when it is due. -/
  due : ∀ t ∈ z.tasks, t.monitored? = some generation →
    t.checksAt? generation z.now = some (dueAfter start earlier)

theorem IsPacing.went (hz : IsPacing generation start z earlier)
    (htasks : z.tasks = front ++ t :: back) (h : t.Goes z.shard z.opened z.now input r) :
    IsPacing generation start (z.went front input r back)
      (t.checks z.shard generation z.now ++ earlier) := by
  have hle := Nat.le_trans hz.le h.numbering.generation
  have ht : t ∈ z.tasks := by simp [htasks]
  have hothers : ∀ t' ∈ front ++ back, t' ∈ z.tasks := by simp +contextual [htasks, or_imp]
  have hsplit : ∀ t' ∈ (z.went front input r back).tasks, t' ∈ r.tasks ∨ t' ∈ front ++ back := by
    intro t' ht'
    simp only [System.went, List.mem_append] at ht' ⊢
    exact or_left_comm.1 (or_assoc.1 ht')
  by_cases hmonitor : t.monitored? = some generation
  · obtain ⟨hpaced, hnew⟩ := h.isPaced (hz.due t ht hmonitor) hz.paced
    refine ⟨hz.monitored.went htasks h, hle, hpaced, fun t' ht' hmonitored => ?_⟩
    rcases hsplit t' ht' with hmem | hmem
    · exact hnew t' hmem hmonitored
    · exact absurd hmonitored (hz.monitored.ne_of_mem htasks hmonitor t' hmem)
  · rw [Task.checks_of_monitored?_ne hmonitor, List.nil_append]
    refine ⟨hz.monitored.went htasks h, hle, hz.paced, fun t' ht' hmonitored => ?_⟩
    rcases hsplit t' ht' with hmem | hmem
    · -- The monitor of a new connection is that of a new generation.
      have hmem : generation ∈ r.tasks.filterMap Task.monitored? :=
        List.mem_filterMap.2 ⟨t', hmem, hmonitored⟩
      rcases h.monitored with hsub | ⟨-, -, hnumber⟩
      · exact absurd (Option.mem_toList.1 (hsub.subset hmem)) hmonitor
      · rw [hnumber, List.mem_singleton] at hmem
        exact absurd hz.le (hmem ▸ Nat.not_succ_le_self _)
    · exact hz.due t' (hothers t' hmem) hmonitored

/-- The step lemma. -/
theorem IsPacing.step {m : Move} (hz : IsPacing generation start z earlier)
    (hm : z.isTimely generation m) (hstep : z.step bus m = some z') :
    IsPacing generation start z' (z.checks generation m ++ earlier) := by
  cases m with
  | request request =>
    rw [eq_of_request hstep]
    have hnone : request.task.monitored? = none := by cases request <;> rfl
    refine ⟨⟨?_, ?_⟩, hz.le, hz.paced, fun t ht hmonitored => ?_⟩
    · simpa [hnone] using hz.monitored.nodup
    · simpa [hnone] using hz.monitored.le
    · rcases List.mem_append.1 ht with ht | ht
      · exact hz.due t ht hmonitored
      · rw [List.mem_singleton.1 ht, hnone] at hmonitored
        cases hmonitored
  | advance d =>
    rw [eq_of_advance hstep]
    rw [isTimely, List.all_eq_true] at hm
    exact ⟨⟨hz.monitored.nodup, hz.monitored.le⟩, hz.le, hz.paced, fun t ht hmonitored =>
      Task.checksAt?_of_isOnTime (hz.due t ht hmonitored) (Nat.le_add_right _ _) (hm t ht)⟩
  | step i input =>
    obtain ⟨front, t, back, r, htasks, hi, -, hgoes, rfl⟩ := goes_of_step hstep
    have hchecks : z.checks generation (.step i input) = t.checks z.shard generation z.now := by
      rw [System.checks, hi]
      rfl
    rw [hchecks]
    exact hz.went htasks hgoes

theorem Timely.isPacing (h : Timely bus generation y z earlier)
    (hy : IsPacing generation start y []) : IsPacing generation start z earlier := by
  induction h with
  | refl => exact hy
  | step m _ hm hstep ih => exact ih.step hm hstep

theorem Timely.isReachable (h : Timely bus generation y z earlier)
    (hy : IsReachable bus index config y) : IsReachable bus index config z := by
  induction h with
  | refl => exact hy
  | step m _ _ hstep ih => exact .step m ih hstep

/-- A step of a task takes no time. -/
theorem Timely.went (h : Timely bus generation y z earlier) (htasks : z.tasks = front ++ t :: back)
    (hr : t.step z.shard bus z.opened z.stopped z.now input = some r) :
    Timely bus generation y (z.went front input r back)
      (t.checks z.shard generation z.now ++ earlier) := by
  have hchecks : z.checks generation (.step front.length input) =
      t.checks z.shard generation z.now := by
    simp [checks, htasks]
  exact hchecks ▸ h.step (.step front.length input) rfl (step_went htasks hr)

/-! ## The next check -/

/-- A system that is about to check a heartbeat at an instant. -/
structure IsBeating (generation : Nat) (at' : Instant) (z : System Listener) : Prop where
  now : z.now = at'
  beats : ∃ front c back, z.tasks = front ++ .beating generation c :: back

/-- Where the monitor of a generation is about to check a heartbeat, it can do so. -/
theorem IsBeating.exists_check {at' : Instant} (hz : IsBeating generation at' z)
    (h : Timely bus generation y z []) :
    ∃ w, Timely bus generation y w [(at', z.shard.heartbeat.interval)] := by
  obtain ⟨rfl, front, c, back, htasks⟩ := hz
  have hr : ∃ r, (Task.beating generation c).step z.shard bus z.opened z.stopped z.now .nothing =
      some r := by
    simp only [Task.step]
    split <;> exact ⟨_, rfl⟩
  obtain ⟨r, hr⟩ := hr
  exact ⟨_, by simpa [Task.checks] using h.went htasks hr⟩

section Beating

variable {c sink : Connection} {at' : Instant} {interval : Duration}

/-- A monitor that sleeps wakes when its heartbeat is due. -/
theorem Timely.exists_of_monitoring (h : Timely bus generation y z [])
    (hz : z.IsMonitored) (htasks : z.tasks = front ++ .monitoring generation c due :: back)
    (hgeneration : z.shard.generation = generation) :
    ∃ w, Timely bus generation y w [] ∧ IsBeating generation (max due z.now) w := by
  -- Once its heartbeat is due, it goes on at once.
  have hwakes : ∀ z : System Listener, Timely bus generation y z [] →
      z.tasks = front ++ .monitoring generation c due :: back → z.shard.generation = generation →
      due ≤ z.now → ∃ w, Timely bus generation y w [] ∧ IsBeating generation z.now w := by
    intro z h htasks hgeneration hdue
    have hr : (Task.monitoring generation c due).step z.shard bus z.opened z.stopped z.now
        .nothing = some ⟨z.shard, [.beating generation c], none, []⟩ := by
      simp [Task.step, hdue, hgeneration, Task.goto]
    exact ⟨_, h.went htasks hr, rfl, front, c, back, tasks_went rfl⟩
  rcases Nat.le_total due z.now with hdue | hdue
  · rw [Nat.max_eq_right hdue]
    exact hwakes z h htasks hgeneration hdue
  · have hothers := hz.ne_of_mem htasks rfl
    have hontime : z.isTimely generation (.advance (due - z.now)) := by
      rw [isTimely, Nat.add_sub_cancel' hdue, List.all_eq_true, htasks]
      intro t ht
      rcases List.mem_cons.1 (List.perm_middle.mem_iff.1 ht) with rfl | ht
      · simp [Task.isOnTime]
      · exact Task.isOnTime_of_monitored?_ne (hothers t ht) _
    have hnow : z.now + (due - z.now) = max due z.now := by
      rw [Nat.max_eq_left hdue, Nat.add_sub_cancel' hdue]
    rw [← hnow]
    refine hwakes { z with now := z.now + (due - z.now) } (h.step _ hontime rfl) htasks
      hgeneration ?_
    rw [hnow]
    exact Nat.le_max_left _ _

theorem Timely.exists_of_recording (h : Timely bus generation y z [])
    (hz : z.IsMonitored)
    (htasks : z.tasks = front ++ .recording generation c at' interval :: back)
    (hgeneration : z.shard.generation = generation) :
    ∃ w, Timely bus generation y w [] ∧ IsBeating generation (z.now + interval) w := by
  have hr : (Task.recording generation c at' interval).step z.shard bus z.opened z.stopped z.now
      .nothing = some ⟨{ z.shard with heartbeat := z.shard.heartbeat.recordSent at' },
        [.monitoring generation c (z.now + interval)], none, []⟩ := rfl
  have hmonitored := hz.went htasks (Task.goes_of_step hr)
  have hmax : max (z.now + interval) z.now = z.now + interval :=
    Nat.max_eq_left (Nat.le_add_right _ _)
  exact hmax ▸ (h.went htasks hr).exists_of_monitoring hmonitored (tasks_went rfl) hgeneration

theorem Timely.exists_of_sending {sequence : Option Nat} (h : Timely bus generation y z [])
    (hz : z.IsMonitored)
    (htasks : z.tasks = front ++ .sending generation c at' interval sequence :: back)
    (hgeneration : z.shard.generation = generation) (hsink : z.shard.sink = some sink) :
    ∃ w, Timely bus generation y w [] ∧ IsBeating generation (z.now + interval) w := by
  have hr : (Task.sending generation c at' interval sequence).step z.shard bus z.opened z.stopped
      z.now (.delivered true) = some ⟨z.shard, [.recording generation c at' interval], none,
        [.sent sink (.message (.heartbeat sequence))]⟩ := by
    simp [Task.step, hsink]
  have hmonitored := hz.went htasks (Task.goes_of_step hr)
  exact (h.went htasks hr).exists_of_recording hmonitored (tasks_went rfl) hgeneration

theorem Timely.exists_of_numbering (h : Timely bus generation y z [])
    (hz : z.IsMonitored) (htasks : z.tasks = front ++ .numbering generation c at' interval :: back)
    (hgeneration : z.shard.generation = generation) (hsink : z.shard.sink = some sink) :
    ∃ w, Timely bus generation y w [] ∧ IsBeating generation (z.now + interval) w := by
  have hr : (Task.numbering generation c at' interval).step z.shard bus z.opened z.stopped z.now
      .nothing = some ⟨z.shard, [.sending generation c at' interval z.shard.session.sequence],
        none, []⟩ := rfl
  have hmonitored := hz.went htasks (Task.goes_of_step hr)
  exact (h.went htasks hr).exists_of_sending hmonitored (tasks_went rfl) hgeneration hsink

/-- The monitor of an open connection can get to its next check. -/
theorem Timely.exists_isBeating (h : Timely bus generation y z []) (hz : z.IsMonitored)
    (ht : t ∈ z.tasks) (hdue : t.checksAt? generation z.now = some due)
    (hgeneration : z.shard.generation = generation) (hsink : z.shard.sink = some sink) :
    ∃ w, Timely bus generation y w [] ∧ IsBeating generation due w := by
  obtain ⟨front, back, htasks⟩ := List.append_of_mem ht
  have hmonitored := Task.monitored?_of_checksAt? hdue
  cases t with
  | monitoring generation' c due' =>
    obtain rfl : generation' = generation := Option.some.inj hmonitored
    obtain rfl : max due' z.now = due := by simpa [Task.checksAt?] using hdue
    exact h.exists_of_monitoring hz htasks hgeneration
  | beating generation' c =>
    obtain rfl : generation' = generation := Option.some.inj hmonitored
    exact ⟨z, h, by simpa [Task.checksAt?] using hdue, front, c, back, htasks⟩
  | numbering generation' c at' interval =>
    obtain rfl : generation' = generation := Option.some.inj hmonitored
    obtain rfl : z.now + interval = due := by simpa [Task.checksAt?] using hdue
    exact h.exists_of_numbering hz htasks hgeneration hsink
  | sending generation' c at' interval sequence =>
    obtain rfl : generation' = generation := Option.some.inj hmonitored
    obtain rfl : z.now + interval = due := by simpa [Task.checksAt?] using hdue
    exact h.exists_of_sending hz htasks hgeneration hsink
  | recording generation' c at' interval =>
    obtain rfl : generation' = generation := Option.some.inj hmonitored
    obtain rfl : z.now + interval = due := by simpa [Task.checksAt?] using hdue
    exact h.exists_of_recording hz htasks hgeneration
  | _ => cases hdue

end Beating

section Open

variable {sink : Connection} {limit : Instant}

/-- The next check of an open connection can come when it is due. -/
theorem IsPacing.exists_check (hz : IsPacing generation start z []) (ht : t ∈ z.tasks)
    (hmonitored : t.monitored? = some generation) (hgeneration : z.shard.generation = generation)
    (hsink : z.shard.sink = some sink) :
    ∃ w interval, Timely bus generation z w [(start, interval)] := by
  have hrefl : Timely bus generation z z [] := .refl
  obtain ⟨w, hw, hbeats⟩ := hrefl.exists_isBeating hz.monitored ht (hz.due t ht hmonitored)
    hgeneration hsink
  obtain ⟨w', hw'⟩ := hbeats.exists_check hw
  exact ⟨w', _, hw'⟩

/-- It comes by an instant exactly if that is not before it is due. -/
theorem IsPacing.checksBy_iff (hz : IsPacing generation start z []) (ht : t ∈ z.tasks)
    (hmonitored : t.monitored? = some generation) (hgeneration : z.shard.generation = generation)
    (hsink : z.shard.sink = some sink) : z.ChecksBy bus generation limit ↔ start ≤ limit := by
  constructor
  · intro h
    have hrefl : Timely bus generation z z [] := .refl
    obtain ⟨w, hw, rfl, front, c, back, htasks⟩ := hrefl.exists_isBeating hz.monitored ht
      (hz.due t ht hmonitored) hgeneration hsink
    refine h w hw ⟨.beating generation c, by simp [htasks], ?_⟩
    simp [Task.checksAt?]
  · rintro hle w hw ⟨t, ht, hdue⟩
    obtain ⟨due, hdue⟩ := Option.isSome_iff_exists.1 hdue
    have hstart := (hw.isPacing hz).due t ht (Task.monitored?_of_checksAt? hdue)
    exact Nat.le_trans (Task.le_of_checksAt? hstart) hle

end Open

/-- Where a monitor is on its way to its next check, that is due when it gets there. -/
theorem IsMonitored.isPacing (hy : y.IsMonitored) (ht : t ∈ y.tasks)
    (hdue : t.checksAt? generation y.now = some due) (hle : generation ≤ y.shard.generation) :
    IsPacing generation due y [] := by
  have hmonitored := Task.monitored?_of_checksAt? hdue
  obtain ⟨front, back, htasks⟩ := List.append_of_mem ht
  refine ⟨hy, hle, trivial, fun t' ht' hmonitored' => ?_⟩
  rw [htasks, List.perm_middle.mem_iff, List.mem_cons] at ht'
  rcases ht' with rfl | ht'
  · exact hdue
  · exact absurd hmonitored' (hy.ne_of_mem htasks hmonitored t' ht')

/-- A greeting on an open connection leaves its monitor on its way. -/
theorem IsReachable.exists_isPacing_of_hello {i : Nat} {c : Connection} {text : String}
    {hello : Hello} (hy : IsReachable bus index config y)
    (hreader : y.tasks[i]? = some (.reading y.shard.generation c))
    (ht : t ∈ y.tasks) (hdue : t.checksAt? y.shard.generation y.now = some due)
    (hhello : Frame.read text = .ok (.hello hello)) (hpos : hello.heartbeatInterval ≠ 0) :
    ∃ z, y.step bus (.step i (.inbound (.text text))) = some z ∧ z.now = y.now ∧
      z.shard.heartbeat.interval = .ofMillis hello.heartbeatInterval ∧
      z.shard.generation = y.shard.generation ∧ z.shard.sink = y.shard.sink ∧ t ∈ z.tasks ∧
      IsPacing y.shard.generation due z [] := by
  obtain ⟨session, hhandle⟩ := y.shard.exists_handle_hello bus y.now hhello hpos
  let heartbeat := y.shard.heartbeat.setInterval (.ofMillis hello.heartbeatInterval)
  let r : Step Listener := ⟨{ y.shard with session, heartbeat },
    [.looking y.shard.generation c], none, []⟩
  have hr : (Task.reading y.shard.generation c).step y.shard bus y.opened y.stopped y.now
      (.inbound (.text text)) = some r := by
    simp [Task.step, Task.readStep, hhandle, r, heartbeat]
  obtain ⟨hi, hget⟩ := List.getElem?_eq_some_iff.1 hreader
  obtain ⟨front, back, htasks, rfl⟩ : ∃ front back,
      y.tasks = front ++ .reading y.shard.generation c :: back ∧ front.length = i :=
    ⟨y.tasks.take i, y.tasks.drop (i + 1), by
      rw [← hget, List.getElem_cons_drop, List.take_append_drop],
      List.length_take_of_le (Nat.le_of_lt hi)⟩
  have hpacing := (hy.isMonitored.isPacing ht hdue (Nat.le_refl _)).went
    htasks (Task.goes_of_step hr)
  refine ⟨_, step_went htasks hr, rfl, rfl, rfl, rfl, ?_, hpacing⟩
  -- The reader is another task than the monitor.
  rw [htasks, List.perm_middle.mem_iff, List.mem_cons] at ht
  rcases ht with rfl | ht
  · cases hdue
  · simp only [System.went, List.mem_append] at ht ⊢
    exact or_right_comm.1 (.inl ht)

/-- What a greeting makes of a connection whose monitor checks next at `due`. -/
structure IsGreeted (bus : Bus Listener) (generation : Nat) (due : Instant) (interval : Duration)
    (y z : System Listener) : Prop where
  now : z.now = y.now
  /-- The new interval is in force, -/
  inForce : z.shard.heartbeat.interval = interval
  /-- but the next check comes within it only if it was due by then anyway: -/
  checksBy : z.ChecksBy bus generation (y.now + interval) ↔ due ≤ y.now + interval
  /-- it comes when it was due. -/
  check : ∃ w interval', Timely bus generation z w [(due, interval')]
  /-- So do all others, each an interval after the one before, -/
  paced : ∀ w checks, Timely bus generation z w checks → IsPaced due checks
  /-- and none takes longer than the last interval exactly if no interval was longer. -/
  gaps : ∀ w checks, Timely bus generation z w checks →
    (checks.IsChain (fun later earlier => later.1 ≤ earlier.1 + later.2) ↔
      checks.IsChain fun later earlier => earlier.2 ≤ later.2)

/-- A greeting while an open connection has a monitor. The new interval does not count for the
    check that the monitor is on its way to. -/
theorem isGreeted_of_hello {i : Nat} {c sink : Connection} {text : String} {hello : Hello}
    (hy : IsReachable bus index config y)
    (hreader : y.tasks[i]? = some (.reading y.shard.generation c))
    (ht : t ∈ y.tasks) (hdue : t.checksAt? y.shard.generation y.now = some due)
    (hsink : y.shard.sink = some sink) (hhello : Frame.read text = .ok (.hello hello))
    (hpos : hello.heartbeatInterval ≠ 0) :
    ∃ z, y.step bus (.step i (.inbound (.text text))) = some z ∧
      IsGreeted bus y.shard.generation due (.ofMillis hello.heartbeatInterval) y z := by
  obtain ⟨z, hstep, hnow, hinterval, hgeneration, hsink', ht', hpacing⟩ :=
    hy.exists_isPacing_of_hello hreader ht hdue hhello hpos
  have hmonitored := Task.monitored?_of_checksAt? hdue
  have hopen := hsink'.trans hsink
  exact ⟨z, hstep, {
    now := hnow
    inForce := hinterval
    checksBy := hpacing.checksBy_iff ht' hmonitored hgeneration hopen
    check := hpacing.exists_check ht' hmonitored hgeneration hopen
    paced := fun w checks hw => (hw.isPacing hpacing).paced
    gaps := fun w checks hw => (hw.isPacing hpacing).paced.isChain_iff }⟩

/-- A shard that was greeted with an interval of two milliseconds, when its monitor has sent
    the first heartbeat and sleeps. -/
def firstBeaten : System Unit where
  shard := { firstShard with heartbeat := ⟨Duration.ofMillis 2, some 0, none⟩ }
  now := 0
  opened := 1
  stopped := []
  tasks := [.reading 1 0, .monitoring 1 0 (Duration.ofMillis 2)]
  log := [.sent 0 (.message (.heartbeat none)), .established 1 0,
    .sent 0 (.message (firstShard.opening .identify)), .dialed firstShard.target]

/-- The same shard before that heartbeat. -/
def firstSlow : System Unit :=
  established { firstDialed [] with
    log := .sent 0 (.message (firstShard.opening .identify)) :: (firstDialed []).log }
    [] [] 0 (Duration.ofMillis 2) 0

theorem isReachable_firstSlow : IsReachable .empty 0 {} firstSlow := by
  have hdial : (System.new 0 {}).run .empty [.request .connect, .step 0 .nothing, .step 0 .nothing,
      .step 0 .nothing, .step 0 (.dialed true)] = some (firstDialed []) := rfl
  have htasks : (firstDialed []).tasks = [] ++ .connecting .application (.greet 0) :: [] := rfl
  have hgreeting : (Greeting.text (Greeting.everyMillis '2')).interval =
      .ok (Duration.ofMillis 2) := by
    simp only [Greeting.interval, Greeting.read_everyMillis.2]
    rfl
  exact IsReachable.new.run (run_append hdial (run_identify (d := 0) htasks hgreeting rfl rfl))

theorem timely_firstBeaten :
    Timely .empty 1 firstSlow firstBeaten [(0, Duration.ofMillis 2)] := by
  have h₀ : Timely .empty 1 firstSlow firstSlow [] := .refl
  have h₁ := h₀.step (.step 1 .nothing) rfl rfl
  have h₂ := h₁.step (.step 1 .nothing) rfl rfl
  have h₃ := h₂.step (.step 1 .nothing) rfl rfl
  have h₄ := h₃.step (.step 1 (.delivered true)) rfl rfl
  exact h₄.step (.step 1 .nothing) rfl rfl

theorem isReachable_firstBeaten : IsReachable .empty 0 {} firstBeaten :=
  timely_firstBeaten.isReachable isReachable_firstSlow

/-- A greeting asks for a heartbeat every millisecond while the monitor sleeps for two. -/
theorem isGreeted_of_hello_firstBeaten : IsReachable .empty 0 {} firstBeaten ∧
    ∃ z, firstBeaten.step .empty (.step 0 (.inbound (.text (Greeting.everyMillis '1')))) = some z ∧
      IsGreeted .empty 1 (Duration.ofMillis 2) (Duration.ofMillis 1) firstBeaten z :=
  ⟨isReachable_firstBeaten, isGreeted_of_hello isReachable_firstBeaten rfl
    (t := .monitoring 1 0 (Duration.ofMillis 2)) (by simp [firstBeaten]) rfl rfl
    Greeting.read_everyMillis.1 Nat.one_ne_zero⟩

/-- The next heartbeat is checked no earlier than it was due before: two milliseconds after
    the last one, though the gateway wants one every millisecond. -/
theorem exists_late_check : ∃ y z : System Unit, IsReachable .empty 0 {} y ∧
    y.shard.state = .connected ∧ y.shard.sink = some 0 ∧
    Timely .empty y.shard.generation firstSlow y [(0, Duration.ofMillis 2)] ∧ y.now = 0 ∧
    y.step .empty (.step 0 (.inbound (.text (Greeting.everyMillis '1')))) = some z ∧
    z.shard.heartbeat.interval = Duration.ofMillis 1 ∧
    ¬ z.ChecksBy .empty y.shard.generation (y.now + Duration.ofMillis 1) ∧
    ∃ w interval, Timely .empty y.shard.generation z w [(Duration.ofMillis 2, interval)] := by
  have hreader : firstBeaten.tasks[0]? = some (.reading firstBeaten.shard.generation 0) := rfl
  obtain ⟨z, hstep, -, hinterval, hgeneration, hsink, ht, hpacing⟩ :=
    isReachable_firstBeaten.exists_isPacing_of_hello hreader
      (t := .monitoring 1 0 (Duration.ofMillis 2)) (by simp [firstBeaten]) rfl
      Greeting.read_everyMillis.1 Nat.one_ne_zero
  refine ⟨firstBeaten, z, isReachable_firstBeaten, rfl, rfl, timely_firstBeaten, rfl, hstep,
    hinterval, ?_, hpacing.exists_check ht rfl hgeneration hsink⟩
  rw [hpacing.checksBy_iff ht rfl hgeneration hsink]
  decide

end System

end GatewayClient
