import GatewayClient.Proofs.Shard.Establish
import GatewayClient.Proofs.Shard.History
import GatewayClient.Proofs.Shard.Survival

/-!
# Heartbeats over the life of a connection

A connection is watched by its monitor alone: a heartbeat is due a first delay after the
connection was established and then once an interval, and it is sent unless the one before
has gone unacknowledged for the whole interval. What becomes of a connection is read off
the instants at which something came on it, and nothing else, be it of an earlier
connection or of the monitor itself, counts.

* `BeatEvent`, `BeatHistory`: what came, what was due, the numbers that were looked up, and
  what was sent.
* `BeatHistory.Follows`: the rules, by recursion on the history.
* `BeatHistory.Follows.exists_unanswered`, `BeatHistory.Follows.not_mem_of_isAnswered`: what
  they mean for a peer that stops to acknowledge and for one that does not.
* `System.Beats`: the runs in which timers fire on time and heartbeats can be sent, while
  the tasks that earlier connections left only end.
* `System.keepsBeat_of_connecting`: such a run of any connection follows the rules.
-/

namespace GatewayClient

variable {Listener : Type}

/-! ## What comes on a connection -/

namespace Inbound

/-- Whether something that comes on a connection acknowledges a heartbeat. -/
def isAck : Inbound → Bool
  | .text s => match Frame.read s with
    | .ok .heartbeatAck => true
    | _ => false
  | _ => false

/-- Whether it is a greeting, which sets another interval. -/
def isHello : Inbound → Bool
  | .text s => match Frame.read s with
    | .ok (.hello _) => true
    | _ => false
  | _ => false

end Inbound

/-- Of the frames only greetings and acknowledgements do something to the heartbeats. -/
theorem Shard.heartbeat_act (s : Shard) (bus : Bus Listener) (sequence : Option Nat) {frame : Frame}
    (now : Instant) (h : ∀ hello, frame ≠ .hello hello) :
    (s.act bus sequence frame now).2.1.heartbeat = match frame with
      | .heartbeatAck => s.heartbeat.recordAck now
      | _ => s.heartbeat := by
  cases frame with
  | hello hello => exact absurd rfl (h hello)
  | dispatch name data =>
    simp only [act, dispatch, afterEvent]
    split
    · rfl
    · split
      · split <;> rfl
      · rfl
  | invalidSession resumable => cases resumable <;> rfl
  | _ => rfl

theorem Shard.heartbeat_handle (s : Shard) (bus : Bus Listener) {text : String} (now : Instant)
    (h : (Inbound.text text).isHello = false) : (s.handle bus text now).shard.heartbeat =
      if (Inbound.text text).isAck then s.heartbeat.recordAck now else s.heartbeat := by
  have hrecord (sequence : Option Nat) : (s.recordSequence sequence).heartbeat = s.heartbeat := by
    cases sequence <;> rfl
  cases henvelope : Envelope.read text with
  | error reason =>
    have hread : Frame.read text = .error (.decode reason) := by rw [Frame.read, henvelope]
    simp [handle, henvelope, Inbound.isAck, hread]
  | ok e =>
    have hread : Frame.read text = Frame.ofEnvelope e := by rw [Frame.read, henvelope]
    cases hframe : Frame.ofEnvelope e with
    | error fault =>
      simpa [handle, henvelope, hframe, Inbound.isAck, hread] using hrecord e.sequence
    | ok frame =>
      have hhello : ∀ hello, frame ≠ .hello hello := by
        rintro hello rfl
        simp [Inbound.isHello, hread, hframe] at h
      simp only [handle, henvelope, hframe, heartbeat_act _ bus _ now hhello, hrecord,
        Inbound.isAck, hread]
      cases frame <;> rfl

/-- Whether a listener heard of an event. -/
def Note.isCall : Note Listener → Bool
  | .called _ => true
  | _ => false

/-- A heartbeat carries the sequence number, or nothing. -/
theorem Envelope.heartbeat_eq (last : Option Nat) :
    heartbeat last = ⟨.heartbeat, none, none, last.elim .null .ofNat⟩ := by
  cases last <;> rfl

/-! ## Histories -/

/-- Something that matters to the heartbeats of a connection. -/
inductive BeatEvent where
  /-- Something comes on the connection. -/
  | read (at' : Instant) (i : Inbound)
  /-- A heartbeat is due, and is to be sent or not. -/
  | tick (at' : Instant) (verdict : Pulse)
  /-- A heartbeat that is to be sent gets a sequence number. -/
  | numbered (at' : Instant) (sequence : Option Nat)
  /-- A heartbeat is sent, with a sequence number. -/
  | sent (at' : Instant) (sequence : Option Nat)
  deriving DecidableEq, Repr

namespace BeatEvent

/-- When it happens. -/
def instant : BeatEvent → Instant
  | read at' _ | tick at' _ | numbered at' _ | sent at' _ => at'

def isRead : BeatEvent → Bool
  | read _ _ => true
  | _ => false

def isTick : BeatEvent → Bool
  | tick _ _ => true
  | _ => false

def isSent : BeatEvent → Bool
  | sent _ _ => true
  | _ => false

/-- The instant of an acknowledgement. -/
def ack? : BeatEvent → Option Instant
  | read at' i => if i.isAck then some at' else none
  | _ => none

/-- What an event does to the session. -/
def sessionEvents : BeatEvent → SessionHistory
  | read _ i => i.sessionEvents
  | _ => []

/-- What can be seen of an event on a connection, apart from the listeners. -/
def note? (c : Connection) : BeatEvent → Option (Note Listener)
  | sent _ sequence =>
    some (.sent c (.message ⟨.heartbeat, none, none, sequence.elim .null .ofNat⟩))
  | _ => none

end BeatEvent

/-- What has happened to the heartbeats of a connection, the last event first. -/
abbrev BeatHistory := List BeatEvent

namespace BeatHistory

/-- How many heartbeats were due. -/
def ticks (h : BeatHistory) : Nat := h.countP BeatEvent.isTick

/-- The instants of the acknowledgements. -/
def acks (h : BeatHistory) : List Instant := h.filterMap BeatEvent.ack?

/-- What the monitor did last. -/
def last? (h : BeatHistory) : Option BeatEvent := h.find? (!·.isRead)

/-- The session, given that of the beginning. -/
def session (h : BeatHistory) (s : Session) : Session :=
  SessionHistory.replay (h.flatMap BeatEvent.sessionEvents) s

/-- Whether a heartbeat that was sent at an instant was acknowledged within an interval. -/
def isAnswered (h : BeatHistory) (sent : Instant) (interval : Duration) : Bool :=
  h.acks.any fun acked => sent ≤ acked && acked ≤ sent + interval

/-- The rules for heartbeats, of which the first is due at `start`. -/
def Follows (start : Instant) (interval : Duration) (s : Session) : BeatHistory → Prop
  | [] => True
  | .read _ _ :: h => Follows start interval s h
  | .tick at' verdict :: h =>
    at' = start + ticks h * interval ∧
      (match last? h with
        | none => verdict = .send
        | some (.sent sent _) => verdict = .zombie ↔ isAnswered h sent interval = false
        | some _ => False) ∧
      Follows start interval s h
  | .numbered at' sequence :: h =>
    last? h = some (.tick at' .send) ∧ sequence = (session h s).sequence ∧
      Follows start interval s h
  | .sent at' sequence :: h =>
    last? h = some (.numbered at' sequence) ∧ Follows start interval s h

variable {h : BeatHistory} {start at' sent now : Instant} {interval : Duration} {i : Inbound}
  {e : BeatEvent} {verdict : Pulse} {sequence : Option Nat} {s : Session}

@[simp] theorem ticks_nil : ticks [] = 0 := rfl

@[simp] theorem ticks_read : ticks (.read at' i :: h) = ticks h := List.countP_cons_of_neg nofun

@[simp] theorem ticks_tick : ticks (.tick at' verdict :: h) = ticks h + 1 :=
  List.countP_cons_of_pos rfl

@[simp] theorem ticks_numbered : ticks (.numbered at' sequence :: h) = ticks h :=
  List.countP_cons_of_neg nofun

@[simp] theorem ticks_sent : ticks (.sent at' sequence :: h) = ticks h :=
  List.countP_cons_of_neg nofun

@[simp] theorem last?_tick : last? (.tick at' verdict :: h) = some (.tick at' verdict) := rfl

theorem acks_read : acks (.read at' i :: h) = if i.isAck then at' :: acks h else acks h := by
  cases hack : i.isAck <;> simp [acks, BeatEvent.ack?, hack]

theorem session_read : session (.read at' i :: h) s =
    SessionHistory.replay i.sessionEvents (session h s) := by
  rw [session, List.flatMap_cons, SessionHistory.replay, List.foldr_append]
  rfl

/-- A heartbeat is due an interval after the monitor did anything about the one before. -/
theorem Follows.add_eq (hf : Follows start interval s h) (hlast : last? h = some e) :
    e.instant + interval = start + ticks h * interval := by
  induction h generalizing e with
  | nil => cases hlast
  | cons e' h ih =>
    cases e' with
    | read _ i => exact (ih hf hlast).trans (by rw [ticks_read])
    | tick at' verdict =>
      cases hlast
      show at' + interval = _
      rw [ticks_tick, Nat.succ_mul, hf.1, Nat.add_assoc]
    | numbered _ sequence =>
      cases hlast
      exact (ih hf.2.2 hf.1).trans (by rw [ticks_numbered])
    | sent _ sequence =>
      cases hlast
      exact (ih hf.2 hf.1).trans (by rw [ticks_sent])

/-- A peer that acknowledges each heartbeat before the next one is due is not given up. -/
theorem Follows.not_mem_of_isAnswered (hf : Follows start interval s h)
    (hanswered : ∀ later earlier at' verdict sent sequence,
      h = later ++ .tick at' verdict :: earlier → last? earlier = some (.sent sent sequence) →
        isAnswered earlier sent interval) (at' : Instant) : .tick at' .zombie ∉ h := by
  induction h with
  | nil => exact List.not_mem_nil
  | cons e h ih =>
    have hrest (hf : Follows start interval s h) : .tick at' .zombie ∉ h :=
      ih hf fun later earlier at' verdict sent sequence heq =>
        hanswered (e :: later) earlier at' verdict sent sequence (congrArg (e :: ·) heq)
    intro hmem
    cases e with
    | read _ i => exact hrest hf ((List.mem_cons.1 hmem).resolve_left nofun)
    | numbered _ sequence => exact hrest hf.2.2 ((List.mem_cons.1 hmem).resolve_left nofun)
    | sent _ sequence => exact hrest hf.2 ((List.mem_cons.1 hmem).resolve_left nofun)
    | tick at'' verdict =>
      refine hrest hf.2.2 ((List.mem_cons.1 hmem).resolve_left fun heq => ?_)
      cases heq
      -- To be given up, the peer must have left the last heartbeat unanswered.
      have hverdict := hf.2.1
      cases hlast : last? h with
      | none => simp [hlast] at hverdict
      | some e =>
        cases e with
        | sent sent sequence =>
          have hunanswered : isAnswered h sent interval = false := by simpa [hlast] using hverdict
          exact absurd (hanswered [] h at' .zombie sent sequence rfl hlast)
            (Bool.eq_false_iff.1 hunanswered)
        | _ => simp [hlast] at hverdict

/-- Once a connection is given up, its monitor does nothing more. -/
theorem Follows.last?_eq_of_mem (hf : Follows start interval s h) (hmem : .tick at' .zombie ∈ h) :
    last? h = some (.tick at' .zombie) := by
  induction h with
  | nil => exact absurd hmem List.not_mem_nil
  | cons e h ih =>
    cases e with
    | read _ i => exact ih hf ((List.mem_cons.1 hmem).resolve_left nofun)
    | numbered _ sequence =>
      -- What gets a number was to be sent when it was due.
      have hlast := ih hf.2.2 ((List.mem_cons.1 hmem).resolve_left nofun)
      exact absurd (hlast.symm.trans hf.1) nofun
    | sent _ sequence =>
      have hlast := ih hf.2 ((List.mem_cons.1 hmem).resolve_left nofun)
      exact absurd (hlast.symm.trans hf.1) nofun
    | tick at'' verdict =>
      rcases List.mem_cons.1 hmem with heq | hmem
      · rw [last?_tick, ← heq]
      · have hverdict := hf.2.1
        rw [ih hf.2.2 hmem] at hverdict
        exact hverdict.elim

/-- The rules hold from the beginning. -/
theorem Follows.of_append {later : BeatHistory} (hf : Follows start interval s (later ++ h)) :
    Follows start interval s h := by
  induction later with
  | nil => exact hf
  | cons e later ih =>
    cases e with
    | read _ i => exact ih hf
    | tick _ verdict => exact ih hf.2.2
    | numbered _ sequence => exact ih hf.2.2
    | sent _ sequence => exact ih hf.2

/-- A peer that does not acknowledge a heartbeat is given up an interval later, before it can
    miss another one. -/
theorem Follows.exists_unanswered (hf : Follows start interval s h) (hmem : .tick at' .zombie ∈ h) :
    ∃ later earlier sent sequence, h = later ++ .tick at' .zombie :: earlier ∧
      last? earlier = some (.sent sent sequence) ∧ at' = sent + interval ∧
      isAnswered earlier sent interval = false ∧ ∀ at'', .tick at'' .zombie ∉ earlier := by
  obtain ⟨later, earlier, rfl⟩ := List.append_of_mem hmem
  obtain ⟨hat, hverdict, hearlier⟩ := hf.of_append
  cases hlast : last? earlier with
  | none => simp [hlast] at hverdict
  | some e =>
    cases e with
    | sent sent sequence =>
      have hsent : at' = sent + interval := hat.trans (hearlier.add_eq hlast).symm
      refine ⟨later, earlier, sent, sequence, rfl, hlast, hsent, ?_, ?_⟩
      · simpa [hlast] using hverdict
      · exact fun at'' hmem => absurd (hlast.symm.trans (hearlier.last?_eq_of_mem hmem)) nofun
    | _ => simp [hlast] at hverdict

/-! ## Verdicts -/

/-- Whether every heartbeat that was sent is recorded, the last one with its instant. -/
def Rests (h : BeatHistory) (sentAt : Option Instant) : Prop :=
  (h.last? = none ∧ sentAt = none) ∨
    ∃ sent sequence, h.last? = some (.sent sent sequence) ∧ sentAt = some sent

theorem Rests.isSent {sentAt : Option Instant} (hrests : Rests h sentAt)
    (hlast : last? h = some e) : e.isSent := by
  rcases hrests with ⟨hnone, -⟩ | ⟨_, _, hsent, -⟩
  · cases hnone.symm.trans hlast
  · cases hsent.symm.trans hlast
    rfl

/-- Whether acknowledgements came in order, none of them after an instant. -/
def IsOrdered (h : BeatHistory) (now : Instant) : Prop :=
  (now :: h.acks).Pairwise (· ≥ ·)

theorem IsOrdered.of_le {later : Instant} (hordered : IsOrdered h now) (hle : now ≤ later) :
    IsOrdered h later := by
  rw [IsOrdered, List.pairwise_cons] at hordered ⊢
  exact ⟨fun acked hacked => Nat.le_trans (hordered.1 acked hacked) hle, hordered.2⟩

theorem IsOrdered.read (hordered : IsOrdered h now) : IsOrdered (.read now i :: h) now := by
  rw [IsOrdered, acks_read]
  split
  · refine List.pairwise_cons.2 ⟨fun acked hacked => ?_, hordered⟩
    rcases List.mem_cons.1 hacked with rfl | hacked
    · exact Nat.le_refl _
    · exact (List.pairwise_cons.1 hordered).1 acked hacked
  · exact hordered

/-- The last acknowledgement vouches for a heartbeat exactly if one of them does. -/
theorem isAnswered_eq (hordered : IsOrdered h (sent + interval)) :
    isAnswered h sent interval = h.acks.head?.any (sent ≤ ·) := by
  rw [IsOrdered, List.pairwise_cons] at hordered
  rw [isAnswered]
  cases hacks : h.acks with
  | nil => rfl
  | cons acked rest =>
    obtain ⟨hle, hsorted⟩ := hacks ▸ hordered
    rw [List.head?_cons, Option.any_some, Bool.eq_iff_iff, List.any_eq_true]
    constructor
    · rintro ⟨acked', hmem, hacked'⟩
      -- The last acknowledgement came no earlier than any other.
      have hsent : sent ≤ acked' := by simpa using (Bool.and_eq_true_iff.1 hacked').1
      refine decide_eq_true (Nat.le_trans hsent ?_)
      rcases List.mem_cons.1 hmem with rfl | hmem
      · exact Nat.le_refl _
      · exact (List.pairwise_cons.1 hsorted).1 acked' hmem
    · intro hacked
      -- It came in time, since nothing has come yet after the next heartbeat was due.
      refine ⟨acked, List.mem_cons_self, Bool.and_eq_true_iff.2 ⟨hacked, ?_⟩⟩
      exact decide_eq_true (hle acked List.mem_cons_self)

/-- An interval after a heartbeat, the check says whether it was answered. -/
theorem check_eq_zombie_iff (hordered : IsOrdered h (sent + interval)) :
    Heartbeat.check ⟨interval, some sent, h.acks.head?⟩ (sent + interval) = .zombie ↔
      isAnswered h sent interval = false := by
  rw [isAnswered_eq hordered]
  cases h.acks.head? with
  | none => simp [Heartbeat.check, Heartbeat.isAcked]
  | some acked => simp [Heartbeat.check, Heartbeat.isAcked]

/-- The check of a heartbeat that is due goes by the rules. -/
theorem Rests.follows_tick {sentAt : Option Instant} (hrests : Rests h sentAt)
    (hf : Follows start interval s h) (hordered : IsOrdered h now)
    (hnow : now = start + ticks h * interval) :
    Follows start interval s
      (.tick now (Heartbeat.check ⟨interval, sentAt, h.acks.head?⟩ now) :: h) := by
  refine ⟨hnow, ?_, hf⟩
  rcases hrests with ⟨hlast, rfl⟩ | ⟨sent, sequence, hlast, rfl⟩
  · rw [hlast]
    rfl
  · obtain rfl : sent + interval = now := (hf.add_eq hlast).trans hnow.symm
    rw [hlast]
    exact check_eq_zombie_iff hordered

end BeatHistory

/-! ## What other connections left -/

/-- Whether something comes on a connection. -/
def Input.isInbound : Input → Bool
  | .inbound _ => true
  | _ => false

/-- Whether a task was left by a connection of another generation: its reader or its monitor
    that waits, or that has found it lost. -/
def Task.isLeftOver (generation : Nat) : Task → Bool
  | .reading generation' _ | .looking generation' _ | .pacing generation' _
  | .monitoring generation' _ _ | .losing generation' _ => generation' ≠ generation
  | _ => false

/-- If nothing more comes on that connection, such a task only ends, or is a monitor that
    waits once more. -/
theorem Task.Goes.of_isLeftOver {t : Task} {s : Shard} {fresh : Connection} {now : Instant}
    {input : Input} {r : Step Listener} (h : t.Goes s fresh now input r)
    (hleft : t.isLeftOver s.generation) (hinput : input.isInbound = false) :
    ∃ tasks, r = ⟨s, tasks, none, []⟩ ∧ ∀ t' ∈ tasks, t'.isLeftOver s.generation := by
  cases h with
  | pace generation c d => exact ⟨_, rfl, List.forall_mem_singleton.2 hleft⟩
  | readerStopped | readNoMore | notNews | tickNoMore | monitorStopped =>
    exact ⟨[], rfl, List.forall_mem_nil _⟩
  | read | readLoss | readOther => cases hinput
  | readOn generation c hgeneration => simp [isLeftOver, hgeneration] at hleft
  | lose generation code hgeneration => simp [isLeftOver, hgeneration] at hleft
  | tick generation c due hdue hgeneration => simp [isLeftOver, hgeneration] at hleft
  | _ => cases hleft

/-! ## Undisturbed connections -/

namespace Task

/-- Whether a step of a connection's reader or monitor disturbs the connection in no way: the
    connection goes on, with its interval, its stop signal is not given, and heartbeats can
    be sent. -/
def isUndisturbed (input : Input) : Task → Bool
  | .reading _ _ => match input with
    | .inbound i => !i.isLoss && !i.isHello
    | _ => false
  | .monitoring _ _ _ => match input with
    | .nothing => true
    | _ => false
  | .sending _ _ _ _ _ => match input with
    | .delivered isDelivered => isDelivered
    | _ => false
  | .looking _ _ | .beating _ _ | .numbering _ _ _ _ | .recording _ _ _ _ => true
  | _ => false

/-- Whether a task can be left alone until an instant: a reader waits for as long as it
    takes, a monitor until its heartbeat is due, and nothing else takes any time. -/
def waitsUntil (later : Instant) : Task → Bool
  | .reading _ _ | .looking _ _ => true
  | .monitoring _ _ due => later ≤ due
  | _ => false

/-- What a step of a task means for the heartbeats. -/
def beatEvents (s : Shard) (now : Instant) (input : Input) : Task → BeatHistory
  | .reading _ _ => match input with
    | .inbound i => [.read now i]
    | _ => []
  | .beating _ _ => [.tick now (s.heartbeat.check now)]
  | .numbering _ _ _ _ => [.numbered now s.session.sequence]
  | .sending _ _ _ _ sequence => [.sent now sequence]
  | _ => []

theorem beatEvents_of_isLeftOver {generation : Nat} {t : Task} {s : Shard} {now : Instant}
    {input : Input} (hleft : t.isLeftOver generation) (hinput : input.isInbound = false) :
    t.beatEvents s now input = [] := by
  cases t with
  | reading generation' c =>
    cases input with
    | inbound i => cases hinput
    | _ => rfl
  | looking generation' c => rfl
  | pacing generation' c => rfl
  | monitoring generation' c due => rfl
  | losing generation' code => rfl
  | _ => cases hleft

/-- What comes on an undisturbed connection is handled, and the reader goes on. -/
theorem exists_step_reading (s : Shard) (bus : Bus Listener) (fresh : Connection)
    (stopped : List Connection) (now : Instant) (generation : Nat) (c : Connection) {i : Inbound}
    (h : (Task.reading generation c).isUndisturbed (.inbound i)) :
    ∃ calls : List (Call Listener),
      (Task.reading generation c).step s bus fresh stopped now (.inbound i) =
      some ⟨{ s with
          session := SessionHistory.replay i.sessionEvents s.session
          heartbeat := if i.isAck then s.heartbeat.recordAck now else s.heartbeat },
        [.looking generation c], none, calls.map .called⟩ := by
  obtain ⟨hloss, hhello⟩ : i.isLoss = false ∧ i.isHello = false := by
    simpa [isUndisturbed] using h
  cases i with
  | text text =>
    obtain ⟨session, heartbeat, hs⟩ := s.exists_handle bus text now
    have hsession := s.session_handle bus text now
    have hheartbeat := s.heartbeat_handle bus now hhello
    rw [hs] at hsession hheartbeat
    refine ⟨(s.handle bus text now).calls, ?_⟩
    simp only [step, readStep, hs, ← hsession, ← hheartbeat]
    split
    · rename_i hflow
      exact absurd ((s.flow_handle bus text now).1 hflow) (Bool.eq_false_iff.1 hloss)
    · rfl
  | other => exact ⟨[], rfl⟩
  | closed code => cases hloss
  | lost => cases hloss

end Task

namespace System

/-- Whether a move leaves the shard's connection undisturbed. What others left may take its
    steps meanwhile, but no more comes on them, and time passes no timer but theirs. -/
def isUndisturbed (y : System Listener) : Move → Bool
  | .request _ => false
  | .advance d => y.tasks.all fun t =>
    t.isLeftOver y.shard.generation || t.waitsUntil (y.now + d)
  | .step i input => y.tasks[i]?.all fun t =>
    if t.isLeftOver y.shard.generation then !input.isInbound else t.isUndisturbed input

/-- What a move means for the heartbeats. -/
def beatEvents (y : System Listener) : Move → BeatHistory
  | .step i input => (y.tasks[i]?.map (Task.beatEvents y.shard y.now input)).getD []
  | _ => []

/-- The systems that undisturbed moves lead to, with what has happened to the heartbeats. -/
inductive Beats (bus : Bus Listener) (y : System Listener) : System Listener → BeatHistory → Prop
  | refl : Beats bus y y []
  | step {z z' : System Listener} {h : BeatHistory} (m : Move) : Beats bus y z h →
    z.isUndisturbed m → z.step bus m = some z' → Beats bus y z' (z.beatEvents m ++ h)

/-- Where the monitor of a connection is after what has happened, if the last heartbeat it has
    recorded was sent at `sentAt`. -/
inductive Monitors (generation : Nat) (c : Connection) (start : Instant) (interval : Duration)
    (now : Instant) (h : BeatHistory) (sentAt : Option Instant) : Task → Prop
  | waits (due : Instant) : h.Rests sentAt → now ≤ due → due = start + h.ticks * interval →
    Monitors generation c start interval now h sentAt (.monitoring generation c due)
  | beats : h.Rests sentAt → now = start + h.ticks * interval →
    Monitors generation c start interval now h sentAt (.beating generation c)
  | numbers : h.last? = some (.tick now .send) →
    Monitors generation c start interval now h sentAt (.numbering generation c now interval)
  | sends (sequence : Option Nat) : h.last? = some (.numbered now sequence) →
    Monitors generation c start interval now h sentAt (.sending generation c now interval sequence)
  | records (sequence : Option Nat) : h.last? = some (.sent now sequence) →
    Monitors generation c start interval now h sentAt (.recording generation c now interval)
  | loses : h.last? = some (.tick now .zombie) →
    Monitors generation c start interval now h sentAt (.losing generation none)

/-- The tasks of a system: the reader and the monitor of a connection, among others that were
    left over. -/
structure HasTasks (z : System Listener) (generation : Nat) (c : Connection) (front : List Task)
    (reader monitor : Task) (back : List Task) : Prop where
  tasks_eq : z.tasks = front ++ reader :: monitor :: back
  reader_eq : reader = .reading generation c ∨ reader = .looking generation c
  left : ∀ t ∈ front ++ back, t.isLeftOver generation

/-- A system that undisturbed moves may have led to from the one in which a connection became
    the shard's. -/
structure IsWatched (y : System Listener) (generation : Nat) (c : Connection) (start : Instant)
    (interval : Duration) (z : System Listener) (h : BeatHistory) : Prop where
  /-- The connection has its reader and its monitor, and the shard knows the last
      acknowledgement and the last heartbeat that the monitor has recorded. -/
  watched : ∃ front reader monitor back sentAt,
    z.HasTasks generation c front reader monitor back ∧
    Monitors generation c start interval z.now h sentAt monitor ∧
    z.shard = { y.shard with
      session := h.session y.shard.session
      heartbeat := ⟨interval, sentAt, h.acks.head?⟩ }
  ordered : h.IsOrdered z.now
  follows : h.Follows start interval y.shard.session
  notes : z.log.filter (!·.isCall) = h.filterMap (BeatEvent.note? c) ++ y.log.filter (!·.isCall)

variable {bus : Bus Listener} {y z z' : System Listener} {generation : Nat} {c : Connection}
  {start : Instant} {interval : Duration} {h : BeatHistory} {reader monitor : Task}
  {front back : List Task}

/-- What comes on the connection does not concern the monitor. -/
theorem Monitors.read {sentAt : Option Instant} {now at' : Instant} {i : Inbound}
    (hm : Monitors generation c start interval now h sentAt monitor) :
    Monitors generation c start interval now (.read at' i :: h) sentAt monitor := by
  cases hm with
  | waits due hrests hle hdue => exact .waits due hrests hle (by rwa [BeatHistory.ticks_read])
  | beats hrests hnow => exact .beats hrests (by rwa [BeatHistory.ticks_read])
  | numbers hlast => exact .numbers hlast
  | sends sequence hlast => exact .sends sequence hlast
  | records sequence hlast => exact .records sequence hlast
  | loses hlast => exact .loses hlast

/-- No time has passed since a heartbeat was due that was not sent. -/
theorem Monitors.now_eq {now : Instant} {e : BeatEvent} {sentAt : Option Instant}
    (hm : Monitors generation c start interval now h sentAt monitor) (hlast : h.last? = some e)
    (hsent : e.isSent = false) : now = e.instant := by
  cases hm with
  | waits _ hrests _ _ => cases hsent.symm.trans (hrests.isSent hlast)
  | beats hrests _ => cases hsent.symm.trans (hrests.isSent hlast)
  | records _ hlast' =>
    cases hlast'.symm.trans hlast
    cases hsent
  | numbers hlast' | loses hlast' =>
    cases hlast'.symm.trans hlast
    rfl
  | sends _ hlast' =>
    cases hlast'.symm.trans hlast
    rfl

/-- A monitor that has given up its connection is about to say so. -/
theorem Monitors.eq_losing {now at' : Instant} {sentAt : Option Instant}
    (hm : Monitors generation c start interval now h sentAt monitor)
    (hlast : h.last? = some (.tick at' .zombie)) : monitor = .losing generation none := by
  cases hm with
  | waits _ hrests _ _ => cases hrests.isSent hlast
  | beats hrests _ => cases hrests.isSent hlast
  | numbers hsend => exact absurd (hsend.symm.trans hlast) nofun
  | sends _ hnumbered => exact absurd (hnumbered.symm.trans hlast) nofun
  | records _ hsent => exact absurd (hsent.symm.trans hlast) nofun
  | loses => rfl

/-- Neither the monitor of the connection nor its reader was left over. -/
theorem Monitors.isLeftOver_eq {sentAt : Option Instant} {now : Instant}
    (hm : Monitors generation c start interval now h sentAt monitor) :
    monitor.isLeftOver generation = false := by
  cases hm <;> simp [Task.isLeftOver]

theorem HasTasks.isLeftOver_reader (htasks : z.HasTasks generation c front reader monitor back) :
    reader.isLeftOver generation = false := by
  rcases htasks.reader_eq with rfl | rfl <;> simp [Task.isLeftOver]

section Step

variable {input : Input} {r : Step Listener} {sentAt : Option Instant}

theorem HasTasks.went_reader {reader' : Task}
    (htasks : z.HasTasks generation c front reader monitor back) (hr : r.tasks = [reader'])
    (hreader : reader' = .reading generation c ∨ reader' = .looking generation c) :
    (z.went front input r (monitor :: back)).HasTasks generation c front reader' monitor back :=
  ⟨by simp [went, hr], hreader, htasks.left⟩

theorem HasTasks.went_monitor {monitor' : Task}
    (htasks : z.HasTasks generation c front reader monitor back) (hr : r.tasks = [monitor']) :
    (z.went (front ++ [reader]) input r back).HasTasks generation c front reader monitor' back :=
  ⟨by simp [went, hr], htasks.reader_eq, htasks.left⟩

/-- A task is the reader or the monitor, or it was left over and the others stay when it
    ends or leaves something over. -/
theorem HasTasks.split_cases {front' back' : List Task} {t : Task}
    (htasks : z.HasTasks generation c front reader monitor back) (input : Input)
    (hsplit : z.tasks = front' ++ t :: back') :
    (front' = front ∧ t = reader ∧ back' = monitor :: back) ∨
      (front' = front ++ [reader] ∧ t = monitor ∧ back' = back) ∨
      t.isLeftOver generation ∧ ∀ tasks : List Task, (∀ t' ∈ tasks, t'.isLeftOver generation) →
        ∃ front₁ back₁, (z.went front' input ⟨z.shard, tasks, none, []⟩ back').HasTasks generation
          c front₁ reader monitor back₁ := by
  rcases List.append_eq_append_iff.1 (htasks.tasks_eq.symm.trans hsplit) with
    ⟨ts, hfront, hrest⟩ | ⟨ts, hfront, hrest⟩
  · -- It comes no earlier than the reader.
    rcases ts with _ | ⟨_, _ | ⟨_, ts⟩⟩
    · cases hrest
      exact .inl ⟨by simpa using hfront, rfl, rfl⟩
    · cases hrest
      exact .inr (.inl ⟨hfront, rfl, rfl⟩)
    · simp only [List.cons_append, List.cons.injEq] at hrest
      obtain ⟨rfl, rfl, rfl⟩ := hrest
      have hleft := htasks.left
      simp only [List.forall_mem_append, List.forall_mem_cons] at hleft
      refine .inr (.inr ⟨hleft.2.2.1, fun tasks htasks' => ⟨front, ts ++ (tasks ++ back'),
        by simp [went, hfront], htasks.reader_eq, ?_⟩⟩)
      simp only [List.forall_mem_append]
      exact ⟨hleft.1, hleft.2.1, htasks', hleft.2.2.2⟩
  · -- It comes no later.
    rcases ts with _ | ⟨_, ts⟩
    · cases hrest
      exact .inl ⟨by simpa using hfront.symm, rfl, rfl⟩
    · cases hrest
      have hleft := htasks.left
      rw [hfront] at hleft
      simp only [List.forall_mem_append, List.forall_mem_cons] at hleft
      refine .inr (.inr ⟨hleft.1.2.1, fun tasks htasks' => ⟨front' ++ (tasks ++ ts), back,
        by simp [went], htasks.reader_eq, ?_⟩⟩)
      simp only [List.forall_mem_append]
      exact ⟨⟨hleft.1.1, htasks', hleft.1.2.2⟩, hleft.2⟩

/-- A step of the reader. -/
theorem IsWatched.went_reader (hz : IsWatched y generation c start interval z h)
    (hgeneration : y.shard.generation = generation) (hstate : y.shard.state = .connected)
    (htasks : z.HasTasks generation c front reader monitor back)
    (hmonitor : Monitors generation c start interval z.now h sentAt monitor)
    (hshard : z.shard = { y.shard with
      session := h.session y.shard.session
      heartbeat := ⟨interval, sentAt, h.acks.head?⟩ })
    (hm : reader.isUndisturbed input)
    (hr : reader.step z.shard bus z.opened z.stopped z.now input = some r) :
    IsWatched y generation c start interval (z.went front input r (monitor :: back))
      (reader.beatEvents z.shard z.now input ++ h) := by
  rcases htasks.reader_eq with rfl | rfl
  · cases input with
    | inbound i =>
      obtain ⟨calls, hstep⟩ := Task.exists_step_reading z.shard bus z.opened z.stopped z.now
        generation c hm
      rw [hstep] at hr
      cases hr
      refine ⟨⟨front, _, monitor, back, sentAt, htasks.went_reader rfl (.inr rfl), hmonitor.read,
        ?_⟩, hz.ordered.read, hz.follows, ?_⟩
      · simp only [went, hshard, Task.beatEvents, List.singleton_append, BeatHistory.session_read,
          BeatHistory.acks_read]
        split <;> rfl
      · have hcalls : ((calls.map Note.called).reverse.filter (!·.isCall)) = [] := by
          simp [Note.isCall]
        simp only [went, List.filter_append, hcalls, List.nil_append]
        exact hz.notes
    | _ => cases hm
  · have hgoesOn : z.shard.generation = generation ∧ z.shard.isConnected := by
      rw [hshard]
      exact ⟨hgeneration, by simp [Shard.isConnected, hstate]⟩
    rw [Task.step, if_pos hgoesOn] at hr
    cases hr
    exact ⟨⟨front, _, monitor, back, sentAt, htasks.went_reader rfl (.inl rfl), hmonitor, hshard⟩,
      hz.ordered, hz.follows, hz.notes⟩

/-- A step of the monitor. -/
theorem IsWatched.went_monitor (hz : IsWatched y generation c start interval z h)
    (hgeneration : y.shard.generation = generation) (hsink : y.shard.sink = some c)
    (htasks : z.HasTasks generation c front reader monitor back)
    (hmonitor : Monitors generation c start interval z.now h sentAt monitor)
    (hshard : z.shard = { y.shard with
      session := h.session y.shard.session
      heartbeat := ⟨interval, sentAt, h.acks.head?⟩ })
    (hm : monitor.isUndisturbed input)
    (hr : monitor.step z.shard bus z.opened z.stopped z.now input = some r) :
    IsWatched y generation c start interval (z.went (front ++ [reader]) input r back)
      (monitor.beatEvents z.shard z.now input ++ h) := by
  cases hmonitor with
  | waits due hrests hle hdue =>
    cases input with
    | nothing =>
      have hgen : z.shard.generation = generation := hshard ▸ hgeneration
      simp only [Task.step, hgen, if_true] at hr
      split at hr
      · rename_i hge
        have hnow : z.now = start + h.ticks * interval := (Nat.le_antisymm hle hge).trans hdue
        cases hr
        exact ⟨⟨front, reader, _, back, sentAt, htasks.went_monitor rfl, .beats hrests hnow, hshard⟩,
          hz.ordered, hz.follows, hz.notes⟩
      · cases hr
    | _ => cases hm
  | beats hrests hnow =>
    have hheartbeat : z.shard.heartbeat = ⟨interval, sentAt, h.acks.head?⟩ := hshard ▸ rfl
    have hfollows := hrests.follows_tick hz.follows hz.ordered hnow
    rw [← hheartbeat] at hfollows
    simp only [Task.beatEvents, List.singleton_append]
    cases hcheck : z.shard.heartbeat.check z.now with
    | zombie =>
      rw [hcheck] at hfollows
      simp only [Task.step, hcheck] at hr
      cases hr
      exact ⟨⟨front, reader, _, back, sentAt, htasks.went_monitor rfl, .loses rfl, hshard⟩,
        hz.ordered, hfollows, hz.notes⟩
    | send =>
      have hinterval : z.shard.heartbeat.interval = interval := by rw [hheartbeat]
      rw [hcheck] at hfollows
      simp only [Task.step, hcheck, hinterval] at hr
      cases hr
      exact ⟨⟨front, reader, _, back, sentAt, htasks.went_monitor rfl, .numbers rfl, hshard⟩,
        hz.ordered, hfollows, hz.notes⟩
  | numbers hlast =>
    have hsequence : z.shard.session.sequence = (h.session y.shard.session).sequence :=
      hshard ▸ rfl
    cases hr
    exact ⟨⟨front, reader, _, back, sentAt, htasks.went_monitor rfl, .sends _ rfl, hshard⟩,
      hz.ordered, ⟨hlast, hsequence, hz.follows⟩, hz.notes⟩
  | sends sequence hlast =>
    cases input with
    | delivered isDelivered =>
      obtain rfl : isDelivered = true := hm
      have hsink' : z.shard.sink = some c := hshard ▸ hsink
      simp only [Task.step, hsink', if_true, Envelope.heartbeat_eq] at hr
      cases hr
      exact ⟨⟨front, reader, _, back, sentAt, htasks.went_monitor rfl, .records _ rfl, hshard⟩,
        hz.ordered, ⟨hlast, hz.follows⟩, congrArg (_ :: ·) hz.notes⟩
    | _ => cases hm
  | records sequence hlast =>
    -- It is recorded with the instant at which it was due, and no time has passed since.
    cases hr
    have hdue : z.now + interval = start + h.ticks * interval := hz.follows.add_eq hlast
    refine ⟨⟨front, reader, _, back, some z.now, htasks.went_monitor rfl, ?_, ?_⟩, hz.ordered,
      hz.follows, hz.notes⟩
    · exact .waits _ (.inr ⟨_, _, hlast, rfl⟩) (Nat.le_add_right _ _) hdue
    · simp only [went, hshard]
      rfl
  | loses hlast => cases hm

end Step

theorem IsWatched.step (hz : IsWatched y generation c start interval z h)
    (hsink : y.shard.sink = some c) (hgeneration : y.shard.generation = generation)
    (hstate : y.shard.state = .connected) {m : Move} (hm : z.isUndisturbed m)
    (hstep : z.step bus m = some z') :
    IsWatched y generation c start interval z' (z.beatEvents m ++ h) := by
  obtain ⟨front, reader, monitor, back, sentAt, htasks, hmonitor, hshard⟩ := hz.watched
  have hgen : z.shard.generation = generation := hshard ▸ hgeneration
  cases m with
  | request request => cases hm
  | advance d =>
    -- Time can only pass while the monitor waits, and no further than its heartbeat.
    rw [eq_of_advance hstep]
    rw [isUndisturbed, hgen, htasks.tasks_eq, List.all_eq_true] at hm
    have hwaits := hm monitor (by simp)
    cases hmonitor with
    | waits due hrests hle hdue =>
      have hwaits : z.now + d ≤ due := by simpa [Task.isLeftOver, Task.waitsUntil] using hwaits
      exact ⟨⟨front, _, _, back, sentAt, ⟨htasks.tasks_eq, htasks.reader_eq, htasks.left⟩,
        .waits due hrests hwaits hdue, hshard⟩, hz.ordered.of_le (Nat.le_add_right _ _),
        hz.follows, hz.notes⟩
    | loses => simp [Task.isLeftOver, Task.waitsUntil] at hwaits
    | _ => cases hwaits
  | step i input =>
    obtain ⟨front', t, back', r, hsplit, hi, hr, hgoes, rfl⟩ := goes_of_step hstep
    have hevents : z.beatEvents (.step i input) = t.beatEvents z.shard z.now input := by
      rw [beatEvents, hi]
      rfl
    rw [isUndisturbed, hi, Option.all_some, hgen] at hm
    rw [hevents]
    rcases htasks.split_cases input hsplit with ⟨rfl, rfl, rfl⟩ | ⟨rfl, rfl, rfl⟩ |
      ⟨hleft, hstays⟩
    · rw [htasks.isLeftOver_reader, if_neg Bool.false_ne_true] at hm
      exact hz.went_reader hgeneration hstate htasks hmonitor hshard hm hr
    · rw [hmonitor.isLeftOver_eq, if_neg Bool.false_ne_true] at hm
      exact hz.went_monitor hgeneration hsink htasks hmonitor hshard hm hr
    · -- What was left over ends or waits, and nothing else changes.
      rw [if_pos hleft, Bool.not_eq_true'] at hm
      obtain ⟨tasks, rfl, hmore⟩ := hgoes.of_isLeftOver (hgen ▸ hleft) hm
      obtain ⟨front₁, back₁, htasks⟩ := hstays tasks (hgen ▸ hmore)
      rw [Task.beatEvents_of_isLeftOver hleft hm]
      exact ⟨⟨front₁, reader, monitor, back₁, sentAt, htasks, hmonitor, hshard⟩, hz.ordered,
        hz.follows, hz.notes⟩

/-- What holds of the runs of a connection that has just become the shard's. -/
theorem Beats.isWatched {delay : Duration}
    (hleft : ∀ t ∈ front ++ back, t.isLeftOver (y.shard.generation + 1))
    (hz : Beats bus (y.established front back c interval delay) z h) :
    IsWatched (y.established front back c interval delay) (y.shard.generation + 1) c
      (y.now + delay) interval z h := by
  induction hz with
  | refl =>
    have hdue : y.now + delay = y.now + delay + BeatHistory.ticks [] * interval := by
      rw [BeatHistory.ticks_nil, Nat.zero_mul, Nat.add_zero]
    have hmonitor : Monitors (y.shard.generation + 1) c (y.now + delay) interval y.now [] none
        (.monitoring (y.shard.generation + 1) c (y.now + delay)) :=
      .waits _ (.inl ⟨rfl, rfl⟩) (Nat.le_add_right _ _) hdue
    exact ⟨⟨front, _, _, back, none, ⟨by simp [established], .inl rfl, hleft⟩, hmonitor, rfl⟩,
      List.pairwise_singleton _ _, trivial, rfl⟩
  | step m _ hm hstep ih => exact ih.step rfl rfl rfl hm hstep

/-! ## What comes next -/

/-- Whether the next heartbeat can come when nothing else does. -/
def BeatsOn (bus : Bus Listener) (z : System Listener) : Prop :=
  ∃ z' h, Beats bus z z' h ∧ h.ticks = 1 ∧ ∀ e ∈ h, e.isRead = false

theorem Beats.head {m : Move} (hm : y.isUndisturbed m) (hstep : y.step bus m = some z)
    (hbeats : Beats bus z z' h) : Beats bus y z' (h ++ y.beatEvents m) := by
  induction hbeats with
  | refl => exact (List.append_nil (y.beatEvents m)) ▸ .step m .refl hm hstep
  | step m' _ hm' hstep' ih =>
    rw [List.append_assoc]
    exact .step m' ih hm' hstep'

section BeatsOn

variable {t : Task} {input : Input} {r : Step Listener} {due at' : Instant}

/-- A step of the monitor, and what it means for the heartbeats. -/
theorem HasTasks.step_monitor (htasks : z.HasTasks generation c front reader monitor back)
    (hr : monitor.step z.shard bus z.opened z.stopped z.now input = some r) :
    z.step bus (.step (front ++ [reader]).length input) =
        some (z.went (front ++ [reader]) input r back) ∧
      z.tasks[(front ++ [reader]).length]? = some monitor ∧
      z.beatEvents (.step (front ++ [reader]).length input) =
        monitor.beatEvents z.shard z.now input := by
  have hsplit : z.tasks = (front ++ [reader]) ++ monitor :: back := by
    simp [htasks.tasks_eq]
  have hi : z.tasks[(front ++ [reader]).length]? = some monitor := by simp [hsplit]
  refine ⟨step_went hsplit hr, hi, ?_⟩
  rw [beatEvents, hi]
  rfl

/-- A step of the monitor, after which the next heartbeat can come. -/
theorem BeatsOn.of_went (htasks : z.HasTasks generation c front reader t back)
    (hleft : t.isLeftOver z.shard.generation = false) (hm : t.isUndisturbed input)
    (hr : t.step z.shard bus z.opened z.stopped z.now input = some r)
    (hticks : (t.beatEvents z.shard z.now input).ticks = 0)
    (hread : ∀ e ∈ t.beatEvents z.shard z.now input, e.isRead = false)
    (h : BeatsOn bus (z.went (front ++ [reader]) input r back)) : BeatsOn bus z := by
  obtain ⟨z', h, hbeats, hone, hnone⟩ := h
  obtain ⟨hstep, hi, hevents⟩ := htasks.step_monitor hr
  have hkind : z.isUndisturbed (.step (front ++ [reader]).length input) := by
    rwa [isUndisturbed, hi, Option.all_some, hleft, if_neg Bool.false_ne_true]
  refine ⟨z', _, hbeats.head hkind hstep, ?_, ?_⟩
  · rw [hevents, BeatHistory.ticks, List.countP_append]
    show h.ticks + (t.beatEvents z.shard z.now input).ticks = 1
    rw [hone, hticks]
  · rw [hevents]
    exact List.forall_mem_append.2 ⟨hnone, hread⟩

/-- The check of a heartbeat that is due waits for nothing. -/
theorem BeatsOn.of_beating
    (htasks : z.HasTasks generation c front reader (.beating generation c) back) :
    BeatsOn bus z := by
  have hr : ∃ r, (Task.beating generation c).step z.shard bus z.opened z.stopped z.now .nothing =
      some r := by
    simp only [Task.step]
    split
    · exact ⟨_, rfl⟩
    · exact ⟨_, rfl⟩
  obtain ⟨r, hr⟩ := hr
  obtain ⟨hstep, hi, hevents⟩ := htasks.step_monitor hr
  have hkind : z.isUndisturbed (.step (front ++ [reader]).length .nothing) := by
    rw [isUndisturbed, hi]
    rfl
  refine ⟨_, _, .step _ .refl hkind hstep, ?_, ?_⟩
  · rw [hevents]
    rfl
  · rw [hevents]
    exact List.forall_mem_singleton.2 rfl

/-- Time passes until a heartbeat is due. -/
theorem BeatsOn.of_monitoring
    (htasks : z.HasTasks generation c front reader (.monitoring generation c due) back)
    (hgeneration : z.shard.generation = generation) (hle : z.now ≤ due) : BeatsOn bus z := by
  let z₁ : System Listener := { z with now := z.now + (due - z.now) }
  have hnow : z₁.now = due := Nat.add_sub_cancel' hle
  have htasks₁ : z₁.HasTasks generation c front reader (.monitoring generation c due) back :=
    ⟨htasks.tasks_eq, htasks.reader_eq, htasks.left⟩
  have hgeneration₁ : z₁.shard.generation = generation := hgeneration
  have hr : (Task.monitoring generation c due).step z₁.shard bus z₁.opened z₁.stopped z₁.now
      .nothing = some ⟨z₁.shard, [.beating generation c], none, []⟩ := by
    rw [hnow]
    simp [Task.step, hgeneration₁, Task.goto]
  have hbeats : BeatsOn bus z₁ := .of_went htasks₁ (by simp [Task.isLeftOver, hgeneration₁]) rfl hr
    rfl (by simp [Task.beatEvents]) (.of_beating (htasks₁.went_monitor rfl))
  obtain ⟨z', h, hbeats, hone, hnone⟩ := hbeats
  have hkind : z.isUndisturbed (.advance (due - z.now)) := by
    have hreader : reader.waitsUntil due := by rcases htasks.reader_eq with rfl | rfl <;> rfl
    have hleft := htasks.left
    rw [List.forall_mem_append] at hleft
    rw [isUndisturbed, htasks.tasks_eq, Nat.add_sub_cancel' hle, hgeneration]
    have hmonitor : (Task.monitoring generation c due).waitsUntil due := by
      simp [Task.waitsUntil]
    simp +contextual [hreader, hmonitor, hleft.1, hleft.2]
  exact ⟨z', _, hbeats.head hkind rfl, (List.append_nil h).symm ▸ hone,
    (List.append_nil h).symm ▸ hnone⟩

theorem BeatsOn.of_recording
    (htasks : z.HasTasks generation c front reader (.recording generation c at' interval) back)
    (hgeneration : z.shard.generation = generation) : BeatsOn bus z := by
  have hr : (Task.recording generation c at' interval).step z.shard bus z.opened z.stopped z.now
      .nothing = some ⟨{ z.shard with heartbeat := z.shard.heartbeat.recordSent at' },
        [.monitoring generation c (z.now + interval)], none, []⟩ := rfl
  exact .of_went htasks rfl rfl hr rfl (by simp [Task.beatEvents])
    (.of_monitoring (htasks.went_monitor rfl) hgeneration (Nat.le_add_right _ _))

theorem BeatsOn.of_sending {sequence : Option Nat}
    (htasks : z.HasTasks generation c front reader (.sending generation c at' interval sequence)
      back)
    (hgeneration : z.shard.generation = generation) (hsink : z.shard.sink = some c) :
    BeatsOn bus z := by
  have hr : (Task.sending generation c at' interval sequence).step z.shard bus z.opened z.stopped
      z.now (.delivered true) = some ⟨z.shard, [.recording generation c at' interval], none,
        [.sent c (.message (.heartbeat sequence))]⟩ := by
    simp [Task.step, hsink]
  refine .of_went htasks rfl rfl hr rfl ?_ (.of_recording (htasks.went_monitor rfl) hgeneration)
  exact List.forall_mem_singleton.2 rfl

theorem BeatsOn.of_numbering
    (htasks : z.HasTasks generation c front reader (.numbering generation c at' interval) back)
    (hgeneration : z.shard.generation = generation) (hsink : z.shard.sink = some c) :
    BeatsOn bus z := by
  have hr : (Task.numbering generation c at' interval).step z.shard bus z.opened z.stopped z.now
      .nothing = some ⟨z.shard, [.sending generation c at' interval z.shard.session.sequence],
        none, []⟩ := rfl
  refine .of_went htasks rfl rfl hr rfl ?_ (.of_sending (htasks.went_monitor rfl) hgeneration hsink)
  exact List.forall_mem_singleton.2 rfl

end BeatsOn

/-- What is to be seen of a heartbeat that was sent. -/
theorem IsWatched.written (hz : IsWatched y generation c start interval z h) (at' : Instant)
    (sequence : Option Nat) (hsent : .sent at' sequence ∈ h) :
    ∃ e, .sent c (.message e) ∈ z.log ∧
      e.members = [("op", .ofNat 1), ("d", sequence.elim .null .ofNat)] := by
  have hnote : .sent c (.message ⟨.heartbeat, none, none, sequence.elim .null .ofNat⟩) ∈
      z.log.filter (!·.isCall) := by
    rw [hz.notes]
    exact List.mem_append_left _ (List.mem_filterMap.2 ⟨_, hsent, rfl⟩)
  exact ⟨_, (List.mem_filter.1 hnote).1, rfl⟩

/-- A watched connection that is not given up goes on to the next heartbeat. -/
theorem IsWatched.beatsOn (hz : IsWatched y generation c start interval z h)
    (hsink : y.shard.sink = some c) (hgeneration : y.shard.generation = generation)
    (hlast : ∀ at', h.last? ≠ some (.tick at' .zombie)) : BeatsOn bus z := by
  obtain ⟨front, reader, monitor, back, sentAt, htasks, hmonitor, hshard⟩ := hz.watched
  have hgen : z.shard.generation = generation := hshard ▸ hgeneration
  cases hmonitor with
  | waits due _ hle _ => exact .of_monitoring htasks hgen hle
  | beats => exact .of_beating htasks
  | numbers => exact .of_numbering htasks hgen (hshard ▸ hsink)
  | sends => exact .of_sending htasks hgen (hshard ▸ hsink)
  | records => exact .of_recording htasks hgen
  | loses hzombie => exact absurd hzombie (hlast z.now)

/-- The moves that drop a connection that the monitor has given up, by its place. -/
def dropping (i : Nat) : List Move :=
  List.replicate 5 (.step i .nothing) ++ [.step i (.delivered true), .step i .nothing]

/-- The system after that. -/
def dropped (y : System Listener) (front back : List Task) (generation : Nat) (c : Connection) :
    System Listener :=
  { y with
    shard := { y.shard.bump with stop := none, sink := none, state := .dead }
    stopped := y.shard.stop.toList ++ y.stopped
    tasks := front ++ .deciding none :: back
    log := .sent c (.close CloseCode.resumable) :: .lost generation :: y.log }

theorem run_dropping (htasks : z.tasks = front ++ .losing generation none :: back)
    (hgeneration : z.shard.generation = generation) (hsink : z.shard.sink = some c)
    (hstate : z.shard.state = .connected) :
    z.run bus (dropping front.length) = some (z.dropped front back generation c) := by
  have hlose : (Task.losing generation none).step z.shard bus z.opened z.stopped z.now .nothing =
      some ⟨z.shard.bump, [.voiding none], none, [.lost generation]⟩ := by
    simp [Task.step, Shard.bumpFrom, hgeneration]
  have hmark (s : Shard) (hs : s.state = .connected) (opened : Nat) (stopped : List Connection)
      (now : Instant) : (Task.tearingDown CloseCode.resumable .mark (.decide none)).step s bus opened
        stopped now .nothing = some ⟨s.setState .disconnecting,
          [.tearingDown CloseCode.resumable .sink (.decide none)], none, []⟩ := by
    simp [Task.step, Task.teardownStep, Shard.markDisconnecting, hs, Task.goto]
  have htake (s : Shard) (hs : s.sink = some c) (opened : Nat) (stopped : List Connection)
      (now : Instant) : (Task.tearingDown CloseCode.resumable .sink (.decide none)).step s bus opened
        stopped now .nothing = some ⟨{ s with sink := none },
          [.tearingDown CloseCode.resumable (.deliver c) (.decide none)], none, []⟩ := by
    simp only [Task.step, Task.teardownStep, Shard.takeSink, hs, Task.goto]
  have hlast (y : System Listener) : y.went front .nothing
      ⟨y.shard.setState .dead, Task.after (.decide none), none, []⟩ back =
      { y with shard := y.shard.setState .dead, tasks := front ++ .deciding none :: back } := by
    simp [went, Task.after]
  -- The loss is news, and there is no code that could void the session.
  refine (run_went htasks hlose).trans ?_
  refine (run_went (tasks_went rfl) rfl).trans ?_
  refine (run_went (tasks_went rfl) rfl).trans ?_
  refine (run_went (tasks_went rfl) (by apply hmark; exact hstate)).trans ?_
  refine (run_went (tasks_went rfl) (by apply htake; exact hsink)).trans ?_
  refine (run_went (tasks_went rfl) rfl).trans ?_
  refine (run_went (tasks_went rfl) rfl).trans ?_
  rw [hlast]
  rfl

/-! ## Whole connections -/

/-- What undisturbed moves make of a connection whose first heartbeat is due at `start`. -/
structure KeepsBeat (bus : Bus Listener) (y : System Listener) (c : Connection) (start : Instant)
    (interval : Duration) (z : System Listener) (h : BeatHistory) : Prop where
  /-- Heartbeats are due, given up and sent by the rules. -/
  follows : h.Follows start interval y.shard.session
  /-- Apart from what listeners hear of, there is nothing to be seen but these heartbeats. -/
  notes : z.log.filter (!·.isCall) = h.filterMap (BeatEvent.note? c) ++ y.log.filter (!·.isCall)
  /-- Each of them is written with the operation 1 and its sequence number, or `null`. -/
  written : ∀ at' sequence, .sent at' sequence ∈ h → ∃ e, .sent c (.message e) ∈ z.log ∧
    e.members = [("op", .ofNat 1), ("d", sequence.elim .null .ofNat)]
  /-- The connection is still the shard's. -/
  keeps : y.shard.Keeps z.shard
  /-- No heartbeat is late. -/
  onTime : z.now ≤ start + h.ticks * interval
  /-- What follows when a heartbeat is due takes no time. -/
  prompt : ∀ {e}, h.last? = some e → e.isSent = false → z.now = e.instant
  /-- The next heartbeat can come, even if nothing else does. -/
  beatsOn : (∀ at', .tick at' .zombie ∉ h) → z.BeatsOn bus
  /-- A peer that acknowledges each heartbeat before the next one is not given up. -/
  spared : (∀ (later earlier : BeatHistory) at' verdict sent sequence,
    h = later ++ .tick at' verdict :: earlier → earlier.last? = some (.sent sent sequence) →
      earlier.isAnswered sent interval) → ∀ at', .tick at' .zombie ∉ h
  /-- A peer is given up an interval after the first heartbeat that it does not acknowledge. -/
  unanswered : ∀ {at'}, .tick at' .zombie ∈ h → ∃ (later earlier : BeatHistory) (sent : Instant)
    (sequence : Option Nat), h = later ++ .tick at' .zombie :: earlier ∧
      earlier.last? = some (.sent sent sequence) ∧ at' = sent + interval ∧
      earlier.isAnswered sent interval = false ∧ ∀ at'', .tick at'' .zombie ∉ earlier
  /-- At the same instant its connection is dropped. -/
  drops : ∀ {at'}, .tick at' .zombie ∈ h → z.now = at' ∧ ∃ front back,
    z.run bus (dropping front.length) = some (z.dropped front back y.shard.generation c)

theorem IsWatched.keepsBeat (hz : IsWatched y generation c start interval z h)
    (hsink : y.shard.sink = some c) (hgeneration : y.shard.generation = generation)
    (hstate : y.shard.state = .connected) : KeepsBeat bus y c start interval z h := by
  obtain ⟨front, reader, monitor, back, sentAt, htasks, hmonitor, hshard⟩ := hz.watched
  have hkeeps : y.shard.Keeps z.shard := by
    rw [hshard]
    exact ⟨hstate, rfl, rfl⟩
  refine ⟨hz.follows, hz.notes, hz.written, hkeeps, ?_, hmonitor.now_eq, ?_,
    hz.follows.not_mem_of_isAnswered, hz.follows.exists_unanswered, ?_⟩
  · -- Wherever the monitor is, the next heartbeat was not due before.
    cases hmonitor with
    | waits due _ hle hdue => exact hdue ▸ hle
    | beats _ hnow => exact Nat.le_of_eq hnow
    | numbers hlast | loses hlast => exact Nat.le.intro (hz.follows.add_eq hlast)
    | sends _ hlast | records _ hlast => exact Nat.le.intro (hz.follows.add_eq hlast)
  · intro hnone
    refine hz.beatsOn hsink hgeneration fun at' hlast => hnone at' ?_
    exact List.mem_of_find?_eq_some hlast
  · intro at' hmem
    have hlast := hz.follows.last?_eq_of_mem hmem
    have hgen : z.shard.generation = y.shard.generation := hkeeps.generation
    rw [hmonitor.eq_losing hlast, ← hgeneration] at htasks
    have hsplit : z.tasks = (front ++ [reader]) ++ .losing y.shard.generation none :: back := by
      simp [htasks.tasks_eq]
    exact ⟨hmonitor.now_eq hlast rfl, _, back, run_dropping hsplit hgen (hkeeps.sink.trans hsink) hkeeps.state⟩

/-- Heartbeat liveness. A connection that becomes the shard's while nothing else is under way
    but what earlier connections left is watched from then on, whatever the shard knew of
    heartbeats before. -/
theorem keepsBeat_of_connecting {by' : Requester} {delay : Duration} (bus : Bus Listener)
    (htasks : y.tasks = front ++ .connecting by' (.number c interval) :: back)
    (hleft : ∀ t ∈ front ++ back, t.isLeftOver (y.shard.generation + 1))
    (hdelay : delay < interval) :
    y.run bus (establishing front.length delay) =
        some (y.established front back c interval delay) ∧
      ∀ z h, Beats bus (y.established front back c interval delay) z h →
        KeepsBeat bus (y.established front back c interval delay) c (y.now + delay) interval z
          h := by
  have hfirst : Heartbeat.isFirstDelay interval delay := by
    simp [Heartbeat.isFirstDelay, hdelay]
  exact ⟨run_establish htasks hfirst, fun z h hbeats =>
    (hbeats.isWatched hleft).keepsBeat rfl rfl rfl⟩

/-- A shard whose first connection is about to become its own. -/
def firstGreeted : System Unit :=
  { firstDialed [] with
    tasks := [.connecting .application (.number 0 (Duration.ofMillis 1))]
    log := .sent 0 (.message (firstShard.opening .identify)) :: (firstDialed []).log }

/-- What comes on that connection: an event with a number. -/
def numberedEvent : Inbound := .text (String.ofList Envelope.numberedText)

theorem isUndisturbed_numberedEvent :
    (Task.reading 1 0).isUndisturbed (.inbound numberedEvent) := by
  simp only [numberedEvent, Task.isUndisturbed, Inbound.isLoss, Inbound.isHello, Frame.read,
    Envelope.read_numbered]
  rfl

/-- The first heartbeat carries the number of an event that came before. A peer that never
    acknowledges anything is given up after the first interval. -/
theorem keepsBeat_numbered : 0 < Duration.ofMillis 1 ∧ ∃ z,
    Beats .empty (firstGreeted.established [] [] 0 (Duration.ofMillis 1) 0) z
      [.tick (Duration.ofMillis 1) .zombie, .sent 0 (some 5), .numbered 0 (some 5),
        .tick 0 .send, .read 0 numberedEvent] ∧
    KeepsBeat .empty (firstGreeted.established [] [] 0 (Duration.ofMillis 1) 0) 0 0
      (Duration.ofMillis 1) z
      [.tick (Duration.ofMillis 1) .zombie, .sent 0 (some 5), .numbered 0 (some 5),
        .tick 0 .send, .read 0 numberedEvent] ∧
    ∃ e, .sent 0 (.message e) ∈ z.log ∧ e.write = "\x7b\"op\":1,\"d\":5\x7d" := by
  have htasks : firstGreeted.tasks =
    [] ++ .connecting .application (.number 0 (Duration.ofMillis 1)) :: [] := rfl
  have hleft : ∀ t ∈ ([] ++ [] : List Task), t.isLeftOver (firstGreeted.shard.generation + 1) :=
    List.forall_mem_nil _
  have hdelay : 0 < Duration.ofMillis 1 := by decide
  have hbeats : ∃ z, Beats .empty (firstGreeted.established [] [] 0 (Duration.ofMillis 1) 0) z
      [.tick (Duration.ofMillis 1) .zombie, .sent 0 (some 5), .numbered 0 (some 5),
        .tick 0 .send, .read 0 numberedEvent] := by
    have h₁ : Beats .empty (firstGreeted.established [] [] 0 (Duration.ofMillis 1) 0)
      (firstGreeted.established [] [] 0 (Duration.ofMillis 1) 0) [] := .refl
    have hread : (Task.reading 1 0).step firstShard (.empty : Bus Unit) 1 [] 0
        (.inbound numberedEvent) = some ⟨{ firstShard with session := ⟨none, some 5, none⟩ },
          [.looking 1 0], none, []⟩ := by
      simp only [numberedEvent, Task.step, Task.readStep, Shard.handle, Envelope.read_numbered]
      rfl
    have h₂ := h₁.step (.step 0 (.inbound numberedEvent)) isUndisturbed_numberedEvent
      (step_eq rfl hread)
    have h₃ := h₂.step (.step 1 .nothing) rfl rfl
    have h₄ := h₃.step (.step 1 .nothing) rfl rfl
    have h₅ := h₄.step (.step 1 .nothing) rfl rfl
    have h₆ := h₅.step (.step 1 (.delivered true)) rfl rfl
    have h₇ := h₆.step (.step 1 .nothing) rfl rfl
    have h₈ := h₇.step (.advance (Duration.ofMillis 1)) (by decide) rfl
    have h₉ := h₈.step (.step 1 .nothing) rfl rfl
    exact ⟨_, h₉.step (.step 1 .nothing) rfl rfl⟩
  obtain ⟨z, hbeats⟩ := hbeats
  have hkeeps := (keepsBeat_of_connecting .empty htasks hleft hdelay).2 z _ hbeats
  obtain ⟨e, hsent, hmembers⟩ := hkeeps.written 0 (some 5) (by simp)
  refine ⟨hdelay, z, hbeats, hkeeps, e, hsent, ?_⟩
  rw [Envelope.write, hmembers]
  decide +kernel

end System

end GatewayClient
