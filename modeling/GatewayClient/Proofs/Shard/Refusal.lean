import GatewayClient.Proofs.Shard.Establish

/-!
# Texts that are refused

A text that is no frame for a client is dropped, and its connection goes on as if it had
not come. Only its sequence number counts, if it is a message that has one. So texts that
are refused and have no number might as well not have been sent.

* `Frame.IsRefused`: the texts that are refused, and why.
* `Shard.read_of_isRefused`, `System.run_of_isRefused`: what such a text does, on its own and
  among other tasks.
* `Operation.Trims`: leaving out texts of this kind; `Shard.GoesAlike`: what that leaves the
  same.
* `Shard.drops_refused`: all of it.
-/

namespace GatewayClient

variable {Listener : Type}

/-- The sequence number of the message that a text writes. -/
def Envelope.numberIn? (text : String) : Option Nat :=
  (Envelope.read text).toOption.bind Envelope.sequence

namespace Frame

/-- A text is no frame for a client. -/
inductive IsRefused (text : String) : Prop
  /-- It writes no message, or one with an unknown operation. -/
  | unread (reason : DecodeError) : Envelope.read text = .error reason → IsRefused text
  /-- It is an event without a name. -/
  | unnamed (e : Envelope) : Envelope.read text = .ok e → e.op = .dispatch → e.name = none →
    IsRefused text
  /-- It is what clients send. -/
  | sendOnly (e : Envelope) : Envelope.read text = .ok e →
    e.op ∈ [.identify, .presenceUpdate, .resume, .requestGuildMembers] → IsRefused text
  /-- It is a greeting without a usable payload. -/
  | unusable (e : Envelope) : Envelope.read text = .ok e → e.op = .hello →
    Hello.ofValue? e.payload = none → IsRefused text

variable {text : String}

/-- These are the texts that cannot be read as a frame. -/
theorem isRefused_iff : IsRefused text ↔ ∃ fault, Frame.read text = .error fault := by
  constructor
  · intro h
    cases h with
    | unread reason hread => exact ⟨.decode reason, by rw [Frame.read, hread]⟩
    | unnamed e hread hop hname =>
      exact ⟨.unnamedEvent, by simp [Frame.read, hread, ofEnvelope, hop, hname]⟩
    | sendOnly e hread hop =>
      refine ⟨.sendOnly e.op, ?_⟩
      simp only [List.mem_cons, List.not_mem_nil, or_false] at hop
      rcases hop with hop | hop | hop | hop <;> simp [Frame.read, hread, ofEnvelope, hop]
    | unusable e hread hop hpayload =>
      exact ⟨.decode .malformed, by simp [Frame.read, hread, ofEnvelope, hop, hpayload]⟩
  · rintro ⟨fault, hfault⟩
    cases hread : Envelope.read text with
    | error reason => exact .unread reason hread
    | ok e =>
      rw [Frame.read, hread] at hfault
      cases hop : e.op with
      | dispatch =>
        cases hname : e.name with
        | none => exact .unnamed e hread hop hname
        | some name => simp [ofEnvelope, hop, hname] at hfault
      | hello =>
        cases hpayload : Hello.ofValue? e.payload with
        | none => exact .unusable e hread hop hpayload
        | some hello => simp [ofEnvelope, hop, hpayload] at hfault
      | identify | presenceUpdate | resume | requestGuildMembers =>
        exact .sendOnly e hread (by simp [hop])
      | _ => simp [ofEnvelope, hop] at hfault

end Frame

namespace Shard

variable {s : Shard} {text : String}

/-! ## One text -/

/-- The shard after a number: it knows the greater one of this and its last one. -/
def counting (s : Shard) (number : Option Nat) : Shard :=
  { s with session := { s.session with sequence := s.session.sequence.merge max number } }

theorem counting_none (s : Shard) : s.counting none = s := by
  rw [counting, Option.merge_none_right]

theorem recordSequence_eq (s : Shard) (number : Option Nat) :
    s.recordSequence number = s.counting number := by
  cases number with
  | none => exact s.counting_none.symm
  | some n =>
    simp only [recordSequence, counting, Session.recordSequence]
    cases s.session.sequence <;> rfl

/-- Whether a text is refused does not depend on the shard, and a refused text does nothing
    but count. -/
theorem handle_of_read_eq_error {fault : FrameError} (h : Frame.read text = .error fault)
    (s : Shard) (bus : Bus Listener) (now : Instant) :
    s.handle bus text now = ⟨.error fault, s.counting (Envelope.numberIn? text), []⟩ := by
  simp only [Frame.read] at h
  cases hread : Envelope.read text with
  | error reason =>
    rw [hread] at h
    cases h
    simp [handle, hread, Envelope.numberIn?, Except.toOption, counting_none]
  | ok e =>
    rw [hread] at h
    simp [handle, hread, show Frame.ofEnvelope e = .error fault from h, recordSequence_eq,
      Envelope.numberIn?, Except.toOption]

theorem exists_flow_handle_iff (s : Shard) (bus : Bus Listener) (text : String) (now : Instant) :
    (∃ fault, (s.handle bus text now).flow = .error fault) ↔ Frame.IsRefused text := by
  rw [Frame.isRefused_iff]
  constructor
  · rintro ⟨fault, hflow⟩
    cases hread : Frame.read text with
    | error fault => exact ⟨fault, rfl⟩
    | ok frame =>
      simp only [Frame.read] at hread
      cases henvelope : Envelope.read text with
      | error reason => simp [henvelope] at hread
      | ok e =>
        rw [henvelope] at hread
        simp [handle, henvelope, show Frame.ofEnvelope e = .ok frame from hread] at hflow
  · rintro ⟨fault, hread⟩
    exact ⟨fault, by rw [handle_of_read_eq_error hread]⟩

/-- A connected shard stays so after a text that is refused, nothing is sent, and nobody hears
    of it. -/
theorem read_of_isRefused (h : Frame.IsRefused text) (hconnected : s.isConnected)
    (bus : Bus Listener) (now : Instant) : s.read bus s.generation (.text text) now =
      ⟨s.counting (Envelope.numberIn? text), [], [], true, false⟩ := by
  obtain ⟨fault, hread⟩ := Frame.isRefused_iff.1 h
  have hgoesOn : (s.counting (Envelope.numberIn? text)).isConnected := hconnected
  simp only [read, handle_of_read_eq_error hread, hgoesOn]
  simp [counting]

/-- Without a number it does nothing at all. -/
theorem perform_of_isRefused (h : Frame.IsRefused text) (hnumber : Envelope.numberIn? text = none)
    (s : Shard) (bus : Bus Listener) (now : Instant) :
    s.perform bus (.inbound (.text text) now) = s.idle (.ok ()) := by
  simp only [perform]
  split
  · rename_i hconnected
    rw [read_of_isRefused h hconnected, hnumber, counting_none]
    rfl
  · rfl

end Shard

/-! ## Among other tasks -/

namespace System

variable {y : System Listener} {front back : List Task} {c : Connection} {text : String}

/-- A reader whose connection is the shard's drops a text that is refused and waits for what
    comes next. The shard has counted, and nothing else has changed. -/
theorem run_of_isRefused (h : Frame.IsRefused text) (bus : Bus Listener)
    (htasks : y.tasks = front ++ .reading y.shard.generation c :: back)
    (hconnected : y.shard.isConnected) (moves : List Move) :
    y.run bus (.step front.length (.inbound (.text text)) :: .step front.length .nothing :: moves) =
      run bus { y with shard := y.shard.counting (Envelope.numberIn? text) } moves := by
  obtain ⟨fault, hread⟩ := Frame.isRefused_iff.1 h
  let s := y.shard.counting (Envelope.numberIn? text)
  let r : Step Listener := ⟨s, [.looking y.shard.generation c], none, []⟩
  have hgoesOn : s.generation = y.shard.generation ∧ s.isConnected := ⟨rfl, hconnected⟩
  have hdrop : (Task.reading y.shard.generation c).step y.shard bus y.opened y.stopped y.now
      (.inbound (.text text)) = some r := by
    simp only [Task.step, Task.readStep, Shard.handle_of_read_eq_error hread]
    rfl
  have hlook (opened : Nat) (stopped : List Connection) (now : Instant) :
      (Task.looking y.shard.generation c).step s bus opened stopped now .nothing =
        some ⟨s, [.reading y.shard.generation c], none, []⟩ := by
    rw [Task.step, if_pos hgoesOn]
    rfl
  refine (run_went htasks hdrop).trans ?_
  refine (run_went (y := y.went front _ r back) (tasks_went rfl) (hlook _ _ _)).trans ?_
  simp [went, htasks, s, r]

end System

/-! ## Sequences of texts -/

/-- What is left of a sequence of operations without some of the texts that are refused and
    have no number. -/
inductive Operation.Trims : List Operation → List Operation → Prop
  | nil : Trims [] []
  | keep {ops ops' : List Operation} (op : Operation) : Trims ops ops' →
    Trims (op :: ops) (op :: ops')
  | drop {ops ops' : List Operation} (text : String) (now : Instant) : Frame.IsRefused text →
    Envelope.numberIn? text = none → Trims ops ops' → Trims (.inbound (.text text) now :: ops) ops'

namespace Shard

/-- With some operations and with fewer of them a shard goes the same way. -/
structure GoesAlike (s : Shard) (bus : Bus Listener) (ops ops' : List Operation) : Prop where
  /-- Each operation that is left does what it did, and leaves the shard as it did. -/
  same : (ops'.zip (s.run bus ops').1).Sublist (ops.zip (s.run bus ops).1)
  /-- Listeners are called in the same way. -/
  calls : (s.run bus ops').1.flatMap Performed.calls = (s.run bus ops).1.flatMap Performed.calls
  /-- The same is sent. -/
  sent : (s.run bus ops').1.flatMap Performed.sent = (s.run bus ops).1.flatMap Performed.sent
  /-- The same operations end a connection that is to be replaced. -/
  reconnects : (s.run bus ops').1.filter Performed.reconnects =
    (s.run bus ops).1.filter Performed.reconnects
  /-- The shard comes out the same, with its session and its heartbeats. -/
  shard : (s.run bus ops').2 = (s.run bus ops).2

/-- What is left out would not have been noticed. -/
theorem goesAlike_of_trims {ops ops' : List Operation} (h : Operation.Trims ops ops') (s : Shard)
    (bus : Bus Listener) : s.GoesAlike bus ops ops' := by
  induction h generalizing s with
  | nil => exact ⟨List.Sublist.refl _, rfl, rfl, rfl, rfl⟩
  | keep op _ ih =>
    obtain ⟨same, calls, sent, reconnects, shard⟩ := ih (s.perform bus op).shard
    refine ⟨same.cons_cons _, ?_, ?_, ?_, shard⟩
    · exact congrArg (_ ++ ·) calls
    · exact congrArg (_ ++ ·) sent
    · simp only [run, List.filter_cons, reconnects]
  | drop text now hrefused hnumber _ ih =>
    obtain ⟨same, calls, sent, reconnects, shard⟩ := ih s
    refine ⟨?_, ?_, ?_, ?_, ?_⟩ <;> simp only [run, perform_of_isRefused hrefused hnumber]
    · exact same.cons _
    · exact calls
    · exact sent
    · exact reconnects
    · exact shard

/-! ## Refused texts are dropped -/

/-- A text that fails to be handled is refused for one of four reasons, whatever the state of
    the shard. If it comes on the connection of a shard, the connection goes on, nothing is
    sent, nobody hears of it, and of all that the shard knows only the sequence number may
    grow; so it is too when other tasks are under way. Where such texts carry no number, a
    sequence of operations goes the same way without them. -/
theorem drops_refused (bus : Bus Listener) :
    (∀ (s : Shard) (text : String) (now : Instant),
      (∃ fault, (s.handle bus text now).flow = .error fault) ↔ Frame.IsRefused text) ∧
    (∀ (s : Shard) (text : String) (now : Instant), Frame.IsRefused text → s.isConnected →
      s.read bus s.generation (.text text) now =
        ⟨s.counting (Envelope.numberIn? text), [], [], true, false⟩) ∧
    (∀ (y : System Listener) (front back : List Task) (c : Connection) (text : String)
      (moves : List Move), Frame.IsRefused text →
      y.tasks = front ++ .reading y.shard.generation c :: back → y.shard.isConnected →
      y.run bus (.step front.length (.inbound (.text text)) :: .step front.length .nothing ::
          moves) =
        System.run bus { y with shard := y.shard.counting (Envelope.numberIn? text) } moves) ∧
    ∀ (s : Shard) (ops ops' : List Operation), Operation.Trims ops ops' →
      s.GoesAlike bus ops ops' := by
  refine ⟨fun s text now => s.exists_flow_handle_iff bus text now,
    fun s text now h hconnected => read_of_isRefused h hconnected bus now,
    fun y front back c text moves h htasks hconnected => ?_,
    fun s ops ops' h => goesAlike_of_trims h s bus⟩
  exact System.run_of_isRefused h bus htasks hconnected moves

/-- A text that is cut off. -/
def cutOff : String := String.ofList ['{']

/-- An event with the number 5 and without a name. -/
def nameless : String := String.ofList ['[', '0', ',', 'n', 'u', 'l', 'l', ',', '5', ']']

theorem read_cutOff : Envelope.read cutOff = .error .malformed := by
  have hread : Json.Outline.read cutOff = ⟨.byName [], false⟩ := by
    rw [Json.Outline.read, cutOff, String.toList_ofList]
    rfl
  rw [Envelope.read, hread]
  rfl

theorem read_nameless : Envelope.read nameless = .ok ⟨.dispatch, none, some 5, .null⟩ := by
  have hread : Json.Outline.read nameless = ⟨.byPosition [.number (some (.int 0)), .null,
      .number (some (.int 5))], true⟩ := by
    rw [Json.Outline.read, nameless, String.toList_ofList]
    rfl
  rw [Envelope.read, hread]
  rfl

/-- On the first connection of a shard the text that is cut off might as well not come; the
    event without a name only counts. -/
theorem drops_refused_nameless :
    let s := (new 0 {}).establish 0 (Duration.ofMillis 1)
    (∃ fault, (s.handle (.empty : Bus Unit) cutOff 0).flow = .error fault) ∧
      s.read (.empty : Bus Unit) 1 (.text nameless) 0 = ⟨s.counting (some 5), [], [], true, false⟩ ∧
      s.GoesAlike (.empty : Bus Unit)
        [.inbound (.text cutOff) 0, .inbound (.text nameless) 0, .beat true 0, .inbound .lost 0]
        [.inbound (.text nameless) 0, .beat true 0, .inbound .lost 0] := by
  intro s
  obtain ⟨hfails, hread, -, hgoes⟩ := drops_refused (.empty : Bus Unit)
  have hcutOff : Frame.IsRefused cutOff := .unread .malformed read_cutOff
  have hnameless : Frame.IsRefused nameless := .unnamed _ read_nameless rfl rfl
  have hnone : Envelope.numberIn? cutOff = none := by
    rw [Envelope.numberIn?, read_cutOff]
    rfl
  have hsome : Envelope.numberIn? nameless = some 5 := by
    rw [Envelope.numberIn?, read_nameless]
    rfl
  refine ⟨(hfails s cutOff 0).2 hcutOff, hsome ▸ hread s nameless 0 hnameless rfl, hgoes s _ _ ?_⟩
  exact .drop cutOff 0 hcutOff hnone (.keep _ (.keep _ (.keep _ .nil)))

end Shard

end GatewayClient
