import GatewayClient.Proofs.Shard.Establish
import GatewayClient.Proofs.Shard.Lifecycle
import GatewayClient.Shard.Fleet

/-!
# Delivery of events

The listeners of a kind of events hear of each event of that kind, once and in the order
in which the events come, up to the message with which the connection ends. When they hear
of it the shard knows what the message says about its session.

* `Inbound.event?`: the event that a message brings, if it brings one.
* `Inbound.readings`: the messages that are read on a connection, with the session after
  each.
* `Shard.calls_run`: the calls that come of a connection.
* `Manager.log_eq_readings`: those of one shard among all calls of a manager's listeners.
-/

namespace GatewayClient

variable {Listener : Type}

/-! ## What comes on a connection -/

/-- The event that a message brings to the listeners, if it dispatches one by a known name. -/
def Envelope.event? (e : Envelope) : Option Event :=
  match e.op, e.name with
  | .dispatch, some name => (EventKind.ofName? name).map (⟨·, e.sequence, e.payload⟩)
  | _, _ => none

namespace Inbound

/-- The event that something on a connection brings. -/
def event? : Inbound → Option Event
  | .text s =>
    match Envelope.read s with
    | .ok e => e.event?
    | .error _ => none
  | _ => none

/-- What is read on a connection: all that comes up to and including the first that ends
    it. -/
def untilLoss : List Inbound → List Inbound
  | [] => []
  | i :: rest => i :: if i.isLoss then [] else untilLoss rest

/-- What is read on a connection of a shard that knows `session`, with the session after
    each. -/
def readings (session : Session) : List Inbound → List (Inbound × Session)
  | [] => []
  | i :: rest =>
    (i, SessionHistory.replay i.sessionEvents session) ::
      if i.isLoss then [] else readings (SessionHistory.replay i.sessionEvents session) rest

theorem map_fst_readings (session : Session) (is : List Inbound) :
    (readings session is).map Prod.fst = untilLoss is := by
  induction is generalizing session with
  | nil => rfl
  | cons i rest ih =>
    simp only [readings, untilLoss, List.map_cons]
    split
    · rfl
    · rw [ih]

/-- Who is to hear of something on a connection: each listener that is registered for the
    kind of its event, in the order of their registration. -/
def deliveries (registrations : List (EventKind × Listener)) (i : Inbound) :
    List (Listener × Event) :=
  match i.event? with
  | some event => (registrations.filter fun r => r.1 = event.kind).map fun r => (r.2, event)
  | none => []

/-- The calls for something on a connection of a shard, which then knows `session`. -/
def callsFor (registrations : List (EventKind × Listener)) (index : Nat) (i : Inbound)
    (session : Session) : List (Call Listener) :=
  (i.deliveries registrations).map fun d => ⟨d.1, index, d.2, session⟩

/-- The message that a session goes on, with the number 7. -/
def resumed : Inbound :=
  .text (String.ofList ['[', '0', ',', '"', 'R', 'E', 'S', 'U', 'M', 'E', 'D', '"', ',', '7', ']'])

theorem read_resumed : Envelope.read (String.ofList ['[', '0', ',', '"', 'R', 'E', 'S', 'U', 'M',
    'E', 'D', '"', ',', '7', ']']) = .ok ⟨.dispatch, some "RESUMED", some 7, .null⟩ := by
  have hread : Json.Outline.read (String.ofList ['[', '0', ',', '"', 'R', 'E', 'S', 'U', 'M', 'E',
      'D', '"', ',', '7', ']']) = ⟨.byPosition [.number (some (.int 0)), .string (some "RESUMED"),
        .number (some (.int 7))], true⟩ := by
    rw [Json.Outline.read, String.toList_ofList]
    rfl
  rw [Envelope.read, hread]
  rfl

theorem event?_resumed : resumed.event? = some ⟨.resumed, some 7, .null⟩ := by
  rw [resumed, event?, read_resumed]
  rfl

theorem isLoss_resumed : resumed.isLoss = false := by
  rw [resumed, isLoss, Frame.read, read_resumed]
  rfl

end Inbound

/-- What comes on the connection with an operation. -/
def Operation.inbound? : Operation → Option Inbound
  | .inbound i _ => some i
  | _ => none

namespace Shard

variable {s : Shard} {bus : Bus Listener}

/-- The listeners hear of the event of a frame, and know of the shard what it is then. -/
theorem calls_act {e : Envelope} {frame : Frame} (h : Frame.ofEnvelope e = .ok frame) (s : Shard)
    (bus : Bus Listener) (now : Instant) : (s.act bus e.sequence frame now).2.2 =
      e.event?.elim [] ((s.act bus e.sequence frame now).2.1.callsOf bus) := by
  obtain ⟨op, name, sequence, payload⟩ := e
  cases op with
  | dispatch =>
    cases name with
    | none => cases h
    | some name =>
      cases h
      simp only [act, dispatch, Envelope.event?]
      cases EventKind.ofName? name <;> rfl
  | hello =>
    simp only [Frame.ofEnvelope] at h
    split at h
    · cases h
      simp only [act]
      split <;> rfl
    · cases h
  | _ => cases h <;> rfl

/-- A message without a usable frame brings no event. -/
theorem event?_of_error {e : Envelope} {fault : FrameError}
    (h : Frame.ofEnvelope e = .error fault) : e.event? = none := by
  obtain ⟨op, name, sequence, payload⟩ := e
  cases op with
  | dispatch =>
    cases name with
    | none => rfl
    | some name => cases h
  | _ => rfl

/-- The listeners hear of the event of a text when the shard has changed. -/
theorem calls_handle (s : Shard) (bus : Bus Listener) (text : String) (now : Instant) :
    (s.handle bus text now).calls = Inbound.callsFor bus.registered s.index (.text text)
      (SessionHistory.replay (Inbound.text text).sessionEvents s.session) := by
  have hsession := s.session_handle bus text now
  have hindex := (Prod.mk.inj (s.identity_handle bus text now)).1
  rw [← hsession, ← hindex]
  simp only [handle, Inbound.callsFor, Inbound.deliveries, Inbound.event?]
  cases Envelope.read text with
  | error reason => rfl
  | ok e =>
    simp only
    split
    · rename_i fault hfault
      rw [event?_of_error hfault]
      rfl
    · rename_i frame hframe
      simp only [calls_act hframe]
      cases e.event? with
      | none => rfl
      | some event => simp [callsOf, Bus.listeners]

/-! ## One connection -/

theorem calls_read (s : Shard) (bus : Bus Listener) (generation : Nat) (i : Inbound)
    (now : Instant) : (s.read bus generation i now).calls = Inbound.callsFor bus.registered s.index
      i (SessionHistory.replay i.sessionEvents s.session) := by
  cases i with
  | text text =>
    have hcalls := s.calls_handle bus text now
    simp only [read]
    split <;> exact hcalls
  | other => rfl
  | closed code => rfl
  | lost => rfl

/-- Only messages lead to calls. -/
theorem calls_perform (s : Shard) (bus : Bus Listener) (op : Operation) :
    (s.perform bus op).calls = match op with
      | .inbound i _ => if s.isConnected then
          Inbound.callsFor bus.registered s.index i
            (SessionHistory.replay i.sessionEvents s.session) else []
      | _ => [] := by
  cases op with
  | inbound i now =>
    simp only [perform]
    split
    · exact s.calls_read bus _ i now
    · rfl
  | beat isDelivered now =>
    simp only [perform]
    split <;> rfl
  | updatePresence p isDelivered =>
    simp only [perform]
    split <;> rfl
  | _ => rfl

/-- A connected shard is so until something comes that ends its connection. -/
theorem state_read (s : Shard) (bus : Bus Listener) (i : Inbound) (now : Instant) :
    (s.read bus s.generation i now).shard.state = if i.isLoss then .dead else s.state := by
  have hlost : ∀ {s : Shard} {generation : Nat} (code : Option Nat), s.generation = generation →
      (s.lose generation code).2.1.state = .dead := by
    intro s generation code h
    rw [lose_of_eq h]
    rfl
  cases i with
  | text text =>
    obtain ⟨session, heartbeat, hs⟩ := s.exists_handle bus text now
    have hflow := s.flow_handle bus text now
    simp only [read]
    split
    · rename_i hreconnect
      rw [if_pos (hflow.1 hreconnect), hs]
      exact hlost none rfl
    · rename_i hgoesOn
      rw [if_neg (fun h => by simp [hflow.2 h] at hgoesOn), hs]
    · rename_i hfault
      rw [if_neg (fun h => by simp [hflow.2 h] at hfault), hs]
  | other => rfl
  | closed code => exact hlost code rfl
  | lost => exact hlost none rfl

/-- In a sequence of operations only what comes on the connection may end it. Whatever else
    happens leaves the shard its connection, or its lack of one. -/
def IsUndisturbed (bus : Bus Listener) : Shard → List Operation → Prop
  | _, [] => True
  | s, op :: rest =>
    (op.inbound? = none → (s.perform bus op).shard.state = s.state ∧
      (s.perform bus op).shard.generation = s.generation) ∧
    IsUndisturbed bus (s.perform bus op).shard rest

/-- No calls come of a connection that has ended. -/
theorem calls_run_of_dead (hstate : s.state ≠ .connected) {ops : List Operation}
    (h : IsUndisturbed bus s ops) : (s.run bus ops).1.flatMap Performed.calls = [] := by
  have hfalse : s.isConnected = false := by simpa [isConnected] using hstate
  induction ops generalizing s with
  | nil => rfl
  | cons op rest ih =>
    have hcalls := s.calls_perform bus op
    have hstate' : (s.perform bus op).shard.state ≠ .connected := by
      cases op with
      | inbound i now => simpa [perform, hfalse, idle] using hstate
      | _ => exact (h.1 rfl).1 ▸ hstate
    rw [run, List.flatMap_cons, hcalls, ih hstate' h.2 (by simpa [isConnected] using hstate')]
    cases op <;> simp [hfalse]

/-- The run lemma: the calls of a connection are those for what is read on it. -/
theorem calls_run (hstate : s.state = .connected) {ops : List Operation}
    (h : IsUndisturbed bus s ops) : (s.run bus ops).1.flatMap Performed.calls =
      (Inbound.readings s.session (ops.filterMap Operation.inbound?)).flatMap fun r =>
        Inbound.callsFor bus.registered s.index r.1 r.2 := by
  induction ops generalizing s with
  | nil => rfl
  | cons op rest ih =>
    have htrue : s.isConnected = true := by simpa [isConnected] using hstate
    have hcalls := s.calls_perform bus op
    have hsession := s.session_perform bus op
    have hindex := (Prod.mk.inj (s.identity_perform bus op)).1
    rw [run, List.flatMap_cons, hcalls]
    cases hop : op.inbound? with
    | some i =>
      obtain ⟨now, rfl⟩ : ∃ now, op = .inbound i now := by
        cases op with
        | inbound i' now => exact ⟨now, by rw [Option.some.inj hop]⟩
        | _ => cases hop
      have hstate' : (s.perform bus (.inbound i now)).shard.state =
          if i.isLoss then .dead else s.state := by
        simp only [perform, htrue, if_true]
        exact s.state_read bus i now
      simp only [Operation.sessionEvents, htrue, if_true] at hsession ⊢
      rw [List.filterMap_cons_some hop, Inbound.readings, List.flatMap_cons]
      cases hloss : i.isLoss with
      | true =>
        rw [hloss, if_pos rfl] at hstate'
        rw [calls_run_of_dead (by simp [hstate']) h.2, if_pos rfl, List.flatMap_nil]
      | false =>
        rw [hloss, if_neg Bool.false_ne_true, hstate] at hstate'
        rw [ih hstate' h.2, hsession, hindex, if_neg Bool.false_ne_true]
    | none =>
      -- What does not come on the connection leads to no calls, and a shutdown is excluded.
      obtain ⟨hstate', hgeneration⟩ := h.1 hop
      have hquiet : op.sessionEvents s.isConnected = [] := by
        cases op with
        | inbound i now => cases hop
        | shutdown => exact absurd hgeneration (Nat.succ_ne_self _)
        | _ => rfl
      rw [hquiet] at hsession
      rw [List.filterMap_cons_none hop, ih (hstate'.trans hstate) h.2, hsession, hindex]
      cases op with
      | inbound i now => cases hop
      | _ => rfl

/-- A shard calls listeners in its own name. -/
theorem shard_of_mem_calls {op : Operation} {call : Call Listener}
    (h : call ∈ (s.perform bus op).calls) : call.shard = s.index := by
  rw [calls_perform] at h
  split at h
  · split at h
    · obtain ⟨d, -, rfl⟩ := List.mem_map.1 h
      rfl
    · cases h
  · cases h

end Shard

/-! ## What listeners can rely on -/

/-- A session is up to date with an event: no number that came with it is greater, and a
    usable first event of a session has started it. -/
structure Session.Reflects (session : Session) (event : Event) : Prop where
  sequence : ∀ n, event.sequence = some n → ∃ k, session.sequence = some k ∧ n ≤ k
  ready : event.kind = .ready → ∀ r, Ready.ofValue? event.data = some r →
    session = .start r.sessionId event.sequence r.resumeUrl

theorem Session.exists_sequence_recordSequence (session : Session) (n : Nat) :
    ∃ k, (session.recordSequence n).sequence = some k ∧ n ≤ k := by
  rw [recordSequence]
  cases session.sequence with
  | none => exact ⟨n, rfl, Nat.le_refl n⟩
  | some k => exact ⟨max k n, rfl, Nat.le_max_right k n⟩

theorem Envelope.reflects_replay {e : Envelope} {event : Event} (h : e.event? = some event)
    (session : Session) : (SessionHistory.replay e.sessionEvents session).Reflects event := by
  obtain ⟨op, name, sequence, data⟩ := e
  simp only [event?] at h
  split at h
  · rename_i name
    obtain ⟨kind, hkind, rfl⟩ := Option.map_eq_some_iff.1 h
    cases hopening : sessionEvent? ⟨.dispatch, some name, sequence, data⟩ with
    | none =>
      simp only [sessionEvents, hopening]
      refine ⟨fun n hn => ?_, fun hready r hr => ?_⟩
      · obtain rfl : sequence = some n := hn
        exact session.exists_sequence_recordSequence n
      · obtain rfl := EventKind.ofName?_eq_ready_iff.1 (hkind.trans (congrArg some hready))
        simp [sessionEvent?, show Ready.ofValue? data = some r from hr] at hopening
    | some opening =>
      -- The message starts a session, and its number is the only one of that.
      simp only [sessionEvents, hopening]
      simp only [sessionEvent?] at hopening
      split at hopening
      · obtain ⟨r, hr, rfl⟩ := Option.map_eq_some_iff.1 hopening
        refine ⟨fun n hn => ⟨n, hn, Nat.le_refl n⟩, fun _ r' hr' => ?_⟩
        obtain rfl := Option.some.inj (hr.symm.trans hr')
        rfl
      · cases hopening
  · cases h

theorem Inbound.reflects_replay {i : Inbound} {event : Event} (h : i.event? = some event)
    (session : Session) : (SessionHistory.replay i.sessionEvents session).Reflects event := by
  cases i with
  | text text =>
    simp only [event?, sessionEvents] at h ⊢
    cases hread : Envelope.read text with
    | ok e =>
      rw [hread] at h
      exact Envelope.reflects_replay h session
    | error reason =>
      rw [hread] at h
      cases h
  | _ => cases h

/-- The session after something that is read is what that makes of the session before. -/
theorem Inbound.exists_replay_of_mem_readings {session : Session} {is : List Inbound}
    {r : Inbound × Session} (h : r ∈ readings session is) :
    ∃ before, r.2 = SessionHistory.replay r.1.sessionEvents before := by
  induction is generalizing session with
  | nil => cases h
  | cons i rest ih =>
    rcases List.mem_cons.1 h with rfl | h
    · exact ⟨session, rfl⟩
    · split at h
      · cases h
      · exact ih h

/-- Whoever hears of something that was read, hears of it when the session reflects it. -/
theorem Inbound.reflects_of_mem_callsFor {registrations : List (EventKind × Listener)}
    {index : Nat} {session : Session} {is : List Inbound} {call : Call Listener}
    (h : call ∈ (readings session is).flatMap fun r => callsFor registrations index r.1 r.2) :
    call.session.Reflects call.event := by
  obtain ⟨r, hr, hcall⟩ := List.mem_flatMap.1 h
  obtain ⟨before, hbefore⟩ := exists_replay_of_mem_readings hr
  obtain ⟨d, hd, rfl⟩ := List.mem_map.1 hcall
  simp only [deliveries] at hd
  split at hd
  · rename_i event hevent
    obtain ⟨registration, -, rfl⟩ := List.mem_map.1 hd
    exact hbefore ▸ reflects_replay hevent before
  · cases hd

namespace Manager

variable {m : Manager Listener}

/-- What happens to the shard with an index. -/
def operationsOf (index : Nat) (ops : List (Nat × Operation)) : List Operation :=
  (ops.filter fun op => op.1 = index).map Prod.snd

/-- Each shard stands at the place of its index. -/
def IsIndexed (m : Manager Listener) : Prop := ∀ index s, m.shard? index = some s → s.index = index

theorem isIndexed_new (config : ShardConfig) : (new config : Manager Listener).IsIndexed := by
  intro index s hs
  simp only [shard?, new, List.getElem?_map, Option.map_eq_some_iff] at hs
  obtain ⟨i, hi, rfl⟩ := hs
  obtain ⟨-, rfl⟩ := List.getElem?_eq_some_iff.1 hi
  simp [Shard.new]

theorem shard?_set (m : Manager Listener) {index : Nat} {s : Shard}
    (hs : m.shard? index = some s) (s' : Shard) (index' : Nat) :
    shard? { m with shards := m.shards.set index s' } index' =
      if index' = index then some s' else m.shard? index' := by
  obtain ⟨hlt, -⟩ := List.getElem?_eq_some_iff.1 hs
  simp only [shard?, List.getElem?_set, if_pos hlt, eq_comm]

/-- A run that goes on where another has ended. -/
theorem snd_run_append (m : Manager Listener) (moves moves' : List (ManagerMove Listener)) :
    (m.run (moves ++ moves')).2 = ((m.run moves).2.run moves').2 := by
  induction moves generalizing m with
  | nil => rfl
  | cons move rest ih => exact ih (m.step move).2

theorem shard?_connect {index : Nat} {s : Shard} (hs : m.shard? index = some s) (a : Attempt) :
    (m.run [.perform index (.connect a)]).2.shard? index = some (s.connect a).shard := by
  have hrun : (m.run [.perform index (.connect a)]).2 =
      { m with shards := m.shards.set index (s.connect a).shard } := by
    simp only [run, step, hs]
    rfl
  rw [hrun, shard?_set m hs, if_pos rfl]

theorem IsIndexed.step (h : m.IsIndexed) (move : ManagerMove Listener) :
    (m.step move).2.IsIndexed := by
  cases move with
  | register kind listener => exact h
  | perform index op =>
    simp only [Manager.step]
    split
    · exact h
    · rename_i s hs
      intro index' s' hs'
      rw [shard?_set m hs] at hs'
      split at hs'
      · rename_i heq
        obtain rfl := Option.some.inj hs'
        rw [heq, (Prod.mk.inj (s.identity_perform m.bus op)).1, h index s hs]
      · exact h index' s' hs'

theorem IsIndexed.run (h : m.IsIndexed) (moves : List (ManagerMove Listener)) :
    (m.run moves).2.IsIndexed := by
  induction moves generalizing m with
  | nil => exact h
  | cons move rest ih => exact ih (h.step move)

/-- The bus has what was registered, in this order. -/
theorem registered_run (m : Manager Listener) (moves : List (ManagerMove Listener)) :
    (m.run moves).2.bus.registered =
      m.bus.registered ++ moves.filterMap ManagerMove.registration? := by
  induction moves generalizing m with
  | nil => simp [run]
  | cons move rest ih =>
    rw [run, ih]
    cases move with
    | register kind listener =>
      simp [step, register, Bus.register, ManagerMove.registration?]
    | perform index op =>
      simp only [step]
      split <;> rfl

/-- The shards do not get into each other's way: among all calls those of one shard are the
    calls of its own operations. -/
theorem log_run (h : m.IsIndexed) {index : Nat} {s : Shard} (hs : m.shard? index = some s)
    (ops : List (Nat × Operation)) :
    (m.run (ops.map fun op => .perform op.1 op.2)).1.filter (fun call => call.shard = index) =
      (s.run m.bus (operationsOf index ops)).1.flatMap Performed.calls := by
  induction ops generalizing m s with
  | nil => rfl
  | cons op rest ih =>
    obtain ⟨index', op⟩ := op
    have hstep := h.step (.perform index' op)
    rw [List.map_cons, run, List.filter_append]
    cases hs' : m.shard? index' with
    | none =>
      have hne : index' ≠ index := fun heq => by simp [heq, hs] at hs'
      simp only [step, hs'] at hstep ⊢
      rw [List.filter_nil, List.nil_append, ih h hs]
      simp [operationsOf, hne]
    | some s' =>
      have hcalls : ∀ call ∈ (s'.perform m.bus op).calls, call.shard = index' := fun call hcall =>
        (Shard.shard_of_mem_calls hcall).trans (h index' s' hs')
      simp only [step, hs'] at hstep ⊢
      by_cases heq : index' = index
      · subst heq
        obtain rfl : s' = s := Option.some.inj (hs'.symm.trans hs)
        rw [ih hstep (by rw [shard?_set m hs', if_pos rfl]),
          List.filter_eq_self.2 (by simpa using hcalls)]
        simp [operationsOf, Shard.run]
      · rw [ih hstep (by rw [shard?_set m hs', if_neg (Ne.symm heq), hs]),
          List.filter_eq_nil_iff.2 (by
            intro call hcall
            simp [hcalls call hcall, heq])]
        simp [operationsOf, heq]

/-- Ordered delivery, exactly once. After any run of a manager let a shard of it be
    connected, and let all shards go on, with nothing but what comes on the connection
    taking that shard's connection from it. Then the listeners hear of each event that comes
    up to and including the end of the connection: each one that is registered for its kind,
    in the order of their registration, with the number and the payload of the event, and
    when the session of the shard reflects it. -/
theorem log_eq_readings (config : ShardConfig) (before : List (ManagerMove Listener))
    (after : List (Nat × Operation)) (index : Nat) {s : Shard}
    (hs : ((new config : Manager Listener).run before).2.shard? index = some s)
    (hstate : s.state = .connected)
    (h : Shard.IsUndisturbed ((new config : Manager Listener).run before).2.bus s
      (operationsOf index after)) :
    let registrations := before.filterMap ManagerMove.registration?
    let is := (operationsOf index after).filterMap Operation.inbound?
    let log := (((new config : Manager Listener).run before).2.run
      (after.map fun op => .perform op.1 op.2)).1.filter fun call => call.shard = index
    (log.map fun call => (call.listener, call.event)) =
        (Inbound.untilLoss is).flatMap (Inbound.deliveries registrations) ∧
      (log = (Inbound.readings s.session is).flatMap fun r =>
        Inbound.callsFor registrations index r.1 r.2) ∧
      ∀ call ∈ log, call.session.Reflects call.event := by
  intro registrations is log
  have hindexed : ((new config : Manager Listener).run before).2.IsIndexed :=
    (isIndexed_new config).run before
  have hregistered : ((new config : Manager Listener).run before).2.bus.registered =
      registrations := registered_run _ before
  have hlog : log = (Inbound.readings s.session is).flatMap fun r =>
      Inbound.callsFor registrations index r.1 r.2 := by
    have hcalls := Shard.calls_run hstate h
    rw [hregistered, hindexed index s hs] at hcalls
    exact (log_run hindexed hs after).trans hcalls
  refine ⟨?_, hlog, fun call hcall => Inbound.reflects_of_mem_callsFor (hlog ▸ hcall)⟩
  rw [hlog, List.map_flatMap, ← Inbound.map_fst_readings s.session, List.flatMap_map]
  simp [Inbound.callsFor, Function.comp_def]

/-- Two listeners want to hear that a session goes on, another one that a session begins.
    Then the first of two shards connects. -/
def listened : List (ManagerMove Nat) :=
  [.register .resumed 1, .register .ready 2, .register .resumed 3] ++
    [.perform 0 (.connect ⟨some 0, Greeting.brief, .ok (), true⟩)]

/-- The session of the first shard goes on, and the second shard has no connection to lose.
    When the connection has ended, nothing is read on it. -/
def resumed : List (Nat × Operation) :=
  [(1, .kill), (0, .inbound Inbound.resumed 0), (0, .inbound .lost 0),
    (0, .inbound Inbound.resumed 0)]

theorem log_eq_readings_resumed :
    ∃ s, ((new { shardCount := 2 } : Manager Nat).run listened).2.shard? 0 = some s ∧
      s.state = .connected ∧
      Shard.IsUndisturbed ((new { shardCount := 2 } : Manager Nat).run listened).2.bus s
        (operationsOf 0 resumed) ∧
      ((((new { shardCount := 2 } : Manager Nat).run listened).2.run
        (resumed.map fun op => .perform op.1 op.2)).1.filter fun call => call.shard = 0).map
          (fun call => (call.listener, call.event)) =
        [(1, ⟨.resumed, some 7, .null⟩), (3, ⟨.resumed, some 7, .null⟩)] := by
  have hopen : (Shard.new 0 { shardCount := 2 }).prepare.1.openSession
      ⟨some 0, Greeting.brief, .ok (), true⟩ = .ok (0, Duration.ofMillis 1, _) :=
    (Shard.openSession_eq_ok_iff _ _).2 ⟨rfl, Greeting.interval_brief, fun _ => rfl, rfl, rfl⟩
  have hs : ((new { shardCount := 2 } : Manager Nat).run listened).2.shard? 0 =
      some ((Shard.new 0 { shardCount := 2 }).prepare.1.establish 0 (Duration.ofMillis 1)) := by
    rw [listened, snd_run_append, shard?_connect (s := .new 0 { shardCount := 2 }) rfl,
      Shard.connect_of_ok hopen]
  have h : Shard.IsUndisturbed ((new { shardCount := 2 } : Manager Nat).run listened).2.bus
      ((Shard.new 0 { shardCount := 2 }).prepare.1.establish 0 (Duration.ofMillis 1))
      (operationsOf 0 resumed) := ⟨nofun, nofun, nofun, trivial⟩
  have hread : Inbound.untilLoss ((operationsOf 0 resumed).filterMap Operation.inbound?) =
      [Inbound.resumed, .lost] := by
    change (Inbound.resumed :: if Inbound.resumed.isLoss then [] else [.lost]) = _
    rw [Inbound.isLoss_resumed]
    rfl
  refine ⟨_, hs, rfl, h, ?_⟩
  rw [(log_eq_readings _ _ _ _ hs rfl h).1, hread, List.flatMap_cons, Inbound.deliveries,
    Inbound.event?_resumed]
  rfl

end Manager

end GatewayClient
