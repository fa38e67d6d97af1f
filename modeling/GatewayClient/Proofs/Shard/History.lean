import GatewayClient.Proofs.Shard.Opening

/-!
# The history of a session

What a shard says when it connects depends on nothing but the history of its
session: which sessions were opened, which sequence numbers came, and when the
session was declared void. Losses of connections, failed attempts and whatever was
known before the session was opened leave no trace.

* `SessionEvent`: what can happen to a session; `Shard.history`: what happens to it in
  a run.
* `SessionHistory.handshake`: what the next connection has to say, read off the
  history.
* `Shard.session_run`: the session after a run is the trace of its history.
* `Shard.mem_sent_connect_iff`: an attempt to connect sends what the history says.
-/

namespace GatewayClient

/-! ## Histories -/

/-- Something that happens to a session. -/
inductive SessionEvent where
  /-- A message comes with a sequence number. -/
  | numbered (n : Nat)
  /-- The first event of a session comes, perhaps with a sequence number. -/
  | opened (r : Ready) (sequence : Option Nat)
  /-- The session is void. -/
  | voided
  deriving DecidableEq, Repr

namespace SessionEvent

/-- The session after an event. -/
def apply : SessionEvent → Session → Session
  | numbered n, s => s.recordSequence n
  | opened r sequence, _ => .start r.sessionId sequence r.resumeUrl
  | voided, _ => .none

/-- The session that an event opens, with the number of that event. -/
def opening? : SessionEvent → Option (Ready × Option Nat)
  | opened r sequence => some (r, sequence)
  | _ => none

/-- The number that an event brings to a session that is open. -/
def number? : SessionEvent → Option Nat
  | numbered n => some n
  | _ => none

end SessionEvent

/-- What has happened to a session, the last event first. -/
abbrev SessionHistory := List SessionEvent

namespace SessionHistory

/-- What has happened since the session was last void. -/
def recent (h : SessionHistory) : SessionHistory := h.takeWhile (· ≠ .voided)

/-- The session that was last opened since then, with the number of its first event. -/
def opening? (h : SessionHistory) : Option (Ready × Option Nat) :=
  h.recent.findSome? SessionEvent.opening?

/-- The numbers of the session: those that came since it was opened, and that of its
    first event. -/
def numbers (h : SessionHistory) : List Nat :=
  (h.recent.takeWhile (·.opening?.isNone)).filterMap SessionEvent.number? ++
    (h.opening?.bind Prod.snd).toList

/-- What the next connection has to say: it resumes the session that was last opened
    from its greatest number, where there are both. -/
def handshake (h : SessionHistory) : Handshake :=
  match h.opening?, h.numbers.max? with
  | some (r, _), some n => .resume r.sessionId n
  | _, _ => .identify

/-- The session that a history leaves of an earlier one. -/
def replay (h : SessionHistory) (s : Session) : Session := h.foldr SessionEvent.apply s

end SessionHistory

/-- What the frame of a message does to the session: the first event of a session with
    a usable payload opens one, and a refusal with the flag `false` voids it. -/
def Envelope.sessionEvent? (e : Envelope) : Option SessionEvent :=
  match e.op, e.payload with
  | .dispatch, data =>
    if e.name = some "READY" then (Ready.ofValue? data).map (.opened · e.sequence) else none
  | .invalidSession, .bool false => some .voided
  | _, _ => none

/-- What a message does to the session. Its number comes first, whatever its frame. -/
def Envelope.sessionEvents (e : Envelope) : SessionHistory :=
  e.sessionEvent?.toList ++ (e.sequence.map .numbered).toList

/-- What something on a connection does to the session. -/
def Inbound.sessionEvents : Inbound → SessionHistory
  | .text s =>
    match Envelope.read s with
    | .ok e => e.sessionEvents
    | .error _ => []
  | .closed (some code) => if code ∈ [1000, 1001, 4007] then [.voided] else []
  | _ => []

/-- What an operation does to the session of a shard that has a connection or not. -/
def Operation.sessionEvents (isConnected : Bool) : Operation → SessionHistory
  | .inbound i _ => if isConnected then i.sessionEvents else []
  | .shutdown => [.voided]
  | _ => []

/-- What happens to the session of a shard in a run. -/
def Shard.history {Listener : Type} (s : Shard) (bus : Bus Listener) :
    List Operation → SessionHistory
  | [] => []
  | op :: rest =>
    (s.perform bus op).shard.history bus rest ++ op.sessionEvents s.isConnected

/-! ## The session as the trace of its history -/

namespace SessionHistory

variable {h : SessionHistory}

theorem recent_voided : recent (.voided :: h) = [] := by simp [recent]

theorem recent_cons {e : SessionEvent} (he : e ≠ .voided) : recent (e :: h) = e :: recent h := by
  simp [recent, he]

theorem opening?_voided : opening? (.voided :: h) = none := by
  rw [opening?, recent_voided, List.findSome?_nil]

theorem opening?_opened (r : Ready) (sequence : Option Nat) :
    opening? (.opened r sequence :: h) = some (r, sequence) := by
  rw [opening?, recent_cons (by simp), List.findSome?_cons]
  rfl

theorem opening?_numbered (n : Nat) : opening? (.numbered n :: h) = opening? h := by
  rw [opening?, recent_cons (by simp), List.findSome?_cons, opening?]
  rfl

theorem numbers_opened (r : Ready) (sequence : Option Nat) :
    numbers (.opened r sequence :: h) = sequence.toList := by
  rw [numbers, opening?_opened, recent_cons (by simp), List.takeWhile_cons_of_neg (by
    simp [SessionEvent.opening?])]
  rfl

theorem numbers_numbered (n : Nat) : numbers (.numbered n :: h) = n :: numbers h := by
  rw [numbers, opening?_numbered, recent_cons (by simp), List.takeWhile_cons_of_pos rfl]
  rfl

/-- The identifier that a shard knows is that of the session that was last opened. -/
theorem id_replay : (replay h .none).id = (opening? h).map (·.1.sessionId) := by
  induction h with
  | nil => rfl
  | cons e h ih =>
    cases e with
    | numbered n =>
      rw [opening?_numbered]
      exact ih
    | opened r sequence =>
      rw [opening?_opened]
      rfl
    | voided =>
      rw [opening?_voided]
      rfl

/-- The number that a shard knows of an open session is its greatest. -/
theorem sequence_replay (hopen : (opening? h).isSome) :
    (replay h .none).sequence = (numbers h).max? := by
  induction h with
  | nil => simp [opening?, recent] at hopen
  | cons e h ih =>
    cases e with
    | numbered n =>
      -- A number replaces a smaller one, which is the maximum of both.
      rw [opening?_numbered] at hopen
      have hstep : (replay (.numbered n :: h) .none).sequence =
          some ((replay h .none).sequence.elim n (max · n)) := rfl
      rw [hstep, ih hopen, numbers_numbered, List.max?_cons]
      cases (numbers h).max? with
      | none => rfl
      | some k => rw [Option.elim_some, Option.elim_some, Nat.max_comm]
    | opened r sequence =>
      rw [numbers_opened]
      cases sequence <;> rfl
    | voided =>
      rw [opening?_voided] at hopen
      cases hopen

/-- What the session says is what its history says. -/
theorem handshake_replay : (replay h .none).handshake = handshake h := by
  rw [Session.handshake, handshake, id_replay]
  cases hopen : opening? h with
  | none => rfl
  | some o =>
    rw [sequence_replay (by rw [hopen]; rfl), Option.map_some]
    cases (numbers h).max? <;> rfl

end SessionHistory

/-! ## What operations do to the session -/

theorem EventKind.ofName?_eq_ready_iff {name : String} :
    ofName? name = some .ready ↔ name = "READY" := by
  constructor
  · intro h
    have := List.find?_some h
    simpa [wireName, eq_comm] using this
  · rintro rfl
    exact ofName?_wireName .ready

theorem CloseCode.codeClears_iff {code : Nat} : codeClears code ↔ code ∈ [1000, 1001, 4007] := by
  constructor
  · intro h
    obtain ⟨c, hc, hclears⟩ := (Option.any_eq_true _ _).1 h
    have hcode : c.code = code := by simpa using List.find?_some hc
    rw [← hcode]
    cases c <;> first | decide | cases hclears
  · intro h
    simp only [List.mem_cons, List.not_mem_nil, or_false] at h
    rcases h with rfl | rfl | rfl <;> decide

namespace Shard

open SessionHistory

variable {Listener : Type} {s : Shard} {bus : Bus Listener}

/-- Of the events only the first one of a session, with a usable payload, does
    something to it. -/
theorem session_dispatch (s : Shard) (bus : Bus Listener) (name : String) (sequence : Option Nat)
    (data : Json.Value) : (s.dispatch bus name sequence data).1.session =
      replay (Envelope.sessionEvent? ⟨.dispatch, some name, sequence, data⟩).toList s.session := by
  simp only [dispatch, Envelope.sessionEvent?, Option.some.injEq]
  by_cases h : name = "READY"
  · rw [EventKind.ofName?_eq_ready_iff.2 h, if_pos h]
    simp only [afterEvent, if_true]
    cases Ready.ofValue? data <;> rfl
  · -- Events of other kinds, and those of no known kind, only reach listeners.
    rw [if_neg h]
    split
    · rfl
    · rename_i kind hkind
      have hready : kind ≠ .ready := fun h' => h (EventKind.ofName?_eq_ready_iff.1 (h' ▸ hkind))
      simp only [afterEvent, hready, if_false]
      rfl

/-- A frame does to the session what its message says. -/
theorem session_act {e : Envelope} {frame : Frame} (h : Frame.ofEnvelope e = .ok frame)
    (s : Shard) (bus : Bus Listener) (now : Instant) :
    (s.act bus e.sequence frame now).2.1.session = replay e.sessionEvent?.toList s.session := by
  obtain ⟨op, name, sequence, payload⟩ := e
  cases op with
  | dispatch =>
    cases name with
    | none => cases h
    | some name =>
      cases h
      exact s.session_dispatch bus name sequence payload
  | invalidSession =>
    cases h
    cases payload with
    | bool b => cases b <;> rfl
    | _ => rfl
  | hello =>
    simp only [Frame.ofEnvelope] at h
    split at h
    · cases h
      simp only [act]
      split <;> rfl
    · cases h
  | _ => cases h <;> rfl

/-- A message without a usable frame does nothing more. -/
theorem sessionEvent?_of_error {e : Envelope} {fault : FrameError}
    (h : Frame.ofEnvelope e = .error fault) : e.sessionEvent? = none := by
  obtain ⟨op, name, sequence, payload⟩ := e
  cases op with
  | dispatch =>
    cases name with
    | none => rfl
    | some name => cases h
  | invalidSession => cases h
  | _ => rfl

theorem session_handle (s : Shard) (bus : Bus Listener) (text : String) (now : Instant) :
    (s.handle bus text now).shard.session =
      replay (Inbound.text text).sessionEvents s.session := by
  simp only [handle, Inbound.sessionEvents]
  cases Envelope.read text with
  | error reason => rfl
  | ok e =>
    have hrecord : (s.recordSequence e.sequence).session =
        replay (e.sequence.map .numbered).toList s.session := by
      cases e.sequence <;> rfl
    simp only [Envelope.sessionEvents, replay, List.foldr_append]
    rw [← replay, ← replay, ← hrecord]
    split
    · rename_i fault hfault
      rw [sessionEvent?_of_error hfault]
      rfl
    · rename_i frame hframe
      exact session_act hframe _ _ _

/-- Of the losses only those by certain codes do something to the session. -/
theorem session_lose {generation : Nat} (h : s.generation = generation) (code : Option Nat) :
    (s.lose generation code).2.1.session = replay (Inbound.closed code).sessionEvents s.session := by
  rw [lose_of_eq h]
  cases code with
  | none => rfl
  | some code =>
    have hclears := @CloseCode.codeClears_iff code
    simp only [voidSession, Session.afterClose, Inbound.sessionEvents]
    by_cases hc : code ∈ [1000, 1001, 4007]
    · rw [if_pos hc, if_pos (hclears.2 hc)]
      rfl
    · rw [if_neg hc, if_neg fun h => hc (hclears.1 h)]
      rfl

theorem session_read (s : Shard) (bus : Bus Listener) (i : Inbound) (now : Instant) :
    (s.read bus s.generation i now).shard.session = replay i.sessionEvents s.session := by
  cases i with
  | text text =>
    have hhandle := s.session_handle bus text now
    simp only [read]
    split
    · -- The text also ends the connection, which is still the reader's own.
      obtain ⟨session, heartbeat, h⟩ := s.exists_handle bus text now
      have hgen : (s.handle bus text now).shard.generation = s.generation := by rw [h]
      exact (session_lose hgen none).trans hhandle
    · exact hhandle
    · exact hhandle
  | other => rfl
  | closed code => exact session_lose rfl code
  | lost => exact session_lose rfl none

theorem session_beat (s : Shard) (isDelivered : Bool) (now : Instant) :
    (s.beat s.generation isDelivered now).shard.session = s.session := by
  have hloss : (s.beatLoss s.generation).shard.session = s.session := session_lose rfl none
  simp only [beat]
  split
  · rfl
  · split
    · split
      · rfl
      · exact hloss
    · exact hloss

theorem session_prepare (s : Shard) : s.prepare.1.session = s.session := by
  simp only [prepare]
  split <;> rfl

theorem session_connect (s : Shard) (a : Attempt) : (s.connect a).shard.session = s.session := by
  simp only [connect]
  split
  · exact s.session_prepare
  · exact s.session_prepare

/-- The step lemma: an operation does to the session what it is an event of. -/
theorem session_perform (s : Shard) (bus : Bus Listener) (op : Operation) :
    (s.perform bus op).shard.session = replay (op.sessionEvents s.isConnected) s.session := by
  cases op with
  | connect a => exact s.session_connect a
  | kill => rfl
  | shutdown => rfl
  | inbound i now =>
    simp only [perform, Operation.sessionEvents]
    split
    · exact s.session_read bus i now
    · rfl
  | beat isDelivered now =>
    simp only [perform]
    split
    · exact s.session_beat isDelivered now
    · rfl
  | updatePresence p isDelivered =>
    simp only [perform]
    split
    · rfl
    · rfl

/-- The run lemma: the session after a run is the trace of the run's history. -/
theorem session_run (s : Shard) (bus : Bus Listener) (ops : List Operation) :
    (s.run bus ops).2.session = replay (s.history bus ops) s.session := by
  induction ops generalizing s with
  | nil => rfl
  | cons op rest ih =>
    have hrun := ih (s.perform bus op).shard
    rw [session_perform] at hrun
    rw [history, replay, List.foldr_append]
    exact hrun

/-! ## What the next connection has to say -/

/-- What stands in the way of an attempt, in the order in which it does. -/
theorem openSession_eq (s : Shard) (a : Attempt) : s.openSession a =
    match a.connection, a.greeting.interval with
    | none, _ => .error .connect
    | some _, .error reason => .error reason
    | some c, .ok interval =>
      match if s.session.handshake = .identify then a.slot else .ok () with
      | .error reason => .error (.rateLimit reason)
      | .ok () =>
        if a.isDelivered then .ok (c, interval, s.opening s.session.handshake)
        else .error .socket := by
  unfold openSession
  cases a.connection with
  | none => rfl
  | some c =>
    cases a.greeting.interval with
    | error reason => rfl
    | ok interval =>
      by_cases hs : s.session.handshake = .identify
      · cases a.slot <;> simp only [hs, if_true] <;> rfl
      · simp only [hs, if_false]
        rfl

/-- An attempt goes well if a connection is opened, the greeting is usable, a new
    session gets its slot, and the message is delivered. The message is what the
    session says. -/
theorem openSession_eq_ok_iff (s : Shard) (a : Attempt) {c : Connection} {interval : Duration}
    {e : Envelope} : s.openSession a = .ok (c, interval, e) ↔
      a.connection = some c ∧ a.greeting.interval = .ok interval ∧
        (s.session.handshake = .identify → a.slot = .ok ()) ∧ a.isDelivered ∧
        s.opening s.session.handshake = e := by
  rw [openSession_eq]
  cases hc : a.connection with
  | none => simp
  | some c' =>
    cases hg : a.greeting.interval with
    | error reason => simp
    | ok interval' =>
      by_cases hs : s.session.handshake = .identify
      · cases a.slot <;> cases a.isDelivered <;> simp [hs]
      · cases a.isDelivered <;> simp [hs]

/-- Before an attempt a shard sends nothing but the close of its last connection. -/
theorem not_mem_prepare (s : Shard) (c : Connection) (e : Envelope) :
    (c, Sending.message e) ∉ s.prepare.2 := by
  simp only [prepare]
  split
  · exact List.not_mem_nil
  · simp [kill, teardown]

theorem mem_sent_connect (s : Shard) (a : Attempt) {c : Connection} {e : Envelope} :
    (c, Sending.message e) ∈ (s.connect a).sent ↔
      ∃ interval, s.prepare.1.openSession a = .ok (c, interval, e) := by
  simp only [connect]
  split
  · rename_i c' interval e' hopen
    rw [List.mem_append, or_iff_right (s.not_mem_prepare c e), List.mem_singleton, hopen]
    simp [eq_comm]
  · rename_i reason hopen
    rw [hopen]
    constructor
    · intro h
      exact absurd h (s.not_mem_prepare c e)
    · rintro ⟨interval, h⟩
      cases h

/-- Which message a shard begins a connection with depends on its identity only. -/
theorem opening_congr {s s' : Shard} (h : s.identity = s'.identity) (handshake : Handshake) :
    s.opening handshake = s'.opening handshake := by
  obtain ⟨hindex, hconfig⟩ := Prod.mk.inj h
  cases handshake with
  | identify => rw [opening, opening, hindex, hconfig]
  | resume sessionId seq => rw [opening, opening, hconfig]

/-- Session continuity. After any run of a shard an attempt to connect sends what the
    history of the run says, and it does so if a connection is opened, the greeting is
    usable, a new session gets its slot, and the message is delivered. -/
theorem mem_sent_connect_iff (index : Nat) (config : ShardConfig) (bus : Bus Listener)
    (ops : List Operation) (a : Attempt) (c : Connection) (e : Envelope) :
    (c, Sending.message e) ∈ (((Shard.new index config).run bus ops).2.connect a).sent ↔
      a.connection = some c ∧ (∃ interval, a.greeting.interval = .ok interval) ∧
        (handshake ((Shard.new index config).history bus ops) = .identify → a.slot = .ok ()) ∧
        a.isDelivered ∧
        e.members =
          (handshake ((Shard.new index config).history bus ops)).members index config := by
  have hsession : ((Shard.new index config).run bus ops).2.prepare.1.session.handshake =
      handshake ((Shard.new index config).history bus ops) := by
    rw [session_prepare, session_run]
    exact handshake_replay
  have hidentity := (identity_prepare _).trans ((Shard.new index config).identity_run bus ops)
  simp only [mem_sent_connect, openSession_eq_ok_iff, hsession, opening_congr hidentity,
    ← members_opening_iff]
  exact exists_and_left.trans (and_congr_right fun _ => exists_and_right)

end Shard

/-! ## A session that is resumed -/

namespace Envelope

/-- A message that announces a session with an address. -/
def addressed : Envelope :=
  ⟨.dispatch, some "READY", some 1, .array [.null, .string "a", .string "w/"]⟩

/-- Its text. -/
def addressedText : List Char :=
  ['[', '0', ',', '"', 'R', 'E', 'A', 'D', 'Y', '"', ',', '1', ',', '[', 'n', 'u', 'l', 'l', ',',
    '"', 'a', '"', ',', '"', 'w', '/', '"', ']', ']']

/-- Any other event, with a number. -/
def numbered : Envelope := ⟨.dispatch, some "X", some 5, .null⟩

/-- Its text. -/
def numberedText : List Char := ['[', '0', ',', '"', 'X', '"', ',', '5', ']']

theorem read_addressed : read (String.ofList addressedText) = .ok addressed := by
  have hread : Json.Outline.read (String.ofList addressedText) =
      ⟨.byPosition [.number (some (.int 0)), .string (some "READY"), .number (some (.int 1)),
        .array [.null, .string (some "a"), .string (some "w/")]], true⟩ := by
    rw [Json.Outline.read, String.toList_ofList]
    rfl
  rw [read, hread]
  rfl

theorem read_numbered : read (String.ofList numberedText) = .ok numbered := by
  have hread : Json.Outline.read (String.ofList numberedText) =
      ⟨.byPosition [.number (some (.int 0)), .string (some "X"), .number (some (.int 5))],
        true⟩ := by
    rw [Json.Outline.read, String.toList_ofList]
    rfl
  rw [read, hread]
  rfl

end Envelope

namespace Shard

open SessionHistory

/-- A shard connects, is announced a session, and hears of another event before the connection
    is lost. -/
def interrupted : List Operation :=
  [.connect ⟨some 0, .brief, .ok (), true⟩,
    .inbound (.text (String.ofList Envelope.addressedText)) 0,
    .inbound (.text (String.ofList Envelope.numberedText)) 0, .inbound .lost 0]

theorem history_interrupted (config : ShardConfig) :
    (new 0 config).history (.empty : Bus Unit) interrupted =
      [.numbered 5, .opened ⟨none, "a", some "w/", none⟩ (some 1), .numbered 1] := by
  simp only [interrupted, history, Operation.sessionEvents, perform, connect, openSession,
    Greeting.interval_brief, read, handle, Envelope.read_addressed, Envelope.read_numbered,
    Inbound.sessionEvents]
  rfl

/-- It resumes that session from the greater of the two numbers. -/
theorem mem_sent_connect_iff_interrupted :
    let s := ((new 0 { token := "t" }).run (.empty : Bus Unit) interrupted).2
    let e : Envelope := ⟨.resume, none, none, .object
      [("seq", .ofNat 5), ("session_id", .string "a"), ("token", .string "t")]⟩
    (1, .message e) ∈ (s.connect ⟨some 1, .brief, .ok (), true⟩).sent ∧
      e.write = "\x7b\"op\":6,\"d\":\x7b\"seq\":5,\"session_id\":\"a\",\"token\":\"t\"\x7d\x7d" := by
  intro s e
  have hhandshake : handshake ((new 0 { token := "t" }).history (.empty : Bus Unit) interrupted) =
      .resume "a" 5 := by
    rw [history_interrupted]
    rfl
  refine ⟨(mem_sent_connect_iff 0 { token := "t" } .empty interrupted _ 1 e).2
    ⟨rfl, ⟨_, Greeting.interval_brief⟩, fun _ => rfl, rfl, ?_⟩, by decide +kernel⟩
  rw [hhandshake]
  rfl

end Shard

end GatewayClient
