import GatewayClient.Proofs.Shard.History
import GatewayClient.Shard.Admission

/-!
# The life of a shard between its operations

Operations that do not overlap leave a shard in one of two states: it is connected, with
the sending half and the stop signal of one connection installed, or it is dead, with
neither. An attempt to connect is all or nothing: it ends with a connection of the shard,
on which the one message was sent that the session calls for, or it leaves what the shard
knows as it was.

* `Shard.IsSettled`: the state of a shard between two operations, which every operation
  keeps (`Shard.IsSettled.perform`).
* `Shard.Retains`: what an attempt leaves that has failed.
* `Shard.IsJoinedTo`: what an attempt leaves that has gone well.
* `Shard.lifecycle_run`: all of it, after any run of a shard.
-/

namespace GatewayClient

/-- No greeting with which an attempt goes on asks for heartbeats without a pause. -/
theorem Greeting.interval_pos {g : Greeting} {interval : Duration} (h : g.interval = .ok interval) :
    0 < interval := by
  cases g with
  | text s =>
    simp only [Greeting.interval] at h
    split at h
    · cases h
    · split at h
      · cases h
      · rename_i hello hzero
        cases h
        exact Nat.mul_pos (Nat.pos_of_ne_zero hzero) (by decide)
    · cases h
  | _ => cases h

namespace Shard

variable {Listener : Type} {s s' : Shard} {bus : Bus Listener}

/-- The state of a shard while no operation is under way. -/
structure IsSettled (s : Shard) : Prop where
  state : s.state = .dead ∨ s.state = .connected
  sink : s.state = .connected ↔ s.sink.isSome
  stop : s.state = .connected ↔ s.stop.isSome
  /-- What can be stopped is what can be sent on. -/
  same : s.stop = s.sink
  interval : 0 < s.heartbeat.interval

/-! ## Single operations -/

theorem isSettled_new (index : Nat) (config : ShardConfig) : (new index config).IsSettled where
  state := .inl rfl
  sink := by simp [new]
  stop := by simp [new]
  same := rfl
  interval := show 0 < initialInterval by decide

/-- A shard that has neither a sending half nor a stop signal is settled when it is dead. -/
theorem isSettled_of_dead (hstate : s.state = .dead) (hsink : s.sink = none) (hstop : s.stop = none)
    (hinterval : 0 < s.heartbeat.interval) : s.IsSettled where
  state := .inl hstate
  sink := by simp [hstate, hsink]
  stop := by simp [hstate, hstop]
  same := hstop.trans hsink.symm
  interval := hinterval

/-- Session and heartbeats may change as long as there is a pause between heartbeats. -/
theorem IsSettled.update (h : s.IsSettled) (session : Session) {heartbeat : Heartbeat}
    (hinterval : 0 < heartbeat.interval) : IsSettled { s with session, heartbeat } :=
  ⟨h.state, h.sink, h.stop, h.same, hinterval⟩

theorem isSettled_teardown (hinterval : 0 < s.heartbeat.interval) (code : Nat) :
    (s.teardown code).1.IsSettled := isSettled_of_dead rfl rfl rfl hinterval

theorem IsSettled.lose (h : s.IsSettled) (generation : Nat) (code : Option Nat) :
    (s.lose generation code).2.1.IsSettled := by
  by_cases hg : s.generation = generation
  · rw [lose_of_eq hg]
    refine isSettled_teardown ?_ _
    cases code <;> exact h.interval
  · rw [lose_of_ne hg]
    exact h

/-- No frame makes the heartbeats follow each other without a pause. -/
theorem interval_act (h : 0 < s.heartbeat.interval) (bus : Bus Listener) (sequence : Option Nat)
    (frame : Frame) (now : Instant) :
    0 < (s.act bus sequence frame now).2.1.heartbeat.interval := by
  cases frame with
  | hello hello =>
    simp only [act]
    split
    · exact h
    · rename_i hzero
      exact Nat.mul_pos (Nat.pos_of_ne_zero hzero) (by decide)
  | dispatch name data =>
    simp only [act, dispatch, afterEvent]
    split
    · exact h
    · split
      · split <;> exact h
      · exact h
  | invalidSession resumable => cases resumable <;> exact h
  | _ => exact h

theorem interval_handle (h : 0 < s.heartbeat.interval) (bus : Bus Listener) (text : String)
    (now : Instant) : 0 < (s.handle bus text now).shard.heartbeat.interval := by
  simp only [handle]
  split
  · exact h
  · rename_i e _
    have hrecord : 0 < (s.recordSequence e.sequence).heartbeat.interval := by
      cases e.sequence <;> exact h
    split
    · exact hrecord
    · exact interval_act hrecord bus _ _ now

theorem IsSettled.handle (h : s.IsSettled) (bus : Bus Listener) (text : String) (now : Instant) :
    (s.handle bus text now).shard.IsSettled := by
  have hinterval := interval_handle h.interval bus text now
  obtain ⟨session, heartbeat, hs⟩ := s.exists_handle bus text now
  rw [hs] at hinterval ⊢
  exact h.update session hinterval

theorem IsSettled.read (h : s.IsSettled) (bus : Bus Listener) (generation : Nat) (i : Inbound)
    (now : Instant) : (s.read bus generation i now).shard.IsSettled := by
  cases i with
  | text text =>
    have hhandle := h.handle bus text now
    simp only [Shard.read]
    split
    · exact hhandle.lose generation none
    · exact hhandle
    · exact hhandle
  | other => exact h
  | closed code => exact h.lose generation code
  | lost => exact h.lose generation none

theorem IsSettled.beat (h : s.IsSettled) (generation : Nat) (isDelivered : Bool) (now : Instant) :
    (s.beat generation isDelivered now).shard.IsSettled := by
  simp only [Shard.beat]
  split
  · exact h
  · split
    · split
      · exact h.update s.session h.interval
      · exact h.lose generation none
    · exact h.lose generation none

/-! ## Attempts -/

/-- A shard that is ready for an attempt has nothing installed; what it knows is what it
    knew. -/
theorem IsSettled.prepare (h : s.IsSettled) : s.prepare.1.sink = none ∧ s.prepare.1.stop = none ∧
    s.prepare.1.session = s.session ∧ s.prepare.1.heartbeat = s.heartbeat ∧
    s.prepare.2 = s.sink.toList.map (·, .close CloseCode.resumable) := by
  by_cases hdead : s.state = .dead
  · have hsink : s.sink = none := by simpa [hdead] using h.sink
    have hstop : s.stop = none := h.same.trans hsink
    simp [Shard.prepare, hdead, hsink, hstop, setState]
  · simp [Shard.prepare, hdead, kill, teardown, setState, bump]

theorem connect_of_ok {a : Attempt} {c : Connection} {interval : Duration} {e : Envelope}
    (h : s.prepare.1.openSession a = .ok (c, interval, e)) :
    s.connect a = ⟨.ok (), s.prepare.1.establish c interval, s.prepare.1.target,
      s.prepare.2 ++ [(c, .message e)]⟩ := by
  simp only [connect, h]

theorem connect_of_error {a : Attempt} {reason : ShardError}
    (h : s.prepare.1.openSession a = .error reason) :
    s.connect a = ⟨.error reason, s.prepare.1.setState .dead, s.prepare.1.target,
      s.prepare.2⟩ := by
  simp only [connect, h]

theorem result_connect (s : Shard) (a : Attempt) :
    (s.connect a).result = (s.prepare.1.openSession a).map fun _ => () := by
  cases h : s.prepare.1.openSession a with
  | ok opened => rw [connect_of_ok h, Except.map]
  | error reason => rw [connect_of_error h, Except.map]

/-- An attempt goes where the session says, however it ends. -/
theorem dialed_connect (s : Shard) (a : Attempt) :
    (s.connect a).dialed = s.session.connectUrl s.config.url := by
  have hconfig : s.prepare.1.config = s.config := congrArg Prod.snd s.identity_prepare
  have htarget : s.prepare.1.target = s.session.connectUrl s.config.url := by
    rw [target, session_prepare, hconfig]
  cases h : s.prepare.1.openSession a with
  | ok opened => rw [connect_of_ok h, htarget]
  | error reason => rw [connect_of_error h, htarget]

theorem IsSettled.connect (h : s.IsSettled) (a : Attempt) : (s.connect a).shard.IsSettled := by
  obtain ⟨hsink, hstop, -, hheartbeat, -⟩ := h.prepare
  cases hopen : s.prepare.1.openSession a with
  | ok opened =>
    obtain ⟨c, interval, e⟩ := opened
    obtain ⟨-, hgreeting, -⟩ := (openSession_eq_ok_iff _ a).1 hopen
    rw [connect_of_ok hopen]
    exact ⟨.inr rfl, by simp [establish, installSink, setState],
      by simp [establish, installSink, installStop, resetHeartbeat, setState], rfl,
      Greeting.interval_pos hgreeting⟩
  | error reason =>
    rw [connect_of_error hopen]
    exact isSettled_of_dead rfl hsink hstop (hheartbeat ▸ h.interval)

/-- The step lemma: every operation leaves a settled shard settled. -/
theorem IsSettled.perform (h : s.IsSettled) (bus : Bus Listener) (op : Operation) :
    (s.perform bus op).shard.IsSettled := by
  cases op with
  | connect a => exact h.connect a
  | kill => exact isSettled_teardown (s := s.bump) h.interval CloseCode.resumable
  | shutdown =>
    exact isSettled_teardown (s := s.markShutDown.bump.clearSession) h.interval
      CloseCode.normal.code
  | inbound i now =>
    simp only [Shard.perform]
    split
    · exact h.read bus _ i now
    · exact h
  | beat isDelivered now =>
    simp only [Shard.perform]
    split
    · exact h.beat _ isDelivered now
    · exact h
  | updatePresence p isDelivered =>
    simp only [Shard.perform]
    split <;> exact h

/-- The run lemma: so does every sequence of operations. -/
theorem IsSettled.run (h : s.IsSettled) (bus : Bus Listener) (ops : List Operation) :
    (s.run bus ops).2.IsSettled := by
  induction ops generalizing s with
  | nil => exact h
  | cons op rest ih => exact ih (h.perform bus op)

/-! ## All or nothing -/

/-- How the part of an attempt before the connection becomes the shard's goes, depends on
    the identity of the shard and on what its session says. -/
theorem openSession_congr (hidentity : s.identity = s'.identity)
    (hsession : s.session = s'.session) (a : Attempt) : s.openSession a = s'.openSession a := by
  rw [openSession_eq, openSession_eq, hsession, opening_congr hidentity]

/-- An attempt of a shard leaves it without a connection, and changes nothing of what it
    knows: not its session, not the record of its heartbeats. The next attempt goes where it
    would have gone before, ends as it would have ended, and sends the same message. -/
structure Retains (s s' : Shard) : Prop where
  state : s'.state = .dead
  session : s'.session = s.session
  heartbeat : s'.heartbeat = s.heartbeat
  target : ∀ a, (s'.connect a).dialed = (s.connect a).dialed
  result : ∀ a, (s'.connect a).result = (s.connect a).result
  message : ∀ a c e, (c, Sending.message e) ∈ (s'.connect a).sent ↔
    (c, Sending.message e) ∈ (s.connect a).sent

/-- On a new connection nothing is sent but the message of a handshake, after the close of the
    last connection. -/
def HasSaid (s : Shard) (handshake : Handshake) (c : Connection)
    (sent : List (Connection × Sending)) : Prop :=
  ∃ e, e.members = handshake.members s.index s.config ∧
    sent = s.sink.toList.map (·, .close CloseCode.resumable) ++ [(c, .message e)]

/-- An attempt joins a shard to a connection: the shard's last connection is closed, one
    message is sent on the new one, which is what the session calls for, and the limiter is
    asked for a slot if and only if this is the request for a new session. -/
structure IsJoinedTo {σ : Type} (s s' : Shard) (c : Connection) (interval : Duration)
    (sent : List (Connection × Sending)) (wait : SlotWait σ) (accounts accounts' : σ) : Prop where
  state : s'.state = .connected
  sink : s'.sink = some c
  stop : s'.stop = some c
  heartbeat : s'.heartbeat = .fresh interval
  session : s'.session = s.session
  /-- A session whose identifier and number are known is resumed, without a wait. -/
  resume : ∀ id n, s.session.id = some id → s.session.sequence = some n →
    s.HasSaid (.resume id n) c sent ∧ accounts' = accounts
  /-- Otherwise there is a request for a new one, and waiting has changed the accounts once,
      and ended with the slot. -/
  identify : s.session.id = none ∨ s.session.sequence = none →
    s.HasSaid .identify c sent ∧ (wait.run accounts).1 = .ok () ∧
      accounts' = (wait.run accounts).2

/-- What holds of a shard and of its next operations while none is under way. -/
structure Lifecycle (s : Shard) : Prop where
  settled : s.IsSettled
  failed : ∀ (σ : Type) (wait : SlotWait σ) (accounts : σ) (a : Attempt) (reason : ShardError),
    (s.connectAt wait a accounts).1.result = .error reason →
      s.Retains (s.connectAt wait a accounts).1.shard
  connected : ∀ (σ : Type) (wait : SlotWait σ) (accounts : σ) (a : Attempt),
    (s.connectAt wait a accounts).1.result = .ok () → ∃ c interval,
      a.connection = some c ∧ a.greeting.interval = .ok interval ∧
        s.IsJoinedTo (s.connectAt wait a accounts).1.shard c interval
          (s.connectAt wait a accounts).1.sent wait accounts (s.connectAt wait a accounts).2
  /-- One of the two happens, as the outside world has it. -/
  succeeds : ∀ (σ : Type) (wait : SlotWait σ) (accounts : σ) (a : Attempt),
    (s.connectAt wait a accounts).1.result = .ok () ↔
      a.connection.isSome ∧ (∃ interval, a.greeting.interval = .ok interval) ∧
        (s.session.id = none ∨ s.session.sequence = none → (wait.run accounts).1 = .ok ()) ∧
        a.isDelivered
  /-- A message can be sent while the shard is connected, which no sending changes. -/
  send : ∀ (e : Envelope) (isDelivered : Bool),
    (∃ sent, s.send e isDelivered = .ok sent) ↔ s.state = .connected ∧ isDelivered
  kill_session : s.kill.1.session = s.session
  /-- Dropping the connection again does nothing but move the generation on. -/
  kill_kill : s.kill.1.kill = (s.kill.1.bump, [])

/-- An attempt that has failed leaves what the shard knows as it was. -/
theorem IsSettled.retains (h : s.IsSettled) {a : Attempt} {reason : ShardError}
    (hfailed : (s.connect a).result = .error reason) : s.Retains (s.connect a).shard := by
  obtain ⟨-, -, hsession, hheartbeat, -⟩ := h.prepare
  obtain ⟨-, hconfig⟩ := Prod.mk.inj s.identity_prepare
  cases hopen : s.prepare.1.openSession a with
  | ok opened =>
    rw [connect_of_ok hopen] at hfailed
    cases hfailed
  | error reason =>
    rw [connect_of_error hopen]
    have hnext : ∀ a', (s.prepare.1.setState .dead).prepare.1.openSession a' =
        s.prepare.1.openSession a' := fun a' =>
      openSession_congr (identity_prepare _) (session_prepare _) a'
    refine ⟨rfl, hsession, hheartbeat, fun a' => ?_, fun a' => ?_, fun a' c e => ?_⟩
    · rw [dialed_connect, dialed_connect, setState, hsession, hconfig]
    · rw [result_connect, result_connect, hnext]
    · rw [mem_sent_connect, mem_sent_connect, hnext]

/-- An attempt that has gone well joins the shard to its connection. -/
theorem IsSettled.isJoinedTo {σ : Type} (h : s.IsSettled) {wait : SlotWait σ} {a : Attempt}
    {accounts : σ} (hconnected : (s.connectAt wait a accounts).1.result = .ok ()) :
    ∃ c interval, a.connection = some c ∧ a.greeting.interval = .ok interval ∧
      s.IsJoinedTo (s.connectAt wait a accounts).1.shard c interval
        (s.connectAt wait a accounts).1.sent wait accounts (s.connectAt wait a accounts).2 := by
  obtain ⟨-, -, hsession, -, hsent⟩ := h.prepare
  have hawaits := connectAt_snd wait s a accounts
  rw [connectAt_fst] at hconnected ⊢
  cases hopen : s.prepare.1.openSession { a with slot := (wait.run accounts).1 } with
  | error reason =>
    rw [connect_of_error hopen] at hconnected
    cases hconnected
  | ok opened =>
    obtain ⟨c, interval, e⟩ := opened
    obtain ⟨hc, hgreeting, hgiven, -, he⟩ := (openSession_eq_ok_iff _ _).1 hopen
    rw [connect_of_ok hopen]
    rw [awaitsSlot, hc, hgreeting, hsession] at hawaits
    have hsaid : s.HasSaid s.session.handshake c (s.prepare.2 ++ [(c, .message e)]) := by
      refine ⟨e, (members_opening_iff s _ e).2 ?_, by rw [hsent]⟩
      rw [← he, hsession, opening_congr s.identity_prepare]
    refine ⟨c, interval, hc, hgreeting, rfl, rfl, rfl, rfl, hsession, fun id n hid hn => ?_,
      fun hs => ?_⟩
    · have hs : s.session.handshake = .resume id n := Session.handshake_eq_resume_iff.2 ⟨hid, hn⟩
      exact ⟨hs ▸ hsaid, by simpa [hs] using hawaits⟩
    · have hs : s.session.handshake = .identify := Session.handshake_eq_identify_iff.2 hs
      exact ⟨hs ▸ hsaid, hgiven (hsession ▸ hs), by simpa [hs, Except.toBool] using hawaits⟩

/-- An attempt goes well if a connection is opened, the greeting is usable, a shard that
    asks for a slot is given it, and the message is delivered. -/
theorem connectAt_eq_ok_iff {σ : Type} (wait : SlotWait σ) (s : Shard) (a : Attempt)
    (accounts : σ) : (s.connectAt wait a accounts).1.result = .ok () ↔
      a.connection.isSome ∧ (∃ interval, a.greeting.interval = .ok interval) ∧
        (s.session.id = none ∨ s.session.sequence = none → (wait.run accounts).1 = .ok ()) ∧
        a.isDelivered := by
  rw [connectAt_fst, result_connect, ← Session.handshake_eq_identify_iff]
  constructor
  · intro hconnected
    cases hopen : s.prepare.1.openSession { a with slot := (wait.run accounts).1 } with
    | error reason =>
      rw [hopen] at hconnected
      cases hconnected
    | ok opened =>
      obtain ⟨hc, hgreeting, hgiven, hdelivered, -⟩ := (openSession_eq_ok_iff _ _).1 hopen
      rw [session_prepare] at hgiven
      exact ⟨Option.isSome_of_eq_some hc, ⟨_, hgreeting⟩, hgiven, hdelivered⟩
  · rintro ⟨hc, ⟨interval, hgreeting⟩, hgiven, hdelivered⟩
    obtain ⟨c, hc⟩ := Option.isSome_iff_exists.1 hc
    rw [← s.session_prepare] at hgiven
    have hopen := (openSession_eq_ok_iff s.prepare.1 { a with slot := (wait.run accounts).1 }).2
      ⟨hc, hgreeting, hgiven, hdelivered, rfl⟩
    rw [hopen]
    rfl

theorem IsSettled.exists_send_eq_ok_iff (h : s.IsSettled) (e : Envelope) (isDelivered : Bool) :
    (∃ sent, s.send e isDelivered = .ok sent) ↔ s.state = .connected ∧ isDelivered := by
  rw [h.sink, Shard.send]
  cases s.sink with
  | none => simp
  | some c => cases isDelivered <;> simp

/-- The life of a shard, and atomic attempts. After any operations that do not overlap a
    shard is settled; the next attempt leaves it as it was or joins it to a connection, and
    dropping the connection leaves its session alone. -/
theorem lifecycle_run (index : Nat) (config : ShardConfig) (bus : Bus Listener)
    (ops : List Operation) : ((new index config).run bus ops).2.Lifecycle := by
  have hsettled := (isSettled_new index config).run bus ops
  refine ⟨hsettled, fun σ wait accounts a reason hfailed => ?_,
    fun σ wait accounts a hconnected => hsettled.isJoinedTo hconnected,
    fun σ wait accounts a => connectAt_eq_ok_iff wait _ a accounts,
    hsettled.exists_send_eq_ok_iff, rfl, rfl⟩
  rw [connectAt_fst] at hfailed ⊢
  exact hsettled.retains hfailed

/-- A wait that always ends with a slot, at a limiter that counts the waits. -/
def counted : SlotWait Nat := fun waits => (.ok (), waits + 1)

theorem session_interrupted (config : ShardConfig) :
    ((new 0 config).run (.empty : Bus Unit) interrupted).2.session =
      ⟨some "a", some 5, some "w/"⟩ := by
  rw [session_run, history_interrupted]
  rfl

theorem sink_interrupted (config : ShardConfig) :
    ((new 0 config).run (.empty : Bus Unit) interrupted).2.sink = none := by
  simp only [interrupted, run, perform, connect, openSession, Greeting.interval_brief, read, handle,
    Envelope.read_addressed, Envelope.read_numbered]
  rfl

/-- A shard that has lost its connection, but not its session, resumes the session on the next
    one, and asks for no slot. -/
theorem lifecycle_run_interrupted :
    let s := ((new 0 { token := "t" }).run (.empty : Bus Unit) interrupted).2
    let a : Attempt := ⟨some 1, .brief, .ok (), true⟩
    s.Lifecycle ∧ (s.connectAt counted a 0).1.result = .ok () ∧ (s.connectAt counted a 0).2 = 0 ∧
      (s.connectAt counted a 0).1.sent = [(1, .message ⟨.resume, none, none, .object
        [("seq", .ofNat 5), ("session_id", .string "a"), ("token", .string "t")]⟩)] := by
  intro s a
  have hlifecycle : s.Lifecycle := lifecycle_run 0 { token := "t" } .empty interrupted
  have hsession : s.session = ⟨some "a", some 5, some "w/"⟩ := session_interrupted _
  have hsink : s.sink = none := sink_interrupted _
  have hidentity : s.identity = (new 0 { token := "t" }).identity :=
    identity_run _ .empty interrupted
  clear_value s
  obtain ⟨hindex, hconfig⟩ := Prod.mk.inj hidentity
  have hresult : (s.connectAt counted a 0).1.result = .ok () :=
    (hlifecycle.succeeds Nat counted 0 a).2
      ⟨rfl, ⟨_, Greeting.interval_brief⟩, fun _ => rfl, rfl⟩
  obtain ⟨c, interval, hc, -, hjoined⟩ := hlifecycle.connected Nat counted 0 a hresult
  obtain ⟨⟨e, hmembers, hsent⟩, hwaits⟩ :=
    hjoined.resume "a" 5 (by rw [hsession]) (by rw [hsession])
  obtain rfl : 1 = c := Option.some.inj hc
  rw [hindex, hconfig] at hmembers
  refine ⟨hlifecycle, hresult, hwaits, hsent.trans ?_⟩
  rw [hsink, ← (Envelope.members_eq_iff .resume).1 hmembers]
  rfl

end Shard

end GatewayClient
