import GatewayClient.Proofs.Shard.Establish
import GatewayClient.Proofs.Shard.History
import GatewayClient.Proofs.Shard.Lifecycle

/-!
# Where the number of a resumed session comes from

A request to continue a session names the session and the last number received. The number
should have come on a connection of that session. It always has come since the session was
announced; but what is known of a session that cannot be resumed stays when a new one is
requested, and then a number of the new session may be taken for one of the old session.

* `Journal`: what happened on the connections of a shard; `Shard.journal`: in a run.
* `Journal.session?`: the session that a connection is of.
* `Journal.IsSource`, `Journal.IsOwn`: where a number comes from.
* `Shard.Records`: what an operation does to session and journal; `Shard.fits_run`: what a
  shard knows of its session, in terms of its journal.
* `Shard.isOwn_of_isNumbered`, `Shard.isOwn_iff`: when no number of another session is sent.
-/

namespace GatewayClient

/-! ## Journals -/

/-- The session that a message announces: it is the first one of that session. -/
def Envelope.announced? (e : Envelope) : Option String :=
  (e.sessionEvent?.bind SessionEvent.opening?).map (·.1.sessionId)

/-- Something that happens on the connections of a shard. -/
inductive JournalEntry where
  /-- A connection is established; the shard has requested a session on it. -/
  | opened (handshake : Handshake)
  /-- A message comes on the connection. -/
  | received (e : Envelope)

/-- The session that is announced. -/
def JournalEntry.announced? : JournalEntry → Option String
  | opened _ => none
  | received e => e.announced?

/-- What has happened on the connections of a shard, the last thing first. -/
abbrev Journal := List JournalEntry

namespace Journal

/-- The session that was announced last. -/
def announced? (j : Journal) : Option String := j.findSome? JournalEntry.announced?

/-- What has happened since then. -/
def sinceReady (j : Journal) : Journal := j.takeWhile (·.announced?.isNone)

/-- The session that the last connection is of: the one that was announced on it, or else
    the one that it continues. -/
def session? : Journal → Option String
  | [] => none
  | .opened .identify :: _ => none
  | .opened (.resume id _) :: _ => some id
  | .received e :: earlier => e.announced?.or (session? earlier)

/-- A number came with a message that announced the last session, or with a later one.
    With this message `seen` is what had happened. -/
def IsSource (j : Journal) (n : Nat) (seen : Journal) : Prop :=
  ∃ later e earlier, j = later ++ seen ∧ seen = .received e :: earlier ∧ e.sequence = some n ∧
    ∀ x ∈ later, x.announced? = none

/-- A number came on a connection of the session that was announced last, after it was
    announced or with the announcement. -/
def IsOwn (j : Journal) (id : String) (n : Nat) : Prop :=
  ∃ seen, j.IsSource n seen ∧ seen.announced? = some id ∧ seen.session? = some id

/-- Every message that announces a session carries a number. -/
def IsNumbered (j : Journal) : Prop :=
  ∀ e, .received e ∈ j → e.announced?.isSome → e.sequence.isSome

end Journal

/-- What an operation adds to the journal of a shard. -/
def Operation.entries (s : Shard) : Operation → Journal
  | .connect a =>
    match (s.connect a).1 with
    | .ok () => [.opened s.session.handshake]
    | .error _ => []
  | .inbound (.text text) _ =>
    match Envelope.read text with
    | .ok e => if s.isConnected then [.received e] else []
    | .error _ => []
  | _ => []

namespace Shard

variable {Listener : Type}

/-- The journal of a run. -/
def journal (s : Shard) (bus : Bus Listener) : List Operation → Journal
  | [] => []
  | op :: rest => (s.perform bus op).shard.journal bus rest ++ op.entries s

/-- A request to continue a session is sent in a run, when `j` is its journal. -/
def Resumes (s : Shard) (bus : Bus Listener) (ops : List Operation) (j : Journal) (r : Resume) :
    Prop :=
  ∃ before op after c, ops = before ++ op :: after ∧ j = s.journal bus before ∧
    (c, .message (.resume r)) ∈ ((s.run bus before).2.perform bus op).sent

end Shard

/-! ## What is sent -/

/-- A request to continue a session tells all its parts. -/
theorem Envelope.resume_inj {r r' : Resume} (h : Envelope.resume r = .resume r') : r = r' := by
  have hmembers (r : Resume) : Json.Value.ofMembers r.members = .object
      [("seq", .ofNat r.seq), ("session_id", .string r.sessionId), ("token", .string r.token)] :=
    rfl
  have hpayload := congrArg Envelope.payload h
  simp only [resume, ofPayload, hmembers, Json.Value.ofNat, Json.Value.object.injEq,
    List.cons.injEq, Prod.mk.injEq, true_and, Json.Value.number.injEq, Json.Value.string.injEq,
    Json.Number.int.injEq, Int.ofNat_inj, and_true] at hpayload
  obtain ⟨token, sessionId, seq⟩ := r
  obtain ⟨hseq, hid, htoken⟩ := hpayload
  rw [Resume.mk.injEq]
  exact ⟨htoken, hid, hseq⟩

namespace Shard

variable {Listener : Type} {s : Shard} {bus : Bus Listener}

theorem not_mem_lose (s : Shard) (generation : Nat) (code : Option Nat) (c : Connection)
    (e : Envelope) : (c, Sending.message e) ∉ (s.lose generation code).2.2 := by
  by_cases h : s.generation = generation
  · rw [lose_of_eq h]
    simp [teardown]
  · rw [lose_of_ne h]
    exact List.not_mem_nil

theorem not_mem_read (s : Shard) (bus : Bus Listener) (generation : Nat) (i : Inbound)
    (now : Instant) (c : Connection) (e : Envelope) :
    (c, Sending.message e) ∉ (s.read bus generation i now).sent := by
  cases i with
  | text text =>
    simp only [read]
    split
    · exact not_mem_lose _ _ _ c e
    · exact List.not_mem_nil
    · exact List.not_mem_nil
  | other => exact List.not_mem_nil
  | closed code => exact s.not_mem_lose generation code c e
  | lost => exact s.not_mem_lose generation none c e

theorem not_mem_beat (s : Shard) (generation : Nat) (isDelivered : Bool) (now : Instant)
    (c : Connection) (r : Resume) :
    (c, Sending.message (.resume r)) ∉ (s.beat generation isDelivered now).sent := by
  simp only [beat]
  split
  · exact List.not_mem_nil
  · split
    · split
      · simp [Envelope.heartbeat, Envelope.resume, Envelope.ofPayload]
      · exact s.not_mem_lose generation none c _
    · exact s.not_mem_lose generation none c _

theorem not_mem_updatePresence {p : Presence} {isDelivered : Bool}
    {sent : List (Connection × Sending)} (h : s.updatePresence p isDelivered = .ok sent)
    (c : Connection) (r : Resume) : (c, Sending.message (.resume r)) ∉ sent := by
  simp only [updatePresence, send] at h
  split at h
  · split at h
    · cases h
    · split at h
      · cases h
        simp [Envelope.presenceUpdate, Envelope.resume, Envelope.ofPayload]
      · cases h
  · cases h

/-- Only an attempt to connect sends a request to continue a session, and it is the one that
    the session calls for. -/
theorem resume_of_mem_sent {op : Operation} {c : Connection} {r : Resume}
    (h : (c, .message (.resume r)) ∈ (s.perform bus op).sent) :
    s.session.handshake = .resume r.sessionId r.seq ∧
      op.entries s = [.opened s.session.handshake] := by
  cases op with
  | connect a =>
    obtain ⟨interval, hopen⟩ := (s.mem_sent_connect a).1 h
    have hmessage := ((openSession_eq_ok_iff _ a).1 hopen).2.2.2.2
    rw [session_prepare] at hmessage
    have hentries : (Operation.connect a).entries s = [.opened s.session.handshake] := by
      rw [Operation.entries, connect_of_ok hopen]
    refine ⟨?_, hentries⟩
    cases hs : s.session.handshake with
    | identify =>
      rw [hs] at hmessage
      exact absurd (congrArg Envelope.op hmessage) (by simp [opening, Envelope.identify,
        Envelope.resume, Envelope.ofPayload])
    | resume id n =>
      rw [hs] at hmessage
      rw [← Envelope.resume_inj hmessage]
  | kill => simp [perform, kill, teardown] at h
  | shutdown => simp [perform, shutdown, teardown] at h
  | inbound i now =>
    simp only [perform] at h
    split at h
    · exact absurd h (s.not_mem_read bus _ i now c _)
    · exact absurd h List.not_mem_nil
  | beat isDelivered now =>
    simp only [perform] at h
    split at h
    · exact absurd h (s.not_mem_beat _ isDelivered now c r)
    · exact absurd h List.not_mem_nil
  | updatePresence p isDelivered =>
    simp only [perform] at h
    split at h
    · rename_i sent hsent
      exact absurd h (not_mem_updatePresence hsent c r)
    · exact absurd h List.not_mem_nil

/-! ## What a shard knows of its session -/

end Shard

namespace Journal

variable {j seen : Journal} {n : Nat} {id : String}

theorem isSource_opened {handshake : Handshake} :
    IsSource (.opened handshake :: j) n seen ↔ IsSource j n seen := by
  constructor
  · rintro ⟨_ | ⟨x, later⟩, e, earlier, hj, rfl, he, hlater⟩
    · cases hj
    · obtain ⟨-, rfl⟩ := List.cons.inj hj
      exact ⟨later, e, earlier, rfl, rfl, he, fun x hx => hlater x (List.mem_cons_of_mem _ hx)⟩
  · rintro ⟨later, e, earlier, rfl, rfl, he, hlater⟩
    exact ⟨.opened handshake :: later, e, earlier, rfl, rfl, he,
      List.forall_mem_cons.2 ⟨rfl, hlater⟩⟩

/-- A number comes with the last message, or else with an earlier one, if the last one
    announces nothing. -/
theorem isSource_received {e : Envelope} :
    IsSource (.received e :: j) n seen ↔
      (e.sequence = some n ∧ seen = .received e :: j) ∨
        (e.announced? = none ∧ IsSource j n seen) := by
  constructor
  · rintro ⟨_ | ⟨x, later⟩, e', earlier, hj, rfl, he, hlater⟩
    · obtain ⟨hx, rfl⟩ := List.cons.inj hj
      cases hx
      exact .inl ⟨he, rfl⟩
    · obtain ⟨rfl, rfl⟩ := List.cons.inj hj
      obtain ⟨hx, hlater⟩ := List.forall_mem_cons.1 hlater
      exact .inr ⟨hx, later, e', earlier, rfl, rfl, he, hlater⟩
  · rintro (⟨he, rfl⟩ | ⟨he, later, e', earlier, rfl, rfl, he', hlater⟩)
    · exact ⟨[], e, j, rfl, rfl, he, by simp⟩
    · exact ⟨.received e :: later, e', earlier, rfl, rfl, he', List.forall_mem_cons.2 ⟨he, hlater⟩⟩

theorem announced?_received {e : Envelope} :
    announced? (.received e :: j) = e.announced?.or j.announced? := by
  rw [announced?, List.findSome?_cons, JournalEntry.announced?, announced?]
  cases e.announced? <;> rfl

theorem sinceReady_of_announced {e : Envelope} (he : e.announced? = some id) :
    sinceReady (.received e :: j) = [] :=
  List.takeWhile_cons_of_neg (by simp [JournalEntry.announced?, he])

theorem sinceReady_received {e : Envelope} (he : e.announced? = none) :
    sinceReady (.received e :: j) = .received e :: j.sinceReady :=
  List.takeWhile_cons_of_pos (by simp [JournalEntry.announced?, he])

theorem opened_mem_sinceReady {e : Envelope} {handshake : Handshake} (he : e.announced? = none) :
    .opened handshake ∈ sinceReady (.received e :: j) ↔ .opened handshake ∈ j.sinceReady := by
  rw [sinceReady_received he, List.mem_cons, or_iff_right nofun]

theorem IsNumbered.of_cons {x : JournalEntry} (h : IsNumbered (x :: j)) : j.IsNumbered :=
  fun e he => h e (List.mem_cons_of_mem _ he)

/-- If announcements carry numbers, a number has come of the session that was announced. -/
theorem IsNumbered.exists_isSource (h : j.IsNumbered) (hannounced : j.announced? = some id) :
    ∃ n seen, j.IsSource n seen := by
  induction j with
  | nil => cases hannounced
  | cons x j ih =>
    cases x with
    | opened handshake =>
      obtain ⟨n, seen, hseen⟩ := ih h.of_cons hannounced
      exact ⟨n, seen, isSource_opened.2 hseen⟩
    | received e =>
      cases he : e.announced? with
      | some id' =>
        obtain ⟨n, hn⟩ := Option.isSome_iff_exists.1 (h e List.mem_cons_self (by rw [he]; rfl))
        exact ⟨n, _, isSource_received.2 (.inl ⟨hn, rfl⟩)⟩
      | none =>
        rw [announced?_received, he, Option.none_or] at hannounced
        obtain ⟨n, seen, hseen⟩ := ih h.of_cons hannounced
        exact ⟨n, seen, isSource_received.2 (.inr ⟨he, hseen⟩)⟩

/-- What a shard knows of a session that was announced: a number, if one has come since. The
    connections since then continue the session, or request a new one, which does not happen
    where announcements carry numbers. -/
structure Fits (j : Journal) (id : String) (sequence : Option Nat) : Prop where
  announced : j.announced? = some id
  source : ∀ n, sequence = some n → ∃ seen, j.IsSource n seen
  numberless : sequence = none → ∀ n seen, ¬ j.IsSource n seen
  connections : ∀ handshake, .opened handshake ∈ j.sinceReady →
    handshake = .identify ∨ ∃ n, handshake = .resume id n
  continued : j.IsNumbered → .opened .identify ∉ j.sinceReady

/-- A connection is established with what the session calls for. -/
theorem Fits.opened {sequence : Option Nat} (h : j.Fits id sequence) :
    Fits (.opened (sequence.elim .identify (.resume id)) :: j) id sequence where
  announced := h.announced
  source n hn := by
    obtain ⟨seen, hseen⟩ := h.source n hn
    exact ⟨seen, isSource_opened.2 hseen⟩
  numberless hnone n seen hseen := h.numberless hnone n seen (isSource_opened.1 hseen)
  connections handshake hmem := by
    rcases List.mem_cons.1 hmem with hmem | hmem
    · cases hmem
      cases sequence with
      | none => exact .inl rfl
      | some n => exact .inr ⟨n, rfl⟩
    · exact h.connections handshake hmem
  continued hnumbered hmem := by
    rcases List.mem_cons.1 hmem with hmem | hmem
    · cases sequence with
      | none =>
        obtain ⟨n, seen, hseen⟩ := hnumbered.of_cons.exists_isSource h.announced
        exact h.numberless rfl n seen hseen
      | some n => cases hmem
    · exact h.continued hnumbered.of_cons hmem

/-- A message that announces no session may bring a greater number. -/
theorem Fits.received {session : Session} {e : Envelope} (h : j.Fits id session.sequence)
    (he : e.announced? = none) :
    Fits (.received e :: j) id
      (SessionHistory.replay (e.sequence.map .numbered).toList session).sequence where
  announced := by rw [announced?_received, he, Option.none_or, h.announced]
  source n hn := by
    have hold : session.sequence = some n → ∃ seen, IsSource (.received e :: j) n seen := by
      intro hn
      obtain ⟨seen, hseen⟩ := h.source n hn
      exact ⟨seen, isSource_received.2 (.inr ⟨he, hseen⟩)⟩
    cases hsequence : e.sequence with
    | none =>
      rw [hsequence] at hn
      exact hold hn
    | some k =>
      -- The shard keeps the greater of two numbers, and both have come.
      rw [hsequence] at hn
      have hn : session.sequence.elim k (max · k) = n := Option.some.inj hn
      have hnew : k = n → ∃ seen, IsSource (.received e :: j) n seen := fun hk =>
        ⟨_, isSource_received.2 (.inl ⟨hsequence.trans (congrArg some hk), rfl⟩)⟩
      cases hlast : session.sequence with
      | none => exact hnew (by simpa [hlast] using hn)
      | some last =>
        rw [hlast, Option.elim_some] at hn
        rcases Nat.le_total last k with hle | hle
        · exact hnew (by rwa [Nat.max_eq_right hle] at hn)
        · exact hold (by rw [hlast, ← hn, Nat.max_eq_left hle])
  numberless hnone n seen hseen := by
    cases hsequence : e.sequence with
    | none =>
      rw [hsequence] at hnone
      rcases isSource_received.1 hseen with ⟨hn, -⟩ | ⟨-, hseen⟩
      · rw [hsequence] at hn
        cases hn
      · exact h.numberless hnone n seen hseen
    | some k =>
      rw [hsequence] at hnone
      cases hnone
  connections handshake hmem := h.connections handshake ((opened_mem_sinceReady he).1 hmem)
  continued hnumbered hmem := h.continued hnumbered.of_cons ((opened_mem_sinceReady he).1 hmem)

/-- A message that announces a session may bring the first number of that. -/
theorem fits_of_announced {e : Envelope} (he : e.announced? = some id) :
    Fits (.received e :: j) id e.sequence where
  announced := by rw [announced?_received, he, Option.some_or]
  source n hn := ⟨_, isSource_received.2 (.inl ⟨hn, rfl⟩)⟩
  numberless hnone n seen hseen := by
    rcases isSource_received.1 hseen with ⟨hn, -⟩ | ⟨hnothing, -⟩
    · rw [hnone] at hn
      cases hn
    · rw [he] at hnothing
      cases hnothing
  connections handshake hmem := by
    rw [sinceReady_of_announced he] at hmem
    cases hmem
  continued _ hmem := by
    rw [sinceReady_of_announced he] at hmem
    cases hmem

/-! ## Own numbers -/

/-- If no new session was requested since the last one was announced, then the last
    connection is of that, and so are those on which its numbers have come. -/
theorem isOwn_of_not_mem (hannounced : j.announced? = some id)
    (hconnections : ∀ handshake, .opened handshake ∈ j.sinceReady →
      handshake = .identify ∨ ∃ n, handshake = .resume id n)
    (hidentify : .opened .identify ∉ j.sinceReady) :
    j.session? = some id ∧ ∀ n seen, j.IsSource n seen → j.IsOwn id n := by
  induction j with
  | nil => cases hannounced
  | cons x j ih =>
    cases x with
    | opened handshake =>
      rw [sinceReady, List.takeWhile_cons_of_pos rfl] at hconnections hidentify
      obtain ⟨-, hown⟩ := ih hannounced
        (fun handshake' hmem => hconnections handshake' (List.mem_cons_of_mem _ hmem))
        (fun hmem => hidentify (List.mem_cons_of_mem _ hmem))
      refine ⟨?_, fun n seen hseen => ?_⟩
      · rcases hconnections handshake List.mem_cons_self with rfl | ⟨k, rfl⟩
        · exact absurd List.mem_cons_self hidentify
        · rfl
      · obtain ⟨seen', hseen', hof⟩ := hown n seen (isSource_opened.1 hseen)
        exact ⟨seen', isSource_opened.2 hseen', hof⟩
    | received e =>
      rw [announced?_received] at hannounced
      cases he : e.announced? with
      | some id' =>
        rw [he, Option.some_or] at hannounced
        have hsession : session? (.received e :: j) = some id := by
          rw [session?, he, Option.some_or, hannounced]
        refine ⟨hsession, fun n seen hseen => ?_⟩
        rcases isSource_received.1 hseen with ⟨-, rfl⟩ | ⟨hnothing, -⟩
        · exact ⟨_, hseen, by rw [announced?_received, he, Option.some_or, hannounced], hsession⟩
        · rw [he] at hnothing
          cases hnothing
      | none =>
        rw [he, Option.none_or] at hannounced
        obtain ⟨hsession, hown⟩ := ih hannounced
          (fun handshake' hmem => hconnections handshake' ((opened_mem_sinceReady he).2 hmem))
          (fun hmem => hidentify ((opened_mem_sinceReady he).2 hmem))
        have hsession' : session? (.received e :: j) = some id := by
          rw [session?, he, Option.none_or, hsession]
        refine ⟨hsession', fun n seen hseen => ?_⟩
        rcases isSource_received.1 hseen with ⟨-, rfl⟩ | ⟨-, hseen⟩
        · exact ⟨_, hseen, by rw [announced?_received, he, Option.none_or, hannounced], hsession'⟩
        · obtain ⟨seen', hseen', hof⟩ := hown n seen hseen
          exact ⟨seen', isSource_received.2 (.inr ⟨he, hseen'⟩), hof⟩

/-- Since a new session was requested, the last connection has not been of the session that
    was announced before, and no number of that has come. -/
def IsApart (j : Journal) (id : String) : Prop :=
  .opened .identify ∈ j.sinceReady → j.session? ≠ some id ∧ ∀ n, ¬ j.IsOwn id n

theorem isApart_identify (h : j.Fits id none) : IsApart (.opened .identify :: j) id := by
  refine fun _ => ⟨nofun, ?_⟩
  rintro n ⟨seen, hseen, -⟩
  exact h.numberless rfl n seen (isSource_opened.1 hseen)

theorem isApart_resume (n : Nat) (h : .opened .identify ∉ j.sinceReady) :
    IsApart (.opened (.resume id n) :: j) id := by
  intro hmem
  rw [sinceReady, List.takeWhile_cons_of_pos rfl] at hmem
  rcases List.mem_cons.1 hmem with hmem | hmem
  · cases hmem
  · exact absurd hmem h

theorem isApart_of_announced {e : Envelope} (he : e.announced? = some id) :
    IsApart (.received e :: j) id := by
  intro hmem
  rw [sinceReady_of_announced he] at hmem
  cases hmem

theorem IsApart.received {e : Envelope} (h : j.IsApart id) (he : e.announced? = none) :
    IsApart (.received e :: j) id := by
  intro hmem
  obtain ⟨hsession, hown⟩ := h ((opened_mem_sinceReady he).1 hmem)
  have hsession' : session? (.received e :: j) ≠ some id := by
    rwa [session?, he, Option.none_or]
  refine ⟨hsession', ?_⟩
  rintro n ⟨seen, hseen, hof⟩
  rcases isSource_received.1 hseen with ⟨-, rfl⟩ | ⟨-, hseen⟩
  · exact hsession' hof.2
  · exact hown n ⟨seen, hseen, hof⟩

end Journal

/-- What a session with an identifier calls for. -/
theorem Session.handshake_of_id {session : Session} {id : String} (h : session.id = some id) :
    session.handshake = session.sequence.elim .identify (.resume id) := by
  rw [handshake, h]
  cases session.sequence <;> rfl

theorem Session.handshake_eq_resume {session : Session} {id : String} {n : Nat}
    (h : session.handshake = .resume id n) : session.id = some id ∧ session.sequence = some n := by
  obtain ⟨id', sequence, resumeUrl⟩ := session
  cases id' <;> cases sequence <;> simp_all [handshake]

/-- What a message does to the session: it announces one, or it voids the session, or only
    its number counts. -/
theorem Envelope.replay_cases (e : Envelope) (session : Session) :
    let session' := SessionHistory.replay e.sessionEvents session
    (∃ r : Ready, e.announced? = some r.sessionId ∧
        session' = .start r.sessionId e.sequence r.resumeUrl) ∨
      session' = .none ∨
      e.announced? = none ∧
        session' = SessionHistory.replay (e.sequence.map .numbered).toList session := by
  simp only [sessionEvents, announced?]
  cases hevent : e.sessionEvent? with
  | none => exact .inr (.inr ⟨rfl, rfl⟩)
  | some event =>
    simp only [sessionEvent?] at hevent
    split at hevent
    · split at hevent
      · obtain ⟨r, -, rfl⟩ := Option.map_eq_some_iff.1 hevent
        exact .inl ⟨r, rfl, rfl⟩
      · cases hevent
    · cases hevent
      exact .inr (.inl rfl)
    · cases hevent

namespace Shard

variable {Listener : Type} {s : Shard} {bus : Bus Listener}

variable {j j' : Journal} {p : Performed Listener}

/-- What an operation does to the session of a shard and to its journal. -/
inductive Records (s : Shard) (j : Journal) (p : Performed Listener) : Journal → Prop
  | nothing : p.shard.session = s.session → Records s j p j
  | voided : p.shard.session = .none → Records s j p j
  | opened (c : Connection) : p.shard.session = s.session →
      (c, .message (s.opening s.session.handshake)) ∈ p.sent →
      Records s j p (.opened s.session.handshake :: j)
  | announced (e : Envelope) (r : Ready) : e.announced? = some r.sessionId →
      p.shard.session = .start r.sessionId e.sequence r.resumeUrl →
      Records s j p (.received e :: j)
  | refused (e : Envelope) : p.shard.session = .none → Records s j p (.received e :: j)
  | numbered (e : Envelope) : e.announced? = none →
      p.shard.session = SessionHistory.replay (e.sequence.map .numbered).toList s.session →
      Records s j p (.received e :: j)

theorem records_received {e : Envelope}
    (h : p.shard.session = SessionHistory.replay e.sessionEvents s.session) :
    s.Records j p (.received e :: j) := by
  rcases e.replay_cases s.session with ⟨r, he, hr⟩ | hnone | ⟨he, hnumber⟩
  · exact .announced e r he (h.trans hr)
  · exact .refused e (h.trans hnone)
  · exact .numbered e he (h.trans hnumber)

/-- Each operation does one of these things. -/
theorem records_perform (s : Shard) (bus : Bus Listener) (op : Operation) (j : Journal) :
    s.Records j (s.perform bus op) (op.entries s ++ j) := by
  have hsession := s.session_perform bus op
  cases op with
  | connect a =>
    rw [Operation.entries]
    cases hopen : s.prepare.1.openSession a with
    | ok opened =>
      obtain ⟨c, interval, e⟩ := opened
      have hmessage := ((openSession_eq_ok_iff _ a).1 hopen).2.2.2.2
      rw [session_prepare, opening_congr s.identity_prepare] at hmessage
      rw [connect_of_ok hopen]
      exact .opened c hsession ((s.mem_sent_connect a).2 ⟨interval, hmessage ▸ hopen⟩)
    | error reason =>
      rw [connect_of_error hopen]
      exact .nothing hsession
  | shutdown => exact .voided hsession
  | inbound i now =>
    cases i with
    | text text =>
      simp only [Operation.entries, Operation.sessionEvents, Inbound.sessionEvents] at hsession ⊢
      cases hread : Envelope.read text with
      | error reason =>
        rw [hread, ite_self] at hsession
        exact .nothing hsession
      | ok e =>
        rw [hread] at hsession
        cases hconnected : s.isConnected with
        | true =>
          rw [hconnected] at hsession
          exact records_received hsession
        | false =>
          rw [hconnected] at hsession
          exact .nothing hsession
    | closed code =>
      cases code with
      | none =>
        simp only [Operation.sessionEvents, Inbound.sessionEvents, ite_self] at hsession
        exact .nothing hsession
      | some code =>
        simp only [Operation.sessionEvents, Inbound.sessionEvents] at hsession
        split at hsession
        · split at hsession
          · exact .voided hsession
          · exact .nothing hsession
        · exact .nothing hsession
    | _ =>
      simp only [Operation.sessionEvents, Inbound.sessionEvents, ite_self] at hsession
      exact .nothing hsession
  | _ => exact .nothing hsession

/-- What a journal says of the session that a shard knows, and of what it knows of its
    number. -/
def Bears (s : Shard) (I : Journal → String → Option Nat → Prop) (j : Journal) : Prop :=
  ∀ id, s.session.id = some id → I j id s.session.sequence

/-- It goes on to say so if it does when a connection is established, when a session is
    announced and when some other message comes. -/
theorem Records.bears {I : Journal → String → Option Nat → Prop} (hr : s.Records j p j')
    (h : s.Bears I j)
    (hopened : ∀ id c, s.session.id = some id →
      (c, .message (s.opening s.session.handshake)) ∈ p.sent →
      I (.opened (s.session.sequence.elim .identify (.resume id)) :: j) id s.session.sequence)
    (hannounced : ∀ e id, e.announced? = some id → I (.received e :: j) id e.sequence)
    (hnumbered : ∀ e id, e.announced? = none → s.session.id = some id → I (.received e :: j) id
      (SessionHistory.replay (e.sequence.map .numbered).toList s.session).sequence) :
    p.shard.Bears I j' := by
  intro id hid
  cases hr with
  | nothing hsession =>
    rw [hsession] at hid ⊢
    exact h id hid
  | voided hsession | refused e hsession =>
    rw [hsession] at hid
    cases hid
  | opened c hsession hsent =>
    rw [hsession] at hid ⊢
    have hstep := hopened id c hid hsent
    rwa [← Session.handshake_of_id hid] at hstep
  | announced e r he hsession =>
    rw [hsession] at hid ⊢
    exact hannounced e id (he.trans hid)
  | numbered e he hsession =>
    rw [hsession] at hid ⊢
    have hid' : s.session.id = some id := by
      rw [← hid]
      cases e.sequence <;> rfl
    exact hnumbered e id he hid'

/-- The step lemma: every operation keeps what the shard knows fitting. -/
theorem fits_perform (h : s.Bears Journal.Fits j) (bus : Bus Listener) (op : Operation) :
    (s.perform bus op).shard.Bears Journal.Fits (op.entries s ++ j) :=
  (s.records_perform bus op j).bears h (fun id _ hid _ => (h id hid).opened)
    (fun _ _ he => Journal.fits_of_announced he) (fun _ id he hid => (h id hid).received he)

/-- The run lemma: so does every sequence of operations. -/
theorem fits_run (h : s.Bears Journal.Fits j) (bus : Bus Listener) (ops : List Operation) :
    (s.run bus ops).2.Bears Journal.Fits (s.journal bus ops ++ j) := by
  induction ops generalizing s j with
  | nil => exact h
  | cons op rest ih =>
    rw [journal, List.append_assoc]
    exact ih (fits_perform h bus op)

/-- An operation keeps a session apart from what came after a request for a new one, as long
    as it does not continue that session with a number that is not its own. -/
theorem isApart_perform (h : s.Bears (fun j id _ => j.IsApart id) j)
    (hfits : s.Bears Journal.Fits j) (bus : Bus Listener) (op : Operation)
    (hown : ∀ c r, (c, .message (.resume r)) ∈ (s.perform bus op).sent →
      j.IsOwn r.sessionId r.seq) :
    (s.perform bus op).shard.Bears (fun j id _ => j.IsApart id) (op.entries s ++ j) := by
  refine (s.records_perform bus op j).bears h (fun id c hid hsent => ?_)
    (fun _ _ he => Journal.isApart_of_announced he) (fun _ id he hid => (h id hid).received he)
  cases hsequence : s.session.sequence with
  | none => exact Journal.isApart_identify (hsequence ▸ hfits id hid)
  | some n =>
    -- No number of the session has come since a new one was requested, and this one has.
    rw [Session.handshake_of_id hid, hsequence] at hsent
    exact Journal.isApart_resume n fun hmem => (h id hid hmem).2 n (hown c _ hsent)

theorem isApart_run (h : s.Bears (fun j id _ => j.IsApart id) j)
    (hfits : s.Bears Journal.Fits j) (bus : Bus Listener) (ops : List Operation)
    (hown : ∀ j' r, s.Resumes bus ops j' r → Journal.IsOwn (j' ++ j) r.sessionId r.seq) :
    (s.run bus ops).2.Bears (fun j id _ => j.IsApart id) (s.journal bus ops ++ j) := by
  induction ops generalizing s j with
  | nil => exact h
  | cons op rest ih =>
    rw [journal, List.append_assoc]
    refine ih (isApart_perform h hfits bus op fun c r hsent => ?_) (fits_perform hfits bus op)
      fun j' r hr => ?_
    · exact hown [] r ⟨[], op, rest, c, rfl, rfl, hsent⟩
    · obtain ⟨before, op', after, c, rfl, rfl, hsent⟩ := hr
      rw [← List.append_assoc]
      exact hown _ r ⟨op :: before, op', after, c, rfl, rfl, hsent⟩

/-! ## Requests to continue a session -/

/-- What a new shard requests to continue fits the journal. -/
theorem Resumes.fits {index : Nat} {config : ShardConfig} {ops : List Operation} {r : Resume}
    (h : (new index config).Resumes bus ops j r) : j.Fits r.sessionId (some r.seq) := by
  obtain ⟨before, op, after, c, rfl, rfl, hsent⟩ := h
  obtain ⟨hid, hsequence⟩ := Session.handshake_eq_resume (resume_of_mem_sent hsent).1
  have hfits := fits_run (s := new index config) (j := []) nofun bus before _ hid
  rwa [hsequence, List.append_nil] at hfits

/-- If no new session was requested since the last one was announced, then that is continued
    with a number of its own. -/
theorem Resumes.isOwn {index : Nat} {config : ShardConfig} {ops : List Operation} {r : Resume}
    (h : (new index config).Resumes bus ops j r) (hidentify : .opened .identify ∉ j.sinceReady) :
    j.IsOwn r.sessionId r.seq := by
  obtain ⟨seen, hseen⟩ := h.fits.source r.seq rfl
  exact (Journal.isOwn_of_not_mem h.fits.announced h.fits.connections hidentify).2 r.seq seen hseen

theorem journal_append (s : Shard) (bus : Bus Listener) (ops ops' : List Operation) :
    s.journal bus (ops ++ ops') = (s.run bus ops).2.journal bus ops' ++ s.journal bus ops := by
  induction ops generalizing s with
  | nil => exact (List.append_nil _).symm
  | cons op rest ih =>
    rw [List.cons_append, journal, ih, journal, List.append_assoc]
    rfl

/-- Where every announcement of a session carries a number, every session is continued with a
    number of its own. -/
theorem isOwn_of_isNumbered {index : Nat} {config : ShardConfig} {ops : List Operation}
    (hnumbered : ((new index config).journal bus ops).IsNumbered) {r : Resume}
    (h : (new index config).Resumes bus ops j r) : j.IsOwn r.sessionId r.seq := by
  refine h.isOwn (h.fits.continued fun e he => hnumbered e ?_)
  obtain ⟨before, op, after, c, rfl, rfl, -⟩ := h
  rw [journal_append]
  exact List.mem_append_right _ he

/-- The sessions of a run. Whenever a shard requests to continue a session, that is the one
    announced last, the number has come since it was announced or with the announcement, and
    the connections since then have continued it or requested a new one. The numbers all have
    come on connections of their session exactly if no session is continued after a new one
    was requested. -/
theorem isOwn_iff (index : Nat) (config : ShardConfig) (bus : Bus Listener)
    (ops : List Operation) :
    (∀ j r, (new index config).Resumes bus ops j r →
      j.announced? = some r.sessionId ∧ (∃ seen, j.IsSource r.seq seen) ∧
        ∀ handshake, .opened handshake ∈ j.sinceReady →
          handshake = .identify ∨ ∃ n, handshake = .resume r.sessionId n) ∧
    ((∀ j r, (new index config).Resumes bus ops j r → j.IsOwn r.sessionId r.seq) ↔
      ∀ j r, (new index config).Resumes bus ops j r → .opened .identify ∉ j.sinceReady) := by
  refine ⟨fun j r hr => ⟨hr.fits.announced, hr.fits.source r.seq rfl, hr.fits.connections⟩,
    fun hown j r hr hmem => ?_, fun hidentify j r hr => hr.isOwn (hidentify j r hr)⟩
  have hnumber := hown j r hr
  obtain ⟨before, op, after, c, rfl, rfl, hsent⟩ := hr
  have hbefore : ∀ j' r', (new index config).Resumes bus before j' r' →
      Journal.IsOwn (j' ++ []) r'.sessionId r'.seq := by
    rintro j' r' ⟨before', op', after', c', rfl, rfl, hsent'⟩
    rw [List.append_nil]
    exact hown _ r' ⟨before', op', after' ++ op :: after, c', by simp, rfl, hsent'⟩
  have hapart := isApart_run (s := new index config) nofun nofun bus before hbefore
    r.sessionId (Session.handshake_eq_resume (resume_of_mem_sent hsent).1).1
  rw [List.append_nil] at hapart
  exact (hapart hmem).2 r.seq hnumber

end Shard

/-! ## A number of another session -/

namespace Envelope

/-- An event that announces a session, without a number. -/
def numberless : Envelope := ⟨.dispatch, some "READY", none, .object [("session_id", .string "a")]⟩

/-- Its text. -/
def numberlessText : List Char :=
  ['[', '0', ',', '"', 'R', 'E', 'A', 'D', 'Y', '"', ',', 'n', 'u', 'l', 'l', ',', '{', '"', 's',
    'e', 's', 's', 'i', 'o', 'n', '_', 'i', 'd', '"', ':', '"', 'a', '"', '}', ']']

theorem read_numberless : read (String.ofList numberlessText) = .ok numberless := by
  have hread : Json.Outline.read (String.ofList numberlessText) =
      ⟨.byPosition [.number (some (.int 0)), .string (some "READY"), .null,
        .object [(some "session_id", .string (some "a"))]], true⟩ := by
    rw [Json.Outline.read, String.toList_ofList]
    rfl
  rw [read, hread]
  rfl

theorem announced?_numberless : numberless.announced? = some "a" := rfl

theorem announced?_numbered : numbered.announced? = none := rfl

end Envelope

namespace Shard

/-- The first connection is lost when a session was announced without a number, the second one
    when a number has come and no session was announced. Then the shard connects again. -/
def mixed : List Operation :=
  [.connect ⟨some 0, .brief, .ok (), true⟩,
    .inbound (.text (String.ofList Envelope.numberlessText)) 0, .inbound .lost 0,
    .connect ⟨some 1, .brief, .ok (), true⟩,
    .inbound (.text (String.ofList Envelope.numberedText)) 0, .inbound .lost 0,
    .connect ⟨some 2, .brief, .ok (), true⟩]

/-- It continues the session that was announced on the first connection, with the number that
    came on the second one, on which it had requested a new session. -/
theorem resumes_mixed :
    let j : Journal := [.received .numbered, .opened .identify, .received .numberless,
      .opened .identify]
    let r : Resume := ⟨({} : ShardConfig).token, "a", 5⟩
    (new 0 {}).Resumes (.empty : Bus Unit) mixed j r ∧ ¬ j.IsOwn r.sessionId r.seq := by
  refine ⟨⟨mixed.take 6, .connect ⟨some 2, .brief, .ok (), true⟩, [], 2, rfl, ?_, ?_⟩, ?_⟩
  · simp only [mixed, List.take, journal, Operation.entries, perform, connect, openSession,
      Greeting.interval_brief, read, handle, Envelope.read_numberless, Envelope.read_numbered]
    rfl
  · simp only [mixed, List.take, run, perform, connect, openSession, Greeting.interval_brief, read,
      handle, Envelope.read_numberless, Envelope.read_numbered]
    exact List.mem_singleton.2 rfl
  · -- The number has come once, and then the connection was of no session yet.
    rintro ⟨seen, hseen, -, hsession⟩
    simp only [Journal.isSource_received, Journal.isSource_opened, Envelope.announced?_numberless,
      Envelope.announced?_numbered] at hseen
    rcases hseen with ⟨-, rfl⟩ | ⟨-, ⟨hnumber, -⟩ | ⟨hnothing, -⟩⟩
    · cases hsession
    · cases hnumber
    · cases hnothing

end Shard

end GatewayClient
