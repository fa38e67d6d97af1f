import GatewayClient.Proofs.Shard.Step

/-!
# What the steps of tasks do

Most steps of a task change little of a shard. What each of them can do to the flag
that says that the shard was shut down, to the state, and to the set of attempts is
said once here, for all tasks.

* `Task.isAttempt`: the tasks that may still establish a connection.
* `Task.Effect`, `Task.Goes.effect`: what a step can do.
-/

namespace GatewayClient

/-- Whether a message opens or resumes a session. -/
def Envelope.isHandshake (e : Envelope) : Bool := e.op = .identify || e.op = .resume

/-- Whether a message that opens or resumes a session was sent. -/
def Note.isHandshake {Listener : Type} : Note Listener → Bool
  | .sent _ (.message e) => e.isHandshake
  | _ => false

namespace Task

variable {Listener : Type}

/-- Whether a task is an attempt to connect, from its first access to the shard until
    its connection is established or it has failed. A loop that is about to try again
    is none yet. -/
def isAttempt : Task → Bool
  | .connecting _ (.launch _ _) | .connecting _ .fail => false
  | .connecting _ _ => true
  | .tearingDown _ _ (.attempt _) => true
  | _ => false

/-- Whether a task is a shutdown that has begun. -/
def isShutdown : Task → Bool
  | .shuttingDown .mark => false
  | .shuttingDown _ => true
  | .tearingDown code _ _ => code = CloseCode.normal.code
  | _ => false

/-- What a step of a task can do. -/
structure Effect (s : Shard) (t : Task) (r : Step Listener) : Prop where
  /-- A shard that was shut down stays so. -/
  isShutDown : s.isShutDown → r.shard.isShutDown
  /-- Only an attempt makes the shard connected. -/
  connected : r.shard.state = .connected → s.state = .connected ∨ t.isAttempt
  /-- Only an attempt sends a message that opens or resumes a session. -/
  handshake : ∀ n ∈ r.notes, n.isHandshake → t.isAttempt
  /-- An attempt goes on, or is begun by a loop, which looks at the flag first. -/
  attempt : ∀ t' ∈ r.tasks, t'.isAttempt → t.isAttempt ∨ s.isShutDown = false
  /-- A shutdown goes on, or begins by setting the flag. -/
  shutdown : ∀ t' ∈ r.tasks, t'.isShutdown → t.isShutdown ∨ r.shard.isShutDown

/-- A step that leaves the flag alone, and neither makes the shard connected nor begins
    an attempt or a shutdown. -/
theorem Effect.of_quiet {s s' : Shard} {t : Task} {tasks : List Task} {stopped : Option Connection}
    {notes : List (Note Listener)} (hshut : s'.isShutDown = s.isShutDown)
    (hstate : s'.state = .connected → s.state = .connected)
    (hnotes : ∀ n ∈ notes, n.isHandshake → t.isAttempt)
    (htasks : ∀ t' ∈ tasks, (t'.isAttempt → t.isAttempt) ∧ (t'.isShutdown → t.isShutdown)) :
    Effect s t ⟨s', tasks, stopped, notes⟩ where
  isShutDown h := hshut.trans h
  connected h := .inl (hstate h)
  handshake := hnotes
  attempt t' ht' h := .inl ((htasks t' ht').1 h)
  shutdown t' ht' h := .inl ((htasks t' ht').2 h)

/-- A step of an attempt that leaves the flag alone and begins no shutdown. -/
theorem Effect.of_isAttempt {s s' : Shard} {t : Task} {tasks : List Task}
    {stopped : Option Connection} {notes : List (Note Listener)} (ht : t.isAttempt)
    (hshut : s'.isShutDown = s.isShutDown) (htasks : ∀ t' ∈ tasks, t'.isShutdown = false) :
    Effect s t ⟨s', tasks, stopped, notes⟩ where
  isShutDown h := hshut.trans h
  connected _ := .inr ht
  handshake _ _ _ := ht
  attempt _ _ _ := .inl ht
  shutdown t' ht' h := absurd h (by simp [htasks t' ht'])

/-- The step lemma: whichever way a task goes on, it does no more than that. -/
theorem Goes.effect {s : Shard} {fresh : Connection} {now : Instant} {input : Input} {t : Task}
    {r : Step Listener} (h : t.Goes s fresh now input r) : Effect s t r := by
  cases h with
  | markShutDown =>
    -- The one step that sets the flag.
    exact ⟨fun _ => rfl, .inl, by simp, by simp [isAttempt], fun _ _ _ => .inr rfl⟩
  | retry failures hshut =>
    -- The one step that begins an attempt, having looked at the flag.
    exact ⟨id, .inl, by simp, fun _ _ _ => .inr hshut, by simp [isShutdown]⟩
  | failing by' point hpoint =>
    have hattempt : (connecting by' point).isAttempt := by
      rcases hpoint with rfl | ⟨c, rfl⟩ | ⟨c, interval, rfl⟩ | ⟨c, interval, e, rfl⟩ <;> rfl
    exact .of_isAttempt hattempt rfl (by simp [isShutdown])
  | start | startOver | replace | markConnecting | dial | greet | identify | resume | slot | deliver
  | number | installStop | resetHeartbeat | installSink | establish =>
    exact .of_isAttempt rfl rfl (by simp [isShutdown, CloseCode.resumable, CloseCode.code])
  | takeStop code next | takeSink code next | noSink code next =>
    exact .of_quiet rfl id (by simp) (by cases next <;> simp [isAttempt, isShutdown])
  | markDisconnecting code next =>
    refine .of_quiet ?_ ?_ (by simp) (by cases next <;> simp [isAttempt, isShutdown])
    · simp only [Shard.markDisconnecting]
      split <;> rfl
    · simp only [Shard.markDisconnecting]
      split
      · exact id
      · simp [Shard.setState]
  | close code c next isDelivered =>
    refine .of_quiet rfl id ?_ (by cases next <;> simp [isAttempt, isShutdown])
    cases isDelivered <;> simp [Note.isHandshake]
  | tornDown code next =>
    refine .of_quiet rfl (by simp [Shard.setState]) (by simp) ?_
    cases next <;> simp [after, isAttempt, isShutdown]
  | failApplication | failStarting | failBackground =>
    -- Whoever wanted the connection, the attempt itself is over.
    exact .of_quiet rfl (by simp [Shard.setState]) (by simp) (by simp [isAttempt, isShutdown])
  | void code =>
    refine .of_quiet ?_ ?_ (by simp) (by simp [isAttempt, isShutdown, CloseCode.resumable,
      CloseCode.code])
    · cases code <;> rfl
    · cases code <;> exact id
  | send =>
    exact .of_quiet rfl id (by simp [Note.isHandshake, Envelope.isHandshake, Envelope.heartbeat,
      Envelope.ofPayload]) (by simp [isAttempt, isShutdown])
  | _ =>
    exact .of_quiet rfl id (by simp [Note.isHandshake]) (by simp [isAttempt, isShutdown,
      CloseCode.resumable, CloseCode.code])

end Task

end GatewayClient
