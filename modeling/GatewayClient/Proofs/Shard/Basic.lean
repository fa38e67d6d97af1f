import GatewayClient.Shard.Operation

/-!
# What the operations of a shard do

One lemma for each operation that has several outcomes, and what none of them
changes: which shard it is and how it is configured.

* `Shard.lose_of_eq`, `Shard.lose_of_ne`: a loss is news to the connection's own
  generation only.
* `Shard.exists_handle`: a text changes nothing but the session and the heartbeats.
* `Shard.identity_run`: all operations keep the identity of a shard.
-/

namespace GatewayClient

namespace Shard

variable {Listener : Type} {s : Shard} {bus : Bus Listener} {generation : Nat}

/-- A loss that a task of the shard's generation notices tears down the connection. -/
theorem lose_of_eq (h : s.generation = generation) (code : Option Nat) :
    s.lose generation code =
      (⟨true, s.wantsReconnect && !code.any CloseCode.codeIsFatal⟩,
        (s.bump.voidSession code).teardown CloseCode.resumable) := by
  cases code <;> simp [lose, bumpFrom, h, voidSession, teardown, wantsReconnect, bump]

/-- To any other task it is no news. -/
theorem lose_of_ne (h : s.generation ≠ generation) (code : Option Nat) :
    s.lose generation code = (⟨false, false⟩, s, []) := by
  simp [lose, bumpFrom, h]

/-- A frame changes nothing but the session and the heartbeats. -/
theorem exists_act (s : Shard) (bus : Bus Listener) (sequence : Option Nat) (frame : Frame)
    (now : Instant) : ∃ session heartbeat,
      (s.act bus sequence frame now).2.1 = { s with session, heartbeat } := by
  cases frame with
  | dispatch name data =>
    simp only [act, dispatch]
    split
    · exact ⟨_, _, rfl⟩
    · simp only [afterEvent]
      split
      · split
        · exact ⟨_, _, rfl⟩
        · exact ⟨_, _, rfl⟩
      · exact ⟨_, _, rfl⟩
  | hello h =>
    simp only [act]
    split
    · exact ⟨_, _, rfl⟩
    · exact ⟨_, _, rfl⟩
  | invalidSession resumable =>
    cases resumable with
    | true => exact ⟨_, _, rfl⟩
    | false => exact ⟨_, _, rfl⟩
  | _ => exact ⟨_, _, rfl⟩

/-- So does a text. -/
theorem exists_handle (s : Shard) (bus : Bus Listener) (text : String) (now : Instant) :
    ∃ session heartbeat, (s.handle bus text now).shard = { s with session, heartbeat } := by
  have hrecord : ∀ sequence, ∃ session, s.recordSequence sequence = { s with session } := by
    intro sequence
    cases sequence with
    | none => exact ⟨_, rfl⟩
    | some n => exact ⟨_, rfl⟩
  simp only [handle]
  split
  · exact ⟨_, _, rfl⟩
  · rename_i e _
    obtain ⟨session, hsession⟩ := hrecord e.sequence
    rw [hsession]
    split
    · exact ⟨_, _, rfl⟩
    · exact exists_act _ _ _ _ _

/-! ## The identity of a shard -/

/-- Which shard it is and how it is configured. -/
def identity (s : Shard) : Nat × ShardConfig := (s.index, s.config)

theorem identity_lose (s : Shard) (generation : Nat) (code : Option Nat) :
    (s.lose generation code).2.1.identity = s.identity := by
  by_cases h : s.generation = generation
  · rw [lose_of_eq h]
    cases code with
    | none => rfl
    | some code => rfl
  · rw [lose_of_ne h]

theorem identity_handle (s : Shard) (bus : Bus Listener) (text : String) (now : Instant) :
    (s.handle bus text now).shard.identity = s.identity := by
  obtain ⟨session, heartbeat, h⟩ := s.exists_handle bus text now
  rw [h]
  rfl

theorem identity_read (s : Shard) (bus : Bus Listener) (generation : Nat) (i : Inbound)
    (now : Instant) : (s.read bus generation i now).shard.identity = s.identity := by
  cases i with
  | text text =>
    simp only [read]
    split
    · exact (identity_lose _ _ _).trans (identity_handle _ _ _ _)
    · exact identity_handle _ _ _ _
    · exact identity_handle _ _ _ _
  | other => rfl
  | closed code => exact identity_lose _ _ _
  | lost => exact identity_lose _ _ _

theorem identity_beat (s : Shard) (generation : Nat) (isDelivered : Bool) (now : Instant) :
    (s.beat generation isDelivered now).shard.identity = s.identity := by
  simp only [beat]
  split
  · rfl
  · split
    · split
      · rfl
      · exact identity_lose _ _ _
    · exact identity_lose _ _ _

theorem identity_prepare (s : Shard) : s.prepare.1.identity = s.identity := by
  simp only [prepare]
  split <;> rfl

theorem identity_connect (s : Shard) (a : Attempt) : (s.connect a).shard.identity = s.identity := by
  simp only [connect]
  split
  · exact s.identity_prepare
  · exact s.identity_prepare

/-- No operation changes the identity of a shard. -/
theorem identity_perform (s : Shard) (bus : Bus Listener) (op : Operation) :
    (s.perform bus op).shard.identity = s.identity := by
  cases op with
  | connect a => exact s.identity_connect a
  | kill => rfl
  | shutdown => rfl
  | inbound i now =>
    simp only [perform]
    split
    · exact s.identity_read bus _ i now
    · rfl
  | beat isDelivered now =>
    simp only [perform]
    split
    · exact s.identity_beat _ isDelivered now
    · rfl
  | updatePresence p isDelivered =>
    simp only [perform]
    split
    · rfl
    · rfl

theorem identity_run (s : Shard) (bus : Bus Listener) (ops : List Operation) :
    (s.run bus ops).2.identity = s.identity := by
  induction ops generalizing s with
  | nil => rfl
  | cons op rest ih => exact (ih _).trans (s.identity_perform bus op)

end Shard

end GatewayClient
