import GatewayClient.Shard.Attempt

/-!
# Attempts at a limiter

A shard shares its limiter with others, and a wait for a handshake slot changes the
limiter's accounts. An attempt comes to that wait only when the gateway has greeted and the
shard has no session to resume.

* `Shard.connectAt`: an attempt that leaves the wait to a limiter.
* `Shard.connectAt_fst`, `Shard.connectAt_snd`: it is `Shard.connect` with the answer of
  the wait, and it waits once or not at all.
-/

namespace GatewayClient

/-- A wait for a handshake slot, at a limiter with the accounts `σ`. -/
abbrev SlotWait (σ : Type) := StateM σ (Except RateLimitError Unit)

namespace Shard

variable {σ : Type}

/-- The part of an attempt before the connection becomes the shard's, with the wait for a
    handshake slot where the shard comes to it. -/
def openSessionAt (wait : SlotWait σ) (s : Shard) (a : Attempt) :
    ExceptT ShardError (StateM σ) (Connection × Duration × Envelope) := do
  let c ← match a.connection with
    | some c => pure c
    | none => throw .connect
  let interval ← match a.greeting.interval with
    | .ok interval => pure interval
    | .error reason => throw reason
  let handshake := s.session.handshake
  if handshake = .identify then
    match ← wait with
    | .ok () => pure ()
    | .error reason => throw (.rateLimit reason)
  if a.isDelivered then return (c, interval, s.opening handshake) else throw .socket

/-- An attempt to connect at a limiter, and the accounts that it leaves. -/
def connectAt (wait : SlotWait σ) (s : Shard) (a : Attempt) (accounts : σ) : Attempted × σ :=
  let (s, sent) := s.prepare
  match (s.openSessionAt wait a).run.run accounts with
  | (.ok (c, interval, e), accounts) =>
    (⟨.ok (), s.establish c interval, s.target, sent ++ [(c, .message e)]⟩, accounts)
  | (.error reason, accounts) => (⟨.error reason, s.setState .dead, s.target, sent⟩, accounts)

/-- Whether an attempt comes to the wait for a handshake slot. -/
def awaitsSlot (s : Shard) (a : Attempt) : Bool :=
  a.connection.isSome && a.greeting.interval.toBool && s.session.handshake = .identify

/-- What follows a wait sees its answer and the accounts that it left. -/
theorem run_wait_bind {α : Type} (wait : SlotWait σ)
    (next : Except RateLimitError Unit → ExceptT ShardError (StateM σ) α) (accounts : σ) :
    (do next (← wait) : ExceptT ShardError (StateM σ) α).run.run accounts =
      (next (wait.run accounts).1).run.run (wait.run accounts).2 := rfl

theorem run_openSessionAt (wait : SlotWait σ) (s : Shard) (a : Attempt) (accounts : σ) :
    (s.openSessionAt wait a).run.run accounts =
      (s.openSession { a with slot := (wait.run accounts).1 },
        if s.awaitsSlot a then (wait.run accounts).2 else accounts) := by
  obtain ⟨connection, greeting, slot, isDelivered⟩ := a
  unfold openSessionAt openSession awaitsSlot
  cases connection with
  | none => rfl
  | some c =>
    simp only
    cases greeting.interval with
    | error reason => rfl
    | ok interval =>
      by_cases hs : s.session.handshake = .identify
      · simp only [hs, if_true, pure_bind, run_wait_bind]
        cases (wait.run accounts).1 with
        | error reason => rfl
        | ok _ => cases isDelivered <;> rfl
      · simp only [hs, if_false]
        cases isDelivered <;> rfl

/-- An attempt at a limiter is an attempt with the answer of the wait. -/
theorem connectAt_fst (wait : SlotWait σ) (s : Shard) (a : Attempt) (accounts : σ) :
    (s.connectAt wait a accounts).1 = s.connect { a with slot := (wait.run accounts).1 } := by
  simp only [connectAt, connect, run_openSessionAt]
  cases s.prepare.1.openSession { a with slot := (wait.run accounts).1 } <;> rfl

/-- It waits once, if it comes to that, and changes the accounts in no other way. -/
theorem connectAt_snd (wait : SlotWait σ) (s : Shard) (a : Attempt) (accounts : σ) :
    (s.connectAt wait a accounts).2 =
      if s.prepare.1.awaitsSlot a then (wait.run accounts).2 else accounts := by
  simp only [connectAt, run_openSessionAt]
  cases s.prepare.1.openSession { a with slot := (wait.run accounts).1 } <;> rfl

end Shard

end GatewayClient
