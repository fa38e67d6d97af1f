import GatewayClient.RateLimit.Caller
import GatewayClient.RateLimit.Traffic

/-!
# Handshakes

Shards that wait for their handshake slots at the same time. A shard tries to take
its slot when it comes, and again whenever the wait is over that it was given. Its
turn is that of `Limiter.identifyTurn`, which nobody interrupts; a wait ends exactly
when it should, so no time passes while a turn is due, and the turns that are due at
the same instant are taken in any order. Others may use the store as well, but take
no handshake slots.

* `Handshakes.step`: one step of the whole, as a `SlotMove` chooses it.
* `LimiterConfig.slotOf`: which slot a shard shares.
* `Handshakes.grants`: who was given a slot so far.
* `Handshakes.freeAt`: when a slot is free.
-/

namespace GatewayClient

/-- A shard that waits for its handshake slot. -/
structure SlotWaiter where
  shard : Nat
  /-- When it tries to take the slot next. -/
  wake : Instant
  deriving DecidableEq, Repr

/-- How the wait of a shard has ended. -/
structure SlotAnswer where
  shard : Nat
  time : Instant
  result : Except StoreError Unit

/-- A limiter on the accounts `σ` with the shards that wait for their slots. -/
structure Handshakes (σ : Type) where
  accounts : σ
  now : Instant
  waiters : List SlotWaiter
  /-- How the waits have ended so far, in this order. -/
  answers : List SlotAnswer

/-- What happens next. -/
inductive SlotMove where
  /-- A shard comes. -/
  | arrive (shard : Nat)
  /-- A shard whose wait is over takes its turn. -/
  | turn (waiter : Nat)
  /-- Someone else uses the store. -/
  | perform (call : StoreCall)
  /-- Time passes. -/
  | advance (d : Duration)
  deriving DecidableEq, Repr

/-- The shard that comes with a move. -/
def SlotMove.comer? : SlotMove → Option Nat
  | arrive shard => some shard
  | _ => none

/-- Whether a move is a turn. -/
def SlotMove.isTurn : SlotMove → Bool
  | turn _ => true
  | _ => false

/-- Whether an operation is about a handshake slot. -/
def StoreCall.isTrySlot : StoreCall → Bool
  | trySlot _ _ => true
  | _ => false

/-- The handshake slot of a shard: its index modulo the number of slots, of which there
    is at least one. -/
def LimiterConfig.slotOf (config : LimiterConfig) (shard : Nat) : Nat :=
  shard % max config.identifyConcurrency 1

namespace Handshakes

variable {σ : Type} (l : Limiter σ)

/-- What is left of a shard's wait after a turn, and how it has ended if it has. -/
def ofTurn (shard : Nat) (now : Instant) :
    Turn Nat (Except StoreError Unit) → List SlotWaiter × List SlotAnswer
  | .done result => ([], [⟨shard, now, result⟩])
  | .sleep shard d => ([⟨shard, now + d⟩], [])

/-- A turn of the waiter at a place. -/
def turn (y : Handshakes σ) (i : Nat) (w : SlotWaiter) : Handshakes σ :=
  let (turn, accounts) := l.identifyTurn w.shard y.now y.accounts
  let (waiters, answers) := ofTurn w.shard y.now turn
  { y with
    accounts
    waiters := y.waiters.take i ++ waiters ++ y.waiters.drop (i + 1)
    answers := y.answers ++ answers }

/-- One step of the whole, if the move is possible. -/
def step (y : Handshakes σ) : SlotMove → Option (Handshakes σ)
  | .arrive shard => some { y with waiters := y.waiters ++ [⟨shard, y.now⟩] }
  | .turn i => do
    let w ← y.waiters[i]?
    if w.wake ≤ y.now then some (y.turn l i w) else none
  | .perform call =>
    if call.isTrySlot then none
    else some { y with accounts := ((l.store.perform call).runAt y.now y.accounts).2 }
  | .advance d =>
    if ∀ w ∈ y.waiters, y.now + d ≤ w.wake then some { y with now := y.now + d } else none

/-- Several steps, if each move is possible. -/
def run (y : Handshakes σ) : List SlotMove → Option (Handshakes σ)
  | [] => some y
  | m :: rest => (y.step l m).bind fun y => y.run rest

/-- The waits for a slot that have ended with the slot, in this order. -/
def grants (config : LimiterConfig) (y : Handshakes σ) (slot : Nat) : List SlotAnswer :=
  y.answers.filter fun a => config.slotOf a.shard = slot ∧ a.result.toBool

/-- The shards that wait for a slot. -/
def waiting (config : LimiterConfig) (y : Handshakes σ) (slot : Nat) : List Nat :=
  (y.waiters.filter fun w => config.slotOf w.shard = slot).map SlotWaiter.shard

/-- When a slot is free, if nobody takes it. -/
def freeAt (y : Handshakes MemoryAccounts) (slot : Nat) : Instant :=
  max y.now ((y.accounts.slots.get? slot).getD 0)

end Handshakes

end GatewayClient
