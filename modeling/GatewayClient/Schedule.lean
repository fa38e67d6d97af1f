import GatewayClient.Time

/-!
# Schedules

Several tasks that share one state and sleep in between. The task that wakes
first has the next turn, and of those that wake at the same instant the one that
fell asleep first; a turn takes no time, and a sleep ends exactly when it should.
-/

namespace GatewayClient

/-- What a task does in a turn. -/
inductive Turn (τ ρ : Type) where
  /-- It ends with a result. -/
  | done (result : ρ)
  /-- It sleeps, and goes on as another task. -/
  | sleep (task : τ) (d : Duration)

namespace Schedule

variable {σ τ ρ : Type}

/-- The sleepers with one more, behind those that wake no later. -/
def enqueue (wake : Instant) (task : τ) : List (Instant × τ) → List (Instant × τ)
  | [] => [(wake, task)]
  | (w, t) :: rest =>
    if wake < w then (wake, task) :: (w, t) :: rest else (w, t) :: enqueue wake task rest

/-- Gives the sleepers up to `turns` turns. The answer has the results of the tasks
    that have ended, each with its time, the state after them, and the sleepers
    that are left. -/
def run (turn : τ → Instant → σ → Turn τ ρ × σ) :
    Nat → List (Instant × τ) → σ → List (Instant × ρ) × σ × List (Instant × τ)
  | 0, sleepers, s => ([], s, sleepers)
  | _ + 1, [], s => ([], s, [])
  | turns + 1, (now, task) :: rest, s =>
    match turn task now s with
    | (.done r, s) =>
      let (results, s, left) := run turn turns rest s
      ((now, r) :: results, s, left)
    | (.sleep task d, s) => run turn turns (enqueue (now + d) task rest) s

end Schedule

end GatewayClient
