import GatewayClient.Event.Bus
import GatewayClient.Shard.Basic

/-!
# Managers

A manager has all shards of a client and the bus that they share. Each guild
belongs to one shard, which its number decides.
-/

namespace GatewayClient

/-- All shards of a client. -/
structure Manager (Listener : Type) where
  /-- The shards, by index. -/
  shards : List Shard
  /-- Who hears of their events. -/
  bus : Bus Listener

/-- The index of the shard that a guild belongs to, of so many shards: the part of
    its number that tells when it was made decides. -/
def shardOfGuild (guild count : Nat) : Nat := (guild >>> 22) % max count 1

namespace Manager

variable {Listener : Type}

/-- A manager whose shards have never had a connection. There is at least one. -/
def new (config : ShardConfig) : Manager Listener :=
  let count := max config.shardCount 1
  let config := { config with shardCount := count }
  ⟨(List.range count).map fun index => Shard.new index config, .empty⟩

/-- The number of shards. -/
def count (m : Manager Listener) : Nat := m.shards.length

/-- The shard with an index. -/
def shard? (m : Manager Listener) (index : Nat) : Option Shard := m.shards[index]?

/-- The shard that a guild belongs to. -/
def forGuild (m : Manager Listener) (guild : Nat) : Option Shard :=
  m.shard? (shardOfGuild guild m.count)

/-- The manager with one more listener for all shards. -/
def register (m : Manager Listener) (kind : EventKind) (listener : Listener) : Manager Listener :=
  { m with bus := m.bus.register kind listener }

/-- How long the acknowledgements of the last heartbeats took. -/
def latencies (m : Manager Listener) : List (Nat × Option Duration) :=
  m.shards.map fun s => (s.index, s.heartbeat.latency)

/-- All shards are shut down: the manager after it, and what each shard sent. -/
def shutdown (m : Manager Listener) : Manager Listener × List (List (Connection × Sending)) :=
  ({ m with shards := m.shards.map fun s => s.shutdown.1 },
    m.shards.map fun s => s.shutdown.2)

end Manager

end GatewayClient
