import GatewayClient.Config.Settings
import GatewayClient.Gateway.Payload
import GatewayClient.Time

/-!
# Configuration of shards

What all shards of a client have in common, and how long a shard waits between
two attempts to connect.
-/

namespace GatewayClient

/-- What all shards of a client have in common. -/
structure ShardConfig where
  /-- The address of the gateway. -/
  url : String := "ws://127.0.0.1:8081/?v=10&encoding=json"
  token : String := ""
  /-- The number of shards. -/
  shardCount : Nat := 1
  largeThreshold : Nat := 250
  intents : Nat := 0
  compress : Bool := false
  /-- What a shard says about the program it is. -/
  properties : Properties := .ofProgram "linux" "chat-shard"
  /-- The presence to start with. -/
  presence : Option Presence := none
  /-- How long the gateway may take to greet. -/
  helloTimeout : Duration := Duration.ofSeconds 20
  /-- Whether a lost connection is replaced. -/
  autoReconnect : Bool := true
  /-- The longest wait after a first failed attempt. -/
  backoffBase : Duration := Duration.ofSeconds 1
  /-- The longest wait after any failed attempt. -/
  backoffMax : Duration := Duration.ofSeconds 60
  deriving BEq, Repr

namespace ShardConfig

/-- The configuration that the settings of a client give. -/
def ofSettings (s : Settings) : ShardConfig where
  url := s.gateway.url
  token := s.app.token
  shardCount := max s.gateway.shardCount 1
  largeThreshold := s.gateway.largeThreshold
  intents := s.gateway.intents
  compress := s.gateway.compress
  properties := .ofProgram "linux" s.app.name

/-- The request of a shard for a new session. -/
def identify (c : ShardConfig) (index : Nat) : Identify where
  token := c.token
  properties := c.properties
  compress := c.compress
  largeThreshold := c.largeThreshold
  shard := (index, c.shardCount)
  presence := c.presence
  intents := c.intents

/-- The longest wait after a failed attempt that follows `failures` others. It
    doubles from one to the next up to a bound. -/
def longestWait (c : ShardConfig) (failures : Nat) : Duration :=
  min (c.backoffBase * Nat.pow 2 (min failures 16)) c.backoffMax

/-- Whether a wait after a failed attempt is allowed. Shards wait at random
    between half the longest time and the whole of it. -/
def isWait (c : ShardConfig) (failures : Nat) (d : Duration) : Bool :=
  c.longestWait failures ≤ 2 * d && d ≤ c.longestWait failures

end ShardConfig

end GatewayClient
