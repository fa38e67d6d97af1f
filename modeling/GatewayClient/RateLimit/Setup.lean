import GatewayClient.Config.Settings
import GatewayClient.KeyValue.Address
import GatewayClient.RateLimit.Limiter

/-!
# Setting up a limiter

The settings say where the accounts are kept. A server that is to keep them is
asked for a sign of life before the first request, so that a wrong address is
found out at the start.
-/

namespace GatewayClient

/-- The configuration that the settings give. At least one slot and one attempt
    are there, whatever they say. -/
def LimiterConfig.ofSettings (s : RateLimitSettings) : LimiterConfig where
  identifyCooldown := Duration.ofMillis s.identifyCooldownMs
  identifyConcurrency := max s.identifyConcurrency 1
  maxAttempts := max s.maxAttempts 1

/-- Where the accounts of a limiter are. -/
inductive Accounting where
  /-- In the client's own memory. -/
  | own
  /-- On a server. -/
  | shared (address : ServerAddress)
  deriving DecidableEq, Repr

/-- Where the accounts are according to the settings. `ping` asks a server for a
    sign of life. -/
def RateLimitSettings.accounting (s : RateLimitSettings) (redis : Option RedisSettings)
    (ping : ServerAddress → Except StoreError Unit) : Except StoreError Accounting :=
  match s.backend, redis with
  | .memory, _ => .ok .own
  | .redis, none => .error .noAddress
  | .redis, some r =>
    match ServerAddress.ofText? r.url with
    | none => .error .badAddress
    | some address => do
      ping address
      return .shared address

end GatewayClient
