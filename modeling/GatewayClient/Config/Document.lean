import GatewayClient.Config.Settings
import GatewayClient.Json.Record

/-!
# Settings from a document

The settings written as JSON: one record of five, of which only the shared
accounts may be absent, with the defaults of each setting where it is left out.
-/

namespace GatewayClient

open Json

/-- One of several names, or an object whose only member has such a name and is
    `null`. -/
def nameOf? {α : Type} (read : String → Option α) : Tree → Option α
  | .string (some s) => read s
  | .object [(some name, .null)] => read name
  | _ => none

namespace AppSettings

/-- Who the client is. -/
def ofTree? (t : Tree) : Option AppSettings := do
  match ← t.fields ["name", "env", "token"] with
  | [name, environment, token] =>
    return {
      name := ← name.withDefault "chat-client" Tree.text?
      environment := ← environment.withDefault .development (nameOf? Environment.ofName?)
      token := ← token.required Tree.text? }
  | _ => none

end AppSettings

namespace GatewaySettings

/-- How to talk to the gateway. -/
def ofTree? (t : Tree) : Option GatewaySettings := do
  match ← t.fields ["url", "shard_count", "large_threshold", "intents", "compress"] with
  | [url, shardCount, largeThreshold, intents, compress] =>
    return {
      url := ← url.required Tree.text?
      shardCount := ← shardCount.withDefault 1 Tree.word32?
      largeThreshold := ← largeThreshold.withDefault 250 Tree.word32?
      intents := ← intents.withDefault 0 Tree.word64?
      compress := ← compress.withDefault false Tree.flag? }
  | _ => none

end GatewaySettings

namespace RestSettings

/-- How to talk to the API. -/
def ofTree? (t : Tree) : Option RestSettings := do
  match ← t.fields ["base_url", "timeout_ms"] with
  | [baseUrl, timeoutMs] =>
    return {
      baseUrl := ← baseUrl.withDefault "http://127.0.0.1:8080/api/v10" Tree.text?
      timeoutMs := ← timeoutMs.withDefault 5000 Tree.word64? }
  | _ => none

end RestSettings

namespace RateLimitSettings

/-- How to keep to the limits. -/
def ofTree? (t : Tree) : Option RateLimitSettings := do
  match ← t.fields ["backend", "identify_cooldown_ms", "identify_concurrency", "max_attempts"] with
  | [backend, identifyCooldownMs, identifyConcurrency, maxAttempts] =>
    return {
      backend := ← backend.withDefault .memory (nameOf? Backend.ofName?)
      identifyCooldownMs := ← identifyCooldownMs.withDefault 6000 Tree.word64?
      identifyConcurrency := ← identifyConcurrency.withDefault 1 Tree.word32?
      maxAttempts := ← maxAttempts.withDefault 64 Tree.word32? }
  | _ => none

end RateLimitSettings

namespace RedisSettings

/-- Where the shared accounts are. -/
def ofTree? (t : Tree) : Option RedisSettings := do
  match ← t.fields ["url", "max_connections"] with
  | [url, maxConnections] =>
    return {
      url := ← url.required Tree.text?
      maxConnections := ← maxConnections.withDefault 10 Tree.word32? }
  | _ => none

end RedisSettings

namespace Settings

/-- All settings of a client. -/
def ofTree? (t : Tree) : Option Settings := do
  match ← t.fields ["app", "gateway", "rest", "rate_limit", "redis"] with
  | [app, gateway, rest, rateLimit, redis] =>
    return {
      app := ← app.required AppSettings.ofTree?
      gateway := ← gateway.required GatewaySettings.ofTree?
      rest := ← rest.required RestSettings.ofTree?
      rateLimit := ← rateLimit.required RateLimitSettings.ofTree?
      redis := ← redis.optional RedisSettings.ofTree? }
  | _ => none

/-- The settings that a text writes. -/
def read? (text : String) : Option Settings := (Tree.parse text).bind ofTree?

end Settings

end GatewayClient
