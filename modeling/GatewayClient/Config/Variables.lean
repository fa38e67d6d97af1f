import GatewayClient.Config.Settings
import GatewayClient.Decimal.Natural
import GatewayClient.Table
import GatewayClient.Text.Blank
import GatewayClient.Text.Lower
import GatewayClient.Text.Utf8

/-!
# Settings from the environment

The variables of a process, and the settings that they give. A variable whose
value is not UTF-8 counts as absent. Numbers and the like are read without the
blanks around them; a value that cannot be read is reported as it stands.

* `Variables.settings`: the settings, or the first fault in the order in which
  they are looked up.
-/

namespace GatewayClient

/-- The variables of a process, with the bytes of their values. -/
abbrev Variables := Table String (List UInt8)

/-- Why variables give no settings. -/
inductive ConfigError where
  /-- A variable is absent. -/
  | missing (name : String)
  /-- A variable has a value that cannot be. -/
  | invalid (name value : String)
  deriving DecidableEq, Repr

/-- The reason for people. -/
def ConfigError.message : ConfigError → String
  | missing name => s!"Missing required environment variable: {name}"
  | invalid name value => s!"Invalid value for {name}: {value}"

/-- The environment that a variable names, without regard to case. -/
def Environment.ofText? (s : String) : Option Environment := ofName? (lowercased s)

/-- The backend that a variable names, without regard to case. -/
def Backend.ofText? (s : String) : Option Backend := ofName? (lowercased s)

/-- What is wrong with a text that names no backend. -/
def Backend.unknownText (s : String) : String :=
  "unknown rate limit backend `" ++ lowercased s ++ "`"

namespace Variables

/-- The text of a variable. -/
def text? (v : Variables) (name : String) : Option String := (v.get? name).bind Utf8.decode?

/-- The variables with a text for one that is absent. -/
def fill (v : Variables) (name value : String) : Variables :=
  if (v.text? name).isSome then v else v.insert name (Utf8.encode value)

/-- The text of a variable that must be there. -/
def required (v : Variables) (name : String) : Except ConfigError String :=
  match v.text? name with
  | some s => .ok s
  | none => .error (.missing name)

/-- What a variable says, or a default if it is absent. -/
def parsed {α : Type} (v : Variables) (name : String) (read : String → Option α) (default : α) :
    Except ConfigError α :=
  match v.text? name with
  | none => .ok default
  | some raw =>
    match read (trimmed raw) with
    | some a => .ok a
    | none => .error (.invalid name raw)

/-- A number in 32 bits. -/
def word32? (s : String) : Option Nat := Natural.ofText? (UInt32.size - 1) s.toList

/-- A number in 64 bits. -/
def word64? (s : String) : Option Nat := Natural.ofText? (UInt64.size - 1) s.toList

/-- A truth value. -/
def flag? (s : String) : Option Bool :=
  if s = "true" then some true else if s = "false" then some false else none

/-- A number that must not be zero. -/
def nonzero (name : String) (n : Nat) : Except ConfigError Unit :=
  if n = 0 then .error (.invalid name "0") else .ok ()

/-- How to keep to the limits. -/
def rateLimit (v : Variables) : Except ConfigError RateLimitSettings := do
  let backend ← v.parsed "RATE_LIMIT_BACKEND" Backend.ofText? .memory
  let identifyCooldownMs ← v.parsed "IDENTIFY_COOLDOWN_MS" word64? 6000
  let identifyConcurrency ← v.parsed "IDENTIFY_CONCURRENCY" word32? 1
  let maxAttempts ← v.parsed "RATE_LIMIT_MAX_ATTEMPTS" word32? 64
  nonzero "IDENTIFY_CONCURRENCY" identifyConcurrency
  return { backend, identifyCooldownMs, identifyConcurrency, maxAttempts }

/-- Where the shared accounts are. A backend that shares them needs an
    address. -/
def redis (v : Variables) (backend : Backend) : Except ConfigError (Option RedisSettings) :=
  match v.text? "REDIS_URL", backend with
  | some url, _ => do
    return some { url, maxConnections := ← v.parsed "REDIS_MAX_CONNECTIONS" word32? 10 }
  | none, .redis => .error (.missing "REDIS_URL")
  | none, .memory => .ok none

/-- The settings that the variables give. -/
def settings (v : Variables) : Except ConfigError Settings := do
  let rateLimit ← v.rateLimit
  let redis ← v.redis rateLimit.backend
  let shardCount ← v.parsed "SHARD_COUNT" word32? 1
  nonzero "SHARD_COUNT" shardCount
  let token ← v.required "BOT_TOKEN"
  let url ← v.required "GATEWAY_URL"
  let largeThreshold ← v.parsed "GATEWAY_LARGE_THRESHOLD" word32? 250
  let intents ← v.parsed "GATEWAY_INTENTS" word64? 0
  let compress ← v.parsed "GATEWAY_COMPRESS" flag? false
  let timeoutMs ← v.parsed "API_TIMEOUT_MS" word64? 5000
  return {
    app := {
      name := (v.text? "APP_NAME").getD "chat-client"
      environment := ((v.text? "APP_ENV").bind Environment.ofText?).getD .development
      token }
    gateway := { url, shardCount, largeThreshold, intents, compress }
    rest := {
      baseUrl := (v.text? "API_BASE_URL").getD "http://127.0.0.1:8080/api/v10"
      timeoutMs }
    rateLimit
    redis }

end Variables

end GatewayClient
