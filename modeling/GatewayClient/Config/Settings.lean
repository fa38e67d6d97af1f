/-!
# Settings

What a client is configured with: who it is, where the gateway and the API are,
and how it keeps to their limits. Each group has defaults for all that has a
sensible one.
-/

namespace GatewayClient

/-- Where a client runs. -/
inductive Environment where
  | development
  | staging
  | production
  deriving DecidableEq, Repr

namespace Environment

/-- All environments. -/
def all : List Environment := [development, staging, production]

/-- The name of an environment. -/
def name : Environment → String
  | development => "development"
  | staging => "staging"
  | production => "production"

/-- The environment with a name. -/
def ofName? (s : String) : Option Environment := all.find? fun e => e.name = s

/-- Whether real users are served. -/
def isProduction (e : Environment) : Bool := e = production

/-- Whether the client is being worked on. -/
def isDevelopment (e : Environment) : Bool := e = development

end Environment

/-- Where the rate limiter keeps its accounts. -/
inductive Backend where
  /-- In the client's own memory. -/
  | memory
  /-- On a server that several clients share. -/
  | redis
  deriving DecidableEq, Repr

namespace Backend

/-- All backends. -/
def all : List Backend := [memory, redis]

/-- The name of a backend. -/
def name : Backend → String
  | memory => "memory"
  | redis => "redis"

/-- The backend with a name. -/
def ofName? (s : String) : Option Backend := all.find? fun b => b.name = s

end Backend

/-- Who the client is. -/
structure AppSettings where
  name : String := "chat-client"
  environment : Environment := .development
  /-- What the client proves its identity with. -/
  token : String
  deriving DecidableEq, Repr

/-- How to talk to the gateway. -/
structure GatewaySettings where
  url : String
  shardCount : Nat := 1
  /-- The number of members above which offline ones are not sent. -/
  largeThreshold : Nat := 250
  /-- Which events to receive. -/
  intents : Nat := 0
  compress : Bool := false
  deriving DecidableEq, Repr

/-- How to talk to the API. -/
structure RestSettings where
  baseUrl : String := "http://127.0.0.1:8080/api/v10"
  timeoutMs : Nat := 5000
  deriving DecidableEq, Repr

/-- How to keep to the limits. -/
structure RateLimitSettings where
  backend : Backend := .memory
  identifyCooldownMs : Nat := 6000
  identifyConcurrency : Nat := 1
  maxAttempts : Nat := 64
  deriving DecidableEq, Repr

/-- Where the shared accounts are. -/
structure RedisSettings where
  url : String
  maxConnections : Nat := 10
  deriving DecidableEq, Repr

/-- All settings of a client. -/
structure Settings where
  app : AppSettings
  gateway : GatewaySettings
  rest : RestSettings
  rateLimit : RateLimitSettings
  redis : Option RedisSettings
  deriving DecidableEq, Repr

end GatewayClient
