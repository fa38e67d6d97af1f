/-!
# Close codes

The number with which the gateway closes a connection decides two things: whether
the session survives, and whether connecting again can succeed at all. A number
without a meaning of its own keeps the session and may be retried.
-/

namespace GatewayClient

/-- A close code with a meaning. -/
inductive CloseCode where
  | normal
  | goingAway
  | unknownError
  | unknownOpcode
  | decodeError
  | notAuthenticated
  | authenticationFailed
  | alreadyAuthenticated
  | invalidSequence
  | rateLimited
  | sessionTimedOut
  | invalidShard
  | shardingRequired
  | invalidApiVersion
  | invalidIntents
  | disallowedIntents
  deriving DecidableEq, Repr

namespace CloseCode

/-- All close codes by ascending number. -/
def all : List CloseCode :=
  [normal, goingAway, unknownError, unknownOpcode, decodeError, notAuthenticated,
    authenticationFailed, alreadyAuthenticated, invalidSequence, rateLimited, sessionTimedOut,
    invalidShard, shardingRequired, invalidApiVersion, invalidIntents, disallowedIntents]

/-- The number of a close code. -/
def code : CloseCode → Nat
  | normal => 1000
  | goingAway => 1001
  | unknownError => 4000
  | unknownOpcode => 4001
  | decodeError => 4002
  | notAuthenticated => 4003
  | authenticationFailed => 4004
  | alreadyAuthenticated => 4005
  | invalidSequence => 4007
  | rateLimited => 4008
  | sessionTimedOut => 4009
  | invalidShard => 4010
  | shardingRequired => 4011
  | invalidApiVersion => 4012
  | invalidIntents => 4013
  | disallowedIntents => 4014

/-- The close code with a number. -/
def ofCode? (n : Nat) : Option CloseCode := all.find? fun c => c.code = n

/-- What a close code means, in words. -/
def description : CloseCode → String
  | normal => "Normal closure"
  | goingAway => "Going away"
  | unknownError => "Unknown error occurred"
  | unknownOpcode => "Invalid opcode sent"
  | decodeError => "Invalid payload encoding"
  | notAuthenticated => "Not authenticated"
  | authenticationFailed => "Authentication failed"
  | alreadyAuthenticated => "Already authenticated"
  | invalidSequence => "Invalid sequence number"
  | rateLimited => "Rate limited"
  | sessionTimedOut => "Session timed out"
  | invalidShard => "Invalid shard configuration"
  | shardingRequired => "Sharding required"
  | invalidApiVersion => "Invalid API version"
  | invalidIntents => "Invalid intents"
  | disallowedIntents => "Disallowed intents"

/-- Whether the session is void after this close. -/
def clearsSession : CloseCode → Bool
  | normal | goingAway | invalidSequence => true
  | _ => false

/-- Whether connecting again cannot succeed without another configuration. -/
def isFatal : CloseCode → Bool
  | authenticationFailed | invalidShard | shardingRequired | invalidApiVersion
  | invalidIntents | disallowedIntents => true
  | _ => false

/-- A close code by description and number. -/
def text (c : CloseCode) : String := s!"{c.description} ({c.code})"

/-- The number a client closes with when it means to resume the session. -/
def resumable : Nat := 4900

/-- Whether a close with this number voids the session. -/
def codeClears (n : Nat) : Bool := (ofCode? n).any clearsSession

/-- Whether a close with this number ends automatic reconnecting. -/
def codeIsFatal (n : Nat) : Bool := (ofCode? n).any isFatal

end CloseCode

end GatewayClient
