import GatewayClient.Gateway.Envelope

/-!
# Payloads

What the client sends to open or continue a session and to show its presence,
and the gateway's greeting. Each payload is written as an object, and read back
from an object or from an array of its fields in their order.

A payload inside a message is a plain value, whose members are sorted; the
message constructors at the end put it there.
-/

namespace GatewayClient

open Json

/-- The gateway's greeting. -/
structure Hello where
  /-- Milliseconds between heartbeats. -/
  heartbeatInterval : Nat
  deriving DecidableEq, Repr

/-- What the client says about the program it is. -/
structure Properties where
  os : String
  browser : String
  device : String
  deriving DecidableEq, Repr

/-- A presence to show. -/
structure Presence where
  /-- When the client went idle, in milliseconds of Unix time. -/
  since : Option Nat
  /-- What the client is doing. -/
  activities : List Value
  /-- The status to show. -/
  status : String
  /-- Whether the client is away from the keyboard. -/
  afk : Bool
  deriving BEq, Repr

/-- The request for a new session. -/
structure Identify where
  token : String
  properties : Properties
  /-- Whether compressed messages are welcome. -/
  compress : Bool
  /-- The number of members above which offline ones are not sent. -/
  largeThreshold : Nat
  /-- The shard's index and the number of shards. -/
  shard : Nat × Nat
  /-- The presence to start with. -/
  presence : Option Presence
  /-- Which events to receive. -/
  intents : Nat
  deriving BEq, Repr

/-- The request to continue a session. -/
structure Resume where
  token : String
  sessionId : String
  /-- The last sequence number received. -/
  seq : Nat
  deriving DecidableEq, Repr

namespace Hello

/-- The greeting that a tree gives. -/
def ofTree? (t : Tree) : Option Hello := do
  match ← t.fields ["heartbeat_interval"] with
  | [interval] => return ⟨← interval.required Tree.word64?⟩
  | _ => none

/-- The greeting in a payload. -/
def ofValue? (v : Value) : Option Hello := ofTree? v.toTree

end Hello

namespace Properties

/-- Properties that name a program as browser and device. -/
def ofProgram (os name : String) : Properties := ⟨os, name, name⟩

/-- The properties as a value. -/
def members (p : Properties) : List (String × Value) :=
  [("os", .string p.os), ("browser", .string p.browser), ("device", .string p.device)]

/-- The properties that a tree gives. -/
def ofTree? (t : Tree) : Option Properties := do
  match ← t.fields ["os", "browser", "device"] with
  | [os, browser, device] =>
    return ⟨← os.required Tree.text?, ← browser.required Tree.text?, ← device.required Tree.text?⟩
  | _ => none

end Properties

namespace Presence

/-- A presence with a status and nothing else. -/
def ofStatus (status : String) : Presence := ⟨none, [], status, false⟩

/-- The statuses that a gateway knows. -/
def validStatuses : List String := ["online", "idle", "dnd", "invisible", "offline"]

/-- Whether a gateway knows the status. -/
def hasValidStatus (p : Presence) : Bool := validStatuses.contains p.status

/-- The members of the object that a presence is written as. -/
def members (p : Presence) : List (String × Value) :=
  [("since", .ofOption .ofNat p.since), ("activities", .array p.activities),
    ("status", .string p.status), ("afk", .bool p.afk)]

/-- The presence that a tree gives, in a text with room for `depth` containers
    inside each other. -/
def ofTree? (depth : Nat) (t : Tree) : Option Presence := do
  match ← t.fields ["since", "activities", "status", "afk"] with
  | [since, activities, status, afk] =>
    return {
      since := ← since.optional Tree.word64?
      activities := ← activities.withDefault [] (Tree.list? (Value.ofTree? (depth - 2)))
      status := ← status.required Tree.text?
      afk := ← afk.withDefault false Tree.flag? }
  | _ => none

/-- The presence in a payload. A payload holds whatever it holds, however deep. -/
def ofValue? (v : Value) : Option Presence := ofTree? v.depth v.toTree

end Presence

namespace Identify

/-- The members of the object that the request is written as. Without a presence
    there is no such member. -/
def members (p : Identify) : List (String × Value) :=
  [("token", .string p.token), ("properties", .ofMembers p.properties.members),
    ("compress", .bool p.compress), ("large_threshold", .ofNat p.largeThreshold),
    ("shard", .array [.ofNat p.shard.1, .ofNat p.shard.2])]
    ++ (p.presence.map fun q => ("presence", Value.ofMembers q.members)).toList
    ++ [("intents", .ofNat p.intents)]

/-- The request that a tree gives, in a text with room for `depth` containers
    inside each other. -/
def ofTree? (depth : Nat) (t : Tree) : Option Identify := do
  match ← t.fields ["token", "properties", "compress", "large_threshold", "shard", "presence",
      "intents"] with
  | [token, properties, compress, largeThreshold, shard, presence, intents] =>
    return {
      token := ← token.required Tree.text?
      properties := ← properties.required Properties.ofTree?
      compress := ← compress.required Tree.flag?
      largeThreshold := ← largeThreshold.required Tree.word32?
      shard := ← shard.required (Tree.pair? Tree.word32?)
      presence := ← presence.optional (Presence.ofTree? (depth - 1))
      intents := ← intents.required Tree.word64? }
  | _ => none

/-- The request in a payload. -/
def ofValue? (v : Value) : Option Identify := ofTree? v.depth v.toTree

end Identify

namespace Resume

/-- The members of the object that the request is written as. -/
def members (p : Resume) : List (String × Value) :=
  [("token", .string p.token), ("session_id", .string p.sessionId), ("seq", .ofNat p.seq)]

/-- The request that a tree gives. -/
def ofTree? (t : Tree) : Option Resume := do
  match ← t.fields ["token", "session_id", "seq"] with
  | [token, sessionId, seq] =>
    return ⟨← token.required Tree.text?, ← sessionId.required Tree.text?,
      ← seq.required Tree.word64?⟩
  | _ => none

/-- The request in a payload. -/
def ofValue? (v : Value) : Option Resume := ofTree? v.toTree

end Resume

namespace Envelope

/-- A heartbeat with the last sequence number, or none. -/
def heartbeat (last : Option Nat) : Envelope := ofPayload .heartbeat (.ofOption .ofNat last)

/-- The last sequence number in the payload of a heartbeat, or none. -/
def lastOfValue? (v : Value) : Option (Option Nat) := (Field.given v.toTree).optional Tree.word64?

/-- The request for a new session. -/
def identify (p : Identify) : Envelope := ofPayload .identify (.ofMembers p.members)

/-- The request to continue a session. -/
def resume (p : Resume) : Envelope := ofPayload .resume (.ofMembers p.members)

/-- A presence to show from now on. -/
def presenceUpdate (p : Presence) : Envelope := ofPayload .presenceUpdate (.ofMembers p.members)

end Envelope

end GatewayClient
