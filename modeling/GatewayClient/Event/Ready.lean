import GatewayClient.Json.Record

/-!
# The start of a session

The payload of the first event of a session: its identifier, and where to
connect in order to resume it.
-/

namespace GatewayClient

open Json

/-- What the first event of a session says. -/
structure Ready where
  /-- The version of the gateway's protocol. -/
  version : Option Nat
  /-- The identifier that resumes the session. -/
  sessionId : String
  /-- Where to connect in order to resume the session. -/
  resumeUrl : Option String
  /-- The shard's index and the number of shards. -/
  shard : Option (Nat × Nat)
  deriving DecidableEq, Repr

namespace Ready

/-- What a tree says about the session. -/
def ofTree? (t : Tree) : Option Ready := do
  match ← t.fields ["v", "session_id", "resume_gateway_url", "shard"] with
  | [version, sessionId, resumeUrl, shard] =>
    return {
      version := ← version.optionalWithDefault Tree.byte?
      sessionId := ← sessionId.required Tree.text?
      resumeUrl := ← resumeUrl.optionalWithDefault Tree.text?
      shard := ← shard.optionalWithDefault (Tree.pair? Tree.word32?) }
  | _ => none

/-- What a payload says about the session. -/
def ofValue? (v : Value) : Option Ready := ofTree? v.toTree

/-- The members of the object that it is written as. -/
def members (r : Ready) : List (String × Value) :=
  [("v", .ofOption .ofNat r.version), ("session_id", .string r.sessionId),
    ("resume_gateway_url", .ofOption .string r.resumeUrl),
    ("shard", .ofOption (fun (i, n) => .array [.ofNat i, .ofNat n]) r.shard)]

end Ready

end GatewayClient
