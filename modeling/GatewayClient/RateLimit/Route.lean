/-!
# Routes

A route is the family of endpoints that a request belongs to, and the resource
of that family that it is for. Until the server has named a bucket for it, a
route is accounted for under a key of its own.
-/

namespace GatewayClient

/-- A family of endpoints. -/
inductive RouteFamily where
  | guild
  | channel
  | webhook
  | application
  /-- Any other endpoints, by a name that sets them apart. -/
  | other (name : String)
  deriving DecidableEq, Repr

/-- A family of endpoints and the resource that a request is for. -/
structure Route where
  /-- The family. -/
  family : RouteFamily
  /-- The number of the resource, zero where there is none. -/
  resource : Nat
  deriving DecidableEq, Repr

namespace Route

/-- The route of a guild. -/
def guild (id : Nat) : Route := ⟨.guild, id⟩

/-- The route of a channel. -/
def channel (id : Nat) : Route := ⟨.channel, id⟩

/-- The route of a webhook. -/
def webhook (id : Nat) : Route := ⟨.webhook, id⟩

/-- The route of an application. -/
def application (id : Nat) : Route := ⟨.application, id⟩

/-- The route of endpoints without a resource. -/
def other (name : String) : Route := ⟨.other name, 0⟩

/-- The key under which a route is accounted for as long as the server has not
    named a bucket for it. -/
def key (r : Route) : String :=
  match r.family with
  | .guild => s!"guild:{r.resource}"
  | .channel => s!"channel:{r.resource}"
  | .webhook => s!"webhook:{r.resource}"
  | .application => s!"application:{r.resource}"
  | .other name => s!"other:{name}:{r.resource}"

end Route

end GatewayClient
