import GatewayClient.RateLimit.Route
import GatewayClient.Text.Trim

/-!
# Endpoints

The target of a call: a method, a path below the base address, and the route
that it is accounted for under.
-/

namespace GatewayClient

/-- The target of a call. -/
structure Endpoint where
  method : String
  /-- The path below the base address. -/
  path : String
  /-- The route that the call is accounted for under. -/
  route : Route
  deriving DecidableEq, Repr

namespace Endpoint

/-- The address of a path below a base address. There is one slash between them,
    however many either has there. -/
def join (base path : String) : String :=
  String.ofList (Trim.right (· = '/') base.toList ++ '/' :: Trim.left (· = '/') path.toList)

/-- The address of an endpoint below a base address. -/
def url (e : Endpoint) (base : String) : String := join base e.path

end Endpoint

end GatewayClient
