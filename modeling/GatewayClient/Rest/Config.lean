import GatewayClient.Config.Settings
import GatewayClient.Time

/-!
# Configuration of the API client
-/

namespace GatewayClient

/-- The version that a client gives in its name. -/
def clientVersion : String := "0.1.0"

/-- How to talk to the API. -/
structure RestConfig where
  /-- The address below which the endpoints are. -/
  baseUrl : String := "http://127.0.0.1:8080/api/v10"
  token : String := ""
  /-- How long a request may take as a whole. -/
  timeout : Duration := Duration.ofSeconds 5
  /-- The name that the client gives. -/
  userAgent : String := "chat-client (" ++ clientVersion ++ ")"
  deriving DecidableEq, Repr

/-- The configuration that the settings of a client give. -/
def RestConfig.ofSettings (s : Settings) : RestConfig where
  baseUrl := s.rest.baseUrl
  token := s.app.token
  timeout := Duration.ofMillis s.rest.timeoutMs
  userAgent := s.app.name ++ " (" ++ clientVersion ++ ")"

end GatewayClient
