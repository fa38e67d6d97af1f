import GatewayClient.Config.Settings

/-!
# Telemetry

How a client writes its log. There is one preset for each environment, and a
process installs its log once: a second attempt is refused and changes nothing.
-/

namespace GatewayClient

/-- How much is logged. -/
inductive LogLevel where
  | debug
  | info
  deriving DecidableEq, Repr

/-- The name of a level. -/
def LogLevel.name : LogLevel → String
  | debug => "DEBUG"
  | info => "INFO"

/-- What the log looks like. -/
structure LogPreset where
  level : LogLevel
  /-- Whether each entry is a JSON object. -/
  json : Bool
  /-- Whether the beginnings and ends of spans are logged. -/
  spanEvents : Bool
  /-- Whether entries say where in the program they come from. -/
  fileLine : Bool
  /-- Whether entries say which thread they come from. -/
  threadNames : Bool
  deriving DecidableEq, Repr

namespace LogPreset

/-- The preset for an environment. -/
def ofEnvironment : Environment → LogPreset
  | .development => ⟨.debug, false, true, true, true⟩
  | .staging => ⟨.info, false, false, true, false⟩
  | .production => ⟨.info, true, false, false, false⟩

end LogPreset

/-- Why a log cannot be installed. -/
inductive TelemetryError where
  | alreadyInitialized
  deriving DecidableEq, Repr

/-- The reason for people. -/
def TelemetryError.message : TelemetryError → String
  | alreadyInitialized => "Tracing subscriber already initialized"

/-- The log of a process after an attempt to install one. -/
def LogPreset.install (current : Option LogPreset) (preset : LogPreset) :
    Except TelemetryError LogPreset :=
  match current with
  | none => .ok preset
  | some _ => .error .alreadyInitialized

end GatewayClient
