import SourceRegistry.Json.Basic
import SourceRegistry.Text.Space

/-!
# Settings

How the service listens, which paths and origins it serves, what it allows, and how it reports.
`validate` names the first setting with which the service cannot work.
-/

namespace SourceRegistry

structure Telemetry where
  serviceName : String := "compass"
  jsonLogging : Bool := false
  logLevel : String := "info"
  deriving DecidableEq, Repr

structure Settings where
  host : String := "0.0.0.0"
  port : Nat := 8080
  basePath : String := "/api"
  version : String := "v1"
  allowedOrigins : List String := ["*"]
  maxBodySize : Nat := 2097152
  timeoutSeconds : Nat := 30
  swagger : Bool := true
  telemetry : Telemetry := {}
  deriving DecidableEq, Repr

inductive SettingsError where
  | zeroPort
  | zeroTimeout
  | relativeBasePath (path : String)
  | blankVersion
  | unknownLogLevel (level : String)
  deriving DecidableEq, Repr

/-- The levels from which a report can be asked for. -/
def logLevels : List String := ["trace", "debug", "info", "warn", "error"]

def SettingsError.message : SettingsError → String
  | .zeroPort => "Server port must be non-zero"
  | .zeroTimeout => "Request timeout must be at least one second"
  | .relativeBasePath path => "API base path '" ++ path ++ "' must start with '/'"
  | .blankVersion => "API version must not be empty"
  | .unknownLogLevel level =>
    "Invalid log level '" ++ level ++ "'. Must be one of: " ++ ", ".intercalate logLevels

def Telemetry.validate (t : Telemetry) : Except SettingsError Unit :=
  if t.logLevel ∈ logLevels then .ok () else .error (.unknownLogLevel t.logLevel)

namespace Settings

def validate (s : Settings) : Except SettingsError Unit :=
  if s.port = 0 then .error .zeroPort
  else if s.timeoutSeconds = 0 then .error .zeroTimeout
  else if s.basePath.toList.head? ≠ some '/' then .error (.relativeBasePath s.basePath)
  else if Text.trim s.version = "" then .error .blankVersion
  else s.telemetry.validate

/-- The path in front of all paths of data sources: the base path and the version with one slash
between them. -/
def apiPath (s : Settings) : String :=
  Text.trimEndOf '/' s.basePath ++ "/" ++ Text.trimEndOf '/' (Text.trimStartOf '/' s.version)

/-- Where the service listens. -/
def address (s : Settings) : String := s.host ++ ":" ++ toString s.port

end Settings

end SourceRegistry
