import SourceRegistry.Api.Startup
import SourceRegistry.Settings.Load

/-!
# The program

Loads the settings, starts the service and reports why it does not go on. There is no network
here to listen on, so a service that has started cannot be bound to its address.
-/

namespace SourceRegistry.Program

/-- The variables that settings are read from. -/
def variableNames : List String :=
  ["APP_ENV", "COMPASS_HOST", "COMPASS_PORT", "COMPASS_API_BASE_PATH", "COMPASS_API_VERSION",
   "COMPASS_CORS_ALLOWED_ORIGINS", "COMPASS_MAX_BODY_SIZE", "COMPASS_REQUEST_TIMEOUT_SECONDS",
   "COMPASS_ENABLE_SWAGGER", "COMPASS_TELEMETRY__SERVICE_NAME",
   "COMPASS_TELEMETRY__JSON_LOGGING", "COMPASS_TELEMETRY__LOG_LEVEL"]

def readVariables : IO (List (String × String)) :=
  variableNames.filterMapM fun name => do
    return (← IO.getEnv name).map (name, ·)

/-- The files that may set something, with their contents. -/
def readFiles (surroundings : String) : IO (List (String × String)) := do
  let names := ["default", surroundings].flatMap fun name =>
    (Sources.candidates Format.all name).map (·.1)
  names.filterMapM fun name => do
    try
      let content ← IO.FS.readFile ⟨"config/" ++ name⟩
      return some (name, content)
    catch _ => return none

/-- The lines that a start leaves behind. -/
def reportLines (s : Settings) (given : Option String) : List String :=
  (Trace.reported (Startup.filter s.telemetry given) (Startup.events s)).filterMap fun
    | .event e _ =>
      some (if s.telemetry.jsonLogging then e.fieldsJson.text else e.level.name ++ " " ++ e.line)
    | .closed => none

/-- Why a service with some settings does not run. -/
def failure (s : Settings) : Startup.Failure :=
  match Startup.start s false with
  | .error f => f
  | .ok _ => .unbound s.address

end SourceRegistry.Program

open SourceRegistry in
def main : IO UInt32 := do
  let vars ← Program.readVariables
  let sources : Sources := ⟨vars, []⟩
  let files ← Program.readFiles sources.surroundings
  match Sources.load .asWritten { sources with files } with
  | .error .panicked => return 101
  | .error e => IO.eprintln ("Error: " ++ e.message)
  | .ok s =>
    let failure := Program.failure s
    if failure matches .unbound _ then
      for line in Program.reportLines s (← IO.getEnv "RUST_LOG") do IO.println line
    IO.eprintln ("Error: " ++ failure.message)
  return 1
