import SourceRegistry.Api.Serving
import SourceRegistry.Trace.Rendering

/-!
# Starting the service

A service starts with valid settings only. It reports through a filter, which is given apart or
follows from the settings, and reporting can be set up once.
-/

namespace SourceRegistry.Startup

inductive Failure where
  | invalid (e : SettingsError)
  | alreadyTracing
  | unroutable
  | unbound (address : String)
  deriving DecidableEq, Repr

def Failure.message : Failure → String
  | .invalid e => e.message
  | .alreadyTracing => "Failed to initialize tracing subscriber"
  | .unroutable => "Failed to build routes"
  | .unbound address => "Failed to bind " ++ address

/-- The filter of a service: the given text, or the level of the settings if there is none that
can be read. -/
def filter (t : Telemetry) (given : Option String) : Trace.Filter :=
  (given.bind Trace.Filter.ofText?).getD ((Trace.Filter.ofText? t.logLevel).getD [])

/-- What a service reports when it starts. -/
def events (s : Settings) : List Trace.Entry :=
  [.event (.tracingStarted s.telemetry.serviceName) none,
   .event (.building s.telemetry.serviceName s.apiPath) none]

/-- Starts a service; `tracing` says whether reporting has been set up before. -/
def start (s : Settings) (tracing : Bool) : Except Failure SiteMap :=
  match s.validate with
  | .error e => .error (.invalid e)
  | .ok () =>
    if tracing then .error .alreadyTracing
    else
      match SiteMap.ofSettings? s with
      | some sites => .ok sites
      | none => .error .unroutable

end SourceRegistry.Startup
