import SourceRegistry.Json.Decoder
import SourceRegistry.Settings.Basic

/-!
# Settings as JSON

Every member may be missing and then has its default, also inside the telemetry settings.
-/

namespace SourceRegistry

open Json (Decoder RecordForm)

/-- The members of telemetry settings that have been read. -/
structure TelemetryParts where
  serviceName : Option String := none
  jsonLogging : Option Bool := none
  logLevel : Option String := none

namespace Telemetry

def toJson (t : Telemetry) : Json :=
  .object [("service_name", .string t.serviceName), ("json_logging", .bool t.jsonLogging),
    ("log_level", .string t.logLevel)]

/-- The settings with the given members in place of the defaults. -/
def ofParts (p : TelemetryParts) : Telemetry :=
  let d : Telemetry := {}
  ⟨p.serviceName.getD d.serviceName, p.jsonLogging.getD d.jsonLogging, p.logLevel.getD d.logLevel⟩

def form : RecordForm TelemetryParts Telemetry where
  title := "struct TelemetryConfig"
  members :=
    [⟨"service_name", (·.serviceName.isSome),
      Decoder.string.setting fun x p => { p with serviceName := x }, true⟩,
     ⟨"json_logging", (·.jsonLogging.isSome),
      Decoder.bool.setting fun x p => { p with jsonLogging := x }, true⟩,
     ⟨"log_level", (·.logLevel.isSome),
      Decoder.string.setting fun x p => { p with logLevel := x }, true⟩]
  start := {}
  finish p := .ok (ofParts p)

end Telemetry

/-- The members of settings that have been read. -/
structure SettingsParts where
  host : Option String := none
  port : Option Nat := none
  basePath : Option String := none
  version : Option String := none
  allowedOrigins : Option (List String) := none
  maxBodySize : Option Nat := none
  timeoutSeconds : Option Nat := none
  swagger : Option Bool := none
  telemetry : Option Telemetry := none

namespace Settings

def toJson (s : Settings) : Json :=
  .object [("host", .string s.host), ("port", .ofNat s.port), ("api_base_path", .string s.basePath),
    ("api_version", .string s.version), ("cors_allowed_origins", .ofStrings s.allowedOrigins),
    ("max_body_size", .ofNat s.maxBodySize), ("request_timeout_seconds", .ofNat s.timeoutSeconds),
    ("enable_swagger", .bool s.swagger), ("telemetry", s.telemetry.toJson)]

/-- The settings with the given members in place of the defaults. -/
def ofParts (p : SettingsParts) : Settings :=
  let d : Settings := {}
  { host := p.host.getD d.host
    port := p.port.getD d.port
    basePath := p.basePath.getD d.basePath
    version := p.version.getD d.version
    allowedOrigins := p.allowedOrigins.getD d.allowedOrigins
    maxBodySize := p.maxBodySize.getD d.maxBodySize
    timeoutSeconds := p.timeoutSeconds.getD d.timeoutSeconds
    swagger := p.swagger.getD d.swagger
    telemetry := p.telemetry.getD d.telemetry }

def form : RecordForm SettingsParts Settings where
  title := "struct ApiConfig"
  members :=
    [⟨"host", (·.host.isSome), Decoder.string.setting fun x p => { p with host := x }, true⟩,
     ⟨"port", (·.port.isSome),
      (Decoder.unsigned "u16" 16).setting fun x p => { p with port := x }, true⟩,
     ⟨"api_base_path", (·.basePath.isSome),
      Decoder.string.setting fun x p => { p with basePath := x }, true⟩,
     ⟨"api_version", (·.version.isSome),
      Decoder.string.setting fun x p => { p with version := x }, true⟩,
     ⟨"cors_allowed_origins", (·.allowedOrigins.isSome),
      Decoder.string.list.setting fun x p => { p with allowedOrigins := x }, true⟩,
     ⟨"max_body_size", (·.maxBodySize.isSome),
      (Decoder.unsigned "usize" 64).setting fun x p => { p with maxBodySize := x }, true⟩,
     ⟨"request_timeout_seconds", (·.timeoutSeconds.isSome),
      (Decoder.unsigned "u64" 64).setting fun x p => { p with timeoutSeconds := x }, true⟩,
     ⟨"enable_swagger", (·.swagger.isSome),
      Decoder.bool.setting fun x p => { p with swagger := x }, true⟩,
     ⟨"telemetry", (·.telemetry.isSome),
      Telemetry.form.decoder.setting fun x p => { p with telemetry := x }, true⟩]
  start := {}
  finish p := .ok (ofParts p)

end Settings

end SourceRegistry
