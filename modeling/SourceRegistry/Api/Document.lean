import SourceRegistry.Settings.Basic

/-!
# The description of the interface

What the service tells about itself: its operations with their parameters and answers, and the
objects that they exchange. The paths of data sources stand below the path of the settings.
-/

namespace SourceRegistry.Document

inductive Place where
  | path
  | header
  deriving DecidableEq, Repr

def Place.name : Place → String
  | .path => "path"
  | .header => "header"

structure Parameter where
  place : Place
  name : String
  description : String
  deriving DecidableEq, Repr

structure Operation where
  method : String
  path : String
  id : String
  tag : String
  summary : String
  description : Option String := none
  parameters : List Parameter := []
  responses : List (Nat × String)
  hasBody : Bool := false
  deriving DecidableEq, Repr

/-- An object of the interface: its members, and whether they must be there. -/
structure Schema where
  name : String
  members : List (String × Bool)
  deriving DecidableEq, Repr

structure Tag where
  name : String
  description : String
  deriving DecidableEq, Repr

def title : String := "Compass API"

def version : String := "1.0.0"

def description : String := "REST API for Compass workspace data sources"

def license : String := "MIT"

def tags : List Tag :=
  [⟨"health", "Health check endpoints"⟩, ⟨"datasources", "Workspace data sources"⟩]

def workspaceParameter : Parameter := ⟨.header, "workspaceId", "Workspace UUID"⟩

def idParameter : Parameter := ⟨.path, "id", "Data source ID"⟩

def healthOperations : List Operation :=
  [{ method := "get", path := "/health", id := "health", tag := "health"
     summary := "Basic health check"
     description := some "Returns service status and version information."
     responses := [(200, "Service is healthy")] },
   { method := "get", path := "/ready", id := "ready", tag := "health"
     summary := "Readiness check"
     description := some "Probes the data source use cases with a listing of the nil workspace."
     responses := [(200, "Service readiness status")] }]

/-- The operations on data sources below a path. -/
def sourceOperations (path : String) : List Operation :=
  [{ method := "get", path := path ++ "/datasource", id := "list_data_sources", tag := "datasources"
     summary := "List data sources"
     description := some
       "All data sources of the workspace named by the \x60workspaceId\x60 header."
     parameters := [workspaceParameter]
     responses := [(200, "Data sources of the workspace"), (400, "Missing or invalid workspaceId"),
       (500, "Use-case failure")] },
   { method := "post", path := path ++ "/datasource", id := "create_data_source"
     tag := "datasources", summary := "Create data source"
     parameters := [workspaceParameter]
     responses := [(201, "Data source created"), (400, "Malformed request"),
       (409, "Name already used in the workspace"), (422, "Validation failed"),
       (501, "Creation not available")]
     hasBody := true },
   { method := "get", path := path ++ "/datasource/\x7bid\x7d", id := "get_data_source"
     tag := "datasources", summary := "Get data source by ID"
     parameters := [idParameter, workspaceParameter]
     responses := [(200, "Data source found"), (400, "Invalid id or workspaceId"),
       (404, "Data source not found")] },
   { method := "delete", path := path ++ "/datasource/\x7bid\x7d", id := "delete_data_source"
     tag := "datasources", summary := "Delete data source"
     parameters := [idParameter, workspaceParameter]
     responses := [(204, "Data source deleted"), (400, "Invalid id or workspaceId"),
       (404, "Data source not found"), (500, "Use-case failure")] }]

def operations (s : Settings) : List Operation := healthOperations ++ sourceOperations s.apiPath

def schemas : List Schema :=
  [⟨"BaseEntityRepresentation", [("createdAt", true), ("id", true)]⟩,
   ⟨"CreateDataSourceApiRequest",
    [("data", false), ("health", false), ("name", true), ("pluginSrc", true)]⟩,
   ⟨"DataSourceRepresentation",
    [("health", true), ("name", true), ("pluginSrc", true), ("workspaceId", true)]⟩,
   ⟨"ErrorResponse", [("error", true), ("message", true), ("requestId", false)]⟩,
   ⟨"HealthResponse", [("status", true), ("version", true)]⟩,
   ⟨"ReadinessChecks", [("data_sources", true)]⟩,
   ⟨"ReadinessResponse", [("checks", true), ("ready", true)]⟩]

def Schema.required (s : Schema) : List String := (s.members.filter (·.2)).map (·.1)

def Parameter.toJson (p : Parameter) : Json :=
  .object [("name", .string p.name), ("in", .string p.place.name),
    ("description", .string p.description), ("required", .bool true),
    ("schema", .object [("type", .string "string")])]

def Operation.toJson (o : Operation) : Json :=
  .object ([("tags", Json.ofStrings [o.tag]), ("summary", .string o.summary)]
    ++ (o.description.map fun d => ("description", Json.string d)).toList
    ++ [("operationId", .string o.id), ("parameters", .array (o.parameters.map (·.toJson))),
      ("responses", .object (o.responses.map fun r =>
        (toString r.1, .object [("description", .string r.2)])))])

def Schema.toJson (s : Schema) : Json :=
  .object [("type", .string "object"), ("required", .ofStrings s.required),
    ("properties", .object (s.members.map fun m => (m.1, .object [])))]

/-- The operations of each path. -/
def pathsJson (s : Settings) : Json :=
  let paths := ((operations s).map (·.path)).eraseDups
  .object (paths.map fun path =>
    (path, .object (((operations s).filter (·.path == path)).map fun o => (o.method, o.toJson))))

def toJson (s : Settings) : Json :=
  .object [("openapi", .string "3.0.3"),
    ("info", .object [("title", .string title), ("description", .string description),
      ("license", .object [("name", .string license)]), ("version", .string version)]),
    ("paths", pathsJson s),
    ("components", .object [("schemas", .object (schemas.map fun x => (x.name, x.toJson)))]),
    ("tags", .array (tags.map fun t =>
      .object [("name", .string t.name), ("description", .string t.description)]))]

end SourceRegistry.Document
