import SourceRegistry.DataSource.Basic
import SourceRegistry.Time.Rfc3339

/-!
# Data sources as JSON

The members of a data source and of a draft, in the order in which they are written.
-/

namespace SourceRegistry

/-- The members of a draft that have been read. -/
structure DraftParts where
  name : Option String := none
  pluginSrc : Option String := none
  health : Option Bool := none
  data : Option Json := none

namespace Draft

def toJson (d : Draft) : Json :=
  .object [("name", .string d.name), ("plugin_src", .string d.pluginSrc),
    ("health", .bool d.health), ("data", d.data)]

open Json in
def form : RecordForm DraftParts Draft where
  title := "struct CreateDataSourceRequest"
  members :=
    [⟨"name", (·.name.isSome), Decoder.string.setting fun x p => { p with name := x }, false⟩,
     ⟨"plugin_src", (·.pluginSrc.isSome),
      Decoder.string.setting fun x p => { p with pluginSrc := x }, false⟩,
     ⟨"health", (·.health.isSome), Decoder.bool.setting fun x p => { p with health := x }, false⟩,
     ⟨"data", (·.data.isSome), Decoder.any.setting fun x p => { p with data := x }, false⟩]
  start := {}
  finish p := do
    .ok ⟨← given "name" p.name, ← given "plugin_src" p.pluginSrc, ← given "health" p.health,
      ← given "data" p.data⟩

end Draft

/-- The members of a data source that have been read. -/
structure DataSourceParts extends DraftParts where
  id : Option DataSourceId := none
  workspace : Option WorkspaceId := none
  createdAt : Option Instant := none

namespace DataSource

def toJson (d : DataSource) : Json :=
  .object [("id", .string d.id.text), ("workspace_id", .string d.workspace.text),
    ("name", .string d.name), ("plugin_src", .string d.pluginSrc), ("health", .bool d.health),
    ("data", d.data), ("created_at", .string d.createdAt.text)]

open Json in
def form : RecordForm DataSourceParts DataSource where
  title := "struct DataSource"
  members :=
    [⟨"id", (·.id.isSome), DataSourceId.decoder.setting fun x p => { p with id := x }, false⟩,
     ⟨"workspace_id", (·.workspace.isSome),
      WorkspaceId.decoder.setting fun x p => { p with workspace := x }, false⟩,
     ⟨"name", (·.name.isSome), Decoder.string.setting fun x p => { p with name := x }, false⟩,
     ⟨"plugin_src", (·.pluginSrc.isSome),
      Decoder.string.setting fun x p => { p with pluginSrc := x }, false⟩,
     ⟨"health", (·.health.isSome), Decoder.bool.setting fun x p => { p with health := x }, false⟩,
     ⟨"data", (·.data.isSome), Decoder.any.setting fun x p => { p with data := x }, false⟩,
     ⟨"created_at", (·.createdAt.isSome),
      Instant.decoder.setting fun x p => { p with createdAt := x }, false⟩]
  start := {}
  finish p := do
    .ok ⟨← given "id" p.id, ← given "workspace_id" p.workspace, ← given "name" p.name,
      ← given "plugin_src" p.pluginSrc, ← given "health" p.health, ← given "data" p.data,
      ← given "created_at" p.createdAt⟩

end DataSource

end SourceRegistry
