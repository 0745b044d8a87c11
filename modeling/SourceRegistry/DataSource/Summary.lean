import SourceRegistry.DataSource.Basic

/-!
# Summaries

What clients are told about a data source: everything but the settings of its connection.
-/

namespace SourceRegistry

structure Summary where
  id : DataSourceId
  workspace : WorkspaceId
  name : String
  pluginSrc : String
  health : Bool
  createdAt : Instant
  deriving DecidableEq, Repr

def DataSource.summary (d : DataSource) : Summary :=
  ⟨d.id, d.workspace, d.name, d.pluginSrc, d.health, d.createdAt⟩

end SourceRegistry
