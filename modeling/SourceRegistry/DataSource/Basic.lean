import SourceRegistry.DataSource.Error
import SourceRegistry.Text.Lowercase
import SourceRegistry.Time.Instant

/-!
# Data sources

A data source is a metrics backend that a workspace has registered: a name that is unique in the
workspace, the plugin that talks to the backend, and the settings of the connection. It is made
from a `Draft`, which says what a client wants, and a `Stamp`, which says when and under which
identifier.
-/

namespace SourceRegistry

/-- What a client asks to register. -/
structure Draft where
  name : String
  pluginSrc : String
  health : Bool
  data : Json
  deriving Repr

/-- The identifier and the time that are given to a data source when it is made. -/
structure Stamp where
  id : DataSourceId
  time : Instant
  deriving DecidableEq, Repr

structure DataSource where
  id : DataSourceId
  workspace : WorkspaceId
  name : String
  pluginSrc : String
  health : Bool
  data : Json
  createdAt : Instant
  deriving Repr

def maxNameLength : Nat := 100

def maxPluginSrcLength : Nat := 255

/-- Whether a text has a character and at most `max` of them. -/
def fits (max : Nat) (s : String) : Bool := s ≠ "" ∧ s.length ≤ max

/-- The name without the white space around it, if it has the right length. -/
def normalizeName (name : String) : Except DataSourceError String :=
  if fits maxNameLength (Text.trim name) then .ok (Text.trim name) else .error (.invalidName name)

/-- The plugin source without the white space around it, if it has the right length. -/
def normalizePluginSrc (pluginSrc : String) : Except DataSourceError String :=
  if fits maxPluginSrcLength (Text.trim pluginSrc) then .ok (Text.trim pluginSrc)
  else .error (.invalidPluginSrc (Text.trim pluginSrc))

/-- Connection settings are an object or missing. -/
def isConnectionData (data : Json) : Bool := data.isObject || data.isNull

namespace DataSource

/-- The data source of a draft, or the first rule that the draft breaks. -/
def ofDraft (workspace : WorkspaceId) (draft : Draft) (stamp : Stamp) :
    Except DataSourceError DataSource := do
  let name ← normalizeName draft.name
  let pluginSrc ← normalizePluginSrc draft.pluginSrc
  if isConnectionData draft.data then
    .ok ⟨stamp.id, workspace, name, pluginSrc, draft.health, draft.data, stamp.time⟩
  else .error (.invalidDefinition "connection data must be a JSON object")

def belongsTo (d : DataSource) (w : WorkspaceId) : Bool := d.workspace = w

/-- Names are compared without regard to letter case and to white space around the argument. -/
def hasName (d : DataSource) (name : String) : Bool :=
  Text.lower d.name = Text.lower (Text.trim name)

end DataSource

end SourceRegistry
