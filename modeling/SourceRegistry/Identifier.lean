import SourceRegistry.Uuid

/-!
# Identifiers

Workspaces and data sources are named by UUIDs, in types of their own, so that neither stands
for the other. As plain text an identifier may have white space around it, as JSON not.
-/

namespace SourceRegistry

structure WorkspaceId where
  uuid : Uuid
  deriving DecidableEq, Repr

structure DataSourceId where
  uuid : Uuid
  deriving DecidableEq, Repr

namespace WorkspaceId

def nil : WorkspaceId := ⟨.nil⟩

def text (w : WorkspaceId) : String := w.uuid.text

def ofString? (s : String) : Option WorkspaceId := (Uuid.ofString? (Text.trim s)).map .mk

def decoder : Json.Decoder WorkspaceId := fun depth s => do
  let (u, s) ← Uuid.decoder depth s
  .ok (⟨u⟩, s)

end WorkspaceId

namespace DataSourceId

def text (i : DataSourceId) : String := i.uuid.text

def ofString? (s : String) : Option DataSourceId := (Uuid.ofString? (Text.trim s)).map .mk

def decoder : Json.Decoder DataSourceId := fun depth s => do
  let (u, s) ← Uuid.decoder depth s
  .ok (⟨u⟩, s)

/-- How an identifier shows its type as well. -/
def description (i : DataSourceId) : String := "DataSourceId(" ++ i.text ++ ")"

end DataSourceId

end SourceRegistry
