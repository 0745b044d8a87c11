import SourceRegistry.Repository.Basic

/-!
# The repository in memory

The stored data sources in the order in which they were saved. No two of them have the same
identifier, not even in different workspaces.
-/

namespace SourceRegistry

abbrev Store := List DataSource

namespace Store

def ofWorkspace (s : Store) (w : WorkspaceId) : List DataSource := s.filter (·.belongsTo w)

/-- Whether a data source is the one of that identifier and workspace. -/
def matches_ (id : DataSourceId) (w : WorkspaceId) (d : DataSource) : Bool :=
  d.id = id && d.belongsTo w

def find? (s : Store) (id : DataSourceId) (w : WorkspaceId) : Option DataSource :=
  List.find? (matches_ id w) s

def hasName (s : Store) (w : WorkspaceId) (name : String) : Bool :=
  s.any fun d => d.belongsTo w && d.hasName name

def hasId (s : Store) (id : DataSourceId) : Bool := s.any (·.id = id)

def without (s : Store) (id : DataSourceId) (w : WorkspaceId) : Store :=
  s.filter fun d => !matches_ id w d

end Store

namespace Repository

/-- The text of the conflict between two data sources with one identifier. -/
def existsError (id : DataSourceId) : ServiceError :=
  ⟨.conflict, "Data source already exists: " ++ id.text⟩

def memory : Repository Store where
  answer
    | .list w, s => (.ok (s.ofWorkspace w), s)
    | .find id w, s => (.ok (s.find? id w), s)
    | .nameTaken w name, s => (.ok (s.hasName w name), s)
    | .save d, s => if s.hasId d.id then (.error (existsError d.id), s) else (.ok (), s ++ [d])
    | .remove id w, s => (.ok ((s.without id w).length < s.length), s.without id w)

end Repository

end SourceRegistry
