import SourceRegistry.DataSource.Codec
import SourceRegistry.UseCases.Basic

/-!
# Fixtures

Data sources and drafts for trials: a series whose members are a minute apart, and one with a
given plugin and word in its name. Trials that need a context or stamps take them from here too.
-/

namespace SourceRegistry.Fixture

def url : String := "http://prometheus:9090"

/-- The settings of a connection to an address. -/
def connection (url : String) : Json := .object [("url", .string url)]

/-- A draft that can be created. -/
def draft : Draft := ⟨"prometheus-test", "prometheus", false, connection url⟩

def context : Context := ⟨.nil, "trial"⟩

/-- A stamp whose identifier repeats one digit. -/
def stamp (n : Nat) : Stamp :=
  let digit : Fin 16 := ⟨n % 16, Nat.mod_lt n (by decide)⟩
  ⟨⟨List.replicate 32 digit, List.length_replicate⟩, ⟨⟨2024, 1, 15⟩, 0, 0, 0, 0⟩⟩

/-- The number of a member of a series, in three digits. -/
def serial (n : Nat) : String := String.ofList (Instant.padded 3 n)

/-- The `n`-th of a series that starts at a time. -/
def member (w : WorkspaceId) (start : Instant) (id : DataSourceId) (n : Nat) : DataSource where
  id := id
  workspace := w
  name := "datasource-" ++ serial n
  pluginSrc := "prometheus"
  health := n % 2 = 0
  data := connection url
  createdAt := start.addMinutes n

/-- A series with given identifiers that ends a minute before a time. -/
def series (w : WorkspaceId) (now : Instant) (ids : List DataSourceId) : List DataSource :=
  let start := now.addMinutes (-ids.length)
  ids.zipIdx.map fun (id, n) => member w start id n

/-- The seconds between the members of a series. -/
def gaps : List DataSource → List Int
  | a :: b :: rest => (b.createdAt.seconds - a.createdAt.seconds) :: gaps (b :: rest)
  | _ => []

def plugins : List String := ["prometheus", "google-analytics", "datadog"]

/-- A data source whose name tells its plugin. -/
def named (w : WorkspaceId) (stamp : Stamp) (plugin word : String) : DataSource where
  id := stamp.id
  workspace := w
  name := plugin ++ "-" ++ word
  pluginSrc := plugin
  health := true
  data := connection ("http://" ++ word ++ ".internal")
  createdAt := stamp.time

end SourceRegistry.Fixture
