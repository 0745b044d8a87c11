import SourceRegistry.Http.Route
import SourceRegistry.Settings.Basic

/-!
# Sites

The places of the service that a path can lead to. Data sources live below the path of the
settings, which may hold parameters; the pages that describe the service are there only if the
settings ask for them.
-/

namespace SourceRegistry

inductive Site where
  | health
  | ready
  /-- All data sources of a workspace. -/
  | collection
  /-- One data source. -/
  | item
  | document
  | pagesRoot
  | pagesIndex
  | pagesFile
  deriving DecidableEq, Repr

namespace Site

/-- The methods that a site answers, as they are listed for clients. -/
def methods : Site → List String
  | .collection => ["GET", "HEAD", "POST"]
  | .item => ["GET", "HEAD", "DELETE"]
  | _ => ["GET", "HEAD"]

end Site

/-- The routes of a service. -/
structure SiteMap where
  collection : Http.Route
  item : Http.Route
  pages : Bool
  deriving DecidableEq, Repr

namespace SiteMap

/-- A route whose second segment is a parameter below the pages cannot be told from their files. -/
def hidesPages (r : Http.Route) : Bool :=
  match r with
  | _ :: first :: second :: _ =>
    first = ⟨"swagger-ui".toList, none⟩ && second.literal.isEmpty && second.parameter.isSome
  | _ => false

/-- The routes for some settings, if their path makes routes. -/
def ofSettings? (s : Settings) : Option SiteMap := do
  let collection ← Http.Route.ofPath? (Http.nestPath s.apiPath "/datasource")
  let item ← Http.Route.ofPath? (Http.nestPath s.apiPath "/datasource/:id")
  if s.swagger && hidesPages collection then none
  some ⟨collection, item, s.swagger⟩

/-- The site of a fixed path. -/
def fixed? (m : SiteMap) (path : String) : Option Site :=
  if path = "/health" then some .health
  else if path = "/ready" then some .ready
  else if m.pages && path = "/api-docs/openapi.json" then some .document
  else if m.pages && path = "/swagger-ui" then some .pagesRoot
  else if m.pages && path = "/swagger-ui/" then some .pagesIndex
  else none

/-- The site of a path among the data sources, with the parameters of the path. -/
def source? (m : SiteMap) (path : String) : Option (Site × List (String × String)) :=
  match m.collection.match? path with
  | some ps => some (.collection, ps)
  | none => (m.item.match? path).map (Site.item, ·)

/-- Whether the routes of data sources name the pages' place themselves. -/
def sharesPages (m : SiteMap) : Bool :=
  match m.collection with
  | _ :: first :: _ => first = ⟨"swagger-ui".toList, none⟩
  | _ => false

/-- Whether a path leads to a file of the pages. -/
def isFile (m : SiteMap) (path : String) : Bool :=
  m.pages && "/swagger-ui/".toList.isPrefixOf path.toList

/-- Where a path leads; fixed places go before those with parameters. -/
def find? (m : SiteMap) (path : String) : Option (Site × List (String × String)) :=
  match m.fixed? path with
  | some site => some (site, [])
  | none =>
    if m.isFile path && !m.sharesPages then some (.pagesFile, [])
    else m.source? path <|> if m.isFile path then some (.pagesFile, []) else none

end SiteMap

end SourceRegistry
