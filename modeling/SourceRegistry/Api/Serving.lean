import SourceRegistry.Api.Layers
import SourceRegistry.Repository.Memory
import SourceRegistry.UseCases.Service

/-!
# Serving requests

A request goes to the site of its path. A site answers some methods and names them when it is
asked with another; a `HEAD` request is answered like a `GET` request, without the body.
-/

namespace SourceRegistry

open Http (Response)

namespace App

/-- The service over the repository in memory. -/
def standard (settings : Settings) : App Store := ⟨settings, .service .memory⟩

/-- Serves a request at a site. -/
def serveAt (app : App σ) (site : Site) (parameters : List (String × String)) (a : Arrival)
    (s : σ) : Served σ :=
  if a.request.method ∈ site.methods then
    let v := Layer.all app a (app.handleAt site parameters a) s
    if a.request.method = "HEAD" then { v with response := v.response.withoutBody } else v
  else
    let v := Layer.all app a (reply · { status := 405 }) s
    { v with response := v.response.append "allow" (",".intercalate site.methods) }

/-- Serves a request to whatever its path leads to. -/
def serve (app : App σ) (sites : SiteMap) (a : Arrival) (s : σ) : Served σ :=
  match sites.find? a.request.target.path with
  | some (site, parameters) => app.serveAt site parameters a s
  | none => Layer.all app a (handleNowhere a) s

/-- Serves requests one after another. -/
def serveAll (app : App σ) (sites : SiteMap) : List Arrival → σ → List Response × σ
  | [], s => ([], s)
  | a :: rest, s =>
    let v := app.serve sites a s
    let (responses, s) := app.serveAll sites rest v.state
    (v.response :: responses, s)

end App

end SourceRegistry
