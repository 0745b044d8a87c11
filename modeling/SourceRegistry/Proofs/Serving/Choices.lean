import SourceRegistry.Proofs.Serving.Decisions
import SourceRegistry.Proofs.Serving.Layers

/-!
# What the handlers of data sources choose

Before any use case runs, a handler has settled on a `Choice`: to run an operation for a
workspace, to refuse the request, or to say that the path holds no text. The choice follows from
the request and the longest body alone. `serve_atSources` says that a request for data sources is
served as its choice tells, whatever the use cases and their state are.
-/

namespace SourceRegistry

open Http (Request Response)
open SiteMap (sourcesPath)

/-- The path and the method of a request lead to a handler of data sources, if the service is set
up for `/api/v1`. -/
def Arrival.AtSources (a : Arrival) : Prop :=
  (a.request.target.path = sourcesPath ∧ a.request.method ∈ ["GET", "HEAD", "POST"]) ∨
    ((∃ raw : String, raw ≠ "" ∧ '/' ∉ raw.toList ∧
        a.request.target.path = sourcesPath ++ "/" ++ raw) ∧
      a.request.method ∈ ["GET", "HEAD", "DELETE"])

theorem Site.ne_options (site : Site) {method : String} (h : method ∈ site.methods) :
    method ≠ "OPTIONS" := by
  rintro rfl
  revert h
  cases site <;> decide

namespace SiteMap

theorem find?_sources (pages : Bool) {path : String} (hp : path = sourcesPath) :
    (standard pages).find? path = some (.collection, []) := find?_collection_iff.2 ⟨hp, rfl⟩

theorem find?_source (pages : Bool) {path raw : String} (hraw : raw ≠ "") (hmem : '/' ∉ raw.toList)
    (hp : path = sourcesPath ++ "/" ++ raw) :
    (standard pages).find? path = some (.item, [("id", raw)]) :=
  find?_item_iff.2 ⟨raw, hraw, hmem, hp, rfl⟩

end SiteMap

inductive Choice where
  | perform (w : WorkspaceId) (op : Operation)
  | refuse (e : ApiError)
  | unreadable (f : Extract.PathFault)

namespace Choice

def ofCollection (limit : Nat) (a : Arrival) : Choice :=
  match Extract.workspace a.request with
  | .error e => .refuse e
  | .ok w =>
    if a.request.method = "POST" then
      match Extract.createRequest a.lengthOrder limit a.request with
      | .error e => .refuse e
      | .ok c => .perform w (.create c.toDraft)
    else .perform w .list

def ofItem (values : List (String × String)) (r : Request) : Choice :=
  match Extract.workspace r with
  | .error e => .refuse e
  | .ok w =>
    match Extract.pathText values with
    | .error f => .unreadable f
    | .ok raw =>
      match Extract.sourceId raw with
      | .error e => .refuse e
      | .ok id => .perform w (if r.method = "DELETE" then .delete id else .find id)

/-- What a request for data sources comes to. -/
def of (limit : Nat) (sites : SiteMap) (a : Arrival) : Choice :=
  match sites.find? a.request.target.path with
  | some (.item, values) => ofItem values a.request
  | _ => ofCollection limit a

def handle (app : App σ) (a : Arrival) : Choice → σ → Handled σ
  | .perform w op, s => app.perform ⟨w, a.requestId⟩ a.stamp op s
  | .refuse e, s => App.refuse e s
  | .unreadable f, s => App.reply s (Reply.plain f.status f.message)

theorem handle_ofCollection (app : App σ) (a : Arrival) (s : σ) :
    app.collection a s = (ofCollection app.settings.maxBodySize a).handle app a s := by
  unfold App.collection ofCollection Extract.context
  cases Extract.workspace a.request with
  | error e => rfl
  | ok w =>
    by_cases hm : a.request.method = "POST"
    · simp only [Except.map, App.collectionOperation, if_pos hm]
      cases Extract.createRequest a.lengthOrder app.settings.maxBodySize a.request with
      | error e => rfl
      | ok c => rfl
    · simp only [Except.map, App.collectionOperation, if_neg hm]
      rfl

theorem handle_ofItem (app : App σ) (a : Arrival) (values : List (String × String)) (s : σ) :
    app.item a values s = (ofItem values a.request).handle app a s := by
  unfold App.item ofItem Extract.context
  cases Extract.workspace a.request with
  | error e => rfl
  | ok w =>
    simp only [Except.map]
    cases Extract.pathText values with
    | error f => rfl
    | ok raw =>
      simp only [App.itemOperation]
      cases Extract.sourceId raw with
      | error e => rfl
      | ok id => rfl

end Choice

namespace Choice

variable (limit : Nat) (pages : Bool) {a : Arrival} {w : WorkspaceId} {c : CreateRequest}
  {id : DataSourceId}

theorem of_noWorkspace (sites : SiteMap) (h : ∀ w, ¬ a.IsFor w) :
    ∃ detail, of limit sites a = .refuse (.badRequest detail) := by
  obtain ⟨detail, hd⟩ := Extract.workspace_eq_of_not_isFor h
  refine ⟨detail, ?_⟩
  unfold of
  split
  · rw [ofItem, hd]
  · rw [ofCollection, hd]

theorem of_sourcesPath (hp : a.request.target.path = sourcesPath) :
    of limit (.standard pages) a = ofCollection limit a := by
  simp only [of, SiteMap.find?_sources pages hp]

theorem of_list (hp : a.request.target.path = sourcesPath) (hm : a.request.method ≠ "POST")
    (hw : a.IsFor w) : of limit (.standard pages) a = .perform w .list := by
  rw [of_sourcesPath limit pages hp, ofCollection, hw]
  exact if_neg hm

theorem of_create (hp : a.request.target.path = sourcesPath) (hm : a.request.method = "POST")
    (hw : a.IsFor w) (hc : a.Holds limit c) :
    of limit (.standard pages) a =
      if c.badLengths = [] then .perform w (.create c.toDraft)
      else .refuse (.validation (Extract.lengthMessage a.lengthOrder c.lengthFaults)) := by
  rw [of_sourcesPath limit pages hp, ofCollection, hw, Extract.createRequest_eq hc]
  simp only [if_pos hm]
  by_cases hb : c.badLengths = []
  · simp only [if_pos hb]
  · simp only [if_neg hb]

theorem of_noRequest (hp : a.request.target.path = sourcesPath) (hm : a.request.method = "POST")
    (hw : a.IsFor w) (h : ∀ c, ¬ a.Holds limit c) :
    ∃ detail, of limit (.standard pages) a = .refuse (.badRequest detail) := by
  obtain ⟨detail, hd⟩ := Extract.createRequest_eq_of_not_holds h a.lengthOrder
  refine ⟨detail, ?_⟩
  rw [of_sourcesPath limit pages hp, ofCollection, hw, hd]
  simp only [if_pos hm]

theorem of_names (hn : a.Names id) (hw : a.IsFor w) :
    of limit (.standard pages) a =
      .perform w (if a.request.method = "DELETE" then .delete id else .find id) := by
  have hpoints : a.Points (.standard pages) id := Arrival.points_standard_iff.2 hn
  obtain ⟨values, raw, hf, ht, hid⟩ := hpoints
  simp only [of, hf]
  rw [ofItem, hw]
  simp only [ht, Extract.sourceId, hid]

theorem of_noId (h : a.AtSources) (hp : a.request.target.path ≠ sourcesPath) (hw : a.IsFor w)
    (hn : ∀ id, ¬ a.Names id) :
    (∃ detail, of limit (.standard pages) a = .refuse (.badRequest detail)) ∨
      of limit (.standard pages) a = .unreadable (.badText "id") := by
  obtain ⟨⟨raw, hraw, hmem, hpath⟩, -⟩ := h.resolve_left fun h => hp h.1
  simp only [of, SiteMap.find?_source pages hraw hmem hpath]
  rw [ofItem, hw]
  cases hd : Http.Percent.decode? raw with
  | none =>
    right
    simp only [Extract.pathText, Extract.decodeAll, hd]
    rfl
  | some text =>
    left
    have hid : DataSourceId.ofString? text = none :=
      Option.eq_none_iff_forall_ne_some.2 fun id hid => hn id ⟨raw, text, hpath, hmem, hd, hid⟩
    refine ⟨"Invalid data source id: " ++ text, ?_⟩
    simp only [Arrival.pathText_single_iff.2 hd, Extract.sourceId, hid]

end Choice

namespace App

variable (app : App σ) (pages : Bool) {a : Arrival}

/-- A serving whose response goes out as far as the method of the request lets it. -/
def sending (a : Arrival) (v : Served σ) : Served σ := { v with response := a.sent v.response }

theorem sent_status (a : Arrival) (r : Response) : (a.sent r).status = r.status := by
  unfold Arrival.sent
  split <;> rfl

theorem serve_of_find {sites : SiteMap} {site : Site} {values : List (String × String)}
    (hf : sites.find? a.request.target.path = some (site, values))
    (hm : a.request.method ∈ site.methods) (s : σ) :
    app.serve sites a s = sending a (Layer.all app a (app.handleAt site values a) s) := by
  unfold serve serveAt sending Arrival.sent
  simp only [hf, if_pos hm]
  split <;> rfl

/-- A request for data sources is served as its choice tells. -/
theorem serve_atSources (h : a.AtSources) (s : σ) :
    a.request.method ≠ "OPTIONS" ∧
      app.serve (.standard pages) a s =
        sending a (Layer.all app a
          ((Choice.of app.settings.maxBodySize (.standard pages) a).handle app a) s) := by
  rcases h with ⟨hp, hm⟩ | ⟨⟨raw, hraw, hmem, hp⟩, hm⟩
  · have hf := SiteMap.find?_sources pages hp
    have hc : app.handleAt .collection [] a = (Choice.of app.settings.maxBodySize
        (.standard pages) a).handle app a := by
      funext s
      simp only [Choice.of, hf]
      exact Choice.handle_ofCollection app a s
    exact ⟨Site.ne_options .collection hm, hc ▸ serve_of_find app hf hm s⟩
  · have hf := SiteMap.find?_source pages hraw hmem hp
    have hc : app.handleAt .item [("id", raw)] a = (Choice.of app.settings.maxBodySize
        (.standard pages) a).handle app a := by
      funext s
      simp only [Choice.of, hf]
      exact Choice.handle_ofItem app a _ s
    exact ⟨Site.ne_options .item hm, hc ▸ serve_of_find app hf hm s⟩

/-- The three ways in which a request for data sources ends: too late, with a reply, or in a
panic. -/
theorem serve_endings (h : a.AtSources) (s : σ) :
    let v := app.serve (.standard pages) a s
    let handled := (Choice.of app.settings.maxBodySize (.standard pages) a).handle app a s
    (Layer.Late app.settings handled ∧ v = sending a
      ⟨Layer.dressed app.settings a { status := 408 }, s, Layer.framed a 408 []⟩) ∨
    (∃ r, handled.ending = .ok r ∧ v = sending a
      ⟨Layer.dressed app.settings a r, handled.state, Layer.framed a r.status handled.trace⟩) ∨
    (∃ p, handled.ending = .error p ∧ v = sending a
      ⟨Reply.panic.replace Extract.requestIdHeader a.requestId, handled.state,
        Layer.framed a 500 (handled.trace ++ [.event (.panicked p.details) none])⟩) := by
  obtain ⟨hm, hs⟩ := serve_atSources app pages h s
  intro v handled
  by_cases hl : Layer.Late app.settings handled
  · exact .inl ⟨hl, hs.trans (congrArg _ (Layer.all_of_late app a hm hl))⟩
  · cases he : handled.ending with
    | ok r => exact .inr (.inl ⟨r, rfl, hs.trans (congrArg _ (Layer.all_of_reply app a hm hl he))⟩)
    | error p =>
      exact .inr (.inr ⟨p, rfl, hs.trans (congrArg _ (Layer.all_of_panic app a hm hl he))⟩)

end App

end SourceRegistry
