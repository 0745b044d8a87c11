import Mathlib.Data.List.Forall2
import SourceRegistry.Proofs.Serving.Answers
import SourceRegistry.Proofs.Serving.Errands

/-!
# Spellings of identifiers

An identifier can be written in many ways: in four forms, in either case, with white space around
it, and percent-encoded in a path. Requests that differ only in how they write the identifiers of
their workspace and their data source are served alike, whatever the use cases are: the response
is the same and so is the state behind it. `serveAll_respelled` says so for sequences of requests.
A header that is no plain text is refused before it is read as an identifier.
-/

namespace SourceRegistry

open Http (Request Response)
open SiteMap (sourcesPath)

/-- Two values of the header that name one workspace, both plain text or neither. -/
structure WorkspaceId.SameText (raw raw' : String) : Prop where
  id : ∃ w, ofString? raw = some w ∧ ofString? raw' = some w
  plain : Http.isPlain raw ↔ Http.isPlain raw'

/-- Two requests that are the same but for the spellings of the identifiers in the header of the
workspace and in the path. -/
structure Arrival.Respelled (a a' : Arrival) : Prop where
  method : a.request.method = a'.request.method
  path : a.request.target.path = a'.request.target.path ∨ ∃ id, a.Names id ∧ a'.Names id
  workspace : a.request.header? "workspaceid" = a'.request.header? "workspaceid" ∨
    ∃ raw raw', a.request.header? "workspaceid" = some raw ∧
      a'.request.header? "workspaceid" = some raw' ∧ WorkspaceId.SameText raw raw'
  headers : ∀ name, name ≠ "workspaceid" →
    a.request.headerValues name = a'.request.headerValues name
  body : a.request.body = a'.request.body
  freshId : a.freshId = a'.freshId
  stamp : a.stamp = a'.stamp
  lengthOrder : a.lengthOrder = a'.lengthOrder

namespace Arrival.Respelled

variable {a a' : Arrival} (h : a.Respelled a')
include h

theorem envelope : a.SameEnvelope a' where
  method := h.method
  headers name hn := h.headers name (by rintro rfl; revert hn; decide)
  freshId := h.freshId

theorem workspace_eq : Extract.workspace a.request = Extract.workspace a'.request := by
  have hheader : Extract.workspaceHeader = "workspaceid" := rfl
  unfold Extract.workspace
  rw [hheader]
  rcases h.workspace with he | ⟨raw, raw', hraw, hraw', ⟨w, hw, hw'⟩, hplain⟩
  · rw [he]
  · rw [hraw, hraw']
    dsimp only
    by_cases hp : Http.isPlain raw
    · rw [if_pos hp, if_pos (hplain.1 hp), hw, hw']
    · rw [if_neg hp, if_neg (mt hplain.2 hp)]

theorem createRequest_eq (limit : Nat) :
    Extract.createRequest a.lengthOrder limit a.request =
      Extract.createRequest a'.lengthOrder limit a'.request := by
  have hj : Extract.announcesJson a.request = Extract.announcesJson a'.request := by
    rw [Extract.announcesJson, Extract.announcesJson, Request.header?_eq_head?,
      Request.header?_eq_head?, h.headers _ (by decide)]
  unfold Extract.createRequest Extract.json
  rw [hj, h.body, h.lengthOrder]

/-- What a site makes of a request does not depend on its path. -/
theorem ofSite_eq (s : Settings) (values : List (String × String)) (site : Site) :
    Errand.ofSite s values a site = Errand.ofSite s values a' site := by
  cases site with
  | collection =>
    simp only [Errand.ofSite, Choice.ofCollection]
    rw [h.workspace_eq, h.method, h.createRequest_eq]
  | item =>
    simp only [Errand.ofSite, Choice.ofItem]
    rw [h.workspace_eq, h.method]
  | _ => rfl

/-- Two texts of one identifier in the path come to the same. -/
theorem ofItem_eq {values values' : List (String × String)} {raw raw' : String} {id : DataSourceId}
    (hv : Extract.pathText values = .ok raw) (hv' : Extract.pathText values' = .ok raw')
    (hid : DataSourceId.ofString? raw = some id) (hid' : DataSourceId.ofString? raw' = some id) :
    Choice.ofItem values a.request = Choice.ofItem values' a'.request := by
  unfold Choice.ofItem
  rw [h.workspace_eq, h.method, hv, hv']
  simp only [Extract.sourceId, hid, hid']

/-- The same use case is called, or none for the same reason. -/
theorem errand_eq (app : App σ) (pages : Bool) :
    app.errand (.standard pages) a = app.errand (.standard pages) a' := by
  unfold App.errand Errand.of
  rcases h.path with hp | ⟨id, hn, hn'⟩
  · rw [hp, h.method]
    split
    · rfl
    · rw [h.ofSite_eq]
  · have hp : a.Points (.standard pages) id := Arrival.points_standard_iff.2 hn
    have hp' : a'.Points (.standard pages) id := Arrival.points_standard_iff.2 hn'
    obtain ⟨values, raw, hf, hv, hid⟩ := hp
    obtain ⟨values', raw', hf', hv', hid'⟩ := hp'
    rw [hf, hf', h.method]
    simp only [Errand.ofSite, h.ofItem_eq hv hv' hid hid']

/-- Where a path is told, which is where it leads nowhere, it is the same. -/
theorem path_eq_of_nowhere {app : App σ} {pages : Bool}
    (hn : app.errand (.standard pages) a = .nowhere) :
    a.request.target.path = a'.request.target.path := by
  rcases h.path with hp | ⟨id, hid, -⟩
  · exact hp
  · have hpoints : a.Points (.standard pages) id := Arrival.points_standard_iff.2 hid
    obtain ⟨values, raw, hf, -, -⟩ := hpoints
    unfold App.errand Errand.of at hn
    rw [hf] at hn
    dsimp only at hn
    split at hn
    · cases hn
    · cases hn

/-- One request is answered alike and leaves the same state, whatever its identifiers are
spelled like. -/
theorem serve_eq (app : App σ) (pages : Bool) (s : σ) :
    (app.serve (.standard pages) a s).response = (app.serve (.standard pages) a' s).response ∧
      (app.serve (.standard pages) a s).state = (app.serve (.standard pages) a' s).state :=
  h.envelope.serve_eq h.stamp (h.errand_eq app pages) h.path_eq_of_nowhere s

end Arrival.Respelled

/-- However a request spells the workspace of a data source and its identifier: it lists the data
source, finds it, deletes it, and cannot create another of its name. -/
structure Arrival.Recognizes (limit : Nat) (d : DataSource) (a : Arrival) (r : Response) :
    Prop where
  listed : a.request.method = "GET" → a.request.target.path = sourcesPath → r.status = 200 ∧
    ∃ before after, r.body = "[" ++ ",".intercalate (before ++ d.body :: after) ++ "]"
  found : a.request.method = "GET" → a.Names d.id → r.status = 200 ∧ r.body = d.body
  deleted : a.request.method = "DELETE" → a.Names d.id → r.status = 204 ∧ r.body = ""
  guarded : ∀ c, a.request.method = "POST" → a.request.target.path = sourcesPath →
    a.Holds limit c → c.badLengths = [] → c.badFields = [] →
    Text.lower d.name = Text.lower (Text.trim c.name) → r.status = 409

namespace App

variable (settings : Settings) {pages : Bool} {a : Arrival} {s : Store} {d : DataSource}

theorem outcome_of_namesake {c : CreateRequest} (ctx : Context) (stamp : Stamp)
    (hb : c.badLengths = []) (hf : c.badFields = []) (hd : d ∈ s) (hw : d.workspace = ctx.workspace)
    (hn : Text.lower d.name = Text.lower (Text.trim c.name)) :
    (Service.outcome ctx stamp (.create c.toDraft) s).1 =
      .error (Service.taken (c.toDraft.source ctx.workspace stamp).name) := by
  have hacc : c.toDraft.Acceptable := Draft.faults_eq_nil_iff.1 (by
    rw [CreateRequest.faults_toDraft hb, hf]
    rfl)
  have hsame : ∃ e ∈ s, e.Namesakes (c.toDraft.source ctx.workspace stamp) := ⟨d, hd, hw, hn⟩
  rw [Service.outcome_create]
  simp only [if_neg (not_not_intro hacc), if_pos hsame]

theorem recognizes_serve (ht : settings.timeoutSeconds ≠ 0) (hids : (s.map (·.id)).Nodup)
    (hd : d ∈ s) (hw : a.IsFor d.workspace) :
    a.Recognizes settings.maxBodySize d
      ((standard settings).serve (.standard pages) a s).response := by
  generalize hr : ((standard settings).serve (.standard pages) a s).response = r
  have he : (Exchange.mk a r).response =
      ((standard settings).serve (.standard pages) a s).response := hr.symm
  constructor
  case listed =>
    intro hm hp
    obtain ⟨hstatus, hbody⟩ := shows_of_lists ht he ⟨hm, hp, hw⟩
    obtain ⟨before, after, hba⟩ := List.append_of_mem (Store.mem_ofWorkspace.2 ⟨hd, rfl⟩)
    refine ⟨hstatus, before.map (·.body), after.map (·.body), ?_⟩
    rw [hba, List.map_append, List.map_cons] at hbody
    exact hbody
  case found => exact fun hm hn => found_of_gets ht he hids hd ⟨hm, hn, hw⟩
  case deleted => exact fun hm hn => deleted_of_deletes ht he hd ⟨hm, hn, hw⟩
  case guarded =>
    intro c hm hp hc hb hf hn
    have path : a.Finds (.standard pages) := Arrival.finds_standard_iff.2 hp
    have hsends := serve_create (s := s) settings ht path hm hw
      ((Extract.createRequest_eq hc a.lengthOrder).trans (if_pos hb))
    rw [outcome_of_namesake ⟨d.workspace, a.requestId⟩ a.stamp hb hf hd rfl hn] at hsends
    exact hr ▸ hsends.status

/-- Sequences of requests that differ in the spellings of identifiers are answered alike and leave
the same state, whatever the use cases are. -/
theorem serveAll_respelled (app : App σ) (pages : Bool) {arrivals arrivals' : List Arrival}
    (h : List.Forall₂ Arrival.Respelled arrivals arrivals') (s : σ) :
    app.serveAll (.standard pages) arrivals s = app.serveAll (.standard pages) arrivals' s := by
  induction h generalizing s with
  | nil => rfl
  | cons ha _ ih =>
    obtain ⟨hresponse, hstate⟩ := ha.serve_eq app pages s
    simp only [serveAll]
    rw [hresponse, hstate, ih]

/-- Whatever the settings are besides the path, and whatever is stored: how identifiers are
spelled makes no difference to any sequence of requests, and what was created for a workspace is
recognized by every request that names the workspace in any spelling. -/
theorem respelled_standard (settings : Settings) (h : settings.apiPath = "/api/v1") :
    ∃ sites, SiteMap.ofSettings? settings = some sites ∧
      (∀ arrivals arrivals' s, List.Forall₂ Arrival.Respelled arrivals arrivals' →
        (standard settings).serveAll sites arrivals s =
          (standard settings).serveAll sites arrivals' s) ∧
      (settings.timeoutSeconds ≠ 0 → ∀ arrivals (a : Arrival),
        let s := ((standard settings).serveAll sites arrivals []).2
        ∀ d ∈ s, a.IsFor d.workspace →
          a.Recognizes settings.maxBodySize d ((standard settings).serve sites a s).response) :=
  ⟨_, SiteMap.ofSettings?_eq_standard h,
    fun _ _ s hr => serveAll_respelled (standard settings) settings.swagger hr s,
    fun ht arrivals _ _ hd hw =>
      recognizes_serve settings ht (nodup_serveAll settings arrivals List.nodup_nil) hd hw⟩

/-- A request with another text in the header of its workspace, which is its first, and with
another path. -/
def respelling (workspace path : String) (a : Arrival) : Arrival :=
  { a with request := { a.request with
    target := { a.request.target with path }
    headers := ("workspaceid", workspace) :: a.request.headers.tail } }

theorem respelled_respelling {a : Arrival} {raw workspace path : String} {rest : List Http.Header}
    (hfirst : a.request.headers = ("workspaceid", raw) :: rest)
    (hw : WorkspaceId.SameText raw workspace)
    (hp : a.request.target.path = path ∨
      ∃ id, a.Names id ∧ (respelling workspace path a).Names id) :
    a.Respelled (respelling workspace path a) where
  method := rfl
  path := hp
  workspace := by
    refine .inr ⟨raw, workspace, ?_, List.lookup_cons_self, hw⟩
    rw [Request.header?, hfirst]
    exact List.lookup_cons_self
  headers name hn := by
    have hne : ("workspaceid" == name) = false := beq_false_of_ne (Ne.symm hn)
    simp [Request.headerValues, respelling, hfirst, hne]
  body := rfl
  freshId := rfl
  stamp := rfl
  lengthOrder := rfl

open Fixture in
def spelledVisits : List Arrival :=
  let w : WorkspaceId := ⟨(stamp 11).id.uuid⟩
  [posting w 10, requesting "GET" w (stamp 10).id, posting w 12]

/-- The spelled visits in other words: urn, braces, letters of the other case, white space, and
percent-encoding. -/
def respelledVisits : List Arrival :=
  let w : WorkspaceId := ⟨(Fixture.stamp 11).id.uuid⟩
  [respelling "urn:uuid:BBBBBBBB-BBBB-BBBB-BBBB-BBBBBBBBBBBB" sourcesPath (posting w 10),
    respelling "{bbbbbbbb-bbbb-bbbb-bbbb-bbbbbbbbbbbb}"
      (sourcesPath ++ "/%20aaaaaaaaAAAAaaaa%41%41%41%41aaaaaaaaaaaa")
      (requesting "GET" w (Fixture.stamp 10).id),
    respelling "\tbbbbbbbbbbbbbbbbbbbbbbbbbbbbbbbb " sourcesPath (posting w 12)]

theorem respelled_visits :
    ({} : Settings).apiPath = "/api/v1" ∧ ∃ sites, SiteMap.ofSettings? {} = some sites ∧
      List.Forall₂ Arrival.Respelled spelledVisits respelledVisits ∧
      (standard {}).serveAll sites spelledVisits [] =
        (standard {}).serveAll sites respelledVisits [] ∧
      ((standard {}).serveAll sites respelledVisits []).1.map (·.status) = [201, 200, 409] := by
  obtain ⟨sites, hs, hsame, -⟩ := respelled_standard {} rfl
  obtain rfl : SiteMap.standard true = sites :=
    Option.some.inj ((SiteMap.ofSettings?_eq_standard rfl).symm.trans hs)
  have hr : List.Forall₂ Arrival.Respelled spelledVisits respelledVisits := by
    refine .cons (respelled_respelling rfl ⟨⟨_, ?_, rfl⟩, ?_⟩ (.inl rfl))
      (.cons (respelled_respelling rfl ⟨⟨_, ?_, rfl⟩, ?_⟩
        (.inr ⟨(Fixture.stamp 10).id, ?_, ?_⟩))
      (.cons (respelled_respelling rfl ⟨⟨_, ?_, rfl⟩, ?_⟩ (.inl rfl)) .nil))
    all_goals decide +kernel
  exact ⟨rfl, _, hs, hr, hsame _ _ [] hr, by decide +kernel⟩

/-- A space that does not break is white space, and may stand in a header, but is no plain text. -/
theorem not_respelled_space :
    let plain := WorkspaceId.nil.text
    let spaced := "\u00a0" ++ plain
    let a := { posting .nil 1 with request := { (posting .nil 1).request with method := "GET" } }
    let status (raw : String) := ((standard {}).serve (.standard true)
      (respelling raw sourcesPath a) []).response.status
    SiteMap.ofSettings? {} = some (.standard true) ∧
      Http.isHeaderValue plain ∧ Http.isHeaderValue spaced ∧
      WorkspaceId.ofString? plain = some .nil ∧ WorkspaceId.ofString? spaced = some .nil ∧
      status plain = 200 ∧ status spaced = 400 := by
  refine ⟨SiteMap.ofSettings?_eq_standard rfl, ?_⟩
  decide +kernel

end App

end SourceRegistry
