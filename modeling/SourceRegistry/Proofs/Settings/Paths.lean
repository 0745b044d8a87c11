import SourceRegistry.Proofs.Http.Target
import SourceRegistry.Proofs.Json.Printer
import SourceRegistry.Proofs.Serving.Calls
import SourceRegistry.Proofs.Serving.Sites
import SourceRegistry.Proofs.Settings.Basic

/-!
# Which valid settings work

Valid settings work if the service starts with them and the list of data sources is served at the
path that clients are told. Validation does not ensure this: `works_iff` says what else the base
path and the version need.
-/

namespace SourceRegistry

open Http (Route Target)
open Text (splitChars)

namespace Settings

variable {s : Settings}

theorem of_validate (h : s.validate = .ok ()) :
    s.timeoutSeconds ≠ 0 ∧ s.basePath.toList.head? = some '/' := by
  obtain ⟨-, ht, hb, -⟩ := validate_eq_ok_iff.1 h
  exact ⟨ht, hb⟩

theorem toList_apiPath (s : Settings) :
    s.apiPath.toList = (Text.trimEndOf '/' s.basePath).toList ++
      '/' :: (Text.trimEndOf '/' (Text.trimStartOf '/' s.version)).toList := by
  simp [apiPath]

theorem head?_apiPath (h : s.validate = .ok ()) : s.apiPath.toList.head? = some '/' := by
  obtain ⟨rest, hrest⟩ := Text.trimEndOf_prefix '/' s.basePath
  have hb := (of_validate h).2
  rw [toList_apiPath]
  cases hc : (Text.trimEndOf '/' s.basePath).toList with
  | nil => rfl
  | cons c cs =>
    rw [← hrest, hc] at hb
    exact hb

/-- The path ends in a slash if the version has nothing but slashes. -/
theorem getLast?_apiPath_iff :
    s.apiPath.toList.getLast? = some '/' ↔ ∀ c ∈ s.version.toList, c = '/' := by
  rw [← Text.trimEndOf_trimStartOf_eq_empty_iff, toList_apiPath]
  have hl := Text.getLast?_trimEndOf '/' (Text.trimStartOf '/' s.version)
  generalize Text.trimEndOf '/' (Text.trimStartOf '/' s.version) = version at hl ⊢
  rw [← String.toList_eq_nil_iff, List.getLast?_append_cons]
  cases hc : version.toList with
  | nil => simp
  | cons c cs =>
    rw [hc] at hl
    simpa using hl

end Settings

namespace Settings

/-- Where clients are told to find the data sources of a workspace. -/
def listPath (s : Settings) : String := s.apiPath ++ "/datasource"

/-- The service starts, and asked for the data sources of a workspace where clients are told to
ask, it lists them; at first there are none. -/
def Works (s : Settings) : Prop :=
  ∃ sites target values, SiteMap.ofSettings? s = some sites ∧
    Target.ofString? s.listPath = some target ∧
    sites.find? target.path = some (.collection, values) ∧
    ∀ a w, a.request.method = "GET" → a.request.target = target → a.IsFor w →
      ((App.standard s).serve sites a []).response.status = 200 ∧
      ((App.standard s).serve sites a []).response.body = "[]"

/-- What settings need besides being valid. -/
structure Routable (s : Settings) : Prop where
  /-- The path can be written as a route, and a parameter more behind it. -/
  written : Route.Writable s.apiPath.toList 24
  /-- The path does not end in a slash. -/
  version : ∃ c ∈ s.version.toList, c ≠ '/'
  /-- The path can be sent as it is. -/
  sent : ∀ c ∈ s.apiPath.toList, Target.isPathChar c
  short : s.listPath.utf8ByteSize ≤ Target.maxLength

variable {s : Settings} {sites : SiteMap} {target : Target} {values : List (String × String)}

theorem toList_listPath (s : Settings) :
    s.listPath.toList = s.apiPath.toList ++ '/' :: "datasource".toList := String.toList_append

theorem isPathChar_datasource : ∀ c ∈ '/' :: "datasource".toList, Target.isPathChar c :=
  List.all_eq_true.1 (by decide)

theorem head?_listPath (hv : s.validate = .ok ()) : s.listPath.toList.head? = some '/' := by
  rw [toList_listPath, List.head?_append, head?_apiPath hv]
  rfl

theorem of_ofSettings? (h : SiteMap.ofSettings? s = some sites) :
    Route.ofPath? (Http.nestPath s.apiPath "/datasource") = some sites.collection ∧
      Route.ofPath? (Http.nestPath s.apiPath "/datasource/:id") = some sites.item := by
  simp only [SiteMap.ofSettings?, bind, Option.bind_eq_some_iff] at h
  obtain ⟨collection, hc, item, hi, h⟩ := h
  split at h
  · cases h
  · cases h
    exact ⟨hc, hi⟩

/-- Behind a slash, the route has one slash less than the path that clients are told. -/
theorem count_slash_nestPath (path : String) :
    (Http.nestPath path "/datasource").toList.count '/' =
      if path.toList.getLast? = some '/' then path.toList.count '/'
      else path.toList.count '/' + 1 := by
  have hd : (Text.trimStartOf '/' "/datasource").toList.count '/' = 0 := by decide
  have hd' : "/datasource".toList.count '/' = 1 := by decide
  rw [Http.nestPath]
  split
  · rw [String.toList_append, List.count_append, hd, Nat.add_zero]
  · rw [String.toList_append, List.count_append, hd']

theorem count_slash_of_find? (hsites : SiteMap.ofSettings? s = some sites)
    (hf : sites.find? target.path = some (.collection, values)) :
    target.path.toList.count '/' = (Http.nestPath s.apiPath "/datasource").toList.count '/' :=
  Route.count_slash_of_match? (of_ofSettings? hsites).1
    (SiteMap.source?_collection_iff.1 (SiteMap.source?_of_find? hf (.inl rfl)))

/-- A path that is cut has fewer slashes than the route. -/
theorem count_slash_takeWhile_lt {path : String} (h : ¬ ∀ c ∈ path.toList, Target.isPathChar c) :
    (path.toList.takeWhile Target.isPathChar).count '/' <
      (Http.nestPath path "/datasource").toList.count '/' := by
  have hne : path.toList.dropWhile Target.isPathChar ≠ [] := mt List.dropWhile_eq_nil_iff.1 h
  have hsplit := List.takeWhile_append_dropWhile (p := Target.isPathChar) (l := path.toList)
  have hcount : path.toList.count '/' = (path.toList.takeWhile Target.isPathChar).count '/' +
      (path.toList.dropWhile Target.isPathChar).count '/' := by
    rw [← List.count_append, hsplit]
  rw [count_slash_nestPath]
  split
  · next hlast =>
    -- the last slash is behind the cut
    rw [← hsplit, List.getLast?_append_of_ne_nil _ hne] at hlast
    have := List.count_pos_iff.2 (List.mem_of_getLast? hlast)
    omega
  · omega

theorem writable_item :
    ∀ p ∈ splitChars '/' "datasource/:id".toList, Http.Segment.Writable p := by decide

theorem routable_of_works (hv : s.validate = .ok ()) (h : s.Works) : s.Routable := by
  obtain ⟨sites, target, values, hsites, htarget, hf, -⟩ := h
  have hpath := Target.path_of_ofString? htarget (head?_listPath hv)
  have hcount := count_slash_of_find? hsites hf
  rw [hpath, toList_listPath] at hcount
  have hsent : ∀ c ∈ s.apiPath.toList, Target.isPathChar c := by
    by_contra hsent
    have hcut : (s.apiPath.toList ++ '/' :: "datasource".toList).takeWhile Target.isPathChar =
        s.apiPath.toList.takeWhile Target.isPathChar := by
      rw [List.takeWhile_append, if_neg]
      intro hl
      exact hsent (List.takeWhile_eq_self_iff.1 ((List.takeWhile_prefix _).eq_of_length hl))
    rw [hcut] at hcount
    exact absurd hcount (Nat.ne_of_lt (count_slash_takeWhile_lt hsent))
  have hall : ∀ c ∈ s.apiPath.toList ++ '/' :: "datasource".toList, Target.isPathChar c :=
    List.forall_mem_append.2 ⟨hsent, isPathChar_datasource⟩
  rw [List.takeWhile_eq_self_iff.2 hall] at hcount
  have hlast : s.apiPath.toList.getLast? ≠ some '/' := by
    intro hlast
    rw [count_slash_nestPath, if_pos hlast] at hcount
    simp at hcount
  refine ⟨?_, ?_, hsent, (Option.ite_none_right_eq_some.1 htarget).1⟩
  · have hitem : (Route.ofPath? (Http.nestPath s.apiPath "/datasource/:id")).isSome := by
      rw [(of_ofSettings? hsites).2]
      rfl
    rw [Http.nestPath, if_neg hlast, Route.isSome_ofPath?_iff, String.toList_append] at hitem
    exact (Route.writable_append_iff _ 24 (by decide) writable_item).1 hitem
  · by_contra hv
    exact hlast (getLast?_apiPath_iff.2 (by simpa using hv))

/-- The path to the list is no fixed place. -/
theorem find?_listPath {m : SiteMap} (hp : m.pages = false)
    (hm : m.collection.match? s.listPath = some values) :
    m.find? s.listPath = some (.collection, values) := by
  have hlast : s.listPath.toList.getLast? = some 'e' := by
    rw [toList_listPath, List.getLast?_append_cons]
    decide
  have hfixed : m.fixed? s.listPath = none := by
    rw [SiteMap.fixed?, if_neg fun h => by rw [h] at hlast; revert hlast; decide,
      if_neg fun h => by rw [h] at hlast; revert hlast; decide, hp]
    rfl
  have hfile : m.isFile s.listPath = false := by
    rw [SiteMap.isFile, hp]
    rfl
  rw [SiteMap.find?, hfixed, hfile, SiteMap.source?_collection_iff.2 hm]
  rfl

theorem isSome_ofPath?_collection (h : s.Routable) :
    (Route.ofPath? s.listPath).isSome := by
  rw [Route.isSome_ofPath?_iff, toList_listPath]
  refine (Route.writable_append_iff _ 25 (by decide) (by decide)).2 ?_
  exact ⟨h.written.noAsterisk, h.written.segments, Nat.le_succ_of_le h.written.parameters⟩

theorem isSome_ofPath?_item (h : s.Routable) :
    (Route.ofPath? (s.apiPath ++ "/datasource/:id")).isSome := by
  rw [Route.isSome_ofPath?_iff, String.toList_append]
  exact (Route.writable_append_iff _ 24 (by decide) writable_item).2 h.written

theorem works_of_routable (hv : s.validate = .ok ()) (hs : s.swagger = false) (h : s.Routable) :
    s.Works := by
  have hlast : ¬ s.apiPath.toList.getLast? = some '/' := by
    rw [getLast?_apiPath_iff]
    obtain ⟨c, hc, hne⟩ := h.version
    exact fun hall => hne (hall c hc)
  obtain ⟨collection, hcollection⟩ := Option.isSome_iff_exists.1 (isSome_ofPath?_collection h)
  obtain ⟨item, hitem⟩ := Option.isSome_iff_exists.1 (isSome_ofPath?_item h)
  have hsites : SiteMap.ofSettings? s = some ⟨collection, item, false⟩ := by
    have hc : Http.nestPath s.apiPath "/datasource" = s.listPath := if_neg hlast
    have hi : Http.nestPath s.apiPath "/datasource/:id" = s.apiPath ++ "/datasource/:id" :=
      if_neg hlast
    simp only [SiteMap.ofSettings?, hc, hi, hcollection, hitem, hs]
    rfl
  have htarget : Target.ofString? s.listPath = some ⟨none, none, s.listPath, none⟩ := by
    refine Target.ofString?_of_isPathChar (head?_listPath hv) h.short ?_
    rw [toList_listPath]
    exact List.forall_mem_append.2 ⟨h.sent, isPathChar_datasource⟩
  obtain ⟨values, hvalues⟩ :=
    Option.isSome_iff_exists.1 (Route.isSome_match?_of_ofPath? hcollection)
  have hfind : SiteMap.find? ⟨collection, item, false⟩ s.listPath = some (.collection, values) :=
    find?_listPath rfl hvalues
  refine ⟨_, _, values, hsites, htarget, hfind, fun a w hm ht hw => ?_⟩
  have path : a.Finds ⟨collection, item, false⟩ := ⟨values, by rw [ht]; exact hfind⟩
  have hsend := App.serve_of_calls s (of_validate hv).1 hw (.list path (.inl hm)) []
  rw [Service.outcome_list, Arrival.sent, if_neg (by simp [hm])] at hsend
  exact ⟨hsend.status, hsend.body⟩

/-- Valid settings without the pages work if their path makes a route and can be sent, and their
version has more than slashes. -/
theorem works_iff (hv : s.validate = .ok ()) (hs : s.swagger = false) : s.Works ↔ s.Routable :=
  ⟨routable_of_works hv, works_of_routable hv hs⟩

theorem works_default : let s : Settings := { swagger := false }
    s.validate = .ok () ∧ s.swagger = false ∧ (s.Works ↔ s.Routable) ∧ s.Routable := by
  have hv : Settings.validate { swagger := false } = .ok () := by decide
  exact ⟨hv, rfl, works_iff hv rfl, ⟨⟨by decide, by decide, by decide⟩, ⟨'v', by decide⟩,
    List.all_eq_true.1 (by decide), by decide⟩⟩

def slashVersion : Settings := { version := "/", swagger := false }

/-- These settings are valid and the service starts with them, but where clients are told to find
the data sources there is nothing. -/
theorem not_works_slashVersion :
    slashVersion.validate = .ok () ∧ slashVersion.swagger = false ∧ ¬ slashVersion.Works ∧
      (∃ op ∈ Document.operations slashVersion,
        op.method = "get" ∧ op.path = slashVersion.listPath) ∧
      ∃ sites target, SiteMap.ofSettings? slashVersion = some sites ∧
        Target.ofString? slashVersion.listPath = some target ∧
        let a : Arrival := { App.posting .nil 1 with
          request := { method := "GET", target, headers := [("workspaceid", WorkspaceId.nil.text)],
                       body := [] } }
        a.IsFor .nil ∧ ((App.standard slashVersion).serve sites a []).response.status = 404 := by
  have hv : slashVersion.validate = .ok () := by decide
  refine ⟨hv, rfl, fun h => ?_, ?_, ?_⟩
  · obtain ⟨c, hc, hne⟩ := (routable_of_works hv h).version
    exact hne (by simpa [slashVersion] using hc)
  · decide +kernel
  · exact ⟨_, _, rfl, rfl, by decide, by decide +kernel⟩

end Settings

end SourceRegistry
