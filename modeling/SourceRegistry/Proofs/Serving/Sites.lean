import SourceRegistry.Api.Site
import SourceRegistry.Proofs.Http.Route

/-!
# Where paths lead

With the path `/api/v1` the routes can always be built, and exactly one path leads to all data
sources of a workspace; the paths to one data source have one more segment, which is not empty.
Neither the fixed places nor the pages hide them.
-/

namespace SourceRegistry

open Http (Route)
open Text (splitChars)

namespace SiteMap

variable {m : SiteMap} {path : String} {site : Site} {values : List (String × String)}

theorem fixed?_ne_source (h : m.fixed? path = some site) : site ≠ .collection ∧ site ≠ .item := by
  unfold fixed? at h
  grind

/-- The places of data sources are reached through their routes only. -/
theorem source?_of_find? (h : m.find? path = some (site, values))
    (hs : site = .collection ∨ site = .item) : m.source? path = some (site, values) := by
  rw [find?] at h
  split at h
  · next place hf =>
    cases h
    obtain ⟨hc, hi⟩ := fixed?_ne_source hf
    rcases hs with rfl | rfl
    · exact absurd rfl hc
    · exact absurd rfl hi
  · split at h
    · cases h
      rcases hs with hs | hs <;> cases hs
    · cases hsrc : m.source? path with
      | some found =>
        rw [hsrc] at h
        exact h
      | none =>
        rw [hsrc] at h
        change (if m.isFile path then some (Site.pagesFile, []) else none) = _ at h
        split at h
        · cases h
          rcases hs with hs | hs <;> cases hs
        · cases h

theorem source?_collection_iff :
    m.source? path = some (.collection, values) ↔ m.collection.match? path = some values := by
  rw [source?]
  cases m.collection.match? path with
  | some found => simp
  | none => simp

theorem source?_item_iff :
    m.source? path = some (.item, values) ↔
      m.collection.match? path = none ∧ m.item.match? path = some values := by
  rw [source?]
  cases m.collection.match? path with
  | some found => simp
  | none => simp

def sourcesPath : String := "/api/v1/datasource"

def standard (pages : Bool) : SiteMap where
  collection := (splitChars '/' sourcesPath.toList).map (⟨·, none⟩)
  item := (splitChars '/' sourcesPath.toList).map (⟨·, none⟩) ++ [⟨[], some "id"⟩]
  pages := pages

theorem ofSettings?_eq_standard {s : Settings} (h : s.apiPath = "/api/v1") :
    ofSettings? s = some (standard s.swagger) := by
  have hc : Route.ofPath? (Http.nestPath "/api/v1" "/datasource") =
      some (standard true).collection := by decide
  have hi : Route.ofPath? (Http.nestPath "/api/v1" "/datasource/:id") =
      some (standard true).item := by decide
  have hp : hidesPages (standard true).collection = false := by decide
  simp only [ofSettings?, h, hc, hi, bind, Option.bind_some, hp, Bool.and_false]
  rfl

variable {pages : Bool}

theorem find?_collection_iff :
    (standard pages).find? path = some (.collection, values) ↔
      path = sourcesPath ∧ values = [] := by
  constructor
  · intro h
    have hm := source?_collection_iff.1 (source?_of_find? h (.inl rfl))
    rw [Route.match?, standard, Route.matchSegments?_literals] at hm
    split at hm
    · next hp =>
      cases hm
      exact ⟨String.toList_injective (Text.splitChars_injective '/' hp), rfl⟩
    · cases hm
  · rintro ⟨rfl, rfl⟩
    cases pages <;> decide

/-- The paths below the one to all data sources are no fixed places and no files of pages. -/
theorem find?_below (raw : String) :
    (standard pages).find? (sourcesPath ++ "/" ++ raw) =
      (standard pages).source? (sourcesPath ++ "/" ++ raw) := by
  have ht : (sourcesPath ++ "/" ++ raw).toList.take 5 = ['/', 'a', 'p', 'i', '/'] := by
    simp [sourcesPath]
  generalize sourcesPath ++ "/" ++ raw = path at ht
  have hf : (standard pages).fixed? path = none := by
    rw [fixed?, if_neg (by rintro rfl; revert ht; decide),
      if_neg (by rintro rfl; revert ht; decide),
      if_neg, if_neg, if_neg]
    all_goals
      rw [Bool.and_eq_true, decide_eq_true_iff, not_and]
      rintro - rfl
      revert ht
      decide
  have hp : (standard pages).isFile path = false := by
    rw [isFile, Bool.and_eq_false_iff, ← Bool.not_eq_true, ← Bool.not_eq_true,
      List.isPrefixOf_iff_prefix]
    right
    rintro ⟨rest, hrest⟩
    rw [← hrest] at ht
    simp at ht
  rw [find?, hf, hp]
  cases (standard pages).source? path <;> rfl

theorem find?_item_iff :
    (standard pages).find? path = some (.item, values) ↔
      ∃ raw : String, raw ≠ "" ∧ '/' ∉ raw.toList ∧ path = sourcesPath ++ "/" ++ raw ∧
        values = [("id", raw)] := by
  constructor
  · intro h
    obtain ⟨-, hm⟩ := source?_item_iff.1 (source?_of_find? h (.inr rfl))
    rw [Route.match?, standard, Route.matchSegments?_parameter_iff] at hm
    obtain ⟨v, hv, hp, rfl⟩ := hm
    have hv' : v ∈ splitChars '/' path.toList := by simp [hp]
    have hmem : '/' ∉ v := Text.not_mem_of_mem_splitChars hv'
    have hsplit : splitChars '/' (sourcesPath.toList ++ '/' :: v) = splitChars '/' path.toList := by
      rw [Text.splitChars_append_cons, Text.splitChars_of_not_mem hmem, hp]
    refine ⟨String.ofList v, by simpa using hv, by simpa using hmem, ?_, rfl⟩
    refine String.toList_injective ?_
    rw [← Text.splitChars_injective '/' hsplit]
    simp
  · rintro ⟨raw, hraw, hmem, rfl, rfl⟩
    have hsplit : splitChars '/' (sourcesPath ++ "/" ++ raw).toList =
        splitChars '/' sourcesPath.toList ++ [raw.toList] := by
      rw [← Text.splitChars_of_not_mem hmem, ← Text.splitChars_append_cons]
      simp
    rw [find?_below, source?_item_iff, Route.match?, Route.match?, hsplit]
    constructor
    · rw [standard, Route.matchSegments?_literals, if_neg (by simp)]
    · rw [standard, Route.matchSegments?_parameter_iff]
      exact ⟨raw.toList, by simpa using hraw, rfl, by simp⟩

end SiteMap

end SourceRegistry
