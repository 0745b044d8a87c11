import SourceRegistry.Proofs.Json.Printer
import SourceRegistry.Proofs.Serving.Histories

/-!
# Answers told by the history

Whoever has seen a history knows the answers to the next requests: a list shows the survivors of
the workspace, a survivor is found as it was when it was created and can be deleted, and nothing
else can.
-/

namespace SourceRegistry

namespace Exchange

def Shows (items : List String) (e : Exchange) : Prop :=
  e.response.status = 200 ∧ e.response.body = "[" ++ ",".intercalate items ++ "]"

def NotFound (i : DataSourceId) (e : Exchange) : Prop :=
  e.response.status = 404 ∧ e.response.body = (ErrorBody.toJson
    ⟨"NOT_FOUND", "Resource not found: Data source not found: " ++ i.text, none⟩).text

end Exchange

namespace App

open Exchange (survivors)

variable {settings : Settings} {pages : Bool} {w : WorkspaceId} {i : DataSourceId}
  {e : Exchange} {t : Store}

section
variable (ht : settings.timeoutSeconds ≠ 0)
  (he : e.response = ((standard settings).serve (.standard pages) e.arrival t).response)
include ht he

theorem shows_of_lists (h : e.Lists w) : e.Shows ((t.ofWorkspace w).map (·.body)) := by
  obtain ⟨hm, hp, hw⟩ := h
  have path : e.arrival.Finds (.standard pages) := Arrival.finds_standard_iff.2 hp
  have hv := serve_of_calls settings ht hw (.list path (.inl hm)) t
  rw [Service.outcome_list, Arrival.sent, if_neg (by simp [hm])] at hv
  refine ⟨he ▸ hv.status, ?_⟩
  rw [he, hv.body]
  refine (Json.text_array _).trans ?_
  rw [List.map_map, List.map_map]
  rfl

theorem found_of_gets (hids : (t.map (·.id)).Nodup) {d : DataSource} (hd : d ∈ t)
    (h : e.Gets d.workspace d.id) : e.response.status = 200 ∧ e.response.body = d.body := by
  obtain ⟨hm, hn, hw⟩ := h
  have path : e.arrival.Points (.standard pages) d.id := Arrival.points_standard_iff.2 hn
  have hv := serve_of_calls settings ht hw (.find path (.inl hm)) t
  rw [Service.outcome_find, Store.find?_of_mem hids hd, Arrival.sent, if_neg (by simp [hm])] at hv
  exact he ▸ ⟨hv.status, hv.body⟩

theorem deleted_of_deletes {d : DataSource} (hd : d ∈ t) (h : e.Deletes d.workspace d.id) :
    e.response.status = 204 ∧ e.response.body = "" := by
  obtain ⟨hm, hn, hw⟩ := h
  have path : e.arrival.Points (.standard pages) d.id := Arrival.points_standard_iff.2 hn
  have hv := serve_of_calls settings ht hw (.delete path hm) t
  rw [Service.outcome_delete, if_pos ⟨d, hd, rfl, rfl⟩, Arrival.sent, if_neg (by simp [hm])] at hv
  exact he ▸ ⟨hv.status, hv.body⟩

theorem notFound_of_absent (hd : ¬ ∃ d ∈ t, d.id = i ∧ d.workspace = w)
    (h : e.Gets w i ∨ e.Deletes w i) : e.NotFound i := by
  rcases h with ⟨hm, hn, hw⟩ | ⟨hm, hn, hw⟩
  · have path : e.arrival.Points (.standard pages) i := Arrival.points_standard_iff.2 hn
    have hv := serve_of_calls settings ht hw (.find path (.inl hm)) t
    rw [Service.outcome_find, Store.find?_eq_none_iff.2 hd, Arrival.sent,
      if_neg (by simp [hm])] at hv
    rw [Exchange.NotFound, he]
    exact ⟨hv.status, hv.body⟩
  · have path : e.arrival.Points (.standard pages) i := Arrival.points_standard_iff.2 hn
    have hv := serve_of_calls settings ht hw (.delete path hm) t
    rw [Service.outcome_delete, if_neg hd, Arrival.sent, if_neg (by simp [hm])] at hv
    rw [Exchange.NotFound, he]
    exact ⟨hv.status, hv.body⟩

end

variable {arrivals : List Arrival} {p q : List Exchange} {f : Exchange}

/-- Behind every exchange is a store of which the survivors are known. -/
theorem store_of_history
    (h : (standard settings).history (.standard pages) arrivals [] = p ++ e :: q) :
    ∃ t : Store, (t.map (·.id)).Nodup ∧
      (∀ w, (survivors w p).map Exchange.entry = (t.ofWorkspace w).map DataSource.entry) ∧
      e.response = ((standard settings).serve (.standard pages) e.arrival t).response := by
  obtain ⟨before, rfl, he⟩ := served_of_history (standard settings) (.standard pages) h
  exact ⟨_, nodup_serveAll (s := []) settings before List.nodup_nil,
    fun w => App.entries_survivors settings w before, he⟩

theorem stored_of_survivor
    (hs : (survivors w p).map Exchange.entry = (t.ofWorkspace w).map DataSource.entry)
    (hf : f ∈ survivors w p) :
    ∃ d ∈ t, d.workspace = w ∧ d.id = f.id ∧ d.body = f.response.body := by
  have hmem : f.entry ∈ (t.ofWorkspace w).map DataSource.entry := hs ▸ List.mem_map_of_mem hf
  obtain ⟨d, hd, he⟩ := List.mem_map.1 hmem
  obtain ⟨hdt, hw⟩ := Store.mem_ofWorkspace.1 hd
  obtain ⟨hid, hbody⟩ := Prod.mk.inj he
  exact ⟨d, hdt, hw, hid, hbody⟩

section
variable (ht : settings.timeoutSeconds ≠ 0)
  (hp : (standard settings).history (.standard pages) arrivals [] = p ++ e :: q)
include ht hp

theorem shows_survivors (h : e.Lists w) : e.Shows ((survivors w p).map (·.response.body)) := by
  obtain ⟨t, -, hs, he⟩ := store_of_history hp
  have hbodies := congrArg (List.map Prod.snd) (hs w)
  rw [List.map_map, List.map_map] at hbodies
  exact hbodies ▸ shows_of_lists ht he h

theorem found_of_survivor (hf : f ∈ survivors w p) (h : e.Gets w f.id) :
    e.response.status = 200 ∧ e.response.body = f.response.body := by
  obtain ⟨t, hids, hs, he⟩ := store_of_history hp
  obtain ⟨d, hd, rfl, hid, hbody⟩ := stored_of_survivor (hs w) hf
  rw [← hid] at h
  exact hbody ▸ found_of_gets ht he hids hd h

theorem deleted_of_survivor (hf : f ∈ survivors w p) (h : e.Deletes w f.id) :
    e.response.status = 204 ∧ e.response.body = "" := by
  obtain ⟨t, -, hs, he⟩ := store_of_history hp
  obtain ⟨d, hd, rfl, hid, -⟩ := stored_of_survivor (hs w) hf
  rw [← hid] at h
  exact deleted_of_deletes ht he hd h

theorem notFound_of_no_survivor (hf : ∀ f ∈ survivors w p, f.id ≠ i)
    (h : e.Gets w i ∨ e.Deletes w i) : e.NotFound i := by
  obtain ⟨t, -, hs, he⟩ := store_of_history hp
  refine notFound_of_absent ht he ?_ h
  rintro ⟨d, hd, hid, hw⟩
  have hmem : d.entry ∈ (survivors w p).map Exchange.entry :=
    hs w ▸ List.mem_map_of_mem (Store.mem_ofWorkspace.2 ⟨hd, hw⟩)
  obtain ⟨f, hfs, hfe⟩ := List.mem_map.1 hmem
  exact hf f hfs ((Prod.mk.inj hfe).1.trans hid)

end

/-- What a creation was answered tells the identifier. -/
theorem summary_of_creates
    (hp : (standard settings).history (.standard pages) arrivals [] = p ++ e :: q)
    (h : e.Creates w) : ∃ d : Summary, d.id = e.id ∧ d.workspace = w ∧
      e.response.body = (Representation.ofSummary d).toJson.text := by
  obtain ⟨t, hids, -, he⟩ := store_of_history hp
  have heff : Effect e.arrival t ((standard settings).serve (.standard pages) e.arrival t) :=
    effect_serve settings e.arrival hids
  obtain ⟨d, hd⟩ := heff.created.1 (he ▸ h.2.2)
  obtain ⟨-, -, hw, hid, -, hbody⟩ := heff.creation d hd
  exact ⟨d.summary, hid, hw.unique h.2.1, he ▸ hbody⟩

end App

end SourceRegistry
