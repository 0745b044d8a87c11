import SourceRegistry.Proofs.Serving.Answers

/-!
# The life of a data source

From its creation until its workspace deletes it a data source is found and listed as it was
created; from then on it is never seen again. Other workspaces never see it at all, and nothing
that they or malformed requests do changes this. A `Life` says so for one creation in a history.
-/

namespace SourceRegistry

open SiteMap (sourcesPath)

/-- A path that ends in the text of an identifier names it. -/
theorem Arrival.names_of_text {a : Arrival} {i : DataSourceId}
    (h : a.request.target.path = sourcesPath ++ "/" ++ i.text) : a.Names i :=
  ⟨i.text, i.text, h, i.uuid.slash_not_mem_text, i.uuid.decode?_text, i.ofString?_text⟩

namespace Exchange

variable {w : WorkspaceId} {c f : Exchange} {i : DataSourceId} {h₁ h₂ m : List Exchange}

/-- The bodies of the creations before `m` that survive it. -/
def earlier (w : WorkspaceId) (h m : List Exchange) : List String :=
  ((survivors w h).filter fun e => Spares w m e.id).map (·.response.body)

/-- The bodies of the creations within `m` that survive it. -/
def later (w : WorkspaceId) (m : List Exchange) : List String :=
  (survivors w m).map (·.response.body)

/-- What happens to a data source that was created for `w` between `h₁` and `h₂`. -/
structure Life (w : WorkspaceId) (h₁ : List Exchange) (c : Exchange) (h₂ : List Exchange) :
    Prop where
  made : ∃ d : Summary, d.id = c.id ∧ d.workspace = w ∧
    c.response.body = (Representation.ofSummary d).toJson.text
  /-- The identifier that the client was told is the one in the path. -/
  named : ∀ a : Arrival, a.request.target.path = sourcesPath ++ "/" ++ c.id.text → a.Names c.id
  found : ∀ m e q, h₂ = m ++ e :: q → Spares w m c.id → e.Gets w c.id →
    e.response.status = 200 ∧ e.response.body = c.response.body
  listed : ∀ m e q, h₂ = m ++ e :: q → Spares w m c.id → e.Lists w →
    e.Shows (earlier w h₁ m ++ c.response.body :: later w m) ∧
      c.response.body ∉ earlier w h₁ m ∧ c.response.body ∉ later w m
  deleted : ∀ m e q, h₂ = m ++ e :: q → Spares w m c.id → e.Deletes w c.id →
    e.response.status = 204 ∧ e.response.body = ""
  gone : ∀ m e q, h₂ = m ++ e :: q → ¬ Spares w m c.id → e.Gets w c.id ∨ e.Deletes w c.id →
    e.NotFound c.id
  unlisted : ∀ m e q, h₂ = m ++ e :: q → ¬ Spares w m c.id → e.Lists w →
    e.Shows (earlier w h₁ m ++ later w m) ∧ c.response.body ∉ earlier w h₁ m ++ later w m
  /-- Others do not find it, at no time. -/
  foreign : ∀ p e q v, h₁ ++ c :: h₂ = p ++ e :: q → v ≠ w → e.Gets v c.id ∨ e.Deletes v c.id →
    e.NotFound c.id
  hidden : ∀ p e q v, h₁ ++ c :: h₂ = p ++ e :: q → v ≠ w → e.Lists v →
    ∃ items, e.Shows items ∧ c.response.body ∉ items

theorem Creates.not_removes (h : c.Creates w) : ¬ c.Removes w i :=
  fun hr => absurd (h.2.2.symm.trans hr.2) (by decide)

theorem survivors_around (h : c.Creates w) (h₁ m : List Exchange) :
    survivors w (h₁ ++ c :: m) = (survivors w h₁).filter (fun e => Spares w m e.id) ++
      (if Spares w m c.id then [c] else []) ++ survivors w m := by
  have hs : ∀ i, Spares w (c :: m) i ↔ Spares w m i := fun i => by
    rw [Spares, List.forall_mem_cons]
    exact and_iff_right h.not_removes
  rw [survivors_append, survivors, List.append_assoc]
  simp only [hs]
  by_cases hm : Spares w m c.id
  · rw [if_pos ⟨h, hm⟩, if_pos hm, List.singleton_append]
  · rw [if_neg fun hc => hm hc.2, if_neg hm, List.nil_append]

end Exchange

namespace App

open Exchange

variable {settings : Settings} {pages : Bool} {w : WorkspaceId} {arrivals : List Arrival}
  {h₁ h₂ : List Exchange} {c : Exchange}

/-- Creations that are answered alike give the same identifier away. -/
theorem id_eq_of_body {hist : List Exchange} {e f : Exchange} {v : WorkspaceId}
    (hh : (standard settings).history (.standard pages) arrivals [] = hist)
    (he : e ∈ hist) (hew : e.Creates w) (hf : f ∈ hist) (hfv : f.Creates v)
    (hb : e.response.body = f.response.body) : e.id = f.id := by
  obtain ⟨p, q, hp⟩ := List.append_of_mem he
  obtain ⟨p', q', hp'⟩ := List.append_of_mem hf
  obtain ⟨d, hd, -, hde⟩ := summary_of_creates (hh.trans hp) hew
  obtain ⟨d', hd', -, hde'⟩ := summary_of_creates (hh.trans hp') hfv
  rw [← hd, ← hd']
  exact Representation.id_of_text (hde.symm.trans (hb.trans hde'))

section
variable (hfresh : (arrivals.filterMap (·.newId?)).Nodup)
  (hist : (standard settings).history (.standard pages) arrivals [] = h₁ ++ c :: h₂)
  (hc : c.Creates w)
include hfresh hist hc

/-- No other creation gives the same identifier away. -/
theorem id_ne_of_creates {f : Exchange} (hf : f ∈ h₁ ++ h₂) {v : WorkspaceId} (hv : f.Creates v) :
    f.id ≠ c.id := by
  have hid : ∀ {e : Exchange} {v}, e.Creates v → e.arrival.newId? = some e.id :=
    fun h => if_pos h.1
  have hmap := map_arrival_history (standard settings) (.standard pages) arrivals []
  rw [hist] at hmap
  rw [← hmap, List.filterMap_map, List.filterMap_append,
    List.filterMap_cons_some (show (Arrival.newId? ∘ (·.arrival)) c = some c.id from hid hc),
    List.nodup_middle, List.nodup_cons, ← List.filterMap_append] at hfresh
  exact fun he => hfresh.1 (List.mem_filterMap.2 ⟨f, hf, he ▸ hid hv⟩)

/-- No other creation is answered alike. -/
theorem body_ne_of_creates {f : Exchange} (hf : f ∈ h₁ ++ h₂) {v : WorkspaceId}
    (hv : f.Creates v) : f.response.body ≠ c.response.body := by
  have hmem : f ∈ h₁ ++ c :: h₂ :=
    ((List.sublist_cons_self c h₂).append_left h₁).subset hf
  have hcmem : c ∈ h₁ ++ c :: h₂ := List.mem_append_right _ List.mem_cons_self
  exact fun hb => id_ne_of_creates hfresh hist hc hf hv (id_eq_of_body hist hmem hv hcmem hc hb)

theorem not_mem_earlier (m : List Exchange) : c.response.body ∉ earlier w h₁ m := by
  intro hm
  obtain ⟨f, hf, hb⟩ := List.mem_map.1 hm
  obtain ⟨hf, hw⟩ := mem_of_mem_survivors (List.mem_filter.1 hf).1
  exact body_ne_of_creates hfresh hist hc (List.mem_append_left _ hf) hw hb

theorem not_mem_later {m q : List Exchange} (hm : h₂ = m ++ q) : c.response.body ∉ later w m := by
  intro hmem
  obtain ⟨f, hf, hb⟩ := List.mem_map.1 hmem
  obtain ⟨hf, hw⟩ := mem_of_mem_survivors hf
  exact body_ne_of_creates hfresh hist hc
    (List.mem_append_right _ (hm ▸ List.mem_append_left _ hf)) hw hb

/-- Once it is deleted, no survivor has its identifier. -/
theorem survivor_id_ne {m q : List Exchange} (hm : h₂ = m ++ q) (hs : ¬ Spares w m c.id) :
    ∀ f ∈ survivors w (h₁ ++ c :: m), f.id ≠ c.id := by
  intro f hf
  rw [survivors_around hc, if_neg hs, List.append_nil] at hf
  rcases List.mem_append.1 hf with hf | hf
  · obtain ⟨hf, hw⟩ := mem_of_mem_survivors (List.mem_filter.1 hf).1
    exact id_ne_of_creates hfresh hist hc (List.mem_append_left _ hf) hw
  · obtain ⟨hf, hw⟩ := mem_of_mem_survivors hf
    exact id_ne_of_creates hfresh hist hc
      (List.mem_append_right _ (hm ▸ List.mem_append_left _ hf)) hw

/-- No survivor of another workspace has its identifier or its body. -/
theorem foreign_survivor_ne {p q : List Exchange} {v : WorkspaceId} (hp : h₁ ++ c :: h₂ = p ++ q)
    (hv : v ≠ w) : ∀ f ∈ survivors v p, f.id ≠ c.id ∧ f.response.body ≠ c.response.body := by
  intro f hf
  obtain ⟨hf, hfv⟩ := mem_of_mem_survivors hf
  have hother : f ∈ h₁ ++ h₂ := by
    have hmem : f ∈ h₁ ++ c :: h₂ := hp ▸ List.mem_append_left _ hf
    rcases List.mem_append.1 hmem with h | h
    · exact List.mem_append_left _ h
    · rcases List.mem_cons.1 h with rfl | h
      · exact absurd (hfv.2.1.unique hc.2.1) hv
      · exact List.mem_append_right _ h
  exact ⟨id_ne_of_creates hfresh hist hc hother hfv, body_ne_of_creates hfresh hist hc hother hfv⟩

theorem life_of_creates (ht : settings.timeoutSeconds ≠ 0) : Life w h₁ c h₂ := by
  have hat : ∀ m e q, h₂ = m ++ e :: q →
      (standard settings).history (.standard pages) arrivals [] = (h₁ ++ c :: m) ++ e :: q := by
    rintro m e q rfl
    rw [hist, List.append_assoc]
    rfl
  have hself : ∀ m, Spares w m c.id → c ∈ survivors w (h₁ ++ c :: m) := by
    intro m hm
    rw [survivors_around hc, if_pos hm]
    simp
  exact
    { made := summary_of_creates hist hc
      named := fun _ => Arrival.names_of_text
      found := fun m e q he hm h => found_of_survivor ht (hat m e q he) (hself m hm) h
      listed := fun m e q he hm h => by
        refine ⟨?_, not_mem_earlier hfresh hist hc m, not_mem_later hfresh hist hc he⟩
        have hs := shows_survivors ht (hat m e q he) h
        rw [survivors_around hc, if_pos hm] at hs
        simpa [earlier, later] using hs
      deleted := fun m e q he hm h => deleted_of_survivor ht (hat m e q he) (hself m hm) h
      gone := fun m e q he hm h =>
        notFound_of_no_survivor ht (hat m e q he) (survivor_id_ne hfresh hist hc he hm) h
      unlisted := fun m e q he hm h => by
        have hs := shows_survivors ht (hat m e q he) h
        rw [survivors_around hc, if_neg hm] at hs
        refine ⟨by simpa [earlier, later] using hs, fun hmem => ?_⟩
        rcases List.mem_append.1 hmem with hmem | hmem
        · exact not_mem_earlier hfresh hist hc m hmem
        · exact not_mem_later hfresh hist hc he hmem
      foreign := fun p e q v hp hv h => notFound_of_no_survivor ht (hist.trans hp)
        (fun f hf => (foreign_survivor_ne hfresh hist hc hp hv f hf).1) h
      hidden := fun p e q v hp hv h => by
        refine ⟨_, shows_survivors ht (hist.trans hp) h, fun hmem => ?_⟩
        obtain ⟨f, hf, hb⟩ := List.mem_map.1 hmem
        exact (foreign_survivor_ne hfresh hist hc hp hv f hf).2 hb }

end

/-- Every creation in a history of the service begins such a life, if no identifier is given
away twice. -/
theorem life_serveAll (settings : Settings) (h : settings.apiPath = "/api/v1")
    (ht : settings.timeoutSeconds ≠ 0) :
    ∃ sites, SiteMap.ofSettings? settings = some sites ∧ ∀ arrivals,
      (arrivals.filterMap (·.newId?)).Nodup → ∀ h₁ c h₂ w,
      (standard settings).history sites arrivals [] = h₁ ++ c :: h₂ → c.Creates w →
      Life w h₁ c h₂ :=
  ⟨_, SiteMap.ofSettings?_eq_standard h, fun _ hfresh _ _ _ _ hist hc =>
    life_of_creates hfresh hist hc ht⟩

open Fixture in
/-- A data source is created, found, deleted, and looked for again; another workspace has one of
the same name and looks for this one too. -/
def visits : List Arrival :=
  let other : WorkspaceId := ⟨(stamp 9).id.uuid⟩
  [posting other 1, posting .nil 2, requesting "GET" .nil (stamp 2).id,
    requesting "GET" other (stamp 2).id, requesting "DELETE" .nil (stamp 2).id,
    requesting "GET" .nil (stamp 2).id]

theorem life_visits :
    ({} : Settings).apiPath = "/api/v1" ∧ ({} : Settings).timeoutSeconds ≠ 0 ∧
      ∃ sites, SiteMap.ofSettings? {} = some sites ∧ (visits.filterMap (·.newId?)).Nodup ∧
      ∃ h₁ c h₂, (standard {}).history sites visits [] = h₁ ++ c :: h₂ ∧ c.Creates .nil ∧
        Life .nil h₁ c h₂ ∧ h₂.map (·.response.status) = [200, 404, 204, 404] := by
  have ht : ({} : Settings).timeoutSeconds ≠ 0 := by decide
  have hfresh : (visits.filterMap (·.newId?)).Nodup := by decide
  obtain ⟨sites, hs, hlife⟩ := life_serveAll {} rfl ht
  obtain rfl : SiteMap.standard true = sites :=
    Option.some.inj ((SiteMap.ofSettings?_eq_standard rfl).symm.trans hs)
  have hc : Exchange.Creates .nil ⟨posting .nil 2, ((standard {}).serve (.standard true)
      (posting .nil 2) ((standard {}).serve (.standard true)
        (posting ⟨(Fixture.stamp 9).id.uuid⟩ 1) []).state).response⟩ := by
    decide +kernel
  exact ⟨rfl, ht, _, hs, hfresh, [_], _, _, rfl, hc, hlife visits hfresh [_] _ _ _ rfl hc,
    by decide +kernel⟩

end App

end SourceRegistry
