import Mathlib.Data.List.Induction
import SourceRegistry.Proofs.Serving.Effects

/-!
# Histories of requests and responses

A history is read without a look at the store: `201` reports a creation and `204` a deletion.
What was created for a workspace and not deleted since are its survivors, and `entries_survivors`
says that these are the data sources that the store has for the workspace, in this order.
-/

namespace SourceRegistry

open Http (Response)
open SiteMap (sourcesPath)

structure Exchange where
  arrival : Arrival
  response : Response

namespace Exchange

/-- The identifier that was there to be given away. -/
def id (e : Exchange) : DataSourceId := e.arrival.stamp.id

def Lists (w : WorkspaceId) (e : Exchange) : Prop :=
  e.arrival.request.method = "GET" ∧ e.arrival.request.target.path = sourcesPath ∧
    e.arrival.IsFor w

def Gets (w : WorkspaceId) (i : DataSourceId) (e : Exchange) : Prop :=
  e.arrival.request.method = "GET" ∧ e.arrival.Names i ∧ e.arrival.IsFor w

def Deletes (w : WorkspaceId) (i : DataSourceId) (e : Exchange) : Prop :=
  e.arrival.request.method = "DELETE" ∧ e.arrival.Names i ∧ e.arrival.IsFor w

def Creates (w : WorkspaceId) (e : Exchange) : Prop :=
  e.arrival.request.method = "POST" ∧ e.arrival.IsFor w ∧ e.response.status = 201

def Removes (w : WorkspaceId) (i : DataSourceId) (e : Exchange) : Prop :=
  e.Deletes w i ∧ e.response.status = 204

instance (w : WorkspaceId) (e : Exchange) : Decidable (e.Creates w) :=
  inferInstanceAs (Decidable (_ ∧ _ ∧ _))

instance (w : WorkspaceId) (i : DataSourceId) (e : Exchange) : Decidable (e.Removes w i) :=
  inferInstanceAs (Decidable ((_ ∧ _ ∧ _) ∧ _))

/-- Nobody has removed a data source of a workspace. -/
def Spares (w : WorkspaceId) (h : List Exchange) (i : DataSourceId) : Prop :=
  ∀ e ∈ h, ¬ e.Removes w i

instance (w : WorkspaceId) (h : List Exchange) (i : DataSourceId) : Decidable (Spares w h i) :=
  inferInstanceAs (Decidable (∀ e ∈ h, ¬ e.Removes w i))

theorem spares_append {w : WorkspaceId} {h₁ h₂ : List Exchange} {i : DataSourceId} :
    Spares w (h₁ ++ h₂) i ↔ Spares w h₁ i ∧ Spares w h₂ i := List.forall_mem_append

/-- The creations for a workspace that no later exchange has undone. -/
def survivors (w : WorkspaceId) : List Exchange → List Exchange
  | [] => []
  | e :: rest =>
    if e.Creates w ∧ Spares w rest e.id then e :: survivors w rest else survivors w rest

variable {w : WorkspaceId} {e : Exchange} {h : List Exchange}

theorem survivors_append (w : WorkspaceId) (h₁ h₂ : List Exchange) :
    survivors w (h₁ ++ h₂) =
      (survivors w h₁).filter (fun e => Spares w h₂ e.id) ++ survivors w h₂ := by
  induction h₁ with
  | nil => rfl
  | cons e h₁ ih =>
    simp only [List.cons_append, survivors, spares_append, ih]
    by_cases h1 : e.Creates w ∧ Spares w h₁ e.id
    · by_cases h2 : Spares w h₂ e.id
      · rw [if_pos ⟨h1.1, h1.2, h2⟩, if_pos h1, List.filter_cons_of_pos (by simpa using h2)]
        rfl
      · rw [if_neg fun h => h2 h.2.2, if_pos h1, List.filter_cons_of_neg (by simpa using h2)]
    · rw [if_neg fun h => h1 ⟨h.1, h.2.1⟩, if_neg h1]

theorem survivors_snoc (w : WorkspaceId) (h : List Exchange) (e : Exchange) :
    survivors w (h ++ [e]) = (survivors w h).filter (fun f => ¬ e.Removes w f.id) ++
      if e.Creates w then [e] else [] := by
  rw [survivors_append]
  simp [survivors, Spares]

theorem mem_of_mem_survivors (hs : e ∈ survivors w h) : e ∈ h ∧ e.Creates w := by
  induction h with
  | nil => cases hs
  | cons f h ih =>
    rw [survivors] at hs
    split at hs
    · next hf =>
      rcases List.mem_cons.1 hs with rfl | hs
      · exact ⟨List.mem_cons_self, hf.1⟩
      · exact ⟨List.mem_cons_of_mem _ (ih hs).1, (ih hs).2⟩
    · exact ⟨List.mem_cons_of_mem _ (ih hs).1, (ih hs).2⟩

end Exchange

def DataSource.body (d : DataSource) : String := (Representation.ofSummary d.summary).toJson.text

def Exchange.entry (e : Exchange) : DataSourceId × String := (e.id, e.response.body)

def DataSource.entry (d : DataSource) : DataSourceId × String := (d.id, d.body)

theorem Store.ofWorkspace_snoc (s : Store) (w : WorkspaceId) (d : DataSource) :
    Store.ofWorkspace (s ++ [d]) w = s.ofWorkspace w ++ if d.workspace = w then [d] else [] := by
  rw [ofWorkspace, List.filter_append]
  by_cases h : d.workspace = w
  · rw [if_pos h, List.filter_cons_of_pos (by simp [DataSource.belongsTo, h])]
    rfl
  · rw [if_neg h, List.filter_cons_of_neg (by simp [DataSource.belongsTo, h])]
    rfl

/-- With identifiers that differ, what is left is what has another identifier. -/
theorem Store.ofWorkspace_removed {l₁ l₂ : List DataSource} {d : DataSource}
    (hids : ((l₁ ++ d :: l₂).map (·.id)).Nodup) (w : WorkspaceId) :
    Store.ofWorkspace (l₁ ++ l₂) w =
      (Store.ofWorkspace (l₁ ++ d :: l₂) w).filter fun e => e.id ≠ d.id := by
  have hall : (l₁ ++ l₂).filter (fun e => e.id ≠ d.id) = l₁ ++ l₂ :=
    List.filter_eq_self.2 fun e he => by simpa using id_ne_of_nodup hids e he
  have hd : (l₁ ++ d :: l₂).filter (fun e => e.id ≠ d.id) = l₁ ++ l₂ := by
    rw [List.filter_append, List.filter_cons_of_neg (by simp), ← List.filter_append, hall]
  rw [ofWorkspace, ofWorkspace, List.filter_comm, hd]

namespace Effect

open Exchange

variable {a : Arrival} {s : Store} {v : Served Store} {w : WorkspaceId} {h : List Exchange}

/-- The survivors stay those of the store, whatever a request does. -/
theorem entries_survivors (he : Effect a s v) (hids : (s.map (·.id)).Nodup)
    (hs : (survivors w h).map Exchange.entry = (s.ofWorkspace w).map DataSource.entry) :
    (survivors w (h ++ [⟨a, v.response⟩])).map Exchange.entry =
      (v.state.ofWorkspace w).map DataSource.entry := by
  have spared : (∀ i, ¬ Removes w i ⟨a, v.response⟩) →
      (survivors w h).filter (fun f => ¬ Removes w f.id ⟨a, v.response⟩) = survivors w h :=
    fun hr => List.filter_eq_self.2 fun f _ => by simpa using hr f.id
  rw [survivors_snoc]
  by_cases hc : v.response.status = 201
  · obtain ⟨d, hd⟩ := he.created.1 hc
    obtain ⟨hm, -, hw, hid, -, hbody⟩ := he.creation d hd
    have hcreates : Creates w ⟨a, v.response⟩ ↔ d.workspace = w :=
      ⟨fun h => hw.unique h.2.1, fun h => ⟨hm, h ▸ hw, hc⟩⟩
    have hentry : Exchange.entry ⟨a, v.response⟩ = d.entry :=
      Prod.ext hid.symm hbody
    rw [spared fun i hr => absurd (hc.symm.trans hr.2) (by decide), hd, Store.ofWorkspace_snoc,
      List.map_append, List.map_append, hs]
    by_cases hdw : d.workspace = w
    · rw [if_pos (hcreates.2 hdw), if_pos hdw, List.map_singleton, List.map_singleton, hentry]
    · rw [if_neg (hcreates.not.2 hdw), if_neg hdw]
      rfl
  · have hcreates : ¬ Creates w ⟨a, v.response⟩ := fun h => hc h.2.2
    rw [if_neg hcreates, List.append_nil]
    by_cases hr : v.response.status = 204
    · obtain ⟨l₁, d, l₂, rfl, hv⟩ := he.deleted.1 hr
      obtain ⟨hm, hn, hw, -⟩ := he.deletion l₁ d l₂ rfl hv
      rw [hv]
      by_cases hdw : d.workspace = w
      · have hremoves : ∀ f : Exchange, ¬ Removes w f.id ⟨a, v.response⟩ ↔ f.id ≠ d.id :=
          fun f => not_congr ⟨fun h => h.1.2.1.unique hn, fun h => ⟨⟨hm, h ▸ hn, hdw ▸ hw⟩, hr⟩⟩
        have hfilter := congrArg (List.filter fun entry => decide (entry.1 ≠ d.id)) hs
        rw [List.filter_map, List.filter_map] at hfilter
        simp only [hremoves]
        rw [Store.ofWorkspace_removed hids]
        exact hfilter
      · have hother : Store.ofWorkspace (l₁ ++ d :: l₂) w = Store.ofWorkspace (l₁ ++ l₂) w := by
          simp [Store.ofWorkspace, DataSource.belongsTo, hdw]
        rw [spared fun i h => hdw (hw.unique h.1.2.2), hs, hother]
    · rw [spared fun i h => hr h.2, he.unchanged hc hr, hs]

end Effect

namespace App

def history (app : App σ) (sites : SiteMap) (arrivals : List Arrival) (s : σ) : List Exchange :=
  List.zipWith Exchange.mk arrivals (app.serveAll sites arrivals s).1

variable (app : App σ) (sites : SiteMap) {arrivals : List Arrival} {p q : List Exchange}
  {e : Exchange} {s : σ}

theorem history_cons (a : Arrival) (rest : List Arrival) (s : σ) :
    app.history sites (a :: rest) s = ⟨a, (app.serve sites a s).response⟩ ::
      app.history sites rest (app.serve sites a s).state := rfl

theorem map_arrival_history (arrivals : List Arrival) (s : σ) :
    (app.history sites arrivals s).map (·.arrival) = arrivals := by
  induction arrivals generalizing s with
  | nil => rfl
  | cons a rest ih => rw [history_cons, List.map_cons, ih]

/-- Every exchange of a history is with what the requests before it led to. -/
theorem served_of_history (h : app.history sites arrivals s = p ++ e :: q) :
    ∃ before, app.history sites before s = p ∧
      e.response = (app.serve sites e.arrival (app.serveAll sites before s).2).response := by
  induction p generalizing arrivals s with
  | nil =>
    cases arrivals with
    | nil => cases h
    | cons a rest =>
      rw [history_cons] at h
      cases h
      exact ⟨[], rfl, rfl⟩
  | cons f p ih =>
    cases arrivals with
    | nil => cases h
    | cons a rest =>
      rw [history_cons, List.cons_append] at h
      obtain ⟨rfl, hrest⟩ := List.cons.inj h
      obtain ⟨before, rfl, he⟩ := ih hrest
      exact ⟨a :: before, rfl, he⟩

variable (settings : Settings) {pages : Bool} {w : WorkspaceId}

open Exchange (survivors)

theorem entries_survivors_from {s : Store} {h : List Exchange} (hids : (s.map (·.id)).Nodup)
    (hs : (survivors w h).map Exchange.entry = (s.ofWorkspace w).map DataSource.entry)
    (arrivals : List Arrival) :
    (survivors w (h ++ (standard settings).history (.standard pages) arrivals s)).map
        Exchange.entry =
      (Store.ofWorkspace ((standard settings).serveAll (.standard pages) arrivals s).2 w).map
        DataSource.entry := by
  induction arrivals generalizing s h with
  | nil =>
    rw [history, List.zipWith_nil_left, List.append_nil]
    exact hs
  | cons a rest ih =>
    have he : Effect a s ((standard settings).serve (.standard pages) a s) :=
      effect_serve settings a hids
    rw [history_cons, List.append_cons]
    exact ih (he.nodup hids) (he.entries_survivors hids hs)

/-- What the store has for a workspace is what was created for it and not deleted since. -/
theorem entries_survivors (w : WorkspaceId) (arrivals : List Arrival) :
    (survivors w ((standard settings).history (.standard pages) arrivals [])).map Exchange.entry =
      (Store.ofWorkspace ((standard settings).serveAll (.standard pages) arrivals []).2 w).map
        DataSource.entry :=
  entries_survivors_from settings (s := []) (h := []) List.nodup_nil rfl arrivals

end App

end SourceRegistry
