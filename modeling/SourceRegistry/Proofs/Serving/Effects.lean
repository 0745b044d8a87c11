import Mathlib.Data.List.Nodup
import SourceRegistry.Proofs.Serving.Calls
import SourceRegistry.Proofs.Serving.Sites

/-!
# What a request does to the store

Under the path `/api/v1` a request creates one data source and is answered `201`, or deletes one
and is answered `204`, or leaves the store as it was; the status of the response tells which of
the three it did. An `Effect` says this of one request. It holds at every store whose identifiers
differ, and these are all stores that requests lead to.
-/

namespace SourceRegistry

open SiteMap (sourcesPath)

namespace Arrival

variable {a : Arrival} {id : DataSourceId} {pages : Bool}

def Names (id : DataSourceId) (a : Arrival) : Prop :=
  ∃ raw text : String, a.request.target.path = sourcesPath ++ "/" ++ raw ∧ '/' ∉ raw.toList ∧
    Http.Percent.decode? raw = some text ∧ DataSourceId.ofString? text = some id

def named? (a : Arrival) : Option DataSourceId :=
  let raw := a.request.target.path.toList.drop (sourcesPath ++ "/").length
  if a.request.target.path.toList = (sourcesPath ++ "/").toList ++ raw ∧ '/' ∉ raw then
    (Http.Percent.decode? (String.ofList raw)).bind DataSourceId.ofString?
  else none

theorem named?_eq_some_iff : a.named? = some id ↔ a.Names id := by
  constructor
  · intro h
    simp only [named?] at h
    split at h
    · next hp =>
      obtain ⟨text, ht, hid⟩ := Option.bind_eq_some_iff.1 h
      refine ⟨_, text, String.toList_injective ?_, by simpa using hp.2, ht, hid⟩
      rw [String.toList_append, String.toList_ofList]
      exact hp.1
    · cases h
  · rintro ⟨raw, text, hp, hmem, ht, hid⟩
    have hraw :
        (sourcesPath ++ "/" ++ raw).toList.drop (sourcesPath ++ "/").length = raw.toList := by
      rw [String.toList_append, ← String.length_toList, List.drop_left]
    have hpath : (sourcesPath ++ "/" ++ raw).toList = (sourcesPath ++ "/").toList ++ raw.toList :=
      String.toList_append
    simp only [named?, hp, hraw]
    rw [if_pos ⟨hpath, hmem⟩, String.ofList_toList, ht]
    exact hid

instance (id : DataSourceId) (a : Arrival) : Decidable (a.Names id) :=
  decidable_of_iff _ named?_eq_some_iff

theorem Names.unique {i j : DataSourceId} (hi : a.Names i) (hj : a.Names j) : i = j :=
  Option.some.inj ((named?_eq_some_iff.2 hi).symm.trans (named?_eq_some_iff.2 hj))

theorem finds_standard_iff :
    a.Finds (.standard pages) ↔ a.request.target.path = sourcesPath := by
  simp only [Finds, SiteMap.find?_collection_iff, exists_and_left, exists_eq, and_true]

theorem pathText_single_iff {name raw text : String} :
    Extract.pathText [(name, raw)] = .ok text ↔ Http.Percent.decode? raw = some text := by
  simp only [Extract.pathText, Extract.decodeAll]
  cases Http.Percent.decode? raw with
  | none => simp [bind, Except.bind]
  | some value => simp [bind, Except.bind, Except.map]

theorem points_standard_iff : a.Points (.standard pages) id ↔ a.Names id := by
  constructor
  · rintro ⟨values, text, hf, ht, hid⟩
    obtain ⟨raw, -, hmem, hp, rfl⟩ := SiteMap.find?_item_iff.1 hf
    exact ⟨raw, text, hp, hmem, pathText_single_iff.1 ht, hid⟩
  · rintro ⟨raw, text, hp, hmem, ht, hid⟩
    have hraw : raw ≠ "" := by
      -- the empty text is no identifier
      rintro rfl
      cases ht
      have hnone : DataSourceId.ofString? "" = none := by decide
      cases hnone.symm.trans hid
    exact ⟨_, text, SiteMap.find?_item_iff.2 ⟨raw, hraw, hmem, hp, rfl⟩,
      pathText_single_iff.2 ht, hid⟩

end Arrival

/-! ## Effects -/

/-- What a request does to a store, told by the status of its response. -/
structure Effect (a : Arrival) (s : Store) (v : Served Store) : Prop where
  /-- `201` says that one data source was added behind all others. -/
  created : v.response.status = 201 ↔ ∃ d, v.state = s ++ [d]
  creation : ∀ d, v.state = s ++ [d] → a.request.method = "POST" ∧
    a.request.target.path = sourcesPath ∧ a.IsFor d.workspace ∧ d.id = a.stamp.id ∧
    d.id ∉ s.map (·.id) ∧ v.response.body = (Representation.ofSummary d.summary).toJson.text
  /-- `204` says that one data source was taken away from among the others. -/
  deleted : v.response.status = 204 ↔ ∃ l₁ d l₂, s = l₁ ++ d :: l₂ ∧ v.state = l₁ ++ l₂
  deletion : ∀ l₁ d l₂, s = l₁ ++ d :: l₂ → v.state = l₁ ++ l₂ → a.request.method = "DELETE" ∧
    a.Names d.id ∧ a.IsFor d.workspace ∧ v.response.body = ""
  /-- Every other status says that nothing was changed. -/
  unchanged : v.response.status ≠ 201 → v.response.status ≠ 204 → v.state = s
  /-- No `POST` takes anything away. -/
  posted : a.request.method = "POST" → s <+: v.state
  /-- No error changes anything. -/
  refused : 400 ≤ v.response.status → v.state = s

namespace Effect

variable {a : Arrival} {s : Store} {v : Served Store} {d : DataSource} {l₁ l₂ : List DataSource}

theorem length_of_added (h : v.state = s ++ [d]) : v.state.length = s.length + 1 := by
  rw [h, List.length_append, List.length_singleton]

theorem length_of_removed (hs : s = l₁ ++ d :: l₂) (h : v.state = l₁ ++ l₂) :
    v.state.length + 1 = s.length := by
  rw [hs, h, List.length_append, List.length_append, List.length_cons, Nat.add_assoc]

/-- Nothing is added and taken away at once. -/
theorem not_removed_of_added {e : DataSource} (h : v.state = s ++ [d]) (hs : s = l₁ ++ e :: l₂) :
    v.state ≠ l₁ ++ l₂ := fun hv => by
  have := length_of_added h
  have := length_of_removed hs hv
  omega

theorem of_idle (h : v.Idle s) : Effect a s v := by
  have hl : v.state.length = s.length := by rw [h.state]
  have hadd : ∀ d, v.state ≠ s ++ [d] := fun d hd => by
    have := length_of_added hd
    omega
  have hrem : ∀ l₁ d l₂, s = l₁ ++ d :: l₂ → v.state ≠ l₁ ++ l₂ := fun l₁ d l₂ hs hv => by
    have := length_of_removed hs hv
    omega
  exact
    { created := ⟨fun hs => absurd hs h.notCreated, fun ⟨d, hd⟩ => absurd hd (hadd d)⟩
      creation := fun d hd => absurd hd (hadd d)
      deleted := ⟨fun hs => absurd hs h.notDeleted,
        fun ⟨_, _, _, hs, hv⟩ => absurd hv (hrem _ _ _ hs)⟩
      deletion := fun _ _ _ hs hv => absurd hv (hrem _ _ _ hs)
      unchanged := fun _ _ => h.state
      posted := fun _ => h.state ▸ List.prefix_rfl
      refused := fun _ => h.state }

/-- A creation that was answered as one. -/
theorem of_created (hm : a.request.method = "POST") (hp : a.request.target.path = sourcesPath)
    (hw : a.IsFor d.workspace) (hid : d.id = a.stamp.id) (hnew : d.id ∉ s.map (·.id))
    (h : v.Sends (Reply.representation 201 d.summary) (s ++ [d])) : Effect a s v := by
  have hstatus : v.response.status = 201 := h.status
  exact
    { created := ⟨fun _ => ⟨d, h.state⟩, fun _ => hstatus⟩
      creation := fun e he => by
        obtain rfl : d = e := by simpa using h.state.symm.trans he
        exact ⟨hm, hp, hw, hid, hnew, h.body⟩
      deleted := ⟨fun h4 => absurd (hstatus.symm.trans h4) (by decide),
        fun ⟨_, _, _, hs, hv⟩ => absurd hv (not_removed_of_added h.state hs)⟩
      deletion := fun _ _ _ hs hv => absurd hv (not_removed_of_added h.state hs)
      unchanged := fun hne _ => absurd hstatus hne
      posted := fun _ => h.state ▸ List.prefix_append s [d]
      refused := fun hge => absurd hge (by rw [hstatus]; decide) }

/-- A deletion that was answered as one. -/
theorem of_deleted (hm : a.request.method = "DELETE") (hn : a.Names d.id) (hw : a.IsFor d.workspace)
    (hids : (s.map (·.id)).Nodup) (hs : s = l₁ ++ d :: l₂)
    (h : v.Sends { status := 204 } (l₁ ++ l₂)) : Effect a s v := by
  have hstatus : v.response.status = 204 := h.status
  -- what is gone is gone in every account of the deletion
  have same : ∀ m₁ e m₂, s = m₁ ++ e :: m₂ → v.state = m₁ ++ m₂ → d = e := by
    intro m₁ e m₂ hs' hv'
    by_contra hne
    have hmem : d ∈ m₁ ++ m₂ := by
      have : d ∈ m₁ ++ e :: m₂ := hs' ▸ hs ▸ by simp
      simpa [hne] using this
    rw [← hv', h.state] at hmem
    exact Store.id_ne_of_nodup (hs ▸ hids) d hmem rfl
  exact
    { created := ⟨fun h1 => absurd (hstatus.symm.trans h1) (by decide),
        fun ⟨_, he⟩ => absurd h.state (not_removed_of_added he hs)⟩
      creation := fun _ he => absurd h.state (not_removed_of_added he hs)
      deleted := ⟨fun _ => ⟨l₁, d, l₂, hs, h.state⟩, fun _ => hstatus⟩
      deletion := fun m₁ e m₂ hs' hv' => same m₁ e m₂ hs' hv' ▸ ⟨hm, hn, hw, h.body⟩
      unchanged := fun _ hne => absurd hstatus hne
      posted := fun hp => absurd (hm.symm.trans hp) (by decide)
      refused := fun hge => absurd hge (by rw [hstatus]; decide) }

/-- An effect keeps the identifiers of a store different. -/
theorem nodup (h : Effect a s v) (hs : (s.map (·.id)).Nodup) : (v.state.map (·.id)).Nodup := by
  by_cases hc : v.response.status = 201
  · obtain ⟨d, hd⟩ := h.created.1 hc
    obtain ⟨-, -, -, -, hnew, -⟩ := h.creation d hd
    rw [hd, List.map_append, List.map_singleton, List.nodup_append_comm]
    exact List.nodup_cons.2 ⟨hnew, hs⟩
  · by_cases hr : v.response.status = 204
    · obtain ⟨l₁, d, l₂, hsd, hv⟩ := h.deleted.1 hr
      rw [hsd] at hs
      rw [hv]
      exact (((List.sublist_cons_self d l₂).append_left l₁).map _).nodup hs
    · rw [h.unchanged hc hr]
      exact hs

end Effect

namespace App

variable (settings : Settings) {pages : Bool} {a : Arrival} {w : WorkspaceId} {op : Operation}
  {s : Store} {v : Served Store}

theorem effect_of_calls (hids : (s.map (·.id)).Nodup) (hw : a.IsFor w)
    (hc : a.Calls settings.maxBodySize (.standard pages) op)
    (hv : v.Sends (a.sent (answerReply op (Service.outcome ⟨w, a.requestId⟩ a.stamp op s).1))
      (Service.outcome ⟨w, a.requestId⟩ a.stamp op s).2) : Effect a s v := by
  have idle : ∀ r, v.Sends (a.sent r) s → r.status ≠ 201 → r.status ≠ 204 → Effect a s v := by
    intro r h h₁ h₄
    have hr : v.response.status = r.status := by
      rw [h.status, Arrival.sent]
      split <;> rfl
    exact .of_idle ⟨hr ▸ h₁, hr ▸ h₄, h.state⟩
  have refused : ∀ e, v.Sends (a.sent (Reply.error e)) s → Effect a s v := fun e he =>
    idle _ he (Reply.error_status_ne e).1 (Reply.error_status_ne e).2
  cases hc with
  | list =>
    rw [Service.outcome_list] at hv
    exact idle _ hv (by decide : (200 : Nat) ≠ 201) (by decide : (200 : Nat) ≠ 204)
  | find =>
    rw [Service.outcome_find] at hv
    split at hv
    · exact idle _ hv (by decide : (200 : Nat) ≠ 201) (by decide : (200 : Nat) ≠ 204)
    · exact refused _ hv
  | delete path method =>
    rw [Service.outcome_delete] at hv
    split at hv
    · next h =>
      obtain ⟨d, hd, rfl, rfl⟩ := h
      rw [Arrival.sent, if_neg (by simp [method])] at hv
      obtain ⟨l₁, l₂, hs, he⟩ := Store.without_of_mem hids hd
      exact .of_deleted method (Arrival.points_standard_iff.1 path) hw hids hs (he ▸ hv)
    · exact refused _ hv
  | create path method body =>
    rw [Service.outcome_create] at hv
    simp only at hv
    split at hv
    · exact refused _ hv
    · split at hv
      · exact refused _ hv
      · split at hv
        · exact refused _ hv
        · next hnew =>
          rw [Arrival.sent, if_neg (by simp [method])] at hv
          refine .of_created method (Arrival.finds_standard_iff.1 path) hw rfl ?_ hv
          rw [Store.hasId_iff] at hnew
          simpa using hnew

/-- Whatever a request asks for, it has an effect on a store whose identifiers differ. -/
theorem effect_serve (a : Arrival) (hids : (s.map (·.id)).Nodup) :
    Effect a s ((standard settings).serve (.standard pages) a s) := by
  rcases serve_cases settings (.standard pages) a s with ⟨w, op, hw, hc, hv⟩ | hi
  · exact effect_of_calls settings hids hw hc hv
  · exact .of_idle hi

theorem nodup_serveAll (arrivals : List Arrival) (hids : (s.map (·.id)).Nodup) :
    (((standard settings).serveAll (.standard pages) arrivals s).2.map (·.id)).Nodup := by
  induction arrivals generalizing s with
  | nil => exact hids
  | cons a rest ih => exact ih ((effect_serve settings a hids).nodup hids)

def requesting (method : String) (w : WorkspaceId) (id : DataSourceId) : Arrival where
  request :=
    { method
      target := ⟨none, none, sourcesPath ++ "/" ++ id.text, none⟩
      headers := [("workspaceid", w.text)]
      body := [] }
  freshId := "trial"
  stamp := Fixture.stamp 0

end App

end SourceRegistry
