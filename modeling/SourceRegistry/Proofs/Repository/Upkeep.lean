import SourceRegistry.Proofs.Concurrency.History

/-!
# What the repository in memory keeps

Whoever asks the repository, and whatever they ask it to save, even one identifier again and again:
the store holds what was saved and not removed since, and no identifier twice. One query keeps it
so (`nodup_answer`, `remaining_snoc`), and `upkeep_visits` says what holds after any number of them.
-/

namespace SourceRegistry

open Repository (memory existsError)

namespace Store

/-- What the visits of a history saved and no later visit removed, in the order of the saves. -/
def remaining : List (Visit Store) → Store
  | [] => []
  | v :: later => (v.saved?.toList.filter fun d => !later.any (·.removed d)) ++ remaining later

/-- No visit both saves and removes. -/
theorem not_removed_of_saved {v : Visit Store} {d e : DataSource} (h : v.saved? = some d) :
    v.removed e = false := by
  rw [← Bool.not_eq_true, Visit.removed_iff, (Visit.saved?_eq_some_iff.1 h).1]
  rintro ⟨hq, -⟩
  cases hq

/-- One more visit takes away what it removed and adds what it saved. -/
theorem remaining_snoc (h : List (Visit Store)) (v : Visit Store) :
    remaining (h ++ [v]) = (remaining h ++ v.saved?.toList).filter fun d => !v.removed d := by
  induction h with
  | nil =>
    cases hv : v.saved? with
    | none => simp [remaining, hv]
    | some d => simp [remaining, hv, not_removed_of_saved hv]
  | cons u h ih =>
    rw [List.cons_append, remaining, ih, remaining, List.append_assoc,
      List.filter_append _ (_ ++ _),
      List.filter_filter]
    congr 1
    refine List.filter_congr fun d _ => ?_
    simp [Bool.and_comm]

/-- A save finds an identifier that is stored, or brings a new one; nothing else brings any. -/
theorem nodup_answer {s : Store} (h : (s.map (·.id)).Nodup) (q : Query) :
    ((memory.answer q s).2.map (·.id)).Nodup := by
  cases q with
  | save d =>
    rw [Repository.memory_save]
    by_cases hd : s.hasId d.id
    · rw [if_pos hd]
      exact h
    · rw [if_neg hd, List.map_append]
      refine List.nodup_append.2 ⟨h, List.nodup_singleton _, ?_⟩
      rintro i hi j hj rfl
      obtain ⟨e, he, rfl⟩ := List.mem_map.1 hi
      exact hd (hasId_iff.2 ⟨e, he, List.mem_singleton.1 hj⟩)
  | remove id w => exact (List.filter_sublist.map _).nodup h
  | _ => exact h

end Store

namespace System

theorem nodup_replay (h : List (Visit Store)) {s : Store} (hs : (s.map (·.id)).Nodup) :
    ((replay memory s h).map (·.id)).Nodup := by
  induction h generalizing s with
  | nil => exact hs
  | cons v h ih => exact ih (Store.nodup_answer hs v.query)

/-- The store of a history is what remains of it, also if identifiers are saved again. -/
theorem replay_eq_remaining {h : List (Visit Store)} (hg : Visit.Genuine memory [] h) :
    replay memory [] h = Store.remaining h := by
  induction h using List.reverseRecOn with
  | nil => rfl
  | append_singleton h v ih => rw [replay_snoc hg, ih hg.of_append, Store.remaining_snoc]

end System

/-- The visits that come of queries asked one after another, each told with its caller. -/
def Repository.visits (r : Repository σ) : σ → List (Nat × Query) → List (Visit σ)
  | _, [] => []
  | s, (n, q) :: calls => ⟨n, q, s⟩ :: r.visits (r.answer q s).2 calls

theorem Repository.genuine_visits (r : Repository σ) (calls : List (Nat × Query)) (s : σ) :
    Visit.Genuine r s (r.visits s calls) := by
  induction calls generalizing s with
  | nil =>
    intro a v b h
    simp [visits] at h
  | cons call calls ih =>
    intro a v b h
    obtain ⟨n, q⟩ := call
    cases a with
    | nil =>
      cases h
      rfl
    | cons u a =>
      obtain ⟨hu, htail⟩ := List.cons.inj h
      subst hu
      show v.state = System.replay r (r.answer q s).2 a
      exact ih _ htail

/-- A store is what a history has left of it, and it answers the next query as it should. -/
structure Store.Upkeep (h : List (Visit Store)) (s : Store) : Prop where
  /-- No two data sources have one identifier, whatever their workspaces are. -/
  distinct : s.Pairwise fun d e => d.id ≠ e.id
  contents : s = remaining h
  saves : ∀ d, (∀ e ∈ s, e.id ≠ d.id) → memory.answer (.save d) s = (.ok (), s ++ [d])
  refuses : ∀ d, (∃ e ∈ s, e.id = d.id) → memory.answer (.save d) s =
    (.error ⟨.conflict, "Data source already exists: " ++ d.id.text⟩, s)
  removes : ∀ d ∈ s, ∃ l₁ l₂, s = l₁ ++ d :: l₂ ∧
    memory.answer (.remove d.id d.workspace) s = (.ok true, l₁ ++ l₂)
  misses : ∀ id w, (∀ d ∈ s, d.id = id → d.workspace ≠ w) →
    memory.answer (.remove id w) s = (.ok false, s)
  finds : ∀ id w, ∃ found, memory.answer (.find id w) s = (.ok found, s) ∧
    ∀ d, found = some d ↔ d ∈ s ∧ d.id = id ∧ d.workspace = w
  lists : ∀ w, memory.answer (.list w) s = (.ok (s.filter (·.workspace = w)), s)
  checks : ∀ w name, ∃ taken, memory.answer (.nameTaken w name) s = (.ok taken, s) ∧
    (taken = true ↔ ∃ d ∈ s, d.workspace = w ∧ d.hasName name)
  /-- What was removed can be saved again, and so can anything else of its identifier. -/
  savesAgain : ∀ d ∈ s, ∀ e, e.id = d.id →
    let rest := (memory.answer (.remove d.id d.workspace) s).2
    memory.answer (.save e) rest = (.ok (), rest ++ [e])

namespace Store

variable {s : Store}

theorem memory_save_of_new {d : DataSource} (h : ∀ e ∈ s, e.id ≠ d.id) :
    memory.answer (.save d) s = (.ok (), s ++ [d]) := by
  rw [Repository.memory_save, if_neg]
  rw [hasId_iff]
  rintro ⟨e, he, hid⟩
  exact h e he hid

theorem memory_remove_of_mem (hids : (s.map (·.id)).Nodup) {d : DataSource} (hd : d ∈ s) :
    ∃ l₁ l₂, s = l₁ ++ d :: l₂ ∧
      memory.answer (.remove d.id d.workspace) s = (.ok true, l₁ ++ l₂) := by
  obtain ⟨l₁, l₂, hs, hw⟩ := without_of_mem hids hd
  refine ⟨l₁, l₂, hs, ?_⟩
  rw [Repository.memory_remove, decide_eq_true (without_length_lt_iff.2 ⟨d, hd, rfl, rfl⟩), hw]

theorem memory_remove_of_absent {id : DataSourceId} {w : WorkspaceId}
    (h : ∀ d ∈ s, d.id = id → d.workspace ≠ w) :
    memory.answer (.remove id w) s = (.ok false, s) := by
  have hnone : ¬ ∃ d ∈ s, d.id = id ∧ d.workspace = w := by
    rintro ⟨d, hd, hid, hw⟩
    exact h d hd hid hw
  rw [Repository.memory_remove, decide_eq_false (without_length_lt_iff.not.2 hnone),
    without_eq_self_iff.2 hnone]

theorem find?_eq_some_iff (hids : (s.map (·.id)).Nodup) {id : DataSourceId} {w : WorkspaceId}
    {d : DataSource} : s.find? id w = some d ↔ d ∈ s ∧ d.id = id ∧ d.workspace = w := by
  constructor
  · intro h
    exact ⟨List.mem_of_find?_eq_some h, matches_iff.1 (List.find?_some h)⟩
  · rintro ⟨hd, rfl, rfl⟩
    exact find?_of_mem hids hd

theorem upkeep_of_genuine {h : List (Visit Store)} (hg : Visit.Genuine memory [] h) :
    Upkeep h (System.replay memory [] h) := by
  have hids : ((System.replay memory [] h).map (·.id)).Nodup :=
    System.nodup_replay h List.nodup_nil
  have hcontents := System.replay_eq_remaining hg
  generalize System.replay memory [] h = s at hids hcontents
  constructor
  case distinct => exact List.pairwise_map.1 hids
  case contents => exact hcontents
  case saves =>
    intro d hd
    exact memory_save_of_new hd
  case refuses =>
    intro d hd
    rw [Repository.memory_save, if_pos (hasId_iff.2 hd)]
    rfl
  case removes =>
    intro d hd
    exact memory_remove_of_mem hids hd
  case misses =>
    intro id w h
    exact memory_remove_of_absent h
  case finds =>
    intro id w
    exact ⟨s.find? id w, rfl, fun d => find?_eq_some_iff hids⟩
  case lists => exact fun w => rfl
  case checks =>
    intro w name
    refine ⟨s.hasName w name, rfl, ?_⟩
    simp [hasName, DataSource.belongsTo]
  case savesAgain =>
    intro d hd e he
    obtain ⟨l₁, l₂, rfl, hr⟩ := memory_remove_of_mem hids hd
    have hne := id_ne_of_nodup hids
    rw [hr]
    exact memory_save_of_new fun c hc => he ▸ hne c hc

/-- Whoever asks an empty repository whatever, one query after another, it keeps what was saved
and not removed since, and answers the next query by that. -/
theorem upkeep_visits (calls : List (Nat × Query)) :
    let h := memory.visits [] calls
    Upkeep h (System.replay memory [] h) :=
  upkeep_of_genuine (memory.genuine_visits calls [])

end Store

end SourceRegistry
