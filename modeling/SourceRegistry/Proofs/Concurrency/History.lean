import SourceRegistry.Proofs.Concurrency.System
import SourceRegistry.Proofs.Repository.Memory

/-!
# Histories of the repository in memory

The visits that changed something are the saves that were accepted and the removals that found
their data source. `standing` reads off a history what was saved and not removed since;
`replay_eq_standing` says that this is the store, if no identifier was saved twice.
-/

namespace SourceRegistry

namespace Visit

def saved? : Visit Store → Option DataSource
  | ⟨_, .save d, s⟩ =>
    match (Repository.memory.answer (.save d) s).1 with
    | .ok () => some d
    | .error _ => none
  | _ => none

def removed (d : DataSource) : Visit Store → Bool
  | ⟨_, .remove id w, s⟩ =>
    match (Repository.memory.answer (.remove id w) s).1 with
    | .ok true => d.id = id ∧ d.workspace = w
    | _ => false
  | _ => false

end Visit

namespace Store

def savedIn (h : List (Visit Store)) : Store := h.filterMap (·.saved?)

/-- What was saved in a history and not removed since. -/
def standing (h : List (Visit Store)) : Store := (savedIn h).filter fun d => !h.any (·.removed d)

theorem savedIn_snoc (h : List (Visit Store)) (v : Visit Store) :
    savedIn (h ++ [v]) = savedIn h ++ v.saved?.toList := by
  rw [savedIn, List.filterMap_append]
  cases hv : v.saved? <;> simp [savedIn, hv]

end Store

namespace Visit

theorem saved?_eq_some_iff {v : Visit Store} {d : DataSource} :
    v.saved? = some d ↔ v.query = .save d ∧ ¬ v.state.hasId d.id := by
  obtain ⟨n, q, s⟩ := v
  cases q with
  | save e =>
    simp only [saved?, Repository.memory]
    by_cases h : s.hasId e.id
    · simp only [h, if_true]
      constructor
      · intro he; cases he
      · rintro ⟨he, hs⟩; cases he; exact absurd h hs
    · simp only [h, Bool.false_eq_true, if_false, Option.some.injEq, Query.save.injEq]
      constructor
      · rintro rfl; exact ⟨rfl, h⟩
      · exact fun he => he.1
  | _ => simp [saved?]

theorem removed_iff {v : Visit Store} {d : DataSource} :
    v.removed d ↔ v.query = .remove d.id d.workspace ∧
      ∃ e ∈ v.state, e.id = d.id ∧ e.workspace = d.workspace := by
  obtain ⟨n, q, s⟩ := v
  cases q with
  | remove id w =>
    simp only [removed, Repository.memory, Query.remove.injEq]
    by_cases h : (s.without id w).length < s.length
    · have hex := Store.without_length_lt_iff.1 h
      simp only [h, decide_true, decide_eq_true_eq]
      constructor
      · rintro ⟨rfl, rfl⟩; exact ⟨⟨rfl, rfl⟩, hex⟩
      · rintro ⟨⟨rfl, rfl⟩, -⟩; exact ⟨rfl, rfl⟩
    · have hex : ¬ ∃ e ∈ s, e.id = id ∧ e.workspace = w := fun he =>
        h (Store.without_length_lt_iff.2 he)
      simp only [h, decide_false, Bool.false_eq_true, false_iff]
      rintro ⟨⟨rfl, rfl⟩, he⟩
      exact hex he
  | _ => simp [removed]

theorem filter_removed {v : Visit Store} (h : ∀ d, v.removed d = false) (s : Store) :
    (s.filter fun d => !v.removed d) = s :=
  List.filter_eq_self.2 fun d _ => by rw [h]; rfl

/-- A visit adds what it saved and takes away what it removed; all else stays in its place. -/
theorem next_state (v : Visit Store) :
    (Repository.memory.answer v.query v.state).2
      = (v.state ++ v.saved?.toList).filter fun d => !v.removed d := by
  obtain ⟨n, q, s⟩ := v
  cases q with
  | save d =>
    rw [filter_removed fun _ => rfl]
    by_cases h : s.hasId d.id
    · simp [Repository.memory, saved?, h]
    · simp [Repository.memory, saved?, h]
  | remove id w =>
    simp only [Repository.memory, saved?, Option.toList_none, List.append_nil, Store.without]
    refine List.filter_congr fun d hd => congrArg (! ·) ?_
    rw [Bool.eq_iff_iff, Store.matches_iff, removed_iff]
    constructor
    · rintro ⟨rfl, rfl⟩; exact ⟨rfl, d, hd, rfl, rfl⟩
    · rintro ⟨h, -⟩; cases h; exact ⟨rfl, rfl⟩
  | _ =>
    rw [filter_removed fun _ => rfl]
    simp [Repository.memory, saved?]

end Visit

namespace System

theorem replay_snoc {h : List (Visit Store)} {v : Visit Store}
    (hg : Visit.Genuine .memory [] (h ++ [v])) :
    replay .memory [] (h ++ [v])
      = (replay .memory [] h ++ v.saved?.toList).filter fun d => !v.removed d := by
  rw [replay_append, ← hg rfl, v.next_state]

/-- Everything in the store was saved at some time. -/
theorem mem_savedIn_of_mem_replay {h : List (Visit Store)} (hg : Visit.Genuine .memory [] h)
    {d : DataSource} (hd : d ∈ replay .memory [] h) : d ∈ Store.savedIn h := by
  induction h using List.reverseRecOn with
  | nil => cases hd
  | append_singleton h v ih =>
    rw [replay_snoc hg] at hd
    rw [Store.savedIn_snoc]
    rcases List.mem_append.1 (List.mem_filter.1 hd).1 with hd | hd
    · exact List.mem_append_left _ (ih hg.of_append hd)
    · exact List.mem_append_right _ hd

/-- What a visit of a genuine history found was saved before. -/
theorem saved_before {a b : List (Visit Store)} {v : Visit Store}
    (hg : Visit.Genuine .memory [] (a ++ v :: b)) {d : DataSource} (hd : d ∈ v.state) :
    d ∈ Store.savedIn a :=
  mem_savedIn_of_mem_replay hg.of_append (hg rfl ▸ hd)

theorem replay_eq_standing {h : List (Visit Store)} (hg : Visit.Genuine .memory [] h)
    (hn : ((Store.savedIn h).map (·.id)).Nodup) : replay .memory [] h = Store.standing h := by
  induction h using List.reverseRecOn with
  | nil => rfl
  | append_singleton h v ih =>
    rw [Store.savedIn_snoc, List.map_append, List.nodup_append] at hn
    rw [replay_snoc hg, ih hg.of_append hn.1, Store.standing, Store.standing, Store.savedIn_snoc]
    -- what is saved only now cannot have been removed before
    have hnew : ∀ d ∈ v.saved?.toList, h.any (·.removed d) = false := by
      intro d hd
      refine List.any_eq_false.2 fun u hu hr => ?_
      obtain ⟨a, b, rfl⟩ := List.append_of_mem hu
      obtain ⟨-, e, he, hid, -⟩ := Visit.removed_iff.1 hr
      have hin : e ∈ Store.savedIn (a ++ u :: b) := by
        rw [Store.savedIn, List.filterMap_append]
        exact List.mem_append_left _ (saved_before hg.of_append he)
      exact hn.2.2 _ (List.mem_map_of_mem hin) _ (List.mem_map_of_mem hd) hid
    rw [List.filter_append, List.filter_append, List.filter_filter]
    congr 1
    · refine List.filter_congr fun d _ => ?_
      simp [Bool.and_comm]
    · refine List.filter_congr fun d hd => ?_
      simp [hnew d hd]

end System

end SourceRegistry
