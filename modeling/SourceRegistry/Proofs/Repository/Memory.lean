import Mathlib.Data.List.Nodup
import SourceRegistry.Repository.Memory

/-!
# The queries of the repository in memory

What the lookups in a store find, and what the repository answers to each query. Data sources of
one workspace are namesakes if their names differ at most in letter case.
-/

namespace SourceRegistry

def DataSource.Namesakes (d e : DataSource) : Prop :=
  d.workspace = e.workspace ∧ Text.lower d.name = Text.lower e.name

instance (d e : DataSource) : Decidable (d.Namesakes e) := inferInstanceAs (Decidable (_ ∧ _))

theorem DataSource.Namesakes.symm {d e : DataSource} (h : d.Namesakes e) : e.Namesakes d :=
  ⟨h.1.symm, h.2.symm⟩

/-- No workspace has two data sources of one name. -/
def Store.NamesUnique (s : Store) : Prop := s.Pairwise fun d e => ¬ d.Namesakes e

instance (s : Store) : Decidable s.NamesUnique := inferInstanceAs (Decidable (List.Pairwise _ _))

namespace Store

variable {s : Store} {id : DataSourceId} {w : WorkspaceId}

theorem hasId_iff : s.hasId id ↔ ∃ d ∈ s, d.id = id := by
  simp [hasId]

theorem hasName_iff {name : String} : s.hasName w name ↔
    ∃ d ∈ s, d.workspace = w ∧ Text.lower d.name = Text.lower (Text.trim name) := by
  simp [hasName, DataSource.belongsTo, DataSource.hasName]

theorem matches_iff {d : DataSource} :
    matches_ id w d ↔ d.id = id ∧ d.workspace = w := by
  simp [matches_, DataSource.belongsTo]

theorem without_length_lt_iff :
    (s.without id w).length < s.length ↔ ∃ d ∈ s, d.id = id ∧ d.workspace = w := by
  rw [without, List.length_filter_lt_length_iff_exists]
  simp [matches_iff]

theorem without_eq_self_iff :
    s.without id w = s ↔ ¬ ∃ d ∈ s, d.id = id ∧ d.workspace = w := by
  rw [without, List.filter_eq_self]
  simp [← Bool.not_eq_true, matches_iff]

/-- A removal that takes nothing away leaves a list of the same length, and no other does. -/
theorem without_length_eq_iff :
    (s.without id w).length = s.length ↔ ¬ ∃ d ∈ s, d.id = id ∧ d.workspace = w := by
  have hle : (s.without id w).length ≤ s.length := List.length_filter_le _ s
  rw [← without_length_lt_iff]
  omega

theorem find?_eq_none_iff : s.find? id w = none ↔ ¬ ∃ d ∈ s, d.id = id ∧ d.workspace = w := by
  simp [find?, List.find?_eq_none, matches_iff]

theorem exists_find?_iff :
    (∃ d, s.find? id w = some d) ↔ ∃ d ∈ s, d.id = id ∧ d.workspace = w := by
  rw [← Option.ne_none_iff_exists', Ne, find?_eq_none_iff, not_not]

/-- No other data source has the identifier of one. -/
theorem id_ne_of_nodup {d : DataSource} {l₁ l₂ : List DataSource}
    (h : ((l₁ ++ d :: l₂).map (·.id)).Nodup) : ∀ e ∈ l₁ ++ l₂, e.id ≠ d.id := by
  rw [List.map_append, List.map_cons, List.nodup_middle, List.nodup_cons, ← List.map_append] at h
  exact fun e he hid => h.1 (hid ▸ List.mem_map_of_mem he)

/-- A data source is found under its own identifier. -/
theorem find?_of_mem {d : DataSource} (hids : (s.map (·.id)).Nodup) (hd : d ∈ s) :
    s.find? d.id d.workspace = some d := by
  obtain ⟨l₁, l₂, rfl⟩ := List.append_of_mem hd
  have hne := id_ne_of_nodup hids
  rw [find?, List.find?_append, List.find?_eq_none.2, Option.none_or, List.find?_cons_of_pos]
  · exact matches_iff.2 ⟨rfl, rfl⟩
  · intro e he
    simp [matches_, hne e (List.mem_append_left _ he)]

/-- What a removal takes away is one data source from among the others. -/
theorem without_of_mem (hids : (s.map (·.id)).Nodup) {d : DataSource} (hd : d ∈ s) :
    ∃ l₁ l₂, s = l₁ ++ d :: l₂ ∧ s.without d.id d.workspace = l₁ ++ l₂ := by
  obtain ⟨l₁, l₂, rfl⟩ := List.append_of_mem hd
  refine ⟨l₁, l₂, rfl, ?_⟩
  have hne := id_ne_of_nodup hids
  rw [without, List.filter_append, List.filter_cons_of_neg (by simp [matches_iff]),
    ← List.filter_append, List.filter_eq_self]
  intro e he
  simp [matches_, hne e he]

end Store

namespace Repository

theorem memory_find (id : DataSourceId) (w : WorkspaceId) (s : Store) :
    memory.answer (.find id w) s = (.ok (s.find? id w), s) := rfl

theorem memory_nameTaken (w : WorkspaceId) (name : String) (s : Store) :
    memory.answer (.nameTaken w name) s = (.ok (s.hasName w name), s) := rfl

theorem memory_save (d : DataSource) (s : Store) :
    memory.answer (.save d) s =
      if s.hasId d.id then (.error (existsError d.id), s) else (.ok (), s ++ [d]) := rfl

theorem memory_remove (id : DataSourceId) (w : WorkspaceId) (s : Store) :
    memory.answer (.remove id w) s =
      (.ok (decide ((s.without id w).length < s.length)), s.without id w) := rfl

end Repository

end SourceRegistry
