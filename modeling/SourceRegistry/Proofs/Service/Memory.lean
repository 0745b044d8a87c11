import SourceRegistry.Proofs.Repository.Memory
import SourceRegistry.Proofs.Service.Drafts

/-!
# The service over the repository in memory

What each use case answers, the store it leaves and what it reports when nobody else is at the
repository. No query of the repository is left in these equations.
-/

namespace SourceRegistry

/-- The name of a data source that a draft makes is taken iff there is a namesake. -/
theorem Store.hasName_source_iff {s : Store} {draft : Draft} {w : WorkspaceId} {stamp : Stamp} :
    s.hasName w (draft.source w stamp).name ↔ ∃ d ∈ s, d.Namesakes (draft.source w stamp) := by
  simp [hasName_iff, DataSource.Namesakes, Draft.source]

namespace Service

variable (ctx : Context) (stamp : Stamp) (s : Store)

theorem run_list :
    (program ctx stamp .list).run.run .memory s =
      (.ok ((s.ofWorkspace ctx.workspace).map (·.summary)), s,
        [.listed (s.ofWorkspace ctx.workspace).length]) := by
  rw [program_list]
  rfl

theorem run_find (id : DataSourceId) :
    (program ctx stamp (.find id)).run.run .memory s =
      ((match s.find? id ctx.workspace with
        | some d => .ok d.summary
        | none => .error (absent id)), s, []) := by
  rw [program_find, Program.run, Repository.memory_find]
  cases s.find? id ctx.workspace with
  | none => rfl
  | some d => rfl

theorem run_delete (id : DataSourceId) :
    (program ctx stamp (.delete id)).run.run .memory s =
      if ∃ d ∈ s, d.id = id ∧ d.workspace = ctx.workspace then
        (.ok (), s.without id ctx.workspace, [.deleted id])
      else (.error (absent id), s, []) := by
  rw [program_delete, Program.run, Repository.memory_find]
  by_cases h : ∃ d ∈ s, d.id = id ∧ d.workspace = ctx.workspace
  · obtain ⟨d, hd⟩ := Store.exists_find?_iff.2 h
    rw [if_pos h]
    simp only [hd, Program.run, Repository.memory_remove,
      decide_eq_true (Store.without_length_lt_iff.2 h)]
  · rw [if_neg h]
    simp only [Store.find?_eq_none_iff.2 h, Program.run]

theorem run_create (draft : Draft) :
    (program ctx stamp (.create draft)).run.run .memory s =
      let d := draft.source ctx.workspace stamp
      if ¬ draft.Acceptable then (.error draft.rejection, s, [])
      else if ∃ e ∈ s, e.Namesakes d then (.error (taken d.name), s, [])
      else if s.hasId d.id then (.error (Repository.existsError d.id), s, [])
      else (.ok d.summary, s ++ [d], [.created d.id d.pluginSrc]) := by
  rw [program_create, prepare_eq]
  by_cases ha : draft.Acceptable
  · have hname : s.hasName ctx.workspace (draft.source ctx.workspace stamp).name ↔ _ :=
      Store.hasName_source_iff
    simp only [ha, if_true, not_true, if_false]
    generalize draft.source ctx.workspace stamp = d at hname
    rw [Program.run, Repository.memory_nameTaken]
    by_cases hn : ∃ e ∈ s, e.Namesakes d
    · rw [hname.2 hn, if_pos hn]
      rfl
    · rw [if_neg hn, Bool.eq_false_iff.2 (hn ∘ hname.1)]
      simp only [Program.run, Repository.memory_save]
      by_cases hid : s.hasId d.id
      · rw [if_pos hid, if_pos hid]
        rfl
      · rw [if_neg hid, if_neg hid]
        rfl
  · rw [if_neg ha, if_pos ha]
    rfl

end Service

end SourceRegistry
