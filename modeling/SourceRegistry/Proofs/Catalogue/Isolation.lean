import SourceRegistry.Proofs.Catalogue.Basic

/-!
# Workspaces in the catalogue

The catalogue serves a workspace as if the data sources of the workspace were all that there are,
and leaves those of other workspaces alone.
-/

namespace SourceRegistry

theorem Store.mem_ofWorkspace {s : Store} {w : WorkspaceId} {d : DataSource} :
    d ∈ s.ofWorkspace w ↔ d ∈ s ∧ d.workspace = w := by
  simp [ofWorkspace, DataSource.belongsTo]

namespace Catalogue

variable (ctx : Context) (stamp : Stamp) (op : Operation) (c : List DataSource)

theorem perform_ofWorkspace :
    perform ctx stamp op (Store.ofWorkspace c ctx.workspace) =
      ((perform ctx stamp op c).1, Store.ofWorkspace (perform ctx stamp op c).2 ctx.workspace) := by
  cases op with
  | list => simp [perform, Store.ofWorkspace, DataSource.belongsTo]
  | find id =>
    have hfind : (Store.ofWorkspace c ctx.workspace).find?
          (fun d => decide (d.id = id ∧ d.workspace = ctx.workspace)) =
        c.find? fun d => decide (d.id = id ∧ d.workspace = ctx.workspace) := by
      rw [Store.ofWorkspace, List.find?_filter]
      refine congrArg (List.find? · c) (funext fun d => ?_)
      simp [DataSource.belongsTo]
    simp only [perform, hfind]
    cases List.find? _ c with
    | none => rfl
    | some d => rfl
  | delete id =>
    have hex : (∃ d ∈ Store.ofWorkspace c ctx.workspace, d.id = id ∧ d.workspace = ctx.workspace) ↔
        ∃ d ∈ c, d.id = id ∧ d.workspace = ctx.workspace := by
      simp only [Store.mem_ofWorkspace, and_assoc]
      exact exists_congr fun d => and_congr_right fun _ => by tauto
    simp only [perform]
    by_cases h : ∃ d ∈ c, d.id = id ∧ d.workspace = ctx.workspace
    · rw [if_pos h, if_pos (hex.2 h), Store.ofWorkspace, List.eraseP_filter]
      have hp : (fun d : DataSource => decide (d.id = id ∧ d.workspace = ctx.workspace) &&
          d.belongsTo ctx.workspace) =
            fun d => decide (d.id = id ∧ d.workspace = ctx.workspace) := by
        funext d
        simp [DataSource.belongsTo]
      rw [hp]
      rfl
    · rw [if_neg h, if_neg (h ∘ hex.1)]
  | create draft =>
    have hex : (∃ e ∈ Store.ofWorkspace c ctx.workspace,
          e.Namesakes (draft.source ctx.workspace stamp)) ↔
        ∃ e ∈ c, e.Namesakes (draft.source ctx.workspace stamp) := by
      simp only [Store.mem_ofWorkspace, and_assoc]
      exact exists_congr fun e => and_congr_right fun _ => and_iff_right_of_imp (·.1)
    simp only [perform]
    by_cases ha : draft.Acceptable
    · rw [if_neg (not_not_intro ha), if_neg (not_not_intro ha)]
      by_cases h : ∃ e ∈ c, e.Namesakes (draft.source ctx.workspace stamp)
      · rw [if_pos h, if_pos (hex.2 h)]
      · rw [if_neg h, if_neg (h ∘ hex.1)]
        simp [Store.ofWorkspace, DataSource.belongsTo, Draft.source]
    · rw [if_pos ha, if_pos ha]

/-- What a workspace is answered, and what it has then, depends on nothing but what it had. -/
theorem perform_congr {c c' : List DataSource}
    (h : Store.ofWorkspace c ctx.workspace = Store.ofWorkspace c' ctx.workspace) :
    (perform ctx stamp op c).1 = (perform ctx stamp op c').1 ∧
      Store.ofWorkspace (perform ctx stamp op c).2 ctx.workspace =
        Store.ofWorkspace (perform ctx stamp op c').2 ctx.workspace := by
  have he := perform_ofWorkspace ctx stamp op c
  rw [h, perform_ofWorkspace] at he
  obtain ⟨ha, hs⟩ := Prod.mk.inj he
  exact ⟨ha.symm, hs.symm⟩

theorem ofWorkspace_perform_of_ne {w : WorkspaceId} (h : ctx.workspace ≠ w) :
    Store.ofWorkspace (perform ctx stamp op c).2 w = Store.ofWorkspace c w := by
  cases op with
  | list => rfl
  | find id =>
    simp only [perform]
    split <;> rfl
  | delete id =>
    simp only [perform]
    split
    · rcases List.exists_or_eq_self_of_eraseP
          (fun d => decide (d.id = id ∧ d.workspace = ctx.workspace)) c with
        he | ⟨d, l₁, l₂, -, hd, hc, he⟩
      · rw [he]
      · -- what is erased is of another workspace
        have hw : ¬ d.belongsTo w := by
          rw [DataSource.belongsTo, (of_decide_eq_true hd).2]
          simpa using h
        rw [he, hc, Store.ofWorkspace, Store.ofWorkspace, List.filter_append, List.filter_append,
          List.filter_cons_of_neg (p := fun e : DataSource => e.belongsTo w) hw]
    · rfl
  | create draft =>
    simp only [perform]
    split
    · rfl
    · split
      · rfl
      · simp [Store.ofWorkspace, DataSource.belongsTo, Draft.source, h]

end Catalogue

end SourceRegistry
