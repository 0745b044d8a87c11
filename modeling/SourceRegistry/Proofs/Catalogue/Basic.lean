import SourceRegistry.Proofs.Repository.Memory
import SourceRegistry.Proofs.Service.Drafts
import SourceRegistry.Proofs.Service.Jobs

/-!
# The catalogue

What the service means, without a repository: a list of data sources in the order in which they
were created. A creation appends one data source if its draft is acceptable and no other of the
workspace has its name, a deletion takes one away, and everything else leaves the list alone.
-/

namespace SourceRegistry

namespace Catalogue

def perform (ctx : Context) (stamp : Stamp) :
    (op : Operation) → List DataSource → Except ServiceError op.Answer × List DataSource
  | .list, c => (.ok ((c.filter fun d => d.workspace = ctx.workspace).map (·.summary)), c)
  | .find id, c =>
    match c.find? fun d => d.id = id ∧ d.workspace = ctx.workspace with
    | some d => (.ok d.summary, c)
    | none => (.error (Service.absent id), c)
  | .delete id, c =>
    if ∃ d ∈ c, d.id = id ∧ d.workspace = ctx.workspace then
      (.ok (), c.eraseP fun d => d.id = id ∧ d.workspace = ctx.workspace)
    else (.error (Service.absent id), c)
  | .create draft, c =>
    let d := draft.source ctx.workspace stamp
    if ¬ draft.Acceptable then (.error draft.rejection, c)
    else if ∃ e ∈ c, e.Namesakes d then (.error (Service.taken d.name), c)
    else (.ok d.summary, c ++ [d])

def useCases : UseCases (List DataSource) where
  perform ctx stamp op c :=
    let (answer, c) := perform ctx stamp op c
    ⟨.returned answer, c, []⟩

/-- A job brings no identifier into the list but the one that it gives away. -/
theorem ids_perform (j : Job) (c : List DataSource) :
    List.Sublist ((perform j.ctx j.stamp j.op c).2.map (·.id))
      (c.map (·.id) ++ j.newId?.toList) := by
  obtain ⟨ctx, stamp, op⟩ := j
  cases op with
  | list => simp [perform, Job.newId?]
  | find id =>
    simp only [perform, Job.newId?]
    split <;> simp
  | delete id =>
    simp only [perform, Job.newId?, Option.toList_none, List.append_nil]
    split
    · exact List.eraseP_sublist.map _
    · exact .refl _
  | create draft =>
    simp only [perform, Job.newId?, Option.toList_some]
    split
    · exact List.sublist_append_left _ _
    · split
      · exact List.sublist_append_left _ _
      · rw [List.map_append]
        exact .refl _

/-- No identifier stands in a list twice, and none of `supply` is in it or repeats there. -/
def Distinct (c : List DataSource) (supply : List DataSourceId) : Prop :=
  (c.map (·.id) ++ supply).Nodup

theorem Distinct.nodup {c : List DataSource} {supply : List DataSourceId} (h : Distinct c supply) :
    (c.map (·.id)).Nodup :=
  (List.nodup_append.1 h).1

theorem Distinct.sublist {c : List DataSource} {l l' : List DataSourceId} (h : Distinct c l')
    (hl : List.Sublist l l') : Distinct c l :=
  (hl.append_left _).nodup h

theorem Distinct.perform {j : Job} {c : List DataSource} {rest : List DataSourceId}
    (h : Distinct c (j.newId?.toList ++ rest)) :
    Distinct (perform j.ctx j.stamp j.op c).2 rest := by
  rw [Distinct, ← List.append_assoc] at h
  exact ((ids_perform j c).append_right rest).nodup h

theorem namesUnique_perform {c : List DataSource} (h : Store.NamesUnique c) (j : Job) :
    Store.NamesUnique (perform j.ctx j.stamp j.op c).2 := by
  obtain ⟨ctx, stamp, op⟩ := j
  cases op with
  | list => exact h
  | find id =>
    simp only [perform]
    split <;> exact h
  | delete id =>
    simp only [perform]
    split
    · exact List.Pairwise.sublist List.eraseP_sublist h
    · exact h
  | create draft =>
    simp only [perform]
    split
    · exact h
    · split
      · exact h
      · next hn =>
        refine List.pairwise_append.2 ⟨h, List.pairwise_singleton _ _, fun e he d hd hed => ?_⟩
        rw [List.mem_singleton.1 hd] at hed
        exact hn ⟨e, he, hed⟩

/-- One after another, jobs give no workspace two data sources of one name. -/
theorem namesUnique_replies {c : List DataSource} (h : Store.NamesUnique c) {jobs : List Job}
    {r : Reply (List DataSource)} (hr : r ∈ useCases.replies jobs c) :
    Store.NamesUnique r.state := by
  induction jobs generalizing c with
  | nil => cases hr
  | cons j jobs ih =>
    rcases List.mem_cons.1 hr with rfl | hr
    · exact namesUnique_perform h j
    · exact ih (namesUnique_perform h j) hr

end Catalogue

end SourceRegistry
