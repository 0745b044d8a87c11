import SourceRegistry.Fixture
import SourceRegistry.Proofs.Catalogue.Basic
import SourceRegistry.Proofs.Service.Memory

/-!
# The service is the catalogue

Jobs that are done one after another by the service over the repository in memory are answered
as the catalogue answers them, and leave the same lists. The invariant is that no identifier
stands in the list twice or is still to be given away: so a save finds no conflict, and a removal
takes away one data source at most.
-/

namespace SourceRegistry

namespace Store

variable {s : Store}

/-- With identifiers that differ, taking everything of an identifier away takes one away. -/
theorem without_eq_eraseP (h : (s.map (·.id)).Nodup) (id : DataSourceId) (w : WorkspaceId) :
    s.without id w = s.eraseP fun d => d.id = id ∧ d.workspace = w := by
  induction s with
  | nil => rfl
  | cons d s ih =>
    rw [List.map_cons, List.nodup_cons] at h
    rw [without] at ih ⊢
    by_cases hd : d.id = id ∧ d.workspace = w
    · -- the others have other identifiers
      have hs : (s.filter fun e => !matches_ id w e) = s := by
        refine List.filter_eq_self.2 fun e he => ?_
        have hne : e.id ≠ id := fun hid =>
          h.1 (List.mem_map.2 ⟨e, he, hid.trans hd.1.symm⟩)
        simp [matches_, hne]
      rw [List.filter_cons_of_neg (by simpa using matches_iff.2 hd), hs,
        List.eraseP_cons_of_pos (by simpa using hd)]
    · have hm : ¬ matches_ id w d := fun hm => hd (matches_iff.1 hm)
      rw [List.filter_cons_of_pos (by simpa using hm), List.eraseP_cons_of_neg (by simpa using hd),
        ih h.2]

end Store

/-- One job, if no identifier of the store is given away again. -/
theorem Service.run_eq_catalogue {j : Job} {s : Store}
    (h : Catalogue.Distinct s j.newId?.toList) :
    ∃ events, (program j.ctx j.stamp j.op).run.run .memory s =
      ((Catalogue.perform j.ctx j.stamp j.op s).1, (Catalogue.perform j.ctx j.stamp j.op s).2,
        events) := by
  obtain ⟨ctx, stamp, op⟩ := j
  cases op with
  | list => exact ⟨_, run_list ctx stamp s⟩
  | find id =>
    have hfind : s.find? id ctx.workspace =
        List.find? (fun d => decide (d.id = id ∧ d.workspace = ctx.workspace)) s := by
      refine congrArg (List.find? · s) (funext fun d => ?_)
      rw [Bool.eq_iff_iff, Store.matches_iff, decide_eq_true_iff]
    refine ⟨[], (run_find ctx stamp s id).trans ?_⟩
    simp only [Catalogue.perform, hfind]
    cases List.find? _ s with
    | none => rfl
    | some d => rfl
  | delete id =>
    rw [run_delete]
    simp only [Catalogue.perform]
    split
    · exact ⟨_, by rw [Store.without_eq_eraseP h.nodup]⟩
    · exact ⟨_, rfl⟩
  | create draft =>
    -- the new identifier is none of the store
    have hid : ¬ s.hasId (draft.source ctx.workspace stamp).id := by
      rw [Store.hasId_iff]
      rintro ⟨d, hd, hde⟩
      have hnew : stamp.id ∈ (Job.mk ctx stamp (.create draft)).newId?.toList := by
        simp [Job.newId?]
      exact (List.nodup_append.1 h).2.2 _ (List.mem_map_of_mem hd) _ hnew hde
    rw [run_create]
    simp only [Catalogue.perform]
    by_cases ha : draft.Acceptable
    · rw [if_neg (not_not_intro ha), if_neg (not_not_intro ha)]
      by_cases hn : ∃ e ∈ s, e.Namesakes (draft.source ctx.workspace stamp)
      · exact ⟨_, by rw [if_pos hn, if_pos hn]⟩
      · exact ⟨_, by rw [if_neg hn, if_neg hn, if_neg hid]⟩
    · exact ⟨_, by rw [if_pos ha, if_pos ha]⟩

namespace UseCases

theorem reply_service {j : Job} {s : Store} (h : Catalogue.Distinct s j.newId?.toList) :
    (service .memory).reply j s = Catalogue.useCases.reply j s := by
  obtain ⟨events, he⟩ := Service.run_eq_catalogue h
  simp only [reply, service, Catalogue.useCases, he]

theorem replies_service_from {jobs : List Job} {s : Store}
    (h : Catalogue.Distinct s (jobs.filterMap (·.newId?))) :
    (service .memory).replies jobs s = Catalogue.useCases.replies jobs s := by
  induction jobs generalizing s with
  | nil => rfl
  | cons j jobs ih =>
    rw [filterMap_cons_toList] at h
    rw [replies, replies, reply_service (h.sublist (List.sublist_append_left _ _))]
    exact congrArg _ (ih h.perform)

open Fixture in
/-- A name is taken in its workspace until its data source is deleted there. -/
def succession : List Job :=
  [⟨context, stamp 1, .create draft⟩, ⟨context, stamp 2, .create draft⟩,
    ⟨{ context with workspace := ⟨(stamp 9).id.uuid⟩ }, stamp 0, .delete (stamp 1).id⟩,
    ⟨context, stamp 0, .delete (stamp 1).id⟩, ⟨context, stamp 3, .create draft⟩,
    ⟨context, stamp 0, .find (stamp 3).id⟩, ⟨context, stamp 0, .list⟩]

theorem namesUnique_service {jobs : List Job} (h : Job.Fresh jobs) {r : Reply Store}
    (hr : r ∈ (service .memory).replies jobs []) : r.state.NamesUnique := by
  rw [replies_service_from (s := []) h] at hr
  exact Catalogue.namesUnique_replies .nil hr

end UseCases

end SourceRegistry
