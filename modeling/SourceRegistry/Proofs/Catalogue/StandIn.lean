import SourceRegistry.Proofs.Catalogue.Refinement
import SourceRegistry.Proofs.Repository.Recorder

/-!
# The recorder stands in for the repository in memory

A recorder of repository calls takes every data source that is saved, the repository in memory
only those with new identifiers. So a program cannot tell them apart as long as it saves nothing
whose identifier is stored (`StandsFor.run`), and the service never does, if its identifiers are
new.
-/

namespace SourceRegistry

/-- Whatever a program saves over the repository in memory has an identifier that is not stored. -/
def Program.SavesNew {α : Type} : Program α → Store → Prop
  | .done _, _ => True
  | .note _ next, s => next.SavesNew s
  | .ask q next, s =>
    (∀ d, q = .save d → ¬ s.hasId d.id) ∧
      (next (Repository.memory.answer q s).1).SavesNew (Repository.memory.answer q s).2

namespace Recorder.StandsFor

variable {r : Recorder} {s : Store} {α : Type}

/-- A run over the recorder answers and reports what the run in memory does, and leaves the same
data sources. -/
theorem run (h : r.StandsFor s) {p : Program α} (hp : p.SavesNew s) :
    (p.run .recorder r).1 = (p.run .memory s).1 ∧
      (p.run .recorder r).2.1.StandsFor (p.run .memory s).2.1 ∧
      (p.run .recorder r).2.2 = (p.run .memory s).2.2 := by
  induction p generalizing r s with
  | done a => exact ⟨rfl, h, rfl⟩
  | note e next ih =>
    obtain ⟨ha, hs, he⟩ := ih h hp
    exact ⟨ha, hs, congrArg (e :: ·) he⟩
  | ask q next ih =>
    obtain ⟨hq, hnext⟩ := hp
    obtain ⟨ha, hs⟩ := h.answer hq
    unfold Program.run
    dsimp only
    rw [ha]
    exact ih _ hs hnext

end Recorder.StandsFor

/-- A use case whose identifier is new saves nothing but what has this identifier. -/
theorem Service.savesNew_program (ctx : Context) (stamp : Stamp) (op : Operation) {s : Store}
    (h : ∀ draft, op = .create draft → ¬ s.hasId stamp.id) :
    (program ctx stamp op).run.SavesNew s := by
  cases op with
  | list =>
    rw [program_list]
    exact ⟨nofun, trivial⟩
  | find id =>
    rw [program_find]
    refine ⟨nofun, ?_⟩
    rw [Repository.memory_find]
    cases s.find? id ctx.workspace <;> trivial
  | delete id =>
    rw [program_delete]
    refine ⟨nofun, ?_⟩
    rw [Repository.memory_find]
    cases s.find? id ctx.workspace with
    | none => trivial
    | some d =>
      refine ⟨nofun, ?_⟩
      rw [Repository.memory_remove]
      cases decide ((s.without id ctx.workspace).length < s.length) <;> trivial
  | create draft =>
    rw [program_create]
    cases hd : prepare ctx stamp draft with
    | error e => trivial
    | ok d =>
      have hnew : ¬ s.hasId d.id := by
        rw [source_of_prepare hd]
        exact h draft rfl
      refine ⟨nofun, ?_⟩
      rw [Repository.memory_nameTaken]
      cases s.hasName ctx.workspace d.name with
      | true => trivial
      | false =>
        refine ⟨fun e he => ?_, ?_⟩
        · cases he
          exact hnew
        · rw [Repository.memory_save, if_neg hnew]
          trivial

/-- A reply of which another state is told. -/
def Reply.over {σ τ : Type} (f : σ → τ) (r : Reply σ) : Reply τ := ⟨r.job, r.ending, f r.state⟩

namespace UseCases

variable {r : Recorder} {s : Store}

/-- A job that gives no stored identifier away. -/
theorem reply_standIn_of_new (h : r.StandsFor s) {j : Job}
    (hnew : ∀ draft, j.op = .create draft → ¬ s.hasId j.stamp.id) :
    ((service .recorder).reply j r).over (·.records) = (service .memory).reply j s ∧
      ((service .recorder).reply j r).state.StandsFor ((service .memory).reply j s).state := by
  obtain ⟨ha, hs, -⟩ := h.run (Service.savesNew_program j.ctx j.stamp j.op hnew)
  refine ⟨?_, hs⟩
  unfold reply service Reply.over
  dsimp only
  rw [ha, hs.records]

theorem reply_standIn (h : r.StandsFor s) {j : Job}
    (hj : Catalogue.Distinct s j.newId?.toList) :
    ((service .recorder).reply j r).over (·.records) = (service .memory).reply j s ∧
      ((service .recorder).reply j r).state.StandsFor ((service .memory).reply j s).state := by
  refine reply_standIn_of_new h fun draft hop hid => ?_
  obtain ⟨d, hd, hde⟩ := Store.hasId_iff.1 hid
  rw [Catalogue.Distinct, Job.newId?_of_create hop] at hj
  exact (List.nodup_append.1 hj).2.2 _ (List.mem_map_of_mem hd) _ (by simp) hde

theorem replies_standIn_from (h : r.StandsFor s) {jobs : List Job}
    (hj : Catalogue.Distinct s (jobs.filterMap (·.newId?))) :
    ((service .recorder).replies jobs r).map (Reply.over (·.records)) =
      (service .memory).replies jobs s := by
  induction jobs generalizing r s with
  | nil => rfl
  | cons j jobs ih =>
    rw [filterMap_cons_toList] at hj
    have hfirst := hj.sublist (List.sublist_append_left _ _)
    obtain ⟨hreply, hs⟩ := reply_standIn h hfirst
    have hstate : ((service .memory).reply j s).state =
        (Catalogue.perform j.ctx j.stamp j.op s).2 :=
      congrArg Reply.state (reply_service hfirst)
    rw [replies, replies, List.map_cons, hreply]
    refine congrArg _ (ih hs ?_)
    rw [hstate]
    exact hj.perform

/-- Whatever jobs are done one after another, the service is answered alike over a new recorder
and over the repository in memory, and both have the same data sources after every job. -/
theorem replies_standIn (jobs : List Job) (h : Job.Fresh jobs) :
    ((service .recorder).replies jobs {}).map (Reply.over (·.records)) =
      (service .memory).replies jobs [] :=
  replies_standIn_from ⟨rfl, rfl⟩ h

theorem replies_standIn_succession :
    Job.Fresh succession ∧
      ((service .recorder).replies succession {}).map (Reply.over (·.records)) =
        (service .memory).replies succession [] := by
  have hf : Job.Fresh succession := by decide
  exact ⟨hf, replies_standIn succession hf⟩

end UseCases

end SourceRegistry
