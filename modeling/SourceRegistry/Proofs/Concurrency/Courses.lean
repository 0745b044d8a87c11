import SourceRegistry.Proofs.Concurrency.History
import SourceRegistry.Proofs.Service.Drafts

/-!
# What workers have asked the repository in memory

A worker saves at most once, as the last of two visits: the one before it found the name free.
A worker that has deleted something removed it with its last visit, and one that could not delete
was at the repository when the data source was not there.
-/

namespace SourceRegistry

open Program (Course)

variable (ctx : Context) (stamp : Stamp) {vs : List (Visit Store)}

theorem course_create {draft : Draft} {p : Program (Except ServiceError Summary)}
    (h : Course .memory (Service.program ctx stamp (.create draft)).run vs p) :
    (vs = [] ∧ ∀ a, p ≠ .done (.ok a)) ∨
      ∃ d m s, Service.prepare ctx stamp draft = .ok d ∧
        (vs = [⟨m, .nameTaken ctx.workspace d.name, s⟩] ∧ (∀ a, p ≠ .done (.ok a)) ∨
          ∃ n s', vs = [⟨m, .nameTaken ctx.workspace d.name, s⟩, ⟨n, .save d, s'⟩] ∧
            s.hasName ctx.workspace d.name = false ∧
            ∀ a, p = .done (.ok a) → ¬ s'.hasId d.id ∧ a = d.summary) := by
  rw [Service.program_create] at h
  split at h
  · obtain ⟨rfl, rfl⟩ := Course.done_iff.1 h
    exact .inl ⟨rfl, fun _ => nofun⟩
  next d hd =>
  rcases Course.ask_iff.1 h with ⟨rfl, rfl⟩ | ⟨m, s, vs, rfl, hc⟩
  · exact .inl ⟨rfl, fun _ => nofun⟩
  refine .inr ⟨d, m, s, hd, ?_⟩
  rw [Repository.memory_nameTaken] at hc
  cases hn : s.hasName ctx.workspace d.name with
  | true =>
    rw [hn] at hc
    obtain ⟨rfl, rfl⟩ := Course.done_iff.1 hc
    exact .inl ⟨rfl, fun _ => nofun⟩
  | false =>
    rw [hn] at hc
    rcases Course.ask_iff.1 hc with ⟨rfl, rfl⟩ | ⟨n, s', vs, rfl, hs⟩
    · exact .inl ⟨rfl, fun _ => nofun⟩
    refine .inr ⟨n, s', ?_⟩
    rw [Repository.memory_save] at hs
    by_cases hid : s'.hasId d.id
    · rw [if_pos hid] at hs
      obtain ⟨rfl, rfl⟩ := Course.done_iff.1 hs
      exact ⟨rfl, rfl, fun _ => nofun⟩
    · rw [if_neg hid] at hs
      rcases Course.note_iff.1 hs with ⟨rfl, rfl⟩ | hs
      · exact ⟨rfl, rfl, fun _ => nofun⟩
      · obtain ⟨rfl, rfl⟩ := Course.done_iff.1 hs
        exact ⟨rfl, rfl, fun a ha => by cases ha; exact ⟨hid, rfl⟩⟩

theorem course_delete {id : DataSourceId} {p : Program (Except ServiceError Unit)}
    (h : Course .memory (Service.program ctx stamp (.delete id)).run vs p) :
    vs = [] ∧ (∀ a, p ≠ .done a) ∨
      (∃ m s, vs = [⟨m, .find id ctx.workspace, s⟩] ∧
        ∀ a, p = .done a → s.find? id ctx.workspace = none ∧ a = .error (Service.absent id)) ∨
      ∃ m s n s', vs = [⟨m, .find id ctx.workspace, s⟩, ⟨n, .remove id ctx.workspace, s'⟩] ∧
        ∀ a, p = .done a →
          a = if (s'.without id ctx.workspace).length < s'.length then .ok ()
            else .error (Service.absent id) := by
  rw [Service.program_delete] at h
  rcases Course.ask_iff.1 h with ⟨rfl, rfl⟩ | ⟨m, s, vs, rfl, hf⟩
  · exact .inl ⟨rfl, fun _ => nofun⟩
  rw [Repository.memory_find] at hf
  cases hs : s.find? id ctx.workspace with
  | none =>
    rw [hs] at hf
    obtain ⟨rfl, rfl⟩ := Course.done_iff.1 hf
    exact .inr (.inl ⟨m, s, rfl, fun a ha => by cases ha; exact ⟨hs, rfl⟩⟩)
  | some d =>
    rw [hs] at hf
    rcases Course.ask_iff.1 hf with ⟨rfl, rfl⟩ | ⟨n, s', vs, rfl, hr⟩
    · exact .inr (.inl ⟨m, s, rfl, fun _ => nofun⟩)
    refine .inr (.inr ⟨m, s, n, s', ?_⟩)
    rw [Repository.memory_remove] at hr
    by_cases hl : (s'.without id ctx.workspace).length < s'.length
    · rw [decide_eq_true hl] at hr
      rcases Course.note_iff.1 hr with ⟨rfl, rfl⟩ | hr
      · exact ⟨rfl, fun _ => nofun⟩
      · obtain ⟨rfl, rfl⟩ := Course.done_iff.1 hr
        exact ⟨rfl, fun a ha => by cases ha; rw [if_pos hl]⟩
    · rw [decide_eq_false hl] at hr
      obtain ⟨rfl, rfl⟩ := Course.done_iff.1 hr
      exact ⟨rfl, fun a ha => by cases ha; rw [if_neg hl]⟩

theorem course_find {id : DataSourceId} {p : Program (Except ServiceError Summary)}
    (h : Course .memory (Service.program ctx stamp (.find id)).run vs p) :
    ∀ v ∈ vs, v.query = .find id ctx.workspace := by
  rw [Service.program_find] at h
  rcases Course.ask_iff.1 h with ⟨rfl, -⟩ | ⟨m, s, vs, rfl, hf⟩
  · simp
  split at hf <;> obtain ⟨rfl, -⟩ := Course.done_iff.1 hf <;> simp

theorem course_list {p : Program (Except ServiceError (List Summary))}
    (h : Course .memory (Service.program ctx stamp .list).run vs p) :
    ∀ v ∈ vs, v.query = .list ctx.workspace := by
  rw [Service.program_list] at h
  rcases Course.ask_iff.1 h with ⟨rfl, -⟩ | ⟨m, s, vs, rfl, hl⟩
  · simp
  split at hl
  · obtain ⟨rfl, -⟩ := Course.done_iff.1 hl
    simp
  · rcases Course.note_iff.1 hl with ⟨rfl, -⟩ | hl
    · simp
    · obtain ⟨rfl, -⟩ := Course.done_iff.1 hl
      simp

omit ctx stamp in
/-- Only creating saves: the data source of the draft, after its name was found to be free. -/
theorem course_save {j : Job} {p : Program (Except ServiceError j.op.Answer)} {v : Visit Store}
    {d : DataSource} (h : Course .memory (Worker.start j).rest vs p) (hv : v ∈ vs)
    (hq : v.query = .save d) :
    ∃ draft m s, j.op = .create draft ∧ Service.prepare j.ctx j.stamp draft = .ok d ∧
      s.hasName j.ctx.workspace d.name = false ∧
      vs = [⟨m, .nameTaken j.ctx.workspace d.name, s⟩, v] := by
  obtain ⟨ctx, stamp, op⟩ := j
  replace h : Course .memory (Service.program ctx stamp op).run vs p := h
  cases op with
  | list => rw [course_list ctx stamp h v hv] at hq; cases hq
  | find id => rw [course_find ctx stamp h v hv] at hq; cases hq
  | delete id =>
    rcases course_delete ctx stamp h with ⟨rfl, -⟩ | ⟨m, s, rfl, -⟩ | ⟨m, s, n, s', rfl, -⟩
    · cases hv
    · cases List.mem_singleton.1 hv; cases hq
    · simp only [List.mem_cons, List.not_mem_nil, or_false] at hv
      rcases hv with rfl | rfl <;> cases hq
  | create draft =>
    rcases course_create ctx stamp h with
      ⟨rfl, -⟩ | ⟨e, m, s, he, ⟨rfl, -⟩ | ⟨n, s', rfl, hn, -⟩⟩
    · cases hv
    · cases List.mem_singleton.1 hv; cases hq
    · simp only [List.mem_cons, List.not_mem_nil, or_false] at hv
      rcases hv with rfl | rfl
      · cases hq
      · cases hq; exact ⟨draft, m, s, rfl, he, hn, rfl⟩

end SourceRegistry
