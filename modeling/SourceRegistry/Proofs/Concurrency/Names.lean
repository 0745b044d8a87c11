import SourceRegistry.Proofs.Concurrency.Updates
import SourceRegistry.Proofs.Service.Memory

/-!
# Names under concurrency

A worker that creates asks for the name in one turn and saves in a later one, and another worker
may save that name in between. `namesUnique_run` says that this is the only way in which a
workspace gets two data sources of one name.
-/

namespace SourceRegistry

namespace System

variable {y : System Store}

/-- A namesake of `e`, namely `d`, was saved after the worker that saved `e` had asked for the
name. -/
def Overtaken (y : System Store) (d e : DataSource) : Prop :=
  d.Namesakes e ∧ ∃ m n s₁ s₂ s₃, List.Sublist
    [⟨n, .nameTaken e.workspace e.name, s₁⟩, ⟨m, .save d, s₂⟩, ⟨n, .save e, s₃⟩] y.history

/-- The question for the name that came before a save. -/
theorem Sound.asked (h : y.Sound .memory []) {a b : List (Visit Store)} {v : Visit Store}
    (hy : y.history = a ++ v :: b) {e : DataSource} (hq : v.query = .save e) :
    ∃ a₁ s a₂, a = a₁ ++ ⟨v.worker, .nameTaken e.workspace e.name, s⟩ :: a₂ ∧
      ¬ ∃ d ∈ s, d.Namesakes e := by
  obtain ⟨w, draft, m, s, hw, -, rfl, hn, hvs⟩ := h.save (by rw [hy]; simp) hq
  generalize hu : (⟨m, .nameTaken _ _, s⟩ : Visit Store) = u at hvs
  have hua : u ∈ a := by
    rw [visitsOf, hy, List.filter_append, List.filter_cons_of_pos (by simp)] at hvs
    cases hf : a.filter fun x => decide (x.worker = v.worker) with
    | nil =>
      -- the first visit of the worker is no save
      rw [hf, List.nil_append] at hvs
      obtain ⟨rfl, -⟩ := List.cons.inj hvs
      rw [← hu] at hq
      cases hq
    | cons x l =>
      rw [hf] at hvs
      obtain ⟨rfl, -⟩ := List.cons.inj hvs
      exact List.mem_of_mem_filter (hf ▸ List.mem_cons_self)
  have hum : u.worker = v.worker := (mem_visitsOf.1 (hvs ▸ List.mem_cons_self)).2
  obtain ⟨a₁, a₂, rfl⟩ := List.append_of_mem hua
  refine ⟨a₁, s, a₂, by rw [← hum, ← hu], fun hd => ?_⟩
  have := Store.hasName_source_iff.2 hd
  rw [Draft.source] at this hn
  rw [hn] at this
  cases this

/-- Of two namesakes in the store, the later one was overtaken. -/
theorem Sound.overtaken (h : y.Sound .memory []) (hf : Job.Fresh (y.workers.map (·.job))) :
    y.state.Pairwise fun d e => d.Namesakes e → y.Overtaken d e := by
  rw [h.state_eq_standing hf, Store.standing, Store.savedIn, List.pairwise_filter,
    List.pairwise_filterMap, List.pairwise_iff_forall_sublist]
  intro u v huv d hu e hv hd _ hde
  obtain ⟨a, b, hy, hua⟩ := split_of_pair_sublist huv
  have huq := (Visit.saved?_eq_some_iff.1 hu).1
  have hvq := (Visit.saved?_eq_some_iff.1 hv).1
  obtain ⟨a₁, s, a₂, rfl, hs⟩ := h.asked hy hvq
  rcases List.mem_append.1 hua with hua | hua
  · -- saved before the name was asked for, `d` would have been found
    have hy' : y.history =
        a₁ ++ ⟨v.worker, .nameTaken e.workspace e.name, s⟩ :: (a₂ ++ v :: b) := by
      rw [hy, List.append_assoc, List.cons_append]
    have hall : ¬ a₁.any (·.removed d) := by
      rw [hy', List.any_append, Bool.not_or, Bool.and_eq_true] at hd
      simpa using hd.1
    have hseen : s = Store.standing a₁ := h.seen hf hy'
    refine absurd ⟨d, ?_, hde⟩ hs
    rw [hseen, Store.standing, List.mem_filter]
    exact ⟨List.mem_filterMap.2 ⟨u, hua, hu⟩, by simpa using hall⟩
  · rcases List.mem_cons.1 hua with rfl | hua₂
    · cases huq
    · obtain ⟨m, q, s₂⟩ := u
      obtain ⟨n, q', s₃⟩ := v
      cases huq
      cases hvq
      refine ⟨hde, m, n, s, s₂, s₃, ?_⟩
      rw [hy, List.append_assoc, List.cons_append]
      refine .trans (.cons_cons _ ?_) (List.sublist_append_right _ _)
      exact (List.singleton_sublist.2 hua₂).append (List.singleton_sublist.2 List.mem_cons_self)

/-- An overtaken data source is not the one that overtook it. -/
theorem Sound.ne_of_overtaken (h : y.Sound .memory []) (hf : Job.Fresh (y.workers.map (·.job)))
    {d e : DataSource} (ho : y.Overtaken d e) : d ≠ e := by
  rintro rfl
  obtain ⟨-, m, n, s₁, s₂, s₃, hsub⟩ := ho
  obtain ⟨w, draft, -, -, hw, hop, hd, -, -⟩ :=
    h.save (v := ⟨m, .save d, s₂⟩) (hsub.subset (by simp)) rfl
  obtain ⟨w', draft', m', s', hw', hop', hd', -, hvs⟩ :=
    h.save (v := ⟨n, .save d, s₃⟩) (hsub.subset (by simp)) rfl
  have hmn : m = n := by
    refine worker_unique hf hw hw' (Job.newId?_of_create hop) ?_
    rw [Job.newId?_of_create hop', Option.some_inj]
    exact (congrArg (·.id) hd').symm.trans (congrArg (·.id) hd)
  -- the worker would have made three visits
  have hlen := (hsub.filter fun x => decide (x.worker = n)).length_le
  rw [visitsOf] at hvs
  rw [hvs, hmn] at hlen
  simp at hlen

/-- Names stay unique iff no data source of the store has overtaken another one. -/
theorem namesUnique_run (turns : List Turn) (hf : Job.Fresh (turns.filterMap (·.job?))) :
    (run .memory [] turns).state.NamesUnique ↔
      ∀ d ∈ (run .memory [] turns).state, ∀ e ∈ (run .memory [] turns).state,
        ¬ (run .memory [] turns).Overtaken d e := by
  have h := sound_run .memory [] turns
  rw [← jobs_run .memory [] turns] at hf
  constructor
  · intro hu d hd e he ho
    have : Std.Symm fun d e : DataSource => ¬ d.Namesakes e := ⟨fun _ _ hn hm => hn hm.symm⟩
    exact List.Pairwise.forall hu hd he (h.ne_of_overtaken hf ho) ho.1
  · intro hno
    refine (h.overtaken hf).imp_of_mem fun hd he ho hn => hno _ hd _ he (ho hn)

open Fixture in
/-- Two workers create a data source from one draft, and both ask for its name before either
saves. -/
def rivalCreations : List Turn :=
  [.begin ⟨context, stamp 1, .create draft⟩, .begin ⟨context, stamp 2, .create draft⟩,
    .step 0, .step 1, .step 0, .step 1]

theorem not_namesUnique_rivalCreations :
    Job.Fresh (rivalCreations.filterMap (·.job?)) ∧
      ¬ (run .memory [] rivalCreations).state.NamesUnique := by
  decide +kernel

theorem overtaken_rivalCreations :
    Job.Fresh (rivalCreations.filterMap (·.job?)) ∧
      ∃ d ∈ (run .memory [] rivalCreations).state, ∃ e ∈ (run .memory [] rivalCreations).state,
        (run .memory [] rivalCreations).Overtaken d e := by
  have hf : Job.Fresh (rivalCreations.filterMap (·.job?)) := by decide
  have hn : ¬ (run .memory [] rivalCreations).state.NamesUnique := by decide +kernel
  refine ⟨hf, ?_⟩
  by_contra hno
  refine hn ((namesUnique_run rivalCreations hf).2 fun d hd e he ho => ?_)
  exact hno ⟨d, hd, e, he, ho⟩

end System

end SourceRegistry
