import Mathlib.Data.List.Nodup
import Mathlib.Data.List.Pairwise
import SourceRegistry.Fixture
import SourceRegistry.Proofs.Concurrency.Courses

/-!
# No update is lost or done twice

Whatever the order of the turns: an identifier is created once and deleted once, a deletion comes
after the save of what it deletes, a refused deletion saw that there was nothing to delete, and
the store holds what was saved and not removed, in the order of the saves.
-/

namespace SourceRegistry

/-- Of two members in order, the second has the first somewhere before it. -/
theorem split_of_pair_sublist {α : Type} {u v : α} {l : List α} (h : List.Sublist [u, v] l) :
    ∃ a b, l = a ++ v :: b ∧ u ∈ a := by
  obtain ⟨a, c, rfl, hu, hc⟩ := List.cons_sublist_iff.1 h
  obtain ⟨b, d, rfl⟩ := List.append_of_mem (List.singleton_sublist.1 hc)
  exact ⟨a ++ b, d, by simp, List.mem_append_left _ hu⟩

namespace System

variable {y : System Store}

/-- A save was made by a worker that creates, after it found the name to be free. -/
theorem Sound.save (h : y.Sound .memory []) {v : Visit Store} {d : DataSource}
    (hv : v ∈ y.history) (hq : v.query = .save d) :
    ∃ w draft m s, y.workers[v.worker]? = some w ∧ w.job.op = .create draft ∧
      d = draft.source w.job.ctx.workspace w.job.stamp ∧
      s.hasName d.workspace d.name = false ∧
      y.visitsOf v.worker = [⟨m, .nameTaken d.workspace d.name, s⟩, v] := by
  obtain ⟨w, hw⟩ : ∃ w, y.workers[v.worker]? = some w :=
    ⟨_, List.getElem?_eq_getElem (h.present v hv)⟩
  have hmem : v ∈ y.visitsOf v.worker := mem_visitsOf.2 ⟨hv, rfl⟩
  obtain ⟨draft, m, s, hop, hd, hn, hvs⟩ := course_save (h.course hw) hmem hq
  have hsrc := Service.source_of_prepare hd
  have hws : d.workspace = w.job.ctx.workspace := by rw [hsrc]; rfl
  exact ⟨w, draft, m, s, hw, hop, hsrc, by rw [hws]; exact hn, by rw [hws]; exact hvs⟩

theorem Sound.savedIn_nodup (h : y.Sound .memory []) (hf : Job.Fresh (y.workers.map (·.job))) :
    ((Store.savedIn y.history).map (·.id)).Nodup := by
  rw [List.Nodup, List.pairwise_map, Store.savedIn, List.pairwise_filterMap,
    List.pairwise_iff_forall_sublist]
  intro u v huv d hd e he hid
  have hdq := (Visit.saved?_eq_some_iff.1 hd).1
  have heq := (Visit.saved?_eq_some_iff.1 he).1
  obtain ⟨w, draft, -, -, hw, hop, rfl, -, -⟩ := h.save (huv.subset (by simp)) hdq
  obtain ⟨w', draft', m, s, hw', hop', rfl, -, hvs⟩ := h.save (huv.subset (by simp)) heq
  have hsame : u.worker = v.worker := by
    refine worker_unique hf hw hw' (Job.newId?_of_create hop) ?_
    rw [Job.newId?_of_create hop']
    exact congrArg some hid.symm
  -- a worker that has saved twice would have made three visits
  have hsub : List.Sublist [u, v] (y.visitsOf v.worker) := by
    have := huv.filter (fun x => decide (x.worker = v.worker))
    simpa [visitsOf, hsame] using this
  rw [hvs] at hsub
  cases hsub.eq_of_length rfl
  cases hdq

theorem Sound.savedIn_of_mem (h : y.Sound .memory []) {a b : List (Visit Store)} {v : Visit Store}
    (hy : y.history = a ++ v :: b) {d : DataSource} (hd : d ∈ v.state) : d ∈ Store.savedIn a :=
  saved_before (hy ▸ h.genuine) hd

theorem Sound.nodup_before (h : y.Sound .memory []) (hf : Job.Fresh (y.workers.map (·.job)))
    {a b : List (Visit Store)} {v : Visit Store} (hy : y.history = a ++ v :: b) :
    ((Store.savedIn a).map (·.id)).Nodup := by
  have hn := h.savedIn_nodup hf
  rw [hy, Store.savedIn, List.filterMap_append, List.map_append, List.nodup_append] at hn
  exact hn.1

/-- A visit saw what had been saved and not removed before it. -/
theorem Sound.seen (h : y.Sound .memory []) (hf : Job.Fresh (y.workers.map (·.job)))
    {a b : List (Visit Store)} {v : Visit Store} (hy : y.history = a ++ v :: b) :
    v.state = Store.standing a := by
  rw [h.genuine hy]
  exact replay_eq_standing (hy ▸ h.genuine).of_append (h.nodup_before hf hy)

theorem Sound.state_eq_standing (h : y.Sound .memory []) (hf : Job.Fresh (y.workers.map (·.job))) :
    y.state = Store.standing y.history := by
  rw [h.state]
  exact replay_eq_standing h.genuine (h.savedIn_nodup hf)

def removes (id : DataSourceId) (v : Visit Store) : Prop :=
  ∃ w, v.query = .remove id w ∧ ∃ d ∈ v.state, d.id = id ∧ d.workspace = w

theorem Sound.removes_once (h : y.Sound .memory []) (hf : Job.Fresh (y.workers.map (·.job)))
    (id : DataSourceId) : y.history.Pairwise fun u v => ¬ (removes id u ∧ removes id v) := by
  rw [List.pairwise_iff_forall_sublist]
  rintro u v huv ⟨⟨w, hu, e, he, heid, hew⟩, ⟨w', hv, d, hd, hdid, hdw⟩⟩
  obtain ⟨a, b, hy, hua⟩ := split_of_pair_sublist huv
  obtain ⟨a₁, a₂, rfl⟩ := List.append_of_mem hua
  -- both are about one data source, which the first removal has taken away
  rw [h.seen hf hy, Store.standing, List.mem_filter] at hd
  have hed : e ∈ Store.savedIn (a₁ ++ u :: a₂) := by
    rw [Store.savedIn, List.filterMap_append]
    refine List.mem_append_left _ (h.savedIn_of_mem (b := a₂ ++ v :: b) ?_ he)
    rw [hy, List.append_assoc, List.cons_append]
  have heq : d = e :=
    List.inj_on_of_nodup_map (h.nodup_before hf hy) hd.1 hed (hdid.trans heid.symm)
  have hrem : u.removed d := by
    rw [Visit.removed_iff, heq, heid, hew]
    exact ⟨hu, e, he, heid, hew⟩
  have hall := hd.2
  simp [hrem] at hall

def Created (y : System Store) (n : Nat) (d : Summary) : Prop :=
  ∃ ctx stamp draft, y.workers[n]? = some ⟨⟨ctx, stamp, .create draft⟩, .done (.ok d)⟩

def AnsweredDelete (y : System Store) (n : Nat) (id : DataSourceId) (w : WorkspaceId)
    (answer : Except ServiceError Unit) : Prop :=
  ∃ ctx stamp, ctx.workspace = w ∧
    y.workers[n]? = some ⟨⟨ctx, stamp, .delete id⟩, .done answer⟩

theorem Sound.creation (h : y.Sound .memory []) {n : Nat} {a : Summary} (hc : y.Created n a) :
    (∃ w, y.workers[n]? = some w ∧ w.job.newId? = some a.id) ∧
      ∃ v ∈ y.history, v.worker = n ∧ ∃ d, v.saved? = some d ∧ d.summary = a := by
  obtain ⟨ctx, stamp, draft, hw⟩ := hc
  rcases course_create ctx stamp (h.course hw) with
    ⟨-, ha⟩ | ⟨d, m, s, hd, ⟨-, ha⟩ | ⟨n', s', hvs, -, ha⟩⟩
  · exact absurd rfl (ha a)
  · exact absurd rfl (ha a)
  · obtain ⟨hin, hn⟩ := mem_visitsOf.1 (hvs ▸ by simp : ⟨n', .save d, s'⟩ ∈ y.visitsOf n)
    obtain ⟨hid, rfl⟩ := ha a rfl
    refine ⟨⟨_, hw, ?_⟩, _, hin, hn, d, Visit.saved?_eq_some_iff.2 ⟨rfl, hid⟩, rfl⟩
    rw [Service.source_of_prepare hd]
    rfl

theorem Sound.removal (h : y.Sound .memory []) {n : Nat} {id : DataSourceId} {w : WorkspaceId}
    (hd : y.AnsweredDelete n id w (.ok ())) :
    ∃ v ∈ y.history, v.worker = n ∧ v.query = .remove id w ∧
      ∃ d ∈ v.state, d.id = id ∧ d.workspace = w := by
  obtain ⟨ctx, stamp, rfl, hw⟩ := hd
  rcases course_delete ctx stamp (h.course hw) with
    ⟨-, ha⟩ | ⟨m, s, -, ha⟩ | ⟨m, s, n', s', hvs, ha⟩
  · exact absurd rfl (ha _)
  · cases (ha _ rfl).2
  · obtain ⟨hin, hn⟩ := mem_visitsOf.1
      (hvs ▸ by simp : ⟨n', .remove id ctx.workspace, s'⟩ ∈ y.visitsOf n)
    refine ⟨_, hin, hn, rfl, Store.without_length_lt_iff.1 ?_⟩
    by_contra hl
    have := ha _ rfl
    rw [if_neg hl] at this
    cases this

theorem Sound.refusal (h : y.Sound .memory []) {n : Nat} {id : DataSourceId} {w : WorkspaceId}
    {e : ServiceError} (hd : y.AnsweredDelete n id w (.error e)) :
    e = Service.absent id ∧
      ∃ v ∈ y.history, v.worker = n ∧ ¬ ∃ d ∈ v.state, d.id = id ∧ d.workspace = w := by
  obtain ⟨ctx, stamp, rfl, hw⟩ := hd
  rcases course_delete ctx stamp (h.course hw) with
    ⟨-, ha⟩ | ⟨m, s, hvs, ha⟩ | ⟨m, s, n', s', hvs, ha⟩
  · exact absurd rfl (ha _)
  · obtain ⟨hin, hn⟩ := mem_visitsOf.1
      (hvs ▸ by simp : ⟨m, .find id ctx.workspace, s⟩ ∈ y.visitsOf n)
    obtain ⟨hs, he⟩ := ha _ rfl
    cases he
    exact ⟨rfl, _, hin, hn, Store.find?_eq_none_iff.1 hs⟩
  · obtain ⟨hin, hn⟩ := mem_visitsOf.1
      (hvs ▸ by simp : ⟨n', .remove id ctx.workspace, s'⟩ ∈ y.visitsOf n)
    have he := ha _ rfl
    split at he
    · cases he
    · next hl =>
      cases he
      exact ⟨rfl, _, hin, hn, fun hex => hl (Store.without_length_lt_iff.2 hex)⟩

/-- A worker that creates has an identifier to give away and a workspace to create in. -/
def Creates (y : System Store) (n : Nat) (id : DataSourceId) (w : WorkspaceId) : Prop :=
  ∃ c, y.workers[n]? = some c ∧ c.job.newId? = some id ∧ c.job.ctx.workspace = w

/-- A worker has removed the data source of an identifier that another had saved before. -/
def SavedBefore (y : System Store) (n : Nat) (id : DataSourceId) (w : WorkspaceId) : Prop :=
  ∃ a v b, y.history = a ++ v :: b ∧ v.worker = n ∧ ∃ u ∈ a, y.Creates u.worker id w ∧
    ∃ d, u.saved? = some d ∧ v.removed d ∧ d.id = id ∧ d.workspace = w

/-- What workers were told agrees with what they did, and what they did with the store. -/
structure Accounted (y : System Store) : Prop where
  created : ∀ ⦃n d⦄, y.Created n d →
    ∃ v ∈ y.history, v.worker = n ∧ ∃ e, v.saved? = some e ∧ e.summary = d
  createdOnce : ∀ ⦃m n d e⦄, y.Created m d → y.Created n e → d.id = e.id → m = n
  deleted : ∀ ⦃n id w⦄, y.AnsweredDelete n id w (.ok ()) → y.SavedBefore n id w
  deletedOnce : ∀ ⦃m n id w w'⦄, y.AnsweredDelete m id w (.ok ()) →
    y.AnsweredDelete n id w' (.ok ()) → m = n
  refused : ∀ ⦃n id w e⦄, y.AnsweredDelete n id w (.error e) → e = Service.absent id ∧
    ∃ v ∈ y.history, v.worker = n ∧ ¬ ∃ d ∈ v.state, d.id = id ∧ d.workspace = w
  state : y.state = Store.standing y.history

theorem Sound.savedBefore (h : y.Sound .memory []) {n : Nat} {id : DataSourceId} {w : WorkspaceId}
    (hd : y.AnsweredDelete n id w (.ok ())) : y.SavedBefore n id w := by
  obtain ⟨v, hv, hn, hq, d, hdv, rfl, rfl⟩ := h.removal hd
  obtain ⟨a, b, hy⟩ := List.append_of_mem hv
  obtain ⟨u, hu, hs⟩ := List.mem_filterMap.1 (h.savedIn_of_mem hy hdv)
  have huy : u ∈ y.history := by rw [hy]; exact List.mem_append_left _ hu
  have hr : v.removed d := Visit.removed_iff.2 ⟨hq, d, hdv, rfl, rfl⟩
  obtain ⟨c, draft, m, s, hc, hop, hsrc, -, -⟩ := h.save huy (Visit.saved?_eq_some_iff.1 hs).1
  refine ⟨a, v, b, hy, hn, u, hu, ⟨c, hc, ?_, ?_⟩, d, hs, hr, rfl, rfl⟩
  · rw [Job.newId?_of_create hop, hsrc]; rfl
  · rw [hsrc]; rfl

theorem Sound.createdOnce (h : y.Sound .memory []) (hf : Job.Fresh (y.workers.map (·.job)))
    {m n : Nat} {d e : Summary} (hd : y.Created m d) (he : y.Created n e) (hid : d.id = e.id) :
    m = n := by
  obtain ⟨⟨w, hw, hwd⟩, -⟩ := h.creation hd
  obtain ⟨⟨w', hw', hwe⟩, -⟩ := h.creation he
  exact worker_unique hf hw hw' hwd (hid ▸ hwe)

theorem Sound.deletedOnce (h : y.Sound .memory []) (hf : Job.Fresh (y.workers.map (·.job)))
    {m n : Nat} {id : DataSourceId} {w w' : WorkspaceId} (hm : y.AnsweredDelete m id w (.ok ()))
    (hn : y.AnsweredDelete n id w' (.ok ())) : m = n := by
  obtain ⟨u, hu, rfl, hur⟩ := h.removal hm
  obtain ⟨v, hv, rfl, hvr⟩ := h.removal hn
  by_contra hne
  have huv : u ≠ v := fun he => hne (congrArg _ he)
  have : Std.Symm fun u v => ¬ (removes id u ∧ removes id v) := ⟨fun _ _ hr hs => hr hs.symm⟩
  exact (h.removes_once hf id).forall hu hv huv ⟨⟨w, hur⟩, w', hvr⟩

/-- Whatever the workers do and in whatever order, no update is lost or done twice. -/
theorem accounted_run (turns : List Turn) (hf : Job.Fresh (turns.filterMap (·.job?))) :
    (run .memory [] turns).Accounted := by
  have h := sound_run .memory [] turns
  rw [← jobs_run .memory [] turns] at hf
  exact ⟨fun _ _ hc => (h.creation hc).2, fun _ _ _ _ => h.createdOnce hf,
    fun _ _ _ => h.savedBefore, fun _ _ _ _ _ => h.deletedOnce hf, fun _ _ _ _ => h.refusal,
    h.state_eq_standing hf⟩

open Fixture in
/-- Two workers are told to delete one data source, and both find it before either removes it. -/
def rivalDeletions : List Turn :=
  let deletion : Job := ⟨context, stamp 0, .delete (stamp 1).id⟩
  [.begin ⟨context, stamp 1, .create draft⟩, .step 0, .step 0, .step 0,
    .begin deletion, .begin deletion, .step 1, .step 2, .step 1, .step 1, .step 2]

open Fixture in
/-- Only one of them is told that it has deleted the data source. -/
theorem accounted_rivalDeletions :
    Job.Fresh (rivalDeletions.filterMap (·.job?)) ∧ (run .memory [] rivalDeletions).Accounted ∧
      (run .memory [] rivalDeletions).AnsweredDelete 1 (stamp 1).id .nil (.ok ()) ∧
      (run .memory [] rivalDeletions).AnsweredDelete 2 (stamp 1).id .nil
        (.error (Service.absent (stamp 1).id)) := by
  have hf : Job.Fresh (rivalDeletions.filterMap (·.job?)) := by decide
  exact ⟨hf, accounted_run rivalDeletions hf, ⟨context, stamp 0, rfl, rfl⟩,
    ⟨context, stamp 0, rfl, rfl⟩⟩

end System

end SourceRegistry
