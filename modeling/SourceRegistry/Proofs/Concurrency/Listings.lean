import Mathlib.Data.Int.Order.Basic
import Mathlib.Data.List.Lex
import SourceRegistry.Proofs.Concurrency.Updates

/-!
# Lists under concurrency

A data source has the time at which its worker built it and the place in the store at which the
worker saved it later. In between, a worker that began after it may build and save another one, so
a list need not be in the order of the times. `inOrder_run` says that this is the only way.
-/

namespace SourceRegistry

namespace Instant

/-- The numbers of an instant, the greatest unit first. -/
def units (t : Instant) : List Int :=
  [t.date.year, t.date.month, t.date.day, t.hour, t.minute, t.second, t.nanosecond]

instance : LE Instant := ⟨fun s t => s.units ≤ t.units⟩

instance (s t : Instant) : Decidable (s ≤ t) := inferInstanceAs (Decidable (s.units ≤ t.units))

end Instant

/-- The time that a job reads off the clock as it begins, which only creating does. -/
def Job.newTime? (j : Job) : Option Instant :=
  match j.op with
  | .create _ => some j.stamp.time
  | _ => none

def Job.Steady (jobs : List Job) : Prop := (jobs.filterMap (·.newTime?)).Pairwise (· ≤ ·)

instance (jobs : List Job) : Decidable (Job.Steady jobs) :=
  inferInstanceAs (Decidable (List.Pairwise _ _))

theorem Job.newTime?_of_create {j : Job} {draft : Draft} (h : j.op = .create draft) :
    j.newTime? = some j.stamp.time := by
  simp [Job.newTime?, h]

def Summary.InOrder (l : List Summary) : Prop := l.Pairwise fun a b => a.createdAt ≤ b.createdAt

instance (l : List Summary) : Decidable (Summary.InOrder l) :=
  inferInstanceAs (Decidable (List.Pairwise _ _))

namespace System

variable {y : System Store}

theorem time_le_of_lt (h : Job.Steady (y.workers.map (·.job))) {m n : Nat} {w w' : Worker}
    {t t' : Instant} (hm : y.workers[m]? = some w) (hn : y.workers[n]? = some w')
    (hw : w.job.newTime? = some t) (hw' : w'.job.newTime? = some t') (hmn : m < n) : t ≤ t' := by
  rw [Job.Steady, List.filterMap_map] at h
  have hp := List.pairwise_iff_getElem.1 (List.pairwise_filterMap.1 h)
  obtain ⟨hml, rfl⟩ := List.getElem?_eq_some_iff.1 hm
  obtain ⟨hnl, rfl⟩ := List.getElem?_eq_some_iff.1 hn
  exact hp m n hml hnl hmn t hw t' hw'

def AnsweredList (y : System Store) (n : Nat) (w : WorkspaceId) (l : List Summary) : Prop :=
  ∃ ctx stamp, ctx.workspace = w ∧ y.workers[n]? = some ⟨⟨ctx, stamp, .list⟩, .done (.ok l)⟩

/-- What a list holds that was asked for after the visits `a`. -/
def listed (a : List (Visit Store)) (w : WorkspaceId) : Store := (Store.standing a).ofWorkspace w

theorem mem_savedIn_of_mem_listed {a : List (Visit Store)} {w : WorkspaceId} {d : DataSource}
    (h : d ∈ listed a w) : d ∈ Store.savedIn a :=
  (List.mem_filter.1 (List.mem_filter.1 h).1).1

/-- A list has what was saved and not removed before it was asked for, in the order of the
saves. -/
theorem Sound.list (h : y.Sound .memory []) (hf : Job.Fresh (y.workers.map (·.job))) {n : Nat}
    {w : WorkspaceId} {l : List Summary} (hl : y.AnsweredList n w l) :
    ∃ a v b, y.history = a ++ v :: b ∧ v.worker = n ∧ v.query = .list w ∧
      l = (listed a w).map (·.summary) := by
  obtain ⟨ctx, stamp, rfl, hw⟩ := hl
  have hc := h.course hw
  change Program.Course _ (Service.program ctx stamp .list).run _ _ at hc
  rw [Service.program_list] at hc
  rcases Program.Course.ask_iff.1 hc with ⟨-, hp⟩ | ⟨m, s, vs, hvs, hc⟩
  · cases hp
  rcases Program.Course.note_iff.1 hc with ⟨-, hp⟩ | hc
  · cases hp
  obtain ⟨rfl, hp⟩ := Program.Course.done_iff.1 hc
  cases hp
  obtain ⟨hin, hn⟩ := mem_visitsOf.1 (hvs ▸ by simp : ⟨m, .list ctx.workspace, s⟩ ∈ y.visitsOf n)
  obtain ⟨a, b, hy⟩ := List.append_of_mem hin
  refine ⟨a, _, b, hy, hn, rfl, ?_⟩
  rw [listed, ← h.seen hf hy]

/-- Data sources are listed in order iff of any two that were saved one after the other the times
are in order too. -/
theorem inOrder_listed_iff {a : List (Visit Store)} {w : WorkspaceId} :
    Summary.InOrder ((listed a w).map (·.summary)) ↔
      ∀ u v d e, List.Sublist [u, v] a → u.saved? = some d → v.saved? = some e →
        d ∈ listed a w → e ∈ listed a w → d.createdAt ≤ e.createdAt := by
  rw [Summary.InOrder, List.pairwise_map, listed, Store.ofWorkspace, Store.standing,
    Store.savedIn, List.pairwise_filter, List.pairwise_filter, List.pairwise_filterMap,
    List.pairwise_iff_forall_sublist]
  constructor
  · intro hp u v d e huv hu hv hd he
    obtain ⟨hd, hdw⟩ := List.mem_filter.1 hd
    obtain ⟨he, hew⟩ := List.mem_filter.1 he
    exact hp huv d hu e hv (List.mem_filter.1 hd).2 (List.mem_filter.1 he).2 hdw hew
  · intro hp u v huv d hu e hv hda hea hdw hew
    have hus : d ∈ Store.savedIn a := List.mem_filterMap.2 ⟨u, huv.subset (by simp), hu⟩
    have hvs : e ∈ Store.savedIn a := List.mem_filterMap.2 ⟨v, huv.subset (by simp), hv⟩
    exact hp u v d e huv hu hv (List.mem_filter.2 ⟨List.mem_filter.2 ⟨hus, hda⟩, hdw⟩)
      (List.mem_filter.2 ⟨List.mem_filter.2 ⟨hvs, hea⟩, hew⟩)

/-- `a` has a later time than `b` and was saved before it, by a worker that began after the one
that saved `b`. -/
def Outrun (y : System Store) (a b : Summary) : Prop :=
  ¬ a.createdAt ≤ b.createdAt ∧ ∃ u v d e, List.Sublist [u, v] y.history ∧
    v.worker < u.worker ∧ u.saved? = some d ∧ v.saved? = some e ∧ d.summary = a ∧ e.summary = b

/-- Of two saves the one with the earlier time was outrun if it came later. -/
theorem Sound.outrun (h : y.Sound .memory []) (hf : Job.Fresh (y.workers.map (·.job)))
    (hs : Job.Steady (y.workers.map (·.job))) {u v : Visit Store} {d e : DataSource}
    (huv : List.Sublist [u, v] y.history) (hu : u.saved? = some d) (hv : v.saved? = some e)
    (ht : ¬ d.createdAt ≤ e.createdAt) : y.Outrun d.summary e.summary := by
  refine ⟨ht, u, v, d, e, huv, ?_, hu, hv, rfl, rfl⟩
  obtain ⟨w, draft, -, -, hw, hop, hd, -, -⟩ :=
    h.save (huv.subset (by simp)) (Visit.saved?_eq_some_iff.1 hu).1
  obtain ⟨w', draft', -, -, hw', hop', he, -, -⟩ :=
    h.save (huv.subset (by simp)) (Visit.saved?_eq_some_iff.1 hv).1
  by_contra hle
  refine ht ?_
  rcases Nat.lt_or_eq_of_le (Nat.le_of_not_lt hle) with hlt | heq
  · have := time_le_of_lt hs hw hw' (Job.newTime?_of_create hop) (Job.newTime?_of_create hop') hlt
    rw [hd, he]
    exact this
  · -- a worker saves only once
    rw [heq, hw'] at hw
    cases hw
    have hid : d.id = e.id := by rw [hd, he]; rfl
    have hn := h.savedIn_nodup hf
    rw [List.Nodup, List.pairwise_map, Store.savedIn, List.pairwise_filterMap,
      List.pairwise_iff_forall_sublist] at hn
    exact absurd hid (hn huv d hu e hv)

/-- What was saved after a list was asked for is not on the list. -/
theorem Sound.sublist_of_listed (h : y.Sound .memory []) (hf : Job.Fresh (y.workers.map (·.job)))
    {a b : List (Visit Store)} (hy : y.history = a ++ b) {u v : Visit Store} {e : DataSource}
    (huv : List.Sublist [u, v] y.history) (hv : v.saved? = some e) (he : e ∈ Store.savedIn a) :
    List.Sublist [u, v] a := by
  rw [hy] at huv
  obtain ⟨l₁, l₂, hl, h₁, h₂⟩ := List.sublist_append_iff.1 huv
  cases l₂ using List.reverseRecOn with
  | nil => rw [hl, List.append_nil]; exact h₁
  | append_singleton l₂ x _ =>
    rw [← List.append_assoc] at hl
    have hx : x = v := by
      have := congrArg List.getLast? hl
      simpa using this.symm
    have hvb : v ∈ b := hx ▸ h₂.subset (by simp)
    have hn := h.savedIn_nodup hf
    rw [hy, Store.savedIn, List.filterMap_append, List.map_append, List.nodup_append] at hn
    have heb : e ∈ b.filterMap (·.saved?) := List.mem_filterMap.2 ⟨v, hvb, hv⟩
    exact absurd rfl (hn.2.2 _ (List.mem_map_of_mem he) _ (List.mem_map_of_mem heb))

/-- Whatever the workers do and in whatever order, while the clock does not go back: a list is in
the order of the times iff no data source on it has outrun another one. -/
theorem inOrder_run (turns : List Turn) (hf : Job.Fresh (turns.filterMap (·.job?)))
    (hs : Job.Steady (turns.filterMap (·.job?))) {n : Nat} {w : WorkspaceId} {l : List Summary}
    (hl : (run .memory [] turns).AnsweredList n w l) :
    Summary.InOrder l ↔ ∀ a ∈ l, ∀ b ∈ l, ¬ (run .memory [] turns).Outrun a b := by
  have h := sound_run .memory [] turns
  rw [← jobs_run .memory [] turns] at hf hs
  obtain ⟨p, v₀, q, hy, -, -, rfl⟩ := h.list hf hl
  rw [inOrder_listed_iff]
  constructor
  · rintro hp _ ha _ hb ⟨ht, u, v, d, e, huv, -, hu, hv, rfl, rfl⟩
    obtain ⟨d', hd', hda⟩ := List.mem_map.1 ha
    obtain ⟨e', he', heb⟩ := List.mem_map.1 hb
    have hsaved : ∀ {x x' : DataSource} {t : Visit Store},
        t ∈ (run .memory [] turns).history → t.saved? = some x → x' ∈ listed p w →
          x'.summary = x.summary → x' = x := by
      intro x x' t hty htx hx' hxx
      have hin : x' ∈ Store.savedIn (run .memory [] turns).history := by
        rw [hy, Store.savedIn, List.filterMap_append]
        exact List.mem_append_left _ (mem_savedIn_of_mem_listed hx')
      exact List.inj_on_of_nodup_map (h.savedIn_nodup hf) hin (List.mem_filterMap.2 ⟨t, hty, htx⟩)
        (congrArg (·.id) hxx)
    obtain rfl := hsaved (huv.subset (by simp)) hu hd' hda
    obtain rfl := hsaved (huv.subset (by simp)) hv he' heb
    exact ht (hp u v _ _ (h.sublist_of_listed hf hy huv hv (mem_savedIn_of_mem_listed he')) hu hv
      hd' he')
  · intro hno u v d e huv hu hv hd he
    by_contra ht
    have huv' : List.Sublist [u, v] (run .memory [] turns).history :=
      hy ▸ huv.trans (List.sublist_append_left _ _)
    exact hno _ (List.mem_map_of_mem hd) _ (List.mem_map_of_mem he)
      (h.outrun hf hs huv' hu hv ht)

open Fixture in
/-- A worker that builds its data source first is at the repository after another worker, which
began later and has built and saved its own. -/
def overtakingCreations : List Turn :=
  let noon (minute : Nat) : Instant := ⟨⟨2024, 1, 15⟩, 12, minute, 0, 0⟩
  [.begin ⟨context, { stamp 1 with time := noon 0 }, .create { draft with name := "first" }⟩,
    .begin ⟨context, { stamp 2 with time := noon 1 }, .create { draft with name := "second" }⟩,
    .step 1, .step 1, .step 0, .step 0, .begin ⟨context, stamp 0, .list⟩, .step 2, .step 2]

open Fixture in
def overtakingList : List Summary :=
  let noon (minute : Nat) : Instant := ⟨⟨2024, 1, 15⟩, 12, minute, 0, 0⟩
  [⟨(stamp 2).id, .nil, "second", "prometheus", false, noon 1⟩,
    ⟨(stamp 1).id, .nil, "first", "prometheus", false, noon 0⟩]

theorem answeredList_overtakingCreations :
    (run .memory [] overtakingCreations).AnsweredList 2 .nil overtakingList :=
  ⟨Fixture.context, Fixture.stamp 0, rfl, rfl⟩

/-- The clock does not go back and the later one of two data sources is listed first. -/
theorem not_inOrder_overtakingCreations :
    Job.Fresh (overtakingCreations.filterMap (·.job?)) ∧
      Job.Steady (overtakingCreations.filterMap (·.job?)) ∧
      (run .memory [] overtakingCreations).AnsweredList 2 .nil overtakingList ∧
      ¬ Summary.InOrder overtakingList :=
  ⟨by decide, by decide, answeredList_overtakingCreations, by decide⟩

theorem outrun_overtakingCreations :
    Job.Fresh (overtakingCreations.filterMap (·.job?)) ∧
      Job.Steady (overtakingCreations.filterMap (·.job?)) ∧
      (run .memory [] overtakingCreations).AnsweredList 2 .nil overtakingList ∧
      ∃ a ∈ overtakingList, ∃ b ∈ overtakingList,
        (run .memory [] overtakingCreations).Outrun a b := by
  have hf : Job.Fresh (overtakingCreations.filterMap (·.job?)) := by decide
  have hs : Job.Steady (overtakingCreations.filterMap (·.job?)) := by decide
  have hl := answeredList_overtakingCreations
  have hn : ¬ Summary.InOrder overtakingList := by decide
  refine ⟨hf, hs, hl, ?_⟩
  by_contra hno
  refine hn ((inOrder_run overtakingCreations hf hs hl).2 fun a ha b hb ho => ?_)
  exact hno ⟨a, ha, b, hb, ho⟩

end System

end SourceRegistry
