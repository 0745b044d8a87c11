import Mathlib.Data.List.Induction
import SourceRegistry.Proofs.Service.Jobs

/-!
# Workers at one repository

The `Worker` of a job is what is left of its program. A `System`
is a repository with any number of workers. Its `Turn`s come in any order: a job begins, or one
worker takes a step, and a query is answered within the step that asks it. `Sound` ties the three
parts of a system together: the state is what the past visits have made of the first one, every
visit saw the state of its moment, and every worker stands where the answers to its own visits
have led it.
-/

namespace SourceRegistry

structure Worker where
  job : Job
  rest : Program (Except ServiceError job.op.Answer)

def Worker.start (j : Job) : Worker := ⟨j, (Service.program j.ctx j.stamp j.op).run⟩

/-- A query of a worker and the state in which it was asked. -/
structure Visit (σ : Type) where
  worker : Nat
  query : Query
  state : σ

inductive Turn where
  | begin (j : Job)
  | step (worker : Nat)

def Turn.job? : Turn → Option Job
  | .begin j => some j
  | .step _ => none

structure System (σ : Type) where
  state : σ
  workers : List Worker := []
  history : List (Visit σ) := []

namespace System

variable (r : Repository σ)

/-- A step of a worker: an event is passed over, a query is asked and answered. -/
def step (y : System σ) (n : Nat) : System σ :=
  match y.workers[n]? with
  | none | some ⟨_, .done _⟩ => y
  | some ⟨j, .note _ next⟩ => { y with workers := y.workers.set n ⟨j, next⟩ }
  | some ⟨j, .ask q next⟩ =>
    let (answer, s) := r.answer q y.state
    ⟨s, y.workers.set n ⟨j, next answer⟩, y.history ++ [⟨n, q, y.state⟩]⟩

def turn (y : System σ) : Turn → System σ
  | .begin j => { y with workers := y.workers ++ [.start j] }
  | .step n => y.step r n

def run (s : σ) (turns : List Turn) : System σ := turns.foldl (turn r) { state := s }

theorem run_append (s : σ) (turns : List Turn) (t : Turn) :
    run r s (turns ++ [t]) = (run r s turns).turn r t := by
  simp [run]

def visitsOf (y : System σ) (n : Nat) : List (Visit σ) := y.history.filter (·.worker = n)

theorem mem_visitsOf {y : System σ} {n : Nat} {v : Visit σ} :
    v ∈ y.visitsOf n ↔ v ∈ y.history ∧ v.worker = n := by
  simp [visitsOf]

/-- The state that some visits make of a state. -/
def replay (s : σ) (vs : List (Visit σ)) : σ := vs.foldl (fun s v => (r.answer v.query s).2) s

theorem replay_append (s : σ) (vs : List (Visit σ)) (v : Visit σ) :
    replay r s (vs ++ [v]) = (r.answer v.query (replay r s vs)).2 := by
  simp [replay]

end System

/-- Every visit of a history that began in `s` saw what the visits before it had made of `s`. -/
def Visit.Genuine (r : Repository σ) (s : σ) (h : List (Visit σ)) : Prop :=
  ∀ ⦃a v b⦄, h = a ++ v :: b → v.state = System.replay r s a

theorem Visit.Genuine.of_append {r : Repository σ} {s : σ} {a b : List (Visit σ)}
    (h : Genuine r s (a ++ b)) : Genuine r s a := by
  intro c v d hc
  exact h (b := d ++ b) (by rw [hc, List.append_assoc, List.cons_append])

/-- The answers to the visits `vs` lead a program from `p` to `p'`. -/
inductive Program.Course (r : Repository σ) : Program α → List (Visit σ) → Program α → Prop
  | refl (p : Program α) : Course r p [] p
  | note {e : Trace.Event} {p p' : Program α} {vs : List (Visit σ)} :
      Course r p vs p' → Course r (.note e p) vs p'
  | ask {n : Nat} {q : Query} {s : σ} {next : Except ServiceError q.Answer → Program α}
      {p' : Program α} {vs : List (Visit σ)} :
      Course r (next (r.answer q s).1) vs p' → Course r (.ask q next) (⟨n, q, s⟩ :: vs) p'

namespace Program.Course

variable {r : Repository σ} {p : Program α} {vs : List (Visit σ)}

theorem done_iff {a : α} {p' : Program α} :
    Course r (.done a) vs p' ↔ vs = [] ∧ p' = .done a := by
  constructor
  · rintro ⟨⟩; exact ⟨rfl, rfl⟩
  · rintro ⟨rfl, rfl⟩; exact .refl _

theorem note_iff {e : Trace.Event} {p p' : Program α} :
    Course r (.note e p) vs p' ↔ vs = [] ∧ p' = .note e p ∨ Course r p vs p' := by
  constructor
  · rintro (_ | h | _)
    · exact .inl ⟨rfl, rfl⟩
    · exact .inr h
  · rintro (⟨rfl, rfl⟩ | h)
    · exact .refl _
    · exact .note h

theorem ask_iff {q : Query} {next : Except ServiceError q.Answer → Program α} {p' : Program α} :
    Course r (.ask q next) vs p' ↔ vs = [] ∧ p' = .ask q next ∨
      ∃ n s vs', vs = ⟨n, q, s⟩ :: vs' ∧ Course r (next (r.answer q s).1) vs' p' := by
  constructor
  · rintro (_ | _ | h)
    · exact .inl ⟨rfl, rfl⟩
    · exact .inr ⟨_, _, _, rfl, h⟩
  · rintro (⟨rfl, rfl⟩ | ⟨n, s, vs', rfl, h⟩)
    · exact .refl _
    · exact .ask h

theorem snoc_note {e : Trace.Event} {p' : Program α} (h : Course r p vs (.note e p')) :
    Course r p vs p' := by
  generalize hp : Program.note e p' = p'' at h
  induction h with
  | refl => subst hp; exact .note (.refl _)
  | note _ ih => exact .note (ih hp)
  | ask _ ih => exact .ask (ih hp)

theorem snoc_ask {q : Query} {next : Except ServiceError q.Answer → Program α}
    (h : Course r p vs (.ask q next)) (n : Nat) (s : σ) :
    Course r p (vs ++ [⟨n, q, s⟩]) (next (r.answer q s).1) := by
  generalize hp : Program.ask q next = p'' at h
  induction h with
  | refl => subst hp; exact .ask (.refl _)
  | note _ ih => exact .note (ih hp)
  | ask _ ih => exact .ask (ih hp)

end Program.Course

/-! ## Sound systems -/

/-- The parts of a system that began in `s` fit together. -/
structure System.Sound (r : Repository σ) (s : σ) (y : System σ) : Prop where
  state : y.state = replay r s y.history
  genuine : Visit.Genuine r s y.history
  present : ∀ v ∈ y.history, v.worker < y.workers.length
  course : ∀ ⦃n w⦄, y.workers[n]? = some w →
    Program.Course r (Worker.start w.job).rest (y.visitsOf n) w.rest

namespace System

variable {r : Repository σ} {s : σ} {y : System σ}

theorem Sound.begin (h : y.Sound r s) (j : Job) : (y.turn r (.begin j)).Sound r s where
  state := h.state
  genuine := h.genuine
  present v hv := by
    have := h.present v hv
    simp only [turn, List.length_append]
    omega
  course n w hw := by
    rw [turn, List.getElem?_append] at hw
    split at hw
    · exact h.course hw
    · next hn =>
      -- the new worker has not been anywhere yet
      have hnil : y.visitsOf n = [] := List.filter_eq_nil_iff.2 fun v hv => by
        have := h.present v hv
        simp; omega
      rw [List.getElem?_singleton] at hw
      split at hw
      · cases hw
        simp only [visitsOf, turn] at hnil ⊢
        rw [hnil]
        exact .refl _
      · cases hw

theorem Sound.note (h : y.Sound r s) {n : Nat} {j : Job} {e : Trace.Event}
    {next : Program (Except ServiceError j.op.Answer)}
    (hw : y.workers[n]? = some ⟨j, .note e next⟩) :
    System.Sound r s { y with workers := y.workers.set n ⟨j, next⟩ } where
  state := h.state
  genuine := h.genuine
  present v hv := by simpa using h.present v hv
  course m w hm := by
    rw [List.getElem?_set] at hm
    split at hm
    · next hnm =>
      subst hnm
      split at hm
      · cases hm; exact (h.course hw).snoc_note
      · cases hm
    · exact h.course hm

theorem Sound.ask (h : y.Sound r s) {n : Nat} {j : Job} {q : Query}
    {next : Except ServiceError q.Answer → Program (Except ServiceError j.op.Answer)}
    (hw : y.workers[n]? = some ⟨j, .ask q next⟩) :
    System.Sound r s ⟨(r.answer q y.state).2, y.workers.set n ⟨j, next (r.answer q y.state).1⟩,
      y.history ++ [⟨n, q, y.state⟩]⟩ where
  state := by rw [replay_append, ← h.state]
  genuine a v b hab := by
    cases b using List.reverseRecOn with
    | nil =>
      obtain ⟨rfl, hv⟩ := List.append_inj' hab rfl
      cases hv
      exact h.state
    | append_singleton b u _ =>
      rw [← List.cons_append, ← List.append_assoc] at hab
      exact h.genuine (List.append_inj' hab rfl).1
  present v hv := by
    rw [List.length_set]
    rcases List.mem_append.1 hv with hv | hv
    · exact h.present v hv
    · rw [List.mem_singleton.1 hv]
      exact (List.getElem?_eq_some_iff.1 hw).1
  course m w hm := by
    rw [List.getElem?_set] at hm
    split at hm
    · next hnm =>
      subst hnm
      split at hm
      · cases hm
        simpa [visitsOf] using (h.course hw).snoc_ask n y.state
      · cases hm
    · next hnm =>
      simpa [visitsOf, hnm] using h.course hm

theorem Sound.step (h : y.Sound r s) (n : Nat) : (y.step r n).Sound r s := by
  unfold System.step
  split
  · exact h
  · exact h
  · next hw => exact h.note hw
  · next hw => exact h.ask hw

theorem Sound.turn (h : y.Sound r s) (t : Turn) : (y.turn r t).Sound r s := by
  cases t with
  | begin j => exact h.begin j
  | step n => exact h.step n

theorem sound_run (r : Repository σ) (s : σ) (turns : List Turn) : (run r s turns).Sound r s := by
  induction turns using List.reverseRecOn with
  | nil =>
    refine ⟨rfl, fun a v b h => ?_, fun v hv => ?_, fun n w h => ?_⟩
    · simp [run] at h
    · simp [run] at hv
    · simp [run] at h
  | append_singleton turns t ih => rw [run_append]; exact ih.turn t

theorem map_job_set {ws : List Worker} {n : Nat} {j : Job}
    {p : Program (Except ServiceError j.op.Answer)} (h : ws[n]? = some ⟨j, p⟩)
    (p' : Program (Except ServiceError j.op.Answer)) :
    (ws.set n ⟨j, p'⟩).map (·.job) = ws.map (·.job) := by
  refine List.ext_getElem? fun m => ?_
  rw [List.map_set, List.getElem?_set]
  split
  · next hnm =>
    subst hnm
    obtain ⟨hn, he⟩ := List.getElem?_eq_some_iff.1 h
    simp [hn, he]
  · rfl

theorem jobs_step (y : System σ) (n : Nat) :
    (y.step r n).workers.map (·.job) = y.workers.map (·.job) := by
  unfold System.step
  split
  · rfl
  · rfl
  · next hw => exact map_job_set hw _
  · next hw => exact map_job_set hw _

theorem jobs_run (r : Repository σ) (s : σ) (turns : List Turn) :
    (run r s turns).workers.map (·.job) = turns.filterMap (·.job?) := by
  induction turns using List.reverseRecOn with
  | nil => rfl
  | append_singleton turns t ih =>
    rw [run_append, List.filterMap_append, ← ih]
    cases t with
    | begin j => simp [System.turn, Worker.start, Turn.job?]
    | step n => simp [System.turn, jobs_step, Turn.job?]

/-- No two jobs give the same identifier away. -/
theorem worker_unique (h : Job.Fresh (y.workers.map (·.job))) {m n : Nat} {w w' : Worker}
    {id : DataSourceId} (hm : y.workers[m]? = some w) (hn : y.workers[n]? = some w')
    (hw : w.job.newId? = some id) (hw' : w'.job.newId? = some id) : m = n := by
  rw [Job.Fresh, List.filterMap_map] at h
  have hp := List.pairwise_iff_getElem.1 (List.pairwise_filterMap.1 h)
  obtain ⟨hml, rfl⟩ := List.getElem?_eq_some_iff.1 hm
  obtain ⟨hnl, rfl⟩ := List.getElem?_eq_some_iff.1 hn
  rcases Nat.lt_trichotomy m n with hlt | heq | hgt
  · exact absurd rfl (hp m n hml hnl hlt id hw id hw')
  · exact heq
  · exact absurd rfl (hp n m hnl hml hgt id hw' id hw)

end System

end SourceRegistry
