import SourceRegistry.Proofs.Repository.Recorder
import SourceRegistry.Proofs.Service.Drafts
import SourceRegistry.Proofs.Service.Jobs

/-!
# What the service asks of a repository

Over a recorder the calls of a use case can be read: a use case asks once what it has to know, and
only what went well so far leads to a second call (`Service.calls`). A failure of the repository is
passed on as it is, after the one call that ran into it, and only a draft with faults is refused
without any. `transparent_service` says so of every use case in a run, before and after the
repository is told to fail.
-/

namespace SourceRegistry

namespace Program

variable {α : Type}

/-- What a program asks is what a recorder writes down. -/
theorem calls_run (p : Program α) (r : Recorder) :
    (p.run .recorder r).2.1.calls = r.calls ++ (p.asked .recorder r).map (·.1.call) := by
  induction p generalizing r with
  | done a => simp [run, asked]
  | note e next ih => exact ih r
  | ask q next ih =>
    unfold run asked
    dsimp only
    rw [ih, Repository.calls_recorder, List.map_cons, List.append_assoc, List.singleton_append]

/-- A recorder that fails goes on failing, with the records that it has. -/
theorem state_failWith (p : Program α) (r : Recorder) (e : ServiceError) :
    ∃ calls, (p.run .recorder (r.failWith e)).2.1 = Recorder.failWith { r with calls } e := by
  induction p generalizing r with
  | done a => exact ⟨r.calls, rfl⟩
  | note _ next ih => exact ih r
  | ask q next ih =>
    simp only [run, Repository.recorder_failWith]
    exact ih _ { r with calls := r.calls ++ [q.call] }

end Program

/-- The refusal of an operation that does not even come to the repository. -/
def Operation.refusal? : Operation → Option ServiceError
  | .create draft => if draft.Acceptable then none else some draft.rejection
  | _ => none

theorem Operation.kind_of_refusal? {op : Operation} {e : ServiceError} (h : op.refusal? = some e) :
    e.kind = .validationFailed := by
  cases op with
  | create draft =>
    by_cases ha : draft.Acceptable
    · rw [refusal?, if_pos ha] at h
      cases h
    · rw [refusal?, if_neg ha] at h
      rw [← Option.some.inj h, Draft.rejection]
  | _ => cases h

namespace Service

def calls (ctx : Context) (stamp : Stamp) (r : Recorder) : Operation → List Call
  | .list => [.list ctx.workspace]
  | .find id => [.find id ctx.workspace]
  | .delete id =>
    .find id ctx.workspace ::
      if r.failure = none ∧ ∃ d ∈ r.records, d.id = id ∧ d.workspace = ctx.workspace then
        [.delete id ctx.workspace]
      else []
  | .create draft =>
    if ¬ draft.Acceptable then []
    else .nameTaken ctx.workspace (Text.trim draft.name) ::
      if r.failure = none ∧ ¬ ∃ d ∈ r.records, d.workspace = ctx.workspace ∧
          Text.lower d.name = Text.lower (Text.trim draft.name) then
        [.save stamp.id ctx.workspace]
      else []

variable (ctx : Context) (stamp : Stamp) (op : Operation) (r : Recorder) (e : ServiceError)

/-- The service fails with the repository, unless it refuses the operation before. -/
theorem run_failWith :
    ((program ctx stamp op).run.run .recorder (r.failWith e)).1 =
      .error (op.refusal?.getD e) := by
  cases op with
  | list =>
    rw [program_list]
    rfl
  | find id =>
    rw [program_find]
    rfl
  | delete id =>
    rw [program_delete]
    rfl
  | create draft =>
    rw [program_create, prepare_eq, Operation.refusal?]
    by_cases ha : draft.Acceptable
    · rw [if_pos ha, if_pos ha]
      rfl
    · rw [if_neg ha, if_neg ha]
      rfl

/-- What is asked of a recorder are the calls of the use case, told to fail or not. -/
theorem map_call_asked :
    ((program ctx stamp op).run.asked .recorder r).map (·.1.call) = calls ctx stamp r op := by
  cases op with
  | list => rw [asked_list]; rfl
  | find id => rw [asked_find]; rfl
  | delete id =>
    rw [asked_delete, calls, List.map_cons]
    refine congrArg (Call.find id ctx.workspace :: ·) ?_
    cases hf : r.failure with
    | some e =>
      rw [Recorder.eq_failWith hf, Repository.recorder_failWith]
      simp
    | none =>
      rw [Repository.recorder_find hf]
      by_cases h : ∃ d ∈ r.records, d.id = id ∧ d.workspace = ctx.workspace
      · obtain ⟨d, hd⟩ := Store.exists_find?_iff.2 h
        rw [if_pos ⟨rfl, h⟩, hd]
        rfl
      · rw [if_neg (h ·.2), Store.find?_eq_none_iff.2 h]
        rfl
  | create draft =>
    rw [asked_create, prepare_eq, calls]
    by_cases ha : draft.Acceptable
    · rw [if_pos ha, if_neg (not_not_intro ha)]
      refine congrArg (Call.nameTaken ctx.workspace (Text.trim draft.name) :: ·) ?_
      cases hf : r.failure with
      | some e =>
        rw [Recorder.eq_failWith hf, Repository.recorder_failWith]
        simp
      | none =>
        rw [Repository.recorder_nameTaken hf]
        have hname : r.records.hasName ctx.workspace (draft.source ctx.workspace stamp).name ↔
            ∃ d ∈ r.records, d.workspace = ctx.workspace ∧
              Text.lower d.name = Text.lower (Text.trim draft.name) := by
          rw [Store.hasName_iff, Draft.source, Text.trim_trim]
        by_cases h : ∃ d ∈ r.records, d.workspace = ctx.workspace ∧
            Text.lower d.name = Text.lower (Text.trim draft.name)
        · rw [if_neg (·.2 h), hname.2 h]
          rfl
        · rw [if_pos ⟨rfl, h⟩, Bool.eq_false_iff.2 (h ∘ hname.1)]
          rfl
    · rw [if_neg ha, if_pos ha]
      rfl

/-- Told to fail, a recorder is called once by what comes to it. -/
theorem calls_failWith (h : ∀ draft, op = .create draft → draft.Acceptable) :
    ∃ call, calls ctx stamp (r.failWith e) op = [call] := by
  cases op with
  | list => exact ⟨_, rfl⟩
  | find id => exact ⟨_, rfl⟩
  | delete id => exact ⟨_, by rw [calls, if_neg nofun]⟩
  | create draft =>
    rw [calls, if_neg (not_not_intro (h draft rfl)), if_neg nofun]
    exact ⟨_, rfl⟩

/-- How a use case ends over a repository that fails with `e`. -/
structure Transparent (e : ServiceError) (op : Operation) (r : Recorder)
    (o : Outcome Recorder op.Answer) : Prop where
  /-- What comes to the repository fails as the repository does, at the first call. -/
  reached : (∀ draft, op = .create draft → draft.Acceptable) →
    o.ending = .returned (.error e) ∧ ∃ call, o.state.calls = r.calls ++ [call]
  refused : ∀ draft, op = .create draft → ¬ draft.Acceptable →
    o.ending = .returned (.error draft.rejection) ∧ o.state.calls = r.calls
  records : o.state.records = r.records

end Service

namespace UseCases

variable (ctx : Context) (stamp : Stamp) (op : Operation) (r : Recorder) (e : ServiceError)

theorem calls_service : ((service .recorder).perform ctx stamp op r).state.calls =
    r.calls ++ Service.calls ctx stamp r op := by
  rw [← Service.map_call_asked]
  exact Program.calls_run _ r

theorem service_failWith : Service.Transparent e op (r.failWith e)
    ((service .recorder).perform ctx stamp op (r.failWith e)) := by
  have hending : ((service .recorder).perform ctx stamp op (r.failWith e)).ending =
      .returned (.error (op.refusal?.getD e)) :=
    congrArg Ending.returned (Service.run_failWith ctx stamp op r e)
  have hcalls := calls_service ctx stamp op (r.failWith e)
  constructor
  case reached =>
    intro h
    obtain ⟨call, hc⟩ := Service.calls_failWith ctx stamp op r e h
    refine ⟨hending.trans ?_, call, by rw [hcalls, hc]⟩
    cases op with
    | create draft => rw [Operation.refusal?, if_pos (h draft rfl), Option.getD_none]
    | _ => rfl
  case refused =>
    rintro draft rfl h
    rw [hending, hcalls, Operation.refusal?, if_neg h, Option.getD_some, Service.calls, if_pos h,
      List.append_nil]
    exact ⟨rfl, rfl⟩
  case records =>
    obtain ⟨calls, hs⟩ := Program.state_failWith (Service.program ctx stamp op).run r e
    exact (congrArg Recorder.records hs).trans rfl

theorem after_failWith (jobs : List Job) :
    ∃ calls, (service .recorder).after jobs (r.failWith e) =
      Recorder.failWith { r with calls } e := by
  induction jobs generalizing r with
  | nil => exact ⟨r.calls, rfl⟩
  | cons j jobs ih =>
    obtain ⟨calls, hs⟩ :=
      Program.state_failWith (Service.program j.ctx j.stamp j.op).run r e
    obtain ⟨calls', hs'⟩ := ih { r with calls }
    refine ⟨calls', ?_⟩
    rw [← hs', ← hs]
    rfl

/-- Whatever the records are and whatever was done before: every use case makes its own calls and no
others, and once the repository has been told to fail, every use case is transparent and the
records stay as they are. -/
theorem transparent_service (seed : Store) (earlier later : List Job) :
    let u := service .recorder
    let r := u.after earlier (.ofRecords seed)
    let t := u.after later (r.failWith e)
    (u.perform ctx stamp op r).state.calls = r.calls ++ Service.calls ctx stamp r op ∧
      (u.perform ctx stamp op t).state.calls = t.calls ++ Service.calls ctx stamp t op ∧
      Service.Transparent e op t (u.perform ctx stamp op t) ∧ t.records = r.records := by
  intro u r t
  refine ⟨calls_service ctx stamp op r, calls_service ctx stamp op t, ?_⟩
  obtain ⟨calls, ht⟩ : ∃ calls, t = Recorder.failWith { r with calls } e :=
    after_failWith r e later
  clear_value t
  subst ht
  exact ⟨service_failWith ctx stamp op { r with calls } e, rfl⟩

end UseCases

end SourceRegistry
