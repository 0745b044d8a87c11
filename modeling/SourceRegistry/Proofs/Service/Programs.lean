import SourceRegistry.UseCases.Service

/-!
# The programs of the use cases, query by query

`Service.program` is written with binds. Here each of its programs is unfolded into the tree of
the queries that it asks: listing and finding ask once, deleting asks for the data source before
it removes it, creating asks for the name before it saves. A draft is prepared before any query.
What is asked in a run over some repository can be read off these trees.
-/

namespace SourceRegistry

/-- The queries that a program asks in a run, each with the state in which it is asked. -/
def Program.asked {α : Type} (r : Repository σ) : Program α → σ → List (Query × σ)
  | .done _, _ => []
  | .ask q next, s => (q, s) :: (next (r.answer q s).1).asked r (r.answer q s).2
  | .note _ next, s => next.asked r s

namespace Service

/-- The data source that a draft makes, or what is wrong with the draft. -/
def prepare (ctx : Context) (stamp : Stamp) (draft : Draft) : Except ServiceError DataSource := do
  draft.report.ensureValid
  match DataSource.ofDraft ctx.workspace draft stamp with
  | .ok d => .ok d
  | .error e => .error e.toServiceError

def absent (id : DataSourceId) : ServiceError := ⟨.notFound, "Data source not found: " ++ id.text⟩

def taken (name : String) : ServiceError := ⟨.conflict, "Data source name already in use: " ++ name⟩

variable (ctx : Context) (stamp : Stamp)

theorem program_list :
    (program ctx stamp .list).run = .ask (.list ctx.workspace) fun
      | .error e => .done (.error e)
      | .ok ds => .note (.listed ds.length) (.done (.ok (ds.map (·.summary)))) := by
  refine congrArg (Program.ask _) (funext fun r => ?_)
  rcases r with e | ds <;> rfl

theorem program_find (id : DataSourceId) :
    (program ctx stamp (.find id)).run = .ask (.find id ctx.workspace) fun
      | .error e => .done (.error e)
      | .ok none => .done (.error (absent id))
      | .ok (some d) => .done (.ok d.summary) := by
  refine congrArg (Program.ask _) (funext fun r => ?_)
  rcases r with e | _ | d <;> rfl

theorem program_delete (id : DataSourceId) :
    (program ctx stamp (.delete id)).run = .ask (.find id ctx.workspace) fun
      | .error e => .done (.error e)
      | .ok none => .done (.error (absent id))
      | .ok (some _) => .ask (.remove id ctx.workspace) fun
        | .error e => .done (.error e)
        | .ok false => .done (.error (absent id))
        | .ok true => .note (.deleted id) (.done (.ok ())) := by
  refine congrArg (Program.ask _) (funext fun r => ?_)
  rcases r with e | _ | d
  · rfl
  · rfl
  · refine congrArg (Program.ask _) (funext fun r => ?_)
    rcases r with e | _ | _ <;> rfl

theorem program_create (draft : Draft) :
    (program ctx stamp (.create draft)).run =
      match prepare ctx stamp draft with
      | .error e => .done (.error e)
      | .ok d => .ask (.nameTaken ctx.workspace d.name) fun
        | .error e => .done (.error e)
        | .ok true => .done (.error (taken d.name))
        | .ok false => .ask (.save d) fun
          | .error e => .done (.error e)
          | .ok () => .note (.created d.id d.pluginSrc) (.done (.ok d.summary)) := by
  simp only [program, create, prepare]
  cases draft.report.ensureValid with
  | error e => rfl
  | ok _ =>
    cases DataSource.ofDraft ctx.workspace draft stamp with
    | error e => rfl
    | ok d =>
      refine congrArg (Program.ask _) (funext fun r => ?_)
      rcases r with e | _ | _
      · rfl
      · refine congrArg (Program.ask _) (funext fun r => ?_)
        rcases r with e | _ <;> rfl
      · rfl

variable (r : Repository σ) (s : σ)

theorem asked_list :
    (program ctx stamp .list).run.asked r s = [(.list ctx.workspace, s)] := by
  rw [program_list, Program.asked]
  cases (r.answer (.list ctx.workspace) s).1 <;> rfl

theorem asked_find (id : DataSourceId) :
    (program ctx stamp (.find id)).run.asked r s = [(.find id ctx.workspace, s)] := by
  rw [program_find, Program.asked]
  rcases (r.answer (.find id ctx.workspace) s).1 with e | _ | d <;> rfl

theorem asked_delete (id : DataSourceId) :
    (program ctx stamp (.delete id)).run.asked r s = (.find id ctx.workspace, s) ::
      match r.answer (.find id ctx.workspace) s with
      | (.ok (some _), s) => [(.remove id ctx.workspace, s)]
      | _ => [] := by
  rw [program_delete, Program.asked]
  obtain ⟨e | _ | d, s'⟩ := r.answer (.find id ctx.workspace) s
  · rfl
  · rfl
  · simp only [Program.asked]
    rcases (r.answer (.remove id ctx.workspace) s').1 with e | _ | _ <;> rfl

theorem asked_create (draft : Draft) :
    (program ctx stamp (.create draft)).run.asked r s =
      match prepare ctx stamp draft with
      | .error _ => []
      | .ok d => (.nameTaken ctx.workspace d.name, s) ::
        match r.answer (.nameTaken ctx.workspace d.name) s with
        | (.ok false, s) => [(.save d, s)]
        | _ => [] := by
  rw [program_create]
  cases prepare ctx stamp draft with
  | error e => rfl
  | ok d =>
    simp only [Program.asked]
    obtain ⟨e | _ | _, s'⟩ := r.answer (.nameTaken ctx.workspace d.name) s
    · rfl
    · simp only [Program.asked]
      rcases (r.answer (.save d) s').1 with e | _ <;> rfl
    · rfl

end Service

end SourceRegistry
