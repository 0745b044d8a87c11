import SourceRegistry.UseCases.Basic
import SourceRegistry.Validation

/-!
# The service

The use cases over a repository. A draft is validated as a whole before anything else, and a
name must be free in its workspace; a data source is looked up before it is deleted.
-/

namespace SourceRegistry

namespace Service

/-- A cause turned into the failure of a program. -/
def fail (e : DataSourceError) : Program.Failing α := throw e.toServiceError

def find (ctx : Context) (id : DataSourceId) : Program.Failing DataSource := do
  match ← Program.query (.find id ctx.workspace) with
  | some d => pure d
  | none => fail (.notFound id)

def delete (ctx : Context) (id : DataSourceId) : Program.Failing Unit := do
  let _ ← find ctx id
  if ← Program.query (.remove id ctx.workspace) then Program.report (.deleted id)
  else fail (.notFound id)

def create (ctx : Context) (stamp : Stamp) (draft : Draft) : Program.Failing DataSource := do
  ExceptT.mk (pure draft.report.ensureValid)
  match DataSource.ofDraft ctx.workspace draft stamp with
  | .error e => fail e
  | .ok d =>
    if ← Program.query (.nameTaken ctx.workspace d.name) then fail (.duplicateName d.name)
    else
      Program.query (.save d)
      Program.report (.created d.id d.pluginSrc)
      pure d

def list (ctx : Context) : Program.Failing (List DataSource) := do
  let ds ← Program.query (.list ctx.workspace)
  Program.report (.listed ds.length)
  pure ds

/-- The program of an operation. -/
def program (ctx : Context) (stamp : Stamp) : (op : Operation) → Program.Failing op.Answer
  | .list => return (← list ctx).map (·.summary)
  | .find id => return (← find ctx id).summary
  | .delete id => delete ctx id
  | .create draft => return (← create ctx stamp draft).summary

end Service

/-- The use cases over a repository, each in a span of its own. -/
def UseCases.service (r : Repository σ) : UseCases σ where
  perform ctx stamp op s :=
    let (answer, s, events) := (Service.program ctx stamp op).run.run r s
    let span := op.span ctx
    ⟨.returned answer, s, events.map (.event · (some span)) ++ [.closed span]⟩

end SourceRegistry
