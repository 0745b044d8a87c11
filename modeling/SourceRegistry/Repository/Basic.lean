import SourceRegistry.DataSource.Basic
import SourceRegistry.Trace.Event

/-!
# Repositories

A repository answers five queries about the data sources of a workspace, each in one step. What
a use case does with a repository is a `Program`: it asks a query, goes on with the answer, and
may report events on the way. Between two queries other programs may take their turn.
-/

namespace SourceRegistry

inductive Query where
  | list (workspace : WorkspaceId)
  | find (id : DataSourceId) (workspace : WorkspaceId)
  | nameTaken (workspace : WorkspaceId) (name : String)
  | save (d : DataSource)
  | remove (id : DataSourceId) (workspace : WorkspaceId)
  deriving Repr

abbrev Query.Answer : Query → Type
  | .list _ => List DataSource
  | .find _ _ => Option DataSource
  | .nameTaken _ _ => Bool
  | .save _ => Unit
  | .remove _ _ => Bool

/-- A repository with states of type `σ`. -/
structure Repository (σ : Type) where
  answer : (q : Query) → σ → Except ServiceError q.Answer × σ

inductive Program (α : Type) where
  | done (a : α)
  | ask (q : Query) (next : Except ServiceError q.Answer → Program α)
  | note (e : Trace.Event) (next : Program α)

namespace Program

def bind (p : Program α) (f : α → Program β) : Program β :=
  match p with
  | .done a => f a
  | .ask q next => .ask q fun r => (next r).bind f
  | .note e next => .note e (next.bind f)

instance : Monad Program where
  pure := .done
  bind := bind

/-- The answer of a program, the state it leaves and the events it reports. -/
def run (r : Repository σ) : Program α → σ → α × σ × List Trace.Event
  | .done a, s => (a, s, [])
  | .ask q next, s =>
    let (answer, s) := r.answer q s
    (next answer).run r s
  | .note e next, s =>
    let (a, s, events) := next.run r s
    (a, s, e :: events)

/-- A program that may fail on the way. -/
abbrev Failing (α : Type) := ExceptT ServiceError Program α

/-- Asks a query and fails if the repository does. -/
def query (q : Query) : Failing q.Answer := ExceptT.mk (.ask q .done)

def report (e : Trace.Event) : Failing Unit := ExceptT.mk (.note e (.done (.ok ())))

end Program

end SourceRegistry
