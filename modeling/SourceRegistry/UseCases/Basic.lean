import SourceRegistry.DataSource.Summary
import SourceRegistry.Repository.Basic

/-!
# Use cases

What the service does for a workspace: list its data sources, find one, delete one, create one.
An implementation takes some time and then returns an answer or panics.
-/

namespace SourceRegistry

/-- For whom and on whose behalf a use case runs. -/
structure Context where
  workspace : WorkspaceId
  correlation : String
  deriving DecidableEq, Repr

inductive Operation where
  | list
  | find (id : DataSourceId)
  | delete (id : DataSourceId)
  | create (draft : Draft)
  deriving Repr

namespace Operation

abbrev Answer : Operation → Type
  | .list => List Summary
  | .find _ => Summary
  | .delete _ => Unit
  | .create _ => Summary

def name : Operation → String
  | .list => "find_all_by_workspace"
  | .find _ => "find_by_id"
  | .delete _ => "delete"
  | .create _ => "create"

def subject : Operation → Option DataSourceId
  | .list | .create _ => none
  | .find id | .delete id => some id

/-- The span of an operation. -/
def span (op : Operation) (ctx : Context) : Trace.Span :=
  ⟨op.name, ctx.correlation, ctx.workspace, op.subject⟩

end Operation

/-- What a panic leaves behind: a text, or something that is none. -/
inductive Panic where
  | text (s : String)
  | other
  deriving DecidableEq, Repr

def Panic.details : Panic → String
  | .text s => s
  | .other => "Unknown panic"

inductive Ending (α : Type) where
  | returned (answer : Except ServiceError α)
  | panicked (p : Panic)

/-- How a use case ended, the state it left and what it reported. -/
structure Outcome (σ α : Type) where
  ending : Ending α
  state : σ
  trace : List Trace.Entry

/-- An implementation of the use cases: how many milliseconds it lets pass before it acts, and
what it does then. -/
structure UseCases (σ : Type) where
  delay : Nat := 0
  perform : Context → Stamp → (op : Operation) → σ → Outcome σ op.Answer

end SourceRegistry
