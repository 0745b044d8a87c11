import SourceRegistry.Repository.Recorder
import SourceRegistry.UseCases.Basic

/-!
# Substitutes for the service

Use cases for trials: a recorder of calls, a variant of any use cases that creates nothing, and
variants that take their time and may panic.
-/

namespace SourceRegistry.UseCases

def unknown (id : DataSourceId) : ServiceError := (DataSourceError.notFound id).toServiceError

/-- Answers an operation from the records; the call is written down before. -/
def recorded (ctx : Context) (stamp : Stamp) :
    (op : Operation) → Recorder → Except ServiceError op.Answer × Recorder
  | .list, r =>
    r.call (.list ctx.workspace) fun s => (.ok ((s.ofWorkspace ctx.workspace).map (·.summary)), s)
  | .find id, r =>
    r.call (.find id ctx.workspace) fun s =>
      match s.find? id ctx.workspace with
      | some d => (.ok d.summary, s)
      | none => (.error (unknown id), s)
  | .delete id, r =>
    r.call (.delete id ctx.workspace) fun s =>
      let rest := s.without id ctx.workspace
      if rest.length = s.length then (.error (unknown id), rest) else (.ok (), rest)
  | .create draft, r =>
    r.call (.create ctx.workspace draft.name) fun s =>
      match DataSource.ofDraft ctx.workspace draft stamp with
      | .ok d => (.ok d.summary, s ++ [d])
      | .error e => (.error e.toServiceError, s)

def recorder : UseCases Recorder where
  perform ctx stamp op r :=
    let (answer, r) := recorded ctx stamp op r
    ⟨.returned answer, r, []⟩

/-- The error of use cases that cannot create. -/
def noCreation : ServiceError := ⟨.notImplemented, "data source creation is not available"⟩

/-- The same use cases, but nothing can be created. -/
def readOnly (u : UseCases σ) : UseCases σ where
  delay := u.delay
  perform ctx stamp op s :=
    match op with
    | .create _ => ⟨.returned (.error noCreation), s, []⟩
    | op => u.perform ctx stamp op s

/-- The same use cases after some milliseconds. -/
def delayed (ms : Nat) (u : UseCases σ) : UseCases σ := { u with delay := u.delay + ms }

/-- Use cases that panic instead of acting. -/
def panicking (p : Panic) (u : UseCases σ) : UseCases σ where
  delay := u.delay
  perform _ _ _ s := ⟨.panicked p, s, []⟩

end SourceRegistry.UseCases
