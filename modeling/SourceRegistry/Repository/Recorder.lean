import SourceRegistry.Repository.Memory

/-!
# Recorders

A recorder stands in for a repository, or for the use cases, in trials. It writes down every
call, keeps records of its own, whatever their identifiers, and answers every call with the same
failure once it is told to.
-/

namespace SourceRegistry

/-- A call as it is written down. -/
inductive Call where
  | list (workspace : WorkspaceId)
  | find (id : DataSourceId) (workspace : WorkspaceId)
  | nameTaken (workspace : WorkspaceId) (name : String)
  | save (id : DataSourceId) (workspace : WorkspaceId)
  | create (workspace : WorkspaceId) (name : String)
  | delete (id : DataSourceId) (workspace : WorkspaceId)
  deriving DecidableEq, Repr

def Call.isDelete : Call → Bool
  | .delete _ _ => true
  | _ => false

structure Recorder where
  records : Store := []
  failure : Option ServiceError := none
  calls : List Call := []
  deriving Repr

namespace Recorder

def ofRecords (records : Store) : Recorder := { records }

def failWith (r : Recorder) (e : ServiceError) : Recorder := { r with failure := some e }

def clear (r : Recorder) : Recorder := { r with calls := [] }

def deleteCount (r : Recorder) : Nat := r.calls.countP (·.isDelete)

/-- Writes a call down and, unless calls are to fail, lets `act` answer it. -/
def call (r : Recorder) (c : Call) (act : Store → Except ServiceError α × Store) :
    Except ServiceError α × Recorder :=
  let r := { r with calls := r.calls ++ [c] }
  match r.failure with
  | some e => (.error e, r)
  | none =>
    let (answer, records) := act r.records
    (answer, { r with records })

end Recorder

namespace Repository

def recorder : Repository Recorder where
  answer
    | .list w, r => r.call (.list w) fun s => (.ok (s.ofWorkspace w), s)
    | .find id w, r => r.call (.find id w) fun s => (.ok (s.find? id w), s)
    | .nameTaken w name, r => r.call (.nameTaken w name) fun s => (.ok (s.hasName w name), s)
    | .save d, r => r.call (.save d.id d.workspace) fun s => (.ok (), s ++ [d])
    | .remove id w, r => r.call (.delete id w) fun s =>
        (.ok ((s.without id w).length < s.length), s.without id w)

/-- A repository in which another client is always the faster one: what is removed was gone
already. -/
def outpaced (r : Repository σ) : Repository σ where
  answer
    | .remove id w, s =>
      match r.answer (.remove id w) s with
      | (.ok _, s) => (.ok false, s)
      | (.error e, s) => (.error e, s)
    | q, s => r.answer q s

end Repository

end SourceRegistry
