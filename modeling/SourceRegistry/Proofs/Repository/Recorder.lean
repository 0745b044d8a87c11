import SourceRegistry.Proofs.Repository.Memory
import SourceRegistry.Repository.Recorder

/-!
# The queries of a recorder

Whatever a recorder is asked, it writes one call down. Told to fail, it answers every query with
the failure and leaves its records alone; else it answers as the repository in memory does over
its records, but for a save, which it always takes.
-/

namespace SourceRegistry

def Query.call : Query → Call
  | .list w => .list w
  | .find id w => .find id w
  | .nameTaken w name => .nameTaken w name
  | .save d => .save d.id d.workspace
  | .remove id w => .delete id w

theorem Recorder.calls_call {α : Type} (r : Recorder) (c : Call)
    (act : Store → Except ServiceError α × Store) : (r.call c act).2.calls = r.calls ++ [c] := by
  unfold call
  cases r.failure with
  | some e => rfl
  | none => rfl

theorem Recorder.eq_failWith {r : Recorder} {e : ServiceError} (h : r.failure = some e) :
    r = r.failWith e := by
  rw [failWith, ← h]

namespace Repository

variable (q : Query) (r : Recorder)

theorem calls_recorder : (recorder.answer q r).2.calls = r.calls ++ [q.call] := by
  cases q <;> exact r.calls_call _ _

theorem recorder_failWith (e : ServiceError) : recorder.answer q (r.failWith e) =
    (.error e, Recorder.failWith { r with calls := r.calls ++ [q.call] } e) := by
  cases q <;> rfl

section
variable {r : Recorder} (h : r.failure = none)
include h

theorem recorder_find (id : DataSourceId) (w : WorkspaceId) : recorder.answer (.find id w) r =
    (.ok (r.records.find? id w), { r with calls := r.calls ++ [.find id w] }) := by
  simp only [recorder, Recorder.call, h]

theorem recorder_nameTaken (w : WorkspaceId) (name : String) :
    recorder.answer (.nameTaken w name) r =
      (.ok (r.records.hasName w name), { r with calls := r.calls ++ [.nameTaken w name] }) := by
  simp only [recorder, Recorder.call, h]

end

end Repository

/-- A recorder that has not been told to fail and has the data sources of a store. -/
structure Recorder.StandsFor (r : Recorder) (s : Store) : Prop where
  records : r.records = s
  willing : r.failure = none

/-- One query: the call is written down, and all else is as in memory. -/
theorem Recorder.StandsFor.answer {r : Recorder} {s : Store} (h : r.StandsFor s) {q : Query}
    (hq : ∀ d, q = .save d → ¬ s.hasId d.id) :
    (Repository.recorder.answer q r).1 = (Repository.memory.answer q s).1 ∧
      (Repository.recorder.answer q r).2.StandsFor (Repository.memory.answer q s).2 := by
  obtain ⟨records, failure, calls⟩ := r
  obtain ⟨rfl, rfl⟩ := h
  cases q with
  | save d =>
    rw [Repository.memory_save, if_neg (hq d rfl)]
    exact ⟨rfl, rfl, rfl⟩
  | _ => exact ⟨rfl, rfl, rfl⟩

end SourceRegistry
