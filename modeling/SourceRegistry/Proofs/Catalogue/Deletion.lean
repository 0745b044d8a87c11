import SourceRegistry.Proofs.Catalogue.StandIn
import SourceRegistry.UseCases.Substitute

/-!
# Deleting from any records

A recorder may start with any records, and one identifier may be there many times, in one workspace
or in several. The service looks a data source up before it removes anything; the recorder of use
cases removes first and then compares lengths. Listing, finding and deleting, they are still
answered alike, because both do what the service does in memory (`Mirrors`). What a deletion does
is then said once, of the store, and holds of all of them (`StrictDelete`).
-/

namespace SourceRegistry

def Job.CreatesNothing (j : Job) : Prop := j.newId? = none

instance (j : Job) : Decidable j.CreatesNothing := inferInstanceAs (Decidable (_ = _))

theorem Job.CreatesNothing.ne_create {j : Job} (hj : j.CreatesNothing) (draft : Draft) :
    j.op ≠ .create draft := by
  intro h
  rw [CreatesNothing, newId?_of_create h] at hj
  cases hj

namespace UseCases

theorem reply_of_run {ctx : Context} {stamp : Stamp} {op : Operation} {r : Repository σ} {s s' : σ}
    {answer : Except ServiceError op.Answer} {events : List Trace.Event}
    (h : (Service.program ctx stamp op).run.run r s = (answer, s', events)) :
    (service r).reply ⟨ctx, stamp, op⟩ s = ⟨⟨ctx, stamp, op⟩, .returned answer, s'⟩ := by
  simp only [reply, service, h]

section
variable (ctx : Context) (stamp : Stamp) (s : Store) (id : DataSourceId)

theorem reply_list_memory : (service .memory).reply ⟨ctx, stamp, .list⟩ s =
    ⟨⟨ctx, stamp, .list⟩, .returned (.ok ((s.ofWorkspace ctx.workspace).map (·.summary))), s⟩ :=
  reply_of_run (Service.run_list ctx stamp s)

theorem reply_find_memory : (service .memory).reply ⟨ctx, stamp, .find id⟩ s =
    ⟨⟨ctx, stamp, .find id⟩, .returned (match s.find? id ctx.workspace with
      | some d => .ok d.summary
      | none => .error (Service.absent id)), s⟩ :=
  reply_of_run (Service.run_find ctx stamp s id)

theorem reply_delete_memory : (service .memory).reply ⟨ctx, stamp, .delete id⟩ s =
    ⟨⟨ctx, stamp, .delete id⟩,
      .returned (if ∃ d ∈ s, d.id = id ∧ d.workspace = ctx.workspace then .ok ()
        else .error (Service.absent id)),
      s.without id ctx.workspace⟩ := by
  by_cases h : ∃ d ∈ s, d.id = id ∧ d.workspace = ctx.workspace
  · rw [if_pos h]
    exact reply_of_run ((Service.run_delete ctx stamp s id).trans (if_pos h))
  · rw [if_neg h, Store.without_eq_self_iff.2 h]
    exact reply_of_run ((Service.run_delete ctx stamp s id).trans (if_neg h))

end

theorem sublist_reply_memory {j : Job} (hj : j.CreatesNothing) (s : Store) :
    ((service .memory).reply j s).state.Sublist s := by
  obtain ⟨ctx, stamp, op⟩ := j
  cases op with
  | list =>
    rw [reply_list_memory]
  | find id =>
    rw [reply_find_memory]
  | delete id =>
    rw [reply_delete_memory]
    exact List.filter_sublist
  | create draft => exact absurd rfl (hj.ne_create draft)

theorem sublist_after_memory {jobs : List Job} (hjobs : ∀ j ∈ jobs, j.CreatesNothing) (s : Store) :
    ((service .memory).after jobs s).Sublist s := by
  induction jobs generalizing s with
  | nil => exact List.Sublist.refl s
  | cons j jobs ih =>
    obtain ⟨hj, hjobs⟩ := List.forall_mem_cons.1 hjobs
    exact (ih hjobs _).trans (sublist_reply_memory hj s)

/-- Over a recorder that stands for a store, a job is answered as by the service in memory, and a
recorder is left that stands for what is left there. -/
def Mirrors (u : UseCases Recorder) (j : Job) : Prop :=
  ∀ ⦃r : Recorder⦄ ⦃s : Store⦄, r.StandsFor s →
    (u.reply j r).over (·.records) = (service .memory).reply j s ∧
      (u.reply j r).state.StandsFor ((service .memory).reply j s).state

theorem mirrors_service {j : Job} (hj : j.CreatesNothing) : (service .recorder).Mirrors j :=
  fun _ _ h => reply_standIn_of_new h fun draft hop => absurd hop (hj.ne_create draft)

/-- Removing and comparing lengths comes to the same as looking for what is to be removed. -/
theorem mirrors_recorder {j : Job} (hj : j.CreatesNothing) : recorder.Mirrors j := by
  rintro ⟨s, failure, calls⟩ - ⟨rfl, rfl⟩
  obtain ⟨ctx, stamp, op⟩ := j
  cases op with
  | list =>
    rw [reply_list_memory]
    exact ⟨rfl, rfl, rfl⟩
  | find id =>
    rw [reply_find_memory]
    dsimp only [reply, recorder, Reply.over, recorded, Recorder.call]
    cases s.find? id ctx.workspace with
    | none => exact ⟨rfl, rfl, rfl⟩
    | some d => exact ⟨rfl, rfl, rfl⟩
  | delete id =>
    rw [reply_delete_memory]
    dsimp only [reply, recorder, Reply.over, recorded, Recorder.call]
    by_cases h : ∃ d ∈ s, d.id = id ∧ d.workspace = ctx.workspace
    · rw [if_pos h, if_neg (Store.without_length_eq_iff.not.2 (not_not_intro h))]
      exact ⟨rfl, rfl, rfl⟩
    · rw [if_neg h, if_pos (Store.without_length_eq_iff.2 h)]
      exact ⟨rfl, rfl, rfl⟩
  | create draft => exact absurd rfl (hj.ne_create draft)

theorem Mirrors.readOnly {u : UseCases Recorder} {j : Job} (hu : u.Mirrors j)
    (hj : j.CreatesNothing) : u.readOnly.Mirrors j := by
  obtain ⟨ctx, stamp, op⟩ := j
  cases op with
  | create draft => exact absurd rfl (hj.ne_create draft)
  | _ => exact hu

section
variable {u : UseCases Recorder} {jobs : List Job} {r : Recorder} {s : Store}

theorem replies_of_mirrors (hu : ∀ j ∈ jobs, u.Mirrors j) (h : r.StandsFor s) :
    (u.replies jobs r).map (Reply.over (·.records)) = (service .memory).replies jobs s := by
  induction jobs generalizing r s with
  | nil => rfl
  | cons j jobs ih =>
    obtain ⟨hj, hu⟩ := List.forall_mem_cons.1 hu
    obtain ⟨hreply, hs⟩ := hj h
    rw [replies, replies, List.map_cons, hreply, ih hu hs]

theorem after_of_mirrors (hu : ∀ j ∈ jobs, u.Mirrors j) (h : r.StandsFor s) :
    (u.after jobs r).StandsFor ((service .memory).after jobs s) := by
  induction jobs generalizing r s with
  | nil => exact h
  | cons j jobs ih =>
    obtain ⟨hj, hu⟩ := List.forall_mem_cons.1 hu
    exact ih hu (hj h).2

theorem Mirrors.outcome {ctx : Context} {stamp : Stamp} {op : Operation} {ending : Ending op.Answer}
    {rest : Store} (hu : u.Mirrors ⟨ctx, stamp, op⟩) (h : r.StandsFor s)
    (hmemory : (service .memory).reply ⟨ctx, stamp, op⟩ s = ⟨⟨ctx, stamp, op⟩, ending, rest⟩) :
    (u.perform ctx stamp op r).ending = ending ∧
      (u.perform ctx stamp op r).state.StandsFor rest := by
  obtain ⟨hreply, hstate⟩ := hu h
  rw [hmemory] at hreply hstate
  exact ⟨eq_of_heq (Reply.mk.inj hreply).2.1, hstate⟩

end

/-- An operation fails because a data source is not there, and changes no record. -/
def Misses (u : UseCases Recorder) (ctx : Context) (stamp : Stamp) (op : Operation)
    (id : DataSourceId) (r : Recorder) : Prop :=
  (u.perform ctx stamp op r).ending = .returned (.error (Service.absent id)) ∧
    (u.perform ctx stamp op r).state.records = r.records

/-- How a deletion from the records of a recorder ends. -/
structure StrictDelete (u : UseCases Recorder) (ctx : Context) (id : DataSourceId) (r : Recorder)
    (o : Outcome Recorder Unit) : Prop where
  succeeds_iff : o.ending = .returned (.ok ()) ↔
    ∃ d ∈ r.records, d.id = id ∧ d.workspace = ctx.workspace
  removes : o.ending = .returned (.ok ()) →
    o.state.records = r.records.filter fun d => ¬ (d.id = id ∧ d.workspace = ctx.workspace)
  fails : o.ending ≠ .returned (.ok ()) →
    o.ending = .returned (.error (Service.absent id)) ∧ o.state.records = r.records
  /-- Nobody of the workspace finds it or can delete it again as long as nothing is created. -/
  gone : ∀ later : List Job, (∀ j ∈ later, j.CreatesNothing) →
    ∀ (caller : Context) (stamp : Stamp), caller.workspace = ctx.workspace →
      u.Misses caller stamp (.find id) id (u.after later o.state) ∧
        u.Misses caller stamp (.delete id) id (u.after later o.state)

variable {u : UseCases Recorder} {r : Recorder} {s : Store} {id : DataSourceId}

theorem misses_of_absent (hu : ∀ j : Job, j.CreatesNothing → u.Mirrors j) (h : r.StandsFor s)
    {ctx : Context} (habsent : ¬ ∃ d ∈ s, d.id = id ∧ d.workspace = ctx.workspace)
    (stamp : Stamp) :
    u.Misses ctx stamp (.find id) id r ∧ u.Misses ctx stamp (.delete id) id r := by
  obtain ⟨hfind, hfound⟩ :=
    (hu ⟨ctx, stamp, .find id⟩ rfl).outcome h (reply_find_memory ctx stamp s id)
  obtain ⟨hdelete, hdeleted⟩ :=
    (hu ⟨ctx, stamp, .delete id⟩ rfl).outcome h (reply_delete_memory ctx stamp s id)
  rw [Store.find?_eq_none_iff.2 habsent] at hfind
  rw [if_neg habsent] at hdelete
  rw [Store.without_eq_self_iff.2 habsent] at hdeleted
  exact ⟨⟨hfind, hfound.records.trans h.records.symm⟩, hdelete,
    hdeleted.records.trans h.records.symm⟩

theorem strictDelete_of_mirrors (hu : ∀ j : Job, j.CreatesNothing → u.Mirrors j)
    (h : r.StandsFor s) (ctx : Context) (stamp : Stamp) (id : DataSourceId) :
    u.StrictDelete ctx id r (u.perform ctx stamp (.delete id) r) := by
  obtain ⟨hending, hstate⟩ :=
    (hu ⟨ctx, stamp, .delete id⟩ rfl).outcome h (reply_delete_memory ctx stamp s id)
  obtain rfl : r.records = s := h.records
  have hrest := hstate.records
  constructor
  case succeeds_iff =>
    rw [hending]
    split
    case isTrue hd => exact iff_of_true rfl hd
    case isFalse hd => exact iff_of_false nofun hd
  case removes =>
    intro _
    rw [hrest, Store.without]
    refine List.filter_congr fun d _ => ?_
    rw [Bool.eq_iff_iff, Bool.not_eq_true', ← Bool.not_eq_true, Store.matches_iff,
      decide_eq_true_iff]
  case fails =>
    intro hne
    have hd : ¬ ∃ d ∈ r.records, d.id = id ∧ d.workspace = ctx.workspace :=
      fun hd => hne (by rw [hending, if_pos hd])
    rw [hending, if_neg hd, hrest, Store.without_eq_self_iff.2 hd]
    exact ⟨rfl, rfl⟩
  case gone =>
    intro later hlater caller stamp hcaller
    have hafter := after_of_mirrors (fun j hj => hu j (hlater j hj)) hstate
    refine misses_of_absent hu hafter ?_ stamp
    -- what is left later was left by the deletion
    rintro ⟨d, hd, hmatch⟩
    have hd' := (sublist_after_memory hlater _).subset hd
    rw [hcaller, ← Store.matches_iff] at hmatch
    simp [Store.without, hmatch] at hd'

/-- Whatever the records are and however they are listed, searched and deleted from: the service,
the recorder of use cases and its read-only variant answer alike, keep the same records, and delete
strictly. -/
theorem strict_alike (seed : Store) (jobs : List Job) (hjobs : ∀ j ∈ jobs, j.CreatesNothing)
    (ctx : Context) (stamp : Stamp) (id : DataSourceId) :
    let told (u : UseCases Recorder) :=
      (u.replies jobs (.ofRecords seed)).map (Reply.over (·.records))
    told recorder = told (service .recorder) ∧ told recorder.readOnly = told recorder ∧
      ∀ u ∈ [service .recorder, recorder, recorder.readOnly],
        let r := u.after jobs (.ofRecords seed)
        u.StrictDelete ctx id r (u.perform ctx stamp (.delete id) r) := by
  have hseed : (Recorder.ofRecords seed).StandsFor seed := ⟨rfl, rfl⟩
  have hservice : ∀ j : Job, j.CreatesNothing → (service .recorder).Mirrors j :=
    fun j => mirrors_service
  have hrecorder : ∀ j : Job, j.CreatesNothing → recorder.Mirrors j := fun j => mirrors_recorder
  have hreadOnly : ∀ j : Job, j.CreatesNothing → recorder.readOnly.Mirrors j :=
    fun j hj => (mirrors_recorder hj).readOnly hj
  have htold {u : UseCases Recorder} (hu : ∀ j : Job, j.CreatesNothing → u.Mirrors j) :
      (u.replies jobs (.ofRecords seed)).map (Reply.over (·.records)) =
        (service .memory).replies jobs seed :=
    replies_of_mirrors (fun j hj => hu j (hjobs j hj)) hseed
  refine ⟨(htold hrecorder).trans (htold hservice).symm,
    (htold hreadOnly).trans (htold hrecorder).symm, fun u hu => ?_⟩
  have hmirrors : ∀ j : Job, j.CreatesNothing → u.Mirrors j := by
    simp only [List.mem_cons, List.not_mem_nil, or_false] at hu
    rcases hu with rfl | rfl | rfl
    · exact hservice
    · exact hrecorder
    · exact hreadOnly
  exact strictDelete_of_mirrors hmirrors
    (after_of_mirrors (fun j hj => hmirrors j (hjobs j hj)) hseed) ctx stamp id

open Fixture in
def twins : Store :=
  let d := named context.workspace (stamp 1) "prometheus" "first"
  [d, { d with name := "second" }, { d with workspace := ⟨(stamp 9).id.uuid⟩ },
    named context.workspace (stamp 2) "datadog" "other"]

open Fixture in
theorem strict_alike_twins :
    let jobs : List Job := [⟨context, stamp 0, .find (stamp 1).id⟩,
      ⟨context, stamp 0, .delete (stamp 1).id⟩, ⟨context, stamp 0, .list⟩]
    (∀ j ∈ jobs, j.CreatesNothing) ∧
      (recorder.replies jobs (.ofRecords twins)).map (Reply.over (·.records)) =
        ((service .recorder).replies jobs (.ofRecords twins)).map (Reply.over (·.records)) ∧
      (recorder.after jobs (.ofRecords twins)).records.map (·.name) =
        ["prometheus-first", "datadog-other"] := by
  intro jobs
  have hjobs : ∀ j ∈ jobs, j.CreatesNothing := by decide
  exact ⟨hjobs, (strict_alike twins jobs hjobs context (stamp 0) (stamp 1).id).1, by decide⟩

end UseCases

end SourceRegistry
