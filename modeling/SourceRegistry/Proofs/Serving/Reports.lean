import SourceRegistry.Proofs.Service.Programs
import SourceRegistry.Proofs.Serving.Errands
import SourceRegistry.UseCases.Substitute

/-!
# What is reported of a request

The reports of a request begin with its arrival and end with its answer, and say neither again in
between. An error that a handler returns, or that what it takes from the request returns, is
reported once, with its text as a whole and the status of the response. `reported_serve` says so
for every request and however it ends, for use cases that leave these reports to the service.
-/

namespace SourceRegistry

open Http (Request Response)
open Trace (Event Entry)

namespace Trace

def Entry.event? : Entry → Option Event
  | .event e _ => some e
  | .closed _ => none

def events (t : List Entry) : List Event := t.filterMap Entry.event?

theorem events_append (t u : List Entry) : events (t ++ u) = events t ++ events u :=
  List.filterMap_append

theorem events_map (l : List Event) (span : Option Span) : events (l.map (.event · span)) = l := by
  have hid : (fun x => (Entry.event x span).event?) = some := rfl
  rw [events, List.filterMap_map, Function.comp_def, hid, List.filterMap_some]

theorem events_framed (a : Arrival) (status : Nat) (t : List Entry) :
    events (Layer.framed a status t) =
      .arrived (Layer.label a) :: events t ++ [.answered (Layer.label a) status] := by
  rw [Layer.framed, events_append]
  rfl

/-- Events that leave the arrival and the answer of a request to others, and of which one tells the
given error, if there is one, and no other tells any. -/
structure Tells (l : List Event) (e? : Option ApiError) : Prop where
  once : ∀ x ∈ l, x.target ≠ "compass_api_rest::middleware::logging"
  error : l.filter (·.target = "compass_api_rest::error") = e?.toList.map .refused

namespace Tells

variable {l : List Event} {e? : Option ApiError} {x : Event}

theorem nil : Tells [] none := ⟨fun _ hx => absurd hx List.not_mem_nil, rfl⟩

theorem of_service (h : ∀ x ∈ l, x.target = Event.serviceTarget) : Tells l none where
  once x hx := by
    rw [h x hx]
    decide
  error := by
    refine List.filter_eq_nil_iff.2 fun x hx => ?_
    rw [h x hx]
    decide

/-- What else is told of errors, that nothing was found or that a use case panicked, may follow. -/
theorem snoc_other (h : Tells l e?)
    (hx : x.target = "compass_api_rest::middleware::error_handler") : Tells (l ++ [x]) e? where
  once y hy := by
    rcases List.mem_append.1 hy with hy | hy
    · exact h.once y hy
    · rw [List.mem_singleton.1 hy, hx]
      decide
  error := by
    have hn : [x].filter (·.target = "compass_api_rest::error") = [] := by simp [hx]
    rw [List.filter_append, h.error, hn, List.append_nil]

theorem refused (h : Tells l none) (e : ApiError) : Tells (l ++ [.refused e]) (some e) where
  once y hy := by
    rcases List.mem_append.1 hy with hy | hy
    · exact h.once y hy
    · rw [List.mem_singleton.1 hy]
      exact (by decide :
        "compass_api_rest::error" ≠ "compass_api_rest::middleware::logging")
  error := by
    rw [List.filter_append, h.error]
    rfl

end Tells

end Trace

namespace Program

/-- Whatever the queries of a program are answered, it reports only such events. -/
def Notes (p : Event → Prop) : Program α → Prop
  | .done _ => True
  | .ask _ next => ∀ r, (next r).Notes p
  | .note e next => p e ∧ next.Notes p

theorem Notes.run {p : Event → Prop} {program : Program α} (h : program.Notes p)
    (r : Repository σ) (s : σ) : ∀ e ∈ (program.run r s).2.2, p e := by
  induction program generalizing s with
  | done a => exact fun _ he => absurd he List.not_mem_nil
  | ask q next ih => exact ih _ (h _) _
  | note e next ih => exact List.forall_mem_cons.2 ⟨h.1, ih h.2 s⟩

end Program

namespace UseCases

def Discreet (u : UseCases σ) : Prop :=
  ∀ ctx stamp op s, ∀ e ∈ Trace.events (u.perform ctx stamp op s).trace,
    e.target = Event.serviceTarget

theorem notes_program (ctx : Context) (stamp : Stamp) (op : Operation) :
    (Service.program ctx stamp op).run.Notes (·.target = Event.serviceTarget) := by
  cases op with
  | list =>
    rw [Service.program_list]
    rintro (e | ds)
    · trivial
    · exact ⟨rfl, trivial⟩
  | find id =>
    rw [Service.program_find]
    rintro (e | _ | d) <;> trivial
  | delete id =>
    rw [Service.program_delete]
    rintro (e | _ | d)
    · trivial
    · trivial
    · rintro (e | _ | _)
      · trivial
      · trivial
      · exact ⟨rfl, trivial⟩
  | create draft =>
    rw [Service.program_create]
    split
    · trivial
    · rintro (e | _ | _)
      · trivial
      · rintro (e | _)
        · trivial
        · exact ⟨rfl, trivial⟩
      · trivial

theorem discreet_service (r : Repository σ) : (service r).Discreet := by
  intro ctx stamp op s e he
  have hevents : Trace.events ((service r).perform ctx stamp op s).trace =
      ((Service.program ctx stamp op).run.run r s).2.2 := by
    simp only [service, Trace.events_append, Trace.events_map]
    exact List.append_nil _
  exact (notes_program ctx stamp op).run r s e (hevents ▸ he)

theorem discreet_recorder : recorder.Discreet := fun _ _ _ _ _ he => absurd he List.not_mem_nil

theorem Discreet.readOnly {u : UseCases σ} (h : u.Discreet) : u.readOnly.Discreet := by
  intro ctx stamp op s
  cases op with
  | create draft => exact fun _ he => absurd he List.not_mem_nil
  | _ => exact h _ _ _ _

theorem Discreet.delayed {u : UseCases σ} (h : u.Discreet) (ms : Nat) : (u.delayed ms).Discreet := h

theorem discreet_panicking (p : Panic) (u : UseCases σ) : (u.panicking p).Discreet :=
  fun _ _ _ _ _ he => absurd he List.not_mem_nil

end UseCases

/-! ## Refusals -/

namespace Errand

variable (app : App σ) (a : Arrival) (s : σ)

/-- The error that the handler of an errand returns, be it its own or that of the use case. -/
def refusal? : Errand → Option ApiError
  | .sources (.refuse e) => some e
  | .sources (.perform w op) =>
    match (app.useCases.perform ⟨w, a.requestId⟩ a.stamp op s).ending with
    | .returned (.error e) => some (.service e)
    | _ => none
  | _ => none

variable {app a s} {e : Errand} {err : ApiError}

theorem reply_of_refusal (h : e.refusal? app a s = some err) :
    (e.handle app a s).ending = .ok (Reply.error err) := by
  cases e with
  | sources c =>
    cases c with
    | refuse e => cases h; rfl
    | perform w op =>
      simp only [refusal?] at h
      simp only [handle, Choice.handle, App.perform]
      split at h
      · next he => cases h; rw [he]
      · cases h
    | unreadable f => cases h
  | _ => cases h

/-- A handler tells the error that it returns and no other. -/
theorem tells_handle (hd : app.useCases.Discreet) :
    Trace.Tells (Trace.events (e.handle app a s).trace) (e.refusal? app a s) := by
  cases e with
  | nowhere => exact Trace.Tells.nil.snoc_other rfl
  | probe => exact .of_service (hd _ _ _ _)
  | sources c =>
    cases c with
    | refuse e => exact .refused .nil e
    | unreadable f => exact .nil
    | perform w op =>
      have hcalled := Trace.Tells.of_service (hd ⟨w, a.requestId⟩ a.stamp op s)
      simp only [handle, Choice.handle, App.perform, refusal?]
      split
      · next he => rw [he, List.append_nil]; exact hcalled
      · next he => rw [he, List.append_nil]; exact hcalled
      · next he => rw [he, Trace.events_append]; exact hcalled.refused _
  | _ => exact .nil

end Errand

instance (settings : Settings) (h : Handled σ) : Decidable (Layer.Late settings h) :=
  inferInstanceAs (Decidable (_ ≤ _))

namespace App

def refusal? (app : App σ) (sites : SiteMap) (a : Arrival) (s : σ) : Option ApiError :=
  let errand := app.errand sites a
  if Layer.Late app.settings (errand.handle app a s) then none else errand.refusal? app a s

/-- What is reported of a request that has been served. -/
structure Reported (app : App σ) (sites : SiteMap) (a : Arrival) (s : σ) (v : Served σ) :
    Prop where
  events : ∃ between, Trace.events v.trace = .arrived (Layer.label a) :: between ++
    [.answered (Layer.label a) v.response.status] ∧ Trace.Tells between (app.refusal? sites a s)
  failed : 500 ≤ v.response.status ∧ v.response.status < 600 →
    (Event.answered (Layer.label a) v.response.status).level = .warn ∧
      (Event.answered (Layer.label a) v.response.status).message = "Request failed"
  completed : ¬ (500 ≤ v.response.status ∧ v.response.status < 600) →
    (Event.answered (Layer.label a) v.response.status).level = .info ∧
      (Event.answered (Layer.label a) v.response.status).message = "Request completed"
  refused : ∀ e, app.refusal? sites a s = some e →
    (Event.refused e).level =
      (if 500 ≤ v.response.status ∧ v.response.status < 600 then .error else .warn) ∧
    ("status", .number v.response.status) ∈ (Event.refused e).fields ∧
    ("error", .plain e.message) ∈ (Event.refused e).fields

variable (app : App σ) (sites : SiteMap) (a : Arrival) (s : σ)

theorem tells_serve (hd : app.useCases.Discreet) :
    let v := app.serve sites a s
    (∃ between, Trace.events v.trace = .arrived (Layer.label a) :: between ++
      [.answered (Layer.label a) v.response.status] ∧
      Trace.Tells between (app.refusal? sites a s)) ∧
    ∀ e, app.refusal? sites a s = some e → v.response.status = e.status := by
  obtain ⟨handle, after, v, hw, ho, hs⟩ := outcome_serve app sites a s
  obtain ⟨rfl, -⟩ := hw.eq_errand
  have hstatus : (after v.response).status = v.response.status := hw.status_after v.response
  simp only [hs, hstatus, refusal?]
  have htells := Errand.tells_handle (a := a) (s := s) (e := app.errand sites a) hd
  cases ho with
  | preflight hm =>
    have hnone : (app.errand sites a).refusal? app a s = none := by
      rcases errand_of_options app sites hm with h | ⟨allowed, h⟩
      · rw [h]; rfl
      · rw [h]; rfl
    rw [hnone, ite_self]
    exact ⟨⟨[], Trace.events_framed a 200 [], .nil⟩, fun _ he => nomatch he⟩
  | late hm hl =>
    rw [if_pos hl, Layer.dressed_status]
    exact ⟨⟨[], Trace.events_framed a 408 [], .nil⟩, fun _ he => nomatch he⟩
  | reply hm hl he =>
    rw [if_neg hl, Layer.dressed_status]
    refine ⟨⟨_, Trace.events_framed a _ _, htells⟩, fun err herr => ?_⟩
    cases he.symm.trans (Errand.reply_of_refusal herr)
    rfl
  | panic hm hl he =>
    have hnone : (app.errand sites a).refusal? app a s = none :=
      Option.eq_none_iff_forall_ne_some.2 fun err herr =>
        nomatch he.symm.trans (Errand.reply_of_refusal herr)
    rw [if_neg hl]
    rw [hnone] at htells ⊢
    refine ⟨⟨_, Trace.events_framed a 500 _, ?_⟩, fun _ he => nomatch he⟩
    rw [Trace.events_append]
    exact htells.snoc_other rfl

/-- Whatever is asked of use cases that are discreet, and however it ends, the reports are framed
by the arrival and the answer, and tell an error once if one was returned. -/
theorem reported_serve (hd : app.useCases.Discreet) :
    Reported app sites a s (app.serve sites a s) := by
  obtain ⟨hevents, hstatus⟩ := tells_serve app sites a s hd
  refine ⟨hevents, fun h => ?_, fun h => ?_, fun e he => ?_⟩
  · have hf : Http.Status.isServerError (app.serve sites a s).response.status = true :=
      decide_eq_true h
    exact ⟨if_pos hf, if_pos hf⟩
  · have hf : ¬ Http.Status.isServerError (app.serve sites a s).response.status = true :=
      fun hf => h (of_decide_eq_true hf)
    exact ⟨if_neg hf, if_neg hf⟩
  · rw [hstatus e he]
    have hfields : (Event.refused e).fields =
        [("status", .number e.status), ("error_code", .quoted e.code),
          ("error", .plain e.message)] := rfl
    rw [hfields]
    refine ⟨?_, by simp, by simp⟩
    by_cases h : 500 ≤ e.status ∧ e.status < 600
    · exact (if_pos (decide_eq_true h)).trans (if_pos h).symm
    · exact (if_neg fun hf => h (of_decide_eq_true hf)).trans (if_neg h).symm

theorem reported_failing :
    (UseCases.service Repository.recorder).Discreet ∧
      let app : App Recorder := ⟨{}, .service .recorder⟩
      let r := Recorder.failWith {} ⟨.internal, "no space left"⟩
      let v := app.serve (.standard true) (posting .nil 4) r
      Reported app (.standard true) (posting .nil 4) r v ∧
        app.refusal? (.standard true) (posting .nil 4) r =
          some (.service ⟨.internal, "no space left"⟩) ∧
        v.response.status = 500 := by
  have hd := UseCases.discreet_service Repository.recorder
  exact ⟨hd, reported_serve ⟨{}, .service .recorder⟩ (.standard true) (posting .nil 4) _ hd,
    by decide +kernel⟩

end App

end SourceRegistry
