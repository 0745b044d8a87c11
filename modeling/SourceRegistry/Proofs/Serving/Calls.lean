import SourceRegistry.Proofs.Serving.Isolation

/-!
# What a request calls

A request to the place of data sources, in a workspace and with a method of that place, calls one
use case of the service (`Arrival.Calls`). `serve_of_calls` says what such a request is answered
and which store it leaves. `serve_cases` is the inversion: every request is served so, or it
leaves the store alone and is answered neither as a creation nor as a deletion.
-/

namespace SourceRegistry

open Http (Response)

namespace Arrival

variable {a : Arrival} {w : WorkspaceId}

theorem isFor_iff :
    a.IsFor w ↔ ∃ raw, a.request.header? Extract.workspaceHeader = some raw ∧
      Http.isPlain raw ∧ WorkspaceId.ofString? raw = some w := by
  rw [IsFor, Extract.workspace]
  cases a.request.header? Extract.workspaceHeader with
  | none => simp
  | some raw =>
    by_cases hp : Http.isPlain raw
    · cases hw : WorkspaceId.ofString? raw with
      | none => simp [hp, hw]
      | some v => simp [hp, hw]
    · simp [hp]

theorem IsFor.context (h : a.IsFor w) :
    Extract.context a.request a.requestId = .ok ⟨w, a.requestId⟩ := by
  rw [IsFor] at h
  rw [Extract.context, h]
  rfl

theorem IsFor.unique {v : WorkspaceId} (h : a.IsFor w) (hv : a.IsFor v) : w = v :=
  Except.ok.inj (h.symm.trans hv)

/-- The path of a request leads to the data sources of a workspace. -/
def Finds (sites : SiteMap) (a : Arrival) : Prop :=
  ∃ values, sites.find? a.request.target.path = some (.collection, values)

/-- The path of a request leads to one data source and gives this identifier. -/
def Points (sites : SiteMap) (a : Arrival) (id : DataSourceId) : Prop :=
  ∃ values raw, sites.find? a.request.target.path = some (.item, values) ∧
    Extract.pathText values = .ok raw ∧ DataSourceId.ofString? raw = some id

/-- The operation that a request calls, given the longest body that is read. -/
inductive Calls (limit : Nat) (sites : SiteMap) (a : Arrival) : Operation → Prop
  | list (path : a.Finds sites) (method : a.request.method = "GET" ∨ a.request.method = "HEAD") :
    Calls limit sites a .list
  | create {request : CreateRequest} (path : a.Finds sites) (method : a.request.method = "POST")
    (body : Extract.createRequest a.lengthOrder limit a.request = .ok request) :
    Calls limit sites a (.create request.toDraft)
  | find {id : DataSourceId} (path : a.Points sites id)
    (method : a.request.method = "GET" ∨ a.request.method = "HEAD") :
    Calls limit sites a (.find id)
  | delete {id : DataSourceId} (path : a.Points sites id) (method : a.request.method = "DELETE") :
    Calls limit sites a (.delete id)

/-- What is sent of a response: a `HEAD` request is sent no body. -/
def sent (a : Arrival) (r : Response) : Response :=
  if a.request.method = "HEAD" then r.withoutBody else r

end Arrival

/-- A serving that leaves a state and sends a response, up to its headers. -/
structure Served.Sends (v : Served σ) (r : Response) (t : σ) : Prop where
  status : v.response.status = r.status
  body : v.response.body = r.body
  state : v.state = t

/-- A serving that leaves the state as it was and reports neither a creation nor a deletion. -/
structure Served.Idle (v : Served σ) (s : σ) : Prop where
  notCreated : v.response.status ≠ 201
  notDeleted : v.response.status ≠ 204
  state : v.state = s

namespace Layer

variable (app : App σ) (a : Arrival) {handle : σ → Handled σ} {r : Response} {s t : σ}
  {trace : List Trace.Entry}

theorem compress_status (request : Http.Request) (r : Response) :
    (compress request r).status = r.status ∧ (compress request r).body = r.body := by
  unfold compress
  split
  · cases Http.Coding.preferred request <;> exact ⟨rfl, rfl⟩
  · exact ⟨rfl, rfl⟩

theorem all_of_preflight (hp : isPreflight a.request) : (all app a handle s).Idle s := by
  unfold all inner
  rw [if_pos hp]
  exact ⟨(by decide : (200 : Nat) ≠ 201), (by decide : (200 : Nat) ≠ 204), rfl⟩

/-- Without any time, every handler comes too late. -/
theorem all_of_no_time (ht : app.settings.timeoutSeconds = 0)
    (h : handle s = ⟨0, .ok r, t, trace⟩) : (all app a handle s).Idle s := by
  by_cases hp : isPreflight a.request
  · exact all_of_preflight app a hp
  · obtain ⟨hs, -⟩ := compress_status a.request { status := 408 }
    have hd : ahead 0 * 1000 ≤ 0 := by decide
    unfold all inner
    rw [if_neg hp, h, ht]
    unfold deadline
    simp only [if_pos hd]
    exact ⟨fun h => absurd (hs.symm.trans h) (by decide),
      fun h => absurd (hs.symm.trans h) (by decide), rfl⟩

theorem all_sends (hm : a.request.method ≠ "OPTIONS") (ht : app.settings.timeoutSeconds ≠ 0)
    (h : handle s = ⟨0, .ok r, t, trace⟩) : (all app a handle s).Sends r t := by
  obtain ⟨hs, hb⟩ := compress_status a.request r
  have hd : ¬ ahead app.settings.timeoutSeconds * 1000 ≤ 0 := by
    unfold ahead
    split <;> omega
  unfold all inner
  rw [if_neg (by simpa [isPreflight] using hm), h]
  unfold deadline
  simp only [if_neg hd]
  exact ⟨hs, hb, rfl⟩

/-- Requests that ask which requests are allowed, and those that come too late, change nothing;
for all others the layers pass on what the handler replies. -/
theorem all_cases (h : handle s = ⟨0, .ok r, t, trace⟩) :
    (all app a handle s).Sends r t ∨ (all app a handle s).Idle s := by
  by_cases hp : isPreflight a.request
  · exact .inr (all_of_preflight app a hp)
  · by_cases ht : app.settings.timeoutSeconds = 0
    · exact .inr (all_of_no_time app a ht h)
    · exact .inl (all_sends app a (by simpa [isPreflight] using hp) ht h)

end Layer

/-! ## At the handlers -/

theorem ServiceError.Kind.status_ge (k : Kind) : 400 ≤ k.status := by
  cases k <;> decide

theorem ApiError.status_ge (e : ApiError) : 400 ≤ e.status := by
  cases e with
  | service e => exact e.kind.status_ge
  | badRequest detail => exact Nat.le_refl 400
  | validation detail => exact (by decide : 400 ≤ 422)

/-- A refusal is neither a creation nor a deletion. -/
theorem Reply.error_status_ne (e : ApiError) :
    (Reply.error e).status ≠ 201 ∧ (Reply.error e).status ≠ 204 := by
  have he : (Reply.error e).status = e.status := rfl
  have := e.status_ge
  omega

def Service.outcome (ctx : Context) (stamp : Stamp) (op : Operation) (s : Store) :
    Except ServiceError op.Answer × Store :=
  let r := (program ctx stamp op).run.run .memory s
  (r.1, r.2.1)

namespace Service

variable (ctx : Context) (stamp : Stamp) (s : Store)

theorem outcome_list :
    outcome ctx stamp .list s = (.ok ((s.ofWorkspace ctx.workspace).map (·.summary)), s) := by
  rw [outcome, run_list]

theorem outcome_find (id : DataSourceId) :
    outcome ctx stamp (.find id) s =
      ((match s.find? id ctx.workspace with
        | some d => .ok d.summary
        | none => .error (absent id)), s) := by
  rw [outcome]
  exact congrArg (fun r => (r.1, r.2.1)) (run_find ctx stamp s id)

theorem outcome_delete (id : DataSourceId) :
    outcome ctx stamp (.delete id) s =
      if ∃ d ∈ s, d.id = id ∧ d.workspace = ctx.workspace then
        (.ok (), s.without id ctx.workspace)
      else (.error (absent id), s) := by
  rw [outcome, run_delete]
  split <;> rfl

theorem outcome_create (draft : Draft) :
    outcome ctx stamp (.create draft) s =
      let d := draft.source ctx.workspace stamp
      if ¬ draft.Acceptable then (.error draft.rejection, s)
      else if ∃ e ∈ s, e.Namesakes d then (.error (taken d.name), s)
      else if s.hasId d.id then (.error (Repository.existsError d.id), s)
      else (.ok d.summary, s ++ [d]) := by
  rw [outcome, run_create]
  simp only
  split
  · rfl
  · split
    · rfl
    · split <;> rfl

end Service

namespace App

variable (settings : Settings) {sites : SiteMap} {a : Arrival} {w : WorkspaceId} {op : Operation}
  {site : Site} {values : List (String × String)} {s t : Store} {r : Response}
  {trace : List Trace.Entry}

theorem standard_outcome (ctx : Context) (stamp : Stamp) (op : Operation) (s : Store) :
    ∃ trace, (standard settings).perform ctx stamp op s =
      ⟨0, .ok (answerReply op (Service.outcome ctx stamp op s).1),
        (Service.outcome ctx stamp op s).2, trace⟩ := by
  simp only [perform, standard, UseCases.service, Service.outcome]
  cases ((Service.program ctx stamp op).run.run .memory s).1 with
  | ok answer => exact ⟨_, rfl⟩
  | error e => exact ⟨_, rfl⟩

/-- The handler of what is called does the use case. -/
theorem handleAt_of_calls (app : App σ) (hw : a.IsFor w)
    (hc : a.Calls app.settings.maxBodySize sites op) :
    ∃ site values, sites.find? a.request.target.path = some (site, values) ∧
      a.request.method ∈ site.methods ∧
      ∀ s, app.handleAt site values a s = app.perform ⟨w, a.requestId⟩ a.stamp op s := by
  cases hc with
  | list path method =>
    obtain ⟨values, hf⟩ := path
    have hm : a.request.method ≠ "POST" := by
      rintro hp
      rw [hp] at method
      revert method
      decide
    refine ⟨_, _, hf, ?_, fun s => ?_⟩
    · rcases method with hm | hm <;> simp [hm, Site.methods]
    · simp only [handleAt, collection, hw.context, collectionOperation, if_neg hm]
  | create path method body =>
    obtain ⟨values, hf⟩ := path
    refine ⟨_, _, hf, by simp [method, Site.methods], fun s => ?_⟩
    simp only [handleAt, collection, hw.context, collectionOperation, if_pos method, body]
    rfl
  | find path method =>
    obtain ⟨values, raw, hf, ht, hid⟩ := path
    have hm : a.request.method ≠ "DELETE" := by
      rintro hp
      rw [hp] at method
      revert method
      decide
    refine ⟨_, _, hf, ?_, fun s => ?_⟩
    · rcases method with hm | hm <;> simp [hm, Site.methods]
    · simp only [handleAt, item, hw.context, ht, itemOperation, Extract.sourceId, hid, if_neg hm]
      rfl
  | delete path method =>
    obtain ⟨values, raw, hf, ht, hid⟩ := path
    refine ⟨_, _, hf, by simp [method, Site.methods], fun s => ?_⟩
    simp only [handleAt, item, hw.context, ht, itemOperation, Extract.sourceId, hid, if_pos method]
    rfl

/-- A handler does what is called, or replies without a look at the store. -/
theorem handleAt_cases (hf : sites.find? a.request.target.path = some (site, values))
    (hm : a.request.method ∈ site.methods) (s : Store) :
    (∃ w op, a.IsFor w ∧ a.Calls settings.maxBodySize sites op) ∨
      ∃ r trace, (standard settings).handleAt site values a s = ⟨0, .ok r, s, trace⟩ ∧
        r.status ≠ 201 ∧ r.status ≠ 204 := by
  cases site with
  | ready =>
    obtain ⟨trace, he⟩ := standard_ready settings a s
    exact .inr ⟨_, trace, he, (by decide : (200 : Nat) ≠ 201), (by decide : (200 : Nat) ≠ 204)⟩
  | collection =>
    simp only [handleAt, collection, Extract.context]
    cases hw : Extract.workspace a.request with
    | error e => exact .inr ⟨_, _, rfl, Reply.error_status_ne e⟩
    | ok w =>
      by_cases hp : a.request.method = "POST"
      · cases hb : Extract.createRequest a.lengthOrder settings.maxBodySize a.request with
        | error e =>
          simp only [Except.map, collectionOperation, if_pos hp, standard, hb]
          exact .inr ⟨_, _, rfl, Reply.error_status_ne e⟩
        | ok request => exact .inl ⟨w, _, hw, .create ⟨values, hf⟩ hp hb⟩
      · refine .inl ⟨w, _, hw, .list ⟨values, hf⟩ ?_⟩
        simp only [Site.methods, List.mem_cons, List.not_mem_nil, or_false] at hm
        tauto
  | item =>
    simp only [handleAt, item, Extract.context]
    cases hw : Extract.workspace a.request with
    | error e => exact .inr ⟨_, _, rfl, Reply.error_status_ne e⟩
    | ok w =>
      cases ht : Extract.pathText values with
      | error f =>
        refine .inr ⟨_, _, rfl, ?_⟩
        cases f <;> simp [Reply.plain, Extract.PathFault.status]
      | ok raw =>
        cases hid : DataSourceId.ofString? raw with
        | none =>
          simp only [Except.map, itemOperation, Extract.sourceId, hid]
          exact .inr ⟨_, _, rfl, Reply.error_status_ne _⟩
        | some id =>
          have path : a.Points sites id := ⟨values, raw, hf, ht, hid⟩
          simp only [Site.methods, List.mem_cons, List.not_mem_nil, or_false] at hm
          rcases hm with hm | hm | hm
          · exact .inl ⟨w, _, hw, .find path (.inl hm)⟩
          · exact .inl ⟨w, _, hw, .find path (.inr hm)⟩
          · exact .inl ⟨w, _, hw, .delete path hm⟩
  | _ => exact .inr ⟨_, _, rfl, by simp [Reply.json, Reply.redirect, Reply.page]⟩

/-! ## Serving -/

theorem serve_sends (ht : settings.timeoutSeconds ≠ 0)
    (hf : sites.find? a.request.target.path = some (site, values))
    (hm : a.request.method ∈ site.methods)
    (h : (standard settings).handleAt site values a s = ⟨0, .ok r, t, trace⟩) :
    ((standard settings).serve sites a s).Sends (a.sent r) t := by
  have hopt : a.request.method ≠ "OPTIONS" := by
    intro ho
    rw [ho] at hm
    revert hm
    cases site <;> decide
  have hl := Layer.all_sends (standard settings) a hopt ht h
  simp only [serve, hf, serveAt, if_pos hm, Arrival.sent]
  by_cases hh : a.request.method = "HEAD"
  · simp only [if_pos hh]
    exact ⟨hl.status, rfl, hl.state⟩
  · simp only [if_neg hh]
    exact hl

/-- What is called is done in the store, and its answer is sent. -/
theorem serve_of_calls (ht : settings.timeoutSeconds ≠ 0) (hw : a.IsFor w)
    (hc : a.Calls settings.maxBodySize sites op) (s : Store) :
    ((standard settings).serve sites a s).Sends
      (a.sent (answerReply op (Service.outcome ⟨w, a.requestId⟩ a.stamp op s).1))
      (Service.outcome ⟨w, a.requestId⟩ a.stamp op s).2 := by
  obtain ⟨site, values, hf, hm, hh⟩ := handleAt_of_calls (standard settings) hw hc
  obtain ⟨trace, he⟩ := standard_outcome settings ⟨w, a.requestId⟩ a.stamp op s
  exact serve_sends settings ht hf hm ((hh s).trans he)

/-- A request is served as what it calls, or the store stays as it was and the response reports
neither a creation nor a deletion. -/
theorem serve_cases (sites : SiteMap) (a : Arrival) (s : Store) :
    (∃ w op, a.IsFor w ∧ a.Calls settings.maxBodySize sites op ∧
        ((standard settings).serve sites a s).Sends
          (a.sent (answerReply op (Service.outcome ⟨w, a.requestId⟩ a.stamp op s).1))
          (Service.outcome ⟨w, a.requestId⟩ a.stamp op s).2) ∨
      ((standard settings).serve sites a s).Idle s := by
  have idle : ∀ {handle : Store → Handled Store} {r trace}, handle s = ⟨0, .ok r, s, trace⟩ →
      r.status ≠ 201 → r.status ≠ 204 → (Layer.all (standard settings) a handle s).Idle s := by
    intro handle r trace h h₁ h₄
    rcases Layer.all_cases (standard settings) a h with hs | hi
    · exact ⟨hs.status ▸ h₁, hs.status ▸ h₄, hs.state⟩
    · exact hi
  cases hf : sites.find? a.request.target.path with
  | none =>
    right
    simp only [serve, hf]
    exact idle rfl (by decide : (404 : Nat) ≠ 201) (by decide : (404 : Nat) ≠ 204)
  | some found =>
    obtain ⟨site, values⟩ := found
    by_cases hm : a.request.method ∈ site.methods
    · have serve_idle : (Layer.all (standard settings) a
            ((standard settings).handleAt site values a) s).Idle s →
          ((standard settings).serve sites a s).Idle s := by
        intro hi
        simp only [serve, hf, serveAt, if_pos hm]
        split
        · exact ⟨hi.notCreated, hi.notDeleted, hi.state⟩
        · exact hi
      rcases handleAt_cases settings hf hm s with ⟨w, op, hw, hc⟩ | ⟨r, trace, h, h₁, h₄⟩
      · by_cases ht : settings.timeoutSeconds = 0
        · obtain ⟨site', values', hf', -, hh⟩ := handleAt_of_calls (standard settings) hw hc
          cases hf.symm.trans hf'
          obtain ⟨trace, he⟩ := standard_outcome settings ⟨w, a.requestId⟩ a.stamp op s
          exact .inr (serve_idle (Layer.all_of_no_time _ a ht ((hh s).trans he)))
        · exact .inl ⟨w, op, hw, hc, serve_of_calls settings ht hw hc s⟩
      · exact .inr (serve_idle (idle h h₁ h₄))
    · right
      simp only [serve, hf, serveAt, if_neg hm]
      have hi : (Layer.all (standard settings) a (reply · { status := 405 }) s).Idle s :=
        idle rfl (by decide : (405 : Nat) ≠ 201) (by decide : (405 : Nat) ≠ 204)
      exact ⟨hi.notCreated, hi.notDeleted, hi.state⟩

end App

end SourceRegistry
