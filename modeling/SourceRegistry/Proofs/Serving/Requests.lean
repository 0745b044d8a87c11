import SourceRegistry.Api.Serving

/-!
# What a request does to the state

A handler replies without a look at the state, probes the readiness, or does the use case that
the request asks for. The layers around it decide by the request and by how the handler ended,
never by the state. So a request relates states as its use case does (`serve_state`), and two
states in which the use case ends alike are answered alike (`serve_alike`).
-/

namespace SourceRegistry

open Http (Response)

/-- A request that names a workspace asks for an operation there; only `POST` creates. -/
def Arrival.Asks (a : Arrival) (ctx : Context) (op : Operation) : Prop :=
  Extract.context a.request a.requestId = .ok ctx ∧
    ∀ draft, op = .create draft → a.request.method = "POST"

/-- The ways to handle a request. -/
inductive App.Handling (app : App σ) (a : Arrival) : (σ → Handled σ) → Prop
  | reply (r : Response) (trace : List Trace.Entry) : Handling app a fun s => ⟨0, .ok r, s, trace⟩
  | ready : Handling app a (app.ready a)
  | perform {ctx : Context} {op : Operation} (h : a.Asks ctx op) :
    Handling app a (app.perform ctx a.stamp op)

namespace App

variable (app : App σ) (a : Arrival)

theorem handling_collection : app.Handling a (app.collection a) := by
  unfold collection
  cases hc : Extract.context a.request a.requestId with
  | error e => exact .reply (Reply.error e) [.event (.refused e) none]
  | ok ctx =>
    cases ho : app.collectionOperation a with
    | error e => exact .reply (Reply.error e) [.event (.refused e) none]
    | ok op =>
      refine .perform ⟨hc, fun draft hd => ?_⟩
      by_cases hm : a.request.method = "POST"
      · exact hm
      · rw [collectionOperation, if_neg hm] at ho
        cases ho
        cases hd

theorem handling_item (parameters : List (String × String)) :
    app.Handling a (app.item a parameters) := by
  unfold item
  cases hc : Extract.context a.request a.requestId with
  | error e => exact .reply (Reply.error e) [.event (.refused e) none]
  | ok ctx =>
    cases Extract.pathText parameters with
    | error f => exact .reply (Reply.plain f.status f.message) []
    | ok raw =>
      dsimp only
      cases ho : itemOperation a raw with
      | error e => exact .reply (Reply.error e) [.event (.refused e) none]
      | ok op =>
        refine .perform ⟨hc, fun draft hd => ?_⟩
        rw [itemOperation] at ho
        cases hi : Extract.sourceId raw with
        | error e => rw [hi] at ho; cases ho
        | ok id =>
          simp only [hi, bind, Except.bind, Except.ok.injEq] at ho
          rw [← ho] at hd
          split at hd <;> cases hd

theorem handling_handleAt (site : Site) (parameters : List (String × String)) :
    app.Handling a (app.handleAt site parameters a) := by
  cases site with
  | ready => exact .ready
  | collection => exact app.handling_collection a
  | item => exact app.handling_item a parameters
  | _ => exact .reply _ _

end App

section
variable (R : σ → σ → Prop)

/-- Two ways in which a handler ended that the layers cannot tell apart. -/
structure Handled.Alike (h h' : Handled σ) : Prop where
  delay : h.delay = h'.delay
  ending : h.ending = h'.ending
  state : R h.state h'.state

structure Served.Alike (v v' : Served σ) : Prop where
  response : v.response = v'.response
  state : R v.state v'.state

end

namespace Layer

variable (app : App σ) (a : Arrival) {handle : σ → Handled σ} {s t : σ} {R : σ → σ → Prop}

theorem catchPanic_state (h : Handled σ) : (catchPanic h).state = h.state := by
  unfold catchPanic
  split <;> rfl

theorem inner_alike (hst : R s t) (h : Handled.Alike R (handle s) (handle t)) :
    Handled.Alike R (inner app a handle s) (inner app a handle t) := by
  unfold inner
  by_cases hp : isPreflight a.request
  · rw [if_pos hp, if_pos hp]
    exact ⟨rfl, rfl, hst⟩
  · rw [if_neg hp, if_neg hp]
    unfold deadline
    rw [← h.delay]
    by_cases hd : ahead app.settings.timeoutSeconds * 1000 ≤ (handle s).delay
    · simp only [hd, if_true]
      exact ⟨rfl, rfl, hst⟩
    · simp only [hd, if_false]
      exact ⟨h.delay, by rw [h.ending], h.state⟩

theorem catchPanic_alike {h h' : Handled σ} (ha : Handled.Alike R h h') :
    Served.Alike R (catchPanic h) (catchPanic h') where
  response := by
    unfold catchPanic
    rw [← ha.ending]
    cases h.ending with
    | ok r => rfl
    | error p => rfl
  state := by
    rw [catchPanic_state, catchPanic_state]
    exact ha.state

theorem all_alike (hst : R s t) (h : Handled.Alike R (handle s) (handle t)) :
    Served.Alike R (all app a handle s) (all app a handle t) := by
  have hc := catchPanic_alike (inner_alike app a hst h)
  exact ⟨congrArg (·.replace Extract.requestIdHeader a.requestId) hc.response, hc.state⟩

/-- The layers leave the state as it was or as the handler left it. -/
theorem all_state (handle : σ → Handled σ) (s : σ) :
    (all app a handle s).state = s ∨ (all app a handle s).state = (handle s).state := by
  have hc : (all app a handle s).state = (inner app a handle s).state := catchPanic_state _
  rw [hc, inner]
  split
  · exact .inl rfl
  · simp only [deadline]
    split
    · exact .inl rfl
    · exact .inr rfl

end Layer

namespace App

variable {app : App σ} {a : Arrival} {s t : σ}

/-- After the layers only the response may be changed, whatever the state. -/
theorem serve_layers (app : App σ) (sites : SiteMap) (a : Arrival) :
    ∃ handle, ∃ f : Response → Response, app.Handling a handle ∧ ∀ s,
      (app.serve sites a s).response = f (Layer.all app a handle s).response ∧
      (app.serve sites a s).state = (Layer.all app a handle s).state := by
  unfold serve
  cases sites.find? a.request.target.path with
  | none => exact ⟨_, id, .reply _ _, fun s => ⟨rfl, rfl⟩⟩
  | some p =>
    obtain ⟨site, parameters⟩ := p
    simp only [serveAt]
    by_cases hm : a.request.method ∈ site.methods
    · simp only [if_pos hm]
      by_cases hh : a.request.method = "HEAD"
      · simp only [if_pos hh]
        exact ⟨_, Response.withoutBody, app.handling_handleAt a site parameters,
          fun s => ⟨rfl, rfl⟩⟩
      · simp only [if_neg hh]
        exact ⟨_, id, app.handling_handleAt a site parameters, fun s => ⟨rfl, rfl⟩⟩
    · simp only [if_neg hm]
      exact ⟨_, (·.append "allow" (",".intercalate site.methods)), .reply _ _,
        fun s => ⟨rfl, rfl⟩⟩

/-- What holds of a state, and after whatever a request can ask for, holds after the request. -/
theorem serve_state {T : σ → Prop} (sites : SiteMap) (hs : T s) (hready : T (app.ready a s).state)
    (hp : ∀ ctx op, a.Asks ctx op → T (app.perform ctx a.stamp op s).state) :
    T (app.serve sites a s).state := by
  obtain ⟨handle, f, hh, he⟩ := app.serve_layers sites a
  rw [(he s).2]
  rcases Layer.all_state app a handle s with hl | hl
  · rw [hl]; exact hs
  · rw [hl]
    cases hh with
    | reply r trace => exact hs
    | ready => exact hready
    | perform h => exact hp _ _ h

/-- A request is answered alike in two states if all that it can ask for is. -/
theorem serve_alike {R : σ → σ → Prop} (sites : SiteMap) (hst : R s t)
    (hready : Handled.Alike R (app.ready a s) (app.ready a t))
    (hp : ∀ ctx op, a.Asks ctx op →
      Handled.Alike R (app.perform ctx a.stamp op s) (app.perform ctx a.stamp op t)) :
    Served.Alike R (app.serve sites a s) (app.serve sites a t) := by
  obtain ⟨handle, f, hh, he⟩ := app.serve_layers sites a
  have ha : Handled.Alike R (handle s) (handle t) := by
    cases hh with
    | reply r trace => exact ⟨rfl, rfl, hst⟩
    | ready => exact hready
    | perform h => exact hp _ _ h
  have hl := Layer.all_alike app a hst ha
  constructor
  · rw [(he s).1, (he t).1, hl.response]
  · rw [(he s).2, (he t).2]
    exact hl.state

end App

end SourceRegistry
