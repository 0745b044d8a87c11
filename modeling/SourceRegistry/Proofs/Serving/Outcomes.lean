import SourceRegistry.Proofs.Serving.Choices

/-!
# How a request can end

Whatever its path, method and handler: a request only asks which requests are allowed, or is too
late, or is replied to, or ends in a panic. `Layer.Outcome` has the response, the state and the
reports of each of these in full. `App.Way` has the handlers that a request can come to and what
is done to a response behind all layers.
-/

namespace SourceRegistry

open Http (Request Response)

namespace Layer

/-- The ways to leave all layers around a handler. -/
inductive Outcome (app : App σ) (a : Arrival) (handle : σ → Handled σ) (s : σ) : Served σ → Prop
  | preflight (h : a.request.method = "OPTIONS") :
    Outcome app a handle s
      ⟨(addHeaders (grantHeaders app.settings a.request) Http.Cors.preflight).replace
        Extract.requestIdHeader a.requestId, s, framed a 200 []⟩
  | late (hm : a.request.method ≠ "OPTIONS") (h : Late app.settings (handle s)) :
    Outcome app a handle s
      ⟨dressed app.settings a { status := 408 }, s, framed a 408 []⟩
  | reply (hm : a.request.method ≠ "OPTIONS") (hl : ¬ Late app.settings (handle s)) {r : Response}
    (h : (handle s).ending = .ok r) :
    Outcome app a handle s
      ⟨dressed app.settings a r, (handle s).state, framed a r.status (handle s).trace⟩
  | panic (hm : a.request.method ≠ "OPTIONS") (hl : ¬ Late app.settings (handle s)) {p : Panic}
    (h : (handle s).ending = .error p) :
    Outcome app a handle s
      ⟨Reply.panic.replace Extract.requestIdHeader a.requestId, (handle s).state,
        framed a 500 ((handle s).trace ++ [.event (.panicked p.details) none])⟩

variable (app : App σ) (a : Arrival) (handle : σ → Handled σ) (s : σ)

theorem outcome_all : Outcome app a handle s (all app a handle s) := by
  by_cases hm : a.request.method = "OPTIONS"
  · have hp : isPreflight a.request := by simpa [isPreflight] using hm
    have ha : all app a handle s =
        ⟨(addHeaders (grantHeaders app.settings a.request) Http.Cors.preflight).replace
          Extract.requestIdHeader a.requestId, s, framed a 200 []⟩ := by
      unfold all inner
      rw [if_pos hp]
      rfl
    rw [ha]
    exact .preflight hm
  · by_cases hl : Late app.settings (handle s)
    · rw [all_of_late app a hm hl]
      exact .late hm hl
    · cases he : (handle s).ending with
      | ok r =>
        rw [all_of_reply app a hm hl he]
        exact .reply hm hl he
      | error p =>
        rw [all_of_panic app a hm hl he]
        exact .panic hm hl he

end Layer

namespace App

/-- The handlers that a request can come to, with what is done to the response at the end. -/
inductive Way (app : App σ) (sites : SiteMap) (a : Arrival) :
    (σ → Handled σ) → (Response → Response) → Prop
  | site {site : Site} {values : List (String × String)}
    (hf : sites.find? a.request.target.path = some (site, values))
    (hm : a.request.method ∈ site.methods) : Way app sites a (app.handleAt site values a) a.sent
  | otherMethod {site : Site} {values : List (String × String)}
    (hf : sites.find? a.request.target.path = some (site, values))
    (hm : a.request.method ∉ site.methods) :
    Way app sites a (reply · { status := 405 }) (·.append "allow" (",".intercalate site.methods))
  | nowhere (hf : sites.find? a.request.target.path = none) :
    Way app sites a (handleNowhere a) id

variable (app : App σ) (sites : SiteMap) (a : Arrival)

theorem way_serve : ∃ handle after, Way app sites a handle after ∧ ∀ s,
    app.serve sites a s = { Layer.all app a handle s with
      response := after (Layer.all app a handle s).response } := by
  cases hf : sites.find? a.request.target.path with
  | none =>
    refine ⟨_, _, .nowhere hf, fun s => ?_⟩
    simp only [serve, hf]
    rfl
  | some found =>
    obtain ⟨site, values⟩ := found
    by_cases hm : a.request.method ∈ site.methods
    · exact ⟨_, _, .site hf hm, serve_of_find app hf hm⟩
    · refine ⟨_, _, .otherMethod hf hm, fun s => ?_⟩
      simp only [serve, hf, serveAt, if_neg hm]

/-- Every request comes to a handler and leaves the layers around it in one of their ways. -/
theorem outcome_serve (s : σ) : ∃ handle after v, Way app sites a handle after ∧
    Layer.Outcome app a handle s v ∧
    app.serve sites a s = { v with response := after v.response } := by
  obtain ⟨handle, after, hw, hs⟩ := way_serve app sites a
  exact ⟨handle, after, _, hw, Layer.outcome_all app a handle s, hs s⟩

end App

namespace Reply

/-- The headers that handlers set themselves. -/
def headerNames : List String := ["content-type", "location"]

theorem name_mem_of_json {status : Nat} {j : Json} {h : Http.Header}
    (hh : h ∈ (json status j).headers) : h.1 ∈ headerNames := by
  rw [List.mem_singleton.1 hh]
  decide

theorem name_mem_of_success {op : Operation} {answer : op.Answer} {h : Http.Header}
    (hh : h ∈ (success op answer).headers) : h.1 ∈ headerNames := by
  cases op with
  | delete id => cases hh
  | list => exact name_mem_of_json hh
  | find id => exact name_mem_of_json hh
  | create draft => exact name_mem_of_json hh

end Reply

namespace App

variable {app : App σ} {a : Arrival} {s : σ} {r : Response} {h : Http.Header}

theorem name_mem_of_perform {ctx : Context} {op : Operation}
    (he : (app.perform ctx a.stamp op s).ending = .ok r) (hh : h ∈ r.headers) :
    h.1 ∈ Reply.headerNames := by
  simp only [perform] at he
  split at he
  · cases he
  · cases he
    exact Reply.name_mem_of_success hh
  · cases he
    exact Reply.name_mem_of_json hh

theorem name_mem_of_choice {c : Choice} (he : (c.handle app a s).ending = .ok r)
    (hh : h ∈ r.headers) : h.1 ∈ Reply.headerNames := by
  cases c with
  | perform w op => exact name_mem_of_perform he hh
  | refuse e => cases he; exact Reply.name_mem_of_json hh
  | unreadable f =>
    cases he
    rw [List.mem_singleton.1 hh]
    decide

theorem name_mem_of_handleAt {site : Site} {values : List (String × String)}
    (he : (app.handleAt site values a s).ending = .ok r) (hh : h ∈ r.headers) :
    h.1 ∈ Reply.headerNames := by
  cases site with
  | ready =>
    simp only [handleAt, ready] at he
    split at he
    · cases he
    · cases he
      exact Reply.name_mem_of_json hh
  | collection =>
    rw [handleAt, Choice.handle_ofCollection] at he
    exact name_mem_of_choice he hh
  | item =>
    rw [handleAt, Choice.handle_ofItem] at he
    exact name_mem_of_choice he hh
  | pagesFile => cases he; cases hh
  | _ => cases he; rw [List.mem_singleton.1 hh]; decide

theorem name_mem_of_way {sites : SiteMap} {handle : σ → Handled σ} {after : Response → Response}
    (hw : Way app sites a handle after) (he : (handle s).ending = .ok r) (hh : h ∈ r.headers) :
    h.1 ∈ Reply.headerNames := by
  cases hw with
  | site hf hm => exact name_mem_of_handleAt he hh
  | otherMethod hf hm => cases he; cases hh
  | nowhere hf => cases he; exact Reply.name_mem_of_json hh

end App

end SourceRegistry
