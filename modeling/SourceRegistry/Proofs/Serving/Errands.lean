import SourceRegistry.Proofs.Serving.Outcomes

/-!
# What a request comes to

The path and the method of a request settle where it goes: to nowhere, to a site that does not
answer its method, to a page, to the probe of readiness, or to a handler of data sources, which
makes its `Choice`. An `Errand` is all of this in one value. It follows from the request, the
sites and the settings alone, whatever the use cases are and their state is, and it settles which
use case is called and how the handler ends. So requests of one errand are served alike.
-/

namespace SourceRegistry

open Http (Request Response)

inductive Errand where
  | nowhere
  | otherMethod (allowed : List String)
  /-- A site that replies the same to every request. -/
  | page (r : Response)
  | probe
  | sources (c : Choice)

namespace Errand

/-- What a request comes to at a site that answers its method. -/
def ofSite (s : Settings) (values : List (String × String)) (a : Arrival) : Site → Errand
  | .health => .page (Reply.json 200 App.health.toJson)
  | .ready => .probe
  | .collection => .sources (.ofCollection s.maxBodySize a)
  | .item => .sources (.ofItem values a.request)
  | .document => .page (Reply.json 200 (Document.toJson s))
  | .pagesRoot => .page (Reply.redirect "/swagger-ui/")
  | .pagesIndex => .page (Reply.page "Swagger UI")
  | .pagesFile => .page { status := 404 }

def of (s : Settings) (sites : SiteMap) (a : Arrival) : Errand :=
  match sites.find? a.request.target.path with
  | none => .nowhere
  | some (site, values) =>
    if a.request.method ∈ site.methods then ofSite s values a site else .otherMethod site.methods

def handle (app : App σ) (a : Arrival) : Errand → σ → Handled σ
  | .nowhere, s => App.handleNowhere a s
  | .otherMethod _, s => App.reply s { status := 405 }
  | .page r, s => App.reply s r
  | .probe, s => app.ready a s
  | .sources c, s => c.handle app a s

def send (a : Arrival) : Errand → Response → Response
  | .nowhere, r => r
  | .otherMethod allowed, r => r.append "allow" (",".intercalate allowed)
  | _, r => a.sent r

def call? (requestId : String) : Errand → Option (Context × Operation)
  | .probe => some (App.probe, .list)
  | .sources (.perform w op) => some (⟨w, requestId⟩, op)
  | _ => none

theorem handle_ofSite (app : App σ) (a : Arrival) (values : List (String × String)) (site : Site) :
    (ofSite app.settings values a site).handle app a = app.handleAt site values a := by
  funext s
  cases site with
  | collection => exact (Choice.handle_ofCollection app a s).symm
  | item => exact (Choice.handle_ofItem app a values s).symm
  | _ => rfl

theorem send_ofSite (s : Settings) (a : Arrival) (values : List (String × String)) (site : Site) :
    (ofSite s values a site).send a = a.sent := by
  cases site <;> rfl

end Errand

namespace App

variable {app : App σ} {sites : SiteMap} {a : Arrival} {handle : σ → Handled σ}
  {after : Response → Response} {s : σ}

def errand (app : App σ) (sites : SiteMap) (a : Arrival) : Errand :=
  .of app.settings sites a

/-- Every way of a request is that of its errand. -/
theorem Way.eq_errand (hw : Way app sites a handle after) :
    handle = (app.errand sites a).handle app a ∧ after = (app.errand sites a).send a := by
  unfold errand Errand.of
  cases hw with
  | site hf hm =>
    rw [hf]
    dsimp only
    rw [if_pos hm]
    exact ⟨(Errand.handle_ofSite app a _ _).symm, (Errand.send_ofSite _ a _ _).symm⟩
  | otherMethod hf hm =>
    rw [hf]
    dsimp only
    rw [if_neg hm]
    exact ⟨rfl, rfl⟩
  | nowhere hf =>
    rw [hf]
    exact ⟨rfl, rfl⟩

/-- A request is served as its errand tells. -/
theorem serve_eq (app : App σ) (sites : SiteMap) (a : Arrival) (s : σ) :
    app.serve sites a s =
      let v := Layer.all app a ((app.errand sites a).handle app a) s
      { v with response := (app.errand sites a).send a v.response } := by
  obtain ⟨handle, after, hw, hs⟩ := way_serve app sites a
  obtain ⟨rfl, rfl⟩ := hw.eq_errand
  exact hs s

theorem Way.status_after (hw : Way app sites a handle after) (r : Response) :
    (after r).status = r.status := by
  cases hw with
  | site hf hm => exact sent_status a r
  | otherMethod hf hm => rfl
  | nowhere hf => rfl

/-- The use cases have an answer before the deadline. -/
def Prompt (app : App σ) : Prop :=
  app.useCases.delay < Layer.ahead app.settings.timeoutSeconds * 1000

/-- A request calls a use case that panics before the deadline. -/
def Panics (app : App σ) (sites : SiteMap) (a : Arrival) (s : σ) : Prop :=
  app.Prompt ∧ ∃ ctx op p, (app.errand sites a).call? a.requestId = some (ctx, op) ∧
    (app.useCases.perform ctx a.stamp op s).ending = .panicked p

end App

namespace Errand

variable (app : App σ) (s : σ) {a : Arrival} {e : Errand} {ctx : Context} {op : Operation}

/-- The handler takes as long as the use case that it calls, and panics if the use case does. -/
theorem handle_of_call (h : e.call? a.requestId = some (ctx, op)) :
    (e.handle app a s).delay = app.useCases.delay ∧ ∀ p, (e.handle app a s).ending = .error p ↔
      (app.useCases.perform ctx a.stamp op s).ending = .panicked p := by
  cases e with
  | probe =>
    cases h
    refine ⟨rfl, fun p => ?_⟩
    simp only [handle, App.ready]
    split
    · next hp => simp [hp]
    · next hp => simp [hp]
  | sources c =>
    cases c with
    | perform w op =>
      cases h
      simp only [handle, Choice.handle, App.perform]
      split
      · next hp => exact ⟨rfl, fun p => by simp [hp]⟩
      · next hp => exact ⟨rfl, fun p => by simp [hp]⟩
      · next hp => exact ⟨rfl, fun p => by simp [hp]⟩
    | _ => cases h
  | _ => cases h

/-- A handler that calls no use case replies at once and leaves the state as it was. -/
theorem handle_of_no_call (h : e.call? a.requestId = none) :
    (e.handle app a s).delay = 0 ∧ (e.handle app a s).state = s ∧
      ∃ r, (e.handle app a s).ending = .ok r := by
  cases e with
  | probe => cases h
  | sources c =>
    cases c with
    | perform w op => cases h
    | refuse e => exact ⟨rfl, rfl, _, rfl⟩
    | unreadable f => exact ⟨rfl, rfl, _, rfl⟩
  | _ => exact ⟨rfl, rfl, _, rfl⟩

end Errand

namespace App

variable (app : App σ) (sites : SiteMap) {a : Arrival} {s : σ}

/-- No site answers a request that only asks which requests are allowed. -/
theorem errand_of_options (hm : a.request.method = "OPTIONS") :
    app.errand sites a = .nowhere ∨ ∃ allowed, app.errand sites a = .otherMethod allowed := by
  unfold errand Errand.of
  split
  · exact .inl rfl
  · next site _ _ => exact .inr ⟨_, if_neg fun h => site.ne_options h hm⟩

/-- A request calls a use case that panics iff its handler panics before the deadline. -/
theorem panics_iff : app.Panics sites a s ↔
    a.request.method ≠ "OPTIONS" ∧
      ¬ Layer.Late app.settings ((app.errand sites a).handle app a s) ∧
      ∃ p, ((app.errand sites a).handle app a s).ending = .error p := by
  constructor
  · rintro ⟨hp, ctx, op, p, hc, he⟩
    obtain ⟨hd, hiff⟩ := Errand.handle_of_call app s hc
    refine ⟨fun hm => ?_, ?_, p, (hiff p).2 he⟩
    · rcases errand_of_options app sites hm with h | ⟨allowed, h⟩
      · rw [h] at hc
        cases hc
      · rw [h] at hc
        cases hc
    · rw [Layer.Late, hd]
      exact Nat.not_le.2 hp
  · rintro ⟨-, hl, p, he⟩
    cases hc : (app.errand sites a).call? a.requestId with
    | none =>
      obtain ⟨-, -, r, hr⟩ := Errand.handle_of_no_call app s hc
      cases hr.symm.trans he
    | some call =>
      obtain ⟨ctx, op⟩ := call
      obtain ⟨hd, hiff⟩ := Errand.handle_of_call app s hc
      rw [Layer.Late, hd] at hl
      exact ⟨Nat.not_le.1 hl, ctx, op, p, hc, (hiff p).1 he⟩

end App

namespace Arrival.SameEnvelope

variable {a a' : Arrival} (h : a.SameEnvelope a')
include h

theorem send_eq (e : Errand) : e.send a = e.send a' := by
  have hsent : a.sent = a'.sent := by
    funext r
    rw [Arrival.sent, Arrival.sent, h.method]
  cases e with
  | nowhere => rfl
  | otherMethod allowed => rfl
  | _ => exact hsent

/-- An errand is handled alike but for the reports. Its path is told where it leads nowhere. -/
theorem handle_eq (hstamp : a.stamp = a'.stamp) {e : Errand}
    (hpath : e = .nowhere → a.request.target.path = a'.request.target.path) (app : App σ) (s : σ) :
    { e.handle app a s with trace := [] } = { e.handle app a' s with trace := [] } := by
  have hid := h.requestId_eq
  cases e with
  | nowhere =>
    rw [Errand.handle, Errand.handle, App.handleNowhere, App.handleNowhere, hid, hpath rfl]
  | probe => rw [Errand.handle, Errand.handle, App.ready, App.ready, hstamp]
  | sources c =>
    cases c with
    | perform w op => rw [Errand.handle, Errand.handle, Choice.handle, Choice.handle, hid, hstamp]
    | _ => rfl
  | _ => rfl

/-- Requests of one errand are answered alike and leave the same state. -/
theorem serve_eq (hstamp : a.stamp = a'.stamp) {app : App σ} {sites : SiteMap}
    (herrand : app.errand sites a = app.errand sites a')
    (hpath : app.errand sites a = .nowhere → a.request.target.path = a'.request.target.path)
    (s : σ) :
    (app.serve sites a s).response = (app.serve sites a' s).response ∧
      (app.serve sites a s).state = (app.serve sites a' s).state := by
  obtain ⟨hresponse, hstate⟩ := h.all_eq app (h.handle_eq hstamp hpath app s)
  rw [App.serve_eq, App.serve_eq app sites a']
  dsimp only
  rw [← herrand, hresponse, hstate, h.send_eq]
  exact ⟨rfl, rfl⟩

end Arrival.SameEnvelope

end SourceRegistry
