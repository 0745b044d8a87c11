import SourceRegistry.Proofs.Serving.Errands
import SourceRegistry.UseCases.Substitute

/-!
# The deadline decides

The use cases may let some time pass before they act or panic. A request for data sources that
passes the checks of its handler is then cut off, if the deadline comes first, and nothing has
happened; or the deadline leaves no trace at all. A request that does not pass never comes to the
use cases and does not wait. `punctual_serve` says so for every delay and all use cases.
-/

namespace SourceRegistry

open Http (Request Response)
open SiteMap (sourcesPath)

/-- A request passes the checks of its handler: it is for a workspace and calls a use case. -/
def Arrival.Passes (limit : Nat) (sites : SiteMap) (a : Arrival) : Prop :=
  ∃ w op, a.IsFor w ∧ a.Calls limit sites op

namespace Choice

variable {limit : Nat} {pages : Bool} {a : Arrival} {w : WorkspaceId} {op : Operation}

theorem of_calls (hw : a.IsFor w) (hc : a.Calls limit (.standard pages) op) :
    of limit (.standard pages) a = .perform w op := by
  cases hc with
  | list path method =>
    have hp := Arrival.finds_standard_iff.1 path
    have hm : a.request.method ≠ "POST" := by
      rcases method with hm | hm <;> rw [hm] <;> decide
    exact of_list limit pages hp hm hw
  | create path method body =>
    have hp := Arrival.finds_standard_iff.1 path
    rw [of_sourcesPath limit pages hp, ofCollection, hw, body]
    exact if_pos method
  | find path method =>
    have hm : a.request.method ≠ "DELETE" := by
      rcases method with hm | hm <;> rw [hm] <;> decide
    rw [of_names limit pages (Arrival.points_standard_iff.1 path) hw, if_neg hm]
  | delete path method =>
    rw [of_names limit pages (Arrival.points_standard_iff.1 path) hw, if_pos method]

theorem calls_of_ofCollection (hp : a.request.target.path = sourcesPath)
    (hm : a.request.method ∈ ["GET", "HEAD", "POST"])
    (h : ofCollection limit a = .perform w op) :
    a.IsFor w ∧ a.Calls limit (.standard pages) op := by
  have path : a.Finds (.standard pages) := Arrival.finds_standard_iff.2 hp
  unfold ofCollection at h
  split at h
  · cases h
  · next hw =>
    split at h
    · next method =>
      split at h
      · cases h
      · next body =>
        cases h
        exact ⟨hw, .create path method body⟩
    · next method =>
      cases h
      simp only [List.mem_cons, List.not_mem_nil, or_false] at hm
      rcases hm with hm | hm | hm
      · exact ⟨hw, .list path (.inl hm)⟩
      · exact ⟨hw, .list path (.inr hm)⟩
      · exact absurd hm method

theorem calls_of_ofItem {values : List (String × String)}
    (hf : (SiteMap.standard pages).find? a.request.target.path = some (.item, values))
    (hm : a.request.method ∈ ["GET", "HEAD", "DELETE"])
    (h : ofItem values a.request = .perform w op) :
    a.IsFor w ∧ a.Calls limit (.standard pages) op := by
  unfold ofItem at h
  split at h
  · cases h
  · next hw =>
    split at h
    · cases h
    · next raw htext =>
      cases hid : DataSourceId.ofString? raw with
      | none =>
        simp only [Extract.sourceId, hid] at h
        cases h
      | some id =>
        have path : a.Points (.standard pages) id := ⟨values, raw, hf, htext, hid⟩
        simp only [Extract.sourceId, hid] at h
        obtain ⟨rfl, rfl⟩ := Choice.perform.inj h
        refine ⟨hw, ?_⟩
        by_cases method : a.request.method = "DELETE"
        · rw [if_pos method]
          exact .delete path method
        · rw [if_neg method]
          simp only [List.mem_cons, List.not_mem_nil, or_false] at hm
          rcases hm with hm | hm | hm
          · exact .find path (.inl hm)
          · exact .find path (.inr hm)
          · exact absurd hm method

/-- The requests for data sources that pass are those for which a use case is chosen. -/
theorem of_eq_perform_iff (h : a.AtSources) :
    of limit (.standard pages) a = .perform w op ↔
      a.IsFor w ∧ a.Calls limit (.standard pages) op := by
  refine ⟨fun he => ?_, fun ⟨hw, hc⟩ => of_calls hw hc⟩
  rcases h with ⟨hp, hm⟩ | ⟨⟨raw, hraw, hmem, hp⟩, hm⟩
  · rw [of_sourcesPath limit pages hp] at he
    exact calls_of_ofCollection hp hm he
  · have hf := SiteMap.find?_source pages hraw hmem hp
    simp only [of, hf] at he
    exact calls_of_ofItem hf hm he

/-! ## Delays -/

variable (settings : Settings) (u : UseCases σ) (ms : Nat) (s : σ)

/-- A handler that performs takes longer by the delay of the use cases, and does nothing else. -/
theorem handle_delayed :
    (Choice.perform w op).handle ⟨settings, u.delayed ms⟩ a s =
      { (Choice.perform w op).handle ⟨settings, u⟩ a s with delay := u.delay + ms } := by
  simp only [handle, App.perform, UseCases.delayed]
  split <;> rfl

theorem delay_handle_perform (app : App σ) :
    ((Choice.perform w op).handle app a s).delay = app.useCases.delay := by
  have hcall : (Errand.sources (.perform w op)).call? a.requestId =
      some (⟨w, a.requestId⟩, op) := rfl
  exact (Errand.handle_of_call app s hcall).1

/-- A handler that does not perform leaves the use cases alone. -/
theorem handle_of_not_perform {c : Choice} (h : ∀ w op, c ≠ .perform w op) (app app' : App σ) :
    c.handle app a s = c.handle app' a s ∧ (c.handle app a s).delay = 0 := by
  cases c with
  | perform w op => exact absurd rfl (h w op)
  | refuse e => exact ⟨rfl, rfl⟩
  | unreadable f => exact ⟨rfl, rfl⟩

end Choice

namespace Layer

variable (app app' : App σ) (a : Arrival) {handle handle' : σ → Handled σ} {s : σ}

theorem late_iff (settings : Settings) (hc : Word.fits 63 settings.timeoutSeconds) (h : Handled σ) :
    Late settings h ↔ settings.timeoutSeconds * 1000 ≤ h.delay := by
  rw [Late, ahead, if_pos hc]

/-- Handlers that differ in their delays only leave the layers alike, if both are in time. -/
theorem all_of_in_time (hset : app'.settings = app.settings) (hl : ¬ Late app.settings (handle s))
    (hl' : ¬ Late app.settings (handle' s))
    (h : { handle s with delay := 0 } = { handle' s with delay := 0 }) :
    all app a handle s = all app' a handle' s := by
  obtain ⟨-, hending, hstate, htrace⟩ := Handled.mk.inj h
  unfold all inner
  rw [hset, deadline_of_not_late app hl, deadline_of_not_late app hl']
  simp only [hending, hstate, htrace]
  split <;> rfl

theorem delay_inner_of_late (hm : a.request.method ≠ "OPTIONS")
    (hl : Late app.settings (handle s)) :
    (inner app a handle s).delay = ahead app.settings.timeoutSeconds * 1000 := by
  have hd : deadline app.settings.timeoutSeconds s (handle s) =
      ⟨ahead app.settings.timeoutSeconds * 1000, .ok { status := 408 }, s, []⟩ := if_pos hl
  unfold inner
  rw [if_neg (by simpa [isPreflight] using hm), hd]

theorem delay_inner_of_in_time (hm : a.request.method ≠ "OPTIONS")
    (hl : ¬ Late app.settings (handle s)) : (inner app a handle s).delay = (handle s).delay := by
  unfold inner
  rw [if_neg (by simpa [isPreflight] using hm), deadline_of_not_late app hl]

end Layer

/-! ## Serving -/

namespace App

/-- How many milliseconds after its arrival a request is answered. -/
def elapsed (app : App σ) (sites : SiteMap) (a : Arrival) (s : σ) : Nat :=
  (Layer.inner app a ((app.errand sites a).handle app a) s).delay

def delayed (ms : Nat) (app : App σ) : App σ :=
  { app with useCases := app.useCases.delayed ms }

/-- A serving that the deadline has ended before anything happened. -/
structure CutOff (a : Arrival) (s : σ) (v : Served σ) : Prop where
  status : v.response.status = 408
  body : v.response.body = ""
  state : v.state = s
  trace : v.trace = Layer.framed a 408 []
  noPanic : ∀ text span, .event (.panicked text) span ∉ v.trace

/-- A serving in which a panic has been caught: it is masked in the response and reported. -/
structure Caught (a : Arrival) (p : Panic) (v : Served σ) : Prop where
  status : v.response.status = 500
  body : a.request.method ≠ "HEAD" → v.response.body =
    (ErrorBody.toJson ⟨"INTERNAL_ERROR", "Error doing the process", none⟩).text
  reported : .event (.panicked p.details) none ∈ v.trace

/-- What the deadline makes of a request for data sources over use cases that wait for so many
milliseconds, and after how many it is answered. -/
structure Punctual (app : App σ) (sites : SiteMap) (a : Arrival) (s : σ) (ms : Nat) : Prop where
  late : a.Passes app.settings.maxBodySize sites → app.settings.timeoutSeconds * 1000 ≤ ms →
    CutOff a s ((app.delayed ms).serve sites a s) ∧
      (app.delayed ms).elapsed sites a s = app.settings.timeoutSeconds * 1000
  inTime : a.Passes app.settings.maxBodySize sites → ms < app.settings.timeoutSeconds * 1000 →
    (app.delayed ms).serve sites a s = app.serve sites a s ∧
      (app.delayed ms).elapsed sites a s = ms
  panicked : ∀ w op p, a.IsFor w → a.Calls app.settings.maxBodySize sites op →
    (app.useCases.perform ⟨w, a.requestId⟩ a.stamp op s).ending = .panicked p →
    ms < app.settings.timeoutSeconds * 1000 →
    Caught a p ((app.delayed ms).serve sites a s)
  rejected : ¬ a.Passes app.settings.maxBodySize sites →
    (app.delayed ms).serve sites a s = app.serve sites a s ∧
      (app.delayed ms).elapsed sites a s = 0

variable (app : App σ) (pages : Bool) {a : Arrival} {w : WorkspaceId} {op : Operation} {p : Panic}
  {s : σ} {ms : Nat}

theorem errand_atSources (h : a.AtSources) :
    app.errand (.standard pages) a =
      .sources (.of app.settings.maxBodySize (.standard pages) a) := by
  rcases h with ⟨hp, hm⟩ | ⟨⟨raw, hraw, hmem, hp⟩, hm⟩
  · have hf := SiteMap.find?_sources pages hp
    have hmethods : a.request.method ∈ Site.collection.methods := hm
    simp only [errand, Errand.of, Choice.of, hf, if_pos hmethods, Errand.ofSite]
  · have hf := SiteMap.find?_source pages hraw hmem hp
    have hmethods : a.request.method ∈ Site.item.methods := hm
    simp only [errand, Errand.of, Choice.of, hf, if_pos hmethods, Errand.ofSite]

theorem cutOff_sending (settings : Settings) (a : Arrival) (s : σ) :
    CutOff a s (sending a
      ⟨Layer.dressed settings a { status := 408 }, s, Layer.framed a 408 []⟩) where
  status := (sent_status a _).trans (Layer.dressed_status settings a _)
  body := by
    have hb := Layer.dressed_body settings a { status := 408 }
    simp only [sending, Arrival.sent]
    split
    · rfl
    · exact hb
  state := rfl
  trace := rfl
  noPanic text span hmem := by
    simp [sending, Layer.framed] at hmem

theorem caught_sending (a : Arrival) (p : Panic) (s : σ) (trace : List Trace.Entry) :
    Caught a p (sending a
      ⟨Reply.panic.replace Extract.requestIdHeader a.requestId, s,
        Layer.framed a 500 (trace ++ [.event (.panicked p.details) none])⟩) where
  status := sent_status a _
  body hm := by
    simp only [sending, Arrival.sent, if_neg hm]
    rfl
  reported := by simp [sending, Layer.framed]

theorem elapsed_atSources (h : a.AtSources) (s : σ) :
    app.elapsed (.standard pages) a s = (Layer.inner app a
      ((Choice.of app.settings.maxBodySize (.standard pages) a).handle app a) s).delay := by
  rw [elapsed, errand_atSources app pages h]
  rfl

section
variable (hu : app.useCases.delay = 0) (hc : Word.fits 63 app.settings.timeoutSeconds)
include hu

theorem delay_handle_delayed :
    ((Choice.perform w op).handle (app.delayed ms) a s).delay = ms := by
  rw [Choice.delay_handle_perform]
  show app.useCases.delay + ms = ms
  omega

include hc

theorem late_delayed_iff :
    Layer.Late app.settings ((Choice.perform w op).handle (app.delayed ms) a s) ↔
      app.settings.timeoutSeconds * 1000 ≤ ms := by
  rw [Layer.late_iff app.settings hc, delay_handle_delayed app hu]

variable (h : a.AtSources)
  (hp : Choice.of app.settings.maxBodySize (.standard pages) a = .perform w op)
include h hp

theorem serve_delayed_of_late (hms : app.settings.timeoutSeconds * 1000 ≤ ms) (s : σ) :
    (app.delayed ms).serve (.standard pages) a s = sending a
        ⟨Layer.dressed app.settings a { status := 408 }, s, Layer.framed a 408 []⟩ ∧
      (app.delayed ms).elapsed (.standard pages) a s = app.settings.timeoutSeconds * 1000 := by
  obtain ⟨hm, hs⟩ := serve_atSources (app.delayed ms) pages h s
  have hp' : Choice.of (app.delayed ms).settings.maxBodySize (.standard pages) a =
    .perform w op := hp
  have hl : Layer.Late app.settings ((Choice.perform w op).handle (app.delayed ms) a s) :=
    (late_delayed_iff app hu hc).2 hms
  have hahead : Layer.ahead app.settings.timeoutSeconds = app.settings.timeoutSeconds := if_pos hc
  rw [hs, elapsed_atSources (app.delayed ms) pages h, hp',
    Layer.all_of_late (app.delayed ms) a hm hl, Layer.delay_inner_of_late (app.delayed ms) a hm hl]
  exact ⟨rfl, congrArg (· * 1000) hahead⟩

theorem serve_delayed_of_lt (hms : ms < app.settings.timeoutSeconds * 1000) (s : σ) :
    (app.delayed ms).serve (.standard pages) a s = app.serve (.standard pages) a s ∧
      (app.delayed ms).elapsed (.standard pages) a s = ms := by
  obtain ⟨hm, hs⟩ := serve_atSources app pages h s
  obtain ⟨-, hs'⟩ := serve_atSources (app.delayed ms) pages h s
  have hp' : Choice.of (app.delayed ms).settings.maxBodySize (.standard pages) a =
    .perform w op := hp
  have hl' : ¬ Layer.Late app.settings ((Choice.perform w op).handle (app.delayed ms) a s) := by
    rw [late_delayed_iff app hu hc]
    omega
  have hl : ¬ Layer.Late app.settings ((Choice.perform w op).handle app a s) := by
    rw [Layer.late_iff app.settings hc, Choice.delay_handle_perform, hu]
    omega
  rw [hs, hs', elapsed_atSources (app.delayed ms) pages h, hp, hp',
    Layer.delay_inner_of_in_time (app.delayed ms) a hm hl', delay_handle_delayed app hu]
  refine ⟨congrArg _ (Layer.all_of_in_time (app.delayed ms) app a rfl hl' hl ?_), rfl⟩
  exact congrArg (fun h : Handled σ => { h with delay := 0 })
    (Choice.handle_delayed app.settings app.useCases ms s)

end

/-- A request that is rejected before the use cases does not wait for them. -/
theorem serve_delayed_of_not_perform (h : a.AtSources)
    (hc : Word.fits 63 app.settings.timeoutSeconds) (ht : app.settings.timeoutSeconds ≠ 0)
    (hp : ∀ w op, Choice.of app.settings.maxBodySize (.standard pages) a ≠ .perform w op)
    (ms : Nat) (s : σ) :
    (app.delayed ms).serve (.standard pages) a s = app.serve (.standard pages) a s ∧
      (app.delayed ms).elapsed (.standard pages) a s = 0 := by
  obtain ⟨hm, hs⟩ := serve_atSources app pages h s
  obtain ⟨-, hs'⟩ := serve_atSources (app.delayed ms) pages h s
  rw [hs, hs', elapsed_atSources (app.delayed ms) pages h]
  show sending a (Layer.all app a ((Choice.of app.settings.maxBodySize (.standard pages)
    a).handle (app.delayed ms) a) s) = _ ∧ (Layer.inner (app.delayed ms) a
    ((Choice.of app.settings.maxBodySize (.standard pages) a).handle
      (app.delayed ms) a) s).delay = 0
  generalize Choice.of app.settings.maxBodySize (.standard pages) a = c at hp ⊢
  have hhandle : c.handle (app.delayed ms) a = c.handle app a :=
    funext fun s => (Choice.handle_of_not_perform s hp (app.delayed ms) app).1
  have hdelay := (Choice.handle_of_not_perform (a := a) s hp (app.delayed ms) app).2
  have hl : ¬ Layer.Late app.settings (c.handle (app.delayed ms) a s) := by
    rw [Layer.late_iff app.settings hc, hdelay]
    omega
  refine ⟨by rw [hhandle], ?_⟩
  rw [Layer.delay_inner_of_in_time (app.delayed ms) a hm hl, hdelay]

theorem caught_serve (h : a.AtSources) (hu : app.useCases.delay = 0)
    (hc : Word.fits 63 app.settings.timeoutSeconds) (ht : app.settings.timeoutSeconds ≠ 0)
    (hp : Choice.of app.settings.maxBodySize (.standard pages) a = .perform w op)
    (he : (app.useCases.perform ⟨w, a.requestId⟩ a.stamp op s).ending = .panicked p) :
    Caught a p (app.serve (.standard pages) a s) := by
  obtain ⟨hm, hs⟩ := serve_atSources app pages h s
  rw [hp] at hs
  have hl : ¬ Layer.Late app.settings ((Choice.perform w op).handle app a s) := by
    rw [Layer.late_iff app.settings hc, Choice.delay_handle_perform, hu]
    omega
  have hending : ((Choice.perform w op).handle app a s).ending = .error p := by
    simp only [Choice.handle, perform, he]
  rw [hs, Layer.all_of_panic app a hm hl hending]
  exact caught_sending a p _ _

theorem punctual_atSources (h : a.AtSources) (hu : app.useCases.delay = 0)
    (hc : Word.fits 63 app.settings.timeoutSeconds) (ht : app.settings.timeoutSeconds ≠ 0) (s : σ)
    (ms : Nat) : Punctual app (.standard pages) a s ms where
  late := by
    rintro ⟨w, op, hw, hop⟩ hms
    have hp := Choice.of_calls hw hop
    obtain ⟨hs, he⟩ := serve_delayed_of_late app pages hu hc h hp hms s
    exact ⟨hs ▸ cutOff_sending app.settings a s, he⟩
  inTime := by
    rintro ⟨w, op, hw, hop⟩ hms
    exact serve_delayed_of_lt app pages hu hc h (Choice.of_calls hw hop) hms s
  panicked := by
    intro w op p hw hop he hms
    have hp := Choice.of_calls hw hop
    rw [(serve_delayed_of_lt app pages hu hc h hp hms s).1]
    exact caught_serve app pages h hu hc ht hp he
  rejected := by
    intro hn
    refine serve_delayed_of_not_perform app pages h hc ht (fun w op hp => hn ⟨w, op, ?_⟩) ms s
    exact (Choice.of_eq_perform_iff h).1 hp

/-- Whatever the use cases do, the deadline either comes first and nothing has happened, or it
makes no difference. -/
theorem punctual_serve (settings : Settings) (h : settings.apiPath = "/api/v1")
    (ht : settings.timeoutSeconds ≠ 0) (hc : Word.fits 63 settings.timeoutSeconds) :
    ∃ sites, SiteMap.ofSettings? settings = some sites ∧
      ∀ u : UseCases σ, u.delay = 0 → ∀ a, a.AtSources → ∀ s ms,
        Punctual ⟨settings, u⟩ sites a s ms :=
  ⟨_, SiteMap.ofSettings?_eq_standard h, fun _ hu _ ha s ms =>
    punctual_atSources ⟨settings, _⟩ _ ha hu hc ht s ms⟩

def listing : Arrival where
  request :=
    { method := "GET"
      target := ⟨none, none, "/api/v1/datasource", none⟩
      headers := [("workspaceid", WorkspaceId.nil.text)]
      body := [] }
  freshId := "trial"
  stamp := Fixture.stamp 1

theorem punctual_listing :
    ({} : Settings).apiPath = "/api/v1" ∧ ({} : Settings).timeoutSeconds ≠ 0 ∧
      Word.fits 63 ({} : Settings).timeoutSeconds ∧
      ∃ sites, SiteMap.ofSettings? {} = some sites ∧
      let app : App Recorder := ⟨{}, .panicking (.text "lost") .recorder⟩
      app.useCases.delay = 0 ∧ listing.AtSources ∧ listing.Passes 2097152 sites ∧
        CutOff listing {} ((app.delayed 30000).serve sites listing {}) ∧
        Caught listing (.text "lost") ((app.delayed 29999).serve sites listing {}) := by
  obtain ⟨sites, hs, hp⟩ : ∃ sites, SiteMap.ofSettings? {} = some sites ∧
      ∀ u : UseCases Recorder, u.delay = 0 → ∀ a, a.AtSources → ∀ s ms,
        Punctual ⟨{}, u⟩ sites a s ms := punctual_serve {} rfl (by decide) (by decide)
  obtain rfl : SiteMap.standard true = sites :=
    Option.some.inj ((SiteMap.ofSettings?_eq_standard rfl).symm.trans hs)
  have ha : listing.AtSources := .inl ⟨rfl, by decide⟩
  have hw : listing.IsFor .nil := Arrival.isFor_iff.2 ⟨_, rfl, by decide +kernel, by decide +kernel⟩
  have hop : listing.Calls 2097152 (.standard true) .list :=
    .list (Arrival.finds_standard_iff.2 rfl) (.inl rfl)
  have hpasses : listing.Passes 2097152 (.standard true) := ⟨_, _, hw, hop⟩
  have hpunctual := hp (.panicking (.text "lost") .recorder) rfl listing ha {}
  refine ⟨rfl, by decide, by decide, _, hs, rfl, ha, hpasses, ?_, ?_⟩
  · exact ((hpunctual 30000).late hpasses (by decide)).1
  · exact (hpunctual 29999).panicked _ _ _ hw hop rfl (by decide)

end App

end SourceRegistry
