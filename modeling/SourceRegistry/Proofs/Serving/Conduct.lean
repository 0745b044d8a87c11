import SourceRegistry.Proofs.Repository.Recorder
import SourceRegistry.Proofs.Serving.Choices
import SourceRegistry.UseCases.Substitute

/-!
# Which use case a request calls

Over a recorder of use cases every call can be counted. A request for data sources that names no
workspace, no identifier or no body, or whose texts have the wrong lengths, calls nothing; every
other calls the use case of its handler once, with what the request holds. Neither hangs on what
the recorder is told to answer. `Conduct` says this of one request.
-/

namespace SourceRegistry

open Http (Response)
open SiteMap (sourcesPath)

def Operation.call (w : WorkspaceId) : Operation → Call
  | .list => .list w
  | .find id => .find id w
  | .delete id => .delete id w
  | .create draft => .create w draft.name

namespace UseCases

theorem calls_recorded (ctx : Context) (stamp : Stamp) (op : Operation) (r : Recorder) :
    (recorded ctx stamp op r).2.calls = r.calls ++ [op.call ctx.workspace] := by
  cases op with
  | list => exact r.calls_call _ _
  | find id => exact r.calls_call _ _
  | delete id => exact r.calls_call _ _
  | create draft => exact r.calls_call _ _

end UseCases

/-- What a request for data sources does to a recorder of use cases, check by check. -/
structure Conduct (limit : Nat) (a : Arrival) (r : Recorder) (v : Served Recorder) : Prop where
  noWorkspace : (∀ raw w, a.request.header? "workspaceid" = some raw → Http.isPlain raw →
    WorkspaceId.ofString? raw ≠ some w) → v.state = r ∧ v.response.status = 400
  noId : a.request.target.path ≠ sourcesPath → (∀ id, ¬ a.Names id) →
    v.state = r ∧ v.response.status = 400
  noRequest : a.request.method = "POST" → (∀ c, ¬ a.Holds limit c) →
    v.state = r ∧ v.response.status = 400
  badLengths : ∀ w c, a.request.method = "POST" → a.IsFor w → a.Holds limit c →
    c.badLengths ≠ [] → v.state = r ∧ v.response.status = 422
  list : ∀ w, a.request.target.path = sourcesPath → a.request.method ≠ "POST" → a.IsFor w →
    v.state.calls = r.calls ++ [.list w]
  create : ∀ w c, a.request.method = "POST" → a.IsFor w → a.Holds limit c → c.badLengths = [] →
    v.state.calls = r.calls ++ [.create w c.name]
  find : ∀ w id, a.Names id → a.request.method ≠ "DELETE" → a.IsFor w →
    v.state.calls = r.calls ++ [.find id w]
  delete : ∀ w id, a.Names id → a.request.method = "DELETE" → a.IsFor w →
    v.state.calls = r.calls ++ [.delete id w]

namespace App

section
variable (app : App σ) {a : Arrival} {pages : Bool} {s t : σ} {r : Response}
  {trace : List Trace.Entry}

/-- In time, a reply is sent and the state is what the handler has made of it. -/
theorem sends_of_choice (h : a.AtSources) (ht : app.settings.timeoutSeconds ≠ 0)
    (hr : (Choice.of app.settings.maxBodySize (.standard pages) a).handle app a s =
      ⟨0, .ok r, t, trace⟩) :
    (app.serve (.standard pages) a s).Sends (a.sent r) t := by
  obtain ⟨hm, hs⟩ := serve_atSources app pages h s
  have hl := Layer.all_sends app a hm ht hr
  rw [hs]
  unfold sending Arrival.sent
  split
  · exact ⟨hl.status, rfl, hl.state⟩
  · exact hl

theorem idle_of_refuse (h : a.AtSources) (ht : app.settings.timeoutSeconds ≠ 0) {e : ApiError}
    (hc : Choice.of app.settings.maxBodySize (.standard pages) a = .refuse e) :
    (app.serve (.standard pages) a s).state = s ∧
      (app.serve (.standard pages) a s).response.status = e.status := by
  have hs := sends_of_choice app (s := s) h ht (by rw [hc]; rfl)
  exact ⟨hs.state, hs.status.trans (sent_status a (Reply.error e))⟩

theorem idle_of_unreadable (h : a.AtSources) (ht : app.settings.timeoutSeconds ≠ 0)
    {f : Extract.PathFault}
    (hc : Choice.of app.settings.maxBodySize (.standard pages) a = .unreadable f) :
    (app.serve (.standard pages) a s).state = s ∧
      (app.serve (.standard pages) a s).response.status = f.status := by
  have hs := sends_of_choice app (s := s) h ht (by rw [hc]; rfl)
  exact ⟨hs.state, hs.status.trans (sent_status a (Reply.plain f.status f.message))⟩

end

variable (settings : Settings) {a : Arrival} {pages : Bool} {r : Recorder} {w : WorkspaceId}
  {op : Operation}

/-- What is chosen is called once, whatever the recorder is told to answer. -/
theorem calls_of_perform (h : a.AtSources) (ht : settings.timeoutSeconds ≠ 0)
    (hc : Choice.of settings.maxBodySize (.standard pages) a = .perform w op) :
    ((App.mk settings .recorder).serve (.standard pages) a r).state.calls =
      r.calls ++ [op.call w] := by
  have hcalls := UseCases.calls_recorded ⟨w, a.requestId⟩ a.stamp op r
  cases ho : (UseCases.recorded ⟨w, a.requestId⟩ a.stamp op r).1 with
  | ok answer =>
    have hh : (Choice.perform w op).handle ⟨settings, .recorder⟩ a r =
        ⟨0, .ok (Reply.success op answer), (UseCases.recorded ⟨w, a.requestId⟩ a.stamp op r).2,
          []⟩ := by
      simp only [Choice.handle, perform, UseCases.recorder, ho]
      rfl
    have hs := sends_of_choice ⟨settings, .recorder⟩ h ht (hc ▸ hh)
    rw [hs.state, hcalls]
  | error e =>
    have hh : (Choice.perform w op).handle ⟨settings, .recorder⟩ a r =
        ⟨0, .ok (Reply.error (.service e)),
          (UseCases.recorded ⟨w, a.requestId⟩ a.stamp op r).2,
          [.event (.refused (.service e)) none]⟩ := by
      simp only [Choice.handle, perform, UseCases.recorder, ho]
      rfl
    have hs := sends_of_choice ⟨settings, .recorder⟩ h ht (hc ▸ hh)
    rw [hs.state, hcalls]

/-- Every request for data sources conducts itself so, whatever is recorded and whatever the
recorder is told to answer. -/
theorem conduct_serve (h : a.AtSources) (ht : settings.timeoutSeconds ≠ 0) (r : Recorder) :
    Conduct settings.maxBodySize a r
      ((App.mk settings .recorder).serve (.standard pages) a r) := by
  have noWorkspace : (∀ w, ¬ a.IsFor w) →
      ((App.mk settings .recorder).serve (.standard pages) a r).state = r ∧
      ((App.mk settings .recorder).serve (.standard pages) a r).response.status = 400 := by
    intro hw
    obtain ⟨detail, hc⟩ := Choice.of_noWorkspace settings.maxBodySize (.standard pages) hw
    exact idle_of_refuse ⟨settings, .recorder⟩ h ht hc
  have path_of_post : a.request.method = "POST" → a.request.target.path = sourcesPath := by
    intro hm
    rcases h with ⟨hp, -⟩ | ⟨-, hmem⟩
    · exact hp
    · exact absurd (hm ▸ hmem) (by decide)
  constructor
  case noWorkspace =>
    intro hn
    refine noWorkspace fun w hw => ?_
    obtain ⟨raw, hr, hplain, hid⟩ := Arrival.isFor_iff.1 hw
    exact hn raw w hr hplain hid
  case noId =>
    intro hp hn
    by_cases hw : ∃ w, a.IsFor w
    · obtain ⟨w, hw⟩ := hw
      rcases Choice.of_noId settings.maxBodySize pages h hp hw hn with
        ⟨detail, hc⟩ | hc
      · exact idle_of_refuse ⟨settings, .recorder⟩ h ht hc
      · exact idle_of_unreadable ⟨settings, .recorder⟩ h ht hc
    · exact noWorkspace (not_exists.1 hw)
  case noRequest =>
    intro hm hn
    by_cases hw : ∃ w, a.IsFor w
    · obtain ⟨w, hw⟩ := hw
      obtain ⟨detail, hc⟩ :=
        Choice.of_noRequest settings.maxBodySize pages (path_of_post hm) hm hw hn
      exact idle_of_refuse ⟨settings, .recorder⟩ h ht hc
    · exact noWorkspace (not_exists.1 hw)
  case badLengths =>
    intro w c hm hw hholds hb
    have hc := Choice.of_create settings.maxBodySize pages (path_of_post hm) hm hw hholds
    rw [if_neg hb] at hc
    exact idle_of_refuse ⟨settings, .recorder⟩ h ht hc
  case list =>
    intro w hp hm hw
    exact calls_of_perform settings h ht (Choice.of_list _ _ hp hm hw)
  case create =>
    intro w c hm hw hholds hb
    have hc := Choice.of_create settings.maxBodySize pages (path_of_post hm) hm hw hholds
    exact calls_of_perform settings h ht (hc.trans (if_pos hb))
  case find =>
    intro w id hn hm hw
    have hc := Choice.of_names settings.maxBodySize pages hn hw
    rw [if_neg hm] at hc
    exact calls_of_perform settings h ht hc
  case delete =>
    intro w id hn hm hw
    have hc := Choice.of_names settings.maxBodySize pages hn hw
    rw [if_pos hm] at hc
    exact calls_of_perform settings h ht hc

/-- Whatever the settings are besides the path, a request for data sources that lacks something
calls no use case, and every other calls the one that it asks for. -/
theorem conduct_recorder (h : settings.apiPath = "/api/v1") (ht : settings.timeoutSeconds ≠ 0) :
    ∃ sites, SiteMap.ofSettings? settings = some sites ∧ ∀ a (r : Recorder), a.AtSources →
      Conduct settings.maxBodySize a r ((App.mk settings .recorder).serve sites a r) :=
  ⟨_, SiteMap.ofSettings?_eq_standard h, fun _ r ha => conduct_serve settings ha ht r⟩

theorem conduct_failing :
    ({} : Settings).apiPath = "/api/v1" ∧ ({} : Settings).timeoutSeconds ≠ 0 ∧
      ∃ sites, SiteMap.ofSettings? {} = some sites ∧
      let r := Recorder.failWith {} ⟨.internal, "no space left"⟩
      let a := posting .nil 4
      let v := (App.mk {} .recorder).serve sites a r
      a.AtSources ∧ Conduct 2097152 a r v ∧ v.state.calls = [.create .nil "n"] ∧
        v.response.status = 500 := by
  obtain ⟨sites, hs, hc⟩ := conduct_recorder {} rfl (by decide)
  obtain rfl : SiteMap.standard true = sites :=
    Option.some.inj ((SiteMap.ofSettings?_eq_standard rfl).symm.trans hs)
  have ha : (posting .nil 4).AtSources := .inl ⟨rfl, by decide⟩
  exact ⟨rfl, by decide, _, hs, ha, hc _ _ ha, by decide +kernel⟩

end App

end SourceRegistry
