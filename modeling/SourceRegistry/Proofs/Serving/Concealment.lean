import SourceRegistry.Proofs.Service.Calls
import SourceRegistry.Proofs.Serving.Refusals

/-!
# Failures are kept from clients

A use case may fail inside the service, or panic, and leave a text about it. Whatever the text is,
the client is sent the same response, in which a failure of the server has one and the same
message; the text goes into the reports as a whole. `concealed_mishap` says so for the recorder
and for the service over it.
-/

namespace SourceRegistry

open Http (Response)

/-- What can go wrong inside the service: it fails in one of two ways, or it panics. -/
inductive Mishap where
  | internal
  | unavailable
  | panic
  deriving DecidableEq, Repr

namespace Mishap

/-- The recorder of which a mishap is asked. -/
def recorder (text : String) (r : Recorder) : Mishap → Recorder
  | .internal => r.failWith ⟨.internal, text⟩
  | .unavailable => r.failWith ⟨.unavailable, text⟩
  | .panic => r

def useCases (text : String) (u : UseCases Recorder) : Mishap → UseCases Recorder
  | .internal | .unavailable => u
  | .panic => u.panicking (.text text)

def ending {α : Type} (text : String) : Mishap → Ending α
  | .internal => .returned (.error ⟨.internal, text⟩)
  | .unavailable => .returned (.error ⟨.unavailable, text⟩)
  | .panic => .panicked (.text text)

end Mishap

namespace UseCases

variable (ctx : Context) (stamp : Stamp) (op : Operation) (r : Recorder) (e : ServiceError)

theorem ending_recorder_failWith :
    (recorder.perform ctx stamp op (r.failWith e)).ending = .returned (.error e) := by
  cases op <;> rfl

theorem ending_service_failWith :
    ((service .recorder).perform ctx stamp op (r.failWith e)).ending =
      .returned (.error (op.refusal?.getD e)) :=
  congrArg Ending.returned (Service.run_failWith ctx stamp op r e)

end UseCases

/-- An operation ends in the mishap with its text, or it is refused whatever happens. -/
theorem Mishap.ends {u : UseCases Recorder} (hu : u = .recorder ∨ u = .service .recorder)
    (k : Mishap) (op : Operation) :
    (∀ ctx stamp text r, ((k.useCases text u).perform ctx stamp op (k.recorder text r)).ending =
      k.ending text) ∨
    ∃ e : ServiceError, e.kind = .validationFailed ∧ ∀ ctx stamp text r,
      ((k.useCases text u).perform ctx stamp op (k.recorder text r)).ending =
        .returned (.error e) := by
  rcases hu with rfl | rfl
  · left
    intro ctx stamp text r
    cases k with
    | panic => rfl
    | _ => exact UseCases.ending_recorder_failWith ctx stamp op r _
  · cases k with
    | panic => exact .inl fun _ _ _ _ => rfl
    | _ =>
      cases h : op.refusal? with
      | none =>
        left
        intro ctx stamp text r
        have he := UseCases.ending_service_failWith ctx stamp op r
        rw [h] at he
        exact he _
      | some e =>
        refine .inr ⟨e, Operation.kind_of_refusal? h, fun ctx stamp text r => ?_⟩
        have he := UseCases.ending_service_failWith ctx stamp op r
        rw [h] at he
        exact he _

/-! ## Through the layers -/

/-- Two ways in which a handler ended that differ at most in what a panic left behind. -/
structure Handled.Veiled (h h' : Handled σ) : Prop where
  delay : h.delay = h'.delay
  ending : h.ending = h'.ending ∨ ∃ p p', h.ending = .error p ∧ h'.ending = .error p'

theorem Http.Response.replace_replace (r : Response) (name v w : String) :
    (r.replace name v).replace name w = r.replace name w := by
  unfold replace
  simp [List.filter_append, List.filter_filter]

theorem Arrival.sent_replace (a : Arrival) (r : Response) (name v : String) :
    (a.sent r).replace name v = a.sent (r.replace name v) := by
  unfold sent
  split <;> rfl

theorem Layer.dressed_replace (s : Settings) {a b : Arrival} (hab : b.request = a.request)
    (r : Response) :
    (dressed s a r).replace Extract.requestIdHeader b.requestId = dressed s b r := by
  unfold dressed
  rw [hab]
  exact Response.replace_replace _ _ _ _

section
variable {app app' : App σ} {a b : Arrival} {pages : Bool} {s s' : σ}

/-- The layers keep what a panic left behind from the client. -/
theorem Layer.all_veiled {handle handle' : σ → Handled σ} (hab : b.request = a.request)
    (hset : app'.settings = app.settings) (hm : a.request.method ≠ "OPTIONS")
    (h : Handled.Veiled (handle s) (handle' s')) :
    (all app a handle s).response.replace Extract.requestIdHeader b.requestId =
      (all app' b handle' s').response := by
  have hm' : b.request.method ≠ "OPTIONS" := hab ▸ hm
  have hlate : Late app'.settings (handle' s') ↔ Late app.settings (handle s) := by
    unfold Late
    rw [hset, h.delay]
  by_cases hl : Late app.settings (handle s)
  · rw [all_of_late app a hm hl, all_of_late app' b hm' (hlate.2 hl), hset]
    exact dressed_replace _ hab _
  · have hl' := hl ∘ hlate.1
    rcases h.ending with he | ⟨p, p', he, he'⟩
    · cases hr : (handle s).ending with
      | ok r =>
        rw [all_of_reply app a hm hl hr, all_of_reply app' b hm' hl' (he ▸ hr), hset]
        exact dressed_replace _ hab _
      | error p =>
        rw [all_of_panic app a hm hl hr, all_of_panic app' b hm' hl' (he ▸ hr)]
        exact Response.replace_replace _ _ _ _
    · rw [all_of_panic app a hm hl he, all_of_panic app' b hm' hl' he']
      exact Response.replace_replace _ _ _ _

/-- Two requests for data sources that differ at most in their identifiers and stamps, and that
are handled alike up to what a panic left behind, get the same response up to the identifier. -/
theorem App.serve_veiled (ha : a.AtSources) (hab : b.request = a.request)
    (horder : b.lengthOrder = a.lengthOrder) (hset : app'.settings = app.settings)
    (h : let c := Choice.of app.settings.maxBodySize (.standard pages) a
      Handled.Veiled (c.handle app a s) (c.handle app' b s')) :
    (app.serve (.standard pages) a s).response.replace Extract.requestIdHeader b.requestId =
      (app'.serve (.standard pages) b s').response := by
  have hb : b.AtSources := by
    unfold Arrival.AtSources
    rw [hab]
    exact ha
  have hchoice : Choice.of app'.settings.maxBodySize (.standard pages) b =
      .of app.settings.maxBodySize (.standard pages) a := by
    unfold Choice.of Choice.ofCollection
    rw [hset, hab, horder]
  have hsent : b.sent = a.sent := by
    funext r
    unfold Arrival.sent
    rw [hab]
  obtain ⟨hm, hs⟩ := serve_atSources app pages ha s
  obtain ⟨-, hs'⟩ := serve_atSources app' pages hb s'
  rw [hs, hs', hchoice]
  simp only [sending, hsent, Arrival.sent_replace]
  exact congrArg a.sent (Layer.all_veiled hab hset hm h)

end

/-! ## Concealed texts -/

/-- A serving that, if it ended in a failure of the server, tells the client nothing about it, but
reports the whole text of the failure as an error. -/
structure Conceals (a : Arrival) (text : String) (v : Served σ) : Prop where
  masked : v.response.status = 500 ∨ v.response.status = 503 → a.request.method ≠ "HEAD" →
    ∃ code, (v.response.status, code) ∈ ErrorBody.table ∧
      v.response.body = (ErrorBody.toJson ⟨code, "Error doing the process", none⟩).text
  noBody : a.request.method = "HEAD" → v.response.body = ""
  reported : v.response.status = 500 ∨ v.response.status = 503 →
    ∃ e span field shown, .event e span ∈ v.trace ∧ e.level = .error ∧
      (field, .plain shown) ∈ e.fields ∧ text.toList <:+: shown.toList

namespace Conceals

variable {a : Arrival} {text : String} {r : Response} {s : σ} {trace : List Trace.Entry}

theorem body_sent (hm : a.request.method = "HEAD") (r : Response) : (a.sent r).body = "" := by
  rw [Arrival.sent, if_pos hm]
  rfl

theorem of_status_lt (settings : Settings) (h : r.status < 500) :
    Conceals a text (App.sending a ⟨Layer.dressed settings a r, s, trace⟩) := by
  have hs : (App.sending a ⟨Layer.dressed settings a r, s, trace⟩).response.status = r.status :=
    (App.sent_status a _).trans (Layer.dressed_status settings a r)
  have hn : ¬ (r.status = 500 ∨ r.status = 503) := by omega
  exact ⟨fun h => absurd (hs ▸ h) hn, fun hm => body_sent hm _, fun h => absurd (hs ▸ h) hn⟩

theorem mem_framed {e : Trace.Entry} (status : Nat) (h : e ∈ trace) :
    e ∈ Layer.framed a status trace :=
  List.mem_append_left _ (.tail _ h)

/-- A failure inside the service is sent without its text and reported with it. -/
theorem of_failure (settings : Settings) {e : ServiceError}
    (hk : e.kind = .internal ∨ e.kind = .unavailable) (htext : e.detail = text)
    (hmem : .event (.refused (.service e)) none ∈ trace) :
    Conceals a text (App.sending a
      ⟨Layer.dressed settings a (Reply.error (.service e)), s,
        Layer.framed a (Reply.error (.service e)).status trace⟩) := by
  have herror : (ApiError.service e).isServerError := by
    obtain ⟨kind, detail⟩ := e
    rcases hk with rfl | rfl <;> rfl
  have hmasked : (ApiError.service e).clientMessage = "Error doing the process" := by
    obtain ⟨kind, detail⟩ := e
    rcases hk with rfl | rfl <;> rfl
  constructor
  · intro _ hm
    refine ⟨e.code, ?_, ?_⟩
    · show ((a.sent _).status, _) ∈ _
      rw [App.sent_status, Layer.dressed_status]
      exact e.kind.mem_table
    · show (a.sent _).body = _
      rw [Arrival.sent, if_neg hm, Layer.dressed_body, ← hmasked]
      rfl
  · exact fun hm => body_sent hm _
  · intro _
    refine ⟨_, _, "error", e.message, mem_framed _ hmem, if_pos herror,
      .tail _ (.tail _ (.head _)), ?_⟩
    exact ⟨(e.kind.label ++ ": ").toList, [], by simp [ServiceError.message, htext]⟩

/-- A panic is sent without its text and reported with it. -/
theorem of_panic (text : String) :
    Conceals a text (App.sending a
      ⟨Reply.panic.replace Extract.requestIdHeader a.requestId, s,
        Layer.framed a 500 (trace ++ [.event (.panicked text) none])⟩) := by
  constructor
  · intro _ hm
    refine ⟨"INTERNAL_ERROR", ?_, ?_⟩
    · show ((a.sent _).status, _) ∈ _
      rw [App.sent_status]
      exact (by decide : (500, "INTERNAL_ERROR") ∈ ErrorBody.table)
    · show (a.sent _).body = _
      rw [Arrival.sent, if_neg hm]
      rfl
  · exact fun hm => body_sent hm _
  · intro _
    refine ⟨_, _, "details", text, mem_framed _ (List.mem_append_right _ (.head _)), rfl,
      .head _, List.infix_rfl⟩

end Conceals

namespace Choice

variable {limit : Nat} {pages : Bool} {a : Arrival}

/-- What is refused without a use case is the client's fault. -/
theorem status_of_refuse (ha : a.AtSources) {e : ApiError}
    (h : of limit (.standard pages) a = .refuse e) : e.status < 500 := by
  by_cases hw : ∃ w, a.IsFor w
  · obtain ⟨w, hw⟩ := hw
    by_cases hp : a.request.target.path = SiteMap.sourcesPath
    · by_cases hm : a.request.method = "POST"
      · by_cases hc : ∃ c, a.Holds limit c
        · obtain ⟨c, hc⟩ := hc
          rw [of_create limit pages hp hm hw hc] at h
          split at h
          · cases h
          · cases h
            exact (by decide : 422 < 500)
        · obtain ⟨detail, hd⟩ := of_noRequest limit pages hp hm hw (not_exists.1 hc)
          rw [hd] at h
          cases h
          exact (by decide : 400 < 500)
      · rw [of_list limit pages hp hm hw] at h
        cases h
    · by_cases hn : ∃ id, a.Names id
      · obtain ⟨id, hn⟩ := hn
        rw [of_names limit pages hn hw] at h
        cases h
      · rcases of_noId limit pages ha hp hw (not_exists.1 hn) with
          ⟨detail, hd⟩ | hd
        · rw [hd] at h
          cases h
          exact (by decide : 400 < 500)
        · rw [hd] at h
          cases h
  · obtain ⟨detail, hd⟩ := of_noWorkspace limit (.standard pages) (not_exists.1 hw)
    rw [hd] at h
    cases h
    exact (by decide : 400 < 500)

end Choice

namespace App

variable (settings : Settings) {u : UseCases Recorder} {a b : Arrival} {pages : Bool}

def ill (settings : Settings) (u : UseCases Recorder) (k : Mishap) (text : String) : App Recorder :=
  ⟨settings, k.useCases text u⟩

/-- Whatever is chosen, the mishap is handled alike with any two texts. -/
theorem veiled_mishap (hu : u = .recorder ∨ u = .service .recorder) (k : Mishap) (c : Choice)
    (a b : Arrival) (r : Recorder) (text text' : String) :
    Handled.Veiled (c.handle (ill settings u k text) a (k.recorder text r))
      (c.handle (ill settings u k text') b (k.recorder text' r)) := by
  cases c with
  | refuse e => exact ⟨rfl, .inl rfl⟩
  | unreadable f => exact ⟨rfl, .inl rfl⟩
  | perform w op =>
    have hdelay : ∀ t, (k.useCases t u).delay = u.delay := by
      intro t
      cases k <;> rfl
    have hd : ∀ t a r, ((Choice.perform w op).handle (ill settings u k t) a r).delay = u.delay := by
      intro t a r
      simp only [Choice.handle, perform]
      split <;> exact hdelay t
    refine ⟨(hd _ _ _).trans (hd _ _ _).symm, ?_⟩
    simp only [Choice.handle, perform, ill]
    rcases k.ends hu op with h | ⟨e, -, h⟩
    · rw [h, h]
      cases k with
      | internal => exact .inl rfl
      | unavailable => exact .inl rfl
      | panic => exact .inr ⟨_, _, rfl, rfl⟩
    · rw [h, h]
      exact .inl rfl

/-- What is handled after a mishap: a failure with the text, a panic with the text, or a refusal
that the client is to blame for. -/
theorem handle_ill (hu : u = .recorder ∨ u = .service .recorder) (k : Mishap) (w : WorkspaceId)
    (op : Operation) (r : Recorder) (text : String) :
    let h := (Choice.perform w op).handle (ill settings u k text) a (k.recorder text r)
    (∃ e : ServiceError, (e.kind = .internal ∨ e.kind = .unavailable) ∧ e.detail = text ∧
      h.ending = .ok (Reply.error (.service e)) ∧
      .event (.refused (.service e)) none ∈ h.trace) ∨
    h.ending = .error (.text text) ∨
    ∃ e : ServiceError, e.kind = .validationFailed ∧
      h.ending = .ok (Reply.error (.service e)) := by
  intro h
  have hh : h = (ill settings u k text).perform ⟨w, a.requestId⟩ a.stamp op (k.recorder text r) :=
    rfl
  rw [hh, perform, ill]
  rcases k.ends hu op with he | ⟨e, hk, he⟩
  · rw [he]
    cases k with
    | internal =>
      exact .inl ⟨⟨.internal, text⟩, .inl rfl, rfl, rfl, List.mem_append_right _ (.head _)⟩
    | unavailable =>
      exact .inl ⟨⟨.unavailable, text⟩, .inr rfl, rfl, rfl, List.mem_append_right _ (.head _)⟩
    | panic => exact .inr (.inl rfl)
  · rw [he]
    exact .inr (.inr ⟨e, hk, rfl⟩)

theorem conceals_serve (hu : u = .recorder ∨ u = .service .recorder) (k : Mishap)
    (ha : a.AtSources) (r : Recorder) (text : String) :
    Conceals a text ((ill settings u k text).serve (.standard pages) a (k.recorder text r)) := by
  have hend := serve_endings (ill settings u k text) pages ha (k.recorder text r)
  have hset : (ill settings u k text).settings = settings := rfl
  rw [hset] at hend
  generalize hc : Choice.of settings.maxBodySize (.standard pages) a = c at hend
  rcases hend with ⟨-, hv⟩ | ⟨reply, he, hv⟩ | ⟨p, he, hv⟩
  · rw [hv]
    exact .of_status_lt settings (by decide : 408 < 500)
  · rw [hv]
    cases c with
    | refuse e =>
      cases he
      exact .of_status_lt settings (Choice.status_of_refuse ha hc)
    | unreadable f =>
      cases hc.symm.trans (Choice.of_garbled (Choice.garbled_of_unreadable ha hc))
      cases he
      exact .of_status_lt settings (by decide : 400 < 500)
    | perform w op =>
      rcases handle_ill settings hu k w op r text with
        ⟨e, hk, htext, hend, hmem⟩ | hend | ⟨e, hk, hend⟩
      · cases he.symm.trans hend
        exact .of_failure settings hk htext hmem
      · cases he.symm.trans hend
      · cases he.symm.trans hend
        refine .of_status_lt settings ?_
        show e.kind.status < 500
        rw [hk]
        decide
  · rw [hv]
    cases c with
    | refuse e => cases he
    | unreadable f => cases he
    | perform w op =>
      rcases handle_ill settings hu k w op r text with ⟨e, -, -, hend, -⟩ | hend | ⟨e, -, hend⟩
      · cases he.symm.trans hend
      · cases he.symm.trans hend
        exact .of_panic text
      · cases he.symm.trans hend

/-- Whatever the settings are besides the path, and whatever is recorded, a mishap in the use
cases behind a request for data sources is answered in the same way with any two texts, and the
text of a failure goes into the reports only. -/
theorem concealed_mishap (h : settings.apiPath = "/api/v1")
    (hu : u = .recorder ∨ u = .service .recorder) :
    ∃ sites, SiteMap.ofSettings? settings = some sites ∧
      ∀ (k : Mishap) (a b : Arrival) (r : Recorder) (text text' : String), a.AtSources →
      b.request = a.request → b.lengthOrder = a.lengthOrder →
      let v := (ill settings u k text).serve sites a (k.recorder text r)
      let v' := (ill settings u k text').serve sites b (k.recorder text' r)
      v.response.replace "x-request-id" b.requestId = v'.response ∧ Conceals a text v := by
  refine ⟨_, SiteMap.ofSettings?_eq_standard h, fun k a b r text text' ha hab horder => ⟨?_, ?_⟩⟩
  · exact serve_veiled ha hab horder rfl (veiled_mishap settings hu k _ a b r text text')
  · exact conceals_serve settings hu k ha r text

theorem concealed_posting :
    ({} : Settings).apiPath = "/api/v1" ∧
      (UseCases.service .recorder = .recorder ∨
        UseCases.service .recorder = .service .recorder) ∧
      ∃ sites, SiteMap.ofSettings? {} = some sites ∧
      let a := posting .nil 1
      let b := { a with freshId := "another" }
      let v := (ill {} (.service .recorder) .internal "no space").serve sites a
        (Mishap.internal.recorder "no space" {})
      let v' := (ill {} (.service .recorder) .internal "no route").serve sites b
        (Mishap.internal.recorder "no route" {})
      a.AtSources ∧ b.request = a.request ∧ b.lengthOrder = a.lengthOrder ∧
      (v.response.replace "x-request-id" b.requestId = v'.response ∧ Conceals a "no space" v) ∧
      v.response.status = 500 := by
  obtain ⟨sites, hs, hc⟩ := concealed_mishap {} rfl (.inr rfl)
  obtain rfl : SiteMap.standard true = sites :=
    Option.some.inj ((SiteMap.ofSettings?_eq_standard rfl).symm.trans hs)
  have ha : (posting .nil 1).AtSources := .inl ⟨rfl, by decide⟩
  exact ⟨rfl, .inr rfl, _, hs, ha, rfl, rfl,
    hc .internal _ _ {} "no space" "no route" ha rfl rfl,
    by decide +kernel⟩

def listHead : Arrival where
  request :=
    { method := "HEAD"
      target := ⟨none, none, "/api/v1/datasource", none⟩
      headers := [("workspaceid", WorkspaceId.nil.text)]
      body := [] }
  freshId := "trial"
  stamp := Fixture.stamp 1

theorem not_masked_listHead :
    SiteMap.ofSettings? {} = some (.standard true) ∧ listHead.AtSources ∧
      let v := (ill {} .recorder .internal "no space").serve (.standard true) listHead
        (Mishap.internal.recorder "no space" {})
      v.response.status = 500 ∧
        ¬ ∃ code, v.response.body =
          (ErrorBody.toJson ⟨code, "Error doing the process", none⟩).text := by
  have ha : listHead.AtSources := .inl ⟨rfl, by decide⟩
  have hbody : ((ill {} .recorder .internal "no space").serve (.standard true) listHead
      (Mishap.internal.recorder "no space" {})).response.body = "" :=
    (conceals_serve {} (.inl rfl) .internal ha {} "no space").noBody rfl
  refine ⟨SiteMap.ofSettings?_eq_standard rfl, ha, by decide +kernel, ?_⟩
  rintro ⟨code, hb⟩
  have hempty : "" = (ErrorBody.toJson ⟨code, "Error doing the process", none⟩).text :=
    hbody.symm.trans hb
  rw [Json.text, eq_comm, String.ofList_eq_empty_iff] at hempty
  cases hempty

end App

end SourceRegistry
