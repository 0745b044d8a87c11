import SourceRegistry.Proofs.Serving.Choices
import SourceRegistry.UseCases.Substitute

/-!
# The shape of errors

An error that clients of data sources receive is a JSON object with a code that stands for its
status, wherever it comes from: the headers, the path, the body, a use case, or a panic. The one
exception is an identifier in the path whose bytes are no text: its refusal is plain text.
`isError_iff` says that there is no other exception, whatever the use cases are.
-/

namespace SourceRegistry

open Http (Request Response)
open SiteMap (sourcesPath)

def ErrorBody.table : List (Nat × String) :=
  [(400, "BAD_REQUEST"), (400, "INVALID_INPUT"), (404, "NOT_FOUND"), (409, "CONFLICT"),
   (422, "VALIDATION_FAILED"), (500, "INTERNAL_ERROR"), (501, "NOT_IMPLEMENTED"),
   (503, "SERVICE_UNAVAILABLE")]

structure Reply.IsError (r : Response) : Prop where
  isJson : r.header? "content-type" = some "application/json"
  body : ∃ e : ErrorBody, (r.status, e.code) ∈ ErrorBody.table ∧ r.body = e.toJson.text

theorem ServiceError.Kind.mem_table (k : Kind) : (k.status, k.code) ∈ ErrorBody.table := by
  cases k <;> decide

theorem ApiError.mem_table (e : ApiError) : (e.status, e.code) ∈ ErrorBody.table := by
  cases e with
  | service e => exact e.kind.mem_table
  | badRequest detail => exact (by decide : (400, "BAD_REQUEST") ∈ ErrorBody.table)
  | validation detail => exact (by decide : (422, "VALIDATION_FAILED") ∈ ErrorBody.table)

/-- The operations that succeed are not answered with errors. -/
theorem Reply.success_status_lt (op : Operation) (answer : op.Answer) :
    (Reply.success op answer).status < 400 := by
  cases op <;> exact of_decide_eq_true rfl

namespace Layer

/-- The layers add their headers behind those of the reply. -/
theorem compress_headers (request : Request) (r : Response) :
    ∃ more, (compress request r).headers = r.headers ++ more := by
  unfold compress
  split
  · cases Http.Coding.preferred request with
    | identity => exact ⟨_, rfl⟩
    | gzip => exact ⟨_, List.append_assoc _ _ _⟩
  · exact ⟨[], (List.append_nil _).symm⟩

theorem dressed_contentType (s : Settings) (a : Arrival) {r : Response} {value : String}
    {rest : List Http.Header} (h : r.headers = ("content-type", value) :: rest) :
    (dressed s a r).header? "content-type" = some value := by
  obtain ⟨more, hmore⟩ := compress_headers a.request r
  have hne : ("content-type" != Extract.requestIdHeader) = true := by decide
  unfold dressed Response.replace Response.header?
  simp only [addHeaders, hmore, h, List.cons_append, List.filter_cons, hne, if_true]
  exact List.lookup_cons_self

end Layer

namespace Reply

theorem IsError.dressed (s : Settings) (a : Arrival) (e : ApiError) :
    IsError (Layer.dressed s a (Reply.error e)) where
  isJson := Layer.dressed_contentType s a rfl
  body := by
    refine ⟨⟨e.code, e.clientMessage, none⟩, ?_, Layer.dressed_body s a _⟩
    rw [Layer.dressed_status]
    exact e.mem_table

theorem IsError.panic (requestId : String) :
    IsError (Reply.panic.replace Extract.requestIdHeader requestId) where
  isJson := List.lookup_cons_self
  body := ⟨⟨"INTERNAL_ERROR", ApiError.maskedMessage, none⟩,
    (by decide : (500, "INTERNAL_ERROR") ∈ ErrorBody.table), rfl⟩

theorem not_isError_plain (s : Settings) (a : Arrival) (status : Nat) (text : String) :
    ¬ IsError (Layer.dressed s a (Reply.plain status text)) := by
  intro h
  have hc : (Layer.dressed s a (Reply.plain status text)).header? "content-type" =
      some "text/plain; charset=utf-8" := Layer.dressed_contentType s a rfl
  exact absurd (hc.symm.trans h.isJson) (by decide)

end Reply

/-- A request in a workspace whose path has bytes that are no text for an identifier. -/
def Arrival.Garbled (a : Arrival) : Prop :=
  (∃ w, a.IsFor w) ∧ ∃ raw : String, '/' ∉ raw.toList ∧
    a.request.target.path = sourcesPath ++ "/" ++ raw ∧ Http.Percent.decode? raw = none

namespace Choice

variable {limit : Nat} {pages : Bool} {a : Arrival}

theorem of_garbled (h : a.Garbled) :
    of limit (.standard pages) a = .unreadable (.badText "id") := by
  obtain ⟨⟨w, hw⟩, raw, hmem, hp, hd⟩ := h
  have hraw : raw ≠ "" := by
    rintro rfl
    exact absurd hd (by decide)
  simp only [of, SiteMap.find?_source pages hraw hmem hp]
  rw [ofItem, hw]
  simp only [Extract.pathText, Extract.decodeAll, hd]
  rfl

theorem garbled_of_unreadable {f : Extract.PathFault} (ha : a.AtSources)
    (h : of limit (.standard pages) a = .unreadable f) : a.Garbled := by
  rcases ha with ⟨hp, -⟩ | ⟨⟨raw, hraw, hmem, hp⟩, -⟩
  · simp only [of, SiteMap.find?_sources pages hp, ofCollection] at h
    repeat' split at h
    all_goals cases h
  · simp only [of, SiteMap.find?_source pages hraw hmem hp] at h
    rw [ofItem] at h
    cases hw : Extract.workspace a.request with
    | error e => rw [hw] at h; cases h
    | ok w =>
      refine ⟨⟨w, hw⟩, raw, hmem, hp, ?_⟩
      cases hd : Http.Percent.decode? raw with
      | none => rfl
      | some text =>
        simp only [hw, Arrival.pathText_single_iff.2 hd] at h
        split at h <;> cases h

/-- No choice takes longer than the use cases. -/
theorem delay_handle_le (app : App σ) (c : Choice) (s : σ) :
    (c.handle app a s).delay ≤ app.useCases.delay := by
  cases c with
  | perform w op =>
    simp only [handle, App.perform]
    split <;> exact Nat.le_refl _
  | refuse e => exact Nat.zero_le _
  | unreadable f => exact Nat.zero_le _

/-- What performs replies with a success or an error. -/
theorem reply_of_perform {app : App σ} {w : WorkspaceId} {op : Operation} {s : σ} {r : Response}
    (h : ((perform w op).handle app a s).ending = .ok r) :
    r.status < 400 ∨ ∃ e, r = Reply.error (.service e) := by
  simp only [handle, App.perform] at h
  split at h
  · cases h
  · next answer _ =>
    cases h
    exact .inl (Reply.success_status_lt op answer)
  · next e _ =>
    cases h
    exact .inr ⟨e, rfl⟩

end Choice

namespace App

/-- The deadline came before the use cases were done, and the response says so. -/
def TimedOut (app : App σ) (r : Response) : Prop :=
  r.status = 408 ∧ Layer.ahead app.settings.timeoutSeconds * 1000 ≤ app.useCases.delay

variable {app : App σ} {a : Arrival} {pages : Bool} {s : σ}

theorem isError_serve_iff (h : a.AtSources) (hm : a.request.method ≠ "HEAD") (s : σ)
    (hs : 400 ≤ (app.serve (.standard pages) a s).response.status)
    (ht : ¬ app.TimedOut (app.serve (.standard pages) a s).response) :
    Reply.IsError (app.serve (.standard pages) a s).response ↔ ¬ a.Garbled := by
  have hsent : ∀ r, a.sent r = r := fun r => if_neg hm
  rcases serve_endings app pages h s with ⟨hl, hv⟩ | ⟨r, he, hv⟩ | ⟨p, he, hv⟩
  · -- a late answer has timed out
    refine absurd ⟨?_, hl.trans (Choice.delay_handle_le app _ s)⟩ ht
    simp only [hv, sending, hsent, Layer.dressed_status]
  · simp only [hv, sending, hsent, Layer.dressed_status] at hs ⊢
    cases hc : Choice.of app.settings.maxBodySize (.standard pages) a with
    | perform w op =>
      rw [hc] at he
      have hg : ¬ a.Garbled := fun hg => nomatch hc.symm.trans (Choice.of_garbled hg)
      rcases Choice.reply_of_perform he with hlt | ⟨e, rfl⟩
      · exact absurd hs (Nat.not_le.2 hlt)
      · exact iff_of_true (.dressed app.settings a _) hg
    | refuse e =>
      rw [hc] at he
      cases he
      have hg : ¬ a.Garbled := fun hg => nomatch hc.symm.trans (Choice.of_garbled hg)
      exact iff_of_true (.dressed app.settings a e) hg
    | unreadable f =>
      rw [hc] at he
      cases he
      exact iff_of_false (Reply.not_isError_plain app.settings a _ _)
        (not_not_intro (Choice.garbled_of_unreadable h hc))
  · simp only [hv, sending, hsent]
    cases hc : Choice.of app.settings.maxBodySize (.standard pages) a with
    | perform w op =>
      have hg : ¬ a.Garbled := fun hg => nomatch hc.symm.trans (Choice.of_garbled hg)
      exact iff_of_true (.panic a.requestId) hg
    | refuse e => rw [hc] at he; cases he
    | unreadable f => rw [hc] at he; cases he

/-- Whatever the settings are besides the path, and whatever the use cases do, an error that is
sent for data sources before the deadline is an error object with a code for its status, unless
the identifier in the path is no text. -/
theorem isError_iff (app : App σ) (h : app.settings.apiPath = "/api/v1") :
    ∃ sites, SiteMap.ofSettings? app.settings = some sites ∧ ∀ a s, a.AtSources →
      a.request.method ≠ "HEAD" → 400 ≤ (app.serve sites a s).response.status →
      ¬ app.TimedOut (app.serve sites a s).response →
      (Reply.IsError (app.serve sites a s).response ↔ ¬ a.Garbled) :=
  ⟨_, SiteMap.ofSettings?_eq_standard h, fun _ s ha hm hs ht => isError_serve_iff ha hm s hs ht⟩

/-- Use cases that panic, with something that is no text. -/
def unsound : App Recorder := ⟨{}, UseCases.panicking .other .recorder⟩

theorem isError_unsound :
    unsound.settings.apiPath = "/api/v1" ∧
      ∃ sites, SiteMap.ofSettings? unsound.settings = some sites ∧
      let a := posting .nil 1
      let r := (unsound.serve sites a {}).response
      a.AtSources ∧ a.request.method ≠ "HEAD" ∧ 400 ≤ r.status ∧ ¬ unsound.TimedOut r ∧
        Reply.IsError r ∧ r.status = 500 := by
  obtain ⟨sites, hs, hi⟩ := isError_iff unsound rfl
  obtain rfl : SiteMap.standard true = sites :=
    Option.some.inj ((SiteMap.ofSettings?_eq_standard rfl).symm.trans hs)
  have ha : (posting .nil 1).AtSources := .inl ⟨rfl, by decide⟩
  have hr : (unsound.serve (.standard true) (posting .nil 1) {}).response.status = 500 := by
    decide +kernel
  have ht : ¬ unsound.TimedOut (unsound.serve (.standard true) (posting .nil 1) {}).response :=
    fun ht => absurd (ht.1.symm.trans hr) (by decide)
  have hg : ¬ (posting .nil 1).Garbled := by
    rintro ⟨-, raw, -, hp, -⟩
    have hl : (posting .nil 1).request.target.path.length = 18 := by decide
    rw [hp, String.length_append, String.length_append] at hl
    have h₁ : sourcesPath.length = 18 := by decide
    have h₂ : "/".length = 1 := by decide
    omega
  have h400 : 400 ≤ (unsound.serve (.standard true) (posting .nil 1) {}).response.status := by
    rw [hr]
    decide
  exact ⟨rfl, _, SiteMap.ofSettings?_eq_standard rfl, ha, by decide, h400, ht,
    (hi _ _ ha (by decide) h400 ht).2 hg, hr⟩

/-- A request for one data source with a byte in the path that is no text. -/
def garbledFinding : Arrival where
  request :=
    { method := "GET"
      target := ⟨none, none, "/api/v1/datasource/%FF", none⟩
      headers := [("workspaceid", WorkspaceId.nil.text)]
      body := [] }
  freshId := "trial"
  stamp := Fixture.stamp 1

theorem not_isError_garbledFinding :
    SiteMap.ofSettings? {} = some (.standard true) ∧
      let r := ((standard {}).serve (.standard true) garbledFinding []).response
      garbledFinding.AtSources ∧ garbledFinding.request.method = "GET" ∧ r.status = 400 ∧
        ¬ (standard {}).TimedOut r ∧ ¬ Reply.IsError r := by
  have ha : garbledFinding.AtSources :=
    .inr ⟨⟨"%FF", by decide, by decide, rfl⟩, by decide⟩
  have hr : ((standard {}).serve (.standard true) garbledFinding []).response.status = 400 := by
    decide +kernel
  have hc : ((standard {}).serve (.standard true) garbledFinding []).response.header?
      "content-type" = some "text/plain; charset=utf-8" := by
    decide +kernel
  exact ⟨SiteMap.ofSettings?_eq_standard rfl, ha, rfl, hr,
    fun ht => absurd (ht.1.symm.trans hr) (by decide),
    fun he => absurd (hc.symm.trans he.isJson) (by decide)⟩

end App

end SourceRegistry
