import SourceRegistry.Proofs.Serving.Calls

/-!
# What the layers make of a handler

A handler is late, or it replies, or it panics. For each of these `Layer.all` has an equation that
gives the response, the state and the reports in full. None of them looks at the body of the
request, and a panic leaves its text in the reports only.
-/

namespace SourceRegistry

open Http (Request Response)

theorem Http.Request.header?_eq_head? (r : Request) (name : String) :
    r.header? name = (r.headerValues name).head? := by
  unfold header? headerValues
  induction r.headers with
  | nil => rfl
  | cons h headers ih =>
    obtain ⟨n, value⟩ := h
    by_cases hn : n = name
    · subst hn
      simp
    · have hne : (name == n) = false := beq_false_of_ne (Ne.symm hn)
      simpa [List.lookup_cons, List.filter_cons, hn, hne] using ih

structure Arrival.SameEnvelope (a a' : Arrival) : Prop where
  method : a.request.method = a'.request.method
  headers : ∀ name ∈ [Extract.requestIdHeader, "origin", "accept-encoding"],
    a.request.headerValues name = a'.request.headerValues name
  freshId : a.freshId = a'.freshId

namespace Arrival.SameEnvelope

variable {a a' : Arrival} (h : a.SameEnvelope a')
include h

theorem requestId_eq : a.requestId = a'.requestId := by
  have hid : Extract.requestId? a.request = Extract.requestId? a'.request := by
    unfold Extract.requestId?
    rw [Request.header?_eq_head?, Request.header?_eq_head?, h.headers _ (by decide)]
  rw [Arrival.requestId, Arrival.requestId, hid, h.freshId]

theorem isPreflight_eq : Layer.isPreflight a.request = Layer.isPreflight a'.request := by
  rw [Layer.isPreflight, Layer.isPreflight, h.method]

theorem grantHeaders_eq (settings : Settings) :
    Layer.grantHeaders settings a.request = Layer.grantHeaders settings a'.request := by
  rw [Layer.grantHeaders, Layer.grantHeaders, Request.header?_eq_head?, Request.header?_eq_head?,
    h.headers _ (by decide)]

theorem preferred_eq :
    Http.Coding.preferred a.request = Http.Coding.preferred a'.request := by
  have he : Http.Coding.entries a.request = Http.Coding.entries a'.request := by
    rw [Http.Coding.entries, Http.Coding.entries, h.headers _ (by decide)]
  unfold Http.Coding.preferred Http.Coding.weightOf
  rw [he]

theorem compress_eq : Layer.compress a.request = Layer.compress a'.request := by
  unfold Layer.compress
  rw [h.preferred_eq]

/-- What is sent and left depends on the envelope of a request, and not on the reports of its
handler. -/
theorem all_eq (app : App σ) {handle handle' : σ → Handled σ} {s : σ}
    (hh : { handle s with trace := [] } = { handle' s with trace := [] }) :
    (Layer.all app a handle s).response = (Layer.all app a' handle' s).response ∧
      (Layer.all app a handle s).state = (Layer.all app a' handle' s).state := by
  obtain ⟨hdelay, hending, hstate, -⟩ := Handled.mk.inj hh
  unfold Layer.all Layer.inner Layer.deadline
  rw [h.isPreflight_eq, h.grantHeaders_eq, h.compress_eq, h.requestId_eq, hdelay]
  split
  · exact ⟨rfl, rfl⟩
  · dsimp only
    split
    · exact ⟨rfl, rfl⟩
    · rw [hending, hstate]
      cases (handle' s).ending with
      | ok r => exact ⟨rfl, rfl⟩
      | error p => exact ⟨rfl, rfl⟩

end Arrival.SameEnvelope

/-- Two requests that are the same but for their bodies, and so for the lengths of these. -/
structure Arrival.SameButBody (a a' : Arrival) : Prop where
  method : a.request.method = a'.request.method
  target : a.request.target = a'.request.target
  headers : ∀ name, name ≠ "content-length" →
    a.request.headerValues name = a'.request.headerValues name
  freshId : a.freshId = a'.freshId
  stamp : a.stamp = a'.stamp
  lengthOrder : a.lengthOrder = a'.lengthOrder

namespace Arrival.SameButBody

variable {a a' : Arrival} (h : a.SameButBody a')
include h

theorem header?_eq {name : String} (hn : name ≠ "content-length") :
    a.request.header? name = a'.request.header? name := by
  rw [Request.header?_eq_head?, Request.header?_eq_head?, h.headers name hn]

theorem envelope : a.SameEnvelope a' where
  method := h.method
  headers name hn := h.headers name (by rintro rfl; revert hn; decide)
  freshId := h.freshId

theorem workspace_eq : Extract.workspace a.request = Extract.workspace a'.request := by
  unfold Extract.workspace
  rw [h.header?_eq (by decide)]

theorem context_eq :
    Extract.context a.request a.requestId = Extract.context a'.request a'.requestId := by
  rw [Extract.context, Extract.context, h.workspace_eq, h.envelope.requestId_eq]

theorem announcesJson_eq :
    Extract.announcesJson a.request = Extract.announcesJson a'.request := by
  rw [Extract.announcesJson, Extract.announcesJson, h.header?_eq (by decide)]

end Arrival.SameButBody

namespace Layer

def dressed (s : Settings) (a : Arrival) (r : Response) : Response :=
  (addHeaders (grantHeaders s a.request) (compress a.request r)).replace
    Extract.requestIdHeader a.requestId

/-- The reports of a handler between those of the arrival and of the answer. -/
def framed (a : Arrival) (status : Nat) (trace : List Trace.Entry) : List Trace.Entry :=
  .event (.arrived (label a)) none :: trace ++ [.event (.answered (label a) status) none]

def Late (s : Settings) (h : Handled σ) : Prop := ahead s.timeoutSeconds * 1000 ≤ h.delay

theorem dressed_status (s : Settings) (a : Arrival) (r : Response) :
    (dressed s a r).status = r.status := (compress_status a.request r).1

theorem dressed_body (s : Settings) (a : Arrival) (r : Response) :
    (dressed s a r).body = r.body := (compress_status a.request r).2

section
variable (app : App σ) (a : Arrival) {handle : σ → Handled σ} {s : σ}

theorem all_of_late (hm : a.request.method ≠ "OPTIONS") (hl : Late app.settings (handle s)) :
    all app a handle s = ⟨dressed app.settings a { status := 408 }, s, framed a 408 []⟩ := by
  have hp : ¬ isPreflight a.request := by simpa [isPreflight] using hm
  have hd : deadline app.settings.timeoutSeconds s (handle s) =
      ⟨ahead app.settings.timeoutSeconds * 1000, .ok { status := 408 }, s, []⟩ := if_pos hl
  unfold all inner
  rw [if_neg hp, hd]
  rfl

theorem deadline_of_not_late (hl : ¬ Late app.settings (handle s)) :
    deadline app.settings.timeoutSeconds s (handle s) = handle s := if_neg hl

theorem all_of_reply (hm : a.request.method ≠ "OPTIONS") (hl : ¬ Late app.settings (handle s))
    {r : Response} (h : (handle s).ending = .ok r) :
    all app a handle s =
      ⟨dressed app.settings a r, (handle s).state, framed a r.status (handle s).trace⟩ := by
  have hp : ¬ isPreflight a.request := by simpa [isPreflight] using hm
  unfold all inner
  rw [if_neg hp, deadline_of_not_late app hl, ← dressed_status app.settings a r]
  simp only [h]
  rfl

theorem all_of_panic (hm : a.request.method ≠ "OPTIONS") (hl : ¬ Late app.settings (handle s))
    {p : Panic} (h : (handle s).ending = .error p) :
    all app a handle s =
      ⟨Reply.panic.replace Extract.requestIdHeader a.requestId, (handle s).state,
        framed a 500 ((handle s).trace ++ [.event (.panicked p.details) none])⟩ := by
  have hp : ¬ isPreflight a.request := by simpa [isPreflight] using hm
  unfold all inner
  rw [if_neg hp, deadline_of_not_late app hl]
  simp only [h]
  rfl

end

end Layer

end SourceRegistry
