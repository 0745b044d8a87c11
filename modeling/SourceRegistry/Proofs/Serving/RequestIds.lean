import SourceRegistry.Proofs.Serving.Outcomes
import SourceRegistry.Proofs.Text.Space

/-!
# One identifier for a request

A request goes by the identifier that its client gave it, or else by a fresh one. It is settled
before anything else happens and stands in the response, in the reports, in the spans of the use
cases and in the reply where there is nothing. `identified_serve` says that all of these agree,
for every request and however it ends.
-/

namespace SourceRegistry

open Http (Request Response)

/-- A request goes by the first identifier that its client gave it, without the white space around
it, if that is plain text and not blank, and else by the fresh one. -/
def Arrival.GoesBy (a : Arrival) (id : String) : Prop :=
  (∃ raw, a.request.header? "x-request-id" = some raw ∧ Http.isPlain raw ∧ Text.trim raw ≠ "" ∧
    id = Text.trim raw) ∨
  (∀ raw, a.request.header? "x-request-id" = some raw → Http.isPlain raw → Text.trim raw = "") ∧
    id = a.freshId

theorem Arrival.goesBy_iff {a : Arrival} {id : String} : a.GoesBy id ↔ id = a.requestId := by
  unfold GoesBy requestId Extract.requestId? Extract.requestIdHeader
  cases a.request.header? "x-request-id" with
  | none => simp
  | some raw =>
    by_cases hp : Http.isPlain raw
    · by_cases ht : Text.trim raw = ""
      · simp [hp, ht]
      · simp [hp, ht]
    · simp [hp]

theorem Http.isHeaderValue_trim {s : String} (h : isPlain s) : isHeaderValue (Text.trim s) := by
  refine List.all_eq_true.2 fun c hc => ?_
  have hsub : List.Sublist (Text.trim s).toList s.toList := by
    rw [Text.toList_trim]
    exact (List.rdropWhile_prefix _ _).sublist.trans (List.dropWhile_suffix _).sublist
  have hplain := List.all_eq_true.1 h c (hsub.subset hc)
  simp only [isPlainChar, isValueChar, Bool.or_eq_true, Bool.and_eq_true,
    decide_eq_true_eq] at hplain ⊢
  exact hplain.imp_right fun ⟨hge, hlt⟩ => ⟨hge, Nat.ne_of_lt hlt⟩

/-- An identifier can always be sent as a header. -/
theorem Arrival.isHeaderValue_requestId {a : Arrival} (h : Http.isHeaderValue a.freshId) :
    Http.isHeaderValue a.requestId := by
  rcases goesBy_iff.2 (rfl : a.requestId = a.requestId) with ⟨raw, -, hp, -, he⟩ | ⟨-, he⟩
  · rw [he]
    exact Http.isHeaderValue_trim hp
  · rw [he]
    exact h

def Trace.Entry.span? : Trace.Entry → Option Trace.Span
  | .event _ span => span
  | .closed span => some span

/-- The spans of the service are those of its contexts. -/
theorem UseCases.correlation_of_service {r : Repository σ} {ctx : Context} {stamp : Stamp}
    {op : Operation} {s : σ} {x : Trace.Entry} {span : Trace.Span}
    (hx : x ∈ ((service r).perform ctx stamp op s).trace) (hspan : x.span? = some span) :
    span.correlation = ctx.correlation := by
  simp only [service, List.mem_append, List.mem_map, List.mem_singleton] at hx
  rcases hx with ⟨e, -, rfl⟩ | rfl
  · cases hspan; rfl
  · cases hspan; rfl

namespace App

variable {app : App σ} {a : Arrival} {s : σ} {x : Trace.Entry} {span : Trace.Span}

/-- A use case that is called for a request has reported an entry with a span. -/
def Called (app : App σ) (a : Arrival) (s : σ) (x : Trace.Entry) : Prop :=
  ∃ ctx op, ctx.correlation = a.requestId ∧ x ∈ (app.useCases.perform ctx a.stamp op s).trace

theorem called_of_choice {c : Choice} (hx : x ∈ (c.handle app a s).trace)
    (hspan : x.span? = some span) : app.Called a s x := by
  cases c with
  | perform w op =>
    refine ⟨⟨w, a.requestId⟩, op, rfl, ?_⟩
    simp only [Choice.handle, perform] at hx
    split at hx
    · simpa using hx
    · simpa using hx
    · rcases List.mem_append.1 hx with hx | hx
      · exact hx
      · rw [List.mem_singleton.1 hx] at hspan
        cases hspan
  | refuse e =>
    rw [List.mem_singleton.1 hx] at hspan
    cases hspan
  | unreadable f => cases hx

def LeadsToSources (sites : SiteMap) (a : Arrival) : Prop :=
  ∃ site values, sites.find? a.request.target.path = some (site, values) ∧
    (site = .collection ∨ site = .item)

theorem called_of_way {sites : SiteMap} {handle : σ → Handled σ} {after : Response → Response}
    (hw : Way app sites a handle after) (hl : LeadsToSources sites a) (hx : x ∈ (handle s).trace)
    (hspan : x.span? = some span) : app.Called a s x := by
  cases hw with
  | site hf hm =>
    obtain ⟨site, values, hf', rfl | rfl⟩ := hl
    · cases hf.symm.trans hf'
      rw [handleAt, Choice.handle_ofCollection] at hx
      exact called_of_choice hx hspan
    · cases hf.symm.trans hf'
      rw [handleAt, Choice.handle_ofItem] at hx
      exact called_of_choice hx hspan
  | otherMethod hf hm => cases hx
  | nowhere hf =>
    rw [List.mem_singleton.1 hx] at hspan
    cases hspan

end App

namespace Layer

variable {app : App σ} {a : Arrival} {handle : σ → Handled σ} {s : σ} {v : Served σ}

theorem filter_replace (r : Response) (name value : String) :
    (r.replace name value).headers.filter (·.1 = name) = [(name, value)] := by
  simp [Response.replace, List.filter_append, List.filter_filter]

theorem Outcome.header (h : Outcome app a handle s v) :
    v.response.headers.filter (·.1 = "x-request-id") = [("x-request-id", a.requestId)] := by
  cases h with
  | preflight _ => exact filter_replace _ _ _
  | late _ _ => exact filter_replace _ _ _
  | reply _ _ _ => exact filter_replace _ _ _
  | panic _ _ _ => exact filter_replace _ _ _

theorem late_iff_of_no_delay {h : Handled σ} (hd : h.delay = 0) :
    Late app.settings h ↔ app.settings.timeoutSeconds = 0 := by
  unfold Late ahead
  rw [hd]
  split
  · omega
  · next hf =>
    refine iff_of_false (by decide) fun ht => hf ?_
    rw [ht]
    decide

theorem Outcome.trace (h : Outcome app a handle s v) :
    ∃ between, v.trace = framed a v.response.status between ∧
      ∀ x ∈ between, x ∈ (handle s).trace ∨ x.span? = none := by
  cases h with
  | preflight _ => exact ⟨[], rfl, fun _ hx => by cases hx⟩
  | late _ _ => exact ⟨[], by rw [dressed_status], fun _ hx => by cases hx⟩
  | reply _ _ _ => exact ⟨_, by rw [dressed_status], fun _ hx => .inl hx⟩
  | panic _ _ _ =>
    refine ⟨_, rfl, fun x hx => ?_⟩
    rcases List.mem_append.1 hx with hx | hx
    · exact .inl hx
    · rw [List.mem_singleton.1 hx]
      exact .inr rfl

end Layer

namespace App

/-- Wherever a serving names its request, it is by the same identifier. -/
structure Identified (app : App σ) (sites : SiteMap) (a : Arrival) (s : σ) (v : Served σ)
    (id : String) : Prop where
  header : v.response.headers.filter (·.1 = "x-request-id") = [("x-request-id", id)]
  sendable : Http.isHeaderValue a.freshId → Http.isHeaderValue id
  reports : ∃ between, v.trace =
    .event (.arrived ⟨id, a.request.method, a.request.target.text⟩) none :: between ++
      [.event (.answered ⟨id, a.request.method, a.request.target.text⟩ v.response.status) none]
  calls : LeadsToSources sites a → ∀ x ∈ v.trace, ∀ span, x.span? = some span → ∃ ctx op,
    ctx.correlation = id ∧ x ∈ (app.useCases.perform ctx a.stamp op s).trace
  spans : LeadsToSources sites a → ∀ r : Repository σ,
    app.useCases.perform = (UseCases.service r).perform →
      ∀ x ∈ v.trace, ∀ span, x.span? = some span → span.correlation = id
  noRoute : sites.find? a.request.target.path = none →
    (v.response.status = 404 ↔
      a.request.method ≠ "OPTIONS" ∧ app.settings.timeoutSeconds ≠ 0) ∧
    (v.response.status = 404 → v.response.body =
      (ErrorBody.toJson ⟨"NOT_FOUND", "No route for " ++ a.request.target.path, some id⟩).text)

variable (app : App σ) (sites : SiteMap) (a : Arrival) (s : σ)

theorem called_serve (hl : LeadsToSources sites a) {x : Trace.Entry} {span : Trace.Span}
    (hx : x ∈ (app.serve sites a s).trace) (hspan : x.span? = some span) : app.Called a s x := by
  obtain ⟨handle, after, v, hw, ho, hs⟩ := outcome_serve app sites a s
  obtain ⟨between, hv, hb⟩ := ho.trace
  rw [hs] at hx
  replace hx : x ∈ Layer.framed a v.response.status between := hv ▸ hx
  simp only [Layer.framed, List.mem_append, List.mem_cons, List.not_mem_nil, or_false] at hx
  rcases hx with (rfl | hx) | rfl
  · cases hspan
  · rcases hb x hx with hh | hn
    · exact called_of_way hw hl hh hspan
    · rw [hn] at hspan
      cases hspan
  · cases hspan

theorem header_serve : (app.serve sites a s).response.headers.filter (·.1 = "x-request-id") =
    [("x-request-id", a.requestId)] := by
  obtain ⟨handle, after, v, hw, ho, hs⟩ := outcome_serve app sites a s
  have hv := ho.header
  rw [hs]
  cases hw with
  | site hf hm =>
    simp only [Arrival.sent]
    split
    · exact hv
    · exact hv
  | otherMethod hf hm =>
    simp only [Response.append, List.filter_append, hv]
    rfl
  | nowhere hf => exact hv

theorem reports_serve : ∃ between, (app.serve sites a s).trace =
    Layer.framed a (app.serve sites a s).response.status between := by
  obtain ⟨handle, after, v, hw, ho, hs⟩ := outcome_serve app sites a s
  obtain ⟨between, hv, -⟩ := ho.trace
  refine ⟨between, ?_⟩
  rw [hs]
  cases hw with
  | site hf hm => rw [sent_status]; exact hv
  | otherMethod hf hm => exact hv
  | nowhere hf => exact hv

/-- A request to nowhere is told so, unless it only asks which requests are allowed or there is no
time for any answer. -/
theorem noRoute_serve (hf : sites.find? a.request.target.path = none) :
    ((app.serve sites a s).response.status = 404 ↔
      a.request.method ≠ "OPTIONS" ∧ app.settings.timeoutSeconds ≠ 0) ∧
    ((app.serve sites a s).response.status = 404 → (app.serve sites a s).response.body =
      (Reply.noRoute a.request.target.path (some a.requestId)).body) := by
  have hlate : Layer.Late app.settings (handleNowhere a s) ↔ app.settings.timeoutSeconds = 0 :=
    Layer.late_iff_of_no_delay rfl
  have ho := Layer.outcome_all app a (handleNowhere a) s
  have hall : app.serve sites a s = Layer.all app a (handleNowhere a) s := by
    simp only [serve, hf]
  rw [hall]
  generalize Layer.all app a (handleNowhere a) s = v at ho
  cases ho with
  | preflight hm =>
    have hs : ¬ (200 : Nat) = 404 := by decide
    exact ⟨iff_of_false hs fun h => h.1 hm, fun h => absurd h hs⟩
  | late hm hl =>
    have hs : ¬ (Layer.dressed app.settings a { status := 408 }).status = 404 := by
      rw [Layer.dressed_status]
      decide
    exact ⟨iff_of_false hs fun h => h.2 (hlate.1 hl), fun h => absurd h hs⟩
  | reply hm hl he =>
    cases he
    refine ⟨iff_of_true (Layer.dressed_status _ _ _) ⟨hm, fun ht => hl (hlate.2 ht)⟩, fun _ => ?_⟩
    exact Layer.dressed_body _ _ _
  | panic hm hl he => cases he

/-- Whatever is asked of whatever use cases and however it ends, the response, the reports, the
spans of the service and the reply where there is nothing name the request by one identifier. -/
theorem identified_serve : ∃ id, (∀ other, a.GoesBy other ↔ other = id) ∧
    Identified app sites a s (app.serve sites a s) id := by
  refine ⟨a.requestId, fun _ => Arrival.goesBy_iff, ?_⟩
  have hcalled : LeadsToSources sites a → ∀ x ∈ (app.serve sites a s).trace, ∀ span,
      x.span? = some span → app.Called a s x :=
    fun hl x hx span hspan => called_serve app sites a s hl hx hspan
  constructor
  case header => exact header_serve app sites a s
  case sendable => exact Arrival.isHeaderValue_requestId
  case reports => exact reports_serve app sites a s
  case calls => exact hcalled
  case spans =>
    intro hl r hr x hx span hspan
    obtain ⟨ctx, op, hctx, hmem⟩ := hcalled hl x hx span hspan
    rw [hr] at hmem
    exact (UseCases.correlation_of_service hmem hspan).trans hctx
  case noRoute => exact noRoute_serve app sites a s

end App

end SourceRegistry
