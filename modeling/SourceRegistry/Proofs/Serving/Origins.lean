import SourceRegistry.Proofs.Serving.Outcomes

/-!
# Which origins are let in

A response names an origin only if the layer for origins has added the header, and that layer
follows a policy made of the settings alone. `grants_serve` says what the header can be, for every
request and however it ends.
-/

namespace SourceRegistry

open Http (Request Response)

namespace Http.Cors

theorem ofEntries?_of_mem {entries : List String} (h : "*" ∈ entries) :
    Policy.ofEntries? entries = some .everyone := if_pos h

theorem ofEntries?_of_not_mem {entries : List String} (h : "*" ∉ entries) :
    Policy.ofEntries? entries = some (.listed (entries.filter isHeaderValue)) := by
  have hf : "*" ∉ entries.filter isHeaderValue := fun hm => h (List.mem_filter.1 hm).1
  rw [Policy.ofEntries?, if_neg h, Policy.ofOrigins?, if_neg hf]

theorem isSome_ofEntries? (entries : List String) : (Policy.ofEntries? entries).isSome := by
  by_cases h : "*" ∈ entries
  · rw [ofEntries?_of_mem h]; rfl
  · rw [ofEntries?_of_not_mem h]; rfl

theorem ofEntries?_filter (entries : List String) :
    Policy.ofEntries? (entries.filter isHeaderValue) = Policy.ofEntries? entries := by
  by_cases h : "*" ∈ entries
  · rw [ofEntries?_of_mem h, ofEntries?_of_mem (List.mem_filter.2 ⟨h, by decide⟩)]
  · have hf : "*" ∉ entries.filter isHeaderValue := fun hm => h (List.mem_filter.1 hm).1
    rw [ofEntries?_of_not_mem h, ofEntries?_of_not_mem hf, List.filter_filter]
    simp

variable {allowed : List String} {origin : Option String} {h : Header}

theorem eq_of_mem_grant (hs : "*" ∈ allowed) (hh : h ∈ (grant allowed origin).headers) :
    h = ("access-control-allow-origin", "*") := by
  rw [grant, ofEntries?_of_mem hs] at hh
  exact List.mem_singleton.1 hh

theorem listed_of_mem_grant (hs : "*" ∉ allowed) (hh : h ∈ (grant allowed origin).headers) :
    h.1 = "access-control-allow-origin" ∧ origin = some h.2 ∧ h.2 ∈ allowed ∧
      isHeaderValue h.2 := by
  rw [grant, ofEntries?_of_not_mem hs] at hh
  cases origin with
  | none => cases hh
  | some o =>
    by_cases ho : o ∈ allowed.filter isHeaderValue
    · simp only [Policy.grant, if_pos ho] at hh
      obtain rfl := List.mem_singleton.1 hh
      exact ⟨rfl, rfl, (List.mem_filter.1 ho).1, (List.mem_filter.1 ho).2⟩
    · simp only [Policy.grant, if_neg ho] at hh
      cases hh

theorem name_of_mem_grant (hh : h ∈ (grant allowed origin).headers) :
    h.1 = "access-control-allow-origin" := by
  by_cases hs : "*" ∈ allowed
  · rw [eq_of_mem_grant hs hh]
  · exact (listed_of_mem_grant hs hh).1

end Http.Cors

namespace Layer

/-- The headers of all responses that no grant makes. -/
def headerNames : List String :=
  Reply.headerNames ++ ["vary", "content-encoding", "access-control-allow-methods",
    "access-control-allow-headers", Extract.requestIdHeader, "allow"]

/-- A header of a response that is a grant or has nothing to do with grants. -/
def Known (s : Settings) (request : Request) (h : Http.Header) : Prop :=
  h ∈ (Http.Cors.grant s.allowedOrigins (request.header? "origin")).headers ∨ h.1 ∈ headerNames

variable {s : Settings} {request : Request} {r : Response} {h : Http.Header}

theorem known_of_name (hh : h.1 ∈ Reply.headerNames) : Known s request h :=
  .inr (List.mem_append_left _ hh)

theorem known_of_compress (hr : ∀ h ∈ r.headers, h.1 ∈ Reply.headerNames)
    (hh : h ∈ (compress request r).headers) : Known s request h := by
  have hv : Known s request ("vary", "accept-encoding") := .inr (by decide)
  have hc : Known s request ("content-encoding", "gzip") := .inr (by decide)
  unfold compress at hh
  split at hh
  · cases hp : Http.Coding.preferred request with
    | identity =>
      simp only [hp, Response.append, List.mem_append, List.mem_singleton] at hh
      rcases hh with hh | rfl
      · exact known_of_name (hr h hh)
      · exact hv
    | gzip =>
      simp only [hp, Response.append, List.mem_append, List.mem_singleton] at hh
      rcases hh with (hh | rfl) | rfl
      · exact known_of_name (hr h hh)
      · exact hv
      · exact hc
  · exact known_of_name (hr h hh)

theorem known_of_grantHeaders (hr : ∀ h ∈ r.headers, Known s request h)
    (hh : h ∈ (addHeaders (grantHeaders s request) r).headers) : Known s request h := by
  simp only [addHeaders, grantHeaders, List.mem_append, List.mem_singleton] at hh
  rcases hh with hh | hh | rfl
  · exact hr h hh
  · exact .inl hh
  · exact .inr (by decide)

theorem known_of_replace (hr : ∀ h ∈ r.headers, Known s request h) {id : String}
    (hh : h ∈ (r.replace Extract.requestIdHeader id).headers) : Known s request h := by
  rcases List.mem_append.1 hh with hh | hh
  · exact hr h (List.mem_filter.1 hh).1
  · rw [List.mem_singleton.1 hh]
    exact .inr (by decide : Extract.requestIdHeader ∈ headerNames)

theorem known_of_dressed {a : Arrival} (hr : ∀ h ∈ r.headers, h.1 ∈ Reply.headerNames)
    (hh : h ∈ (dressed s a r).headers) : Known s a.request h :=
  known_of_replace (fun _ => known_of_grantHeaders fun _ => known_of_compress hr) hh

theorem Outcome.known {app : App σ} {a : Arrival} {handle : σ → Handled σ} {t : σ} {v : Served σ}
    (ho : Outcome app a handle t v)
    (hn : ∀ r, (handle t).ending = .ok r → ∀ h ∈ r.headers, h.1 ∈ Reply.headerNames)
    (hh : h ∈ v.response.headers) : Known app.settings a.request h := by
  cases ho with
  | preflight _ =>
    refine known_of_replace (fun _ => known_of_grantHeaders fun h hp => ?_) hh
    simp only [Http.Cors.preflight, List.mem_cons, List.not_mem_nil, or_false] at hp
    rcases hp with rfl | rfl
    · exact .inr (by decide)
    · exact .inr (by decide)
  | late _ _ => exact known_of_dressed (fun _ hp => by cases hp) hh
  | reply _ _ he => exact known_of_dressed (hn _ he) hh
  | panic _ _ _ =>
    exact known_of_replace (fun _ hp => known_of_name (Reply.name_mem_of_json hp)) hh

end Layer

namespace App

/-- What a response grants, however the request ended: to everyone if the settings have the entry
`*`, and else to the origin that asked, if the settings name it. -/
structure Grants (s : Settings) (request : Request) (r : Response) : Prop where
  everyone : "*" ∈ s.allowedOrigins → ∀ value,
    ("access-control-allow-origin", value) ∈ r.headers → value = "*"
  named : "*" ∉ s.allowedOrigins → ∀ value, ("access-control-allow-origin", value) ∈ r.headers →
    request.header? "origin" = some value ∧ value ∈ s.allowedOrigins ∧ Http.isHeaderValue value
  noCredentials : ∀ value, ("access-control-allow-credentials", value) ∉ r.headers

variable (app : App σ) (sites : SiteMap) (a : Arrival) (s : σ)

theorem known_serve {h : Http.Header} (hh : h ∈ (app.serve sites a s).response.headers) :
    Layer.Known app.settings a.request h := by
  obtain ⟨handle, after, v, hw, ho, hs⟩ := outcome_serve app sites a s
  rw [hs] at hh
  have hk : ∀ {h}, h ∈ v.response.headers → Layer.Known app.settings a.request h :=
    ho.known fun _ he _ => name_mem_of_way hw he
  cases hw with
  | site hf hm =>
    refine hk ?_
    revert hh
    simp only [Arrival.sent]
    split
    · exact id
    · exact id
  | otherMethod hf hm =>
    rcases List.mem_append.1 hh with hh | hh
    · exact hk hh
    · rw [List.mem_singleton.1 hh]
      exact .inr (by decide : "allow" ∈ Layer.headerNames)
  | nowhere hf => exact hk hh

def sendable (app : App σ) : App σ :=
  { app with settings :=
    { app.settings with
      allowedOrigins := app.settings.allowedOrigins.filter Http.isHeaderValue } }

theorem grantHeaders_sendable (request : Request) :
    Layer.grantHeaders app.sendable.settings request =
      Layer.grantHeaders app.settings request := by
  simp only [Layer.grantHeaders, sendable, Http.Cors.grant, Http.Cors.ofEntries?_filter]

theorem all_sendable (handle : σ → Handled σ) :
    Layer.all app.sendable a handle s = Layer.all app a handle s := by
  unfold Layer.all Layer.inner
  rw [grantHeaders_sendable]
  rfl

/-- Entries that cannot be sent make no difference to any request. -/
theorem serve_sendable : app.sendable.serve sites a s = app.serve sites a s := by
  have hh : ∀ site values, app.sendable.handleAt site values a = app.handleAt site values a := by
    intro site values
    cases site <;> rfl
  unfold serve serveAt
  simp only [hh, all_sendable]

/-- Whatever is asked of whatever use cases and however it ends, no origin is let in that the
settings do not name, and none with its credentials; entries that cannot be sent change nothing,
and the policy can always be made. -/
theorem grants_serve :
    Grants app.settings a.request (app.serve sites a s).response ∧
      app.sendable.serve sites a s = app.serve sites a s ∧
      (Http.Cors.Policy.ofEntries? app.settings.allowedOrigins).isSome := by
  have horigin : "access-control-allow-origin" ∉ Layer.headerNames := by decide
  have hcredentials : "access-control-allow-credentials" ∉ Layer.headerNames := by decide
  refine ⟨⟨fun hs value hh => ?_, fun hs value hh => ?_, fun value hh => ?_⟩,
    serve_sendable app sites a s, Http.Cors.isSome_ofEntries? _⟩
  · rcases known_serve app sites a s hh with hg | hn
    · exact congrArg (·.2) (Http.Cors.eq_of_mem_grant hs hg)
    · exact absurd hn horigin
  · rcases known_serve app sites a s hh with hg | hn
    · exact (Http.Cors.listed_of_mem_grant hs hg).2
    · exact absurd hn horigin
  · rcases known_serve app sites a s hh with hg | hn
    · exact absurd (Http.Cors.name_of_mem_grant hg)
        (by decide : "access-control-allow-credentials" ≠ "access-control-allow-origin")
    · exact absurd hn hcredentials

end App

end SourceRegistry
