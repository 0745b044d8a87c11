import SourceRegistry.Proofs.Serving.Errands
import SourceRegistry.Proofs.Serving.Origins
import SourceRegistry.Proofs.Serving.Refusals

/-!
# Who may read a response

A page of an origin that the settings let in may read a response if the response says so in a
header. The layer that adds this header stands around all handlers, the deadline and compression,
and inside the net for panics. So every response has the header, wherever it comes from, except
the one to a request whose use case panics: `admitted_serve`.
-/

namespace SourceRegistry

open Http (Request Response)

/-- The headers of a response that let an origin read it. -/
def Http.Response.grants (r : Response) : List Http.Header :=
  r.headers.filter (·.1 = "access-control-allow-origin")

namespace Http.Response

variable {r : Response} {name value : String}

theorem grants_eq_nil (h : ∀ x ∈ r.headers, x.1 ∈ Layer.headerNames) : r.grants = [] := by
  have ho : "access-control-allow-origin" ∉ Layer.headerNames := by decide
  refine List.filter_eq_nil_iff.2 fun x hx => ?_
  rw [decide_eq_true_eq]
  exact fun hn => ho (hn ▸ h x hx)

theorem grants_append (h : name ≠ "access-control-allow-origin") :
    (r.append name value).grants = r.grants := by
  simp [grants, append, h]

theorem grants_replace (h : name ≠ "access-control-allow-origin") :
    (r.replace name value).grants = r.grants := by
  have hf : ∀ x ∈ r.headers.filter (·.1 = "access-control-allow-origin"), x.1 != name := by
    intro x hx
    have hx := of_decide_eq_true (List.mem_filter.1 hx).2
    simpa [hx] using Ne.symm h
  have hn : [(name, value)].filter (·.1 = "access-control-allow-origin") = [] := by simp [h]
  rw [grants, replace, List.filter_append, hn, List.append_nil, List.filter_comm,
    List.filter_eq_self.2 hf, grants]

theorem grants_addHeaders (headers : List Http.Header) :
    (Layer.addHeaders headers r).grants =
      r.grants ++ headers.filter (·.1 = "access-control-allow-origin") :=
  List.filter_append _ _

theorem grants_compress (request : Request) : (Layer.compress request r).grants = r.grants := by
  have hv : ("vary" : String) ≠ "access-control-allow-origin" := by decide
  have hc : ("content-encoding" : String) ≠ "access-control-allow-origin" := by decide
  unfold Layer.compress
  split
  · cases Http.Coding.preferred request with
    | identity => exact grants_append hv
    | gzip => exact (grants_append hc).trans (grants_append hv)
  · rfl

end Http.Response

namespace Layer

open Http.Response

variable {s : Settings} {a : Arrival} {r : Response}

theorem grants_grantHeaders (s : Settings) (request : Request) :
    (grantHeaders s request).filter (·.1 = "access-control-allow-origin") =
      (Http.Cors.grant s.allowedOrigins (request.header? "origin")).headers := by
  have hg : ∀ x ∈ (Http.Cors.grant s.allowedOrigins (request.header? "origin")).headers,
      decide (x.1 = "access-control-allow-origin") := fun x hx =>
    decide_eq_true (Http.Cors.name_of_mem_grant hx)
  rw [grantHeaders, List.filter_append, List.filter_eq_self.2 hg,
    List.filter_cons_of_neg (by decide), List.filter_nil, List.append_nil]

theorem grants_of_names (h : ∀ x ∈ r.headers, x.1 ∈ Reply.headerNames) : r.grants = [] :=
  grants_eq_nil fun x hx => List.mem_append_left _ (h x hx)

theorem grants_granted (h : ∀ x ∈ r.headers, x.1 ∈ headerNames) (id : String) :
    ((addHeaders (grantHeaders s a.request) r).replace Extract.requestIdHeader id).grants =
      (Http.Cors.grant s.allowedOrigins (a.request.header? "origin")).headers := by
  rw [grants_replace (by decide), grants_addHeaders, grants_grantHeaders, grants_eq_nil h,
    List.nil_append]

theorem grants_dressed (h : ∀ x ∈ r.headers, x.1 ∈ Reply.headerNames) :
    (dressed s a r).grants =
      (Http.Cors.grant s.allowedOrigins (a.request.header? "origin")).headers := by
  rw [dressed, grants_replace (by decide), grants_addHeaders, grants_grantHeaders, grants_compress,
    grants_of_names h, List.nil_append]

end Layer

/-- The settings let in the origin from which a request comes, and `value` tells it so. -/
def Settings.LetsIn (s : Settings) (request : Request) (value : String) : Prop :=
  ∃ origin, request.header? "origin" = some origin ∧ Http.isHeaderValue origin ∧
    (("*" ∈ s.allowedOrigins ∧ value = "*") ∨
      ("*" ∉ s.allowedOrigins ∧ origin ∈ s.allowedOrigins ∧ value = origin))

theorem Settings.LetsIn.headers_grant {s : Settings} {request : Request} {value : String}
    (h : s.LetsIn request value) :
    (Http.Cors.grant s.allowedOrigins (request.header? "origin")).headers =
      [("access-control-allow-origin", value)] := by
  obtain ⟨origin, ho, hv, ⟨hs, rfl⟩ | ⟨hs, hm, rfl⟩⟩ := h
  · rw [Http.Cors.grant, Http.Cors.ofEntries?_of_mem hs]
    rfl
  · have hf : value ∈ s.allowedOrigins.filter Http.isHeaderValue := List.mem_filter.2 ⟨hm, hv⟩
    rw [Http.Cors.grant, Http.Cors.ofEntries?_of_not_mem hs, ho]
    simp only [Http.Cors.Policy.grant, if_pos hf]
    rfl

namespace App

variable (app : App σ) (sites : SiteMap) (a : Arrival) (s : σ)

theorem Way.grants_after {app : App σ} {sites : SiteMap} {a : Arrival} {handle : σ → Handled σ}
    {after : Response → Response} (hw : Way app sites a handle after) (r : Response) :
    (after r).grants = r.grants := by
  cases hw with
  | site hf hm =>
    simp only [Arrival.sent]
    split <;> rfl
  | otherMethod hf hm => exact Http.Response.grants_append (by decide)
  | nowhere hf => rfl

/-- Whatever is asked of whatever use cases: a response lets in the origin that the settings let
in, and says nothing else about origins, wherever it comes from, unless a use case panicked. The
response to a panic is the only one without the header. -/
theorem admitted_serve {value : String} (h : app.settings.LetsIn a.request value) :
    (¬ app.Panics sites a s → (app.serve sites a s).response.grants =
      [("access-control-allow-origin", value)]) ∧
    (app.Panics sites a s → (app.serve sites a s).response.grants = [] ∧
      (app.serve sites a s).response.status = 500) := by
  obtain ⟨handle, after, v, hw, ho, hs⟩ := outcome_serve app sites a s
  rw [hs]
  dsimp only
  rw [hw.grants_after, hw.status_after, ← h.headers_grant, panics_iff app sites, ← hw.eq_errand.1]
  cases ho with
  | preflight hm => exact ⟨fun _ => Layer.grants_granted (by decide) _, fun hp => absurd hm hp.1⟩
  | late hm hl =>
    exact ⟨fun _ => Layer.grants_dressed fun _ hx => absurd hx List.not_mem_nil,
      fun hp => absurd hl hp.2.1⟩
  | reply hm hl he =>
    refine ⟨fun _ => Layer.grants_dressed fun _ hx => name_mem_of_way hw he hx, ?_⟩
    rintro ⟨-, -, p, hp⟩
    cases he.symm.trans hp
  | panic hm hl he =>
    refine ⟨fun hn => absurd ⟨hm, hl, _, he⟩ hn, fun _ => ⟨?_, rfl⟩⟩
    rw [Http.Response.grants_replace (by decide)]
    exact Layer.grants_of_names fun _ hx => Reply.name_mem_of_json hx

/-- A listing that a page of another origin asks for. -/
def crossing : Arrival where
  request :=
    { method := "GET"
      target := ⟨none, none, "/api/v1/datasource", none⟩
      headers := [("workspaceid", WorkspaceId.nil.text), ("origin", "https://a.example")]
      body := [] }
  freshId := "trial"
  stamp := Fixture.stamp 1

theorem admitted_crossing :
    let app := standard { allowedOrigins := ["https://a.example"] }
    app.settings.LetsIn crossing.request "https://a.example" ∧
      ¬ app.Panics (.standard true) crossing [] ∧
      (app.serve (.standard true) crossing []).response.grants =
        [("access-control-allow-origin", "https://a.example")] := by
  intro app
  have hl : app.settings.LetsIn crossing.request "https://a.example" :=
    ⟨_, rfl, by decide, .inr ⟨by decide, by decide, rfl⟩⟩
  have hp : ¬ app.Panics (.standard true) crossing [] := fun ⟨_, _, _, _, _, he⟩ => nomatch he
  exact ⟨hl, hp, (admitted_serve app (.standard true) crossing [] hl).1 hp⟩

/-- A panic is answered with the status of a failure of the use cases, and without the header that
the answer to the failure has. -/
theorem not_admitted_crossing :
    unsound.settings.validate = .ok () ∧
      SiteMap.ofSettings? unsound.settings = some (.standard true) ∧
      unsound.settings.LetsIn crossing.request "*" ∧
      let r := (unsound.serve (.standard true) crossing {}).response
      r.status = 500 ∧ r.header? "access-control-allow-origin" = none := by
  have hr : (unsound.serve (.standard true) crossing {}).response.status = 500 ∧
      (unsound.serve (.standard true) crossing {}).response.header?
        "access-control-allow-origin" = none := by
    decide +kernel
  exact ⟨rfl, SiteMap.ofSettings?_eq_standard rfl, ⟨_, rfl, by decide, .inl ⟨by decide, rfl⟩⟩, hr⟩

end App

end SourceRegistry
