import SourceRegistry.Fixture
import SourceRegistry.Proofs.Catalogue.Isolation
import SourceRegistry.Proofs.Catalogue.Refinement
import SourceRegistry.Proofs.Serving.Requests

/-!
# Workspaces do not see each other

A workspace is served as if no other workspace sent requests: without those of the others its own
are answered alike, and it ends up with the same data sources.
-/

namespace SourceRegistry

namespace Arrival

def IsFor (w : WorkspaceId) (a : Arrival) : Prop := Extract.workspace a.request = .ok w

instance (w : WorkspaceId) (a : Arrival) : Decidable (a.IsFor w) :=
  inferInstanceAs (Decidable (_ = _))

/-- The identifier that a request gives away, if it creates a data source. -/
def newId? (a : Arrival) : Option DataSourceId :=
  if a.request.method = "POST" then some a.stamp.id else none

variable {a : Arrival} {ctx : Context} {op : Operation}

theorem Asks.isFor (h : a.Asks ctx op) : a.IsFor ctx.workspace := by
  have hc := h.1
  rw [Extract.context] at hc
  rw [IsFor]
  cases hw : Extract.workspace a.request with
  | error e => rw [hw] at hc; cases hc
  | ok w => rw [hw] at hc; cases hc; rfl

/-- The job of a request gives no other identifier away than the request. -/
theorem Asks.newId? (h : a.Asks ctx op) :
    List.Sublist (Job.mk ctx a.stamp op).newId?.toList a.newId?.toList := by
  cases op with
  | create draft =>
    rw [Arrival.newId?, if_pos (h.2 draft rfl)]
    exact .refl _
  | _ => exact List.nil_sublist _

end Arrival

namespace App

open Catalogue (Distinct)

variable (settings : Settings) (sites : SiteMap) {a : Arrival} {s t : Store} {w : WorkspaceId}

def answerReply (op : Operation) : Except ServiceError op.Answer → Http.Response
  | .ok answer => Reply.success op answer
  | .error e => Reply.error (.service e)

theorem standard_perform {ctx : Context} {stamp : Stamp} {op : Operation}
    (h : Distinct s (Job.mk ctx stamp op).newId?.toList) :
    ∃ trace, (standard settings).perform ctx stamp op s =
      ⟨0, .ok (answerReply op (Catalogue.perform ctx stamp op s).1),
        (Catalogue.perform ctx stamp op s).2, trace⟩ := by
  obtain ⟨events, he⟩ := Service.run_eq_catalogue h
  simp only [perform, standard, UseCases.service, he]
  cases (Catalogue.perform ctx stamp op s).1 with
  | ok answer => exact ⟨_, rfl⟩
  | error e => exact ⟨_, rfl⟩

theorem standard_ready (a : Arrival) (s : Store) :
    ∃ trace, (standard settings).ready a s =
      ⟨0, .ok (Reply.json 200 (Readiness.toJson ⟨true, true⟩)), s, trace⟩ :=
  ⟨_, rfl⟩

/-- A request leaves identifiers unused but the one that it gives away. -/
theorem distinct_serve {rest : List DataSourceId} (h : Distinct s (a.newId?.toList ++ rest)) :
    Distinct ((standard settings).serve sites a s).state rest := by
  have hs : Distinct s rest := h.sublist (List.sublist_append_right _ _)
  refine serve_state (T := (Distinct · rest)) sites hs ?_ fun ctx op ha => ?_
  · obtain ⟨trace, he⟩ := standard_ready settings a s
    rw [he]
    exact hs
  · have hj : Distinct s ((Job.mk ctx a.stamp op).newId?.toList ++ rest) :=
      h.sublist (ha.newId?.append_right _)
    obtain ⟨trace, he⟩ := standard_perform settings (hj.sublist (List.sublist_append_left _ _))
    rw [he]
    exact hj.perform

/-- A request of another workspace, or of none, changes nothing for `w`. -/
theorem ofWorkspace_serve (hw : ¬ a.IsFor w) (h : Distinct s a.newId?.toList) :
    ((standard settings).serve sites a s).state.ofWorkspace w = s.ofWorkspace w := by
  refine serve_state (T := (Store.ofWorkspace · w = s.ofWorkspace w)) sites rfl ?_
    fun ctx op ha => ?_
  · obtain ⟨trace, he⟩ := standard_ready settings a s
    rw [he]
  · have hne : ctx.workspace ≠ w := by
      rintro rfl
      exact hw ha.isFor
    obtain ⟨trace, he⟩ := standard_perform settings (h.sublist ha.newId?)
    rw [he]
    exact Catalogue.ofWorkspace_perform_of_ne ctx a.stamp op s hne

/-- A request of `w` is answered alike wherever `w` has the same data sources. -/
theorem serve_own (hw : a.IsFor w) (hs : Distinct s a.newId?.toList)
    (ht : Distinct t a.newId?.toList) (hst : s.ofWorkspace w = t.ofWorkspace w) :
    Served.Alike (fun s t => s.ofWorkspace w = t.ofWorkspace w)
      ((standard settings).serve sites a s) ((standard settings).serve sites a t) := by
  refine serve_alike sites hst ?_ fun ctx op ha => ?_
  · obtain ⟨trace, he⟩ := standard_ready settings a s
    obtain ⟨trace', he'⟩ := standard_ready settings a t
    rw [he, he']
    exact ⟨rfl, rfl, hst⟩
  · have hwc : w = ctx.workspace := by
      have hc := ha.isFor
      rw [Arrival.IsFor, hw] at hc
      exact Except.ok.inj hc
    subst hwc
    obtain ⟨ha₁, ha₂⟩ := Catalogue.perform_congr ctx a.stamp op hst
    obtain ⟨trace, he⟩ := standard_perform settings (hs.sublist ha.newId?)
    obtain ⟨trace', he'⟩ := standard_perform settings (ht.sublist ha.newId?)
    rw [he, he', ha₁]
    exact ⟨rfl, rfl, ha₂⟩

/-- The responses to the requests of a workspace among those to all requests. -/
def responsesFor (w : WorkspaceId) (arrivals : List Arrival) (responses : List Http.Response) :
    List Http.Response :=
  ((arrivals.zip responses).filter fun (a, _) => a.IsFor w).map (·.2)

theorem serveAll_own_from {arrivals : List Arrival}
    (hs : Distinct s (arrivals.filterMap (·.newId?)))
    (ht : Distinct t ((arrivals.filter (·.IsFor w)).filterMap (·.newId?)))
    (hst : s.ofWorkspace w = t.ofWorkspace w) :
    let all := (standard settings).serveAll sites arrivals s
    let own := (standard settings).serveAll sites (arrivals.filter (·.IsFor w)) t
    own.1 = responsesFor w arrivals all.1 ∧ own.2.ofWorkspace w = all.2.ofWorkspace w := by
  induction arrivals generalizing s t with
  | nil => exact ⟨rfl, hst.symm⟩
  | cons a rest ih =>
    rw [filterMap_cons_toList] at hs
    have hsa := hs.sublist (List.sublist_append_left _ _)
    by_cases hw : a.IsFor w
    · rw [List.filter_cons_of_pos (by simpa using hw), filterMap_cons_toList] at ht
      have hta := ht.sublist (List.sublist_append_left _ _)
      obtain ⟨hr, hst'⟩ := serve_own settings sites hw hsa hta hst
      have ⟨hl, hf⟩ := ih (distinct_serve settings sites hs) (distinct_serve settings sites ht) hst'
      rw [List.filter_cons_of_pos (by simpa using hw)]
      refine ⟨?_, hf⟩
      simp only [serveAll, responsesFor] at hl ⊢
      rw [List.zip_cons_cons, List.filter_cons_of_pos (by simpa using hw), List.map_cons, hl, hr]
    · rw [List.filter_cons_of_neg (by simpa using hw)] at ht ⊢
      have hst' := (ofWorkspace_serve settings sites hw hsa).trans hst
      have ⟨hl, hf⟩ := ih (distinct_serve settings sites hs) ht hst'
      refine ⟨?_, hf⟩
      simp only [serveAll, responsesFor] at hl ⊢
      rw [List.zip_cons_cons, List.filter_cons_of_neg (by simpa using hw), hl]

/-- Without the requests of all others, the requests of a workspace get the same responses and
the workspace ends up with the same data sources. -/
theorem serveAll_own (w : WorkspaceId) (arrivals : List Arrival)
    (h : (arrivals.filterMap (·.newId?)).Nodup) :
    let all := (standard settings).serveAll sites arrivals []
    let own := (standard settings).serveAll sites (arrivals.filter (·.IsFor w)) []
    own.1 = responsesFor w arrivals all.1 ∧ own.2.ofWorkspace w = all.2.ofWorkspace w :=
  serveAll_own_from settings sites h ((List.filter_sublist.filterMap _).nodup h) rfl

open Fixture in
def posting (w : WorkspaceId) (n : Nat) : Arrival where
  request :=
    { method := "POST"
      target := ⟨none, none, "/api/v1/datasource", none⟩
      headers := [("workspaceid", w.text), ("content-type", "application/json")]
      body := "\x7b\x22name\x22: \x22n\x22, \x22pluginSrc\x22: \x22p\x22\x7d".toUTF8.toList }
  freshId := "trial"
  stamp := stamp n

/-- Another workspace is the first to use a name that then is asked for twice. -/
def rivalPostings : List Arrival :=
  [posting ⟨(Fixture.stamp 9).id.uuid⟩ 1, posting .nil 2, posting .nil 3]

theorem serveAll_rivalPostings :
    ∃ sites, SiteMap.ofSettings? {} = some sites ∧
      (rivalPostings.filterMap (·.newId?)).Nodup ∧
      let all := (standard {}).serveAll sites rivalPostings []
      let own := (standard {}).serveAll sites (rivalPostings.filter (·.IsFor .nil)) []
      (own.1 = responsesFor .nil rivalPostings all.1 ∧
        own.2.ofWorkspace .nil = all.2.ofWorkspace .nil) ∧
      own.1.map (·.status) = [201, 409] := by
  have hf : (rivalPostings.filterMap (·.newId?)).Nodup := by decide
  exact ⟨_, rfl, hf, serveAll_own {} _ .nil rivalPostings hf, by decide +kernel⟩

end App

end SourceRegistry
