import SourceRegistry.Proofs.Concurrency.Updates
import SourceRegistry.Proofs.Service.Names
import SourceRegistry.Proofs.Serving.Isolation

/-!
# Names in the stores that come about

Whatever callers do, the store holds nothing but what a construction has made: the step is
`Service.made_run`, for workers that take turns it is the course of the one that saved. So all that
is said of names holds in every such store (`naming`), and a name that is there cannot be created
again in lower case.
-/

namespace SourceRegistry

/-- The stores that come about: workers take turns at an empty repository, or requests are served
one after another. -/
inductive Store.Reachable : Store → Prop
  | workers (turns : List Turn) : Reachable (System.run .memory [] turns).state
  | requests (settings : Settings) (sites : SiteMap) (arrivals : List Arrival) :
    Reachable ((App.standard settings).serveAll sites arrivals []).2

theorem System.Sound.made {y : System Store} (h : y.Sound .memory []) : ∀ d ∈ y.state, d.Made := by
  intro d hd
  rw [h.state] at hd
  obtain ⟨v, hv, hs⟩ := List.mem_filterMap.1 (mem_savedIn_of_mem_replay h.genuine hd)
  have hq := (Visit.saved?_eq_some_iff.1 hs).1
  have hw := List.getElem?_eq_getElem (h.present v hv)
  obtain ⟨draft, -, -, -, hprepare, -⟩ := course_save (h.course hw) (mem_visitsOf.2 ⟨hv, rfl⟩) hq
  exact DataSource.made_of_prepare hprepare

namespace App

theorem state_perform (app : App σ) (ctx : Context) (stamp : Stamp) (op : Operation) (s : σ) :
    (app.perform ctx stamp op s).state = (app.useCases.perform ctx stamp op s).state := by
  simp only [perform]
  split <;> rfl

theorem made_serve (settings : Settings) (sites : SiteMap) (a : Arrival) {s : Store}
    (h : ∀ d ∈ s, d.Made) : ∀ d ∈ ((standard settings).serve sites a s).state, d.Made := by
  refine serve_state (T := fun s : Store => ∀ d ∈ s, d.Made) sites h ?_ fun ctx op _ => ?_
  · obtain ⟨trace, he⟩ := standard_ready settings a s
    rw [he]
    exact h
  · rw [state_perform]
    exact Service.made_run ctx a.stamp op h

theorem made_serveAll (settings : Settings) (sites : SiteMap) (arrivals : List Arrival) {s : Store}
    (h : ∀ d ∈ s, d.Made) : ∀ d ∈ ((standard settings).serveAll sites arrivals s).2, d.Made := by
  induction arrivals generalizing s with
  | nil => exact h
  | cons a rest ih => exact ih (made_serve settings sites a h)

end App

theorem Store.Reachable.made {s : Store} (h : s.Reachable) : ∀ d ∈ s, d.Made := by
  cases h with
  | workers turns => exact (System.sound_run .memory [] turns).made
  | requests settings sites arrivals => exact App.made_serveAll settings sites arrivals (by simp)

/-- How names are normalized and compared, and what becomes of a stored name in lower case. -/
structure Naming : Prop where
  normalizable : ∀ name, (∃ n, normalizeName name = .ok n) ↔
    1 ≤ (Text.trim name).length ∧ (Text.trim name).length ≤ 100
  normalized : ∀ name n, normalizeName name = .ok n →
    n = Text.trim name ∧ normalizeName n = .ok n
  equivalence : Equivalence fun d e : { d : DataSource // d.Made } => d.1.hasName e.1.name
  padded : ∀ (d : DataSource) (before name after : String),
    (∀ c ∈ before.toList, Text.isSpace c) → (∀ c ∈ after.toList, Text.isSpace c) →
      d.hasName (before ++ name ++ after) = d.hasName name
  lowered : ∀ d : DataSource, d.Made → d.hasName (Text.lower d.name)
  /-- Creating the name again in lower case fails because it is taken, or because it has become too
  long, if the rest of the draft is as it should be. -/
  refused : ∀ s : Store, s.Reachable → ∀ e ∈ s, ∀ (ctx : Context) (stamp : Stamp) (draft : Draft),
    ctx.workspace = e.workspace → draft.Keeps .pluginSrc → draft.Keeps .data →
    (∃ before after : String, draft.name = before ++ Text.lower e.name ++ after ∧
      (∀ c ∈ before.toList, Text.isSpace c) ∧ ∀ c ∈ after.toList, Text.isSpace c) →
    let o := (UseCases.service .memory).perform ctx stamp (.create draft) s
    o.state = s ∧ o.ending = .returned (.error
      (if (Text.lower e.name).length ≤ 100 then
        ⟨.conflict, "Data source name already in use: " ++ Text.lower e.name⟩
      else ⟨.validationFailed, "name: must be at most 100 characters"⟩))

theorem naming : Naming where
  normalizable name := by
    simp only [normalizeName_eq_ok_iff, exists_and_left, exists_eq', and_true]
  normalized name n h := ⟨(normalizeName_eq_ok_iff.1 h).2.symm, normalizeName_of_eq_ok h⟩
  equivalence := DataSource.equivalence_hasName
  padded d before name after hb ha := d.hasName_padded name hb ha
  lowered d h := h.hasName_lower
  refused := by
    rintro s hs e he ctx stamp draft hw hp hd ⟨before, after, hname, hb, ha⟩
    have htrim : Text.trim draft.name = Text.lower e.name := by
      rw [hname, Text.trim_padded hb ha, Text.trim_lower (hs.made e he).trim_name]
    have hrun := Service.run_create_lower ctx stamp hs.made he hw htrim hp hd
    simp only [UseCases.service, hrun, true_and]
    rfl

open Fixture in
/-- A capital sigma at the end of a name becomes a final one, and the name is still taken. -/
theorem naming_finalSigma :
    let turns : List Turn :=
      [.begin ⟨context, stamp 1, .create { draft with name := "ΟΔΟΣ" }⟩, .step 0, .step 0]
    let again := { draft with name := " \u2003οδος\t" }
    ((UseCases.service .memory).perform context (stamp 2) (.create again)
        (System.run .memory [] turns).state).ending =
      .returned (.error ⟨.conflict, "Data source name already in use: οδος"⟩) := by
  intro turns again
  let e := Draft.source { draft with name := "ΟΔΟΣ" } context.workspace (stamp 1)
  have he : e ∈ (System.run .memory [] turns).state := by
    have hrun : (System.run .memory [] turns).state = [e] := rfl
    rw [hrun]
    exact List.mem_singleton.2 rfl
  have hlower : Text.lower e.name = "οδος" := by decide +kernel
  have hbefore : ∀ c ∈ " \u2003".toList, Text.isSpace c := List.all_eq_true.1 (by decide)
  have hafter : ∀ c ∈ "\t".toList, Text.isSpace c := List.all_eq_true.1 (by decide)
  have hrefused := (naming.refused _ (.workers turns) e he context (stamp 2) again rfl (by decide)
    (by decide) ⟨" \u2003", "\t", by rw [hlower]; rfl, hbefore, hafter⟩).2
  rwa [hlower, if_pos (by decide)] at hrefused

/-- A name can become longer in lower case. -/
example : (Text.lower "İ").length = 2 := by decide +kernel

end SourceRegistry
