import SourceRegistry.Proofs.Service.Memory

/-!
# The service without the settings of connections

The service keeps the settings of a connection and never reads them: it only asks of a draft
whether they are an object or missing. So what an operation answers and reports over a store does
not change when the settings are taken out of both, and the settings in the store that it leaves
are the only difference.
-/

namespace SourceRegistry

/-- Connection settings of which only the kind is left. -/
def Json.hide : Json → Json
  | .object _ => .object []
  | j => j

def Draft.hide (draft : Draft) : Draft := { draft with data := draft.data.hide }

def Operation.hide : Operation → Operation
  | .create draft => .create draft.hide
  | op => op

def DataSource.blind (d : DataSource) : DataSource := { d with data := .null }

def Store.blind (s : Store) : Store := s.map DataSource.blind

namespace Store

variable (s : Store) (id : DataSourceId) (w : WorkspaceId)

theorem blind_blind : s.blind.blind = s.blind := List.map_map

theorem blind_append (t : Store) : blind (s ++ t) = s.blind ++ t.blind := List.map_append

theorem filter_blind {p : DataSource → Bool} (hp : ∀ d, p d.blind = p d) :
    s.blind.filter p = Store.blind (s.filter p) := by
  have hcomp : p ∘ DataSource.blind = p := funext hp
  rw [blind, List.filter_map, hcomp]
  rfl

theorem ofWorkspace_blind : s.blind.ofWorkspace w = Store.blind (s.ofWorkspace w) :=
  s.filter_blind fun _ => rfl

theorem without_blind : s.blind.without id w = (s.without id w).blind :=
  s.filter_blind fun _ => rfl

theorem map_summary_blind : s.blind.map DataSource.summary = s.map DataSource.summary :=
  List.map_map

theorem length_blind : s.blind.length = s.length := List.length_map _

theorem find?_blind : s.blind.find? id w = (s.find? id w).map DataSource.blind :=
  List.find?_map

theorem hasId_blind : s.blind.hasId id = s.hasId id := List.any_map

/-- Whether some data source has a property does not depend on the settings if the property does
not. -/
theorem exists_blind_iff {p : DataSource → Prop} (hp : ∀ d, p d.blind ↔ p d) :
    (∃ d ∈ s.blind, p d) ↔ ∃ d ∈ s, p d := by
  constructor
  · rintro ⟨_, hmem, h⟩
    obtain ⟨d, hd, rfl⟩ := List.mem_map.1 hmem
    exact ⟨d, hd, (hp d).1 h⟩
  · rintro ⟨d, hd, h⟩
    exact ⟨d.blind, List.mem_map_of_mem hd, (hp d).2 h⟩

end Store

namespace Draft

variable (draft : Draft)

theorem kind_hide : (draft.hide.data.isObject ∨ draft.hide.data.isNull) ↔
    (draft.data.isObject ∨ draft.data.isNull) := by
  unfold hide
  cases draft.data <;> rfl

theorem acceptable_hide : draft.hide.Acceptable ↔ draft.Acceptable := by
  rw [acceptable_iff, acceptable_iff, kind_hide]
  rfl

theorem rejection_hide : draft.hide.rejection = draft.rejection := by
  have hf : draft.hide.faults = draft.faults := by
    unfold faults
    simp only [kind_hide]
    rfl
  rw [rejection, rejection, hf]

end Draft

namespace Service

/-- What a use case answers and reports, with the store that it leaves without settings. -/
def blindResult {α β : Type} (r : α × Store × β) : α × Store × β := (r.1, r.2.1.blind, r.2.2)

variable (ctx : Context) (stamp : Stamp) (s : Store)

theorem run_list_blind :
    blindResult ((program ctx stamp .list).run.run .memory s.blind) =
      blindResult ((program ctx stamp .list).run.run .memory s) := by
  rw [run_list, run_list, s.ofWorkspace_blind, Store.map_summary_blind, Store.length_blind]
  simp only [blindResult, Store.blind_blind]

theorem run_find_blind (id : DataSourceId) :
    blindResult ((program ctx stamp (.find id)).run.run .memory s.blind) =
      blindResult ((program ctx stamp (.find id)).run.run .memory s) := by
  rw [run_find, run_find, s.find?_blind]
  simp only [blindResult, Store.blind_blind]
  cases s.find? id ctx.workspace with
  | none => rfl
  | some d => rfl

theorem run_delete_blind (id : DataSourceId) :
    blindResult ((program ctx stamp (.delete id)).run.run .memory s.blind) =
      blindResult ((program ctx stamp (.delete id)).run.run .memory s) := by
  have hiff : (∃ d ∈ s.blind, d.id = id ∧ d.workspace = ctx.workspace) ↔ _ :=
    s.exists_blind_iff fun _ => Iff.rfl
  rw [run_delete, run_delete, s.without_blind]
  by_cases h : ∃ d ∈ s, d.id = id ∧ d.workspace = ctx.workspace
  · rw [if_pos (hiff.2 h), if_pos h]
    simp only [blindResult, Store.blind_blind]
  · rw [if_neg (h ∘ hiff.1), if_neg h]
    simp only [blindResult, Store.blind_blind]

theorem run_create_blind (draft : Draft) :
    blindResult ((program ctx stamp (.create draft.hide)).run.run .memory s.blind) =
      blindResult ((program ctx stamp (.create draft)).run.run .memory s) := by
  have hname : (∃ e ∈ s.blind, e.Namesakes (draft.hide.source ctx.workspace stamp)) ↔
      ∃ e ∈ s, e.Namesakes (draft.source ctx.workspace stamp) :=
    s.exists_blind_iff fun _ => Iff.rfl
  have hid : s.blind.hasId (draft.hide.source ctx.workspace stamp).id =
      s.hasId (draft.source ctx.workspace stamp).id := s.hasId_blind _
  rw [run_create, run_create, draft.rejection_hide]
  dsimp only
  by_cases ha : draft.Acceptable
  · rw [if_neg (not_not.2 (draft.acceptable_hide.2 ha)), if_neg (not_not.2 ha)]
    by_cases hn : ∃ e ∈ s, e.Namesakes (draft.source ctx.workspace stamp)
    · rw [if_pos (hname.2 hn), if_pos hn]
      simp only [blindResult, Store.blind_blind]
      rfl
    · rw [if_neg (hn ∘ hname.1), if_neg hn, hid]
      by_cases hi : s.hasId (draft.source ctx.workspace stamp).id
      · rw [if_pos hi, if_pos hi]
        simp only [blindResult, Store.blind_blind]
        rfl
      · rw [if_neg hi, if_neg hi]
        simp only [blindResult, Store.blind_append, Store.blind_blind]
        rfl
  · rw [if_pos (ha ∘ draft.acceptable_hide.1), if_pos ha]
    simp only [blindResult, Store.blind_blind]

end Service

end SourceRegistry
