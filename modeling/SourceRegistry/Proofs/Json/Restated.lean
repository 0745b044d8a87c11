import SourceRegistry.Proofs.Json.Fields
import SourceRegistry.Proofs.Json.Written

/-!
# Objects that say the same

An object says the same as another one if it has the same members, in any order and however they
are spelled, and besides only members of names that nobody asks for. Where an object has the
members of a record, each name of the record is found once at most, and with it the value that was
written.
-/

namespace SourceRegistry.Json

open Text (Symbol)

/-- The members `ms` in any order and spelling, and others. -/
def Restates (depth : Nat) (other : Entry → Prop) (ms : List (String × Json)) (es : List Entry) :
    Prop :=
  ∃ own others, es.Perm (own ++ others) ∧
    List.Forall₂ (fun e m => e.name = m.1 ∧ Denotes depth e.part.value m.2) own ms ∧
    ∀ e ∈ others, other e

def IsForeign (names : List String) (e : Entry) : Prop := e.name ∉ names

/-- What stands beside a member of a list in another list. -/
theorem exists_of_forall₂_left {α β : Type} {R : α → β → Prop} {l : List α} {l' : List β}
    (h : List.Forall₂ R l l') {a : α} (ha : a ∈ l) : ∃ b ∈ l', R a b := by
  induction h with
  | nil => cases ha
  | @cons _ b _ _ hhead _ ih =>
    rcases List.mem_cons.1 ha with rfl | ha
    · exact ⟨b, List.mem_cons_self, hhead⟩
    · obtain ⟨b', hb', h⟩ := ih ha
      exact ⟨b', List.mem_cons_of_mem _ hb', h⟩

theorem exists_of_forall₂_right {α β : Type} {R : α → β → Prop} {l : List α} {l' : List β}
    (h : List.Forall₂ R l l') {b : β} (hb : b ∈ l') : ∃ a ∈ l, R a b :=
  exists_of_forall₂_left h.flip hb

namespace Restates

variable {depth : Nat} {other : Entry → Prop} {ms : List (String × Json)} {es : List Entry}

/-- Members that are written say the same, in any order and with others. -/
theorem of_written {others : List Entry} (hes : es.Perm (ms.map writtenEntry ++ others))
    (hms : ∀ m ∈ ms, Denotes depth (m.2.chars.map .char) m.2) (hothers : ∀ e ∈ others, other e) :
    Restates depth other ms es := by
  refine ⟨_, others, hes, ?_, hothers⟩
  rw [List.forall₂_map_left_iff, List.forall₂_same]
  exact fun m hm => ⟨rfl, hms m hm⟩

/-- What is written is found. -/
theorem exists_mem (h : Restates depth other ms es) {name : String} {j : Json}
    (hm : (name, j) ∈ ms) : ∃ e ∈ es, e.name = name ∧ Denotes depth e.part.value j := by
  obtain ⟨own, others, hperm, hown, -⟩ := h
  obtain ⟨e, he, hname, hj⟩ := exists_of_forall₂_right hown hm
  exact ⟨e, hperm.mem_iff.2 (List.mem_append_left _ he), hname, hj⟩

/-- All members have values, if the others have. -/
theorem exists_denotes (h : Restates depth other ms es)
    (hother : ∀ e, other e → ∃ j, Denotes depth e.part.value j) :
    ∀ e ∈ es, ∃ j, Denotes depth e.part.value j := by
  intro e he
  obtain ⟨own, others, hperm, hown, hothers⟩ := h
  rcases List.mem_append.1 (hperm.mem_iff.1 he) with he | he
  · obtain ⟨m, -, -, hj⟩ := exists_of_forall₂_left hown he
    exact ⟨m.2, hj⟩
  · exact hother e (hothers e he)

variable {names : List String} (hother : ∀ e, other e → e.name ∉ names)
include hother

/-- What is found under a name that is asked for has been written. -/
theorem exists_written (h : Restates depth other ms es) {e : Entry} (he : e ∈ es)
    (hname : e.name ∈ names) : ∃ j, (e.name, j) ∈ ms ∧ Denotes depth e.part.value j := by
  obtain ⟨own, others, hperm, hown, hothers⟩ := h
  rcases List.mem_append.1 (hperm.mem_iff.1 he) with he | he
  · obtain ⟨m, hm, hname, hj⟩ := exists_of_forall₂_left hown he
    exact ⟨m.2, hname ▸ hm, hj⟩
  · exact absurd hname (hother e (hothers e he))

/-- Nothing is found under a name that has not been written. -/
theorem not_mem (h : Restates depth other ms es) {name : String} (hname : name ∈ names)
    (hm : ∀ m ∈ ms, m.1 ≠ name) : ∀ e ∈ es, e.name ≠ name := by
  rintro e he rfl
  obtain ⟨j, hj, -⟩ := h.exists_written hother he hname
  exact hm _ hj rfl

/-- A name that is asked for is found once at most. -/
theorem apart (h : Restates depth other ms es) (hnodup : (ms.map (·.1)).Nodup) :
    es.Pairwise fun e e' => ∀ name ∈ names, e.name = name → e'.name ≠ name := by
  obtain ⟨own, others, hperm, hown, hothers⟩ := h
  have hsymm : ∀ {e e' : Entry}, (∀ name ∈ names, e.name = name → e'.name ≠ name) →
      ∀ name ∈ names, e'.name = name → e.name ≠ name := fun h name hn he' he => h name hn he he'
  have hnames : own.map (·.name) = ms.map (·.1) := by
    rw [← List.forall₂_eq_eq_eq, List.forall₂_map_left_iff, List.forall₂_map_right_iff]
    exact hown.imp fun _ _ h => h.1
  refine (hperm.pairwise_iff hsymm).2 (List.pairwise_append.2 ⟨?_, ?_, ?_⟩)
  · rw [← hnames] at hnodup
    exact (List.pairwise_map.1 hnodup).imp fun hne _ _ he he' => hne (he.trans he'.symm)
  · exact List.pairwise_of_forall_mem_list fun e _ e' he' name hn _ he =>
      hother e' (hothers e' he') (he ▸ hn)
  · exact fun e _ e' he' name hn _ he => hother e' (hothers e' he') (he ▸ hn)

theorem noneTwice {σ : Type} {slots : List (Slot Entry σ)} (h : Restates depth other ms es)
    (hnodup : (ms.map (·.1)).Nodup) (hslots : ∀ s ∈ slots, s.name ∈ names) :
    Slot.NoneTwice slots (·.name) es :=
  (h.apart hother hnodup).imp fun hne s hs => hne s.name (hslots s hs)

end Restates

/-- Keeps the name of a member and passes over its value. -/
def addName (name : String) (names : List String) : Reader (List String) := fun s => do
  let (_, s) ← memberValue name (fun s => do .ok ((), ← skip s)) s
  .ok (names ++ [name], s)

theorem addName_steps {e : Entry} (h : e.IsEntry) :
    Steps addName (fun e names names' => names' = names ++ [e.name]) e := by
  intro names between gap r hbetween hgap hr names' s
  have hread : addName e.name names (between ++ .char ':' :: (gap ++ (e.part.value ++ r))) =
      .ok (names ++ [e.name], r) := by
    unfold addName memberValue
    rw [colon_append hbetween]
    dsimp only [bind, Except.bind]
    rw [skip_value hgap h.value hr]
    rfl
  rw [hread]
  constructor
  · intro h
    cases h
    exact ⟨rfl, rfl⟩
  · rintro ⟨rfl, rfl⟩
    rfl

theorem along_names (es : List Entry) (names : List String) :
    Along (fun (e : Entry) names names' => names' = names ++ [e.name]) es names
      (names ++ es.map (·.name)) := by
  induction es generalizing names with
  | nil => exact (List.append_nil names).symm ▸ .nil names
  | cons e es ih =>
    have hrest := ih (names ++ [e.name])
    rw [List.append_assoc] at hrest
    exact .cons rfl hrest

/-- A text is an object of these names in one way only. -/
theorem IsObject.names_eq {es es' : List Entry} {x : List Symbol} (h : IsObject es x)
    (h' : IsObject es' x) : es.map (·.name) = es'.map (·.name) := by
  obtain ⟨y, rfl⟩ := h.exists_cons
  have hread : ∀ {es}, IsObject es (.char '\x7b' :: y) →
      (members addName [] (y ++ []) >>= fun a => endMembers a.2 >>= fun _ => .ok a.1) =
        .ok (es.map (·.name)) := fun {es} h =>
    (members_eq_ok_iff h (fun e he => addName_steps (h.isEntry e he)) []
      (fun names _ => .ok names) _ []).2 ⟨_, along_names es [], rfl⟩
  exact Except.ok.inj ((hread h).symm.trans (hread h'))

end SourceRegistry.Json
