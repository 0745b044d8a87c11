import Mathlib.Logic.Basic

/-!
# States that are filled in

A state with slots is filled in by one thing after another. A thing that has the name of a slot
fills it with what it means, and only once; all other things leave the slots alone. So in the end a
slot holds what the thing with its name means, wherever that stood among the others, and is empty
if there was none: `holds_of_along`.
-/

namespace SourceRegistry

/-- Of two members of a list of which the one is never behind the other, both are the same. -/
theorem eq_or_of_pairwise {α : Type*} {R : α → α → Prop} {l : List α} (h : l.Pairwise R) {a b : α}
    (ha : a ∈ l) (hb : b ∈ l) : a = b ∨ R a b ∨ R b a := by
  induction h with
  | nil => cases ha
  | cons hhead _ ih =>
    rcases List.mem_cons.1 ha with rfl | ha'
    · rcases List.mem_cons.1 hb with rfl | hb'
      · exact .inl rfl
      · exact .inr (.inl (hhead b hb'))
    · rcases List.mem_cons.1 hb with rfl | hb'
      · exact .inr (.inr (hhead a ha'))
      · exact ih ha' hb'

/-- Steps with one thing after another, from one state to another. -/
inductive Along {ε σ : Type} (step : ε → σ → σ → Prop) : List ε → σ → σ → Prop
  | nil (p : σ) : Along step [] p p
  | cons {e : ε} {es : List ε} {p p' q : σ} (h : step e p p') (hs : Along step es p' q) :
    Along step (e :: es) p q

structure Slot (ε σ : Type) where
  Value : Type
  name : String
  get : σ → Option Value
  set : Value → σ → σ
  means : ε → Value → Prop

namespace Slot

variable {ε σ : Type}

/-- A thing fills the slot of its name, or passes them all. -/
inductive Step (slots : List (Slot ε σ)) (name : ε → String) (pass : ε → σ → σ → Prop) (e : ε)
    (p : σ) : σ → Prop
  | fill {s : Slot ε σ} {a : s.Value} (hs : s ∈ slots) (hname : name e = s.name)
    (hempty : s.get p = none) (ha : s.means e a) : Step slots name pass e p (s.set a p)
  | pass {q : σ} (hname : ∀ s ∈ slots, name e ≠ s.name) (h : pass e p q) :
    Step slots name pass e p q

def Unchanged (_ : ε) (p q : σ) : Prop := q = p

theorem Unchanged.get_eq {e : ε} {p q : σ} (h : Unchanged e p q) (s : Slot ε σ) :
    s.get q = s.get p := congrArg s.get h

/-- Slots of different names that do not touch each other. -/
structure Lawful (slots : List (Slot ε σ)) (pass : ε → σ → σ → Prop) : Prop where
  distinct : slots.Pairwise fun s t => s.name ≠ t.name
  get_set : ∀ s ∈ slots, ∀ a p, s.get (s.set a p) = some a
  frame : slots.Pairwise fun s t => (∀ b p, s.get (t.set b p) = s.get p) ∧
    ∀ a p, t.get (s.set a p) = t.get p
  pass : ∀ s ∈ slots, ∀ e p q, pass e p q → s.get q = s.get p

/-- What a slot holds: what a thing of its name means, or nothing if there is none. -/
def Holds (s : Slot ε σ) (name : ε → String) (es : List ε) : Option s.Value → Prop
  | some a => ∃ e ∈ es, name e = s.name ∧ s.means e a
  | none => ∀ e ∈ es, name e ≠ s.name

/-- No two things have the same name, if it is that of a slot. -/
def NoneTwice (slots : List (Slot ε σ)) (name : ε → String) (es : List ε) : Prop :=
  es.Pairwise fun e e' => ∀ s ∈ slots, name e = s.name → name e' ≠ s.name

variable {slots : List (Slot ε σ)} {name : ε → String} {pass : ε → σ → σ → Prop} {es : List ε}
  {s t : Slot ε σ} {p q : σ}

theorem noneTwice_of_nodup (slots : List (Slot ε σ)) (h : (es.map name).Nodup) :
    NoneTwice slots name es :=
  (List.pairwise_map.1 h).imp fun hne _ _ he he' => hne (he.trans he'.symm)

theorem Lawful.eq_of_name_eq (h : Lawful slots pass) (hs : s ∈ slots) (ht : t ∈ slots)
    (hn : s.name = t.name) : s = t := by
  rcases eq_or_of_pairwise h.distinct hs ht with he | hne | hne
  · exact he
  · exact absurd hn hne
  · exact absurd hn.symm hne

theorem Lawful.get_set_of_ne (h : Lawful slots pass) (hs : s ∈ slots) (ht : t ∈ slots)
    (hn : s.name ≠ t.name) (b : t.Value) (p : σ) : s.get (t.set b p) = s.get p := by
  rcases eq_or_of_pairwise h.frame hs ht with rfl | hst | hts
  · exact absurd rfl hn
  · exact hst.1 b p
  · exact hts.2 b p

/-- What one thing does to a slot. -/
theorem Step.slot (h : Lawful slots pass) {e : ε} (hstep : Step slots name pass e p q)
    (hs : s ∈ slots) : (name e = s.name ∧ s.get p = none ∧ ∃ a, s.means e a ∧ s.get q = some a) ∨
      (name e ≠ s.name ∧ s.get q = s.get p) := by
  cases hstep with
  | @fill t a ht hname hempty ha =>
    by_cases hn : s.name = t.name
    · obtain rfl := h.eq_of_name_eq hs ht hn
      exact .inl ⟨hname, hempty, a, ha, h.get_set s hs a p⟩
    · exact .inr ⟨fun he => hn (he.symm.trans hname), h.get_set_of_ne hs ht hn a p⟩
  | pass hname hpass => exact .inr ⟨hname s hs, h.pass s hs e p q hpass⟩

/-- A slot that is filled stays as it is, and there is nothing more for it. -/
theorem get_of_along (h : Lawful slots pass) (hs : s ∈ slots)
    (hes : Along (Step slots name pass) es p q) {a : s.Value} (hp : s.get p = some a) :
    s.get q = some a ∧ ∀ e ∈ es, name e ≠ s.name := by
  induction hes with
  | nil p => exact ⟨hp, List.forall_mem_nil _⟩
  | cons hstep hes ih =>
    rcases hstep.slot h hs with ⟨-, hempty, -⟩ | ⟨hname, hget⟩
    · rw [hp] at hempty
      cases hempty
    · obtain ⟨hq, hrest⟩ := ih (hget.trans hp)
      exact ⟨hq, List.forall_mem_cons.2 ⟨hname, hrest⟩⟩

/-- A slot that was empty holds what the thing with its name means. -/
theorem holds_of_along (h : Lawful slots pass) (hs : s ∈ slots)
    (hes : Along (Step slots name pass) es p q) (hp : s.get p = none) :
    s.Holds name es (s.get q) := by
  induction hes with
  | nil p =>
    rw [hp]
    exact List.forall_mem_nil _
  | @cons e es p p' q hstep hes ih =>
    rcases hstep.slot h hs with ⟨hname, -, a, ha, hget⟩ | ⟨hname, hget⟩
    · rw [(get_of_along h hs hes hget).1]
      exact ⟨e, List.mem_cons_self, hname, ha⟩
    · have hrest := ih (hget.trans hp)
      cases hq : s.get q with
      | none =>
        rw [hq] at hrest
        exact List.forall_mem_cons.2 ⟨hname, hrest⟩
      | some a =>
        rw [hq] at hrest
        obtain ⟨e', he', ha⟩ := hrest
        exact ⟨e', List.mem_cons_of_mem _ he', ha⟩

/-- Each thing has had a meaning for the slot of its name. -/
theorem means_of_along (hes : Along (Step slots name pass) es p q) (h : Lawful slots pass) :
    ∀ e ∈ es, ∀ s ∈ slots, name e = s.name → ∃ a, s.means e a := by
  induction hes with
  | nil p => exact List.forall_mem_nil _
  | cons hstep hes ih =>
    refine List.forall_mem_cons.2 ⟨fun s hs hname => ?_, ih⟩
    rcases hstep.slot h hs with ⟨-, -, a, ha, -⟩ | ⟨hne, -⟩
    · exact ⟨a, ha⟩
    · exact absurd hname hne

/-- Things that mean something for the slots of their names, each for another one, go on to the
end. -/
theorem exists_along (h : Lawful slots pass) (hpass : ∀ e ∈ es, ∀ p, ∃ q, pass e p q)
    (htwice : NoneTwice slots name es)
    (hmeans : ∀ e ∈ es, ∀ s ∈ slots, name e = s.name → s.get p = none ∧ ∃ a, s.means e a) :
    ∃ q, Along (Step slots name pass) es p q := by
  induction es generalizing p with
  | nil => exact ⟨p, .nil p⟩
  | cons e es ih =>
    rw [List.forall_mem_cons] at hpass hmeans
    obtain ⟨hhead, hrest⟩ := List.pairwise_cons.1 htwice
    have hstep : ∃ p', Step slots name pass e p p' := by
      by_cases hname : ∀ s ∈ slots, name e ≠ s.name
      · obtain ⟨p', hp⟩ := hpass.1 p
        exact ⟨p', .pass hname hp⟩
      · simp only [not_forall, not_not] at hname
        obtain ⟨s, hs, hname⟩ := hname
        obtain ⟨hempty, a, ha⟩ := hmeans.1 s hs hname
        exact ⟨_, .fill hs hname hempty ha⟩
    obtain ⟨p', hp⟩ := hstep
    obtain ⟨q, hq⟩ := ih (p := p') hpass.2 hrest fun e' he' s hs hname => by
      obtain ⟨hempty, ha⟩ := hmeans.2 e' he' s hs hname
      refine ⟨?_, ha⟩
      rcases hp.slot h hs with ⟨he, -⟩ | ⟨-, hget⟩
      · exact absurd hname (hhead e' he' s hs he)
      · exact hget.trans hempty
    exact ⟨q, .cons hp hq⟩

/-- A slot holds one thing, if every thing means one. -/
theorem Holds.eq (htwice : NoneTwice slots name es) (hs : s ∈ slots)
    (hmeans : ∀ e ∈ es, name e = s.name → ∀ a b, s.means e a → s.means e b → a = b)
    {o o' : Option s.Value}
    (h : s.Holds name es o) (h' : s.Holds name es o') : o = o' := by
  have hne : ∀ {a}, s.Holds name es (some a) → ¬ s.Holds name es none := fun ⟨e, he, hname, _⟩ hn =>
    hn e he hname
  cases o with
  | none =>
    cases o' with
    | none => rfl
    | some b => exact absurd h (hne h')
  | some a =>
    cases o' with
    | none => exact absurd h' (hne h)
    | some b =>
      obtain ⟨e, he, hname, ha⟩ := h
      obtain ⟨e', he', hname', hb⟩ := h'
      rcases eq_or_of_pairwise htwice he he' with rfl | hne | hne
      · rw [hmeans e he hname a b ha hb]
      · exact absurd hname' (hne s hs hname)
      · exact absurd hname (hne s hs hname')

/-- Things fill the empty slots with what a state has in them, if it has there what they mean. -/
theorem exists_along_holding (h : Lawful slots pass) (hpass : ∀ e ∈ es, ∀ p, ∃ q, pass e p q)
    (htwice : NoneTwice slots name es) (hempty : ∀ s ∈ slots, s.get p = none)
    (hmeans : ∀ e ∈ es, ∀ s ∈ slots, name e = s.name → ∀ a b, s.means e a → s.means e b → a = b)
    (target : σ) (htarget : ∀ s ∈ slots, s.Holds name es (s.get target)) :
    ∃ q, Along (Step slots name pass) es p q ∧ ∀ s ∈ slots, s.get q = s.get target := by
  obtain ⟨q, hq⟩ := exists_along h hpass htwice fun e he s hs hname => by
    refine ⟨hempty s hs, ?_⟩
    have hs' := htarget s hs
    cases hget : s.get target with
    | none =>
      rw [hget] at hs'
      exact absurd hname (hs' e he)
    | some a =>
      rw [hget] at hs'
      obtain ⟨e', he', hname', ha⟩ := hs'
      rcases eq_or_of_pairwise htwice he he' with rfl | hne | hne
      · exact ⟨a, ha⟩
      · exact absurd hname' (hne s hs hname)
      · exact absurd hname (hne s hs hname')
  refine ⟨q, hq, fun s hs => ?_⟩
  exact (holds_of_along h hs hq (hempty s hs)).eq htwice hs (fun e he => hmeans e he s hs)
    (htarget s hs)

end Slot

end SourceRegistry
