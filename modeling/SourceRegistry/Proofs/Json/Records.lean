import SourceRegistry.Proofs.Json.Skips

/-!
# Decoders and members of records read in step

A decoder of values without parts reads two texts in step or refuses both for the same cause. So
does a record with each of its members, known or not, while two states of it are being made that
may differ as long as no member can tell.
-/

namespace SourceRegistry.Json

open Text (Symbol)

section
variable {E : List Symbol → List Symbol → Prop} {d : Nat} {s s' : List Symbol}

theorem refuse_lockstep {α β : Type} {R : α → β → Prop} (hE : PartsAtCommas E) (expected : String)
    (o : Opening) (h : Abreast E (o.spot d) s s') :
    Lockstep R (refuse expected o s) (refuse expected o s') := by
  cases o with
  | null => exact (word_lockstep hE isPlainWord_null h).bind fun _ _ _ => .failAt _ _ _
  | true => exact (word_lockstep hE isPlainWord_true h).bind fun _ _ _ => .failAt _ _ _
  | false => exact (word_lockstep hE isPlainWord_false h).bind fun _ _ _ => .failAt _ _ _
  | number negative =>
    refine (numberBody_lockstep hE negative (d := d) h).bind ?_
    rintro ⟨n, t⟩ ⟨_, t'⟩ ⟨rfl, -⟩
    exact .failAt _ _ _
  | string =>
    refine (stringBody_lockstep hE (d := d) h).bind ?_
    rintro ⟨x, t⟩ ⟨_, t'⟩ ⟨rfl, -⟩
    exact .failAt _ _ _
  | list => exact .failAt _ _ _
  | object => exact .failAt _ _ _

namespace Decoder

theorem keepsStep_string (hE : PartsAtCommas E) (depth : Nat) : KeepsStep E (string depth) := by
  intro d s s' h
  refine (peek_lockstep hE h).bind ?_
  rintro ⟨o, t⟩ ⟨_, t'⟩ ⟨rfl, ht⟩
  cases o with
  | string =>
    refine (stringBody_lockstep hE (d := d) ht.abreast).bind ?_
    rintro ⟨x, u⟩ ⟨_, u'⟩ ⟨rfl, hu⟩
    exact .ok ⟨rfl, ht.trans hu⟩
  | _ => exact refuse_lockstep hE (d := d) _ _ ht.abreast

theorem keepsStep_bool (hE : PartsAtCommas E) (depth : Nat) : KeepsStep E (bool depth) := by
  intro d s s' h
  refine (peek_lockstep hE h).bind ?_
  rintro ⟨o, t⟩ ⟨_, t'⟩ ⟨rfl, ht⟩
  cases o with
  | true =>
    refine (word_lockstep hE isPlainWord_true ht.abreast).bind fun u u' hu => ?_
    exact .ok ⟨rfl, ht.trans hu⟩
  | false =>
    refine (word_lockstep hE isPlainWord_false ht.abreast).bind fun u u' hu => ?_
    exact .ok ⟨rfl, ht.trans hu⟩
  | _ => exact refuse_lockstep hE (d := d) _ _ ht.abreast

theorem nullable_of_head? {α : Type} {r : Decoder α} (depth : Nat)
    (h : (skipBlanks s).head? ≠ some (.char 'n')) :
    nullable r depth s = (do let (x, s) ← r depth (skipBlanks s); .ok (some x, s)) := by
  unfold nullable
  split
  · next he =>
    rw [he] at h
    exact absurd rfl h
  · rfl

theorem keepsStep_nullable {α : Type} {r : Decoder α} (hE : PartsAtCommas E) (depth : Nat)
    (hr : KeepsStep E (r depth)) : KeepsStep E (nullable r depth) := by
  intro d s s' h
  have hb := skipBlanks_ahead hE h
  by_cases hn : (skipBlanks s).head? = some (.char 'n')
  · unfold nullable
    generalize skipBlanks s = t at hb hn
    generalize skipBlanks s' = t' at hb
    cases hb.abreast with
    | part he =>
      obtain ⟨r, r', rfl, rfl, -⟩ := hE _ _ he
      cases hn
    | nil => cases hn
    | @cons _ c t t' ht =>
      cases hn
      refine (word_lockstep hE isPlainWord_null (d := d) ht).bind fun u u' hu => ?_
      have hread := (hb.trans (.tail ht)).trans hu
      exact .ok ⟨rfl, hread⟩
  · rw [nullable_of_head? depth hn, nullable_of_head? depth (hb.abreast.head?_eq hE ▸ hn)]
    refine (hr hb.abreast).bind ?_
    rintro ⟨x, t⟩ ⟨_, t'⟩ ⟨rfl, ht⟩
    exact .ok ⟨rfl, hb.trans ht⟩

end Decoder

def Preserves {σ : Type} (R : σ → σ → Prop) (f g : σ → σ) : Prop :=
  ∀ p p', R p p' → R (f p) (g p')

theorem Decoder.setting_lockstep {α σ : Type} {R : σ → σ → Prop} {r : Decoder α}
    {set : α → σ → σ} {depth : Nat} (hr : KeepsStep E (r depth))
    (hset : ∀ x, Preserves R (set x) (set x)) (h : Abreast E (d, .plain) s s') :
    Lockstep (Reads (Preserves R) E (d, .plain) 1 s s') (r.setting set depth s)
      (r.setting set depth s') := by
  refine (hr h).bind ?_
  rintro ⟨x, t⟩ ⟨_, t'⟩ ⟨rfl, ht⟩
  exact .ok ⟨hset x, ht⟩

theorem member_lockstep {σ α : Type} {R : σ → σ → Prop} {form : RecordForm σ α} {depth : Nat}
    (hE : PartsAtCommas E)
    (hgiven : ∀ m ∈ form.members, ∀ p p', R p p' → m.isGiven p = m.isGiven p')
    (hread : ∀ m ∈ form.members, ∀ {s s'}, Abreast E (d, .plain) s s' →
      Lockstep (Reads (Preserves R) E (d, .plain) 1 s s') (m.read depth s) (m.read depth s'))
    (name : String) {p p' : σ} (hp : R p p') (h : Abreast E (d, .plain) s s') :
    Lockstep (Reads R E (d, .plain) 0 s s') (form.member depth name p s)
      (form.member depth name p' s') := by
  unfold RecordForm.member
  cases hm : form.members.find? (·.name == name) with
  | none =>
    have hskip : ∀ {s s'}, Abreast E (d, .plain) s s' →
        Lockstep (Reads Eq E (d, .plain) 0 s s') (do .ok ((), ← skip s))
          (do .ok ((), ← skip s')) := fun h =>
      (skip_lockstep hE h).bind fun _ _ ht => .ok ⟨rfl, ht⟩
    refine (memberValue_lockstep hE hskip name h).bind ?_
    rintro ⟨⟨⟩, t⟩ ⟨_, t'⟩ ⟨-, ht⟩
    exact .ok ⟨hp, ht⟩
  | some m =>
    have hmem := List.mem_of_find?_eq_some hm
    dsimp only
    rw [hgiven m hmem p p' hp]
    split
    · exact .failAt _ _ _
    · refine (memberValue_lockstep hE (hread m hmem) name h).bind ?_
      rintro ⟨f, t⟩ ⟨g, t'⟩ ⟨hfg, ht⟩
      exact .ok ⟨hfg p p' hp, ht⟩

end

end SourceRegistry.Json
