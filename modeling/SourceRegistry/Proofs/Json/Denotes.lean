import SourceRegistry.Proofs.Json.Insertion

/-!
# What texts denote

`Denotes depth x j` says that a text is a way to write a value, with at most `depth` brackets open
at once: strings with whatever escapes, whole numbers that fit sixty-four bits, and lists and
objects with blanks between their parts. Numbers with a sign in front of zero, with a fraction or
with an exponent are no whole numbers; they are written for the binary numbers that they are read
as.
-/

namespace SourceRegistry.Json

open Text (Symbol)

/-- What has been read of a string that spells a text: its rest, or its rest behind the first half
of a character. -/
def SpellsRest (x r : List Symbol) (before : List Char) (t : String) (s : List Symbol) :
    StringMode → Prop
  | .plain => ∃ u, Spells x u ∧ t = String.ofList (before.reverse ++ u) ∧ s = r
  | .pairBackslash high => ∃ c₁ c₂ c₃ c₄ y d u,
    x = .char '\\' :: .char 'u' :: c₁ :: c₂ :: c₃ :: c₄ :: y ∧
      (∀ c ∈ [c₁, c₂, c₃, c₄], (hexValue? c).isSome) ∧
      escaped (codePoint [c₁, c₂, c₃, c₄]) (some high) = .char d ∧ Spells y u ∧
      t = String.ofList (before.reverse ++ d :: u) ∧ s = r
  | _ => True

theorem escaped_some_ne_half (n high high' : Nat) : escaped n (some high) ≠ .half high' := by
  show (if isLowSurrogate n then Escaped.char _ else .lone) ≠ _
  split <;> exact nofun

/-- Only strings that spell a text are read, and as that text. -/
theorem stringRest_eq_ok {x r s : List Symbol} (h : IsString x) {before : List Char} {t : String}
    {mode : StringMode} (hread : stringRest before true mode (x ++ r) = .ok (t, s)) :
    SpellsRest x r before t s mode := by
  induction h generalizing before mode with
  | close =>
    cases mode with
    | plain =>
      cases hread
      exact ⟨[], .close, by rw [List.append_nil], rfl⟩
    | pairBackslash high => cases hread
    | _ => trivial
  | @plain c x hquote hslash hcontrol h ih =>
    rw [List.cons_append] at hread
    cases mode with
    | plain =>
      rw [stringRest_plain_char hquote hslash, if_neg hcontrol] at hread
      obtain ⟨u, hu, rfl, rfl⟩ := ih hread
      exact ⟨c :: u, .plain hquote hslash hcontrol hu, by simp, rfl⟩
    | pairBackslash high =>
      have hc : Symbol.char c ≠ .char '\\' := fun he => hslash (Symbol.char.inj he)
      rw [stringRest, if_neg hc] at hread
      cases hread
    | _ => trivial
  | @escape c x hc h ih =>
    obtain ⟨d, hd⟩ := Option.isSome_iff_exists.1 hc
    simp only [List.cons_append] at hread
    cases mode with
    | plain =>
      rw [stringRest_escape hd] at hread
      obtain ⟨u, hu, rfl, rfl⟩ := ih hread
      exact ⟨d :: u, .escape hd hu, by simp, rfl⟩
    | pairBackslash high =>
      have hu : c ≠ .char 'u' := by
        rintro rfl
        cases hd
      rw [stringRest, if_pos rfl, stringRest, if_neg hu] at hread
      cases hread
    | _ => trivial
  | @code c₁ c₂ c₃ c₄ x hc h ih =>
    simp only [List.cons_append] at hread
    cases mode with
    | plain =>
      rw [stringRest_code hc] at hread
      cases he : escaped (codePoint [c₁, c₂, c₃, c₄]) none with
      | char d =>
        rw [he] at hread
        obtain ⟨u, hu, rfl, rfl⟩ := ih hread
        exact ⟨d :: u, .code hc he hu, by simp, rfl⟩
      | half high =>
        rw [he] at hread
        obtain ⟨_, _, _, _, y, d, u, rfl, hc', hd, hu, rfl, rfl⟩ := ih hread
        exact ⟨d :: u, .pair hc he hc' hd hu, rfl, rfl⟩
      | lone =>
        rw [he] at hread
        cases hread
    | pairBackslash high =>
      rw [stringRest_half hc] at hread
      cases he : escaped (codePoint [c₁, c₂, c₃, c₄]) (some high) with
      | char d =>
        rw [he] at hread
        obtain ⟨u, hu, rfl, rfl⟩ := ih hread
        exact ⟨_, _, _, _, x, d, u, rfl, hc, he, hu, by simp, rfl⟩
      | half high' => exact absurd he (escaped_some_ne_half _ _ _)
      | lone =>
        rw [he] at hread
        cases hread
    | _ => trivial

theorem stringBody_eq_ok_iff {x r s : List Symbol} (h : IsString x) {t : String} :
    stringBody (x ++ r) = .ok (t, s) ↔ Spells x t.toList ∧ s = r := by
  constructor
  · intro hread
    obtain ⟨u, hu, rfl, rfl⟩ : SpellsRest x r [] t s .plain := stringRest_eq_ok h hread
    rw [List.reverse_nil, List.nil_append, String.toList_ofList]
    exact ⟨hu, rfl⟩
  · rintro ⟨ht, rfl⟩
    rw [stringBody_append ht, String.ofList_toList]

/-! ## Whole numbers -/

def wholeValue (x : List Symbol) : Nat := (x.filterMap digit?).foldl (fun n d => 10 * n + d) 0

/-- A whole number without and with a minus in front of it, if it fits sixty-four bits. There is
no minus in front of zero. -/
inductive DenotesWhole : Bool → List Symbol → Int → Prop
  | positive {x : List Symbol} (h : IsWhole x) (hlt : wholeValue x < wordLimit) :
    DenotesWhole false x (wholeValue x)
  | negative {x : List Symbol} (h : IsWhole x) (hne : wholeValue x ≠ 0)
    (hle : wholeValue x ≤ twoPow 63) : DenotesWhole true x (-(wholeValue x : Int))

theorem le_foldl_digits (ds : List Nat) (n : Nat) : n ≤ ds.foldl (fun n d => 10 * n + d) n := by
  induction ds generalizing n with
  | nil => exact Nat.le_refl n
  | cons d ds ih =>
    have := ih (10 * n + d)
    rw [List.foldl_cons]
    omega

/-- Digits are taken in as long as the number that they make fits. -/
theorem absorb_eq_nil_iff {n : Nat} (hn : n < wordLimit) {ds : List Nat} :
    (absorb n ds).2 = [] ↔ ds.foldl (fun n d => 10 * n + d) n < wordLimit := by
  induction ds generalizing n with
  | nil => exact ⟨fun _ => hn, fun _ => rfl⟩
  | cons d ds ih =>
    rw [absorb, List.foldl_cons]
    split
    · next h => exact ih h
    · next h =>
      exact ⟨nofun, fun hlt => absurd (Nat.lt_of_le_of_lt (le_foldl_digits ds _) hlt) h⟩

theorem absorb_fst {n : Nat} {ds : List Nat} (h : (absorb n ds).2 = []) :
    (absorb n ds).1 = ds.foldl (fun n d => 10 * n + d) n := by
  induction ds generalizing n with
  | nil => rfl
  | cons d ds ih =>
    rw [absorb] at h ⊢
    split at h
    · next hlt =>
      rw [if_pos hlt, List.foldl_cons]
      exact ih h
    · cases h

section
variable {negative : Bool} {n : Nat} {e m : Int} {s t : List Symbol}

theorem floatOf_ne_whole : floatOf negative n e s ≠ .ok (.whole m, t) := by
  unfold floatOf
  split <;> exact nofun

theorem exponentPart_ne_whole : exponentPart negative n e s ≠ .ok (.whole m, t) := by
  unfold exponentPart
  obtain ⟨minus, s⟩ := exponentSign s
  dsimp only
  cases hd : digitRun s with
  | error f => exact nofun
  | ok a =>
    obtain ⟨ds, rest⟩ := a
    dsimp only [bind, Except.bind]
    split
    · exact nofun
    · exact nofun
    · split
      · exact floatOf_ne_whole
      · split
        · exact nofun
        · exact floatOf_ne_whole

theorem fractionPart_ne_whole : fractionPart negative n e s ≠ .ok (.whole m, t) := by
  unfold fractionPart withExponent
  cases hd : digitRun s with
  | error f => exact nofun
  | ok a =>
    obtain ⟨ds, rest⟩ := a
    dsimp only [bind, Except.bind]
    split
    · exact nofun
    · split
      · exact exponentPart_ne_whole
      · exact floatOf_ne_whole

theorem wholeNumber_eq_whole_iff :
    wholeNumber negative n = .whole m ↔
      (negative = false ∧ m = n) ∨ (negative = true ∧ n ≠ 0 ∧ n ≤ twoPow 63 ∧ m = -(n : Int)) := by
  unfold wholeNumber
  cases negative with
  | false => simp [eq_comm]
  | true =>
    simp only [if_true]
    split
    · next h => simp; omega
    · next h => simp [eq_comm]; omega

end

/-- A number is whole if nothing follows its digits and none of them had to be left out. -/
theorem numberTail_eq_whole {negative : Bool} {n dropped : Nat} {m : Int} {s t : List Symbol}
    (h : numberTail negative n dropped s = .ok (.whole m, t)) :
    s.head? ≠ some (.char '.') ∧ exponentLetter? s = none ∧ dropped = 0 ∧
      wholeNumber negative n = .whole m ∧ t = s := by
  by_cases hpoint : s.head? = some (.char '.')
  · obtain ⟨s, rfl⟩ : ∃ s', s = .char '.' :: s' := by
      cases s with
      | nil => cases hpoint
      | cons c s => exact ⟨s, by rw [Option.some.inj hpoint]⟩
    exact absurd h fractionPart_ne_whole
  · rw [numberTail_of_head? _ _ _ hpoint] at h
    refine ⟨hpoint, ?_⟩
    cases he : exponentLetter? s with
    | some rest =>
      rw [he] at h
      exact absurd h exponentPart_ne_whole
    | none =>
      rw [he] at h
      dsimp only at h
      split at h
      · next hd =>
        simp only [Except.ok.injEq, Prod.mk.injEq] at h
        exact ⟨rfl, hd, h.1, h.2.symm⟩
      · exact absurd h floatOf_ne_whole

theorem numberTail_whole {negative : Bool} {n : Nat} {r : List Symbol} (hr : Ends r) :
    numberTail negative n 0 r = .ok (wholeNumber negative n, r) := by
  rw [numberTail_of_head? _ _ _ (hr.head?_ne (by decide)),
    exponentLetter?_of_goesOn hr (by decide) (by decide)]
  rfl

theorem digit?_lt {c : Symbol} {d : Nat} (h : digit? c = some d) : d < 10 := by
  obtain ⟨c, -, hc⟩ := Option.bind_eq_some_iff.1 h
  split at hc
  · next hle =>
    cases hc
    have h9 : c.toNat ≤ 57 := hle.2
    omega
  · cases hc

/-- The digits of a number, taken in, and what stands behind them. -/
theorem numberBody_append {whole s : List Symbol} (h : IsWhole whole) (hs : ¬ startsWithDigit s) :
    ∃ n dropped, (∀ negative, numberBody negative (whole ++ s) = numberTail negative n dropped s) ∧
      (dropped = 0 ↔ wholeValue whole < wordLimit) ∧ (dropped = 0 → n = wholeValue whole) := by
  cases h with
  | zero => exact ⟨0, 0, fun _ => if_neg hs, by decide, fun _ => rfl⟩
  | @digits c x hc hz hx =>
    obtain ⟨d, hd⟩ := Option.isSome_iff_exists.1 hc
    obtain ⟨m, rfl⟩ := Nat.exists_eq_succ_of_ne_zero (ne_zero_of_digit? hd hz)
    have hvalue : wholeValue (c :: x) =
        (x.filterMap digit?).foldl (fun n d => 10 * n + d) (m + 1) := by
      rw [wholeValue, List.filterMap_cons_some hd, List.foldl_cons, Nat.mul_zero, Nat.zero_add]
    have hlt : m + 1 < wordLimit := Nat.lt_trans (digit?_lt hd) (by decide)
    refine ⟨(absorb (m + 1) (x.filterMap digit?)).1,
      (absorb (m + 1) (x.filterMap digit?)).2.length, fun negative => ?_, ?_, fun h => ?_⟩
    · rw [List.cons_append, numberBody, hd]
      dsimp only
      rw [digitRun_append hx hs]
      rfl
    · rw [List.length_eq_zero_iff, absorb_eq_nil_iff hlt, hvalue]
    · rw [hvalue, absorb_fst (List.length_eq_zero_iff.1 h)]

theorem DenotesWhole.isWhole {negative : Bool} {x : List Symbol} {m : Int}
    (h : DenotesWhole negative x m) : IsWhole x := by
  cases h with
  | positive h hlt => exact h
  | negative h hne hle => exact h

theorem wholeNumber_wholeValue_iff {negative : Bool} {x : List Symbol} (h : IsWhole x) {m : Int} :
    wholeValue x < wordLimit ∧ wholeNumber negative (wholeValue x) = .whole m ↔
      DenotesWhole negative x m := by
  have hlimit : twoPow 63 < wordLimit := by decide
  rw [wholeNumber_eq_whole_iff]
  constructor
  · rintro ⟨hlt, ⟨rfl, rfl⟩ | ⟨rfl, hne, hle, rfl⟩⟩
    · exact .positive h hlt
    · exact .negative h hne hle
  · rintro (⟨h, hlt⟩ | ⟨h, hne, hle⟩)
    · exact ⟨hlt, .inl ⟨rfl, rfl⟩⟩
    · exact ⟨Nat.lt_of_le_of_lt hle hlimit, .inr ⟨rfl, hne, hle, rfl⟩⟩

/-- Whole numbers that fit are read as such, and no other number is. -/
theorem numberBody_eq_whole_iff {negative : Bool} {x r s : List Symbol} (h : IsNumber x)
    (hr : Ends r) {m : Int} :
    numberBody negative (x ++ r) = .ok (.whole m, s) ↔ DenotesWhole negative x m ∧ s = r := by
  have hwhole : ∀ {x}, IsWhole x → (numberBody negative (x ++ r) = .ok (.whole m, s) ↔
      DenotesWhole negative x m ∧ s = r) := by
    intro x hx
    obtain ⟨n, dropped, hread, hd, hn⟩ :=
      numberBody_append hx (hr.not_startsWithDigit (by decide))
    rw [hread, ← wholeNumber_wholeValue_iff hx, ← hd]
    constructor
    · intro h
      obtain ⟨-, -, h0, hm, rfl⟩ := numberTail_eq_whole h
      exact ⟨⟨h0, hn h0 ▸ hm⟩, rfl⟩
    · rintro ⟨⟨h0, hm⟩, rfl⟩
      rw [h0, numberTail_whole hr, hn h0, hm]
  constructor
  · intro hread
    -- neither a fraction nor an exponent can stand behind the digits
    obtain ⟨hw, hf, he⟩ := h
    rename_i whole fraction exponent
    have hgo : ¬ startsWithDigit (fraction ++ (exponent ++ r)) :=
      (hf.goesOn he hr).not_startsWithDigit (by decide)
    obtain ⟨n, dropped, hbody, -⟩ := numberBody_append hw hgo
    have hnumber := hread
    rw [List.append_assoc, List.append_assoc, hbody] at hnumber
    obtain ⟨hpoint, hletter, -⟩ := numberTail_eq_whole hnumber
    cases hf with
    | some hx hne => exact absurd rfl hpoint
    | none =>
      cases he with
      | some hl hs hx hne =>
        rw [List.nil_append, List.cons_append, exponentLetter?_of_mem hl] at hletter
        cases hletter
      | none =>
        rw [List.append_nil, List.append_nil] at hread ⊢
        exact (hwhole hw).1 hread
  · exact fun hd => (hwhole hd.1.isWhole).2 hd

/-- A number that is read as a binary one: it is not whole or does not fit sixty-four bits, and is
not too great. -/
structure DenotesFloat (negative : Bool) (x : List Symbol) (f : Binary64) : Prop where
  isNumber : IsNumber x
  read : ∀ {r}, Ends r → numberBody negative (x ++ r) = .ok (.float f, r)

/-! ## Lists and objects -/

/-- A member of an object as it is written, and its name. -/
structure Entry where
  name : String
  part : Part

structure Entry.IsEntry (e : Entry) : Prop where
  lead : NamesMember e.part.lead e.name.toList
  value : IsValue e.part.value
  after : IsBlanks e.part.after

theorem Entry.IsEntry.isPart {e : Entry} (h : e.IsEntry) : e.part.IsPart .object :=
  ⟨h.lead.isLead, h.value, h.after⟩

inductive IsList (parts : List Part) : List Symbol → Prop
  | mk {close : List Symbol} (hparts : ∀ p ∈ parts, p.IsPart .list) (hclose : IsBlanks close) :
    IsList parts (.char '[' :: partsText true parts (close ++ [.char ']']))

inductive IsObject (es : List Entry) : List Symbol → Prop
  | mk {close : List Symbol} (hes : ∀ e ∈ es, e.IsEntry) (hclose : IsBlanks close) :
    IsObject es (.char '\x7b' :: partsText true (es.map (·.part)) (close ++ [.char '\x7d']))

theorem IsList.isValue {parts : List Part} {x : List Symbol} (h : IsList parts x) : IsValue x := by
  obtain ⟨hparts, hclose⟩ := h
  exact .of_isPart (b := .list) hparts hclose

theorem IsObject.isEntry {es : List Entry} {x : List Symbol} (h : IsObject es x) :
    ∀ e ∈ es, e.IsEntry := by
  obtain ⟨hes, -⟩ := h
  exact hes

theorem IsObject.isValue {es : List Entry} {x : List Symbol} (h : IsObject es x) : IsValue x := by
  obtain ⟨hes, hclose⟩ := h
  refine .of_isPart (b := .object) (fun p hp => ?_) hclose
  obtain ⟨e, he, rfl⟩ := List.mem_map.1 hp
  exact (hes e he).isPart

/-- A text that is a way to write a value, with at most `depth` brackets open at once. -/
inductive Denotes : Nat → List Symbol → Json → Prop
  | null {depth : Nat} : Denotes depth [.char 'n', .char 'u', .char 'l', .char 'l'] .null
  | true {depth : Nat} :
    Denotes depth [.char 't', .char 'r', .char 'u', .char 'e'] (.bool Bool.true)
  | false {depth : Nat} :
    Denotes depth [.char 'f', .char 'a', .char 'l', .char 's', .char 'e'] (.bool Bool.false)
  | positive {depth : Nat} {x : List Symbol} {n : Int} (h : DenotesWhole Bool.false x n) :
    Denotes depth x (.number (.whole n))
  | negative {depth : Nat} {x : List Symbol} {n : Int} (h : DenotesWhole Bool.true x n) :
    Denotes depth (.char '-' :: x) (.number (.whole n))
  | positiveFloat {depth : Nat} {x : List Symbol} {f : Binary64}
    (h : DenotesFloat Bool.false x f) : Denotes depth x (.number (.float f))
  | negativeFloat {depth : Nat} {x : List Symbol} {f : Binary64}
    (h : DenotesFloat Bool.true x f) : Denotes depth (.char '-' :: x) (.number (.float f))
  | string {depth : Nat} {x : List Symbol} {t : String} (h : Spells x t.toList) :
    Denotes depth (.char '\x22' :: x) (.string t)
  | list {depth : Nat} {x : List Symbol} {ms : List (Part × Json)}
    (h : IsList (ms.map (·.1)) x) (hvalue : ∀ m ∈ ms, Denotes depth m.1.value m.2) :
    Denotes (depth + 1) x (.array (ms.map (·.2)))
  | object {depth : Nat} {x : List Symbol} {ms : List (Entry × Json)}
    (h : IsObject (ms.map (·.1)) x) (hvalue : ∀ m ∈ ms, Denotes depth m.1.part.value m.2) :
    Denotes (depth + 1) x (.object (Members.ofList (ms.map fun m => (m.1.name, m.2))))

theorem DenotesWhole.isNumber {negative : Bool} {x : List Symbol} {n : Int}
    (h : DenotesWhole negative x n) : IsNumber x := by
  have hparts := IsNumber.parts h.isWhole .none .none
  rwa [List.append_nil, List.append_nil] at hparts

theorem Denotes.isValue {depth : Nat} {x : List Symbol} {j : Json} (h : Denotes depth x j) :
    IsValue x := by
  cases h with
  | null => exact .null
  | true => exact .true
  | false => exact .false
  | positive h => exact .positive h.isNumber
  | negative h => exact .negative h.isNumber
  | positiveFloat h => exact .positive h.isNumber
  | negativeFloat h => exact .negative h.isNumber
  | string h => exact .string h.isString
  | list h hvalue => exact h.isValue
  | object h hvalue => exact h.isValue

/-- Strings and truth values open no brackets. -/
theorem Denotes.string_at {depth : Nat} {x : List Symbol} {t : String}
    (h : Denotes depth x (.string t)) (depth' : Nat) : Denotes depth' x (.string t) := by
  cases h with
  | string h => exact .string h

theorem Denotes.bool_at {depth : Nat} {x : List Symbol} {b : Bool} (h : Denotes depth x (.bool b))
    (depth' : Nat) : Denotes depth' x (.bool b) := by
  cases h with
  | true => exact .true
  | false => exact .false

end SourceRegistry.Json
