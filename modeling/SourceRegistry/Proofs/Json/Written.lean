import SourceRegistry.Proofs.Json.Fields
import SourceRegistry.Proofs.Json.Printer
import SourceRegistry.Proofs.Members
import SourceRegistry.Proofs.Number.Numerals

/-!
# Written values denote themselves

The text of a value denotes the value, if its numbers are whole and fit sixty-four bits, and if the
members of its objects are in ascending order: `Fits.denotes`. An object with its members in another
order is still the text of an object with these members.
-/

namespace SourceRegistry.Json

open Text (Symbol)

/-- A character is spelled by its escape. -/
theorem spells_escapeChar (c : Char) {x : List Symbol} {t : List Char} (h : Spells x t) :
    Spells ((escapeChar c).map .char ++ x) (c :: t) := by
  have hcontrol : ∀ n < 0x20, (∀ c ∈ [Symbol.char '0', .char '0', .char (Text.hexDigit (n / 16)),
      .char (Text.hexDigit (n % 16))], (hexValue? c).isSome) ∧
      escaped (codePoint [.char '0', .char '0', .char (Text.hexDigit (n / 16)),
        .char (Text.hexDigit (n % 16))]) none = .char (Char.ofNat n) := by
    decide
  unfold escapeChar
  split
  · next hc =>
    subst hc
    exact .escape rfl h
  · next hquote =>
    split
    · next hc =>
      subst hc
      exact .escape rfl h
    · next hslash =>
      split
      · next hc => exact hc ▸ .escape rfl h
      split
      · next hc => exact hc ▸ .escape rfl h
      split
      · next hc => exact hc ▸ .escape rfl h
      split
      · next hc => exact hc ▸ .escape rfl h
      split
      · next hc => exact hc ▸ .escape rfl h
      split
      · next hc =>
        obtain ⟨hsome, hchar⟩ := hcontrol c.toNat hc
        rw [Char.ofNat_toNat] at hchar
        exact .code hsome hchar h
      · next hc => exact .plain hquote hslash hc h

theorem spells_escaped (t : List Char) :
    Spells ((t.flatMap escapeChar ++ ['\x22']).map .char) t := by
  induction t with
  | nil => exact .close
  | cons c t ih =>
    rw [List.flatMap_cons, List.append_assoc, List.map_append]
    exact spells_escapeChar c ih

theorem denotes_stringChars (depth : Nat) (s : String) :
    Denotes depth ((stringChars s).map .char) (.string s) := .string (spells_escaped s.toList)

/-- Numerals do not start with zeros. -/
theorem exists_toDigits_ne_zero {n : Nat} (h : n ≠ 0) :
    ∃ c cs, Nat.toDigits 10 n = c :: cs ∧ c ≠ '0' := by
  induction n using Nat.strongRecOn with
  | ind n ih =>
    by_cases hlt : n < 10
    · exact ⟨n.digitChar, [], Nat.toDigits_of_lt_base hlt, by simpa using h⟩
    · obtain ⟨c, cs, hcs, hc⟩ := ih (n / 10) (by omega) (by omega)
      refine ⟨c, cs ++ [(n % 10).digitChar], ?_, hc⟩
      rw [Nat.toDigits_of_base_le (by decide) (by omega), hcs, List.cons_append]

theorem digit?_of_isDigit {c : Char} (h : Binary64.isDigit c = true) :
    digit? (.char c) = some (c.toNat - 48) := if_pos (of_decide_eq_true h)

theorem isWhole_toDigits (n : Nat) : IsWhole ((Nat.toDigits 10 n).map .char) := by
  have hdigits : ∀ c ∈ Nat.toDigits 10 n, (digit? (.char c)).isSome := fun c hc => by
    rw [digit?_of_isDigit (Binary64.isDigit_of_mem hc)]
    rfl
  by_cases h : n = 0
  · subst h
    exact .zero
  · obtain ⟨c, cs, hcs, hc⟩ := exists_toDigits_ne_zero h
    rw [hcs, List.forall_mem_cons] at hdigits
    rw [hcs, List.map_cons]
    refine .digits hdigits.1 (fun he => hc (Symbol.char.inj he)) fun s hs => ?_
    obtain ⟨c, hc, rfl⟩ := List.mem_map.1 hs
    exact hdigits.2 c hc

theorem wholeValue_toDigits (n : Nat) : wholeValue ((Nat.toDigits 10 n).map .char) = n := by
  have hvalue : ∀ (cs : List Char) (m : Nat), (∀ c ∈ cs, Binary64.isDigit c = true) →
      ((cs.map Symbol.char).filterMap digit?).foldl (fun n d => 10 * n + d) m =
        cs.foldl (fun n c => 10 * n + (c.toNat - 48)) m := by
    intro cs
    induction cs with
    | nil => exact fun _ _ => rfl
    | cons c cs ih =>
      intro m hcs
      rw [List.forall_mem_cons] at hcs
      rw [List.map_cons, List.filterMap_cons_some (digit?_of_isDigit hcs.1), List.foldl_cons,
        List.foldl_cons, ih _ hcs.2]
  exact (hvalue _ 0 fun _ h => Binary64.isDigit_of_mem h).trans (Binary64.numeral_toDigits n)

theorem denotes_wholeText {depth : Nat} {n : Int} (hlow : -(twoPow 63 : Int) ≤ n)
    (hhigh : n < twoPow 64) :
    Denotes depth ((Number.whole n).text.toList.map .char) (.number (.whole n)) := by
  rw [Number.text, Int.toString_eq_repr, Int.repr_eq_if]
  split
  · next h =>
    obtain ⟨k, rfl⟩ := Int.eq_ofNat_of_zero_le h
    have hlt : wholeValue ((Nat.toDigits 10 k).map .char) < wordLimit := by
      rw [wholeValue_toDigits]
      exact Int.ofNat_lt.1 hhigh
    have hk := DenotesWhole.positive (isWhole_toDigits k) hlt
    rw [wholeValue_toDigits] at hk
    rw [Int.toNat_natCast, Nat.toList_repr]
    exact .positive hk
  · next h =>
    obtain ⟨k, rfl⟩ : ∃ k : Nat, n = -(k : Int) := ⟨(-n).toNat, by omega⟩
    have hvalue := wholeValue_toDigits k
    have hk := DenotesWhole.negative (isWhole_toDigits k) (by omega) (by omega)
    rw [hvalue] at hk
    rw [Int.neg_neg, Int.toNat_natCast, String.toList_append, Nat.toList_repr]
    exact .negative hk

theorem separated_cons_cons (one two : List Char) (rest : List (List Char)) :
    separated (one :: two :: rest) = one ++ ',' :: separated (two :: rest) := by
  rw [separated]
  exact List.cons_ne_nil two rest

/-- What is written with commas are the parts of a list or an object. -/
theorem separated_append {ε : Type} (chars : ε → List Char) {part : ε → Part}
    (h : ∀ e, (chars e).map Symbol.char = (part e).lead ++ ((part e).value ++ (part e).after))
    (l : List ε) (t : List Symbol) :
    (separated (l.map chars)).map .char ++ t = partsText true (l.map part) t := by
  have hrest : ∀ (e : ε) (l : List ε), (separated ((e :: l).map chars)).map .char ++ t =
      (chars e).map .char ++ partsText false (l.map part) t := by
    intro e l
    induction l generalizing e with
    | nil => rfl
    | cons e' l ih =>
      have hcons : separated ((e :: e' :: l).map chars) =
          chars e ++ ',' :: separated ((e' :: l).map chars) := separated_cons_cons _ _ _
      rw [hcons, List.map_append, List.map_cons, List.append_assoc, List.cons_append, ih, h e']
      simp [partsText]
  cases l with
  | nil => rfl
  | cons e l =>
    rw [hrest, h]
    simp [partsText]

def writtenItem (j : Json) : Part := ⟨[], j.chars.map .char, []⟩

def writtenEntry (m : String × Json) : Entry :=
  ⟨m.1, (stringChars m.1 ++ [':']).map .char, m.2.chars.map .char, []⟩

theorem isEntry_writtenEntry {m : String × Json} (h : IsValue (m.2.chars.map .char)) :
    (writtenEntry m).IsEntry := by
  have hnil : IsBlanks [] := List.forall_mem_nil _
  have hlead := NamesMember.mk hnil (spells_escaped m.1.toList) hnil hnil
  have htext : (writtenEntry m).part.lead = [] ++ .char '\x22' ::
      ((m.1.toList.flatMap escapeChar ++ ['\x22']).map .char ++ ([] ++ .char ':' :: [])) := by
    simp [writtenEntry, stringChars]
  exact ⟨htext ▸ hlead, h, hnil⟩

theorem isList_chars {items : List Json} (h : ∀ j ∈ items, IsValue (j.chars.map .char)) :
    IsList (items.map writtenItem) ((array items).chars.map .char) := by
  have hnil : IsBlanks [] := List.forall_mem_nil _
  have hparts : ∀ p ∈ items.map writtenItem, p.IsPart .list := by
    intro p hp
    obtain ⟨j, hj, rfl⟩ := List.mem_map.1 hp
    exact ⟨.item hnil, h j hj, hnil⟩
  have htext : (array items).chars.map Symbol.char =
      .char '[' :: partsText true (items.map writtenItem) ([] ++ [.char ']']) := by
    rw [← separated_append chars fun j => (List.append_nil _).symm, chars,
      itemChars_eq_map, List.map_append]
    rfl
  exact htext ▸ .mk hparts hnil

theorem membersChars_eq_map (ms : List (String × Json)) :
    membersChars ms = ms.map fun m => memberChars m.1 (chars m.2) := by
  induction ms with
  | nil => rfl
  | cons m ms ih => rw [membersChars, ih, List.map_cons]

/-- What is written for an object is an object with these members. -/
theorem isObject_chars {ms : List (String × Json)}
    (h : ∀ m ∈ ms, IsValue (m.2.chars.map .char)) :
    IsObject (ms.map writtenEntry) ((object ms).chars.map .char) := by
  have hes : ∀ e ∈ ms.map writtenEntry, e.IsEntry := by
    intro e he
    obtain ⟨m, hm, rfl⟩ := List.mem_map.1 he
    exact isEntry_writtenEntry (h m hm)
  have htext : (object ms).chars.map Symbol.char =
      .char '\x7b' ::
        partsText true ((ms.map writtenEntry).map (·.part)) ([] ++ [.char '\x7d']) := by
    rw [List.map_map, ← separated_append fun m => memberChars m.1 (chars m.2), chars,
      membersChars_eq_map, List.map_append]
    · rfl
    · intro m
      simp [memberChars, writtenEntry]
  exact htext ▸ .mk hes (List.forall_mem_nil _)

/-! ## Values -/

/-- Values that are written so that they can be read back: their numbers are whole and fit
sixty-four bits, the members of their objects are in order, and no more than `depth` brackets are
open at once in them. -/
inductive Fits : Nat → Json → Prop
  | null {depth : Nat} : Fits depth null
  | bool {depth : Nat} (b : Bool) : Fits depth (bool b)
  | number {depth : Nat} {n : Int} (hlow : -(twoPow 63 : Int) ≤ n) (hhigh : n < twoPow 64) :
    Fits depth (number (.whole n))
  | string {depth : Nat} (t : String) : Fits depth (string t)
  | array {depth : Nat} {items : List Json} (h : ∀ j ∈ items, Fits depth j) :
    Fits (depth + 1) (array items)
  | object {depth : Nat} {ms : List (String × Json)} (hm : Members.Ascending ms)
    (h : ∀ m ∈ ms, Fits depth m.2) : Fits (depth + 1) (object ms)

/-- The text of a value denotes the value. -/
theorem Fits.denotes {depth : Nat} {j : Json} (h : Fits depth j) :
    Denotes depth (j.chars.map .char) j := by
  induction h with
  | null => exact .null
  | bool b =>
    cases b with
    | true => exact .true
    | false => exact .false
  | number hlow hhigh => exact denotes_wholeText hlow hhigh
  | string t => exact denotes_stringChars _ t
  | @array depth items h ih =>
    have hvalue : ∀ m ∈ items.map fun j => (writtenItem j, j), Denotes depth m.1.value m.2 := by
      intro m hm
      obtain ⟨j, hj, rfl⟩ := List.mem_map.1 hm
      exact ih j hj
    have hlist := isList_chars fun j hj => (ih j hj).isValue
    have hparts : (items.map fun j => (writtenItem j, j)).map (·.1) = items.map writtenItem :=
      List.map_map
    have hitems : (items.map fun j => (writtenItem j, j)).map (·.2) = items :=
      List.map_map.trans (List.map_id items)
    have hd := Denotes.list (hparts ▸ hlist) hvalue
    rwa [hitems] at hd
  | @object depth ms hm h ih =>
    have hvalue : ∀ m ∈ ms.map fun m => (writtenEntry m, m.2),
        Denotes depth m.1.part.value m.2 := by
      intro _ hentry
      obtain ⟨m, hmem, rfl⟩ := List.mem_map.1 hentry
      exact ih m hmem
    have hobject := isObject_chars fun m hm => (ih m hm).isValue
    have hes : (ms.map fun m => (writtenEntry m, m.2)).map (·.1) = ms.map writtenEntry :=
      List.map_map
    have hms : (ms.map fun m => (writtenEntry m, m.2)).map (fun m => (m.1.name, m.2)) = ms :=
      List.map_map.trans (List.map_id ms)
    have hd := Denotes.object (hes ▸ hobject) hvalue
    rwa [hms, Members.ofList_of_ascending hm] at hd

namespace Entry

theorem isText_written (name t : String) : (writtenEntry (name, .string t)).IsText t :=
  denotes_stringChars 0 t

theorem isTruth_written (name : String) (b : Bool) : (writtenEntry (name, .bool b)).IsTruth b :=
  (Fits.bool b).denotes

theorem isCount_written (name : String) {bits n : Nat} (hbits : twoPow bits ≤ twoPow 64)
    (h : Word.fits bits n = true) : (writtenEntry (name, .ofNat n)).IsCount bits n := by
  have hlt : n < twoPow bits := of_decide_eq_true h
  have hlow : -(twoPow 63 : Int) ≤ n := by omega
  exact ⟨denotes_wholeText hlow (Int.ofNat_lt.2 (Nat.lt_of_lt_of_le hlt hbits)), h⟩

theorem isTexts_written (name : String) (l : List String) :
    (writtenEntry (name, .ofStrings l)).IsTexts l := by
  refine (Fits.array fun j hj => ?_).denotes
  obtain ⟨t, -, rfl⟩ := List.mem_map.1 hj
  exact .string t

end Entry

/-- A written value is read as the symbols of its characters. -/
theorem Decoder.parse_text {α : Type} (d : Decoder α) (j : Json) :
    d.parse j.text = d.run (j.chars.map .char) := by
  rw [parse, Text.symbols, text, String.toList_ofList]

end SourceRegistry.Json
