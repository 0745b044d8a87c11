import SourceRegistry.Proofs.Identifier
import SourceRegistry.Proofs.Json.Local

/-!
# The forms of identifiers

`Uuid.Form` says which texts stand for a UUID: its digits, its digits in groups with hyphens
between them, the latter in braces, and the latter behind a name. These are the texts that are
read, `ofChars?_eq_some_iff`, and one of them is the text that is written. `TextFormat` says what
follows for identifiers: as plain text they may have white space around them, in JSON not.
-/

namespace SourceRegistry

namespace Uuid

/-- The thirty-two digits of a UUID, each in either letter case. -/
def SpelledBy (u : Uuid) (cs : List Char) : Prop := cs.map Char.toLower = u.digits.map digitChar

/-- The digits in groups of eight, four, four, four and twelve, with hyphens between them. -/
inductive Hyphenated (u : Uuid) : List Char → Prop
  | groups {a b c d e : List Char} (ha : a.length = 8) (hb : b.length = 4) (hc : c.length = 4)
    (hd : d.length = 4) (he : e.length = 12) (h : u.SpelledBy (a ++ (b ++ (c ++ (d ++ e))))) :
    Hyphenated u (a ++ '-' :: (b ++ '-' :: (c ++ '-' :: (d ++ '-' :: e))))

/-- The texts that stand for a UUID. The last form begins with one of some names. -/
inductive Form (names : List Char → Prop) (u : Uuid) : List Char → Prop
  | simple {cs : List Char} (h : u.SpelledBy cs) : Form names u cs
  | hyphenated {cs : List Char} (h : u.Hyphenated cs) : Form names u cs
  | braced {cs : List Char} (h : u.Hyphenated cs) : Form names u ('\x7b' :: (cs ++ ['\x7d']))
  | named {name cs : List Char} (hname : names name) (h : u.Hyphenated cs) :
      Form names u (name ++ cs)

def IsUrn (name : List Char) : Prop := name.map Char.toLower = urn

theorem digit?_eq_some_iff {c : Char} {d : Fin 16} :
    digit? c = some d ↔ c.toLower = digitChar d := by
  by_cases hc : c.toNat < 128
  · have hall : ∀ n < 128, ∀ d : Fin 16,
        digit? (Char.ofNat n) = some d ↔ (Char.ofNat n).toLower = digitChar d := by decide +kernel
    have h := hall c.toNat hc d
    rwa [Char.ofNat_toNat] at h
  · have hdigit : ∀ d : Fin 16, (digitChar d).toNat < 128 := by decide
    have hbound : ∀ m : Char, m.toNat < 128 → ¬ c ≤ m := fun m hm hle =>
      hc (Nat.lt_of_le_of_lt hle hm)
    have hnone : Text.hexValue? c = none := by
      unfold Text.hexValue?
      rw [if_neg fun h => hbound '9' (by decide) h.2, if_neg fun h => hbound 'f' (by decide) h.2,
        if_neg fun h => hbound 'F' (by decide) h.2]
    have hlower : c.toLower = c := dif_neg fun h => hbound 'Z' (by decide) h.2
    rw [digit?, hnone, hlower]
    constructor
    · exact fun h => nomatch h
    · rintro rfl
      exact absurd (hdigit d) hc

theorem mapM_digit?_eq_some_iff {cs : List Char} {ds : List (Fin 16)} :
    cs.mapM digit? = some ds ↔ cs.map Char.toLower = ds.map digitChar := by
  induction cs generalizing ds with
  | nil =>
    cases ds with
    | nil => exact ⟨fun _ => rfl, fun _ => rfl⟩
    | cons d ds => exact ⟨nofun, nofun⟩
  | cons c cs ih =>
    simp only [List.mapM_cons, bind, pure, Option.bind_eq_some_iff, Option.some_inj,
      digit?_eq_some_iff, ih, List.map_cons]
    constructor
    · rintro ⟨d, hd, ds, hds, rfl⟩
      rw [hd, hds]
      rfl
    · intro h
      cases ds with
      | nil => cases h
      | cons d ds =>
        obtain ⟨hd, hds⟩ := List.cons.inj h
        exact ⟨d, hd, ds, hds, rfl⟩

theorem ofDigits?_eq_some_iff {cs : List Char} {u : Uuid} :
    ofDigits? cs = some u ↔ u.SpelledBy cs := by
  rw [SpelledBy, ← mapM_digit?_eq_some_iff, ofDigits?, Option.bind_eq_some_iff]
  obtain ⟨ds, hl⟩ := u
  constructor
  · rintro ⟨ds', hm, hu⟩
    split at hu
    · cases hu
      exact hm
    · cases hu
  · exact fun hm => ⟨ds, hm, dif_pos hl⟩

theorem SpelledBy.length_eq {u : Uuid} {cs : List Char} (h : u.SpelledBy cs) : cs.length = 32 :=
  length_of_ofDigits? (ofDigits?_eq_some_iff.2 h)

theorem drop_eq_cons_iff {cs rest : List Char} {c : Char} {n : Nat} :
    cs.drop n = c :: rest ↔ (cs.take n).length = n ∧ cs = cs.take n ++ c :: rest := by
  constructor
  · intro h
    have hlt : n < cs.length := by
      have := congrArg List.length h
      rw [List.length_drop, List.length_cons] at this
      omega
    refine ⟨List.length_take_of_le (Nat.le_of_lt hlt), ?_⟩
    rw [← h, List.take_append_drop]
  · rintro ⟨hl, hcs⟩
    rw [hcs, List.drop_left' hl]

/-- A group, its hyphen and what is behind it. -/
theorem dehyphenate?_cons_iff {n m : Nat} {ns : List Nat} {cs l : List Char} :
    dehyphenate? (n :: m :: ns) cs = some l ↔ ∃ a rest l', a.length = n ∧ cs = a ++ '-' :: rest ∧
      dehyphenate? (m :: ns) rest = some l' ∧ l = a ++ l' := by
  rw [dehyphenate?]
  · constructor
    · intro h
      split at h
      · next rest hdrop =>
        obtain ⟨hl, hcs⟩ := drop_eq_cons_iff.1 hdrop
        obtain ⟨l', hl', rfl⟩ := Option.map_eq_some_iff.1 h
        exact ⟨_, rest, l', hl, hcs, hl', rfl⟩
      · cases h
    · rintro ⟨a, rest, l', ha, rfl, hl', rfl⟩
      rw [List.drop_left' ha, List.take_left' ha]
      simp only [hl', Option.map_some]
  · exact List.cons_ne_nil m ns

theorem dehyphenate?_singleton_iff {n : Nat} {cs l : List Char} :
    dehyphenate? [n] cs = some l ↔ l = cs ∧ cs.length = n := by
  rw [dehyphenate?]
  split
  · next h => simp [h, eq_comm]
  · next h => simp [h]

theorem ofHyphenated?_eq_some_iff {cs : List Char} {u : Uuid} :
    ofHyphenated? cs = some u ↔ u.Hyphenated cs := by
  rw [ofHyphenated?, Option.bind_eq_some_iff, groupLengths]
  simp only [dehyphenate?_cons_iff, dehyphenate?_singleton_iff, ofDigits?_eq_some_iff]
  constructor
  · rintro ⟨_, ⟨a, _, _, ha, rfl, ⟨b, _, _, hb, rfl, ⟨c, _, _, hc, rfl, ⟨d, e, _, hd, rfl,
      ⟨rfl, he⟩, rfl⟩, rfl⟩, rfl⟩, rfl⟩, h⟩
    exact .groups ha hb hc hd he h
  · rintro ⟨ha, hb, hc, hd, he, h⟩
    exact ⟨_, ⟨_, _, _, ha, rfl, ⟨_, _, _, hb, rfl, ⟨_, _, _, hc, rfl, ⟨_, _, _, hd, rfl,
      ⟨rfl, he⟩, rfl⟩, rfl⟩, rfl⟩, rfl⟩, h⟩

theorem Hyphenated.length_eq {u : Uuid} {cs : List Char} (h : u.Hyphenated cs) :
    cs.length = 36 := by
  obtain ⟨ha, hb, hc, hd, he, -⟩ := h
  simp only [List.length_append, List.length_cons]
  omega

/-! ## Reading -/

theorem unbraced?_eq_some_iff {cs inner : List Char} :
    unbraced? cs = some inner ↔ cs = '\x7b' :: (inner ++ ['\x7d']) := by
  unfold unbraced?
  split
  · next rest =>
    rw [List.cons_inj_right]
    split
    · next hlast =>
      obtain ⟨ys, rfl⟩ := List.getLast?_eq_some_iff.1 hlast
      simp [eq_comm]
    · next hlast =>
      refine ⟨nofun, ?_⟩
      rintro rfl
      exact absurd List.getLast?_concat hlast
  · next hne =>
    refine ⟨nofun, ?_⟩
    rintro rfl
    exact absurd rfl (hne _)

theorem IsUrn.length_eq {name : List Char} (h : IsUrn name) : name.length = 9 := by
  rw [← List.length_map (f := Char.toLower), h]
  rfl

theorem unnamed?_eq_some_iff {cs inner : List Char} :
    unnamed? cs = some inner ↔ ∃ name, IsUrn name ∧ cs = name ++ inner := by
  rw [unnamed?]
  constructor
  · intro h
    split at h
    · next hname =>
      cases h
      exact ⟨_, hname, (List.take_append_drop 9 cs).symm⟩
    · cases h
  · rintro ⟨name, hname, rfl⟩
    rw [List.take_left' hname.length_eq, List.drop_left' hname.length_eq]
    exact if_pos hname

theorem braced_eq_some_iff {cs : List Char} {u : Uuid} :
    (unbraced? cs).bind ofHyphenated? = some u ↔
      ∃ inner, cs = '\x7b' :: (inner ++ ['\x7d']) ∧ u.Hyphenated inner := by
  simp only [Option.bind_eq_some_iff, unbraced?_eq_some_iff, ofHyphenated?_eq_some_iff]

theorem named_eq_some_iff {cs : List Char} {u : Uuid} :
    (unnamed? cs).bind ofHyphenated? = some u ↔
      ∃ inner, (∃ name, IsUrn name ∧ cs = name ++ inner) ∧ u.Hyphenated inner := by
  simp only [Option.bind_eq_some_iff, unnamed?_eq_some_iff, ofHyphenated?_eq_some_iff]

theorem orElse_eq_some_iff_of_disjoint {α : Type} {x y : Option α}
    (h : ∀ a b, x = some a → y ≠ some b) {a : α} :
    (x <|> y) = some a ↔ x = some a ∨ y = some a := by
  cases x with
  | none => simp
  | some b =>
    cases y with
    | none => simp
    | some c => exact absurd rfl (h b c rfl)

/-- The texts that are read are the forms, and they are read as what they stand for. The length of
a text tells which form it may have. -/
theorem ofChars?_eq_some_iff {cs : List Char} {u : Uuid} :
    ofChars? cs = some u ↔ u.Form IsUrn cs := by
  have hdigits : ∀ {v}, ofDigits? cs = some v → cs.length = 32 := length_of_ofDigits?
  have hhyphens : ∀ {v}, ofHyphenated? cs = some v → cs.length = 36 := fun h =>
    (ofHyphenated?_eq_some_iff.1 h).length_eq
  have hbraces : ∀ {v}, (unbraced? cs).bind ofHyphenated? = some v → cs.length = 38 := by
    intro v h
    obtain ⟨inner, rfl, hv⟩ := braced_eq_some_iff.1 h
    rw [List.length_cons, List.length_append, hv.length_eq]
    rfl
  have hname : ∀ {v}, (unnamed? cs).bind ofHyphenated? = some v → cs.length = 45 := by
    intro v h
    obtain ⟨inner, ⟨name, hn, rfl⟩, hv⟩ := named_eq_some_iff.1 h
    rw [List.length_append, hn.length_eq, hv.length_eq]
  have hread : ofChars? cs = some u ↔ ofDigits? cs = some u ∨ ofHyphenated? cs = some u ∨
      (unbraced? cs).bind ofHyphenated? = some u ∨ (unnamed? cs).bind ofHyphenated? = some u := by
    have hlast {v : Uuid} : ((unbraced? cs).bind ofHyphenated? <|>
        (unnamed? cs).bind ofHyphenated?) = some v ↔ _ :=
      orElse_eq_some_iff_of_disjoint fun _ _ h h' =>
        absurd ((hbraces h).symm.trans (hname h')) (by decide)
    have hgroups {v : Uuid} : (ofHyphenated? cs <|> (unbraced? cs).bind ofHyphenated? <|>
        (unnamed? cs).bind ofHyphenated?) = some v ↔ _ :=
      orElse_eq_some_iff_of_disjoint fun _ _ h h' => (hlast.1 h').elim
        (fun h' => absurd ((hhyphens h).symm.trans (hbraces h')) (by decide))
        fun h' => absurd ((hhyphens h).symm.trans (hname h')) (by decide)
    rw [ofChars?, orElse_eq_some_iff_of_disjoint, hgroups, hlast]
    intro v w h h'
    rw [hgroups, hlast] at h'
    rcases h' with h' | h' | h'
    · exact absurd ((hdigits h).symm.trans (hhyphens h')) (by decide)
    · exact absurd ((hdigits h).symm.trans (hbraces h')) (by decide)
    · exact absurd ((hdigits h).symm.trans (hname h')) (by decide)
  rw [hread, ofDigits?_eq_some_iff, ofHyphenated?_eq_some_iff, braced_eq_some_iff,
    named_eq_some_iff]
  constructor
  · rintro (h | h | ⟨inner, rfl, h⟩ | ⟨inner, ⟨name, hn, rfl⟩, h⟩)
    · exact .simple h
    · exact .hyphenated h
    · exact .braced h
    · exact .named hn h
  · rintro (h | h | h | ⟨hn, h⟩)
    · exact .inl h
    · exact .inr (.inl h)
    · exact .inr (.inr (.inl ⟨_, rfl, h⟩))
    · exact .inr (.inr (.inr ⟨_, ⟨_, hn, rfl⟩, h⟩))

theorem hyphenated_chars (u : Uuid) : u.Hyphenated u.chars := by
  have hl : (u.digits.map digitChar).length = groupLengths.sum := by
    rw [List.length_map, u.length_digits]
    decide
  rw [← ofHyphenated?_eq_some_iff, ofHyphenated?, chars, dehyphenate?_hyphenated hl,
    Option.bind_some, ofDigits?_map_digitChar]

def writtenChars : List Char :=
  ['-', '0', '1', '2', '3', '4', '5', '6', '7', '8', '9', 'a', 'b', 'c', 'd', 'e', 'f']

theorem mem_writtenChars (u : Uuid) : ∀ c ∈ u.chars, c ∈ writtenChars :=
  u.forall_mem_chars (by decide) (by decide)

theorem isSpace_toLower {c : Char} (h : Text.isSpace c = true) : Text.isSpace c.toLower = true := by
  have hlower : c.toLower = c := by
    refine dif_neg fun hletter => ?_
    have hA : 65 ≤ c.toNat := hletter.1
    have hZ : c.toNat ≤ 90 := hletter.2
    obtain ⟨r, hr, hle, hge⟩ := Text.inRanges_eq_true_iff.1 h
    simp only [Text.spaceRanges, List.mem_cons, List.not_mem_nil, or_false] at hr
    rcases hr with rfl | rfl | rfl | rfl | rfl | rfl | rfl | rfl | rfl | rfl <;>
      dsimp only at hle hge <;> omega
  rwa [hlower]

/-- A text without white space in lower case has none. -/
theorem not_isSpace_of_map_toLower {cs : List Char}
    (h : ∀ c ∈ cs.map Char.toLower, Text.isSpace c = false) : ∀ c ∈ cs, Text.isSpace c = false := by
  intro c hc
  cases hs : Text.isSpace c with
  | false => rfl
  | true => exact (isSpace_toLower hs).symm.trans (h _ (List.mem_map_of_mem hc))

theorem SpelledBy.not_isSpace {u : Uuid} {cs : List Char} (h : u.SpelledBy cs) :
    ∀ c ∈ cs, Text.isSpace c = false := by
  refine not_isSpace_of_map_toLower fun c hc => ?_
  rw [h] at hc
  obtain ⟨d, -, rfl⟩ := List.mem_map.1 hc
  exact (by decide : ∀ d, Text.isSpace (digitChar d) = false) d

theorem Hyphenated.not_isSpace {u : Uuid} {cs : List Char} (h : u.Hyphenated cs) :
    ∀ c ∈ cs, Text.isSpace c = false := by
  obtain ⟨-, -, -, -, -, h⟩ := h
  have hs := h.not_isSpace
  have hhyphen : Text.isSpace '-' = false := by decide
  simp only [List.forall_mem_append, List.forall_mem_cons] at hs ⊢
  obtain ⟨ha, hb, hc, hd, he⟩ := hs
  exact ⟨ha, hhyphen, hb, hhyphen, hc, hhyphen, hd, hhyphen, he⟩

theorem Form.not_isSpace {u : Uuid} {cs : List Char} (h : u.Form IsUrn cs) :
    ∀ c ∈ cs, Text.isSpace c = false := by
  cases h with
  | simple h => exact h.not_isSpace
  | hyphenated h => exact h.not_isSpace
  | braced h =>
    rw [List.forall_mem_cons, List.forall_mem_append, List.forall_mem_singleton]
    exact ⟨by decide, h.not_isSpace, by decide⟩
  | named hname h =>
    refine List.forall_mem_append.2 ⟨not_isSpace_of_map_toLower ?_, h.not_isSpace⟩
    have hurn : urn.any Text.isSpace = false := by decide
    rw [hname]
    exact fun c hc => Bool.eq_false_iff.2 (List.any_eq_false.1 hurn c hc)

theorem ofString?_eq_some_iff {s : String} {u : Uuid} :
    ofString? s = some u ↔ u.Form IsUrn s.toList := ofChars?_eq_some_iff

/-- A string is decoded as what its text stands for, and nothing else stands for anything. -/
theorem decoder_eq_ok_iff {x gap : List Text.Symbol} {t : List Char} (hgap : Json.IsBlanks gap)
    (h : Json.Spells x t) (depth : Nat) (r : List Text.Symbol) {u : Uuid} {s : List Text.Symbol} :
    decoder depth (gap ++ .char '\x22' :: (x ++ r)) = .ok (u, s) ↔ u.Form IsUrn t ∧ s = r := by
  have hpeek : Json.peek (gap ++ .char '\x22' :: (x ++ r)) = .ok (.string, x ++ r) := by
    rw [Json.peek, Json.skipBlanks_append hgap (by decide)]
    rfl
  have hread : decoder depth (gap ++ .char '\x22' :: (x ++ r)) =
      match decode (String.ofList t) with
      | .ok v => .ok (v, r)
      | .error reason => Json.mismatch (.refused reason) r := by
    unfold decoder Json.Decoder.parsed
    rw [hpeek]
    simp only [bind, Except.bind, Json.stringBody_append h]
    cases decode (String.ofList t) <;> rfl
  rw [hread, ← String.toList_ofList (l := t), ← ofString?_eq_some_iff, decode, String.ofList_toList]
  cases ofString? (String.ofList t) with
  | some v => simp [eq_comm]
  | none => simp [Json.mismatch, Json.failAt]

end Uuid

/-! ## Identifiers -/

structure TextFormat {ι : Type} (uuid : ι → Uuid) (text : ι → String)
    (ofString? : String → Option ι) (decoder : Json.Decoder ι) : Prop where
  /-- Exactly the forms are read, behind and in front of any white space. -/
  ofString?_iff : ∀ s i, ofString? s = some i ↔ (uuid i).Form Uuid.IsUrn (Text.trim s).toList
  hyphenated_text : ∀ i, (uuid i).Hyphenated (text i).toList
  length_text : ∀ i, (text i).length = 36
  mem_text : ∀ i, ∀ c ∈ (text i).toList, c ∈ Uuid.writtenChars
  ofString?_padded : ∀ i before after, (∀ c ∈ before.toList, Text.isSpace c = true) →
    (∀ c ∈ after.toList, Text.isSpace c = true) → ofString? (before ++ text i ++ after) = some i
  /-- Exactly the forms without white space are decoded, however the string is written. -/
  decoder_iff : ∀ {x gap t}, Json.IsBlanks gap → Json.Spells x t → ∀ depth r i s,
    decoder depth (gap ++ .char '\x22' :: (x ++ r)) = .ok (i, s) ↔
      (uuid i).Form Uuid.IsUrn t ∧ s = r
  ofString?_form : ∀ i t, (uuid i).Form Uuid.IsUrn t → ofString? (String.ofList t) = some i
  json_text : ∀ i, (Json.string (text i)).text = "\x22" ++ text i ++ "\x22"
  eq_iff : ∀ s t i j, ofString? s = some i → ofString? t = some j → (i = j ↔ text i = text j)

namespace TextFormat

/-- What is no more than a UUID has the format of UUIDs. -/
theorem of_uuid {ι : Type} {uuid : ι → Uuid} (mk : Uuid → ι) (hmk : ∀ {u i}, mk u = i ↔ u = uuid i)
    {text : ι → String} (htext : ∀ i, text i = (uuid i).text)
    {ofString? : String → Option ι}
    (hof : ∀ s, ofString? s = (Uuid.ofString? (Text.trim s)).map mk)
    {decoder : Json.Decoder ι} (hdecoder : ∀ depth s,
      decoder depth s = (Uuid.decoder depth s).map fun a => (mk a.1, a.2)) :
    TextFormat uuid text ofString? decoder := by
  have hread : ∀ s i, ofString? s = some i ↔ (uuid i).Form Uuid.IsUrn (Text.trim s).toList := by
    intro s i
    simp only [hof, Option.map_eq_some_iff, hmk, exists_eq_right, Uuid.ofString?_eq_some_iff]
  have hchars : ∀ i, (text i).toList = (uuid i).chars := fun i => by
    rw [htext, Uuid.toList_text]
  have hform : ∀ i, (uuid i).Form Uuid.IsUrn (text i).toList := fun i => by
    rw [hchars]
    exact .hyphenated (Uuid.hyphenated_chars _)
  have htrim : ∀ i, Text.trim (text i) = text i := fun i => by
    rw [htext, Uuid.trim_text]
  exact {
    ofString?_iff := hread
    hyphenated_text := fun i => hchars i ▸ Uuid.hyphenated_chars _
    length_text := fun i => by
      rw [← String.length_toList, hchars, Uuid.length_chars]
    mem_text := fun i => hchars i ▸ Uuid.mem_writtenChars _
    ofString?_padded := fun i before after hb ha => by
      rw [hread, Text.trim_padded hb ha, htrim]
      exact hform i
    decoder_iff := by
      intro x gap t hgap h depth r i s
      rw [hdecoder, ← Uuid.decoder_eq_ok_iff hgap h depth r]
      cases Uuid.decoder depth (gap ++ .char '\x22' :: (x ++ r)) with
      | error f => simp [Except.map]
      | ok a => simp [Except.map, Prod.ext_iff, hmk]
    ofString?_form := fun i t h => by
      have hspace : ∀ c ∈ (String.ofList t).toList, Text.isSpace c = false := by
        rw [String.toList_ofList]
        exact h.not_isSpace
      rw [hread, Text.trim_of_not_isSpace hspace, String.toList_ofList]
      exact h
    json_text := fun i => by
      refine String.toList_injective ?_
      rw [Json.text, Json.chars, htext, Uuid.stringChars_text, String.toList_ofList,
        String.toList_append, String.toList_append, Uuid.toList_text]
      rfl
    eq_iff := fun s t i j _ _ => by
      refine ⟨fun h => h ▸ rfl, fun h => ?_⟩
      have hu : uuid i = uuid j := Uuid.chars_injective (by rw [← hchars, ← hchars, h])
      rw [← hmk.2 hu, hmk.2 rfl] }

end TextFormat

/-- Both types of identifiers are written and read as UUIDs are. -/
theorem textFormat_identifiers :
    TextFormat WorkspaceId.uuid WorkspaceId.text WorkspaceId.ofString? WorkspaceId.decoder ∧
      TextFormat DataSourceId.uuid DataSourceId.text DataSourceId.ofString?
        DataSourceId.decoder := by
  have hbind : ∀ {α β : Type} (f : α → β) (x : Except Json.Fault (α × List Text.Symbol)),
      (x >>= fun a => .ok (f a.1, a.2)) = x.map fun a => (f a.1, a.2) := by
    intro α β f x
    cases x <;> rfl
  constructor
  · refine TextFormat.of_uuid WorkspaceId.mk ?_ (fun _ => rfl) (fun _ => rfl)
      fun depth s => hbind _ _
    rintro u ⟨v⟩
    exact WorkspaceId.mk.injEq u v ▸ Iff.rfl
  · refine TextFormat.of_uuid DataSourceId.mk ?_ (fun _ => rfl) (fun _ => rfl)
      fun depth s => hbind _ _
    rintro u ⟨v⟩
    exact DataSourceId.mk.injEq u v ▸ Iff.rfl

/-- The name in front of the last form need not be in lower case. -/
theorem ofString?_capital_urn :
    (DataSourceId.ofString? "URN:UUID:67e55044-10b1-426f-9247-bb680e5fe0c8").isSome = true ∧
      ∀ u : Uuid, ¬ u.Form (· = Uuid.urn)
        (Text.trim "URN:UUID:67e55044-10b1-426f-9247-bb680e5fe0c8").toList := by
  refine ⟨by decide +kernel, fun u => ?_⟩
  generalize hcs : (Text.trim "URN:UUID:67e55044-10b1-426f-9247-bb680e5fe0c8").toList = cs
  have hlength : cs.length = 45 := by
    rw [← hcs]
    decide +kernel
  have hhead : cs.head? = some 'U' := by
    rw [← hcs]
    decide +kernel
  rintro (h | h | h | ⟨rfl, h⟩)
  · exact absurd (h.length_eq.symm.trans hlength) (by decide)
  · exact absurd (h.length_eq.symm.trans hlength) (by decide)
  · cases hhead
  · cases hhead

end SourceRegistry
