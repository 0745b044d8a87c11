import SourceRegistry.Proofs.Json.Values

/-!
# Values passed over in step

A value that nobody asks for is passed over in both texts or in neither. The brackets on the stack
are those that are open at the spot, beyond those that were open in front of the value.
-/

namespace SourceRegistry.Json

open Text (Symbol)

section
variable {E : List Symbol → List Symbol → Prop} {d : Nat} {s s' : List Symbol}

def SkipMode.inside : SkipMode → Inside
  | .plain | .digits _ => .string
  | .escape => .escape

theorem skipStringRest_lockstep (hE : PartsAtCommas E) (mode : SkipMode)
    (h : Abreast E (d, mode.inside) s s') :
    Lockstep (Ahead E (d, .plain) 0 s s') (skipStringRest mode s) (skipStringRest mode s') := by
  generalize hp : (d, mode.inside) = p at h
  induction h generalizing mode with
  | part h => cases mode <;> cases hp
  | nil =>
    rw [skipStringRest]
    exact .failAt _ _ _
  | @cons p c s s' h ih =>
    subst hp
    have hnext : ∀ {next : SkipMode}, (d, next.inside) = Spot.pass (d, mode.inside) c →
        Lockstep (Ahead E (d, .plain) 0 (c :: s) (c :: s')) (skipStringRest next s)
          (skipStringRest next s') := fun hm =>
      (ih _ hm).mono fun _ _ hu => hu.behind
    cases mode with
    | plain =>
      cases c with
      | stray b =>
        rw [skipStringRest, skipStringRest]
        exact hnext rfl
      | char c =>
        by_cases hq : c = '\x22'
        · subst hq
          exact .ok ((Ahead.tail h).weaken (Nat.zero_le _))
        · by_cases hb : c = '\\'
          · subst hb
            exact hnext rfl
          · have hs : ∀ s, skipStringRest .plain (.char c :: s) =
                if c.toNat < 0x20 then failAt .controlCharacter (.char c :: s)
                else skipStringRest .plain s := by
              intro s
              rw [skipStringRest]
              · exact hq
              · exact hb
            rw [hs, hs]
            split
            · exact .failAt _ _ _
            · refine hnext ?_
              simp [SkipMode.inside, Spot.pass, hq, hb]
    | escape =>
      rw [skipStringRest, skipStringRest]
      split
      · exact hnext rfl
      · split
        · rw [h.hasFourBytes_eq hE]
          split
          · exact hnext rfl
          · exact .failAt _ _ _
        · exact .failAt _ _ _
    | digits left =>
      rw [skipStringRest, skipStringRest]
      cases hx : hexValue? c with
      | none => exact .failAt _ _ _
      | some b =>
        have hpass := (Spot.pass_hex hx d).symm
        by_cases hl : 1 < left
        · simp only [if_pos hl, Option.isNone_some]
          exact hnext hpass
        · simp only [if_neg hl, Option.isNone_some]
          exact hnext hpass

/-! ## Numbers -/

theorem isOrdinary_of_isSome_digit? (c : Symbol) (h : (digit? c).isSome) :
    IsOrdinary c ∧ c ≠ .char ',' := by
  obtain ⟨n, hn⟩ := Option.isSome_iff_exists.1 h
  refine ⟨isOrdinary_of_digit? hn, ?_⟩
  rintro rfl
  exact absurd h (by decide)

theorem skipDigits_ahead (hE : PartsAtCommas E) (h : Abreast E (d, .plain) s s') :
    Ahead E (d, .plain) 0 s s' (skipDigits s) (skipDigits s') :=
  dropWhile_ahead hE isOrdinary_of_isSome_digit? h

theorem startsWithDigit_eq (hE : PartsAtCommas E) {p : Spot} (h : Abreast E p s s') :
    startsWithDigit s = startsWithDigit s' := by
  unfold startsWithDigit
  rw [h.head?_eq hE]

/-- Digits that are there are taken. -/
theorem skipDigits_ahead_one (hE : PartsAtCommas E) (h : Abreast E (d, .plain) s s')
    (hd : startsWithDigit s) : Ahead E (d, .plain) 1 s s' (skipDigits s) (skipDigits s') := by
  cases h with
  | part h =>
    obtain ⟨r, r', rfl, rfl, -⟩ := hE _ _ h
    cases hd
  | nil => cases hd
  | @cons _ c s s' h =>
    have hc : (digit? c).isSome := hd
    rw [Spot.pass_ordinary (isOrdinary_of_isSome_digit? c hc).1] at h
    have hs : ∀ s, skipDigits (c :: s) = skipDigits s := fun s => List.dropWhile_cons_of_pos hc
    rw [hs, hs]
    exact (Ahead.tail h).trans (skipDigits_ahead hE h)

theorem skipExponent_lockstep (hE : PartsAtCommas E) (h : Abreast E (d, .plain) s s') :
    Lockstep (Ahead E (d, .plain) 0 s s') (skipExponent s) (skipExponent s') := by
  obtain ⟨-, ht⟩ := exponentSign_ahead hE h
  unfold skipExponent
  dsimp only
  rw [startsWithDigit_eq hE ht.abreast]
  split
  · exact .ok (ht.trans (skipDigits_ahead hE ht.abreast))
  · exact .failAt _ _ _

theorem skipNumberTail_lockstep (hE : PartsAtCommas E) (h : Abreast E (d, .plain) s s') :
    Lockstep (Ahead E (d, .plain) 0 s s') (skipNumberTail s) (skipNumberTail s') := by
  unfold skipNumberTail
  rcases exponentLetter?_ahead hE h with ⟨hn, hn'⟩ | ⟨t, t', ht, ht', hread⟩
  · rw [hn, hn']
    exact .ok (.refl h)
  · rw [ht, ht']
    exact (skipExponent_lockstep hE hread.abreast).mono fun _ _ hu =>
      (hread.trans hu).weaken (Nat.zero_le _)

def skipWhole (s : List Symbol) : Except Fault (List Symbol) :=
  match s with
  | .char '0' :: s => if startsWithDigit s then failPast .badNumber s else .ok s
  | s => if startsWithDigit s then .ok (skipDigits s) else failAt .badNumber (s.drop 1)

def skipFraction (s : List Symbol) : Except Fault (List Symbol) :=
  match s with
  | .char '.' :: s =>
    if startsWithDigit s then skipNumberTail (skipDigits s) else failPast .badNumber s
  | s => skipNumberTail s

theorem skipWhole_zero (s : List Symbol) :
    skipWhole (.char '0' :: s) = if startsWithDigit s then failPast .badNumber s else .ok s := rfl

theorem skipWhole_of_head? (h : s.head? ≠ some (.char '0')) :
    skipWhole s =
      if startsWithDigit s then .ok (skipDigits s) else failAt .badNumber (s.drop 1) := by
  unfold skipWhole
  split
  · exact absurd rfl h
  · rfl

theorem skipFraction_point (s : List Symbol) :
    skipFraction (.char '.' :: s) =
      if startsWithDigit s then skipNumberTail (skipDigits s) else failPast .badNumber s := rfl

theorem skipFraction_of_head? (h : s.head? ≠ some (.char '.')) :
    skipFraction s = skipNumberTail s := by
  unfold skipFraction
  split
  · exact absurd rfl h
  · rfl

theorem skipNumber_eq (s : List Symbol) : skipNumber s = skipWhole s >>= skipFraction := by
  unfold skipNumber
  split
  · rw [skipWhole_zero]
    split <;> rfl
  · next hz =>
    rw [skipWhole_of_head? fun he => ?_]
    · split <;> rfl
    · obtain ⟨t, ht⟩ := List.head?_eq_some_iff.1 he
      exact hz t ht

theorem skipWhole_lockstep (hE : PartsAtCommas E) (h : Abreast E (d, .plain) s s') :
    Lockstep (Ahead E (d, .plain) 1 s s') (skipWhole s) (skipWhole s') := by
  by_cases hz : s.head? = some (.char '0')
  · cases h with
    | part h =>
      obtain ⟨r, r', rfl, rfl, -⟩ := hE _ _ h
      cases hz
    | nil => cases hz
    | @cons _ c s s' h =>
      cases hz
      rw [skipWhole_zero, skipWhole_zero, startsWithDigit_eq hE h]
      split
      · exact .failPast _ _ _
      · exact .ok (.tail h)
  · rw [skipWhole_of_head? hz, skipWhole_of_head? (h.head?_eq hE ▸ hz), ← startsWithDigit_eq hE h]
    split
    · next hd => exact .ok (skipDigits_ahead_one hE h hd)
    · exact .failAt _ _ _

theorem skipFraction_lockstep (hE : PartsAtCommas E) (h : Abreast E (d, .plain) s s') :
    Lockstep (Ahead E (d, .plain) 0 s s') (skipFraction s) (skipFraction s') := by
  by_cases hp : s.head? = some (.char '.')
  · cases h with
    | part h =>
      obtain ⟨r, r', rfl, rfl, -⟩ := hE _ _ h
      cases hp
    | nil => cases hp
    | @cons _ c s s' h =>
      cases hp
      rw [skipFraction_point, skipFraction_point, startsWithDigit_eq hE h]
      split
      · have ht := (Ahead.tail (c := .char '.') h).trans (skipDigits_ahead hE h)
        exact (skipNumberTail_lockstep hE ht.abreast).mono fun _ _ hu =>
          (ht.trans hu).weaken (Nat.zero_le _)
      · exact .failPast _ _ _
  · rw [skipFraction_of_head? hp, skipFraction_of_head? (h.head?_eq hE ▸ hp)]
    exact skipNumberTail_lockstep hE h

theorem skipNumber_lockstep (hE : PartsAtCommas E) (h : Abreast E (d, .plain) s s') :
    Lockstep (Ahead E (d, .plain) 1 s s') (skipNumber s) (skipNumber s') := by
  rw [skipNumber_eq, skipNumber_eq]
  refine (skipWhole_lockstep hE h).bind fun t t' ht => ?_
  exact (skipFraction_lockstep hE ht.abreast).mono fun _ _ hu => ht.trans hu

/-! ## Values -/

/-- What skipping the next value comes to: it is passed, or it opens a bracket. -/
inductive Passed (E : List Symbol → List Symbol → Prop) (d : Nat) (s s' : List Symbol) :
    Option (List Symbol) → Option (List Symbol) → Prop
  | leaf {t t' : List Symbol} (h : Ahead E (d, .plain) 1 s s' t t') :
    Passed E d s s' (some t) (some t')
  | opens : Passed E d s s' none none

theorem skipLeaf?_of_not_mem {c : Symbol}
    (hc : c ∉ [Symbol.char 'n', .char 't', .char 'f', .char '-', .char '\x22']) (s : List Symbol) :
    skipLeaf? c s =
      if (digit? c).isSome then some <$> skipNumber (c :: s)
      else if (Bracket.opening? c).isSome then .ok none else failPast .noValue (c :: s) := by
  unfold skipLeaf?
  split <;> simp_all

theorem skipLeaf?_lockstep (hE : PartsAtCommas E) {c : Symbol}
    (h : Abreast E (Spot.pass (d, .plain) c) s s') :
    Lockstep (Passed E d (c :: s) (c :: s')) (skipLeaf? c s) (skipLeaf? c s') := by
  have hword : ∀ {cs : List Char}, (∀ c ∈ cs, IsOrdinary (.char c) ∧ c ≠ ',') →
      Abreast E (d, .plain) s s' →
      Lockstep (Passed E d (c :: s) (c :: s')) (some <$> word cs s) (some <$> word cs s') :=
    fun hcs h => (word_lockstep hE hcs h).map fun _ _ hu => .leaf ((Ahead.tail h).trans hu)
  by_cases hc : c ∈ [Symbol.char 'n', .char 't', .char 'f', .char '-', .char '\x22']
  · simp only [List.mem_cons, List.not_mem_nil, or_false] at hc
    rcases hc with rfl | rfl | rfl | rfl | rfl
    · exact hword isPlainWord_null h
    · exact hword isPlainWord_true h
    · exact hword isPlainWord_false h
    · refine (skipNumber_lockstep hE (d := d) h).map fun t t' ht => .leaf ?_
      exact ((Ahead.tail h).trans ht).weaken (Nat.le_add_left 1 1)
    · refine (skipStringRest_lockstep hE .plain (d := d) h).map fun t t' ht => .leaf ?_
      exact (Ahead.tail h).trans ht
  · rw [skipLeaf?_of_not_mem hc, skipLeaf?_of_not_mem hc]
    split
    · exact (skipNumber_lockstep hE (.cons h)).map fun _ _ ht => .leaf ht
    · split
      · exact .ok .opens
      · exact .failPast _ _ _

theorem skipName_lockstep (hE : PartsAtCommas E) (h : Abreast E (d, .plain) s s') :
    Lockstep (Ahead E (d, .plain) 0 s s') (skipName s) (skipName s') := by
  have hs : ∀ s, skipName s = if skipBlanks s = [] then failPast .endOfObject []
      else if (skipBlanks s).head? = some (.char '\x22') then
        skipString (skipBlanks s).tail >>= colon
      else failPast .keyNotString (skipBlanks s) := by
    intro s
    unfold skipName
    cases skipBlanks s with
    | nil => rfl
    | cons c t =>
      rw [if_neg (List.cons_ne_nil c t)]
      by_cases hq : c = .char '\x22'
      · subst hq
        rfl
      · rw [List.head?_cons, if_neg (hq ∘ Option.some.inj)]
        split
        · next he => cases he
        · next he => exact absurd (List.cons.inj he).1 hq
        · rfl
  have hb := skipBlanks_ahead hE h
  have hhead := hb.abreast.head?_eq hE
  rw [hs, hs]
  generalize skipBlanks s = t at hb hhead
  generalize skipBlanks s' = t' at hb hhead
  cases hb.abreast with
  | part he =>
    obtain ⟨r, r', rfl, rfl, -⟩ := hE _ _ he
    exact .failPast _ _ _
  | nil => exact .failPast _ _ _
  | @cons _ c t t' ht =>
    rw [if_neg (List.cons_ne_nil c t), if_neg (List.cons_ne_nil c t'), hhead]
    split
    · next hc =>
      cases hc
      refine (skipStringRest_lockstep hE .plain ht).bind fun u u' hu => ?_
      have hread := (hb.trans (.tail ht)).trans hu
      exact (colon_lockstep hE hread.abreast).mono fun _ _ hv =>
        (hread.trans hv).weaken (Nat.zero_le _)
    · exact .failPast _ _ _

/-- The fuel that is used at a point: two steps for each symbol, and one more behind a value. -/
def skipCost (point : SkipPoint) (s : List Symbol) : Nat :=
  2 * s.length + if point = .value then 0 else 1

/-- The rest behind what has to stand between a value or an opening bracket and another value. -/
def skipBetween (b : Bracket) (point : SkipPoint) (c : Symbol) (rest : List Symbol) :
    Except Fault (List Symbol) :=
  let s := if point = .behind then rest else c :: rest
  if b = .object then skipName s else .ok s

theorem skipLoop_behind {point : SkipPoint} (hp : point ≠ .value) (fuel : Nat) (b : Bracket)
    (brackets : List Bracket) (s : List Symbol) :
    skipLoop (fuel + 1) (b :: brackets) point s =
      match skipBlanks s with
      | [] => failPast b.endCause []
      | c :: rest =>
        if c = b.closing then skipLoop fuel brackets .behind rest
        else if point = .behind ∧ c ≠ .char ',' then failPast b.commaCause (c :: rest)
        else skipBetween b point c rest >>= skipLoop fuel (b :: brackets) .value := by
  rw [skipLoop]
  · cases skipBlanks s with
    | nil => rfl
    | cons c rest =>
      dsimp only
      split
      · rfl
      · split
        · rfl
        · unfold skipBetween
          split
          · rfl
          · rfl
  · exact hp

theorem skipLoop_done {point : SkipPoint} (hp : point ≠ .value) (fuel : Nat) (s : List Symbol) :
    skipLoop (fuel + 1) [] point s = .ok s := by
  rw [skipLoop]
  exact hp

theorem Spot.pass_closing (b : Bracket) (d : Nat) :
    Spot.pass (d + 1, .plain) b.closing = (d, .plain) := by
  cases b <;> rfl

theorem Spot.pass_opening {b : Bracket} {c : Symbol} (h : Bracket.opening? c = some b) (d : Nat) :
    Spot.pass (d, .plain) c = (d + 1, .plain) := by
  unfold Bracket.opening? at h
  split at h
  · rfl
  · rfl
  · cases h

theorem skipBetween_lockstep (hE : PartsAtCommas E) (b : Bracket) {point : SkipPoint} {c : Symbol}
    (h : Abreast E (Spot.pass (d, .plain) c) s s') (hc : point = .behind → c = .char ',') :
    Lockstep (Ahead E (d, .plain) 0 (c :: s) (c :: s')) (skipBetween b point c s)
      (skipBetween b point c s') := by
  have hfrom : ∀ {t t'}, Ahead E (d, .plain) 0 (c :: s) (c :: s') t t' →
      Lockstep (Ahead E (d, .plain) 0 (c :: s) (c :: s'))
        (if b = .object then skipName t else .ok t)
        (if b = .object then skipName t' else .ok t') := by
    intro t t' ht
    split
    · exact (skipName_lockstep hE ht.abreast).mono fun _ _ hu => ht.trans hu
    · exact .ok ht
  unfold skipBetween
  by_cases hp : point = .behind
  · rw [if_pos hp, if_pos hp]
    cases hc hp
    exact hfrom ((Ahead.tail h).weaken (Nat.zero_le _))
  · rw [if_neg hp, if_neg hp]
    exact hfrom (.refl (.cons h))

/-- A step takes a symbol, or comes from behind a value to another one. -/
theorem skipCost_lt {point point' : SkipPoint} {t : List Symbol} {k n : Nat}
    (ht : t.length + k ≤ s.length) (hn : skipCost point s < n + 1)
    (hk : 1 ≤ k ∨ point ≠ .value ∧ point' = .value) : skipCost point' t < n := by
  unfold skipCost at hn ⊢
  rcases hk with hk | ⟨hp, hp'⟩
  · split <;> omega
  · rw [if_neg hp] at hn
    rw [if_pos hp']
    omega

theorem skipLoop_lockstep (hE : PartsAtCommas E) {fuel fuel' : Nat} (brackets : List Bracket)
    {point : SkipPoint} (h : Abreast E (d + brackets.length, .plain) s s')
    (hf : skipCost point s < fuel) (hf' : skipCost point s' < fuel') :
    Lockstep (Ahead E (d, .plain) 0 s s') (skipLoop fuel brackets point s)
      (skipLoop fuel' brackets point s') := by
  induction fuel generalizing fuel' brackets point s s' with
  | zero => exact absurd hf (Nat.not_lt_zero _)
  | succ fuel ih =>
    cases fuel' with
    | zero => exact absurd hf' (Nat.not_lt_zero _)
    | succ fuel' =>
      have hnext : ∀ (brackets' : List Bracket) {k : Nat} {point' : SkipPoint} {t t' : List Symbol},
          Ahead E (d + brackets'.length, .plain) k s s' t t' →
          1 ≤ k ∨ point ≠ .value ∧ point' = .value →
          Lockstep (Ahead E (d, .plain) 0 s s') (skipLoop fuel brackets' point' t)
            (skipLoop fuel' brackets' point' t') := by
        intro brackets' k point' t t' ht hk
        refine (ih _ ht.abreast (skipCost_lt ht.left hf hk) (skipCost_lt ht.right hf' hk)).mono ?_
        exact fun _ _ hu => (ht.trans hu).weaken (Nat.zero_le _)
      have hb := skipBlanks_ahead hE h
      by_cases hv : point = .value
      · subst hv
        rw [skipLoop, skipLoop]
        generalize skipBlanks s = t at hb
        generalize skipBlanks s' = t' at hb
        generalize hm : d + brackets.length = m at hb
        cases hb.abreast with
        | part he =>
          obtain ⟨r, r', rfl, rfl, -⟩ := hE _ _ he
          exact .failPast _ _ _
        | nil => exact .failPast _ _ _
        | @cons _ c t t' ht =>
          refine (skipLeaf?_lockstep hE ht).bind ?_
          rintro _ _ (⟨hu⟩ | ⟨⟩)
          · subst hm
            exact hnext brackets (hb.trans hu) (.inl (Nat.le_add_left 1 0))
          · cases ho : Bracket.opening? c with
            | none => exact .failPast _ _ _
            | some b =>
              subst hm
              rw [Spot.pass_opening ho] at ht
              exact hnext (b :: brackets) (hb.trans (.tail ht))
                (.inl (Nat.le_add_left 1 0))
      · cases brackets with
        | nil =>
          rw [skipLoop_done hv, skipLoop_done hv]
          exact .ok (.refl h)
        | cons b brackets =>
          rw [skipLoop_behind hv, skipLoop_behind hv]
          generalize skipBlanks s = t at hb
          generalize skipBlanks s' = t' at hb
          cases hb.abreast with
          | nil => exact .failPast _ _ _
          | @cons _ c t t' ht =>
            dsimp only
            split
            · next hc =>
              rw [hc] at ht
              have ht' : Abreast E (d + brackets.length, .plain) t t' :=
                Spot.pass_closing b _ ▸ ht
              exact hnext brackets (hb.trans (.tail ht')) (.inl (Nat.le_add_left 1 0))
            · split
              · exact .failPast _ _ _
              · next hcomma =>
                have hc : point = .behind → c = .char ',' := fun hp =>
                  Decidable.byContradiction fun hn => hcomma ⟨hp, hn⟩
                refine (skipBetween_lockstep hE b ht hc).bind fun u u' hu => ?_
                exact hnext (b :: brackets) (hb.trans hu) (.inr ⟨hv, rfl⟩)

theorem skip_lockstep (hE : PartsAtCommas E) (h : Abreast E (d, .plain) s s') :
    Lockstep (Ahead E (d, .plain) 0 s s') (skip s) (skip s') := by
  have hf : ∀ s : List Symbol, skipCost .value s < 2 * s.length + 2 := by
    intro s
    rw [skipCost, if_pos rfl]
    omega
  exact skipLoop_lockstep hE [] h (hf s) (hf s')

end

end SourceRegistry.Json
