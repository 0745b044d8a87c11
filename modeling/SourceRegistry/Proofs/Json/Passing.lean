import SourceRegistry.Proofs.Json.Grammar
import SourceRegistry.Proofs.Json.Skips

/-!
# Every value can be passed over

A value that nobody asks for is passed over, whatever is written in it: `skip_value`. The brackets
on the stack are left alone, so a value inside of others is passed over in the same number of
steps as outside of them.
-/

namespace SourceRegistry.Json

open Text (Symbol)

theorem skipStringRest_codes {c₁ c₂ c₃ c₄ : Symbol}
    (hc : ∀ c ∈ [c₁, c₂, c₃, c₄], (hexValue? c).isSome) (s : List Symbol) :
    skipStringRest (.digits 4) (c₁ :: c₂ :: c₃ :: c₄ :: s) = skipStringRest .plain s := by
  have hn : ∀ c ∈ [c₁, c₂, c₃, c₄], (hexValue? c).isNone = false := fun c h =>
    Option.isNone_eq_false_iff.2 (hc c h)
  simp [skipStringRest, hn]

theorem skipString_append {x : List Symbol} (h : IsString x) (r : List Symbol) :
    skipString (x ++ r) = .ok r := by
  unfold skipString
  induction h with
  | close => rfl
  | plain hquote hslash hcontrol h ih =>
    rw [List.cons_append, skipStringRest]
    · rw [if_neg hcontrol, ih]
    · exact hquote
    · exact hslash
  | escape hc h ih =>
    rw [List.cons_append, List.cons_append, skipStringRest, skipStringRest, if_pos hc, ih]
  | code hc h ih =>
    have hu : ¬ (simpleEscape? (.char 'u')).isSome := by decide
    simp only [List.cons_append]
    rw [skipStringRest, skipStringRest, if_neg hu, if_pos rfl,
      if_pos (hasFourBytes_of_length (by simp)), skipStringRest_codes hc, ih]

theorem startsWithDigit_append {x : List Symbol} (hx : AreDigits x) (hne : x ≠ [])
    (r : List Symbol) : startsWithDigit (x ++ r) := by
  obtain ⟨c, t, rfl⟩ := List.exists_cons_of_ne_nil hne
  exact hx c List.mem_cons_self

theorem GoesOn.not_startsWithDigit {l s : List Symbol} (h : GoesOn l s)
    (hl : ∀ c ∈ l, digit? c = none) : ¬ startsWithDigit s := by
  rw [startsWithDigit, h.not_digit hl]
  exact Bool.false_ne_true

theorem skipDigits_append {x r : List Symbol} (hx : AreDigits x) (hr : ¬ startsWithDigit r) :
    skipDigits (x ++ r) = r := by
  rw [skipDigits, List.dropWhile_append_of_pos hx]
  cases r with
  | nil => rfl
  | cons c r => exact List.dropWhile_cons_of_neg hr

theorem exponentSign_append {sign x : List Symbol}
    (hs : sign ∈ [[], [.char '+'], [Symbol.char '-']]) (hx : AreDigits x) (hne : x ≠ []) :
    ∃ minus, ∀ r, exponentSign (sign ++ (x ++ r)) = (minus, x ++ r) := by
  simp only [List.mem_cons, List.not_mem_nil, or_false] at hs
  rcases hs with rfl | rfl | rfl
  · obtain ⟨c, t, rfl⟩ := List.exists_cons_of_ne_nil hne
    have hc := hx c List.mem_cons_self
    refine ⟨false, fun r => ?_⟩
    unfold exponentSign
    split
    · next he => cases he; exact absurd hc (by decide)
    · next he => cases he; exact absurd hc (by decide)
    · rfl
  · exact ⟨false, fun _ => rfl⟩
  · exact ⟨true, fun _ => rfl⟩

theorem exponentLetter?_of_goesOn {l s : List Symbol} (h : GoesOn l s) (he : .char 'e' ∉ l)
    (hE : .char 'E' ∉ l) : exponentLetter? s = none := by
  unfold exponentLetter?
  split
  · exact absurd rfl (h.head?_ne he)
  · exact absurd rfl (h.head?_ne hE)
  · rfl

theorem exponentLetter?_of_mem {letter : Symbol} (hl : letter ∈ [.char 'e', Symbol.char 'E'])
    (s : List Symbol) : exponentLetter? (letter :: s) = some s := by
  simp only [List.mem_cons, List.not_mem_nil, or_false] at hl
  rcases hl with rfl | rfl
  · rfl
  · rfl

theorem skipNumberTail_append {x r : List Symbol} (h : IsExponent x) (hr : Ends r) :
    skipNumberTail (x ++ r) = .ok r := by
  cases h with
  | none =>
    rw [List.nil_append, skipNumberTail, exponentLetter?_of_goesOn hr (by decide) (by decide)]
  | @some letter sign x hl hs hx hne =>
    obtain ⟨minus, hsign⟩ := exponentSign_append hs hx hne
    rw [List.cons_append, skipNumberTail, exponentLetter?_of_mem hl, List.append_assoc]
    simp only [skipExponent, hsign]
    rw [if_pos (startsWithDigit_append hx hne r),
      skipDigits_append hx (hr.not_startsWithDigit (by decide))]

theorem skipFraction_append {x y r : List Symbol} (h : IsFraction x) (hy : IsExponent y)
    (hr : Ends r) : skipFraction (x ++ (y ++ r)) = .ok r := by
  have hgo := hy.goesOn hr
  cases h with
  | none =>
    rw [List.nil_append, skipFraction_of_head? (hgo.head?_ne (by decide)),
      skipNumberTail_append hy hr]
  | some hx hne =>
    rw [List.cons_append, skipFraction_point, if_pos (startsWithDigit_append hx hne _),
      skipDigits_append hx (hgo.not_startsWithDigit (by decide)), skipNumberTail_append hy hr]

theorem skipWhole_append {x s : List Symbol} (h : IsWhole x) (hs : ¬ startsWithDigit s) :
    skipWhole (x ++ s) = .ok s := by
  cases h with
  | zero => rw [List.singleton_append, skipWhole_zero, if_neg hs]
  | @digits c x hc hzero hx =>
    have hhead : (c :: x ++ s).head? ≠ some (.char '0') := fun he => hzero (Option.some.inj he)
    have hdigits : AreDigits (c :: x) := List.forall_mem_cons.2 ⟨hc, hx⟩
    rw [skipWhole_of_head? hhead, if_pos (startsWithDigit_append hdigits (List.cons_ne_nil c x) s),
      skipDigits_append hdigits hs]

theorem skipNumber_append {x r : List Symbol} (h : IsNumber x) (hr : Ends r) :
    skipNumber (x ++ r) = .ok r := by
  obtain ⟨hw, hf, he⟩ := h
  rw [skipNumber_eq, List.append_assoc, List.append_assoc,
    skipWhole_append hw ((hf.goesOn he hr).not_startsWithDigit (by decide))]
  exact skipFraction_append hf he hr

/-! ## Steps over a value -/

/-- A value is passed over in some steps, whatever brackets are open around it. -/
def Passes (x : List Symbol) : Prop :=
  ∃ k, k + 2 ≤ 2 * x.length ∧ ∀ fuel brackets r, Ends r →
    skipLoop (fuel + (k + 1)) brackets .value (x ++ r) = skipLoop fuel brackets .behind r

theorem not_isBlank_of_not_mem {c : Symbol} (h : c ∉ enders) : ¬ isBlank c := by
  intro hb
  refine h ?_
  simp only [isBlank, Bool.or_eq_true, beq_iff_eq] at hb
  rcases hb with ((rfl | rfl) | rfl) | rfl <;> decide

/-- A value without parts is passed over in one step. -/
theorem passes_of_leaf {c : Symbol} {x : List Symbol} (hc : c ∉ enders)
    (h : ∀ r, Ends r → skipLeaf? c (x ++ r) = .ok (some r)) : Passes (c :: x) := by
  refine ⟨0, ?_, fun fuel brackets r hr => ?_⟩
  · rw [List.length_cons]
    omega
  · have hblanks : skipBlanks (c :: x ++ r) = c :: (x ++ r) :=
      List.dropWhile_cons_of_neg (not_isBlank_of_not_mem hc)
    rw [skipLoop, hblanks]
    simp only [h r hr]
    rfl

theorem skipLeaf?_digit {c : Symbol} (hc : (digit? c).isSome) (s : List Symbol) :
    skipLeaf? c s = some <$> skipNumber (c :: s) := by
  rw [skipLeaf?_of_not_mem (digit?_not_mem hc (by decide)), if_pos hc]

theorem passes_of_number {x : List Symbol} (h : IsNumber x) : Passes x := by
  obtain ⟨c, t, rfl, hc⟩ := h.head
  refine passes_of_leaf (digit?_not_mem hc (by decide)) fun r hr => ?_
  rw [skipLeaf?_digit hc, ← List.cons_append, skipNumber_append h hr]
  rfl

theorem skipName_member {before key between : List Symbol} (hbefore : IsBlanks before)
    (hkey : IsString key) (hbetween : IsBlanks between) (s : List Symbol) :
    skipName (before ++ .char '\x22' :: (key ++ (between ++ .char ':' :: s))) = .ok s := by
  unfold skipName
  rw [skipBlanks_append hbefore (by decide)]
  simp only [skipString_append hkey, bind, Except.bind]
  rw [skipBlanks_append hbetween (by decide)]
  rfl

/-- What stands in front of the value of a part is passed over up to blanks. -/
theorem skipBetween_lead {b : Bracket} {lead blanks s : List Symbol} (h : IsLead b lead)
    (hblanks : IsBlanks blanks) (hs : ∃ c t, s = c :: t ∧ c ∉ enders) :
    (∃ c t gap, skipBlanks (blanks ++ (lead ++ s)) = c :: t ∧ c ≠ b.closing ∧ IsBlanks gap ∧
      skipBetween b .opened c t = .ok (gap ++ s)) ∧
    ∃ gap, IsBlanks gap ∧ skipBetween b .behind (.char ',') (lead ++ s) = .ok (gap ++ s) := by
  cases h with
  | item hgap =>
    obtain ⟨c, t, rfl, hc⟩ := hs
    have hall : IsBlanks (blanks ++ lead) := List.forall_mem_append.2 ⟨hblanks, hgap⟩
    refine ⟨⟨c, t, [], ?_, ?_, fun _ h => absurd h List.not_mem_nil, rfl⟩, lead, hgap, rfl⟩
    · rw [← List.append_assoc, skipBlanks_append hall (not_isBlank_of_not_mem hc)]
    · rintro rfl
      exact hc (by decide)
  | @member before key between gap hbefore hkey hbetween hgap =>
    have hall : IsBlanks (blanks ++ before) := List.forall_mem_append.2 ⟨hblanks, hbefore⟩
    have hnil : IsBlanks [] := fun _ h => absurd h List.not_mem_nil
    have htext : before ++ .char '\x22' :: (key ++ (between ++ .char ':' :: gap)) ++ s =
        before ++ .char '\x22' :: (key ++ (between ++ .char ':' :: (gap ++ s))) := by simp
    rw [htext]
    refine ⟨⟨.char '\x22', key ++ (between ++ .char ':' :: (gap ++ s)), gap, ?_, by decide, hgap,
      skipName_member hnil hkey hbetween _⟩, gap, hgap, skipName_member hbefore hkey hbetween _⟩
    rw [← List.append_assoc, skipBlanks_append hall (by decide)]

theorem skipLoop_blanks {blanks : List Symbol} (hb : IsBlanks blanks) (fuel : Nat)
    (brackets : List Bracket) (s : List Symbol) :
    skipLoop (fuel + 1) brackets .value (blanks ++ s) =
      skipLoop (fuel + 1) brackets .value s := by
  rw [skipLoop, skipLoop, skipBlanks, List.dropWhile_append_of_pos hb, skipBlanks]

theorem passes_parts {b : Bracket} {parts : List Part} {close : List Symbol}
    (hlead : ∀ p ∈ parts, IsLead b p.lead) (hvalue : ∀ p ∈ parts, IsValue p.value)
    (hpasses : ∀ p ∈ parts, Passes p.value) (hafter : ∀ p ∈ parts, IsBlanks p.after)
    (hclose : IsBlanks close) (first : Bool) {blanks : List Symbol} (hb : IsBlanks blanks) :
    ∃ k, k ≤ 2 * (partsText first parts close).length ∧ ∀ fuel brackets r,
      skipLoop (fuel + (k + 1)) (b :: brackets) (if first then .opened else .behind)
        (blanks ++ partsText first parts (close ++ b.closing :: r)) =
      skipLoop fuel brackets .behind r := by
  have hpoint : ∀ first : Bool, (if first then SkipPoint.opened else .behind) ≠ .value := by
    intro first
    cases first <;> decide
  induction parts generalizing first blanks with
  | nil =>
    refine ⟨0, Nat.zero_le _, fun fuel brackets r => ?_⟩
    have hall : IsBlanks (blanks ++ close) := List.forall_mem_append.2 ⟨hb, hclose⟩
    have hclosing : ¬ isBlank b.closing := by cases b <;> decide
    rw [← Nat.add_assoc, skipLoop_behind (hpoint first), partsText, ← List.append_assoc,
      skipBlanks_append hall hclosing]
    dsimp only
    rw [if_pos rfl]
  | cons p parts ih =>
    rw [List.forall_mem_cons] at hlead hvalue hpasses hafter
    obtain ⟨k, hk, hsteps⟩ := ih hlead.2 hvalue.2 hpasses.2 hafter.2 false hafter.1
    obtain ⟨n, hn, hpass⟩ := hpasses.1
    -- one step to the value, those over the value, and those over what is left
    refine ⟨n + k + 2, ?_, fun fuel brackets r => ?_⟩
    · simp only [partsText, List.length_append]
      omega
    · generalize hrest : p.after ++ partsText false parts (close ++ b.closing :: r) = rest
      have hends : Ends rest := by
        rw [← hrest]
        exact .blanks hafter.1 (.parts (.blanks hclose (ends_closing b r)))
      have hs : ∃ c t, p.value ++ rest = c :: t ∧ c ∉ enders := by
        obtain ⟨c, t, hx, hc⟩ := hvalue.1.head
        exact ⟨c, t ++ rest, by rw [hx, List.cons_append], hc⟩
      obtain ⟨⟨c, t, gap, hskip, hne, hgap, hopened⟩, gap', hgap', hbehind⟩ :=
        skipBetween_lead hlead.1 hb hs
      have hfuel : fuel + (n + k + 2 + 1) = fuel + (k + 1) + (n + 1) + 1 := by omega
      have hvalue : ∀ gap, IsBlanks gap →
          skipLoop (fuel + (k + 1) + (n + 1)) (b :: brackets) .value (gap ++ (p.value ++ rest)) =
            skipLoop fuel brackets .behind r := by
        intro gap hgap
        rw [← Nat.add_assoc, skipLoop_blanks hgap, Nat.add_assoc, hpass _ _ _ hends, ← hrest]
        exact hsteps fuel brackets r
      rw [hfuel, skipLoop_behind (hpoint first), partsText, hrest]
      cases first with
      | true =>
        simp only [if_true, List.nil_append, hskip]
        rw [if_neg hne, if_neg (by simp), hopened]
        exact hvalue gap hgap
      | false =>
        have hcomma : Symbol.char ',' ≠ b.closing := by cases b <;> decide
        simp only [Bool.false_eq_true, if_false, List.singleton_append]
        rw [skipBlanks_append hb (by decide)]
        dsimp only
        rw [if_neg hcomma, if_neg (by simp), hbehind]
        exact hvalue gap' hgap'

theorem skipLeaf?_opening (b : Bracket) (s : List Symbol) :
    skipLeaf? b.opening s = .ok none ∧ Bracket.opening? b.opening = some b := by
  cases b <;> exact ⟨rfl, rfl⟩

theorem skipLeaf?_word (c : Char) (cs : List Char)
    (h : (c, cs) ∈ [('n', ['u', 'l', 'l']), ('t', ['r', 'u', 'e']), ('f', ['a', 'l', 's', 'e'])])
    (r : List Symbol) : skipLeaf? (.char c) (cs.map .char ++ r) = .ok (some r) := by
  simp only [List.mem_cons, List.not_mem_nil, or_false, Prod.mk.injEq] at h
  rcases h with ⟨rfl, rfl⟩ | ⟨rfl, rfl⟩ | ⟨rfl, rfl⟩ <;> rfl

theorem passes_of_value {x : List Symbol} (h : IsValue x) : Passes x := by
  induction h with
  | null => exact passes_of_leaf (by decide) fun r _ =>
      skipLeaf?_word 'n' ['u', 'l', 'l'] (by decide) r
  | true => exact passes_of_leaf (by decide) fun r _ =>
      skipLeaf?_word 't' ['r', 'u', 'e'] (by decide) r
  | false => exact passes_of_leaf (by decide) fun r _ =>
      skipLeaf?_word 'f' ['a', 'l', 's', 'e'] (by decide) r
  | positive h => exact passes_of_number h
  | negative h =>
    refine passes_of_leaf (by decide) fun r hr => ?_
    have hleaf : ∀ s, skipLeaf? (.char '-') s = some <$> skipNumber s := fun _ => rfl
    rw [hleaf, skipNumber_append h hr]
    rfl
  | string h =>
    refine passes_of_leaf (by decide) fun r _ => ?_
    have hleaf : ∀ s, skipLeaf? (.char '\x22') s = some <$> skipString s := fun _ => rfl
    rw [hleaf, skipString_append h]
    rfl
  | @parts b parts close hlead hvalue hafter hclose ih =>
    obtain ⟨k, hk, hsteps⟩ := passes_parts hlead hvalue ih hafter hclose true
      (List.forall_mem_nil _)
    refine ⟨k + 1, ?_, fun fuel brackets r hr => ?_⟩
    · have hlength : (partsText true parts (close ++ [b.closing])).length =
          (partsText true parts close).length + 1 := by
        rw [← partsText_append, List.length_append, List.length_singleton]
      rw [List.length_cons, hlength]
      omega
    · obtain ⟨hleaf, hopening⟩ := skipLeaf?_opening b
        (partsText true parts (close ++ b.closing :: r))
      have htext : b.opening :: partsText true parts (close ++ [b.closing]) ++ r =
          b.opening :: partsText true parts (close ++ b.closing :: r) := by
        rw [List.cons_append, partsText_append, List.append_assoc, List.singleton_append]
      have hblanks : ∀ s, skipBlanks (b.opening :: s) = b.opening :: s := fun s =>
        List.dropWhile_cons_of_neg (by cases b <;> decide)
      rw [htext, ← Nat.add_assoc, skipLoop, hblanks]
      dsimp only
      rw [hleaf, hopening]
      exact hsteps fuel brackets r

/-- A value is passed over with the blanks in front of it, up to what stands behind it. -/
theorem skip_value {gap x r : List Symbol} (hgap : IsBlanks gap) (h : IsValue x) (hr : Ends r) :
    skip (gap ++ (x ++ r)) = .ok r := by
  obtain ⟨k, hk, hsteps⟩ := passes_of_value h
  obtain ⟨n, hn⟩ : ∃ n, 2 * (gap ++ (x ++ r)).length + 2 = n + 1 + (k + 1) := by
    refine ⟨2 * (gap ++ (x ++ r)).length - k, ?_⟩
    simp only [List.length_append]
    omega
  rw [skip, hn, ← Nat.add_assoc, skipLoop_blanks hgap, Nat.add_assoc, hsteps _ _ _ hr]
  exact skipLoop_done (by decide) n r

end SourceRegistry.Json
