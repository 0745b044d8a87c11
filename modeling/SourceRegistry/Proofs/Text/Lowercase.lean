import SourceRegistry.Proofs.Text.Space
import SourceRegistry.Text.Lowercase

/-!
# Lower-cased texts

Lower-casing a text twice lower-cases it once, makes it no shorter, and brings no white space to
its ends. This rests on the table of partners: no partner has a partner of its own, and none is
white space. What a capital sigma becomes hangs on the characters around it, but none is left to
look at.
-/

namespace SourceRegistry.Text

/-- Whether all partners of the run lie outside of a range. -/
def CaseRun.clears (r : CaseRun) (range : CodeRange) : Bool :=
  Nat.blt (r.image + (r.last - r.first)) range.1 || Nat.blt range.2 r.image

/-- Whether no partner of the run is a member of `q`: they lie outside of `q`, or between its
members. -/
def CaseRun.misses (r q : CaseRun) : Bool :=
  r.clears (q.first, q.last) ||
    (Nat.beq q.step 2 && (Nat.beq r.step 2 || Nat.beq r.first r.last)) &&
      Nat.beq ((r.image + q.first) % 2) 1

namespace CaseRun

variable {r q : CaseRun} {n m : Nat}

theorem partner?_eq_some_iff : r.partner? n = some m ↔
    (r.first ≤ n ∧ n ≤ r.last ∧ (n - r.first) % r.step = 0) ∧ r.image + (n - r.first) = m := by
  unfold partner?
  split
  · next h => simp [h]
  · next h => simp [h]

theorem not_within_of_clears {range : CodeRange} (h : r.clears range) (hm : r.partner? n = some m) :
    ¬ (range.1 ≤ m ∧ m ≤ range.2) := by
  obtain ⟨⟨hf, hl, -⟩, rfl⟩ := partner?_eq_some_iff.1 hm
  simp only [clears, Bool.or_eq_true, Nat.blt_eq] at h
  omega

theorem partner?_of_misses (h : r.misses q) (hm : r.partner? n = some m) : q.partner? m = none := by
  rw [Option.eq_none_iff_forall_ne_some]
  intro k hk
  obtain ⟨⟨hqf, hql, hq⟩, -⟩ := partner?_eq_some_iff.1 hk
  rcases Bool.or_eq_true_iff.1 h with h | h
  · exact not_within_of_clears h hm ⟨hqf, hql⟩
  · -- the members of `q` and the partners are of different parity
    simp only [Bool.and_eq_true, Bool.or_eq_true, Nat.beq_eq] at h
    obtain ⟨⟨hstep, hr⟩, hodd⟩ := h
    obtain ⟨⟨hf, hl, hn⟩, rfl⟩ := partner?_eq_some_iff.1 hm
    rw [hstep] at hq
    rcases hr with hr | hr
    · rw [hr] at hn
      omega
    · omega

end CaseRun

/-- A partner is a character, has no partner, and is neither white space nor one of the two
characters that are lower-cased in their own ways. -/
theorem upperRuns_image : ∀ r ∈ upperRuns, r.image + (r.last - r.first) < 0x110000 ∧
    r.clears (0xD800, 0xDFFF) ∧ r.clears (0x130, 0x130) ∧ spaceRanges.all r.clears := by
  decide +kernel

theorem upperRuns_misses : upperRuns.all fun r => upperRuns.all r.misses := by decide +kernel

theorem lowerPartner_cases (c : Char) :
    lowerPartner c = c ∧ (∀ q ∈ upperRuns, q.partner? c.toNat = none) ∨
      ∃ r ∈ upperRuns, r.partner? c.toNat = some (lowerPartner c).toNat := by
  unfold lowerPartner
  split
  · next n h =>
    right
    obtain ⟨r, hr, hn⟩ := List.exists_of_findSome?_eq_some h
    obtain ⟨hlt, hsurrogate, -⟩ := upperRuns_image r hr
    have hin := CaseRun.not_within_of_clears hsurrogate hn
    obtain ⟨⟨hf, hl, -⟩, himage⟩ := CaseRun.partner?_eq_some_iff.1 hn
    have hv : n.isValidChar := by
      unfold Nat.isValidChar
      simp only at hin
      omega
    refine ⟨r, hr, ?_⟩
    rw [hn, Char.ofNat, dif_pos hv]
    rfl
  · next h => exact .inl ⟨rfl, List.findSome?_eq_none_iff.1 h⟩

theorem lowerPartner_of_no_partner {c : Char} (h : ∀ q ∈ upperRuns, q.partner? c.toNat = none) :
    lowerPartner c = c := by
  rw [lowerPartner, List.findSome?_eq_none_iff.2 h]

theorem isUncased_lowerPartner {c : Char} (hs : c ≠ 'Σ') (hi : c ≠ 'İ') :
    isUncased (lowerPartner c) := by
  refine decide_eq_true ?_
  rcases lowerPartner_cases c with ⟨hc, -⟩ | ⟨r, hr, hc⟩
  · rw [hc]
    exact ⟨hs, hi, hc⟩
  · have hnone : ∀ q ∈ upperRuns, q.partner? (lowerPartner c).toNat = none := by
      intro q hq
      have hm := List.all_eq_true.1 (List.all_eq_true.1 upperRuns_misses r hr) q hq
      exact CaseRun.partner?_of_misses hm hc
    obtain ⟨-, -, hdotted, -⟩ := upperRuns_image r hr
    refine ⟨fun h => ?_, fun h => ?_, lowerPartner_of_no_partner hnone⟩
    · -- a sigma has a partner
      have := hnone ⟨0x3A3, 0x3AB, 1, 0x3C3⟩ (by decide +kernel)
      rw [h] at this
      cases this
    · rw [h] at hc
      exact CaseRun.not_within_of_clears hdotted hc (by decide)

theorem isSpace_lowerPartner {c : Char} (h : isSpace c = false) :
    isSpace (lowerPartner c) = false := by
  rcases lowerPartner_cases c with ⟨hc, -⟩ | ⟨r, hr, hc⟩
  · rw [hc, h]
  · rw [← Bool.not_eq_true, isSpace, inRanges_eq_true_iff]
    rintro ⟨range, hrange, hin⟩
    have hspace := (upperRuns_image r hr).2.2.2
    exact CaseRun.not_within_of_clears (List.all_eq_true.1 hspace range hrange) hc hin

theorem isUncased_of_mem_lowerChar {before after : List Char} {c d : Char}
    (h : d ∈ lowerChar before c after) : isUncased d := by
  unfold lowerChar at h
  split at h
  · split at h <;> rw [List.mem_singleton.1 h] <;> decide +kernel
  · next hs =>
    split at h
    · rcases List.mem_pair.1 h with rfl | rfl <;> decide +kernel
    · next hi =>
      rw [List.mem_singleton.1 h]
      exact isUncased_lowerPartner hs hi

theorem isUncased_of_mem_lowerChars {before cs : List Char} {d : Char}
    (h : d ∈ lowerChars before cs) : isUncased d := by
  induction cs generalizing before with
  | nil => cases h
  | cons c cs ih =>
    rcases List.mem_append.1 h with h | h
    · exact isUncased_of_mem_lowerChar h
    · exact ih h

@[simp] theorem lower_lower (s : String) : lower (lower s) = lower s := by
  refine lower_of_uncased fun c hc => ?_
  rw [toList_lower] at hc
  exact isUncased_of_mem_lowerChars hc

theorem isSpace_of_mem_lowerChar {before after : List Char} {c d : Char} (hc : isSpace c = false)
    (h : d ∈ lowerChar before c after) : isSpace d = false := by
  unfold lowerChar at h
  split at h
  · split at h <;> rw [List.mem_singleton.1 h] <;> decide
  · split at h
    · rcases List.mem_pair.1 h with rfl | rfl <;> decide
    · rw [List.mem_singleton.1 h]
      exact isSpace_lowerPartner hc

theorem lowerChar_ne_nil (before : List Char) (c : Char) (after : List Char) :
    lowerChar before c after ≠ [] := by
  unfold lowerChar
  split
  · split <;> simp
  · split <;> simp

/-- Lower-casing makes no text shorter. -/
theorem length_le_lower (s : String) : s.length ≤ (lower s).length := by
  have hchars : ∀ before cs : List Char, cs.length ≤ (lowerChars before cs).length := by
    intro before cs
    induction cs generalizing before with
    | nil => exact Nat.zero_le _
    | cons c cs ih =>
      have hpos := List.length_pos_iff.2 (lowerChar_ne_nil before c cs)
      have hrest := ih (c :: before)
      rw [lowerChars, List.length_append, List.length_cons]
      omega
  rw [← String.length_toList, ← String.length_toList, toList_lower]
  exact hchars [] s.toList

theorem head?_lowerChars {before cs : List Char} (h : ∀ c ∈ cs.head?, isSpace c = false) :
    ∀ d ∈ (lowerChars before cs).head?, isSpace d = false := by
  cases cs with
  | nil => simp [lowerChars]
  | cons c cs =>
    intro d hd
    rw [lowerChars, List.head?_append_of_ne_nil _ (lowerChar_ne_nil before c cs)] at hd
    exact isSpace_of_mem_lowerChar (h c rfl) (List.mem_of_mem_head? hd)

theorem getLast?_lowerChars {before cs : List Char} (h : ∀ c ∈ cs.getLast?, isSpace c = false) :
    ∀ d ∈ (lowerChars before cs).getLast?, isSpace d = false := by
  induction cs generalizing before with
  | nil => simp [lowerChars]
  | cons c cs ih =>
    intro d hd
    rw [lowerChars] at hd
    cases cs with
    | nil =>
      rw [lowerChars, List.append_nil] at hd
      exact isSpace_of_mem_lowerChar (h c rfl) (List.mem_of_getLast? hd)
    | cons c' cs =>
      have hne : lowerChars (c :: before) (c' :: cs) ≠ [] :=
        List.append_ne_nil_of_left_ne_nil (lowerChar_ne_nil _ _ _) _
      rw [List.getLast?_append_of_ne_nil _ hne] at hd
      exact ih (by simpa using h) d hd

/-- A text without white space at its ends has none there in lower case. -/
theorem trim_lower {s : String} (h : trim s = s) : trim (lower s) = lower s := by
  rw [trim_eq_self_iff] at h ⊢
  rw [toList_lower]
  exact ⟨head?_lowerChars h.1, getLast?_lowerChars h.2⟩

end SourceRegistry.Text
