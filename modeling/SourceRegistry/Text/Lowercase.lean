import SourceRegistry.Text.CaseData

/-!
# Lower-casing

`lower` replaces each character by its lower-case form. Two characters need more than their
partner: `İ` becomes `i` with a dot above, and a capital sigma becomes the final form `ς` when
it ends a word, that is, when a cased letter stands before it and none after it, case-ignorable
characters aside.
-/

namespace SourceRegistry.Text

def isCased (c : Char) : Bool := inRanges casedRanges c

def isCaseIgnorable (c : Char) : Bool := inRanges caseIgnorableRanges c

/-- The lower-case partner of a character, itself where it has none. -/
def lowerPartner (c : Char) : Char :=
  match upperRuns.findSome? (·.partner? c.toNat) with
  | some n => Char.ofNat n
  | none => c

/-- Whether the first character that is not case-ignorable is a cased one. -/
def startsCased (cs : List Char) : Bool :=
  match cs.dropWhile isCaseIgnorable with
  | [] => false
  | c :: _ => isCased c

/-- The lower-case form of `c` between the characters `before`, nearest first, and `after`. -/
def lowerChar (before : List Char) (c : Char) (after : List Char) : List Char :=
  if c = 'Σ' then
    if startsCased before && !startsCased after then ['ς'] else ['σ']
  else if c = 'İ' then ['i', '\u0307']
  else [lowerPartner c]

def lowerChars (before : List Char) : List Char → List Char
  | [] => []
  | c :: after => lowerChar before c after ++ lowerChars (c :: before) after

def lower (s : String) : String := String.ofList (lowerChars [] s.toList)

@[simp] theorem toList_lower (s : String) : (lower s).toList = lowerChars [] s.toList := by
  simp [lower]

/-- Whether a character stays as it is, whatever is around it. -/
def isUncased (c : Char) : Bool := c ≠ 'Σ' ∧ c ≠ 'İ' ∧ lowerPartner c = c

theorem lowerChars_of_uncased {cs : List Char} (h : ∀ c ∈ cs, isUncased c) (before : List Char) :
    lowerChars before cs = cs := by
  induction cs generalizing before with
  | nil => rfl
  | cons c cs ih =>
    obtain ⟨hc, hcs⟩ := List.forall_mem_cons.1 h
    obtain ⟨hs, hi, hc⟩ := of_decide_eq_true hc
    rw [lowerChars, lowerChar, if_neg hs, if_neg hi, hc, ih hcs]
    rfl

theorem lower_of_uncased {s : String} (h : ∀ c ∈ s.toList, isUncased c) : lower s = s := by
  rw [lower, lowerChars_of_uncased h, String.ofList_toList]

/-- Lower-casing of `A` to `Z` alone, for the texts of protocols. -/
def lowerAscii (s : String) : String := String.ofList (s.toList.map Char.toLower)

end SourceRegistry.Text
