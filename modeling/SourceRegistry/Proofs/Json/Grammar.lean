import SourceRegistry.Json.Skip

/-!
# The grammar of JSON

Which texts are JSON values, as they are written and not as they are read: a string may have
halves of characters in it, a number may be too large, and brackets may be nested to any depth.
Blanks around a value belong to the list or the object that the value is a part of.
-/

namespace SourceRegistry.Json

open Text (Symbol)

def IsBlanks (x : List Symbol) : Prop := ∀ c ∈ x, isBlank c

/-- The inside of a string with the quote that closes it. -/
inductive IsString : List Symbol → Prop
  | close : IsString [.char '\x22']
  | plain {c : Char} {x : List Symbol} (hquote : c ≠ '\x22') (hslash : c ≠ '\\')
    (hcontrol : ¬ c.toNat < 0x20) (h : IsString x) : IsString (.char c :: x)
  | escape {c : Symbol} {x : List Symbol} (hc : (simpleEscape? c).isSome) (h : IsString x) :
    IsString (.char '\\' :: c :: x)
  | code {c₁ c₂ c₃ c₄ : Symbol} {x : List Symbol}
    (hc : ∀ c ∈ [c₁, c₂, c₃, c₄], (hexValue? c).isSome) (h : IsString x) :
    IsString (.char '\\' :: .char 'u' :: c₁ :: c₂ :: c₃ :: c₄ :: x)

def codePoint (x : List Symbol) : Nat := x.foldl (fun n c => 16 * n + (hexValue? c).getD 0) 0

/-- The inside of a string and the text that it spells. Halves of characters spell one together,
and nothing alone. -/
inductive Spells : List Symbol → List Char → Prop
  | close : Spells [.char '\x22'] []
  | plain {c : Char} {x : List Symbol} {t : List Char} (hquote : c ≠ '\x22') (hslash : c ≠ '\\')
    (hcontrol : ¬ c.toNat < 0x20) (h : Spells x t) : Spells (.char c :: x) (c :: t)
  | escape {c : Symbol} {d : Char} {x : List Symbol} {t : List Char} (hc : simpleEscape? c = some d)
    (h : Spells x t) : Spells (.char '\\' :: c :: x) (d :: t)
  | code {c₁ c₂ c₃ c₄ : Symbol} {d : Char} {x : List Symbol} {t : List Char}
    (hc : ∀ c ∈ [c₁, c₂, c₃, c₄], (hexValue? c).isSome)
    (hd : escaped (codePoint [c₁, c₂, c₃, c₄]) none = .char d) (h : Spells x t) :
    Spells (.char '\\' :: .char 'u' :: c₁ :: c₂ :: c₃ :: c₄ :: x) (d :: t)
  | pair {b₁ b₂ b₃ b₄ c₁ c₂ c₃ c₄ : Symbol} {high : Nat} {d : Char} {x : List Symbol}
    {t : List Char} (hb : ∀ c ∈ [b₁, b₂, b₃, b₄], (hexValue? c).isSome)
    (hhigh : escaped (codePoint [b₁, b₂, b₃, b₄]) none = .half high)
    (hc : ∀ c ∈ [c₁, c₂, c₃, c₄], (hexValue? c).isSome)
    (hd : escaped (codePoint [c₁, c₂, c₃, c₄]) (some high) = .char d) (h : Spells x t) :
    Spells (.char '\\' :: .char 'u' :: b₁ :: b₂ :: b₃ :: b₄ ::
      .char '\\' :: .char 'u' :: c₁ :: c₂ :: c₃ :: c₄ :: x) (d :: t)

theorem Spells.isString {x : List Symbol} {t : List Char} (h : Spells x t) : IsString x := by
  induction h with
  | close => exact .close
  | plain hquote hslash hcontrol h ih => exact .plain hquote hslash hcontrol ih
  | escape hc h ih => exact .escape (Option.isSome_of_eq_some hc) ih
  | code hc hd h ih => exact .code hc ih
  | pair hb hhigh hc hd h ih => exact .code hb (.code hc ih)

def AreDigits (x : List Symbol) : Prop := ∀ c ∈ x, (digit? c).isSome

/-- The digits in front of the point. A zero stands alone. -/
inductive IsWhole : List Symbol → Prop
  | zero : IsWhole [.char '0']
  | digits {c : Symbol} {x : List Symbol} (hc : (digit? c).isSome) (hzero : c ≠ .char '0')
    (hx : AreDigits x) : IsWhole (c :: x)

/-- The point and the digits behind it, or nothing. -/
inductive IsFraction : List Symbol → Prop
  | none : IsFraction []
  | some {x : List Symbol} (hx : AreDigits x) (hne : x ≠ []) : IsFraction (.char '.' :: x)

/-- The exponent with its letter, or nothing. -/
inductive IsExponent : List Symbol → Prop
  | none : IsExponent []
  | some {letter : Symbol} {sign x : List Symbol} (hl : letter ∈ [.char 'e', .char 'E'])
    (hs : sign ∈ [[], [.char '+'], [.char '-']]) (hx : AreDigits x) (hne : x ≠ []) :
    IsExponent (letter :: (sign ++ x))

inductive IsNumber : List Symbol → Prop
  | parts {whole fraction exponent : List Symbol} (hw : IsWhole whole) (hf : IsFraction fraction)
    (he : IsExponent exponent) : IsNumber (whole ++ (fraction ++ exponent))

/-- A part of a list or an object: what stands in front of its value, the value, and the blanks
behind it. -/
structure Part where
  lead : List Symbol
  value : List Symbol
  after : List Symbol

/-- In front of an item stand blanks, in front of the value of a member its name and a colon. -/
inductive IsLead : Bracket → List Symbol → Prop
  | item {gap : List Symbol} (hgap : IsBlanks gap) : IsLead .list gap
  | member {before key between gap : List Symbol} (hbefore : IsBlanks before) (hkey : IsString key)
    (hbetween : IsBlanks between) (hgap : IsBlanks gap) :
    IsLead .object (before ++ .char '\x22' :: (key ++ (between ++ .char ':' :: gap)))

theorem IsLead.blanks {lead : List Symbol} (h : IsLead .list lead) : IsBlanks lead := by
  cases h with
  | item hgap => exact hgap

theorem IsLead.split {lead : List Symbol} (h : IsLead .object lead) :
    ∃ before key between gap, IsBlanks before ∧ IsString key ∧ IsBlanks between ∧ IsBlanks gap ∧
      ∀ s, lead ++ s =
        before ++ .char '\x22' :: (key ++ (between ++ .char ':' :: (gap ++ s))) := by
  cases h with
  | member hbefore hkey hbetween hgap =>
    exact ⟨_, _, _, _, hbefore, hkey, hbetween, hgap, fun s => by simp⟩

/-- The parts with a comma in front of each but the first, and then `t`. -/
def partsText : Bool → List Part → List Symbol → List Symbol
  | _, [], t => t
  | first, p :: parts, t =>
    (if first then [] else [.char ',']) ++
      (p.lead ++ (p.value ++ (p.after ++ partsText false parts t)))

def Bracket.opening : Bracket → Symbol
  | .list => .char '['
  | .object => .char '\x7b'

inductive IsValue : List Symbol → Prop
  | null : IsValue [.char 'n', .char 'u', .char 'l', .char 'l']
  | true : IsValue [.char 't', .char 'r', .char 'u', .char 'e']
  | false : IsValue [.char 'f', .char 'a', .char 'l', .char 's', .char 'e']
  | positive {x : List Symbol} (h : IsNumber x) : IsValue x
  | negative {x : List Symbol} (h : IsNumber x) : IsValue (.char '-' :: x)
  | string {x : List Symbol} (h : IsString x) : IsValue (.char '\x22' :: x)
  | parts {b : Bracket} {parts : List Part} {close : List Symbol}
    (hlead : ∀ p ∈ parts, IsLead b p.lead) (hvalue : ∀ p ∈ parts, IsValue p.value)
    (hafter : ∀ p ∈ parts, IsBlanks p.after) (hclose : IsBlanks close) :
    IsValue (b.opening :: partsText Bool.true parts (close ++ [b.closing]))

structure Part.IsPart (b : Bracket) (p : Part) : Prop where
  lead : IsLead b p.lead
  value : IsValue p.value
  after : IsBlanks p.after

theorem IsValue.of_isPart {b : Bracket} {parts : List Part} {close : List Symbol}
    (h : ∀ p ∈ parts, p.IsPart b) (hclose : IsBlanks close) :
    IsValue (b.opening :: partsText Bool.true parts (close ++ [b.closing])) :=
  .parts (fun p hp => (h p hp).lead) (fun p hp => (h p hp).value) (fun p hp => (h p hp).after)
    hclose

/-- What stands in front of the value of a member, and the name that it gives the member. -/
inductive NamesMember : List Symbol → List Char → Prop
  | mk {before key between gap : List Symbol} {t : List Char} (hbefore : IsBlanks before)
    (hkey : Spells key t) (hbetween : IsBlanks between) (hgap : IsBlanks gap) :
    NamesMember (before ++ .char '\x22' :: (key ++ (between ++ .char ':' :: gap))) t

theorem NamesMember.split {lead : List Symbol} {t : List Char} (h : NamesMember lead t) :
    ∃ before key between gap, IsBlanks before ∧ Spells key t ∧ IsBlanks between ∧ IsBlanks gap ∧
      ∀ s, lead ++ s =
        before ++ .char '\x22' :: (key ++ (between ++ .char ':' :: (gap ++ s))) := by
  cases h with
  | mk hbefore hkey hbetween hgap =>
    exact ⟨_, _, _, _, hbefore, hkey, hbetween, hgap, fun s => by simp⟩

theorem NamesMember.isLead {lead : List Symbol} {t : List Char} (h : NamesMember lead t) :
    IsLead .object lead := by
  cases h with
  | mk hbefore hkey hbetween hgap => exact .member hbefore hkey.isString hbetween hgap

/-- A member that has a name, which is none of those given. -/
structure Part.IsOther (names : List String) (p : Part) : Prop where
  name : ∃ t, NamesMember p.lead t ∧ String.ofList t ∉ names
  value : IsValue p.value
  after : IsBlanks p.after

/-- Parts with others among them, each of which is one of `P`. -/
inductive Inserted (P : Part → Prop) : List Part → List Part → Prop
  | nil : Inserted P [] []
  | keep (p : Part) {parts parts' : List Part} (h : Inserted P parts parts') :
    Inserted P (p :: parts) (p :: parts')
  | insert {p : Part} {parts parts' : List Part} (hp : P p) (h : Inserted P parts parts') :
    Inserted P parts (p :: parts')

theorem Inserted.refl (P : Part → Prop) (parts : List Part) : Inserted P parts parts := by
  induction parts with
  | nil => exact .nil
  | cons p parts ih => exact .keep p ih

theorem Inserted.mono {P Q : Part → Prop} {parts parts' : List Part}
    (h : Inserted P parts parts') (hPQ : ∀ p, P p → Q p) : Inserted Q parts parts' := by
  induction h with
  | nil => exact .nil
  | keep p h ih => exact .keep p ih
  | insert hp h ih => exact .insert (hPQ _ hp) ih

theorem Inserted.forall_mem {P Q : Part → Prop} {parts parts' : List Part}
    (h : Inserted P parts parts') (hQ : ∀ p ∈ parts, Q p) (hP : ∀ p, P p → Q p) :
    ∀ p ∈ parts', Q p := by
  induction h with
  | nil => exact hQ
  | keep p h ih =>
    rw [List.forall_mem_cons] at hQ ⊢
    exact ⟨hQ.1, ih hQ.2⟩
  | insert hp h ih => exact List.forall_mem_cons.2 ⟨hP _ hp, ih hQ⟩

/-! ## What stands behind a value -/

def enders : List Symbol :=
  [.char ' ', .char '\n', .char '\t', .char '\r', .char ',', .char ']', .char '}']

def GoesOn (l s : List Symbol) : Prop := ∃ c ∈ l, ∃ t, s = c :: t

/-- Rests in front of which a value may end: they go on with a blank, a comma or a bracket that
closes. -/
def Ends (r : List Symbol) : Prop := GoesOn enders r

theorem GoesOn.mono {l l' s : List Symbol} (h : GoesOn l s) (hl : ∀ c ∈ l, c ∈ l') : GoesOn l' s :=
  let ⟨c, hc, ht⟩ := h
  ⟨c, hl c hc, ht⟩

theorem Ends.blanks {x r : List Symbol} (hx : IsBlanks x) (hr : Ends r) : Ends (x ++ r) := by
  cases x with
  | nil => exact hr
  | cons c x =>
    have hc : isBlank c := hx c List.mem_cons_self
    refine ⟨c, ?_, x ++ r, rfl⟩
    simp only [isBlank, Bool.or_eq_true, beq_iff_eq] at hc
    rcases hc with ((rfl | rfl) | rfl) | rfl <;> decide

theorem Ends.parts {parts : List Part} {t : List Symbol} (ht : Ends t) :
    Ends (partsText false parts t) := by
  cases parts with
  | nil => exact ht
  | cons p parts => exact ⟨.char ',', by decide, _, rfl⟩

theorem ends_closing (b : Bracket) (t : List Symbol) : Ends (b.closing :: t) :=
  ⟨b.closing, by cases b <;> decide, t, rfl⟩

theorem partsText_append (first : Bool) (parts : List Part) (t u : List Symbol) :
    partsText first parts t ++ u = partsText first parts (t ++ u) := by
  induction parts generalizing first with
  | nil => rfl
  | cons p parts ih => simp only [partsText, List.append_assoc, ih]

/-- A digit is a symbol that opens a number, and nothing else. -/
theorem digit?_not_mem {c : Symbol} (h : (digit? c).isSome) {l : List Symbol}
    (hl : ∀ c ∈ l, digit? c = none) : c ∉ l := by
  intro hc
  rw [hl c hc] at h
  cases h

theorem IsWhole.head {x : List Symbol} (h : IsWhole x) :
    ∃ c t, x = c :: t ∧ (digit? c).isSome := by
  cases h with
  | zero => exact ⟨_, _, rfl, by decide⟩
  | digits hc hzero hx => exact ⟨_, _, rfl, hc⟩

theorem IsNumber.head {x : List Symbol} (h : IsNumber x) :
    ∃ c t, x = c :: t ∧ (digit? c).isSome := by
  obtain ⟨hw, hf, he⟩ := h
  obtain ⟨c, t, rfl, hc⟩ := hw.head
  exact ⟨c, _, rfl, hc⟩

/-- A value begins with a symbol that ends none. -/
theorem IsValue.head {x : List Symbol} (h : IsValue x) : ∃ c t, x = c :: t ∧ c ∉ enders := by
  cases h with
  | positive h =>
    obtain ⟨c, t, rfl, hc⟩ := h.head
    exact ⟨c, t, rfl, digit?_not_mem hc (by decide)⟩
  | @parts b _ _ _ _ _ _ => exact ⟨_, _, rfl, by cases b <;> decide⟩
  | _ => exact ⟨_, _, rfl, by decide⟩

theorem IsExponent.goesOn {x r : List Symbol} (h : IsExponent x) (hr : Ends r) :
    GoesOn (.char 'e' :: .char 'E' :: enders) (x ++ r) := by
  cases h with
  | none => exact hr.mono fun _ hc => List.mem_cons_of_mem _ (List.mem_cons_of_mem _ hc)
  | @some letter _ _ hl hs hx hne => exact ⟨letter, List.mem_append_left enders hl, _, rfl⟩

theorem IsFraction.goesOn {x y r : List Symbol} (h : IsFraction x) (hy : IsExponent y)
    (hr : Ends r) : GoesOn (.char '.' :: .char 'e' :: .char 'E' :: enders) (x ++ (y ++ r)) := by
  cases h with
  | none => exact (hy.goesOn hr).mono fun _ hc => List.mem_cons_of_mem _ hc
  | some hx hne => exact ⟨_, List.mem_cons_self, _, rfl⟩

theorem GoesOn.head?_ne {l s : List Symbol} (h : GoesOn l s) {c : Symbol} (hc : c ∉ l) :
    s.head? ≠ some c := by
  obtain ⟨d, hd, t, rfl⟩ := h
  rintro he
  exact hc (Option.some.inj he ▸ hd)

theorem GoesOn.not_digit {l s : List Symbol} (h : GoesOn l s) (hl : ∀ c ∈ l, digit? c = none) :
    s.head?.bind digit? = none := by
  obtain ⟨d, hd, t, rfl⟩ := h
  exact hl d hd

end SourceRegistry.Json
