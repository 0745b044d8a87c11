import SourceRegistry.Proofs.Json.Local
import SourceRegistry.Proofs.Json.Records

/-!
# Members among others

Lists, objects and all other values are read whatever stands behind them. The members of an object
are read into a state one after another, so those that leave the state alone can stand anywhere
among the others: `memberLoop_inserted`. A record takes no notice of members that are not its own,
and `decoder_inserted` says that it is read the same with more of them.
-/

namespace SourceRegistry.Json

open Text (Symbol)

variable {r r' : List Symbol}

def Bracket.kind : Bracket → Opening
  | .list => .list
  | .object => .object

/-- What is left of a value behind its opening. -/
inductive Opened : Opening → List Symbol → Prop
  | null : Opened .null (['u', 'l', 'l'].map .char)
  | true : Opened .true (['r', 'u', 'e'].map .char)
  | false : Opened .false (['a', 'l', 's', 'e'].map .char)
  | number (negative : Bool) {x : List Symbol} (h : IsNumber x) : Opened (.number negative) x
  | string {x : List Symbol} (h : IsString x) : Opened .string x
  | parts {b : Bracket} {parts : List Part} {close : List Symbol}
    (hparts : ∀ p ∈ parts, p.IsPart b) (hclose : IsBlanks close) :
    Opened b.kind (partsText Bool.true parts (close ++ [b.closing]))

theorem peek_append {gap s : List Symbol} (hgap : IsBlanks gap) {c : Symbol} (hc : c ∉ enders)
    {a : Opening × List Symbol} (h : opening c s = some a) : peek (gap ++ c :: s) = .ok a := by
  unfold peek
  rw [skipBlanks_append hgap (not_isBlank_of_not_mem hc)]
  dsimp only
  rw [h]

theorem IsValue.opened {x : List Symbol} (h : IsValue x) {gap : List Symbol}
    (hgap : IsBlanks gap) :
    ∃ o y, Opened o y ∧ ∀ r, peek (gap ++ (x ++ r)) = .ok (o, y ++ r) := by
  cases h with
  | null => exact ⟨_, _, .null, fun r => peek_append hgap (by decide) rfl⟩
  | true => exact ⟨_, _, .true, fun r => peek_append hgap (by decide) rfl⟩
  | false => exact ⟨_, _, .false, fun r => peek_append hgap (by decide) rfl⟩
  | positive h =>
    obtain ⟨c, t, rfl, hc⟩ := h.head
    refine ⟨_, _, .number Bool.false h, fun r => ?_⟩
    have hopening : opening c (t ++ r) = some (.number Bool.false, c :: (t ++ r)) := by
      have hmem := digit?_not_mem hc (l := [.char 'n', .char 't', .char 'f', .char '-',
        .char '\x22', .char '[', .char '{']) (by decide)
      unfold opening
      split <;> simp_all
    exact peek_append hgap (digit?_not_mem hc (by decide)) hopening
  | negative h => exact ⟨_, _, .number Bool.true h, fun r => peek_append hgap (by decide) rfl⟩
  | string h => exact ⟨_, _, .string h, fun r => peek_append hgap (by decide) rfl⟩
  | @parts b parts close hlead hvalue hafter hclose =>
    have hparts : ∀ p ∈ parts, p.IsPart b := fun p hp =>
      ⟨hlead p hp, hvalue p hp, hafter p hp⟩
    refine ⟨_, _, .parts hparts hclose, fun r => ?_⟩
    cases b with
    | list => exact peek_append hgap (by decide) rfl
    | object => exact peek_append hgap (by decide) rfl

theorem peek_local {gap x : List Symbol} (hgap : IsBlanks gap) (h : IsValue x)
    (r r' : List Symbol) :
    Lockstep (fun a b => ∃ o y, Opened o y ∧ a = (o, y ++ r) ∧ b = (o, y ++ r'))
      (peek (gap ++ x ++ r)) (peek (gap ++ x ++ r')) := by
  obtain ⟨o, y, hy, hpeek⟩ := h.opened hgap
  rw [List.append_assoc, List.append_assoc, hpeek, hpeek]
  exact .ok ⟨o, y, hy, rfl, rfl⟩

/-! ## Lists and objects -/

theorem nextItem_part (first : Bool) {blanks gap : List Symbol} (hblanks : IsBlanks blanks)
    (hgap : IsBlanks gap) {c : Symbol} (hc : c ∉ enders) (s : List Symbol) :
    nextItem first (blanks ++ ((if first then [] else [.char ',']) ++ (gap ++ c :: s))) =
      .ok (true, c :: s) := by
  have hblank := not_isBlank_of_not_mem hc
  have hclosing : c ≠ .char ']' := by
    rintro rfl
    exact hc (by decide)
  cases first with
  | true =>
    have hall : IsBlanks (blanks ++ gap) := List.forall_mem_append.2 ⟨hblanks, hgap⟩
    rw [nextItem_eq, if_pos rfl, List.nil_append, ← List.append_assoc,
      skipBlanks_append hall hblank]
    exact if_neg hclosing
  | false =>
    rw [nextItem_eq, if_neg Bool.false_ne_true, List.singleton_append,
      skipBlanks_append hblanks (by decide)]
    have hanother : anotherItem (gap ++ c :: s) = .ok (true, c :: s) := by
      rw [anotherItem_eq, skipBlanks_append hgap hblank]
      exact if_neg hclosing
    exact hanother

theorem nextItem_closing (first : Bool) {blanks : List Symbol} (hblanks : IsBlanks blanks)
    (s : List Symbol) :
    nextItem first (blanks ++ .char ']' :: s) = .ok (false, .char ']' :: s) := by
  rw [nextItem_eq, skipBlanks_append hblanks (by decide)]
  rfl

/-- The number of parts bounds the fuel that reading them takes. -/
theorem itemLoop_local {α : Type} {item : Reader α} {parts : List Part} {close : List Symbol}
    (hparts : ∀ p ∈ parts, p.IsPart .list) (hitem : ∀ p ∈ parts, Local item p.value)
    (hclose : IsBlanks close) {blanks : List Symbol} (hblanks : IsBlanks blanks) (index : Nat)
    {before : List α} {fuel fuel' : Nat} (hf : parts.length < fuel) (hf' : parts.length < fuel') :
    Lockstep (StopsAt (.char ']' :: r) (.char ']' :: r'))
      (itemLoop item fuel index before
        (blanks ++ partsText (index == 0) parts (close ++ .char ']' :: r)))
      (itemLoop item fuel' index before
        (blanks ++ partsText (index == 0) parts (close ++ .char ']' :: r'))) := by
  induction parts generalizing blanks index before fuel fuel' with
  | nil =>
    obtain ⟨fuel, rfl⟩ := Nat.exists_eq_succ_of_ne_zero (Nat.ne_of_gt hf)
    obtain ⟨fuel', rfl⟩ := Nat.exists_eq_succ_of_ne_zero (Nat.ne_of_gt hf')
    have hall : IsBlanks (blanks ++ close) := List.forall_mem_append.2 ⟨hblanks, hclose⟩
    rw [partsText, partsText, ← List.append_assoc, ← List.append_assoc, itemLoop, itemLoop,
      nextItem_closing _ hall, nextItem_closing _ hall]
    exact .ok ⟨rfl, rfl, rfl⟩
  | cons p parts ih =>
    rw [List.forall_mem_cons] at hparts hitem
    obtain ⟨hlead, hvalue, hafter⟩ := hparts.1
    cases fuel with
    | zero => exact absurd hf (Nat.not_lt_zero _)
    | succ fuel =>
      cases fuel' with
      | zero => exact absurd hf' (Nat.not_lt_zero _)
      | succ fuel' =>
        rw [List.length_cons] at hf hf'
        obtain ⟨c, t, hx, hc⟩ := hvalue.head
        have hnext : ∀ rest, nextItem (index == 0)
            (blanks ++ ((if index == 0 then [] else [.char ',']) ++
              (p.lead ++ (p.value ++ rest)))) = .ok (true, p.value ++ rest) := by
          intro rest
          rw [hx]
          exact nextItem_part _ hblanks hlead.blanks hc _
        have hends : ∀ r, Ends (p.after ++ partsText false parts (close ++ .char ']' :: r)) :=
          fun r => .blanks hafter (.parts (.blanks hclose (ends_closing .list r)))
        rw [itemLoop, itemLoop, partsText, partsText, hnext, hnext]
        refine ((hitem.1 _ _ (hends r) (hends r')).under (.item index)).bind ?_
        rintro ⟨x, _⟩ ⟨_, _⟩ ⟨rfl, rfl, rfl⟩
        exact ih hparts.2 hitem.2 hafter (index + 1) (by omega) (by omega)

/-- There is fuel enough for all parts of a text in its length. -/
theorem length_lt_partsText {parts : List Part} (hvalue : ∀ p ∈ parts, IsValue p.value)
    (first : Bool) (t : List Symbol) : parts.length < (partsText first parts t).length + 1 := by
  induction parts generalizing first with
  | nil => exact Nat.succ_pos _
  | cons p parts ih =>
    rw [List.forall_mem_cons] at hvalue
    obtain ⟨c, x, hx, -⟩ := hvalue.1.head
    have hrest := ih hvalue.2 false
    simp only [partsText, hx, List.length_append, List.length_cons]
    omega

theorem items_local {α : Type} {item : Reader α} {parts : List Part} {close : List Symbol}
    (hparts : ∀ p ∈ parts, p.IsPart .list) (hitem : ∀ p ∈ parts, Local item p.value)
    (hclose : IsBlanks close) :
    Local (items item) (partsText true parts (close ++ [.char ']'])) := by
  intro r r' hr hr'
  simp only [partsText_append, List.append_assoc, List.singleton_append]
  have hf := length_lt_partsText (fun p hp => (hparts p hp).value) true
  have hnil : IsBlanks [] := List.forall_mem_nil _
  refine (itemLoop_local hparts hitem hclose hnil 0 (hf _) (hf _)).bind ?_
  rintro ⟨l, _⟩ ⟨_, _⟩ ⟨rfl, rfl, rfl⟩
  exact .ok ⟨rfl, rfl, rfl⟩

theorem nextName_lead (first : Bool) {blanks before : List Symbol} (hblanks : IsBlanks blanks)
    (hbefore : IsBlanks before) (s : List Symbol) :
    nextName first (blanks ++ ((if first then [] else [.char ',']) ++
      (before ++ .char '\x22' :: s))) = nextName.name s := by
  cases first with
  | true =>
    have hall : IsBlanks (blanks ++ before) := List.forall_mem_append.2 ⟨hblanks, hbefore⟩
    rw [nextName_eq, if_pos rfl, List.nil_append, ← List.append_assoc,
      skipBlanks_append hall (by decide)]
    rfl
  | false =>
    have hanother : anotherName (before ++ .char '\x22' :: s) = nextName.name s := by
      rw [anotherName_eq, skipBlanks_append hbefore (by decide)]
      rfl
    rw [nextName_eq, if_neg Bool.false_ne_true, List.singleton_append,
      skipBlanks_append hblanks (by decide)]
    exact hanother

theorem nextName_closing (first : Bool) {blanks : List Symbol} (hblanks : IsBlanks blanks)
    (s : List Symbol) :
    nextName first (blanks ++ .char '}' :: s) = .ok (none, .char '}' :: s) := by
  rw [nextName_eq, skipBlanks_append hblanks (by decide)]
  rfl

theorem name_local {key : List Symbol} (hkey : IsString key) (s s' : List Symbol) :
    Lockstep (fun a b => ∃ name, a = (some name, s) ∧ b = (some name, s'))
      (nextName.name (key ++ s)) (nextName.name (key ++ s')) := by
  refine (stringBody_local hkey s s').bind ?_
  rintro ⟨name, _⟩ ⟨_, _⟩ ⟨rfl, rfl, rfl⟩
  exact .ok ⟨name, rfl, rfl⟩

theorem colon_append {between : List Symbol} (hbetween : IsBlanks between) (s : List Symbol) :
    colon (between ++ .char ':' :: s) = .ok s := by
  rw [colon_eq, skipBlanks_append hbetween (by decide)]
  rfl

section
variable {σ : Type} {member : String → σ → Reader σ}

/-- A member that is passed over, whatever the state is. -/
structure PassedBy (member : String → σ → Reader σ) (p : Part) : Prop where
  name : ∃ t, NamesMember p.lead t ∧ ∀ state {between gap}, IsBlanks between → IsBlanks gap →
    ∀ {r}, Ends r → member (String.ofList t) state
      (between ++ .char ':' :: (gap ++ (p.value ++ r))) = .ok (state, r)
  after : IsBlanks p.after

/-- Members that are passed over make no difference to the state that the others are read into. -/
theorem memberLoop_inserted {parts parts' : List Part} {close : List Symbol}
    (h : Inserted (PassedBy member) parts parts') (hparts : ∀ p ∈ parts, p.IsPart .object)
    (hmember : ∀ p ∈ parts, ∀ name state {between gap}, IsBlanks between → IsBlanks gap →
      Local (member name state) (between ++ .char ':' :: (gap ++ p.value)))
    (hclose : IsBlanks close) {blanks blanks' : List Symbol} (hblanks : IsBlanks blanks)
    (hblanks' : IsBlanks blanks') (first first' : Bool) (state : σ) {fuel fuel' : Nat}
    (hf : parts.length < fuel) (hf' : parts'.length < fuel') :
    Lockstep (StopsAt (.char '}' :: r) (.char '}' :: r'))
      (memberLoop member fuel first state
        (blanks ++ partsText first parts (close ++ .char '}' :: r)))
      (memberLoop member fuel' first' state
        (blanks' ++ partsText first' parts' (close ++ .char '}' :: r'))) := by
  have hends : ∀ {after}, IsBlanks after → ∀ parts r,
      Ends (after ++ partsText false parts (close ++ .char '}' :: r)) :=
    fun hafter _ r => .blanks hafter (.parts (.blanks hclose (ends_closing .object r)))
  induction h generalizing blanks blanks' first first' state fuel fuel' with
  | nil =>
    obtain ⟨fuel, rfl⟩ := Nat.exists_eq_succ_of_ne_zero (Nat.ne_of_gt hf)
    obtain ⟨fuel', rfl⟩ := Nat.exists_eq_succ_of_ne_zero (Nat.ne_of_gt hf')
    have hall : ∀ {blanks}, IsBlanks blanks → IsBlanks (blanks ++ close) := fun hblanks =>
      List.forall_mem_append.2 ⟨hblanks, hclose⟩
    rw [partsText, partsText, ← List.append_assoc, ← List.append_assoc, memberLoop, memberLoop,
      nextName_closing _ (hall hblanks), nextName_closing _ (hall hblanks')]
    exact .ok ⟨rfl, rfl, rfl⟩
  | @keep p parts parts' h ih =>
    rw [List.forall_mem_cons] at hparts hmember
    obtain ⟨hlead, -, hafter⟩ := hparts.1
    cases fuel with
    | zero => exact absurd hf (Nat.not_lt_zero _)
    | succ fuel =>
      cases fuel' with
      | zero => exact absurd hf' (Nat.not_lt_zero _)
      | succ fuel' =>
        rw [List.length_cons] at hf hf'
        obtain ⟨before, key, between, gap, hbefore, hkey, hbetween, hgap, htext⟩ := hlead.split
        simp only [partsText, htext]
        rw [memberLoop, memberLoop, nextName_lead _ hblanks hbefore,
          nextName_lead _ hblanks' hbefore]
        refine ((name_local hkey _ _).under .unknown).bind ?_
        rintro _ _ ⟨name, rfl, rfl⟩
        have hread := hmember.1 name state hbetween hgap _ _
          (hends hafter parts r) (hends hafter parts' r')
        simp only [List.append_assoc, List.cons_append] at hread
        refine hread.bind ?_
        rintro ⟨state, _⟩ ⟨_, _⟩ ⟨rfl, rfl, rfl⟩
        exact ih hparts.2 hmember.2 hafter hafter false false state (by omega) (by omega)
  | @insert p parts parts' hp h ih =>
    cases fuel' with
    | zero => exact absurd hf' (Nat.not_lt_zero _)
    | succ fuel' =>
      rw [List.length_cons] at hf'
      obtain ⟨⟨t, hlead, hpass⟩, hafter⟩ := hp
      obtain ⟨before, key, between, gap, hbefore, hkey, hbetween, hgap, htext⟩ := hlead.split
      have hname : ∀ s, nextName.name (key ++ s) = .ok (some (String.ofList t), s) := by
        intro s
        unfold nextName.name
        rw [stringBody_append hkey]
        rfl
      have hstep : ∀ rest, Ends rest → memberLoop member (fuel' + 1) first' state
          (blanks' ++ ((if first' then [] else [.char ',']) ++ (p.lead ++ (p.value ++ rest)))) =
          memberLoop member fuel' false state rest := by
        intro rest hrest
        rw [htext, memberLoop, nextName_lead _ hblanks' hbefore, hname]
        dsimp only [under, Except.mapError, bind, Except.bind]
        rw [hpass state hbetween hgap hrest]
      rw [partsText, hstep _ (hends hafter parts' r')]
      exact ih hparts hmember hblanks hafter first false state hf (by omega)

end

theorem memberValue_local {α : Type} {value : Reader α} (name : String) {between x : List Symbol}
    (hbetween : IsBlanks between) (h : Local value x) :
    Local (memberValue name value) (between ++ .char ':' :: x) := by
  intro r r' hr hr'
  unfold memberValue
  simp only [List.append_assoc, List.cons_append]
  rw [colon_append hbetween, colon_append hbetween]
  exact (h r r' hr hr').under _

theorem pairs_local {α : Type} {value : Reader α} {parts : List Part} {close : List Symbol}
    (hparts : ∀ p ∈ parts, p.IsPart .object)
    (hmember : ∀ p ∈ parts, ∀ {gap}, IsBlanks gap → Local value (gap ++ p.value))
    (hclose : IsBlanks close) :
    Local (pairs value) (partsText true parts (close ++ [.char '}'])) := by
  intro r r' hr hr'
  simp only [partsText_append, List.append_assoc, List.singleton_append]
  have hf := length_lt_partsText (fun p hp => (hparts p hp).value) true
  have hnil : IsBlanks [] := List.forall_mem_nil _
  refine (memberLoop_inserted (.refl _ parts) hparts ?_ hclose hnil hnil true true []
    (hf _) (hf _)).bind ?_
  · intro p hp name ms between gap hbetween hgap r r' hr hr'
    refine (memberValue_local name hbetween (hmember p hp hgap) r r' hr hr').bind ?_
    rintro ⟨v, _⟩ ⟨_, _⟩ ⟨rfl, rfl, rfl⟩
    exact .ok ⟨rfl, rfl, rfl⟩
  · rintro ⟨ms, _⟩ ⟨_, _⟩ ⟨rfl, rfl, rfl⟩
    exact .ok ⟨rfl, rfl, rfl⟩

/-! ## Values -/

theorem word_local (cs : List Char) (r r' : List Symbol) :
    Lockstep (fun t t' => t = r ∧ t' = r') (word cs (cs.map .char ++ r))
      (word cs (cs.map .char ++ r')) := by
  have hword : ∀ r, word cs (cs.map .char ++ r) = .ok r := by
    intro r
    induction cs with
    | nil => rfl
    | cons c cs ih => rw [List.map_cons, List.cons_append, word, if_pos rfl, ih]
  rw [hword, hword]
  exact .ok ⟨rfl, rfl⟩

theorem value_local (depth : Nat) {gap x : List Symbol} (hgap : IsBlanks gap) (h : IsValue x) :
    Local (value depth) (gap ++ x) := by
  induction depth using Nat.strongRecOn generalizing gap x with
  | ind depth ih =>
    intro r r' hr hr'
    rw [value, value]
    refine (peek_local hgap h r r').bind ?_
    rintro _ _ ⟨o, y, hy, rfl, rfl⟩
    cases hy with
    | null =>
      refine (word_local ['u', 'l', 'l'] r r').bind ?_
      rintro _ _ ⟨rfl, rfl⟩
      exact .ok ⟨rfl, rfl, rfl⟩
    | true =>
      refine (word_local ['r', 'u', 'e'] r r').bind ?_
      rintro _ _ ⟨rfl, rfl⟩
      exact .ok ⟨rfl, rfl, rfl⟩
    | false =>
      refine (word_local ['a', 'l', 's', 'e'] r r').bind ?_
      rintro _ _ ⟨rfl, rfl⟩
      exact .ok ⟨rfl, rfl, rfl⟩
    | number negative h =>
      refine (numberBody_local negative h r r' hr hr').bind ?_
      rintro ⟨n, _⟩ ⟨_, _⟩ ⟨rfl, rfl, rfl⟩
      exact .ok ⟨rfl, rfl, rfl⟩
    | string h =>
      refine (stringBody_local h r r').bind ?_
      rintro ⟨t, _⟩ ⟨_, _⟩ ⟨rfl, rfl, rfl⟩
      exact .ok ⟨rfl, rfl, rfl⟩
    | @parts b parts close hparts hclose =>
      cases depth with
      | zero => cases b <;> exact .failAt _ _ _
      | succ depth =>
        have hpart : ∀ p ∈ parts, ∀ {gap}, IsBlanks gap → Local (value depth) (gap ++ p.value) :=
          fun p hp _ hgap => ih depth (Nat.lt_succ_self depth) hgap (hparts p hp).value
        cases b with
        | list =>
          have hitem : ∀ p ∈ parts, Local (value depth) p.value := fun p hp =>
            hpart p hp (List.forall_mem_nil _)
          refine (items_local hparts hitem hclose r r' hr hr').bind ?_
          rintro ⟨l, _⟩ ⟨_, _⟩ ⟨rfl, rfl, rfl⟩
          exact .ok ⟨rfl, rfl, rfl⟩
        | object =>
          refine (pairs_local hparts hpart hclose r r' hr hr').bind ?_
          rintro ⟨ms, _⟩ ⟨_, _⟩ ⟨rfl, rfl, rfl⟩
          exact .ok ⟨rfl, rfl, rfl⟩

/-! ## Decoders -/

theorem refuse_local {α : Type} {R : α × List Symbol → α × List Symbol → Prop} (expected : String)
    {o : Opening} {y : List Symbol} (hy : Opened o y) (hr : Ends r) (hr' : Ends r') :
    Lockstep R (refuse expected o (y ++ r)) (refuse expected o (y ++ r')) := by
  cases hy with
  | null => exact (word_local ['u', 'l', 'l'] r r').bind fun _ _ _ => .failAt _ _ _
  | true => exact (word_local ['r', 'u', 'e'] r r').bind fun _ _ _ => .failAt _ _ _
  | false => exact (word_local ['a', 'l', 's', 'e'] r r').bind fun _ _ _ => .failAt _ _ _
  | number negative h =>
    refine (numberBody_local negative h r r' hr hr').bind ?_
    rintro ⟨n, _⟩ ⟨_, _⟩ ⟨rfl, rfl, rfl⟩
    exact .failAt _ _ _
  | string h =>
    refine (stringBody_local h r r').bind ?_
    rintro ⟨t, _⟩ ⟨_, _⟩ ⟨rfl, rfl, rfl⟩
    exact .failAt _ _ _
  | @parts b parts close hparts hclose =>
    cases b with
    | list => exact .failAt _ _ _
    | object => exact .failAt _ _ _

namespace Decoder

variable {gap x : List Symbol}

theorem string_local (depth : Nat) (hgap : IsBlanks gap) (h : IsValue x) :
    Local (string depth) (gap ++ x) := by
  intro r r' hr hr'
  refine (peek_local hgap h r r').bind ?_
  rintro _ _ ⟨o, y, hy, rfl, rfl⟩
  cases hy with
  | string h =>
    refine (stringBody_local h r r').bind ?_
    rintro ⟨t, _⟩ ⟨_, _⟩ ⟨rfl, rfl, rfl⟩
    exact .ok ⟨rfl, rfl, rfl⟩
  | @parts b parts close hparts hclose =>
    cases b <;> exact refuse_local _ (.parts hparts hclose) hr hr'
  | _ => exact refuse_local _ (by constructor <;> assumption) hr hr'

theorem bool_local (depth : Nat) (hgap : IsBlanks gap) (h : IsValue x) :
    Local (bool depth) (gap ++ x) := by
  intro r r' hr hr'
  refine (peek_local hgap h r r').bind ?_
  rintro _ _ ⟨o, y, hy, rfl, rfl⟩
  cases hy with
  | true =>
    refine (word_local ['r', 'u', 'e'] r r').bind ?_
    rintro _ _ ⟨rfl, rfl⟩
    exact .ok ⟨rfl, rfl, rfl⟩
  | false =>
    refine (word_local ['a', 'l', 's', 'e'] r r').bind ?_
    rintro _ _ ⟨rfl, rfl⟩
    exact .ok ⟨rfl, rfl, rfl⟩
  | @parts b parts close hparts hclose =>
    cases b <;> exact refuse_local _ (.parts hparts hclose) hr hr'
  | _ => exact refuse_local _ (by constructor <;> assumption) hr hr'

/-- A value that starts like `null` is `null`. -/
theorem eq_null_of_head (h : IsValue x) (hn : x.head? = some (.char 'n')) :
    x = .char 'n' :: ['u', 'l', 'l'].map .char := by
  cases h with
  | null => rfl
  | positive h =>
    obtain ⟨c, t, rfl, hc⟩ := h.head
    cases hn
    exact absurd hc (by decide)
  | @parts b parts close hlead hvalue hafter hclose => cases b <;> cases hn
  | _ => cases hn

theorem nullable_any_local (depth : Nat) (hgap : IsBlanks gap) (h : IsValue x) :
    Local (nullable .any depth) (gap ++ x) := by
  intro r r' hr hr'
  obtain ⟨c, t, hx, hc⟩ := h.head
  have hblanks : ∀ r, skipBlanks (gap ++ x ++ r) = x ++ r := by
    intro r
    rw [hx, List.append_assoc, List.cons_append,
      skipBlanks_append hgap (not_isBlank_of_not_mem hc)]
  by_cases hn : x.head? = some (.char 'n')
  · have hnull := eq_null_of_head h hn
    unfold nullable
    rw [hblanks, hblanks, hnull]
    refine (word_local ['u', 'l', 'l'] r r').bind ?_
    rintro _ _ ⟨rfl, rfl⟩
    exact .ok ⟨rfl, rfl, rfl⟩
  · have hhead : ∀ r, (skipBlanks (gap ++ x ++ r)).head? ≠ some (.char 'n') := by
      intro r
      rw [hblanks, hx]
      rwa [hx] at hn
    rw [nullable_of_head? depth (hhead r), nullable_of_head? depth (hhead r'), hblanks, hblanks]
    refine (value_local depth (List.forall_mem_nil _) h r r' hr hr').bind ?_
    rintro ⟨j, _⟩ ⟨_, _⟩ ⟨rfl, rfl, rfl⟩
    exact .ok ⟨rfl, rfl, rfl⟩

theorem setting_local {α σ : Type} {d : Decoder α} (set : α → σ → σ) {depth : Nat}
    (h : Local (d depth) x) : Local (d.setting set depth) x := by
  intro r r' hr hr'
  refine (h r r' hr hr').bind ?_
  rintro ⟨a, _⟩ ⟨_, _⟩ ⟨rfl, rfl, rfl⟩
  exact .ok ⟨rfl, rfl, rfl⟩

end Decoder

namespace RecordForm

variable {σ α : Type} {form : RecordForm σ α} {depth : Nat} {between gap x : List Symbol}

/-- A member that a record does not have is passed over. -/
theorem member_of_unknown {name : String} (hname : name ∉ form.members.map (·.name)) (state : σ)
    (hbetween : IsBlanks between) (hgap : IsBlanks gap) (h : IsValue x) {r : List Symbol}
    (hr : Ends r) :
    form.member depth name state (between ++ .char ':' :: (gap ++ (x ++ r))) =
      .ok (state, r) := by
  have hnone : form.members.find? (·.name == name) = none := List.find?_eq_none.2 fun m hm he =>
    hname (List.mem_map.2 ⟨m, hm, eq_of_beq he⟩)
  unfold member memberValue
  rw [hnone, colon_append hbetween]
  dsimp only [bind, Except.bind]
  rw [skip_value hgap h hr]
  rfl

theorem passedBy_of_isOther {p : Part} (h : p.IsOther (form.members.map (·.name))) :
    PassedBy (form.member depth) p := by
  obtain ⟨t, hlead, hname⟩ := h.name
  exact ⟨⟨t, hlead, fun state _ _ hbetween hgap _ hr =>
    member_of_unknown hname state hbetween hgap h.value hr⟩, h.after⟩

/-- A member that a record has is read whatever stands behind it, if it has not been given. -/
theorem member_local
    (hread : ∀ m ∈ form.members, ∀ {gap x}, IsBlanks gap → IsValue x →
      Local (m.read depth) (gap ++ x))
    (name : String) (state : σ) (hbetween : IsBlanks between) (hgap : IsBlanks gap)
    (h : IsValue x) :
    Local (form.member depth name state) (between ++ .char ':' :: (gap ++ x)) := by
  intro r r' hr hr'
  cases hm : form.members.find? (·.name == name) with
  | none =>
    have hname : name ∉ form.members.map (·.name) := by
      intro hname
      obtain ⟨m, hmem, rfl⟩ := List.mem_map.1 hname
      exact List.find?_eq_none.1 hm m hmem (beq_self_eq_true m.name)
    simp only [List.append_assoc, List.cons_append]
    rw [member_of_unknown hname state hbetween hgap h hr,
      member_of_unknown hname state hbetween hgap h hr']
    exact .ok ⟨rfl, rfl, rfl⟩
  | some m =>
    unfold member
    rw [hm]
    dsimp only
    split
    · exact .failAt _ _ _
    · have hvalue := hread m (List.mem_of_find?_eq_some hm) hgap h
      refine (memberValue_local name hbetween hvalue r r' hr hr').bind ?_
      rintro ⟨set, _⟩ ⟨_, _⟩ ⟨rfl, rfl, rfl⟩
      exact .ok ⟨rfl, rfl, rfl⟩

theorem decoder_object {blanks : List Symbol} (hblanks : IsBlanks blanks) (s : List Symbol) :
    form.decoder (depth + 1) (blanks ++ .char '\x7b' :: s) =
      Json.members (form.member depth) form.start s >>= fun read =>
        endMembers read.2 >>= form.complete read.1 := by
  unfold decoder
  rw [peek_append hblanks (by decide) rfl]
  rfl

/-- A record is read the same with more members that are not its own, wherever they stand. -/
theorem decoder_inserted
    (hread : ∀ m ∈ form.members, ∀ {gap x}, IsBlanks gap → IsValue x →
      Local (m.read depth) (gap ++ x))
    {parts parts' : List Part}
    (h : Inserted (Part.IsOther (form.members.map (·.name))) parts parts')
    (hparts : ∀ p ∈ parts, p.IsPart .object) {blanks close : List Symbol}
    (hblanks : IsBlanks blanks) (hclose : IsBlanks close) (r r' : List Symbol) :
    Lockstep (StopsAt r r')
      (form.decoder (depth + 1)
        (blanks ++ .char '\x7b' :: partsText true parts (close ++ .char '}' :: r)))
      (form.decoder (depth + 1)
        (blanks ++ .char '\x7b' :: partsText true parts' (close ++ .char '}' :: r'))) := by
  have hvalue : ∀ p ∈ parts', IsValue p.value :=
    h.forall_mem (fun p hp => (hparts p hp).value) fun p hp => hp.value
  have hnil : IsBlanks [] := List.forall_mem_nil _
  rw [decoder_object hblanks, decoder_object hblanks]
  refine (memberLoop_inserted (h.mono fun _ => passedBy_of_isOther) hparts ?_ hclose hnil hnil
    true true form.start (length_lt_partsText (fun p hp => (hparts p hp).value) true _)
    (length_lt_partsText hvalue true _)).bind ?_
  · intro p hp name state between gap hbetween hgap
    exact member_local hread name state hbetween hgap (hparts p hp).value
  · rintro ⟨state, _⟩ ⟨_, _⟩ ⟨rfl, rfl, rfl⟩
    show Lockstep _ (form.complete state r) (form.complete state r')
    unfold complete
    cases form.finish state with
    | ok x => exact .ok ⟨rfl, rfl, rfl⟩
    | error m => exact .failAt _ _ _

end RecordForm

end SourceRegistry.Json
