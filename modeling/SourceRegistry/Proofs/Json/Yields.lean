import Mathlib.Data.List.Forall2
import SourceRegistry.Proofs.Json.Denotes
import SourceRegistry.Proofs.Slots

/-!
# What readers make of texts

A reader yields what a text means: it reads the text, whatever stands around it, as each of its
meanings, and refuses it if it has none. Decoders of strings, truth values and whole numbers yield
what texts denote; the readers of lists and objects yield what their parts make up, item by item
and member by member.
-/

namespace SourceRegistry.Json

open Text (Symbol)

theorem ok_bind {α β : Type} (a : α) (f : α → Except Fault β) : Except.ok a >>= f = f a := rfl

theorem bind_eq_ok_iff {α β : Type} {x : Except Fault α} {f : α → Except Fault β} {b : β} :
    x >>= f = .ok b ↔ ∃ a, x = .ok a ∧ f a = .ok b := by
  cases x with
  | error e => exact ⟨nofun, nofun⟩
  | ok a => exact ⟨fun h => ⟨a, rfl, h⟩, fun ⟨_, ha, h⟩ => Except.ok.inj ha ▸ h⟩

theorem ne_ok_of_toBool {α : Type} {x : Except Fault α} (h : x.toBool = false) (a : α) :
    x ≠ .ok a := by
  rintro rfl
  cases h

/-- A reader makes of a text what the text means, and nothing else, whatever stands around it. -/
def Yields {α : Type} (read : Reader α) (x : List Symbol) (means : α → Prop) : Prop :=
  ∀ ⦃gap r : List Symbol⦄, IsBlanks gap → Ends r → ∀ a s,
    read (gap ++ (x ++ r)) = .ok (a, s) ↔ means a ∧ s = r

theorem Yields.congr {α : Type} {read : Reader α} {x : List Symbol} {means means' : α → Prop}
    (h : Yields read x means) (hm : ∀ a, means a ↔ means' a) : Yields read x means' :=
  fun _ _ hgap hr a s => (h hgap hr a s).trans (and_congr_left fun _ => hm a)

/-- A text means one thing at most. -/
theorem Yields.eq {α : Type} {read : Reader α} {x : List Symbol} {means : α → Prop}
    (h : Yields read x means) {a b : α} (ha : means a) (hb : means b) : a = b := by
  have hnil : IsBlanks [] := List.forall_mem_nil _
  have hr : Ends [.char ','] := ⟨.char ',', by decide, [], rfl⟩
  have hread := ((h hnil hr a _).2 ⟨ha, rfl⟩).symm.trans ((h hnil hr b _).2 ⟨hb, rfl⟩)
  cases hread
  rfl

/-- What is made of the value that is read. -/
theorem Yields.map {α β : Type} {read : Reader α} {x : List Symbol} {means : α → Prop} (f : α → β)
    (h : Yields read x means) : Yields (fun s => do
      let (a, s) ← read s
      .ok (f a, s)) x fun b => ∃ a, means a ∧ b = f a := by
  intro gap r hgap hr b s
  rw [bind_eq_ok_iff]
  constructor
  · rintro ⟨⟨a, t⟩, ha, hb⟩
    obtain ⟨hm, rfl⟩ := (h hgap hr a t).1 ha
    cases hb
    exact ⟨⟨a, hm, rfl⟩, rfl⟩
  · rintro ⟨⟨a, hm, rfl⟩, rfl⟩
    exact ⟨(a, s), (h hgap hr a s).2 ⟨hm, rfl⟩, rfl⟩

def Opening.symbols : Opening → List Symbol
  | .null => [.char 'n']
  | .true => [.char 't']
  | .false => [.char 'f']
  | .number Bool.true => [.char '-']
  | .number Bool.false => []
  | .string => [.char '\x22']
  | .list => [.char '[']
  | .object => [.char '\x7b']

theorem opening_symbols {c : Symbol} {s t : List Symbol} {o : Opening}
    (h : opening c s = some (o, t)) : c :: s = o.symbols ++ t := by
  unfold opening at h
  split at h
  all_goals first | (cases h; rfl) | skip
  split at h <;> cases h
  rfl

theorem peek_blanks {gap : List Symbol} (hgap : IsBlanks gap) (s : List Symbol) :
    peek (gap ++ s) = peek s := by
  unfold peek skipBlanks
  rw [List.dropWhile_append_of_pos hgap]

/-- A value is seen by its opening, and it is the opening with what is left behind it. -/
theorem IsValue.peek {x : List Symbol} (h : IsValue x) : ∃ o y, Opened o y ∧ x = o.symbols ++ y ∧
    ∀ {gap}, IsBlanks gap → ∀ r, Json.peek (gap ++ (x ++ r)) = .ok (o, y ++ r) := by
  obtain ⟨o, y, hy, hpeek⟩ := h.opened (List.forall_mem_nil _)
  refine ⟨o, y, hy, ?_, fun hgap r => by rw [peek_blanks hgap, ← hpeek r, List.nil_append]⟩
  obtain ⟨c, t, rfl, hc⟩ := h.head
  have hopening := hpeek []
  rw [Json.peek, List.append_nil, List.append_nil, List.nil_append, skipBlanks,
    List.dropWhile_cons_of_neg (not_isBlank_of_not_mem hc)] at hopening
  dsimp only at hopening
  split at hopening
  · next ho =>
    cases hopening
    exact opening_symbols ho
  · cases hopening

/-- A refusal is no value. -/
theorem refuse_ne_ok {α : Type} {expected : String} {o : Opening} {s : List Symbol}
    {a : α × List Symbol} : refuse expected o s ≠ .ok a := by
  intro h
  cases o with
  | list => cases h
  | object => cases h
  | _ =>
    obtain ⟨_, -, h⟩ := bind_eq_ok_iff.1 h
    cases h

theorem word_append (cs : List Char) (r : List Symbol) : word cs (cs.map .char ++ r) = .ok r := by
  induction cs with
  | nil => rfl
  | cons c cs ih => rw [List.map_cons, List.cons_append, word, if_pos rfl, ih]

/-! ## Values without parts -/

theorem opening_digit {c : Symbol} (hc : (digit? c).isSome) (s : List Symbol) :
    opening c s = some (.number false, c :: s) := by
  have hmem := digit?_not_mem hc (l := [.char 'n', .char 't', .char 'f', .char '-',
    .char '\x22', .char '[', .char '\x7b']) (by decide)
  unfold opening
  split <;> simp_all

theorem IsNumber.peek {x gap : List Symbol} (h : IsNumber x) (hgap : IsBlanks gap)
    (r : List Symbol) : Json.peek (gap ++ (x ++ r)) = .ok (.number false, x ++ r) := by
  obtain ⟨c, t, rfl, hc⟩ := h.head
  exact peek_append hgap (digit?_not_mem hc (by decide)) (opening_digit hc _)

theorem Denotes.peek_number {depth : Nat} {x : List Symbol} {n : Int}
    (h : Denotes depth x (.number (.whole n))) : ∃ negative y, IsNumber y ∧
      DenotesWhole negative y n ∧
      ∀ {gap}, IsBlanks gap → ∀ r, peek (gap ++ (x ++ r)) = .ok (.number negative, y ++ r) := by
  cases h with
  | positive h => exact ⟨Bool.false, _, h.isNumber, h, h.isNumber.peek⟩
  | negative h =>
    exact ⟨Bool.true, _, h.isNumber, h, fun hgap r => peek_append hgap (by decide) rfl⟩

namespace Decoder

variable {x : List Symbol} {depth : Nat}

theorem parsed_yields {α : Type} (expected : String) (parse : String → Except String α)
    (h : IsValue x) : Yields (parsed expected parse depth) x fun a =>
      ∃ t, Denotes 0 x (.string t) ∧ parse t = .ok a := by
  intro gap r hgap hr a s
  constructor
  · intro hread
    obtain ⟨o, y, hy, rfl, hpeek⟩ := h.peek
    unfold parsed at hread
    rw [hpeek hgap, ok_bind] at hread
    cases hy with
    | string h =>
      obtain ⟨⟨t, s'⟩, hbody, hparse⟩ := bind_eq_ok_iff.1 hread
      obtain ⟨ht, rfl⟩ := (stringBody_eq_ok_iff h).1 hbody
      dsimp only at hparse
      split at hparse
      · next hp =>
        cases hparse
        exact ⟨⟨t, .string ht, hp⟩, rfl⟩
      · cases hparse
    | @parts b _ _ _ _ => cases b <;> exact absurd hread refuse_ne_ok
    | _ => exact absurd hread refuse_ne_ok
  · rintro ⟨⟨t, ht, hp⟩, rfl⟩
    cases ht with
    | @string _ y _ ht =>
      have hbody : stringBody (y ++ s) = .ok (t, s) :=
        (stringBody_eq_ok_iff ht.isString).2 ⟨ht, rfl⟩
      unfold parsed
      rw [List.cons_append, peek_append hgap (by decide) rfl, ok_bind]
      dsimp only
      rw [hbody, ok_bind]
      dsimp only
      rw [hp]

theorem string_yields (h : IsValue x) :
    Yields (string depth) x fun t => Denotes 0 x (.string t) :=
  (parsed_yields "a string" .ok h).congr fun t => by simp

theorem bool_yields (h : IsValue x) : Yields (bool depth) x fun b => Denotes 0 x (.bool b) := by
  intro gap r hgap hr a s
  constructor
  · intro hread
    obtain ⟨o, y, hy, rfl, hpeek⟩ := h.peek
    unfold bool at hread
    rw [hpeek hgap, ok_bind] at hread
    cases hy with
    | true =>
      obtain ⟨s', hword, hread⟩ := bind_eq_ok_iff.1 hread
      rw [word_append] at hword
      cases hword
      cases hread
      exact ⟨.true, rfl⟩
    | false =>
      obtain ⟨s', hword, hread⟩ := bind_eq_ok_iff.1 hread
      rw [word_append] at hword
      cases hword
      cases hread
      exact ⟨.false, rfl⟩
    | @parts b _ _ _ _ => cases b <;> exact absurd hread refuse_ne_ok
    | _ => exact absurd hread refuse_ne_ok
  · rintro ⟨hb, rfl⟩
    unfold bool
    cases hb with
    | true =>
      rw [List.cons_append, peek_append hgap (by decide) rfl]
      rfl
    | false =>
      rw [List.cons_append, peek_append hgap (by decide) rfl]
      rfl

/-- Whole numbers are read without a minus and up to a bound. -/
theorem unsigned_yields {bits : Nat} (expected : String) (h : IsValue x) :
    Yields (unsigned expected bits depth) x fun n =>
      Denotes 0 x (.ofNat n) ∧ Word.fits bits n = true := by
  intro gap r hgap hr a s
  constructor
  · intro hread
    obtain ⟨o, y, hy, rfl, hpeek⟩ := h.peek
    unfold unsigned at hread
    rw [hpeek hgap, ok_bind] at hread
    cases hy with
    | number negative h =>
      obtain ⟨⟨n, s'⟩, hbody, hread⟩ := bind_eq_ok_iff.1 hread
      rcases n with ⟨k | k⟩ | f
      · dsimp only at hread
        split at hread
        · next hfits =>
          cases hread
          obtain ⟨hn, rfl⟩ := (numberBody_eq_whole_iff h hr).1 hbody
          cases negative with
          | false => exact ⟨⟨.positive hn, hfits⟩, rfl⟩
          | true => exact ⟨⟨.negative hn, hfits⟩, rfl⟩
        · cases hread
      · cases hread
      · cases hread
    | @parts b _ _ _ _ => cases b <;> exact absurd hread refuse_ne_ok
    | _ => exact absurd hread refuse_ne_ok
  · rintro ⟨⟨hn, hfits⟩, rfl⟩
    obtain ⟨negative, y, hy, hn, hpeek⟩ := hn.peek_number
    unfold unsigned
    rw [hpeek hgap, ok_bind]
    dsimp only
    rw [(numberBody_eq_whole_iff hy hr).2 ⟨hn, rfl⟩]
    exact if_pos hfits

/-- Where there is no `null`, there is a value. -/
theorem nullable_yields {α : Type} {d : Decoder α} {c : Symbol} {y : List Symbol}
    {means : α → Prop} (hc : c ∉ enders) (hn : c ≠ .char 'n')
    (h : Yields (d depth) (c :: y) means) :
    Yields (d.nullable depth) (c :: y) fun o => ∃ a, means a ∧ o = some a := by
  intro gap r hgap hr o s
  have hsome := h.map some (List.forall_mem_nil _) hr o s
  have hskip : skipBlanks (gap ++ (c :: y ++ r)) = c :: (y ++ r) :=
    skipBlanks_append hgap (not_isBlank_of_not_mem hc) _
  rw [← hsome]
  unfold nullable
  rw [hskip]
  split
  · next he => exact absurd (List.cons.inj he).1 hn
  · rfl

end Decoder

/-! ## Lists and objects -/

theorem under_eq_ok_iff {α : Type} {step : Step} {x : Except Fault α} {a : α} :
    under step x = .ok a ↔ x = .ok a := by
  cases x with
  | error e => exact ⟨nofun, nofun⟩
  | ok b => exact Iff.rfl

section
variable {ε α : Type} {item : Reader α} {part : ε → Part} {means : ε → α → Prop}
  {close : List Symbol}

/-- A list is read as its items, each as what it means. -/
theorem itemLoop_eq_ok_iff {es : List ε} (hparts : ∀ e ∈ es, (part e).IsPart .list)
    (hitem : ∀ e ∈ es, Yields item (part e).value (means e)) (hclose : IsBlanks close)
    {blanks : List Symbol} (hblanks : IsBlanks blanks) (index : Nat) (before : List α) {fuel : Nat}
    (hf : es.length < fuel) (l : List α) (r s : List Symbol) :
    itemLoop item fuel index before
        (blanks ++ partsText (index == 0) (es.map part) (close ++ .char ']' :: r)) = .ok (l, s) ↔
      (∃ l', List.Forall₂ means es l' ∧ l = before.reverse ++ l') ∧ s = .char ']' :: r := by
  induction es generalizing blanks index before fuel with
  | nil =>
    obtain ⟨fuel, rfl⟩ := Nat.exists_eq_succ_of_ne_zero (Nat.ne_of_gt hf)
    have hall : IsBlanks (blanks ++ close) := List.forall_mem_append.2 ⟨hblanks, hclose⟩
    rw [List.map_nil, partsText, ← List.append_assoc, itemLoop, nextItem_closing _ hall, ok_bind]
    constructor
    · intro h
      cases h
      exact ⟨⟨[], .nil, (List.append_nil _).symm⟩, rfl⟩
    · rintro ⟨⟨_, ⟨⟩, rfl⟩, rfl⟩
      rw [List.append_nil]
      rfl
  | cons e es ih =>
    rw [List.forall_mem_cons] at hparts hitem
    obtain ⟨hlead, hvalue, hafter⟩ := hparts.1
    cases fuel with
    | zero => exact absurd hf (Nat.not_lt_zero _)
    | succ fuel =>
      rw [List.length_cons] at hf
      obtain ⟨c, t, hx, hc⟩ := hvalue.head
      have hends :
          Ends ((part e).after ++ partsText false (es.map part) (close ++ .char ']' :: r)) :=
        .blanks hafter (.parts (.blanks hclose (ends_closing .list r)))
      have hnext : ∀ rest, nextItem (index == 0)
          (blanks ++ ((if index == 0 then [] else [.char ',']) ++
            ((part e).lead ++ ((part e).value ++ rest)))) = .ok (true, (part e).value ++ rest) := by
        intro rest
        rw [hx]
        exact nextItem_part _ hblanks hlead.blanks hc _
      have hread := fun a s => hitem.1 (List.forall_mem_nil _) hends a s
      rw [List.map_cons, partsText, itemLoop, hnext, ok_bind]
      simp only [if_true, bind_eq_ok_iff, under_eq_ok_iff]
      constructor
      · rintro ⟨⟨a, t⟩, ha, hloop⟩
        obtain ⟨hm, rfl⟩ := (hread a t).1 ha
        obtain ⟨⟨l', hl', rfl⟩, rfl⟩ :=
          (ih hparts.2 hitem.2 hafter (index + 1) _ (by omega)).1 hloop
        exact ⟨⟨a :: l', .cons hm hl', by simp⟩, rfl⟩
      · rintro ⟨⟨_, hl, rfl⟩, rfl⟩
        cases hl with
        | @cons _ a _ l' hm hl' =>
          refine ⟨(a, _), (hread a _).2 ⟨hm, rfl⟩, ?_⟩
          exact (ih hparts.2 hitem.2 hafter (index + 1) _ (by omega)).2 ⟨⟨l', hl', by simp⟩, rfl⟩

theorem items_eq_ok_iff {es : List ε} {y : List Symbol} (h : IsList (es.map part) (.char '[' :: y))
    (hitem : ∀ e ∈ es, Yields item (part e).value (means e)) (l : List α) (r s : List Symbol) :
    items item (y ++ r) = .ok (l, s) ↔ List.Forall₂ means es l ∧ s = r := by
  obtain ⟨hparts, hclose⟩ := h
  have hf : ∀ t, es.length < (partsText true (es.map part) t).length + 1 := fun t => by
    simpa using length_lt_partsText (fun p hp => (hparts p hp).value) true t
  have hloop := fun t l s => itemLoop_eq_ok_iff
    (fun e he => hparts _ (List.mem_map_of_mem he)) hitem hclose (List.forall_mem_nil _) 0 [] (hf t)
    l r s
  rw [partsText_append, List.append_assoc, items, bind_eq_ok_iff]
  constructor
  · rintro ⟨⟨l', t⟩, hread, hend⟩
    obtain ⟨⟨_, hl, rfl⟩, rfl⟩ := (hloop _ l' t).1 hread
    cases hend
    exact ⟨hl, rfl⟩
  · rintro ⟨hl, rfl⟩
    exact ⟨_, (hloop _ l _).2 ⟨⟨l, hl, rfl⟩, rfl⟩, rfl⟩

end

section
variable {σ : Type} {member : String → σ → Reader σ} {step : Entry → σ → σ → Prop}

/-- A member of an object is read into a state by a step. -/
def Steps (member : String → σ → Reader σ) (step : Entry → σ → σ → Prop) (e : Entry) : Prop :=
  ∀ p {between gap r : List Symbol}, IsBlanks between → IsBlanks gap → Ends r → ∀ q s,
    member e.name p (between ++ .char ':' :: (gap ++ (e.part.value ++ r))) = .ok (q, s) ↔
      step e p q ∧ s = r

theorem memberValue_eq_ok_iff {α : Type} {value : Reader α} {x : List Symbol} {means : α → Prop}
    (h : Yields value x means) (name : String) {between gap r : List Symbol}
    (hbetween : IsBlanks between) (hgap : IsBlanks gap) (hr : Ends r) (a : α) (s : List Symbol) :
    memberValue name value (between ++ .char ':' :: (gap ++ (x ++ r))) = .ok (a, s) ↔
      means a ∧ s = r := by
  rw [memberValue, under_eq_ok_iff, colon_append hbetween, ok_bind, h hgap hr]

/-- An object is read into a state by the steps of its members. -/
theorem memberLoop_eq_ok_iff {es : List Entry} {close : List Symbol} (hes : ∀ e ∈ es, e.IsEntry)
    (hstep : ∀ e ∈ es, Steps member step e) (hclose : IsBlanks close) {blanks : List Symbol}
    (hblanks : IsBlanks blanks) (first : Bool) {fuel : Nat} (hf : es.length < fuel) (p q : σ)
    (r s : List Symbol) :
    memberLoop member fuel first p
        (blanks ++ partsText first (es.map (·.part)) (close ++ .char '\x7d' :: r)) = .ok (q, s) ↔
      Along step es p q ∧ s = .char '\x7d' :: r := by
  induction es generalizing blanks first fuel p with
  | nil =>
    obtain ⟨fuel, rfl⟩ := Nat.exists_eq_succ_of_ne_zero (Nat.ne_of_gt hf)
    have hall : IsBlanks (blanks ++ close) := List.forall_mem_append.2 ⟨hblanks, hclose⟩
    rw [List.map_nil, partsText, ← List.append_assoc, memberLoop, nextName_closing _ hall]
    constructor
    · intro h
      cases h
      exact ⟨.nil _, rfl⟩
    · rintro ⟨⟨⟩, rfl⟩
      rfl
  | cons e es ih =>
    rw [List.forall_mem_cons] at hes hstep
    cases fuel with
    | zero => exact absurd hf (Nat.not_lt_zero _)
    | succ fuel =>
      rw [List.length_cons] at hf
      obtain ⟨hlead, hvalue, hafter⟩ := hes.1
      obtain ⟨before, key, between, gap, hbefore, hkey, hbetween, hgap, htext⟩ := hlead.split
      have hends : Ends (e.part.after ++
          partsText false (es.map (·.part)) (close ++ .char '\x7d' :: r)) :=
        .blanks hafter (.parts (.blanks hclose (ends_closing .object r)))
      have hread := fun p' s => hstep.1 p hbetween hgap hends p' s
      rw [List.map_cons, partsText, htext, memberLoop, nextName_lead _ hblanks hbefore,
        nextName.name, stringBody_append hkey, String.ofList_toList]
      show (member e.name p _ >>= fun a => memberLoop member fuel false a.1 a.2) = _ ↔ _
      rw [bind_eq_ok_iff]
      constructor
      · rintro ⟨⟨p', t⟩, hmember, hloop⟩
        obtain ⟨hp, rfl⟩ := (hread p' t).1 hmember
        obtain ⟨hs, rfl⟩ := (ih hes.2 hstep.2 hafter false (by omega) p').1 hloop
        exact ⟨.cons hp hs, rfl⟩
      · rintro ⟨hs, rfl⟩
        cases hs with
        | @cons _ _ _ p' _ hp hs =>
          exact ⟨(p', _), (hread p' _).2 ⟨hp, rfl⟩,
            (ih hes.2 hstep.2 hafter false (by omega) p').2 ⟨hs, rfl⟩⟩

/-- What becomes of an object: the state that its members lead to, and what is made of it. -/
theorem members_eq_ok_iff {β : Type} {es : List Entry} {y : List Symbol}
    (h : IsObject es (.char '\x7b' :: y)) (hstep : ∀ e ∈ es, Steps member step e) (p : σ)
    (finish : σ → List Symbol → Except Fault β) (b : β) (r : List Symbol) :
    (members member p (y ++ r) >>= fun a => endMembers a.2 >>= finish a.1) = .ok b ↔
      ∃ q, Along step es p q ∧ finish q r = .ok b := by
  obtain ⟨hes, hclose⟩ := h
  have hf : ∀ t, es.length < (partsText true (es.map (·.part)) t).length + 1 := fun t => by
    have hvalue : ∀ p ∈ es.map (·.part), IsValue p.value := by
      intro p hp
      obtain ⟨e, he, rfl⟩ := List.mem_map.1 hp
      exact (hes e he).value
    simpa using length_lt_partsText hvalue true t
  have hloop := fun t q s => memberLoop_eq_ok_iff hes hstep hclose (List.forall_mem_nil _) true
    (hf t) p q r s
  rw [partsText_append, List.append_assoc, members, bind_eq_ok_iff]
  constructor
  · rintro ⟨⟨q, t⟩, hread, hend⟩
    obtain ⟨hq, rfl⟩ := (hloop _ q t).1 hread
    exact ⟨q, hq, hend⟩
  · rintro ⟨q, hq, hend⟩
    exact ⟨_, (hloop _ q _).2 ⟨hq, rfl⟩, hend⟩

end

/-! ## Values -/

theorem IsList.exists_cons {parts : List Part} {x : List Symbol} (h : IsList parts x) :
    ∃ y, x = .char '[' :: y := by
  obtain ⟨-, -⟩ := h
  exact ⟨_, rfl⟩

theorem IsObject.exists_cons {es : List Entry} {x : List Symbol} (h : IsObject es x) :
    ∃ y, x = .char '\x7b' :: y := by
  obtain ⟨-, -⟩ := h
  exact ⟨_, rfl⟩

theorem pairs_eq_ok {α : Type} {value : Reader α} {ms : List (Entry × α)} {y : List Symbol}
    (h : IsObject (ms.map (·.1)) (.char '\x7b' :: y))
    (hvalue : ∀ m ∈ ms, Yields value m.1.part.value (· = m.2)) (r : List Symbol) :
    pairs value (y ++ r) = .ok (Members.ofList (ms.map fun m => (m.1.name, m.2)), r) := by
  let step (e : Entry) (p q : List (String × α)) : Prop :=
    ∃ m ∈ ms, m.1 = e ∧ q = Members.put e.name m.2 p
  have hstep : ∀ e ∈ ms.map (·.1), Steps (fun name ms s => do
      let (v, s) ← memberValue name value s
      .ok (Members.put name v ms, s)) step e := by
    intro e he p between gap r hbetween hgap hr q s
    obtain ⟨m, hm, rfl⟩ := List.mem_map.1 he
    have hread : ∀ m' ∈ ms, m'.1 = m.1 → ∀ v t, memberValue m.1.name value
        (between ++ .char ':' :: (gap ++ (m.1.part.value ++ r))) = .ok (v, t) ↔
          v = m'.2 ∧ t = r := fun m' hm' he =>
      memberValue_eq_ok_iff (he ▸ hvalue m' hm') _ hbetween hgap hr
    rw [bind_eq_ok_iff]
    constructor
    · rintro ⟨⟨v, t⟩, hv, hq⟩
      obtain ⟨rfl, rfl⟩ := (hread m hm rfl v t).1 hv
      cases hq
      exact ⟨⟨m, hm, rfl, rfl⟩, rfl⟩
    · rintro ⟨⟨m', hm', he, rfl⟩, rfl⟩
      exact ⟨(m'.2, s), (hread m' hm' he _ _).2 ⟨rfl, rfl⟩, rfl⟩
  have halong : ∀ (l : List (Entry × α)) (p : List (String × α)), (∀ m ∈ l, m ∈ ms) →
      Along step (l.map (·.1)) p
        ((l.map fun m => (m.1.name, m.2)).foldl (fun acc m => Members.put m.1 m.2 acc) p) := by
    intro l
    induction l with
    | nil => exact fun p _ => .nil p
    | cons m l ih =>
      intro p hl
      rw [List.forall_mem_cons] at hl
      exact .cons ⟨m, hl.1, rfl, rfl⟩ (ih _ hl.2)
  exact (members_eq_ok_iff h hstep [] (fun ms s => .ok (ms, s)) _ r).2
    ⟨_, halong ms [] fun _ hm => hm, rfl⟩

/-- A text is read as the value that it denotes. -/
theorem Denotes.read {depth : Nat} {x : List Symbol} {j : Json} (h : Denotes depth x j)
    {gap r : List Symbol} (hgap : IsBlanks gap) (hr : Ends r) :
    value depth (gap ++ (x ++ r)) = .ok (j, r) := by
  induction h generalizing gap r with
  | null =>
    rw [value, List.cons_append, peek_append hgap (by decide) rfl]
    rfl
  | true =>
    rw [value, List.cons_append, peek_append hgap (by decide) rfl]
    rfl
  | false =>
    rw [value, List.cons_append, peek_append hgap (by decide) rfl]
    rfl
  | positive h =>
    rw [value, h.isNumber.peek hgap, ok_bind]
    dsimp only
    rw [(numberBody_eq_whole_iff h.isNumber hr).2 ⟨h, rfl⟩]
    rfl
  | negative h =>
    rw [value, List.cons_append, peek_append hgap (by decide) rfl, ok_bind]
    dsimp only
    rw [(numberBody_eq_whole_iff h.isNumber hr).2 ⟨h, rfl⟩]
    rfl
  | positiveFloat h =>
    rw [value, h.isNumber.peek hgap, ok_bind]
    dsimp only
    rw [h.read hr]
    rfl
  | negativeFloat h =>
    rw [value, List.cons_append, peek_append hgap (by decide) rfl, ok_bind]
    dsimp only
    rw [h.read hr]
    rfl
  | string h =>
    rw [value, List.cons_append, peek_append hgap (by decide) rfl, ok_bind]
    dsimp only
    rw [(stringBody_eq_ok_iff h.isString).2 ⟨h, rfl⟩]
    rfl
  | @list depth x ms h hvalue ih =>
    obtain ⟨y, rfl⟩ := h.exists_cons
    have hitem : ∀ m ∈ ms, Yields (value depth) m.1.value (· = m.2) := by
      intro m hm gap r hgap hr a s
      rw [ih m hm hgap hr]
      simp [eq_comm]
    have hitems : List.Forall₂ (fun (m : Part × Json) a => a = m.2) ms (ms.map (·.2)) := by
      rw [List.forall₂_map_right_iff, List.forall₂_same]
      exact fun _ _ => rfl
    rw [value, List.cons_append, peek_append hgap (by decide) rfl, ok_bind]
    dsimp only
    rw [(items_eq_ok_iff h hitem _ r r).2 ⟨hitems, rfl⟩]
    rfl
  | @object depth x ms h hvalue ih =>
    obtain ⟨y, rfl⟩ := h.exists_cons
    have hmember : ∀ m ∈ ms, Yields (value depth) m.1.part.value (· = m.2) := by
      intro m hm gap r hgap hr a s
      rw [ih m hm hgap hr]
      simp [eq_comm]
    rw [value, List.cons_append, peek_append hgap (by decide) rfl, ok_bind]
    dsimp only
    rw [pairs_eq_ok h hmember]
    rfl

/-- A text that denotes a value is read as that value and no other. -/
theorem Denotes.yields {depth : Nat} {x : List Symbol} {j : Json} (h : Denotes depth x j) :
    Yields (value depth) x (Denotes depth x) := by
  intro gap r hgap hr a s
  constructor
  · intro hread
    rw [h.read hgap hr] at hread
    cases hread
    exact ⟨h, rfl⟩
  · rintro ⟨ha, rfl⟩
    exact ha.read hgap hr

theorem Denotes.eq {depth : Nat} {x : List Symbol} {j j' : Json} (h : Denotes depth x j)
    (h' : Denotes depth x j') : j = j' := h.yields.eq h h'

/-- A text of a list denotes the list of what its items denote. -/
theorem denotes_array_iff {depth : Nat} {x : List Symbol} {l : List Json} :
    Denotes (depth + 1) x (.array l) ↔
      ∃ parts, IsList parts x ∧ List.Forall₂ (fun p j => Denotes depth p.value j) parts l := by
  constructor
  · intro h
    cases h with
    | list h hvalue =>
      refine ⟨_, h, ?_⟩
      rw [List.forall₂_map_left_iff, List.forall₂_map_right_iff, List.forall₂_same]
      exact hvalue
  · rintro ⟨parts, h, hl⟩
    have hzip : ∃ ms : List (Part × Json), ms.map (·.1) = parts ∧ ms.map (·.2) = l ∧
        ∀ m ∈ ms, Denotes depth m.1.value m.2 := by
      clear h
      induction hl with
      | nil => exact ⟨[], rfl, rfl, List.forall_mem_nil _⟩
      | @cons p j parts l hj _ ih =>
        obtain ⟨ms, rfl, rfl, hms⟩ := ih
        exact ⟨(p, j) :: ms, rfl, rfl, List.forall_mem_cons.2 ⟨hj, hms⟩⟩
    obtain ⟨ms, rfl, rfl, hms⟩ := hzip
    exact .list h hms

theorem Decoder.strings_yields {x : List Symbol} {depth : Nat} (h : IsValue x) :
    Yields (string.list (depth + 1)) x fun l => Denotes 1 x (.ofStrings l) := by
  have hitems : ∀ {parts y}, IsList parts (.char '[' :: y) → ∀ l r s,
      items (string depth) (y ++ r) = .ok (l, s) ↔
        List.Forall₂ (fun (p : Part) t => Denotes 0 p.value (.string t)) parts l ∧ s = r := by
    intro parts y hlist l r s
    have hparts : ∀ p ∈ parts, p.IsPart .list := by
      obtain ⟨hparts, -⟩ := hlist
      exact hparts
    exact items_eq_ok_iff (show IsList (parts.map id) _ by rwa [List.map_id])
      (fun p hp => string_yields (hparts p hp).value) l r s
  intro gap r hgap hr a s
  show _ ↔ Denotes 1 x (.array (a.map .string)) ∧ s = r
  rw [denotes_array_iff]
  simp only [List.forall₂_map_right_iff]
  constructor
  · intro hread
    obtain ⟨o, y, hy, rfl, hpeek⟩ := h.peek
    unfold list at hread
    rw [hpeek hgap, ok_bind] at hread
    cases hy with
    | @parts b parts close hparts hclose =>
      cases b with
      | object => exact absurd hread refuse_ne_ok
      | list =>
        have hlist : IsList parts (.char '[' :: _) := .mk hparts hclose
        obtain ⟨hl, rfl⟩ := (hitems hlist a r s).1 hread
        exact ⟨⟨parts, hlist, hl⟩, rfl⟩
    | _ => exact absurd hread refuse_ne_ok
  · rintro ⟨⟨parts, hlist, hl⟩, rfl⟩
    obtain ⟨y, rfl⟩ := hlist.exists_cons
    unfold list
    rw [List.cons_append, peek_append hgap (by decide) rfl, ok_bind]
    exact (hitems hlist a s s).2 ⟨hl, rfl⟩

end SourceRegistry.Json
