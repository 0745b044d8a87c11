import Mathlib.Data.List.DropRight
import SourceRegistry.Api.Extract
import SourceRegistry.Proofs.Json.Records
import SourceRegistry.Proofs.Service.Blind

/-!
# Bodies that differ in their connection settings

The settings of a connection are the member `data` of a request to create a data source. Two
bodies that are the same but for what these objects hold are decoded to the same request but for
the settings, or refused for the same cause. The place that the refusal names may be another one.
-/

namespace SourceRegistry

open Text (Symbol)

namespace Json

/-- A text that closes the strings and brackets that it opens. -/
def IsBalanced (m : List Symbol) : Prop := m.foldl Spot.pass (0, .plain) = (0, .plain)

instance (m : List Symbol) : Decidable (IsBalanced m) := inferInstanceAs (Decidable (_ = _))

/-- Two texts of the members of an object that are the same, except that where both have a member
`data` which is an object, it may be another object. -/
inductive SameButData : List Symbol → List Symbol → Prop
  | same (s : List Symbol) : SameButData s s
  | part {m s s' : List Symbol} (hm : IsBalanced m) (h : SameButData s s') :
    SameButData (m ++ .char ',' :: s) (m ++ .char ',' :: s')
  | data {before key between x x' t t' : List Symbol} {ms ms' : List (String × Json)}
    (hbefore : ∀ c ∈ before, isBlank c)
    (hkey : ∀ rest, stringBody (key ++ rest) = .ok ("data", rest))
    (hbetween : ∀ c ∈ between, isBlank c)
    (hx : value (depthLimit - 1) x = .ok (.object ms, t))
    (hx' : value (depthLimit - 1) x' = .ok (.object ms', t')) (h : SameButData t t') :
    SameButData (before ++ .char '\x22' :: (key ++ (between ++ .char ':' :: x)))
      (before ++ .char '\x22' :: (key ++ (between ++ .char ':' :: x')))

/-- The commas behind which two texts may be different. -/
def Parting (u u' : List Symbol) : Prop :=
  ∃ r r', u = .char ',' :: r ∧ u' = .char ',' :: r' ∧ SameButData r r' ∧
    3 ≤ r.length ∧ 3 ≤ r'.length

theorem partsAtCommas : PartsAtCommas Parting := by
  rintro s s' ⟨r, r', hr, hr', -, hl, hl'⟩
  exact ⟨r, r', hr, hr', hl, hl'⟩

theorem Abreast.append {E : List Symbol → List Symbol → Prop} {p : Spot} {m s s' : List Symbol}
    (h : Abreast E (m.foldl Spot.pass p) s s') : Abreast E p (m ++ s) (m ++ s') := by
  induction m generalizing p with
  | nil => exact h
  | cons c m ih => exact .cons (ih h)

theorem Abreast.balanced {p : Spot} {s s' : List Symbol} (h : Abreast Parting p s s') :
    s = s' ∨ ∃ m r r', m.foldl Spot.pass p = (0, .plain) ∧ SameButData r r' ∧
      s = m ++ .char ',' :: r ∧ s' = m ++ .char ',' :: r' := by
  induction h with
  | part h =>
    obtain ⟨r, r', rfl, rfl, hs, -⟩ := h
    exact .inr ⟨[], r, r', rfl, hs, rfl, rfl⟩
  | nil => exact .inl rfl
  | @cons p c s s' h ih =>
    rcases ih with rfl | ⟨m, r, r', hm, hs, rfl, rfl⟩
    · exact .inl rfl
    · exact .inr ⟨c :: m, r, r', hm, hs, rfl, rfl⟩

theorem Abreast.sameButData {s s' : List Symbol} (h : Abreast Parting (0, .plain) s s') :
    SameButData s s' := by
  rcases h.balanced with rfl | ⟨m, r, r', hm, hs, rfl, rfl⟩
  · exact .same s
  · exact .part hm hs

section
variable {depth : Nat} {s x t : List Symbol} {ms : List (String × Json)} {j : Json}

theorem value_skipBlanks (depth : Nat) (s : List Symbol) :
    value depth (skipBlanks s) = value depth s := by
  have hp : peek (skipBlanks s) = peek s := by
    unfold peek
    rw [skipBlanks, skipBlanks, List.dropWhile_idempotent]
  rw [value, value, hp]

/-- A text of an object does not start like `null`. -/
theorem head?_of_object (h : value depth x = .ok (.object ms, t)) :
    (skipBlanks x).head? ≠ some (.char 'n') := by
  intro hn
  obtain ⟨y, hy⟩ := List.head?_eq_some_iff.1 hn
  have hp : peek x = .ok (.null, y) := by
    unfold peek
    rw [hy]
    rfl
  rw [value, hp] at h
  have hword : (do .ok (Json.null, ← word ['u', 'l', 'l'] y)) = Except.ok (Json.object ms, t) := h
  cases hw : word ['u', 'l', 'l'] y with
  | ok u =>
    rw [hw] at hword
    cases hword
  | error f =>
    rw [hw] at hword
    cases hword

theorem nullable_any_of_object (h : value depth x = .ok (.object ms, t)) :
    Decoder.nullable .any depth x = .ok (some (.object ms), t) := by
  rw [Decoder.nullable_of_head? depth (head?_of_object h), Decoder.any, value_skipBlanks, h]
  rfl

/-- A value takes at least one symbol. -/
theorem length_of_value (h : value depth x = .ok (j, t)) : t.length + 1 ≤ x.length := by
  have hl := value_lockstep partsAtCommas depth (.refl Parting (0, .plain) x)
  rw [h] at hl
  cases hl with
  | ok hl => exact hl.2.left

end

theorem SameButData.eq_or_length {s s' : List Symbol} (h : SameButData s s') :
    s = s' ∨ 3 ≤ s.length ∧ 3 ≤ s'.length := by
  induction h with
  | same s => exact .inl rfl
  | part hm h ih =>
    rcases ih with rfl | ⟨hl, hl'⟩
    · exact .inl rfl
    · right
      simp only [List.length_append, List.length_cons]
      omega
  | data hbefore hkey hbetween hx hx' h ih =>
    have hl := length_of_value hx
    have hl' := length_of_value hx'
    right
    simp only [List.length_append, List.length_cons]
    omega

/-- What comes next in two texts that are the same but for data: what comes next in texts abreast,
or a member `data` that is an object in both. -/
inductive Turn (s s' : List Symbol) :
    Option String × List Symbol → Option String × List Symbol → Prop
  | along {a b : Option String × List Symbol} (h : Named Parting 0 s s' a b) : Turn s s' a b
  | data {between x x' t t' : List Symbol} {ms ms' : List (String × Json)}
    (hbetween : ∀ c ∈ between, isBlank c)
    (hx : value (depthLimit - 1) x = .ok (.object ms, t))
    (hx' : value (depthLimit - 1) x' = .ok (.object ms', t')) (h : SameButData t t')
    (hl : x.length ≤ s.length) (hl' : x'.length ≤ s'.length) :
    Turn s s' (some "data", between ++ .char ':' :: x) (some "data", between ++ .char ':' :: x')

/-- Texts that are the same but for data are abreast, or a member `data` comes next. -/
theorem SameButData.next {s s' : List Symbol} (h : SameButData s s') :
    Abreast Parting (0, .plain) s s' ∨
      ∃ before rest rest' a b, (∀ c ∈ before, isBlank c) ∧ s = before ++ .char '\x22' :: rest ∧
        s' = before ++ .char '\x22' :: rest' ∧ nextName.name rest = .ok a ∧
        nextName.name rest' = .ok b ∧ Turn s s' a b := by
  cases h with
  | same s => exact .inl (.refl _ _ s)
  | @part m s s' hm h =>
    rcases h.eq_or_length with rfl | ⟨hl, hl'⟩
    · exact .inl (.refl _ _ _)
    · refine .inl (.append ?_)
      rw [hm]
      exact .part ⟨s, s', rfl, rfl, h, hl, hl'⟩
  | @data before key between x x' t t' ms ms' hbefore hkey hbetween hx hx' h =>
    have hname : ∀ rest, nextName.name (key ++ rest) = .ok (some "data", rest) := by
      intro rest
      unfold nextName.name
      rw [hkey]
      rfl
    refine .inr ⟨before, _, _, _, _, hbefore, rfl, rfl, hname _, hname _,
      .data hbetween hx hx' h ?_ ?_⟩
    · simp only [List.length_append, List.length_cons]
      omega
    · simp only [List.length_append, List.length_cons]
      omega

theorem Turn.mono {s s' r r' : List Symbol} {a b : Option String × List Symbol}
    (h : Turn r r' a b) (hl : r.length ≤ s.length) (hl' : r'.length ≤ s'.length) :
    Turn s s' a b := by
  cases h with
  | along h =>
    cases h with
    | some name h => exact .along (.some name ⟨h.abreast, h.left.trans hl, h.right.trans hl'⟩)
    | none h => exact .along (.none ⟨h.abreast, h.left.trans hl, h.right.trans hl'⟩)
  | data hbetween hx hx' h hm hm' =>
    exact .data hbetween hx hx' h (hm.trans hl) (hm'.trans hl')

theorem not_isBlank_quote : ¬ isBlank (.char '\x22') := by decide

theorem anotherName_sameButData {r r' : List Symbol} (h : SameButData r r') :
    Lockstep (Turn r r') (anotherName r) (anotherName r') := by
  rcases h.next with ha | ⟨before, rest, rest', a, b, hb, rfl, rfl, hname, hname', ht⟩
  · exact (anotherName_lockstep partsAtCommas ha).mono fun _ _ => .along
  · rw [anotherName_eq, anotherName_eq, skipBlanks_append hb not_isBlank_quote,
      skipBlanks_append hb not_isBlank_quote]
    dsimp only
    rw [if_pos rfl, if_pos rfl, hname, hname']
    exact .ok ht

theorem length_skipBlanks_le (s : List Symbol) : (skipBlanks s).length ≤ s.length :=
  (List.dropWhile_suffix isBlank).length_le

theorem nextName_sameButData {s s' : List Symbol} (first : Bool) (h : SameButData s s') :
    Lockstep (Turn s s') (nextName first s) (nextName first s') := by
  rcases h.next with ha | ⟨before, rest, rest', a, b, hb, rfl, rfl, hname, hname', ht⟩
  · by_cases hp : first = false ∧ Parting (skipBlanks s) (skipBlanks s')
    · -- the texts come to a comma behind which they may be different
      obtain ⟨rfl, r, r', hr, hr', hs, -⟩ := hp
      have hl := hr ▸ length_skipBlanks_le s
      have hl' := hr' ▸ length_skipBlanks_le s'
      have hcomma : ∀ s r : List Symbol, skipBlanks s = .char ',' :: r →
          nextName false s = anotherName r := by
        intro s r hr
        rw [nextName_eq, hr]
        rfl
      rw [hcomma s r hr, hcomma s' r' hr']
      exact (anotherName_sameButData hs).mono fun _ _ ht =>
        ht.mono (Nat.le_of_succ_le hl) (Nat.le_of_succ_le hl')
    · exact (nextName_lockstep partsAtCommas ha fun hf _ he => hp ⟨hf, he⟩).mono
        fun _ _ => .along
  · rw [nextName_eq, nextName_eq, skipBlanks_append hb not_isBlank_quote,
      skipBlanks_append hb not_isBlank_quote]
    cases first with
    | false => exact .failPast _ _ _
    | true =>
      show Lockstep _ (nextName.name rest) (nextName.name rest')
      rw [hname, hname']
      exact .ok ht

end Json

/-! ## Requests -/

namespace CreateRequest

def Parts.hide (p : Parts) : Parts := { p with data := p.data.map (·.map Json.hide) }

def hide (r : CreateRequest) : CreateRequest := { r with data := r.data.map Json.hide }

theorem finish_hide (p : Parts) : form.finish p.hide = (form.finish p).map hide := by
  obtain ⟨name, pluginSrc, health, data⟩ := p
  cases name with
  | none => rfl
  | some name =>
    cases pluginSrc with
    | none => rfl
    | some pluginSrc => cases data <;> rfl

def Parts.Alike (p p' : Parts) : Prop := p.hide = p'.hide

theorem Parts.Alike.isSome_data {p p' : Parts} (h : p.Alike p') :
    p.data.isSome = p'.data.isSome := by
  have hh : p.hide = p'.hide := h
  have hd : p.hide.data.isSome = p'.hide.data.isSome :=
    congrArg (fun q : Parts => q.data.isSome) hh
  simpa [hide] using hd

theorem Parts.Alike.withData {p p' : Parts} (h : p.Alike p') (x x' : Option Json)
    (hx : x.map Json.hide = x'.map Json.hide) :
    Parts.Alike { p with data := some x } { p' with data := some x' } := by
  have hh : p.hide = p'.hide := h
  show ({ p.hide with data := some (x.map Json.hide) } : Parts) =
    { p'.hide with data := some (x'.map Json.hide) }
  rw [hh, hx]

theorem isGiven_eq {p p' : Parts} (h : p.Alike p') :
    ∀ m ∈ form.members, m.isGiven p = m.isGiven p' := by
  have hh : p.hide = p'.hide := h
  have hname : p.hide.name = p'.hide.name := congrArg Parts.name hh
  have hsrc : p.hide.pluginSrc = p'.hide.pluginSrc := congrArg Parts.pluginSrc hh
  have hhealth : p.hide.health = p'.hide.health := congrArg Parts.health hh
  intro m hm
  simp only [form, List.mem_cons, List.not_mem_nil, or_false] at hm
  rcases hm with rfl | rfl | rfl | rfl
  · exact congrArg Option.isSome hname
  · exact congrArg Option.isSome hsrc
  · exact congrArg Option.isSome hhealth
  · exact h.isSome_data

open Json in
/-- To set a member that hiding leaves alone, or hides itself, keeps states alike. -/
theorem preserves {set : Parts → Parts} (set' : Parts → Parts)
    (h : ∀ p, (set p).hide = set' p.hide) :
    Preserves Parts.Alike set set := by
  intro p p' hp
  have hh : p.hide = p'.hide := hp
  show (set p).hide = (set p').hide
  rw [h, h, hh]

open Json in
theorem read_lockstep {d depth : Nat} :
    ∀ m ∈ form.members, ∀ {s s'}, Abreast Parting (d, .plain) s s' →
      Lockstep (Reads (Preserves Parts.Alike) Parting (d, .plain) 1 s s') (m.read depth s)
        (m.read depth s') := by
  have hE := partsAtCommas
  intro m hm s s' h
  simp only [form, List.mem_cons, List.not_mem_nil, or_false] at hm
  rcases hm with rfl | rfl | rfl | rfl <;> dsimp only
  · refine Decoder.setting_lockstep (Decoder.keepsStep_string hE depth) (fun x => ?_) h
    exact preserves (fun p => { p with name := x }) fun _ => rfl
  · refine Decoder.setting_lockstep (Decoder.keepsStep_string hE depth) (fun x => ?_) h
    exact preserves (fun p => { p with pluginSrc := x }) fun _ => rfl
  · refine Decoder.setting_lockstep (Decoder.keepsStep_bool hE depth) (fun x => ?_) h
    exact preserves (fun p => { p with health := x }) fun _ => rfl
  · refine Decoder.setting_lockstep
      (Decoder.keepsStep_nullable hE depth (value_lockstep hE depth)) (fun x => ?_) h
    exact preserves (fun p => { p with data := some (x.map Json.hide) }) fun _ => rfl

open Json in
theorem member_data (depth : Nat) (p : Parts) {between x t : List Symbol}
    {ms : List (String × Json)} (hb : ∀ c ∈ between, isBlank c)
    (hx : value depth x = .ok (.object ms, t)) :
    form.member depth "data" p (between ++ .char ':' :: x) =
      if p.data.isSome then mismatch (.duplicate "data") (skipBlanks (between ++ .char ':' :: x))
      else .ok ({ p with data := some (some (.object ms)) }, t) := by
  have hcolon : colon (between ++ .char ':' :: x) = .ok x := by
    rw [colon_eq, skipBlanks_append hb (by decide)]
    rfl
  have hread : (Decoder.nullable .any).setting
      (fun x (p : Parts) => { p with data := some x }) depth x =
        .ok (fun p => { p with data := some (some (.object ms)) }, t) := by
    unfold Decoder.setting
    rw [nullable_any_of_object hx]
    rfl
  have hvalue : memberValue "data" ((Decoder.nullable .any).setting
      (fun x (p : Parts) => { p with data := some x }) depth) (between ++ .char ':' :: x) =
        .ok (fun p => { p with data := some (some (.object ms)) }, t) := by
    unfold memberValue
    rw [hcolon]
    exact congrArg (under _) hread
  have hmember : form.member depth "data" p (between ++ .char ':' :: x) =
      if p.data.isSome then mismatch (.duplicate "data") (skipBlanks (between ++ .char ':' :: x))
      else (do
        let (f, s) ← memberValue "data" ((Decoder.nullable .any).setting
          (fun x (p : Parts) => { p with data := some x }) depth) (between ++ .char ':' :: x)
        .ok (f p, s)) := rfl
  rw [hmember, hvalue]
  rfl

open Json in
/-- The members of a request are read in step as long as the texts are the same but for data. -/
theorem memberLoop_lockstep {fuel fuel' : Nat} {first : Bool} {p p' : Parts} (hp : p.Alike p')
    {s s' : List Symbol} (h : SameButData s s') (hf : s.length < fuel) (hf' : s'.length < fuel') :
    Lockstep (fun a b => a.1.Alike b.1 ∧ ∃ u u', a.2 = .char '}' :: u ∧ b.2 = .char '}' :: u')
      (memberLoop (form.member (depthLimit - 1)) fuel first p s)
      (memberLoop (form.member (depthLimit - 1)) fuel' first p' s') := by
  induction fuel generalizing fuel' first p p' s s' with
  | zero => exact absurd hf (Nat.not_lt_zero _)
  | succ fuel ih =>
    cases fuel' with
    | zero => exact absurd hf' (Nat.not_lt_zero _)
    | succ fuel' =>
      refine ((nextName_sameButData first h).under _).bind ?_
      rintro _ _ (⟨⟨name, ht⟩ | ⟨ht⟩⟩ | @⟨_, x, x', t, t', ms, ms', hb, hx, hx', ht, hl, hl'⟩)
      · refine (member_lockstep partsAtCommas (fun m hm _ _ hp => isGiven_eq hp m hm) read_lockstep
          name hp ht.abreast).bind ?_
        rintro ⟨q, t⟩ ⟨q', t'⟩ ⟨hq, hu⟩
        have hread := ht.trans hu
        obtain ⟨hl, hl'⟩ := hread.fuel (Nat.le_refl 1) hf hf'
        exact ih hq hread.abreast.sameButData hl hl'
      · exact .ok ⟨hp, _, _, rfl, rfl⟩
      · dsimp only
        rw [member_data _ p hb hx, member_data _ p' hb hx', hp.isSome_data]
        split
        · exact .failAt _ _ _
        · have hm := length_of_value hx
          have hm' := length_of_value hx'
          have hlt : t.length < fuel := by omega
          have hlt' : t'.length < fuel' := by omega
          exact ih (hp.withData (some (.object ms)) (some (.object ms')) rfl) ht hlt hlt'

open Json in
theorem complete_lockstep {p p' : Parts} (hp : p.Alike p') (s s' : List Symbol) :
    Lockstep (fun a b => a.1.hide = b.1.hide) (form.complete p s) (form.complete p' s') := by
  have hh : p.hide = p'.hide := hp
  have hf : (form.finish p).map hide = (form.finish p').map hide := by
    rw [← finish_hide, ← finish_hide, hh]
  unfold RecordForm.complete
  cases hc : form.finish p with
  | ok c =>
    rw [hc] at hf
    cases hc' : form.finish p' with
    | ok c' =>
      rw [hc'] at hf
      exact .ok (Except.ok.inj hf)
    | error m =>
      rw [hc'] at hf
      cases hf
  | error m =>
    rw [hc] at hf
    cases hc' : form.finish p' with
    | ok c' =>
      rw [hc'] at hf
      cases hf
    | error m' =>
      rw [hc'] at hf
      cases hf
      exact .failAt _ _ _

open Json in
/-- Objects that are the same but for data are decoded to requests that are, or are refused for the
same cause. -/
theorem decoder_lockstep {blanks s s' : List Symbol} (hb : ∀ c ∈ blanks, isBlank c)
    (h : SameButData s s') :
    Lockstep (fun a b => a.1.hide = b.1.hide)
      (form.decoder depthLimit (blanks ++ .char '\x7b' :: s))
      (form.decoder depthLimit (blanks ++ .char '\x7b' :: s')) := by
  have hdecoder : ∀ s, form.decoder depthLimit (blanks ++ .char '\x7b' :: s) = (do
      let (p, t) ← Json.members (form.member (depthLimit - 1)) form.start s
      form.complete p (← endMembers t)) := by
    intro s
    have hpeek : peek (blanks ++ .char '\x7b' :: s) = .ok (.object, s) := by
      unfold peek
      rw [skipBlanks_append hb (by decide)]
      rfl
    unfold RecordForm.decoder
    rw [hpeek]
    rfl
  rw [hdecoder, hdecoder]
  refine (memberLoop_lockstep rfl h (Nat.lt_succ_self _) (Nat.lt_succ_self _)).bind ?_
  rintro ⟨p, _⟩ ⟨p', _⟩ ⟨hp, u, u', rfl, rfl⟩
  exact complete_lockstep hp u u'

end CreateRequest

/-! ## Bodies -/

/-- Two bodies that are the same, or objects no longer than the limit that are the same but for
data. -/
inductive SameBodies (limit : Nat) : List UInt8 → List UInt8 → Prop
  | same (b : List UInt8) : SameBodies limit b b
  | objects {b b' : List UInt8} {blanks s s' : List Symbol}
    (hb : Symbol.ofBytes b = blanks ++ .char '\x7b' :: s)
    (hb' : Symbol.ofBytes b' = blanks ++ .char '\x7b' :: s')
    (hblanks : ∀ c ∈ blanks, Json.isBlank c) (h : Json.SameButData s s')
    (hl : b.length ≤ limit) (hl' : b'.length ≤ limit) : SameBodies limit b b'

/-- Two refusals that are the same but for the place at which a body could not be read. -/
inductive ApiError.SameButPlace : ApiError → ApiError → Prop
  | same (e : ApiError) : SameButPlace e e
  | place (fault : String) (line column line' column' : Nat) :
    SameButPlace
      (.badRequest ("Invalid JSON: " ++ fault ++ " at line " ++ toString line ++ " column "
        ++ toString column))
      (.badRequest ("Invalid JSON: " ++ fault ++ " at line " ++ toString line' ++ " column "
        ++ toString column'))

namespace Extract

/-- Two bodies that are both read, as the same request but for data, or both refused, but for the
place in the same way. -/
inductive ReadAlike : Except ApiError CreateRequest → Except ApiError CreateRequest → Prop
  | ok {c c' : CreateRequest} (h : c.hide = c'.hide) : ReadAlike (.ok c) (.ok c')
  | error {e e' : ApiError} (h : e.SameButPlace e') : ReadAlike (.error e) (.error e')

theorem ReadAlike.refl : ∀ x, ReadAlike x x
  | .ok _ => .ok rfl
  | .error e => .error (.same e)

variable {limit : Nat} {r r' : Http.Request}

/-- The same cause behind the same path is told in the same words up to the place. -/
theorem bodyFault_sameButPlace (s s' : List Symbol) (cause : Json.Cause) (left left' : Nat)
    (path : List Json.Step) :
    ApiError.SameButPlace (.badRequest ("Invalid JSON: " ++ bodyFault s ⟨cause, left, path⟩))
      (.badRequest ("Invalid JSON: " ++ bodyFault s' ⟨cause, left', path⟩)) := by
  have hplace := ApiError.SameButPlace.place
    ((if cause.isMismatch then "Failed to deserialize the JSON body into the target type: "
      else "Failed to parse the request body as JSON: ") ++ Json.Fault.message ⟨cause, left, path⟩)
    (Json.place s left).1 (Json.place s left).2 (Json.place s' left').1 (Json.place s' left').2
  -- the message of a fault does not tell the place
  have hmessage : Json.Fault.message ⟨cause, left', path⟩ =
      Json.Fault.message ⟨cause, left, path⟩ := rfl
  simpa only [bodyFault, Json.Fault.messageIn, String.append_assoc, hmessage] using hplace

theorem json_alike (hj : announcesJson r = announcesJson r') (h : SameBodies limit r.body r'.body) :
    ReadAlike (json CreateRequest.form.decoder limit r)
      (json CreateRequest.form.decoder limit r') := by
  unfold json
  rw [hj]
  generalize r.body = b at h
  generalize r'.body = b' at h
  cases h with
  | same => exact .refl _
  | @objects _ blanks s s' hb hb' hblanks h hl hl' =>
    split
    · exact .refl _
    · rw [if_neg (Nat.not_lt.2 hl), if_neg (Nat.not_lt.2 hl'), hb, hb']
      have hd := CreateRequest.decoder_lockstep hblanks h
      dsimp only
      generalize CreateRequest.form.decoder _ (blanks ++ .char '\x7b' :: s) = x at hd
      generalize CreateRequest.form.decoder _ (blanks ++ .char '\x7b' :: s') = x' at hd
      cases hd with
      | ok h => exact .ok h
      | error cause left left' path => exact .error (bodyFault_sameButPlace _ _ _ _ _ _)

theorem createRequest_alike (hj : announcesJson r = announcesJson r')
    (h : SameBodies limit r.body r'.body) (order : LengthOrder) :
    ReadAlike (createRequest order limit r) (createRequest order limit r') := by
  have hx := json_alike hj h
  unfold createRequest
  generalize json CreateRequest.form.decoder limit r = x at hx
  generalize json CreateRequest.form.decoder limit r' = x' at hx
  cases hx with
  | error h => exact .error h
  | @ok c c' h =>
    have hlengths : c.lengthFaults = c'.lengthFaults := by
      have hhide : ∀ c : CreateRequest, c.hide.lengthFaults = c.lengthFaults := fun _ => rfl
      rw [← hhide c, ← hhide c', h]
    dsimp only [bind, Except.bind]
    rw [← hlengths]
    cases c.lengthFaults with
    | nil => exact .ok h
    | cons f faults => exact .refl _

end Extract

end SourceRegistry
