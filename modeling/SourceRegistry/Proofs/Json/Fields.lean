import Mathlib.Data.List.TakeWhile
import SourceRegistry.Proofs.Json.Yields

/-!
# Records, field by field

The members of a record are slots of the state that it is read into. So an object is read as a
record iff its members, one after another, fill the slots, whatever order they stand in and
whatever other members stand among them: `decoder_eq_ok_iff`.
-/

namespace SourceRegistry.Json

open Text (Symbol)

variable {σ : Type}

namespace Entry

def IsText (e : Entry) (t : String) : Prop := Denotes 0 e.part.value (.string t)

def IsTruth (e : Entry) (b : Bool) : Prop := Denotes 0 e.part.value (.bool b)

def IsCount (bits : Nat) (e : Entry) (n : Nat) : Prop :=
  Denotes 0 e.part.value (.ofNat n) ∧ Word.fits bits n = true

def IsTexts (e : Entry) (l : List String) : Prop := Denotes 1 e.part.value (.ofStrings l)

def nullText : List Symbol := [.char 'n', .char 'u', .char 'l', .char 'l']

/-- What `null` denotes is none of these kinds. -/
theorem not_denotes_null {depth : Nat} {x : List Symbol} {j : Json} (hx : x = nullText)
    (hj : j ≠ .null) : ¬ Denotes depth x j := fun h => by
  have hnull : Denotes depth x .null := hx ▸ .null
  exact hj (h.eq hnull)

end Entry

theorem IsObject.ne_null {es : List Entry} {x : List Symbol} (h : IsObject es x) :
    x ≠ Entry.nullText := by
  obtain ⟨y, rfl⟩ := h.exists_cons
  exact nofun

/-- A member of a record: the slot that it fills, and how its value is read. -/
structure RecordField (σ : Type) extends Slot Entry σ where
  decoder : Decoder Value

namespace RecordField

def member (isOptional : Bool) (f : RecordField σ) : Member σ :=
  ⟨f.name, fun p => (f.get p).isSome, f.decoder.setting f.set, isOptional⟩

def slots (fields : List (RecordField σ)) : List (Slot Entry σ) := fields.map (·.toSlot)

/-- The value of a member is read as what it means, if the member is one of a record. -/
def Readable (fields : List (RecordField σ)) (depth : Nat) (e : Entry) : Prop :=
  ∀ f ∈ fields, e.name = f.name → Yields (f.decoder depth) e.part.value (f.means e)

/-- The value of a member means one thing at most for its slot. -/
theorem Readable.means_eq {fields : List (RecordField σ)} {depth : Nat} {e : Entry}
    (h : Readable fields depth e) {s : Slot Entry σ} (hs : s ∈ slots fields)
    (hname : e.name = s.name)
    {a b : s.Value} (ha : s.means e a) (hb : s.means e b) : a = b := by
  obtain ⟨f, hf, rfl⟩ := List.mem_map.1 hs
  exact (h f hf hname).eq ha hb

end RecordField

theorem Decoder.setting_yields {α : Type} {d : Decoder α} (set : α → σ → σ) {depth : Nat}
    {x : List Symbol} {means : α → Prop} (h : Yields (d depth) x means) :
    Yields (d.setting set depth) x fun f => ∃ a, means a ∧ f = set a := h.map set

namespace RecordForm

variable {α : Type} {form : RecordForm σ α} {fields : List (RecordField σ)} {isOptional : Bool}
  {pass : Entry → σ → σ → Prop} {depth : Nat} {e : Entry}

/-- A member that a record has fills its slot. -/
theorem member_of_known (hmembers : form.members = fields.map (RecordField.member isOptional))
    (hl : Slot.Lawful (RecordField.slots fields) pass) {f : RecordField σ} (hf : f ∈ fields)
    (hname : e.name = f.name) (hread : RecordField.Readable fields depth e) (p : σ)
    {between gap r : List Symbol} (hbetween : IsBlanks between) (hgap : IsBlanks gap) (hr : Ends r)
    (q : σ) (s : List Symbol) :
    form.member depth e.name p (between ++ .char ':' :: (gap ++ (e.part.value ++ r))) =
        .ok (q, s) ↔ Slot.Step (RecordField.slots fields) (·.name) pass e p q ∧ s = r := by
  obtain ⟨g, hg, hgname, hfind⟩ : ∃ g ∈ fields, e.name = g.name ∧
      form.members.find? (·.name == e.name) = some (g.member isOptional) := by
    cases hm : form.members.find? (·.name == e.name) with
    | none =>
      have hmem : f.member isOptional ∈ form.members := hmembers ▸ List.mem_map_of_mem hf
      exact absurd (beq_iff_eq.2 hname.symm) (List.find?_eq_none.1 hm _ hmem)
    | some m =>
      have hmem := hmembers ▸ List.mem_of_find?_eq_some hm
      obtain ⟨g, hg, rfl⟩ := List.mem_map.1 hmem
      have hname : g.name = e.name := by simpa [RecordField.member] using List.find?_some hm
      exact ⟨g, hg, hname.symm, rfl⟩
  have hslot : g.toSlot ∈ RecordField.slots fields := List.mem_map_of_mem hg
  unfold member
  rw [hfind]
  dsimp only [RecordField.member]
  by_cases hget : (g.get p).isSome = true
  · rw [if_pos hget]
    refine ⟨nofun, fun ⟨hstep, _⟩ => ?_⟩
    rcases hstep.slot hl hslot with ⟨-, hempty, -⟩ | ⟨hne, -⟩
    · rw [hempty] at hget
      cases hget
    · exact absurd hgname hne
  · have hempty : g.get p = none := Option.not_isSome_iff_eq_none.1 hget
    have hsetting := Decoder.setting_yields g.set (hread g hg hgname)
    have hvalue := fun f s => memberValue_eq_ok_iff hsetting e.name hbetween hgap hr f s
    rw [if_neg hget, bind_eq_ok_iff]
    constructor
    · rintro ⟨⟨_, t⟩, hv, hq⟩
      obtain ⟨⟨a, ha, rfl⟩, rfl⟩ := (hvalue _ t).1 hv
      cases hq
      exact ⟨.fill hslot hgname hempty ha, rfl⟩
    · rintro ⟨hstep, rfl⟩
      cases hstep with
      | @fill t a ht hname' hempty ha =>
        obtain rfl := hl.eq_of_name_eq hslot ht (hgname.symm.trans hname')
        exact ⟨(g.set a, s), (hvalue _ s).2 ⟨⟨a, ha, rfl⟩, rfl⟩, rfl⟩
      | pass hno _ => exact absurd hgname (hno _ hslot)

/-- Each member of an object fills a slot or is passed over. -/
theorem member_steps (hmembers : form.members = fields.map (RecordField.member isOptional))
    (hl : Slot.Lawful (RecordField.slots fields) Slot.Unchanged) (he : e.IsEntry)
    (hread : RecordField.Readable fields depth e) :
    Steps (form.member depth) (Slot.Step (RecordField.slots fields) (·.name) Slot.Unchanged) e := by
  intro p between gap r hbetween hgap hr q s
  by_cases hname : ∃ f ∈ fields, e.name = f.name
  · obtain ⟨f, hf, hname⟩ := hname
    exact member_of_known hmembers hl hf hname hread p hbetween hgap hr q s
  · have hno : ∀ t ∈ RecordField.slots fields, e.name ≠ t.name := by
      rintro _ ht he
      obtain ⟨f, hf, rfl⟩ := List.mem_map.1 ht
      exact hname ⟨f, hf, he⟩
    have hunknown : e.name ∉ form.members.map (·.name) := by
      rw [hmembers]
      rintro hm
      obtain ⟨_, hm, he⟩ := List.mem_map.1 hm
      obtain ⟨f, hf, rfl⟩ := List.mem_map.1 hm
      exact hname ⟨f, hf, he.symm⟩
    rw [member_of_unknown hunknown p hbetween hgap he.value hr]
    constructor
    · intro h
      cases h
      exact ⟨.pass hno rfl, rfl⟩
    · rintro ⟨hstep, rfl⟩
      cases hstep with
      | fill ht hname' => exact absurd hname' (hno _ ht)
      | pass _ hq => rw [show q = p from hq]

/-- An object is read as a record iff its members fill the slots so that the record is complete. -/
theorem decoder_eq_ok_iff (hmembers : form.members = fields.map (RecordField.member isOptional))
    (hl : Slot.Lawful (RecordField.slots fields) Slot.Unchanged) {es : List Entry} {x : List Symbol}
    (hx : IsObject es x) (hread : ∀ e ∈ es, RecordField.Readable fields depth e) {gap : List Symbol}
    (hgap : IsBlanks gap) (a : α) (r s : List Symbol) :
    form.decoder (depth + 1) (gap ++ (x ++ r)) = .ok (a, s) ↔
      (∃ q, Along (Slot.Step (RecordField.slots fields) (·.name) Slot.Unchanged) es form.start q ∧
        form.finish q = .ok a) ∧ s = r := by
  obtain ⟨y, rfl⟩ := hx.exists_cons
  have hcomplete : ∀ q, form.complete q r = .ok (a, s) ↔ form.finish q = .ok a ∧ s = r := by
    intro q
    unfold complete
    cases form.finish q with
    | error m => exact ⟨nofun, nofun⟩
    | ok b => simp [eq_comm]
  rw [List.cons_append, decoder_object hgap,
    members_eq_ok_iff hx (fun e he => member_steps hmembers hl (hx.isEntry e he) (hread e he))]
  simp only [hcomplete, ← and_assoc, exists_and_right]

/-- An object is read as the record whose members it has. -/
theorem decoder_eq_ok (hmembers : form.members = fields.map (RecordField.member isOptional))
    (hl : Slot.Lawful (RecordField.slots fields) Slot.Unchanged) {es : List Entry} {x : List Symbol}
    (hx : IsObject es x) (hread : ∀ e ∈ es, RecordField.Readable fields depth e)
    (htwice : Slot.NoneTwice (RecordField.slots fields) (·.name) es)
    (hstart : ∀ f ∈ fields, f.get form.start = none) (target : σ)
    (htarget : ∀ f ∈ fields, f.toSlot.Holds (·.name) es (f.get target))
    (hext : ∀ q, (∀ f ∈ fields, f.get q = f.get target) → q = target) {a : α}
    (hfinish : form.finish target = .ok a) {gap : List Symbol} (hgap : IsBlanks gap)
    (r : List Symbol) : form.decoder (depth + 1) (gap ++ (x ++ r)) = .ok (a, r) := by
  obtain ⟨q, hq, hget⟩ := Slot.exists_along_holding hl (fun e _ p => ⟨p, rfl⟩) htwice
    (p := form.start) (fun s hs => by
      obtain ⟨f, hf, rfl⟩ := List.mem_map.1 hs
      exact hstart f hf)
    (fun e he s hs hname a b => (hread e he).means_eq hs hname)
    target (fun s hs => by
      obtain ⟨f, hf, rfl⟩ := List.mem_map.1 hs
      exact htarget f hf)
  obtain rfl := hext q fun f hf => hget f.toSlot (List.mem_map_of_mem hf)
  exact (decoder_eq_ok_iff hmembers hl hx hread hgap a r r).2 ⟨⟨q, hq, hfinish⟩, rfl⟩

end RecordForm

/-- Nothing is read as a record from `null`. -/
theorem RecordForm.decoder_null {α : Type} (form : RecordForm σ α) {depth : Nat}
    {gap : List Symbol} (hgap : IsBlanks gap) (r : List Symbol) (a : α × List Symbol) :
    form.decoder depth (gap ++ (Entry.nullText ++ r)) ≠ .ok a := by
  unfold decoder Entry.nullText
  rw [List.cons_append, peek_append hgap (by decide) rfl, ok_bind]
  exact refuse_ne_ok

/-- A value that ends by itself is all of a text, but for blanks. -/
theorem Decoder.run_eq_ok_iff {α : Type} {d : Decoder α} {x : List Symbol} {means : α → Prop}
    (h : ∀ {gap}, IsBlanks gap → ∀ a r s,
      d depthLimit (gap ++ (x ++ r)) = .ok (a, s) ↔ means a ∧ s = r)
    {before after : List Symbol} (hbefore : IsBlanks before) (hafter : IsBlanks after) (a : α) :
    d.run (before ++ (x ++ after)) = .ok a ↔ means a := by
  have hskip : skipBlanks after = [] := List.dropWhile_eq_nil_iff.2 hafter
  unfold run readAll
  rw [bind_eq_ok_iff]
  constructor
  · rintro ⟨⟨b, s⟩, hread, hend⟩
    obtain ⟨hb, rfl⟩ := (h hbefore b after s).1 hread
    dsimp only at hend
    rw [hskip] at hend
    cases hend
    exact hb
  · intro ha
    refine ⟨(a, after), (h hbefore a after after).2 ⟨ha, rfl⟩, ?_⟩
    dsimp only
    rw [hskip]

theorem Decoder.run_eq_ok {α : Type} {d : Decoder α} {x : List Symbol} {a : α}
    (h : ∀ {gap}, IsBlanks gap → ∀ r, d depthLimit (gap ++ (x ++ r)) = .ok (a, r))
    {before after : List Symbol} (hbefore : IsBlanks before) (hafter : IsBlanks after) :
    d.run (before ++ (x ++ after)) = .ok a := by
  have hiff : ∀ {gap}, IsBlanks gap → ∀ b r s,
      d depthLimit (gap ++ (x ++ r)) = .ok (b, s) ↔ b = a ∧ s = r := fun hgap b r s => by
    rw [h hgap]
    simp [eq_comm]
  exact (run_eq_ok_iff hiff hbefore hafter a).2 rfl

end SourceRegistry.Json
