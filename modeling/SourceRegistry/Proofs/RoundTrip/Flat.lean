import SourceRegistry.Proofs.RoundTrip.Records

/-!
# Flat objects are read back

A data source as clients see it is one object with the members of two records: its own are read
as they come, and all others are kept and searched for those of an entity at the end. So the others
have to be values that can be kept, even if nobody asks for them.
-/

namespace SourceRegistry

open Json (Entry RecordField Denotes IsObject IsBlanks IsForeign Restates)
open Text (Symbol)

namespace EntityBase

def slots : List (Slot (String × Json) Parts) :=
  [⟨String, "id", (·.id), fun x p => { p with id := x }, fun m a => m.2 = .string a⟩,
   ⟨Instant, "createdAt", (·.createdAt), fun x p => { p with createdAt := x },
      fun m a => ∃ t, m.2 = .string t ∧ Instant.decode t = .ok a⟩]

theorem lawful : Slot.Lawful slots Slot.Unchanged where
  distinct := by decide
  get_set := by simp [slots]
  frame := by simp [slots]
  pass s _ _ _ _ h := h.get_eq s

/-- A member is taken into account as it fills a slot or passes them. -/
theorem addMember_of_step {m : String × Json} {p q : Parts}
    (h : Slot.Step slots (·.1) Slot.Unchanged m p q) : addMember p m.1 m.2 = .ok q := by
  obtain ⟨name, j⟩ := m
  cases h with
  | fill hs hname hempty ha =>
    simp only [slots, List.mem_cons, List.not_mem_nil, or_false] at hs
    rcases hs with rfl | rfl
    · obtain rfl : name = "id" := hname
      obtain rfl : j = .string _ := ha
      have hid : p.id = none := hempty
      rw [addMember, if_pos rfl, if_neg (by simp [hid])]
      rfl
    · obtain rfl : name = "createdAt" := hname
      obtain ⟨t, ht, hdecode⟩ := ha
      obtain rfl : j = .string t := ht
      have hcreated : p.createdAt = none := hempty
      rw [addMember, if_neg (by simp), if_pos rfl, if_neg (by simp [hcreated])]
      show ((Instant.decode t).mapError Json.Mismatch.refused >>= _) = _
      rw [hdecode]
      rfl
  | pass hname hq =>
    simp only [slots, List.forall_mem_cons] at hname
    obtain ⟨hid, hcreated, -⟩ := hname
    obtain rfl : q = p := hq
    rw [addMember, if_neg hid, if_neg hcreated]

theorem foldlM_of_along {ms : List (String × Json)} {p q : Parts}
    (h : Along (Slot.Step slots (·.1) Slot.Unchanged) ms p q) :
    ms.foldlM (fun p m => addMember p m.1 m.2) p = .ok q := by
  induction h with
  | nil p => rfl
  | cons hstep _ ih =>
    rw [List.foldlM_cons, addMember_of_step hstep]
    exact ih

/-- An entity is found among members that have each of its names once. -/
theorem ofMembers_eq_ok {b : EntityBase} (hb : b.createdAt.Valid) {ms : List (String × Json)}
    (hid : ("id", .string b.id) ∈ ms) (hcreated : ("createdAt", .string b.createdAt.text) ∈ ms)
    (htwice : Slot.NoneTwice slots (·.1) ms) : ofMembers ms = .ok b := by
  let start : Parts := {}
  have hempty : ∀ s ∈ slots, s.get start = none := by simp [slots, start]
  have hmeans : ∀ m ∈ ms, ∀ s ∈ slots, m.1 = s.name → ∀ a b, s.means m a → s.means m b →
      a = b := by
    intro m _
    simp only [slots, List.forall_mem_cons]
    refine ⟨fun _ a b ha hb => ?_, fun _ a b ha hb => ?_, List.forall_mem_nil _⟩
    · exact Json.string.inj (ha.symm.trans hb)
    · obtain ⟨t, ht, ha⟩ := ha
      obtain ⟨u, hu, hb⟩ := hb
      obtain rfl := Json.string.inj (ht.symm.trans hu)
      exact Except.ok.inj (ha.symm.trans hb)
  have htarget : ∀ s ∈ slots, s.Holds (·.1) ms (s.get ⟨b.id, b.createdAt⟩) := by
    simp only [slots, List.forall_mem_cons]
    exact ⟨⟨_, hid, rfl, rfl⟩, ⟨_, hcreated, rfl, _, rfl, Instant.decode_text hb⟩,
      List.forall_mem_nil _⟩
  obtain ⟨⟨_, _⟩, hq, hget⟩ := Slot.exists_along_holding lawful (fun _ _ p => ⟨p, rfl⟩) htwice
    hempty hmeans _ htarget
  simp only [slots, List.forall_mem_cons] at hget
  obtain ⟨rfl, rfl, -⟩ := hget
  rw [ofMembers, foldlM_of_along hq]
  rfl

end EntityBase

namespace Representation

def memberNames : List String := ["id", "createdAt", "workspaceId", "name", "pluginSrc", "health"]

def members (r : Representation) : List (String × Json) :=
  r.base.members ++ [("workspaceId", .string r.workspace), ("name", .string r.name),
    ("pluginSrc", .string r.pluginSrc), ("health", .bool r.health)]

def fields : List (RecordField Parts) :=
  [⟨⟨String, "workspaceId", (·.workspace), fun x p => { p with workspace := x },
      Entry.IsText⟩, .string⟩,
   ⟨⟨String, "name", (·.name), fun x p => { p with name := x }, Entry.IsText⟩, .string⟩,
   ⟨⟨String, "pluginSrc", (·.pluginSrc), fun x p => { p with pluginSrc := x },
      Entry.IsText⟩, .string⟩,
   ⟨⟨Bool, "health", (·.health), fun x p => { p with health := x }, Entry.IsTruth⟩, .bool⟩]

theorem form_members : form.members = fields.map (RecordField.member false) := rfl

/-- A member that is not one of its own is kept. -/
def Keeps (depth : Nat) (e : Entry) (p q : Parts) : Prop :=
  ∃ j, Denotes depth e.part.value j ∧ q = { p with others := p.others ++ [(e.name, j)] }

variable {depth : Nat}

theorem lawful : Slot.Lawful (RecordField.slots fields) (Keeps depth) where
  distinct := by decide
  get_set := by simp [RecordField.slots, fields]
  frame := by simp [RecordField.slots, fields]
  pass := by
    rintro s hs e p q ⟨j, -, rfl⟩
    revert s
    simp [RecordField.slots, fields]

theorem readable {e : Entry} (h : e.IsEntry) : RecordField.Readable fields depth e := by
  simp only [RecordField.Readable, fields, List.forall_mem_cons]
  exact ⟨fun _ => Json.Decoder.string_yields h.value, fun _ => Json.Decoder.string_yields h.value,
    fun _ => Json.Decoder.string_yields h.value, fun _ => Json.Decoder.bool_yields h.value,
    List.forall_mem_nil _⟩

def IsKept (e : Entry) : Bool := !ownMembers.any (·.name == e.name)

theorem isKept_iff {e : Entry} :
    IsKept e = true ↔ ∀ s ∈ RecordField.slots fields, e.name ≠ s.name := by
  simp [IsKept, ownMembers, RecordField.slots, fields, eq_comm (a := e.name)]

/-- Each member fills a slot or is kept. -/
theorem member_steps {e : Entry} (h : e.IsEntry) (hj : ∃ j, Denotes depth e.part.value j) :
    Json.Steps (member depth) (Slot.Step (RecordField.slots fields) (·.name) (Keeps depth)) e := by
  intro p between gap r hbetween hgap hr q s
  unfold member
  by_cases hown : ownMembers.any (·.name == e.name) = true
  · obtain ⟨m, hm, hname⟩ := List.any_eq_true.1 hown
    obtain ⟨f, hf, rfl⟩ := List.mem_map.1 (show m ∈ fields.map (RecordField.member false) from hm)
    have hname : e.name = f.name := (beq_iff_eq.1 hname).symm
    rw [if_pos hown]
    exact Json.RecordForm.member_of_known form_members lawful hf hname (readable h) p hbetween hgap
      hr q s
  · have hno : ∀ t ∈ RecordField.slots fields, e.name ≠ t.name :=
      isKept_iff.1 (by rw [IsKept, Bool.eq_false_iff.2 hown]; rfl)
    obtain ⟨j, hj⟩ := hj
    have hvalue := Json.memberValue_eq_ok_iff hj.yields e.name hbetween hgap hr
    rw [if_neg hown, Json.bind_eq_ok_iff]
    constructor
    · rintro ⟨⟨v, t⟩, hv, hq⟩
      obtain ⟨hm, rfl⟩ := (hvalue v t).1 hv
      cases hq
      exact ⟨.pass hno ⟨v, hm, rfl⟩, rfl⟩
    · rintro ⟨hstep, rfl⟩
      cases hstep with
      | fill ht hname => exact absurd hname (hno _ ht)
      | pass _ hq =>
        obtain ⟨v, hv, rfl⟩ := hq
        exact ⟨(v, s), (hvalue v s).2 ⟨hv, rfl⟩, rfl⟩

theorem decoder_object {gap : List Symbol} (hgap : IsBlanks gap) (s : List Symbol) :
    decoder (depth + 1) (gap ++ .char '\x7b' :: s) =
      Json.members (member depth) {} s >>= fun read =>
        Json.endMembers read.2 >>= form.complete read.1 := by
  unfold decoder
  rw [Json.peek_append hgap (by decide) rfl]
  rfl

def Kept (depth : Nat) : List Entry → List (String × Json) → Prop :=
  List.Forall₂ fun e m => m.1 = e.name ∧ Denotes depth e.part.value m.2

theorem Kept.mem {es : List Entry} {l : List (String × Json)} (h : Kept depth es l) {e : Entry}
    (he : e ∈ es) {j : Json} (hj : Denotes depth e.part.value j) : (e.name, j) ∈ l := by
  obtain ⟨⟨name, j'⟩, hm, rfl, hj'⟩ := Json.exists_of_forall₂_left h he
  exact hj.eq hj' ▸ hm

/-- No name of an entity is kept twice, if none is found twice. -/
theorem Kept.noneTwice {es : List Entry} {l : List (String × Json)} (h : Kept depth es l)
    (hapart : es.Pairwise fun e e' => ∀ name ∈ memberNames, e.name = name → e'.name ≠ name) :
    Slot.NoneTwice EntityBase.slots (·.1) l := by
  have hnames : l.map (·.1) = es.map (·.name) := by
    rw [← List.forall₂_eq_eq_eq, List.forall₂_map_left_iff, List.forall₂_map_right_iff]
    exact h.flip.imp fun _ _ hm => hm.1
  have hpairs : (es.map (·.name)).Pairwise fun a b => ∀ name ∈ memberNames, a = name → b ≠ name :=
    List.pairwise_map.2 hapart
  rw [← hnames] at hpairs
  have hslots : ∀ s ∈ EntityBase.slots, s.name ∈ memberNames := by
    simp [EntityBase.slots, memberNames]
  exact (List.pairwise_map.1 hpairs).imp fun hne s hs => hne s.name (hslots s hs)

/-- What has been kept in the end: the members that are not its own, in their order. -/
theorem others_of_along {es : List Entry} {p q : Parts}
    (h : Along (Slot.Step (RecordField.slots fields) (·.name) (Keeps depth)) es p q) :
    ∃ l, q.others = p.others ++ l ∧ Kept depth (es.filter IsKept) l := by
  induction h with
  | nil p => exact ⟨[], (List.append_nil _).symm, .nil⟩
  | @cons e es p p' q hstep _ ih =>
    obtain ⟨l, hl, hes⟩ := ih
    cases hstep with
    | @fill s a hs hname =>
      have hown : ¬ IsKept e = true := fun hkept => isKept_iff.1 hkept s hs hname
      have hset : ∀ s ∈ RecordField.slots fields, ∀ a, (s.set a p).others = p.others := by
        simp [RecordField.slots, fields]
      rw [List.filter_cons_of_neg hown]
      exact ⟨l, by rw [hl, hset s hs], hes⟩
    | pass hname hq =>
      obtain ⟨j, hj, rfl⟩ := hq
      rw [List.filter_cons_of_pos (isKept_iff.2 hname)]
      exact ⟨(e.name, j) :: l, by rw [hl, List.append_assoc]; rfl, .cons ⟨rfl, hj⟩ hes⟩

/-- A member of another name whose value can be kept. -/
def CanKeep (depth : Nat) (e : Entry) : Prop :=
  IsForeign memberNames e ∧ ∃ j, Denotes depth e.part.value j

/-- A representation is read from every object that has its members, if all others can be kept. -/
theorem decoder_restated {r : Representation} (hr : r.base.createdAt.Valid)
    {es : List Entry} {x : List Symbol} (hx : IsObject es x)
    (h : Restates depth (CanKeep depth) r.members es) {gap : List Symbol} (hgap : IsBlanks gap)
    (rest : List Symbol) : decoder (depth + 1) (gap ++ (x ++ rest)) = .ok (r, rest) := by
  have hother : ∀ e, CanKeep depth e → e.name ∉ memberNames := fun _ h => h.1
  have hvalue := h.exists_denotes fun _ he => he.2
  have hapart := h.apart hother (show memberNames.Nodup by decide)
  have htwice : Slot.NoneTwice (RecordField.slots fields) (·.name) es :=
    h.noneTwice hother (show memberNames.Nodup by decide)
      (by simp [RecordField.slots, fields, memberNames])
  have htarget : ∀ s ∈ RecordField.slots fields, s.Holds (·.name) es
      (s.get ⟨r.workspace, r.name, r.pluginSrc, r.health, []⟩) := by
    simp only [RecordField.slots, fields, List.forall_mem_map, List.forall_mem_cons]
    exact ⟨h.exists_text (by simp [members]), h.exists_text (by simp [members]),
      h.exists_text (by simp [members]), h.exists_truth (by simp [members]),
      List.forall_mem_nil _⟩
  have hmeans : ∀ e ∈ es, ∀ s ∈ RecordField.slots fields, e.name = s.name →
      ∀ a b, s.means e a → s.means e b → a = b := fun e he s hs hname a b =>
    (readable (hx.isEntry e he) : RecordField.Readable fields depth e).means_eq hs hname
  have hpass : ∀ e ∈ es, ∀ p, ∃ q, Keeps depth e p q := by
    intro e he p
    obtain ⟨j, hj⟩ := hvalue e he
    exact ⟨_, j, hj, rfl⟩
  obtain ⟨⟨_, _, _, _, others⟩, hq, hget⟩ := Slot.exists_along_holding lawful hpass htwice (p := {})
    (by simp [RecordField.slots, fields]) hmeans _ htarget
  simp only [RecordField.slots, fields, List.forall_mem_map, List.forall_mem_cons] at hget
  obtain ⟨rfl, rfl, rfl, rfl, -⟩ := hget
  obtain ⟨l, hothers, hl⟩ := others_of_along hq
  obtain rfl : others = l := hothers
  have hnames : ∀ m ∈ r.base.members, ∀ s ∈ RecordField.slots fields, m.1 ≠ s.name := by
    simp [EntityBase.members, RecordField.slots, fields]
  have hkept : ∀ m ∈ r.base.members, m ∈ others := by
    rintro ⟨name, j⟩ hm
    obtain ⟨e, he, rfl, hj⟩ := h.exists_mem (List.mem_append_left _ hm)
    exact hl.mem (List.mem_filter.2 ⟨he, isKept_iff.2 (hnames _ hm)⟩) hj
  have hbase : EntityBase.ofMembers others = .ok r.base :=
    EntityBase.ofMembers_eq_ok hr (hkept _ (by simp [EntityBase.members]))
      (hkept _ (by simp [EntityBase.members])) (hl.noneTwice (hapart.filter _))
  have hfinish : finish ⟨r.workspace, r.name, r.pluginSrc, r.health, others⟩ = .ok r := by
    show (EntityBase.ofMembers others >>= _) = _
    rw [hbase]
    rfl
  obtain ⟨y, rfl⟩ := hx.exists_cons
  rw [List.cons_append, decoder_object hgap, Json.members_eq_ok_iff hx fun e he =>
    member_steps (hx.isEntry e he) (hvalue e he)]
  refine ⟨_, hq, ?_⟩
  show form.complete ⟨r.workspace, r.name, r.pluginSrc, r.health, others⟩ rest = _
  have hform : form.finish ⟨r.workspace, r.name, r.pluginSrc, r.health, others⟩ = .ok r := hfinish
  rw [Json.RecordForm.complete, hform]

end Representation

end SourceRegistry
