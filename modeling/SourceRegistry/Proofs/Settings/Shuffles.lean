import SourceRegistry.Proofs.Settings.Writes
import SourceRegistry.Settings.Order

/-!
# What the order of entries leaves alone

Whatever the order of the entries of a source is, it writes the same to each setting, but for the
order of the writes and for what is inside of the tables among them: `Shuffled.along_perm`. What is
inside of a table is never taken for a value, which is what outlines are for.
-/

namespace SourceRegistry.Setting

variable {s t v w : Setting}

mutual

/-- A value without what is in its tables. -/
def outline : Setting → Setting
  | .table _ => .table []
  | .list l => .list (outlines l)
  | v => v

def outlines : List Setting → List Setting
  | [] => []
  | v :: l => outline v :: outlines l

end

theorem outlines_eq (l : List Setting) : outlines l = l.map outline := by
  induction l with
  | nil => rfl
  | cons v l ih => rw [outlines, ih, List.map_cons]

theorem items_outline (s : Setting) : s.outline.items = s.items.map outline := by
  cases s with
  | list l => exact outlines_eq l
  | _ => rfl

theorem outline_item (s : Setting) (n : Nat) :
    ((s.items[n]?).getD .null).outline = (s.outline.items[n]?).getD .null := by
  rw [items_outline, List.getElem?_map]
  cases s.items[n]? <;> rfl

theorem texts?_outline (s : Setting) : s.outline.texts? = s.texts? := by
  have htext : ∀ v : Setting, v.outline.text? = v.text? := fun v => by cases v <;> rfl
  cases s with
  | list l =>
    show (outlines l).mapM text? = l.mapM text?
    induction l with
    | nil => rfl
    | cons v l ih => rw [outlines, List.mapM_cons, List.mapM_cons, htext, ih]
  | _ => rfl

theorem bind_texts?_outline (o : Option Setting) :
    (o.map outline).bind (·.texts?) = o.bind (·.texts?) := by
  rw [Option.bind_map]
  exact congrArg o.bind (funext texts?_outline)

theorem outline_withItem (hs : s.outline = t.outline) (n : Nat) (hv : v.outline = w.outline) :
    (s.withItem n v).outline = (t.withItem n w).outline := by
  have hitems : s.items.map outline = t.items.map outline := by
    rw [← items_outline, hs, items_outline]
  have hlength : s.items.length = t.items.length := by
    simpa using congrArg List.length hitems
  show Setting.list (outlines _) = .list (outlines _)
  rw [outlines_eq, outlines_eq, List.map_set, List.map_set, List.map_append, List.map_append,
    hitems, hlength, hv]

theorem exists_merge (s : Setting) (name : String) (v : Setting) :
    ∃ x, s.merge name v = s.withEntry (Text.lower name) x := by
  cases v with
  | table es => exact ⟨_, by rw [merge]⟩
  | _ => exact ⟨_, by simp only [merge]; rfl⟩

theorem outline_assign?_key {path : List Step} (h : ∀ step ∈ path, step.Placed) (name : String)
    (v s : Setting) : (assign? v (.key name :: path) s).map outline = some (.table []) := by
  cases path with
  | nil =>
    obtain ⟨x, hx⟩ := exists_merge s name v
    rw [assign?, hx]
    rfl
  | cons step path =>
    obtain ⟨x, hx⟩ := Option.isSome_iff_exists.1
      (isSome_assign? h v ((s.entry? name).getD .null))
    rw [assign?, hx]
    · rfl
    · intro hnil
      cases hnil

/-- What comes of a value at a path has the same outline whatever is inside of tables. -/
theorem outline_assign? {path : List Step} (h : ∀ step ∈ path, step.Placed)
    (hv : v.outline = w.outline) (hs : s.outline = t.outline) :
    (assign? v path s).map outline = (assign? w path t).map outline := by
  induction path generalizing s t with
  | nil => exact congrArg some hs
  | cons step path ih =>
    obtain ⟨hstep, hpath⟩ := List.forall_mem_cons.1 h
    cases step with
    | key name => rw [outline_assign?_key hpath, outline_assign?_key hpath]
    | index i =>
      cases path with
      | nil =>
        simp only [assign?, place?_of_placed hstep, Option.map_some]
        exact congrArg some (outline_withItem hs _ hv)
      | cons next path =>
        have hitem : ((s.items[i.toNat]?).getD .null).outline =
            ((t.items[i.toNat]?).getD .null).outline := by
          rw [outline_item, outline_item, hs]
        obtain ⟨x, hx⟩ := Option.isSome_iff_exists.1
          (isSome_assign? hpath v ((s.items[i.toNat]?).getD .null))
        obtain ⟨y, hy⟩ := Option.isSome_iff_exists.1
          (isSome_assign? hpath w ((t.items[i.toNat]?).getD .null))
        have hxy : x.outline = y.outline := by simpa [hx, hy] using ih hpath hitem
        simp only [assign?, place?_of_placed hstep, hx, hy, bind, Option.bind_some, Option.map_some]
        exact congrArg some (outline_withItem hs _ hxy)

namespace Write

def outline (w : Write) : Write := ⟨w.path, w.value.outline⟩

theorem outline_eq_iff {w v : Write} :
    w.outline = v.outline ↔ w.path = v.path ∧ w.value.outline = v.value.outline := by
  rw [outline, outline, mk.injEq]

end Write

open Write (along ofSource ofValue within)

theorem Single.outline {take : Setting → Option α} (hf : Single take) (v : Setting) :
    take v.outline = take v := by
  cases v with
  | list l => exact (hf.1 _).trans (hf.1 _).symm
  | table es => exact (hf.2 _).trans (hf.2 _).symm
  | _ => rfl

theorem Single.first?_congr {take : Setting → Option α} (hf : Single take) (d : Setting)
    {ws vs : List Write} (h : ws.map Write.outline = vs.map Write.outline) :
    first? take d ws = first? take d vs := by
  cases ws with
  | nil => rw [List.map_eq_nil_iff.1 h.symm]
  | cons w ws =>
    cases vs with
    | nil => cases h
    | cons v vs =>
      obtain ⟨path, x⟩ := w
      obtain ⟨path', y⟩ := v
      obtain ⟨rfl : path = path', hxy : x.outline = y.outline⟩ :=
        Write.outline_eq_iff.1 (List.cons.inj h).1
      cases path with
      | nil =>
        show take x = take y
        rw [← hf.outline x, ← hf.outline y, hxy]
      | cons step path => rfl

theorem outline_settled? {d : Setting} {ws vs : List Write}
    (hp : ∀ w ∈ ws, ∀ step ∈ w.path, step.Placed)
    (h : ws.map Write.outline = vs.map Write.outline) :
    (settled? d ws).map outline = (settled? d vs).map outline := by
  induction ws generalizing vs with
  | nil => rw [List.map_eq_nil_iff.1 h.symm]
  | cons w ws ih =>
    obtain ⟨hw, hws⟩ := List.forall_mem_cons.1 hp
    cases vs with
    | nil => cases h
    | cons v vs =>
      obtain ⟨hv, hvs⟩ := List.cons.inj h
      obtain ⟨path, x⟩ := w
      obtain ⟨path', y⟩ := v
      obtain ⟨rfl : path = path', hxy : x.outline = y.outline⟩ := Write.outline_eq_iff.1 hv
      cases path with
      | nil => exact congrArg some hxy
      | cons step path =>
        have hrest := ih hws hvs
        rw [settled?, settled?]
        cases hs : settled? d ws with
        | none =>
          rw [hs] at hrest
          rw [Option.map_eq_none_iff.1 hrest.symm]
          rfl
        | some s =>
          rw [hs] at hrest
          obtain ⟨t, ht, hst⟩ := Option.map_eq_some_iff.1 hrest.symm
          rw [ht]
          exact outline_assign? hw hxy hst.symm

namespace Shuffled

theorem of_perm {es fs : List (String × Setting)} (h : es.Perm fs) : Shuffled es fs := by
  induction h with
  | nil => exact .nil
  | cons e _ ih => exact .cons e ih
  | swap e f es => exact .swap f e es
  | trans _ _ ih ih' => exact .trans ih ih'

def writes (pathOf : String → List Step) (es : List (String × Setting)) : List Write :=
  es.map fun e => ⟨pathOf e.1, e.2⟩

theorem writes_cons (pathOf : String → List Step) (e : String × Setting)
    (es : List (String × Setting)) :
    writes pathOf (e :: es) = [⟨pathOf e.1, e.2⟩] ++ writes pathOf es := rfl

variable {es fs : List (String × Setting)} {names : List String}

/-- Along a path that leads into a table, the entries of the table are written. -/
theorem along_table_perm
    (h : ∀ names, ((along names (ofValue (.table es))).map Write.outline).Perm
      ((along names (ofValue (.table fs))).map Write.outline)) (path : List Step) :
    ((along names [⟨path, .table es⟩]).map Write.outline).Perm
      ((along names [⟨path, .table fs⟩]).map Write.outline) := by
  induction names generalizing path with
  | nil => exact .refl _
  | cons name names ih =>
    simp only [along, List.flatMap_cons, List.flatMap_nil, List.append_nil]
    rcases path with _ | ⟨k | i, _ | ⟨step, path⟩⟩
    · exact .refl _
    · simp only [within]
      split
      · exact h names
      · exact .refl _
    · simp only [within]
      split
      · exact ih (step :: path)
      · exact .refl _
    · exact .refl _
    · exact .refl _

/-- Two orders of one source write the same to each setting, in some order and up to outlines. -/
theorem along_perm (h : Shuffled es fs) (pathOf : String → List Step) :
    ((along names (writes pathOf es)).map Write.outline).Perm
      ((along names (writes pathOf fs)).map Write.outline) := by
  induction h generalizing pathOf names with
  | nil => exact .refl _
  | cons e _ ih =>
    rw [writes_cons, writes_cons, Write.along_append, Write.along_append, List.map_append,
      List.map_append]
    exact (ih pathOf).append_left _
  | swap e f es =>
    simp only [writes_cons, Write.along_append, List.map_append, ← List.append_assoc]
    exact List.perm_append_comm.append_right _
  | inside name rest _ ih =>
    rw [writes_cons, writes_cons, Write.along_append, Write.along_append, List.map_append,
      List.map_append]
    exact (along_table_perm (fun _ => ih fun name => [.key name]) _).append_right _
  | trans _ _ ih ih' => exact (ih pathOf).trans (ih' pathOf)

theorem along_ofSource_perm (h : Shuffled es fs) (names : List String) :
    ((along names (ofSource es)).map Write.outline).Perm
      ((along names (ofSource fs)).map Write.outline) :=
  h.along_perm pathOf

/-- What is true of the paths of all writes does not depend on the order. -/
theorem forall_path (h : Shuffled es fs) (names : List String) {P : List Step → Prop}
    (hp : ∀ w ∈ along names (ofSource es), P w.path) :
    ∀ w ∈ along names (ofSource fs), P w.path := by
  intro w hw
  have hmem := (h.along_ofSource_perm names).mem_iff.2 (List.mem_map_of_mem hw)
  obtain ⟨v, hv, he⟩ := List.mem_map.1 hmem
  exact (Write.outline_eq_iff.1 he).1 ▸ hp v hv

/-- At most one write is in order whatever the order is. -/
theorem along_of_length_le (h : Shuffled es fs) (hl : (along names (ofSource es)).length ≤ 1) :
    (along names (ofSource es)).map Write.outline =
      (along names (ofSource fs)).map Write.outline := by
  have hp := h.along_ofSource_perm names
  rcases hes : along names (ofSource es) with _ | ⟨w, _ | ⟨_, _⟩⟩
  · rw [hes] at hp
    exact (List.nil_perm.1 hp).symm
  · rw [hes] at hp
    exact (List.perm_singleton.1 hp.symm).symm
  · simp [hes] at hl

end Shuffled

end SourceRegistry.Setting
