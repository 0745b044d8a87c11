import Mathlib.Data.List.Induction
import SourceRegistry.Settings.Scalar
import SourceRegistry.Settings.Tree

/-!
# Writes to a tree of settings

A source writes values at paths. What it writes to one entry of a tree depends on that entry
alone, so the entry comes to what the writes within it make of it: `entry?_puts`. Of the writes to
a single setting the last one counts, `settled?`.
-/

namespace SourceRegistry.Setting

variable {s s' t : Setting} {name : String} {v : Setting}

theorem entry?_withEntry (s : Setting) (name : String) (v : Setting) (other : String) :
    entry? (s.withEntry name v) other = if other = name then some v else s.entry? other :=
  Members.lookup_put name v s.entries other

theorem exists_table_of_entry? (h : s.entry? name = some v) : ∃ es, s = .table es := by
  cases s with
  | table es => exact ⟨es, rfl⟩
  | _ => cases h

/-- A value for what is at some path, or for the whole setting. -/
structure Write where
  path : List Step
  value : Setting

namespace Write

def put? : Write → Setting → Option Setting
  | ⟨[], v⟩, _ => some v
  | ⟨step :: path, v⟩, s => assign? v (step :: path) s

/-- What a value writes to the setting that it is for: a table is written entry by entry, so an
empty one writes nothing. -/
def ofValue : Setting → List Write
  | .table es => es.map fun (name, v) => ⟨[.key name], v⟩
  | v => [⟨[], v⟩]

def ofSource (source : List (String × Setting)) : List Write :=
  source.map fun (name, v) => ⟨pathOf name, v⟩

/-- What a write to a table writes to the entry of a name. The last name of a path may be in any
letter case. -/
def within (name : String) : Write → List Write
  | ⟨[.key k], v⟩ => if Text.lower k = name then ofValue v else []
  | ⟨.key k :: step :: path, v⟩ => if k = name then [⟨step :: path, v⟩] else []
  | _ => []

/-- The writes to the setting at some names, one inside of the other. -/
def along : List String → List Write → List Write
  | [], ws => ws
  | name :: names, ws => along names (ws.flatMap (·.within name))

/-- The path starts with a name: what is there must be a table, or gives way to one. -/
def Named (w : Write) : Prop := ∃ k path, w.path = .key k :: path

instance : DecidablePred Named
  | ⟨.key k :: path, _⟩ => isTrue ⟨k, path, rfl⟩
  | ⟨[], _⟩ => isFalse nofun
  | ⟨.index _ :: _, _⟩ => isFalse nofun

theorem along_append (names : List String) (ws vs : List Write) :
    along names (ws ++ vs) = along names ws ++ along names vs := by
  induction names generalizing ws vs with
  | nil => rfl
  | cons name names ih => rw [along, List.flatMap_append, ih]; rfl

theorem along_nil (names : List String) : along names [] = [] := by
  induction names with
  | nil => rfl
  | cons name names ih => exact ih

/-- A write at names in lower case is one to the setting at these names. -/
theorem along_keys {names : List String} (hne : names ≠ [])
    (hl : ∀ name ∈ names, Text.lower name = name) (v : Setting) :
    along names [⟨names.map .key, v⟩] = ofValue v := by
  induction names with
  | nil => exact absurd rfl hne
  | cons name names ih =>
    obtain ⟨hname, hl⟩ := List.forall_mem_cons.1 hl
    cases names with
    | nil => simp [along, within, hname]
    | cons next names => simpa [along, within] using ih (List.cons_ne_nil _ _) hl

end Write

open Write

def puts? (ws : List Write) (s : Setting) : Option Setting := ws.foldlM (fun s w => w.put? s) s

@[simp] theorem puts?_nil (s : Setting) : puts? [] s = some s := rfl

@[simp] theorem puts?_cons (w : Write) (ws : List Write) (s : Setting) :
    puts? (w :: ws) s = (w.put? s).bind (puts? ws ·) := List.foldlM_cons

theorem puts?_append (ws vs : List Write) (s : Setting) :
    puts? (ws ++ vs) s = (puts? ws s).bind (puts? vs ·) := List.foldlM_append

/-- The entries of a table are merged one after the other. -/
theorem puts?_ofValue_table (es : List (String × Setting)) (s : Setting) :
    puts? (ofValue (.table es)) s = some (mergeAll s es) := by
  induction es generalizing s with
  | nil => simp [ofValue, mergeAll]
  | cons e rest ih =>
    rw [mergeAll, ← ih]
    rfl

/-- Merging changes the one entry of the name, to what the writes within it make of it. -/
theorem entry?_merge (h : s.entry? name = some t) (k : String) (v : Setting) :
    ∃ t', entry? (s.merge k v) name = some t' ∧ puts? (within name ⟨[.key k], v⟩) t = some t' := by
  rw [within]
  by_cases hk : Text.lower k = name
  · subst hk
    cases v with
    | table es =>
      refine ⟨mergeAll t es, ?_, by rw [if_pos rfl, puts?_ofValue_table]⟩
      rw [merge, entry?_withEntry, if_pos rfl, h, Option.getD_some]
    | _ =>
      rw [merge, entry?_withEntry, if_pos rfl, if_pos rfl]
      · exact ⟨_, rfl, rfl⟩
      · nofun
  · refine ⟨t, ?_, by rw [if_neg hk, puts?_nil]⟩
    cases v <;> simp [merge, entry?_withEntry, h, Ne.symm hk]

theorem entry?_put {w : Write} (hw : w.Named) (h : w.put? s = some s')
    (ht : s.entry? name = some t) :
    ∃ t', s'.entry? name = some t' ∧ puts? (w.within name) t = some t' := by
  obtain ⟨path, v⟩ := w
  obtain ⟨k, path, rfl⟩ := hw
  cases path with
  | nil =>
    cases h
    exact entry?_merge ht k v
  | cons step path =>
    obtain ⟨x, hx, rfl⟩ := Option.map_eq_some_iff.1 h
    rw [within, entry?_withEntry]
    by_cases hk : k = name
    · subst hk
      rw [ht] at hx
      exact ⟨x, if_pos rfl, by simpa [put?] using hx⟩
    · exact ⟨t, by rw [if_neg (Ne.symm hk), ht], by simp [hk]⟩

/-- An entry comes to what the writes within it make of it. -/
theorem entry?_puts {ws : List Write} (hn : ∀ w ∈ ws, w.Named) (h : puts? ws s = some s')
    (ht : s.entry? name = some t) :
    ∃ t', s'.entry? name = some t' ∧ puts? (ws.flatMap (·.within name)) t = some t' := by
  induction ws generalizing s t with
  | nil =>
    cases h
    exact ⟨t, ht, rfl⟩
  | cons w ws ih =>
    rw [puts?_cons] at h
    obtain ⟨r, hr, h⟩ := Option.bind_eq_some_iff.1 h
    obtain ⟨hw, hn⟩ := List.forall_mem_cons.1 hn
    obtain ⟨u, hu, hp⟩ := entry?_put hw hr ht
    obtain ⟨t', ht', hps⟩ := ih hn h hu
    exact ⟨t', ht', by rw [List.flatMap_cons, puts?_append, hp, Option.bind_some, hps]⟩

theorem isSome_entry?_puts {ws : List Write} (hn : ∀ w ∈ ws, w.Named) (h : puts? ws s = some s')
    (hs : (s.entry? name).isSome) : (s'.entry? name).isSome := by
  obtain ⟨t, ht⟩ := Option.isSome_iff_exists.1 hs
  obtain ⟨t', ht', -⟩ := entry?_puts hn h ht
  rw [ht']
  rfl

theorem named_ofSource (source : List (String × Setting)) : ∀ w ∈ ofSource source, w.Named := by
  intro w hw
  obtain ⟨⟨name, v⟩, -, rfl⟩ := List.mem_map.1 hw
  simp only [Named, pathOf]
  split
  · exact ⟨_, _, rfl⟩
  · split
    · exact ⟨_, _, rfl⟩
    · exact ⟨_, _, rfl⟩

theorem put?_of_named {w : Write} (hw : w.Named) (s : Setting) :
    w.put? s = assign? w.value w.path s := by
  obtain ⟨path, v⟩ := w
  obtain ⟨k, path, rfl⟩ := hw
  rfl

theorem assignAll?_eq (source : List (String × Setting)) (s : Setting) :
    assignAll? source s = puts? (ofSource source) s := by
  induction source generalizing s with
  | nil => rfl
  | cons e rest ih =>
    have hn := named_ofSource (e :: rest) ⟨pathOf e.1, e.2⟩ (List.mem_cons_self ..)
    rw [ofSource, List.map_cons, puts?_cons, put?_of_named hn]
    simp only [assignAll?, List.foldlM_cons] at ih ⊢
    exact congrArg _ (funext ih)

/-- A step that leads somewhere in every list and table. -/
def Step.Placed : Step → Prop
  | .key _ => True
  | .index i => 0 ≤ i ∧ i < mostItems

instance : DecidablePred Step.Placed
  | .key _ => isTrue trivial
  | .index i => inferInstanceAs (Decidable (0 ≤ i ∧ i < mostItems))

theorem place?_of_placed {i : Int} (h : (Step.index i).Placed) (n : Nat) :
    place? i n = some i.toNat := by
  rw [place?, if_pos h.1]
  exact if_pos h

theorem isSome_assign? {path : List Step} (h : ∀ step ∈ path, step.Placed) (v s : Setting) :
    (assign? v path s).isSome := by
  induction path generalizing s with
  | nil => rfl
  | cons step path ih =>
    obtain ⟨hs, hpath⟩ := List.forall_mem_cons.1 h
    cases step with
    | key name =>
      cases path with
      | nil => rfl
      | cons step path => simpa [assign?] using ih hpath _
    | index i =>
      have hp := place?_of_placed hs s.items.length
      cases path with
      | nil => simp [assign?, hp]
      | cons step path =>
        obtain ⟨x, hx⟩ := Option.isSome_iff_exists.1 (ih hpath ((s.items[i.toNat]?).getD .null))
        simp [assign?, hp, hx]

theorem isSome_puts? {ws : List Write} (h : ∀ w ∈ ws, ∀ step ∈ w.path, step.Placed)
    (s : Setting) : (puts? ws s).isSome := by
  induction ws generalizing s with
  | nil => rfl
  | cons w ws ih =>
    obtain ⟨hw, h⟩ := List.forall_mem_cons.1 h
    obtain ⟨t, ht⟩ : ∃ t, w.put? s = some t := by
      obtain ⟨_ | ⟨step, path⟩, v⟩ := w
      · exact ⟨v, rfl⟩
      · exact Option.isSome_iff_exists.1 (isSome_assign? hw v s)
    rw [puts?_cons, ht]
    exact ih h t

/-! ## What counts -/

/-- What a setting comes to by the writes to it, the last one first: that one alone counts, unless
it is for something inside of the setting, which it then changes in what the others come to. -/
def settled? (default : Setting) : List Write → Option Setting
  | [] => some default
  | ⟨[], v⟩ :: _ => some v
  | ⟨step :: path, v⟩ :: earlier => (settled? default earlier).bind (assign? v (step :: path))

theorem settled?_reverse {ws : List Write} (h : puts? ws s = some t) :
    settled? s ws.reverse = some t := by
  induction ws using List.reverseRecOn generalizing t with
  | nil => exact h
  | append_singleton ws w ih =>
    rw [puts?_append] at h
    obtain ⟨r, hr, h⟩ := Option.bind_eq_some_iff.1 h
    rw [puts?_cons] at h
    obtain ⟨t, ht, ⟨⟩⟩ := Option.bind_eq_some_iff.1 h
    rw [List.reverse_concat]
    obtain ⟨_ | ⟨step, path⟩, v⟩ := w
    · exact ht
    · rw [settled?, ih hr]
      exact ht

/-- What is taken from a setting is a single value, no list or table. -/
def Single (take : Setting → Option α) : Prop :=
  (∀ l, take (.list l) = none) ∧ ∀ es, take (.table es) = none

theorem single_text? : Single text? := ⟨fun _ => rfl, fun _ => rfl⟩

theorem single_bool? : Single bool? := ⟨fun _ => rfl, fun _ => rfl⟩

theorem single_unsigned? (bits : Nat) : Single (unsigned? bits) := ⟨fun _ => rfl, fun _ => rfl⟩

/-- What is taken from the first one of some writes to a setting, which has nothing inside of it
to write to. -/
def first? (take : Setting → Option α) (default : Setting) : List Write → Option α
  | [] => take default
  | ⟨[], v⟩ :: _ => take v
  | _ => none

theorem Single.of_assign? {take : Setting → Option α} (hf : Single take) {step : Step}
    {path : List Step} (h : assign? v (step :: path) s = some t) : take t = none := by
  cases step with
  | key name =>
    cases path with
    | nil =>
      cases h
      cases v <;> exact hf.2 _
    | cons step path =>
      obtain ⟨x, -, rfl⟩ := Option.map_eq_some_iff.1 h
      exact hf.2 _
  | index i =>
    cases path with
    | nil =>
      obtain ⟨n, -, rfl⟩ := Option.map_eq_some_iff.1 h
      exact hf.1 _
    | cons step path =>
      obtain ⟨n, -, h⟩ := Option.bind_eq_some_iff.1 h
      obtain ⟨x, -, ⟨⟩⟩ := Option.bind_eq_some_iff.1 h
      exact hf.1 _

theorem Single.bind_settled? {take : Setting → Option α} (hf : Single take) (default : Setting)
    (ws : List Write) : (settled? default ws).bind take = first? take default ws := by
  match ws with
  | [] => rfl
  | ⟨[], v⟩ :: _ => rfl
  | ⟨step :: path, v⟩ :: earlier =>
    rw [settled?, Option.bind_assoc]
    refine Option.bind_eq_none_iff.2 fun s _ => ?_
    exact Option.bind_eq_none_iff.2 fun t ht => hf.of_assign? ht

end SourceRegistry.Setting
