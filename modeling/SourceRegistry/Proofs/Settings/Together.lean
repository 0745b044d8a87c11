import SourceRegistry.Proofs.Members
import SourceRegistry.Proofs.Settings.Names
import SourceRegistry.Proofs.Settings.Shuffles
import SourceRegistry.Settings.Assembly

/-!
# All sources once more

What the sources come to is taken over entry by entry into a new table. If its names are in lower
case and stand for themselves, then in whatever order that is done the settings are the same:
`ofTree?_together`.
-/

namespace SourceRegistry.Setting

open Write (along ofSource ofValue within)

variable {s s' t v : Setting} {name : String} {P : String → Prop}
  {es fs : List (String × Setting)}

/-- One entry for each name, and all names as said. -/
structure Tidy (P : String → Prop) (s : Setting) : Prop where
  ascending : Members.Ascending s.entries
  names : ∀ e ∈ s.entries, P e.1

/-- The name of the entry that a write changes. -/
def Write.entryName? : Write → Option String
  | ⟨[.key name], _⟩ => some (Text.lower name)
  | ⟨.key name :: _, _⟩ => some name
  | _ => none

theorem Tidy.withEntry (h : Tidy P s) (hname : P name) (v : Setting) :
    Tidy P (s.withEntry name v) where
  ascending := Members.ascending_alter h.ascending
  names e he := by
    rcases Members.name_mem_alter he with heq | ⟨w, hw⟩
    · exact heq ▸ hname
    · exact h.names (e.1, w) hw

theorem Tidy.put {w : Write} (ht : Tidy P s) (hw : w.Named) (hP : ∀ name ∈ w.entryName?, P name)
    (h : w.put? s = some s') : Tidy P s' := by
  obtain ⟨path, v⟩ := w
  obtain ⟨k, path, rfl⟩ := hw
  cases path with
  | nil =>
    cases h
    obtain ⟨x, hx⟩ := exists_merge s k v
    rw [hx]
    exact ht.withEntry (hP _ rfl) x
  | cons step path =>
    obtain ⟨x, -, rfl⟩ := Option.map_eq_some_iff.1 h
    exact ht.withEntry (hP _ rfl) x

theorem Tidy.puts {ws : List Write} (ht : Tidy P s) (hn : ∀ w ∈ ws, w.Named)
    (hP : ∀ w ∈ ws, ∀ name ∈ w.entryName?, P name) (h : puts? ws s = some s') : Tidy P s' := by
  induction ws generalizing s with
  | nil =>
    cases h
    exact ht
  | cons w ws ih =>
    rw [puts?_cons] at h
    obtain ⟨r, hr, h⟩ := Option.bind_eq_some_iff.1 h
    obtain ⟨hw, hn⟩ := List.forall_mem_cons.1 hn
    obtain ⟨hPw, hP⟩ := List.forall_mem_cons.1 hP
    exact ih (ht.put hw hPw hr) hn hP h

theorem entry?_merge_of_ne {k : String} (h : Text.lower k ≠ name) (s v : Setting) :
    entry? (s.merge k v) name = s.entry? name := by
  obtain ⟨x, hx⟩ := exists_merge s k v
  rw [hx, entry?_withEntry, if_neg (Ne.symm h)]

theorem entry?_mergeAll_of_ne (h : ∀ e ∈ es, Text.lower e.1 ≠ name) (s : Setting) :
    entry? (mergeAll s es) name = s.entry? name := by
  induction es generalizing s with
  | nil => rfl
  | cons e es ih =>
    obtain ⟨he, h⟩ := List.forall_mem_cons.1 h
    rw [mergeAll, ih h, entry?_merge_of_ne he]

/-- What is at a name where there was nothing before a value was put there. -/
def anew : Setting → Setting
  | .table es => mergeAll (.table []) es
  | v => v

theorem entry?_merge_self {k : String} (h : s.entry? (Text.lower k) = none) (v : Setting) :
    entry? (s.merge k v) (Text.lower k) = some v.anew := by
  cases v with
  | table es => rw [merge, entry?_withEntry, if_pos rfl, h]; rfl
  | _ =>
    rw [merge, entry?_withEntry, if_pos rfl]
    · rfl
    · intro fs hfs
      cases hfs

theorem exists_mergeAll_table (es fs : List (String × Setting)) :
    ∃ gs, mergeAll (.table es) fs = .table gs := by
  induction fs generalizing es with
  | nil => exact ⟨es, rfl⟩
  | cons e fs ih =>
    obtain ⟨x, hx⟩ := exists_merge (.table es) e.1 e.2
    rw [mergeAll, hx]
    exact ih _

theorem outline_anew (v : Setting) : v.anew.outline = v.outline := by
  cases v with
  | table es =>
    obtain ⟨gs, hgs⟩ := exists_mergeAll_table [] es
    rw [anew, hgs]
    rfl
  | _ => rfl

theorem entry?_mergeAll_of_mem {k : String} (hnd : (es.map fun e => Text.lower e.1).Nodup)
    (h : (k, v) ∈ es) (hs : s.entry? (Text.lower k) = none) :
    entry? (mergeAll s es) (Text.lower k) = some v.anew := by
  induction es generalizing s with
  | nil => cases h
  | cons e es ih =>
    obtain ⟨hhead, hnd⟩ := List.nodup_cons.1 hnd
    have hne : ∀ e' ∈ es, Text.lower e'.1 ≠ Text.lower e.1 :=
      fun e' he' heq => hhead (List.mem_map.2 ⟨e', he', heq⟩)
    rw [mergeAll]
    rcases List.mem_cons.1 h with rfl | h
    · rw [entry?_mergeAll_of_ne hne, entry?_merge_self hs]
    · refine ih hnd h ?_
      rw [entry?_merge_of_ne (Ne.symm (hne _ h)), hs]

/-- The same value, or a table with the same entries in another order. -/
inductive Reordered : Setting → Setting → Prop
  | refl (v : Setting) : Reordered v v
  | table {es fs : List (String × Setting)} (h : Shuffled es fs) : Reordered (.table es) (.table fs)

theorem Reordered.trans {u v w : Setting} (h : Reordered u v) (h' : Reordered v w) :
    Reordered u w := by
  cases h with
  | refl => exact h'
  | table h =>
    cases h' with
    | refl => exact .table h
    | table h' => exact .table (h.trans h')

theorem Reordered.outline_eq {v w : Setting} (h : Reordered v w) : v.outline = w.outline := by
  cases h with
  | refl => rfl
  | table => rfl

theorem Shuffled.exists_mem (h : Shuffled es fs) (hm : (name, v) ∈ es) :
    ∃ w, (name, w) ∈ fs ∧ Reordered v w := by
  induction h generalizing v with
  | nil => cases hm
  | cons e _ ih =>
    rcases List.mem_cons.1 hm with rfl | hm
    · exact ⟨v, .head _, .refl v⟩
    · obtain ⟨w, hw, hvw⟩ := ih hm
      exact ⟨w, .tail _ hw, hvw⟩
  | swap e f es => exact ⟨v, (List.Perm.swap f e es).mem_iff.1 hm, .refl v⟩
  | inside k rest h _ =>
    rcases List.mem_cons.1 hm with heq | hm
    · cases heq
      exact ⟨_, .head _, .table h⟩
    · exact ⟨v, .tail _ hm, .refl v⟩
  | trans _ _ ih ih' =>
    obtain ⟨w, hw, hvw⟩ := ih hm
    obtain ⟨x, hx, hwx⟩ := ih' hw
    exact ⟨x, hx, hvw.trans hwx⟩

theorem Shuffled.names_perm (h : Shuffled es fs) : (es.map (·.1)).Perm (fs.map (·.1)) := by
  induction h with
  | nil => exact .refl _
  | cons e _ ih => exact ih.cons _
  | swap e f es => exact .swap _ _ _
  | inside name rest _ _ => exact .refl _
  | trans _ _ ih ih' => exact ih.trans ih'

/-- A tidy table taken over into a new one, in any order. -/
theorem Tidy.entry?_together (ht : Tidy P t) (hP : ∀ name, P name → Text.lower name = name)
    (h : Shuffled t.entries fs) (hv : t.entry? name = some v) :
    ∃ w, Reordered v w ∧ entry? (mergeAll (.table []) fs) name = some w.anew := by
  have hmem := Members.mem_of_lookup hv
  obtain ⟨w, hw, hvw⟩ := h.exists_mem hmem
  have hlower : ∀ k ∈ fs.map (·.1), Text.lower k = k := by
    intro k hk
    obtain ⟨e, he, rfl⟩ := List.mem_map.1 (h.names_perm.mem_iff.2 hk)
    exact hP _ (ht.names e he)
  have hnd : (fs.map fun e => Text.lower e.1).Nodup := by
    have hmap : (fs.map fun e => Text.lower e.1) = fs.map (·.1) :=
      List.map_congr_left fun e he => hlower _ (List.mem_map_of_mem he)
    rw [hmap]
    refine h.names_perm.nodup ?_
    exact (List.pairwise_map.2 (ht.ascending.imp fun hlt => Std.ne_of_lt hlt))
  have hname : Text.lower name = name := hP _ (ht.names _ hmem)
  refine ⟨w, hvw, ?_⟩
  have hentry := entry?_mergeAll_of_mem (s := .table []) hnd hw rfl
  rwa [hname] at hentry

theorem Tidy.outline_entry?_together (ht : Tidy P t) (hP : ∀ name, P name → Text.lower name = name)
    (h : Shuffled t.entries fs) (hv : (t.entry? name).isSome) :
    Option.map outline ( entry? (mergeAll (.table []) fs) name) =
      (t.entry? name).map outline := by
  obtain ⟨v, hv⟩ := Option.isSome_iff_exists.1 hv
  obtain ⟨w, hvw, hw⟩ := ht.entry?_together hP h hv
  rw [hw, hv, Option.map_some, Option.map_some, outline_anew, hvw.outline_eq]

/-- Entries whose names stand for themselves are merged into a table. -/
theorem assignAll?_of_alone (h : ∀ e ∈ es, Alone e.1) (s : Setting) :
    assignAll? es s = some (mergeAll s es) := by
  have hwrites : ofSource es = ofValue (.table es) :=
    List.map_congr_left fun e he => congrArg (Write.mk · e.2) (h e he)
  rw [assignAll?_eq, hwrites, puts?_ofValue_table]

end SourceRegistry.Setting

namespace SourceRegistry

open Setting (Single Tidy Alone Shuffled)

/-! ## Settings from a new table -/

section
variable {t u : Setting} {name : String}

theorem part?_congr (h : (u.entry? name).map Setting.outline = (t.entry? name).map Setting.outline)
    {take : Setting → Option α} (htake : ∀ v, take v.outline = take v) :
    part? u name take = part? t name take := by
  unfold part?
  cases hu : u.entry? name with
  | none =>
    rw [hu] at h
    rw [Option.map_eq_none_iff.1 h.symm]
  | some x =>
    rw [hu] at h
    obtain ⟨y, hy, hyx⟩ := Option.map_eq_some_iff.1 h.symm
    rw [hy]
    exact congrArg (Option.map some) (by rw [← htake x, ← htake y, hyx])

end

def topNames : List String :=
  ["host", "port", "api_base_path", "api_version", "cors_allowed_origins", "max_body_size",
    "request_timeout_seconds", "enable_swagger", "telemetry"]

def telemetryNames : List String := ["service_name", "json_logging", "log_level"]

/-- A tree that is taken over once more without any change to the settings. -/
structure Setting.Stable (t : Setting) : Prop where
  tidy : Tidy (fun name => Text.lower name = name ∧ Alone name) t
  names : ∀ name ∈ topNames, (t.entry? name).isSome
  telemetry : ∃ es, t.entry? "telemetry" = some (.table es) ∧
    Tidy (fun name => Text.lower name = name) (.table es) ∧
    ∀ name ∈ telemetryNames, (Setting.entry? (.table es) name).isSome

section
variable {t : Setting} {es fs : List (String × Setting)}

theorem Telemetry.ofTree?_together (ht : Tidy (fun name => Text.lower name = name) (.table es))
    (hn : ∀ name ∈ telemetryNames, (Setting.entry? (.table es) name).isSome)
    (h : Shuffled es fs) :
    Telemetry.ofTree? (Setting.mergeAll (.table []) fs) = Telemetry.ofTree? (.table es) := by
  obtain ⟨gs, hgs⟩ := Setting.exists_mergeAll_table [] fs
  have part : ∀ {α : Type} {take : Setting → Option α} (name : String), name ∈ telemetryNames →
      Single take → part? (.table gs) name take = part? (.table es) name take := by
    intro α take name hname hf
    rw [← hgs]
    exact part?_congr (ht.outline_entry?_together (fun _ => id) h (hn name hname)) hf.outline
  rw [hgs]
  simp only [Telemetry.ofTree?, part "service_name" (by decide) Setting.single_text?,
    part "json_logging" (by decide) Setting.single_bool?,
    part "log_level" (by decide) Setting.single_text?]

/-- In whatever order the entries of a stable tree are taken over into a new one, the settings
are the same. -/
theorem Settings.ofTree?_together (ht : t.Stable) (h : Shuffled t.entries fs) :
    Settings.ofTree? (Setting.mergeAll (.table []) fs) = Settings.ofTree? t := by
  have hlower : ∀ name, Text.lower name = name ∧ Alone name → Text.lower name = name :=
    fun _ => And.left
  have part : ∀ {α : Type} {take : Setting → Option α} (name : String), name ∈ topNames →
      (∀ v, take v.outline = take v) →
        part? (Setting.mergeAll (.table []) fs) name take = part? t name take := by
    intro α take name hname htake
    exact part?_congr (ht.tidy.outline_entry?_together hlower h (ht.names name hname)) htake
  have telemetry : part? (Setting.mergeAll (.table []) fs) "telemetry" Telemetry.ofTree? =
      part? t "telemetry" Telemetry.ofTree? := by
    obtain ⟨es, hes, htidy, hn⟩ := ht.telemetry
    obtain ⟨w, hw, hentry⟩ := ht.tidy.entry?_together hlower h hes
    have hsame : Telemetry.ofTree? w.anew = Telemetry.ofTree? (.table es) := by
      cases hw with
      | refl => exact Telemetry.ofTree?_together htidy hn (.refl es)
      | table hw => exact Telemetry.ofTree?_together htidy hn hw
    rw [part?, part?, hes, hentry]
    exact congrArg (Option.map some) hsame
  simp only [Settings.ofTree?, telemetry,
    part "host" (by decide) Setting.single_text?.outline,
    part "port" (by decide) (Setting.single_unsigned? 16).outline,
    part "api_base_path" (by decide) Setting.single_text?.outline,
    part "api_version" (by decide) Setting.single_text?.outline,
    part "cors_allowed_origins" (by decide) Setting.texts?_outline,
    part "max_body_size" (by decide) (Setting.single_unsigned? 64).outline,
    part "request_timeout_seconds" (by decide) (Setting.single_unsigned? 64).outline,
    part "enable_swagger" (by decide) Setting.single_bool?.outline]

end

end SourceRegistry
