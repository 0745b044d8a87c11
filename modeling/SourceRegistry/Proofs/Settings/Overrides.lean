import SourceRegistry.Proofs.Settings.Basic
import SourceRegistry.Proofs.Settings.Loading
import SourceRegistry.Proofs.Settings.Values

/-!
# One variable over the defaults

With nothing but the variable of one setting, the settings that are loaded are the defaults but for
what its value is taken for. That is the value itself iff it is `Exact`: a text that does not spell
a truth value or a number in an unusual way, or a count that is below `2 ^ 63` or among the few
numbers above that are left alone. `load_override` says so for every text and every count.
-/

namespace SourceRegistry

open Setting (Write first? settled?)
open Setting.Write (along ofSource)

namespace Setting.Write

/-- Nothing is written to a setting that is neither at the names of a write nor around them. -/
theorem along_keys_of_not_prefix {names other : List String} (h : ¬ other <+: names)
    (hl : ∀ name ∈ names, Text.lower name = name) {v : Setting} (hv : ofValue v = [⟨[], v⟩]) :
    along other [⟨names.map .key, v⟩] = [] := by
  induction other generalizing names with
  | nil => exact absurd (List.nil_prefix) h
  | cons n other ih =>
    cases names with
    | nil => exact along_nil other
    | cons m names =>
      obtain ⟨hm, hl⟩ := List.forall_mem_cons.1 hl
      by_cases hmn : m = n
      · subst hmn
        have hrest : ¬ other <+: names := fun hp => h (List.cons_prefix_cons.2 ⟨rfl, hp⟩)
        have hwithin : within m ⟨(m :: names).map .key, v⟩ = [⟨names.map .key, v⟩] := by
          cases names with
          | nil => simp [within, hm, hv]
          | cons next names => simp [within]
        simp only [along, List.flatMap_cons, List.flatMap_nil, List.append_nil, hwithin]
        exact ih hrest hl
      · have hwithin : within n ⟨(m :: names).map .key, v⟩ = [] := by
          cases names with
          | nil => simp [within, hm, hmn]
          | cons next names => simp [within, hmn]
        simp only [along, List.flatMap_cons, List.flatMap_nil, List.append_nil, hwithin]
        exact along_nil other

end Setting.Write

section
variable {names other : List String} (hn : names ∈ settingNames) {name : String}
  (h : Text.lower name = "compass_" ++ "__".intercalate names) (value : String)
include hn h

theorem along_variable_of_ne (ho : other ∈ settingNames) (hne : other ≠ names) :
    along other (ofSource (Environment.settings [(name, value)])) = [] := by
  have hapart : ∀ names ∈ settingNames, ∀ other ∈ settingNames, other ≠ names →
      ¬ other <+: names := by decide
  rw [ofSource_variable hn h]
  exact Write.along_keys_of_not_prefix (hapart names hn other ho hne)
    (fun name => lower_settingName hn) (ofValue_valueOf _ _)

theorem writesOnce_variable : WritesOnce (Environment.settings [(name, value)]) := by
  intro other ho
  by_cases hne : other = names
  · rw [hne, along_variable hn h]
    rfl
  · rw [along_variable_of_ne hn h value ho hne]
    exact Nat.zero_le 1

/-- Only the setting of a variable is written, and once. -/
theorem ranked_variable (ho : other ∈ settingNames) :
    ranked [Environment.settings [(name, value)], [], []] other =
      if other = names then [⟨[], Environment.valueOf (".".intercalate names) value⟩] else [] := by
  have hempty : along other (ofSource []) = [] := Write.along_nil other
  simp only [ranked, List.flatMap_cons, List.flatMap_nil, hempty, List.reverse_nil,
    List.append_nil]
  split
  · next he => rw [he, along_variable hn h, List.reverse_singleton]
  · next hne => rw [along_variable_of_ne hn h value ho hne, List.reverse_nil]

theorem plainSource_variable : PlainSource (Environment.settings [(name, value)]) where
  keepsTelemetry := by
    unfold KeepsTelemetry
    rw [ofSource_variable hn h]
    by_cases hp : ["telemetry"] <+: names
    · obtain ⟨rest, rfl⟩ := hp
      cases rest with
      | nil => exact absurd hn (by decide)
      | cons next rest =>
        intro w hw
        simp only [List.singleton_append, List.map_cons, along, List.flatMap_cons, List.flatMap_nil,
          List.append_nil, Write.within, if_true, List.mem_singleton] at hw
        exact ⟨next, rest.map .key, hw ▸ rfl⟩
    · rw [Write.along_keys_of_not_prefix hp (fun name => lower_settingName hn)
        (ofValue_valueOf _ _)]
      exact fun _ hw => absurd hw List.not_mem_nil
  placed := by
    rw [ofSource_variable hn h]
    intro w hw step hstep
    rw [List.mem_singleton.1 hw] at hstep
    obtain ⟨name, -, rfl⟩ := List.mem_map.1 hstep
    trivial

end

theorem plainSource_nil : PlainSource [] := by decide

theorem writesOnce_nil : WritesOnce [] := by decide

namespace Sources

def single (name value : String) : Sources := ⟨[(name, value)], []⟩

theorem fileSettings_nil {s : Sources} (h : s.files = []) (formats : List Format) (name : String) :
    s.fileSettings formats name = .ok [] := by
  have hnone : ∀ c, s.found? c = none := fun c => by rw [found?, h]; rfl
  have hfind : (candidates formats name).findSome? s.found? = none :=
    List.findSome?_eq_none_iff.2 fun c _ => hnone c
  rw [fileSettings, hfind]

theorem load_single {names : List String} (hn : names ∈ settingNames) {name : String}
    (h : Text.lower name = "compass_" ++ "__".intercalate names) (value : String)
    (order : LoadOrder) :
    (single name value).load order = decided [Environment.settings [(name, value)], [], []] := by
  have hlayers : ∀ {P : List (String × Setting) → Prop},
      P (Environment.settings [(name, value)]) → P [] →
        ∀ source ∈ (single name value).layers [] [], P source := by
    intro P hv hnil source hs
    simp only [layers, List.mem_cons, List.not_mem_nil, or_false] at hs
    rcases hs with rfl | rfl | rfl
    · exact hv
    · exact hnil
    · exact hnil
  exact load_eq_of_once (fileSettings_nil rfl _ _) (fileSettings_nil rfl _ _)
    (hlayers (plainSource_variable hn h value) plainSource_nil) (by decide)
    (hlayers (writesOnce_variable hn h value) writesOnce_nil)

end Sources

theorem TextSetting.names_mem (t : TextSetting) : t.names ∈ settingNames := by
  cases t <;> decide

theorem CountSetting.names_mem (c : CountSetting) : c.names ∈ settingNames := by
  cases c <;> decide

theorem layered?_text (t : TextSetting) {name : String}
    (h : Text.lower name = "compass_" ++ "__".intercalate t.names) (v : String) :
    Settings.layered? [Environment.settings [(name, v)], [], []] =
      some (t.put (Environment.spelling v) {}) := by
  have hr : ∀ other ∈ settingNames, ranked [Environment.settings [(name, v)], [], []] other = _ :=
    fun other ho => ranked_variable t.names_mem h v ho
  have hv : (Environment.valueOf (".".intercalate t.names) v).text? = _ :=
    Environment.text?_valueOf (by cases t <;> decide) v
  simp (disch := decide) only [Settings.layered?, Telemetry.layered?, hr]
  cases t <;>
  · simp only [TextSetting.names, String.intercalate_singleton, String.intercalate_cons_cons,
      String.reduceAppend, first?, settled?, List.cons.injEq, String.reduceEq, and_true, and_false,
      and_self, List.cons_ne_self, List.ne_cons_self, ↓reduceIte, Option.bind_some,
      Option.bind_eq_bind] at hv ⊢
    rw [hv]
    rfl

theorem layered?_count (c : CountSetting) {name : String}
    (h : Text.lower name = "compass_" ++ "__".intercalate c.names) {n : Nat}
    (hfits : Word.fits c.bits n) :
    Settings.layered? [Environment.settings [(name, toString n)], [], []] =
      some (c.put (Environment.rounded n) {}) := by
  have hr : ∀ other ∈ settingNames,
      ranked [Environment.settings [(name, toString n)], [], []] other = _ :=
    fun other ho => ranked_variable c.names_mem h (toString n) ho
  have hv := Environment.unsigned?_valueOf (by cases c <;> decide) hfits (".".intercalate c.names)
  simp (disch := decide) only [Settings.layered?, Telemetry.layered?, hr]
  cases c <;>
  · simp only [CountSetting.names, CountSetting.bits, String.intercalate_singleton, first?,
      settled?, List.cons.injEq, String.reduceEq, and_true, and_self, List.cons_ne_self, ↓reduceIte,
      Option.bind_some, Option.bind_eq_bind] at hv ⊢
    rw [hv]
    rfl

/-! ## Overrides -/

/-- A text is still valid when it comes back. -/
theorem TextSetting.validate_spelling (t : TextSetting) {v : String}
    (h : (t.put v {}).validate = .ok ()) :
    (t.put (Environment.spelling v) {}).validate = .ok () := by
  cases t with
  | host => exact h
  | basePath =>
    have hslash := Environment.not_reworded_of_slash (validate_basePath.1 h)
    rw [Environment.spelling_eq_iff.2 hslash]
    exact h
  | version => exact validate_version.2 (Environment.trim_spelling_ne (validate_version.1 h))
  | serviceName => exact h

/-- A setting with a value for its variable: a text, or a count by its numeral. -/
inductive Override where
  | text (t : TextSetting) (v : String)
  | count (c : CountSetting) (n : Nat)

namespace Override

def names : Override → List String
  | .text t _ => t.names
  | .count c _ => c.names

def value : Override → String
  | .text _ v => v
  | .count _ n => toString n

def settings : Override → Settings
  | .text t v => t.put v {}
  | .count c n => c.put n {}

/-- A text with which the defaults are valid, or a count other than zero that fits. -/
def Valid : Override → Prop
  | .text t v => (t.put v {}).validate = .ok ()
  | .count c n => n ≠ 0 ∧ Word.fits c.bits n

/-- A value that comes back as it is: a text that is not reworded, or a count that is below
`2 ^ 63`, a multiple of `2 ^ 11` or the greatest. -/
def Exact : Override → Prop
  | .text _ v => ¬ Environment.Reworded v
  | .count _ n => n < twoPow 63 ∨ 2048 ∣ n ∨ n = Word.greatest 64

def taken : Override → Override
  | .text t v => .text t (Environment.spelling v)
  | .count c n => .count c (Environment.rounded n)

theorem names_mem (o : Override) : o.names ∈ settingNames := by
  cases o with
  | text t v => exact t.names_mem
  | count c n => exact c.names_mem

theorem validate_taken {o : Override} (h : o.Valid) : o.taken.settings.validate = .ok () := by
  cases o with
  | text t v => exact t.validate_spelling h
  | count c n => exact c.validate_put (Environment.rounded_ne_zero h.1)

theorem taken_settings_eq_iff {o : Override} (h : o.Valid) :
    o.taken.settings = o.settings ↔ o.Exact := by
  cases o with
  | text t v => exact (t.put_injective {}).eq_iff.trans Environment.spelling_eq_iff
  | count c n =>
    have hbits : twoPow c.bits ≤ twoPow 64 := by cases c <;> decide
    have h64 : n < twoPow 64 := Nat.lt_of_lt_of_le (of_decide_eq_true h.2) hbits
    exact (c.put_injective {}).eq_iff.trans (Environment.rounded_eq_iff h64)

theorem exact_basePath {v : String} (h : (text .basePath v).Valid) : (text .basePath v).Exact :=
  Environment.not_reworded_of_slash (TextSetting.validate_basePath.1 h)

theorem layered?_eq {o : Override} (h : o.Valid) {name : String}
    (hname : Text.lower name = "compass_" ++ "__".intercalate o.names) :
    Settings.layered? [Environment.settings [(name, o.value)], [], []] = some o.taken.settings := by
  cases o with
  | text t v => exact layered?_text t hname v
  | count c n => exact layered?_count c hname h.2

end Override

namespace Sources

/-- With the variable of one setting, in any letter case, and no files, the defaults are loaded but
for what the value is taken for, in whatever order; and with that very value iff it is exact, as
every base path is. -/
theorem load_override (o : Override) (h : o.Valid) {name : String}
    (hname : Text.lower name = "compass_" ++ "__".intercalate o.names) (order : LoadOrder) :
    (single name o.value).load order = .ok o.taken.settings ∧
      ((single name o.value).load order = .ok o.settings ↔ o.Exact) ∧
      (∀ v, o = .text .basePath v → o.Exact) := by
  have hload : (single name o.value).load order = .ok o.taken.settings := by
    rw [load_single o.names_mem hname, decided, Override.layered?_eq h hname]
    simp only [Override.validate_taken h]
  refine ⟨hload, ?_, ?_⟩
  · rw [hload, Except.ok.injEq, Override.taken_settings_eq_iff h]
  · rintro v rfl
    exact Override.exact_basePath h

theorem load_override_plain :
    let o := Override.text .serviceName "compass-2"
    let name := "COMPASS_Telemetry__SERVICE_NAME"
    o.Valid ∧ Text.lower name = "compass_" ++ "__".intercalate o.names ∧ o.Exact ∧
      ∀ order, (single name "compass-2").load order =
        .ok { telemetry := { serviceName := "compass-2" } } := by
  have hname : Text.lower "COMPASS_Telemetry__SERVICE_NAME" =
      "compass_telemetry__service_name" := by
    decide +kernel
  have hexact : (Override.text .serviceName "compass-2").Exact :=
    Environment.spelling_eq_iff.1 (by decide +kernel)
  exact ⟨rfl, hname, hexact, fun order =>
    (load_override (.text .serviceName "compass-2") rfl hname order).2.1.2 hexact⟩

/-- A version that can be read as a number loses the zero at its end, and a large number is loaded
as the next one that is a multiple of `2 ^ 11`. -/
theorem not_exact_override :
    let version := Override.text .version "1.10"
    let size := Override.count .maxBodySize 9223372036854775809
    let loadVersion := (single "COMPASS_API_VERSION" "1.10").load .asWritten
    let loadSize := (single "COMPASS_MAX_BODY_SIZE" "9223372036854775809").load .asWritten
    (version.Valid ∧ version.value = "1.10" ∧ loadVersion = .ok { version := "1.1" } ∧
      loadVersion ≠ .ok version.settings) ∧
    (size.Valid ∧ size.value = "9223372036854775809" ∧
      loadSize = .ok { maxBodySize := 9223372036854775808 } ∧ loadSize ≠ .ok size.settings) := by
  have hversion : (single "COMPASS_API_VERSION" "1.10").load .asWritten =
      .ok { version := "1.1" } := by
    have hname : Text.lower "COMPASS_API_VERSION" = "compass_api_version" := by decide +kernel
    have hspelling : Environment.spelling "1.10" = "1.1" := by decide +kernel
    rw [load_single TextSetting.version.names_mem hname, decided,
      layered?_text .version hname, hspelling]
    rfl
  have hsize : (single "COMPASS_MAX_BODY_SIZE" "9223372036854775809").load .asWritten =
      .ok { maxBodySize := 9223372036854775808 } := by
    have hname : Text.lower "COMPASS_MAX_BODY_SIZE" = "compass_max_body_size" := by decide +kernel
    have hvalue : "9223372036854775809" = toString 9223372036854775809 := by decide
    rw [hvalue, load_single CountSetting.maxBodySize.names_mem hname, decided,
      layered?_count .maxBodySize hname (by decide)]
    rfl
  refine ⟨⟨rfl, rfl, hversion, ?_⟩, ⟨by decide, by decide⟩, rfl, hsize, ?_⟩
  · rw [hversion]
    decide
  · rw [hsize]
    decide

end Sources

end SourceRegistry
