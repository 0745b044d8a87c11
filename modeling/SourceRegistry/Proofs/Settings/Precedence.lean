import SourceRegistry.Proofs.Settings.Together

/-!
# Which source counts

Of several sources the most important one that writes to a setting decides on it, setting by
setting: `ofTree?_eq`. Where no source writes to a setting more than once, it does not matter in
which order the entries of the sources are come to: `layered?_shuffled`.
-/

namespace SourceRegistry

open Setting (Write puts? settled? first? Single Shuffled Tidy)
open Setting.Write (along ofSource within)

/-- The writes of sources to the setting at some names, the one that counts most first: the
sources come with the most important one first, but in a source the last write counts. -/
def ranked (sources : List (List (String × Setting))) (names : List String) : List Write :=
  sources.flatMap fun source => (along names (ofSource source)).reverse

def settingNames : List (List String) :=
  [["host"], ["port"], ["api_base_path"], ["api_version"], ["cors_allowed_origins"],
    ["max_body_size"], ["request_timeout_seconds"], ["enable_swagger"],
    ["telemetry", "service_name"], ["telemetry", "json_logging"], ["telemetry", "log_level"]]

def Telemetry.layered? (sources : List (List (String × Setting))) : Option Telemetry := do
  let d : Telemetry := {}
  some
    { serviceName :=
        ← first? (·.text?) (.text d.serviceName) (ranked sources ["telemetry", "service_name"])
      jsonLogging :=
        ← first? (·.bool?) (.bool d.jsonLogging) (ranked sources ["telemetry", "json_logging"])
      logLevel :=
        ← first? (·.text?) (.text d.logLevel) (ranked sources ["telemetry", "log_level"]) }

/-- The settings by sources, of which the first is the most important one. Single values are taken
from the write that counts most; items of the list of origins can be written by themselves. -/
def Settings.layered? (sources : List (List (String × Setting))) : Option Settings := do
  let d : Settings := {}
  some
    { host := ← first? (·.text?) (.text d.host) (ranked sources ["host"])
      port := ← first? (·.unsigned? 16) (.int d.port) (ranked sources ["port"])
      basePath := ← first? (·.text?) (.text d.basePath) (ranked sources ["api_base_path"])
      version := ← first? (·.text?) (.text d.version) (ranked sources ["api_version"])
      allowedOrigins :=
        ← (settled? (.list (d.allowedOrigins.map .text))
            (ranked sources ["cors_allowed_origins"])).bind (·.texts?)
      maxBodySize :=
        ← first? (·.unsigned? 64) (.int d.maxBodySize) (ranked sources ["max_body_size"])
      timeoutSeconds :=
        ← first? (·.unsigned? 64) (.int d.timeoutSeconds)
            (ranked sources ["request_timeout_seconds"])
      swagger := ← first? (·.bool?) (.bool d.swagger) (ranked sources ["enable_swagger"])
      telemetry := ← Telemetry.layered? sources }

theorem ranked_eq (sources : List (List (String × Setting))) (names : List String) :
    ranked sources names = (along names (sources.reverse.flatMap ofSource)).reverse := by
  induction sources with
  | nil => rw [List.reverse_nil, List.flatMap_nil, Write.along_nil]; rfl
  | cons source rest ih =>
    rw [List.reverse_cons, List.flatMap_append, Write.along_append, List.reverse_append, ← ih]
    simp [ranked]

section

variable {d t u : Setting} {ws : List Write} {name : String}

theorem part?_of_puts (hn : ∀ w ∈ ws, w.Named) (h : puts? ws d = some t)
    (hu : d.entry? name = some u) (take : Setting → Option α) :
    part? t name take = ((settled? u (ws.flatMap (within name)).reverse).bind take).map some := by
  obtain ⟨t', ht, hp⟩ := Setting.entry?_puts hn h hu
  rw [part?, ht, Setting.settled?_reverse hp]
  rfl

theorem part?_single (hn : ∀ w ∈ ws, w.Named) (h : puts? ws d = some t)
    (hu : d.entry? name = some u) {take : Setting → Option α} (hf : Single take) :
    part? t name take = (first? take u (ws.flatMap (within name)).reverse).map some := by
  rw [part?_of_puts hn h hu, hf.bind_settled?]

end

variable {sources : List (List (String × Setting))} {t : Setting}

/-- What a source writes to the telemetry settings it writes to one of their entries. -/
def KeepsTelemetry (source : List (String × Setting)) : Prop :=
  ∀ w ∈ along ["telemetry"] (ofSource source), w.Named

theorem named_flatMap (sources : List (List (String × Setting))) :
    ∀ w ∈ sources.reverse.flatMap ofSource, w.Named := by
  intro w hw
  obtain ⟨source, -, hw⟩ := List.mem_flatMap.1 hw
  exact Setting.named_ofSource source w hw

theorem named_along (hk : ∀ source ∈ sources, KeepsTelemetry source) :
    ∀ w ∈ along ["telemetry"] (sources.reverse.flatMap ofSource), w.Named := by
  intro w hw
  obtain ⟨v, hv, hw⟩ := List.mem_flatMap.1 hw
  obtain ⟨source, hs, hv⟩ := List.mem_flatMap.1 hv
  exact hk source (List.mem_reverse.1 hs) w (List.mem_flatMap.2 ⟨v, hv, hw⟩)

theorem Telemetry.ofTree?_eq (hk : ∀ source ∈ sources, KeepsTelemetry source)
    (h : puts? (along ["telemetry"] (sources.reverse.flatMap ofSource))
      (Telemetry.toTree {}) = some t) :
    Telemetry.ofTree? t = Telemetry.layered? sources := by
  have hn := named_along hk
  have hlevel : Setting.entry? (Telemetry.toTree {}) "log_level" = some (.text "info") := rfl
  obtain ⟨v, hv, -⟩ := Setting.entry?_puts hn h hlevel
  obtain ⟨es, rfl⟩ := Setting.exists_table_of_entry? hv
  have entry : ∀ {α : Type} {take : Setting → Option α} (name : String) (u : Setting),
      Setting.entry? (Telemetry.toTree {}) name = some u → Single take →
        part? (.table es) name take =
          (first? take u (ranked sources ["telemetry", name])).map some := by
    intro α take name u hu hf
    rw [ranked_eq]
    exact part?_single hn h hu hf
  simp only [Telemetry.ofTree?, Option.bind_eq_bind,
    entry "service_name" (.text "compass") rfl Setting.single_text?,
    entry "json_logging" (.bool false) rfl Setting.single_bool?,
    entry "log_level" (.text "info") rfl Setting.single_text?, Option.bind_map]
  rfl

/-- Every setting of a tree that sources have written to is decided by the source that counts
most for it. -/
theorem Settings.ofTree?_eq (hk : ∀ source ∈ sources, KeepsTelemetry source)
    (h : puts? (sources.reverse.flatMap ofSource) (Settings.toTree {}) = some t) :
    Settings.ofTree? t = Settings.layered? sources := by
  have hn := named_flatMap sources
  have entry : ∀ {α : Type} {take : Setting → Option α} (name : String) (u : Setting),
      Setting.entry? (Settings.toTree {}) name = some u → Single take →
        part? t name take = (first? take u (ranked sources [name])).map some := by
    intro α take name u hu hf
    rw [ranked_eq]
    exact part?_single hn h hu hf
  have origins : part? t "cors_allowed_origins" (·.texts?) =
      ((settled? (.list [.text "*"]) (ranked sources ["cors_allowed_origins"])).bind
        (·.texts?)).map some := by
    rw [ranked_eq]
    exact part?_of_puts hn h rfl _
  have telemetry : part? t "telemetry" Telemetry.ofTree? =
      (Telemetry.layered? sources).map some := by
    obtain ⟨v, hv, hp⟩ := Setting.entry?_puts hn h
      (rfl : Setting.entry? (Settings.toTree {}) "telemetry" = some (Telemetry.toTree {}))
    rw [part?, hv, ← Telemetry.ofTree?_eq hk hp]
  simp only [Settings.ofTree?, Option.bind_eq_bind, origins, telemetry,
    entry "host" (.text "0.0.0.0") rfl Setting.single_text?,
    entry "port" (.int 8080) rfl (Setting.single_unsigned? 16),
    entry "api_base_path" (.text "/api") rfl Setting.single_text?,
    entry "api_version" (.text "v1") rfl Setting.single_text?,
    entry "max_body_size" (.int 2097152) rfl (Setting.single_unsigned? 64),
    entry "request_timeout_seconds" (.int 30) rfl (Setting.single_unsigned? 64),
    entry "enable_swagger" (.bool true) rfl Setting.single_bool?, Option.bind_map]
  rfl

/-! ## Any order -/

/-- A source writes to a setting at most once, be it the setting or something inside of it. -/
def WritesOnce (source : List (String × Setting)) : Prop :=
  ∀ names ∈ settingNames, (along names (ofSource source)).length ≤ 1

instance (source : List (String × Setting)) : Decidable (WritesOnce source) :=
  inferInstanceAs (Decidable (∀ names ∈ settingNames, (along names (ofSource source)).length ≤ 1))

theorem placed_within {name : String} {w : Write} (h : ∀ step ∈ w.path, step.Placed) :
    ∀ v ∈ w.within name, ∀ step ∈ v.path, step.Placed := by
  intro v hv step hstep
  obtain ⟨path, x⟩ := w
  match path with
  | [] => cases hv
  | .index _ :: _ => cases hv
  | [.key k] =>
    rw [within] at hv
    split at hv
    · cases x with
      | table es =>
        obtain ⟨e, -, rfl⟩ := List.mem_map.1 hv
        rw [List.mem_singleton.1 hstep]
        trivial
      | _ =>
        rw [List.mem_singleton.1 hv] at hstep
        cases hstep
    · cases hv
  | .key k :: next :: path =>
    rw [within] at hv
    split at hv
    · rw [List.mem_singleton.1 hv] at hstep
      exact h step (List.mem_cons_of_mem _ hstep)
    · cases hv

theorem placed_along {names : List String} {ws : List Write}
    (h : ∀ w ∈ ws, ∀ step ∈ w.path, step.Placed) :
    ∀ w ∈ along names ws, ∀ step ∈ w.path, step.Placed := by
  induction names generalizing ws with
  | nil => exact h
  | cons name names ih =>
    refine ih fun v hv => ?_
    obtain ⟨w, hw, hv⟩ := List.mem_flatMap.1 hv
    exact placed_within (h w hw) v hv

section
variable {sources sources' : List (List (String × Setting))} {names : List String}
  (h : List.Forall₂ Shuffled sources sources')
include h

theorem ranked_shuffled
    (honce : ∀ source ∈ sources, (along names (ofSource source)).length ≤ 1) :
    (ranked sources names).map Write.outline = (ranked sources' names).map Write.outline := by
  induction h with
  | nil => rfl
  | @cons source source' rest rest' hs _ ih =>
    obtain ⟨hsource, honce⟩ := List.forall_mem_cons.1 honce
    have hcons : ∀ (source : List (String × Setting)) rest, ranked (source :: rest) names =
        (along names (ofSource source)).reverse ++ ranked rest names := fun _ _ => rfl
    rw [hcons, hcons, List.map_append, List.map_append, List.map_reverse, List.map_reverse,
      hs.along_of_length_le hsource, ih honce]

/-- Where no source writes to a setting more than once, the settings do not depend on the order
of their entries. -/
theorem Settings.layered?_shuffled (honce : ∀ source ∈ sources, WritesOnce source)
    (hplaced : ∀ source ∈ sources, ∀ w ∈ ofSource source, ∀ step ∈ w.path, step.Placed) :
    Settings.layered? sources' = Settings.layered? sources := by
  have hranked : ∀ names ∈ settingNames,
      (ranked sources names).map Write.outline = (ranked sources' names).map Write.outline :=
    fun names hn => ranked_shuffled h fun source hs => honce source hs names hn
  have single : ∀ {α : Type} {take : Setting → Option α} (d : Setting) (names : List String),
      names ∈ settingNames → Single take →
        first? take d (ranked sources' names) = first? take d (ranked sources names) :=
    fun d names hn hf => (hf.first?_congr d (hranked names hn)).symm
  have origins : ∀ d : Setting, (settled? d (ranked sources' ["cors_allowed_origins"])).bind
      (·.texts?) = (settled? d (ranked sources ["cors_allowed_origins"])).bind (·.texts?) := by
    intro d
    have hp : ∀ w ∈ ranked sources ["cors_allowed_origins"], ∀ step ∈ w.path, step.Placed := by
      intro w hw
      obtain ⟨source, hs, hw⟩ := List.mem_flatMap.1 hw
      exact placed_along (hplaced source hs) w (List.mem_reverse.1 hw)
    have ho := Setting.outline_settled? (d := d) hp (hranked _ (by decide))
    rw [← Setting.bind_texts?_outline, ← ho, Setting.bind_texts?_outline]
  simp (disch := decide) only [Settings.layered?, Telemetry.layered?, origins,
    single _ _ _ Setting.single_text?, single _ _ _ Setting.single_bool?,
    single _ _ _ (Setting.single_unsigned? 16), single _ _ _ (Setting.single_unsigned? 64)]

end

/-! ## Variables -/

theorem settingName?_variable {names : List String} (hn : names ∈ settingNames) {name : String}
    (h : Text.lower name = "compass_" ++ "__".intercalate names) :
    Environment.settingName? name = some (".".intercalate names) := by
  rw [Environment.settingName?, h]
  clear h
  revert names
  decide +kernel

theorem pathOf_settingName : ∀ names ∈ settingNames,
    Setting.pathOf (".".intercalate names) = names.map .key := by decide +kernel

/-- The letters that the names of settings have. -/
def nameLetters : List Char := "abcdefghijklmnopqrstuvwxyz_".toList

theorem isUncased_of_mem : ∀ c ∈ nameLetters, Text.isUncased c :=
  List.all_eq_true.1 (by decide +kernel)

theorem lower_of_nameLetters {name : String} (h : name.toList.all (nameLetters.contains ·)) :
    Text.lower name = name :=
  Text.lower_of_uncased fun c hc =>
    isUncased_of_mem c (List.contains_iff_mem.1 (List.all_eq_true.1 h c hc))

theorem lower_settingName {names : List String} (hn : names ∈ settingNames) {name : String}
    (h : name ∈ names) : Text.lower name = name := by
  have hall : ∀ names ∈ settingNames, ∀ name ∈ names,
      name.toList.all (nameLetters.contains ·) = true := by decide +kernel
  exact lower_of_nameLetters (hall names hn name h)

/-- A variable is no table. -/
theorem ofValue_valueOf (name value : String) :
    Write.ofValue (Environment.valueOf name value) = [⟨[], Environment.valueOf name value⟩] := by
  simp only [Environment.valueOf]
  split
  · rfl
  · split
    · rfl
    · split
      · rfl
      · split
        · rfl
        · split
          · rfl
          · rfl

theorem ofSource_variable {names : List String} (hn : names ∈ settingNames) {name : String}
    (h : Text.lower name = "compass_" ++ "__".intercalate names) (value : String) :
    ofSource (Environment.settings [(name, value)]) =
      [⟨names.map .key, Environment.valueOf (".".intercalate names) value⟩] := by
  have hsettings : Environment.settings [(name, value)] =
      [(".".intercalate names, Environment.valueOf (".".intercalate names) value)] := by
    simp only [Environment.settings, List.foldl_cons, List.foldl_nil, Environment.add,
      settingName?_variable hn h]
    rfl
  simp only [hsettings, ofSource, List.map_cons, List.map_nil, pathOf_settingName names hn]

/-- The variable of a setting sets it, whatever the case of the letters of its name. -/
theorem along_variable {names : List String} (hn : names ∈ settingNames) {name : String}
    (h : Text.lower name = "compass_" ++ "__".intercalate names) (value : String) :
    along names (ofSource (Environment.settings [(name, value)])) =
      [⟨[], Environment.valueOf (".".intercalate names) value⟩] := by
  have hne : names ≠ [] := fun e => absurd (e ▸ hn) (by decide)
  rw [ofSource_variable hn h, Write.along_keys hne (fun name h => lower_settingName hn h),
    ofValue_valueOf]

end SourceRegistry
