import SourceRegistry.Proofs.Settings.Precedence
import SourceRegistry.Settings.Load

/-!
# What is loaded

The settings that the sources decide on are loaded, whatever order hash maps come up with for the
entries of a source. The order shows only where a source writes to a setting more than once, or
where a name means several files: `load_decided`.
-/

namespace SourceRegistry

open Setting (Write puts? Single Shuffled Tidy Alone Steady)
open Setting.Write (along ofSource)

/-- A source that can be written and leaves the telemetry settings a table. -/
structure PlainSource (source : List (String × Setting)) : Prop where
  keepsTelemetry : KeepsTelemetry source
  placed : ∀ w ∈ ofSource source, ∀ step ∈ w.path, step.Placed

instance (source : List (String × Setting)) : Decidable (KeepsTelemetry source) :=
  inferInstanceAs (Decidable (∀ w ∈ along ["telemetry"] (ofSource source), w.Named))

instance (source : List (String × Setting)) : Decidable (PlainSource source) :=
  decidable_of_iff
    (KeepsTelemetry source ∧ ∀ w ∈ ofSource source, ∀ step ∈ w.path, step.Placed)
    ⟨fun h => ⟨h.1, h.2⟩, fun h => ⟨h.1, h.2⟩⟩

/-- No path of the source has capital letters in front of its last name. -/
def SteadySource (source : List (String × Setting)) : Prop := ∀ w ∈ ofSource source, Steady w.path

instance (source : List (String × Setting)) : Decidable (SteadySource source) :=
  inferInstanceAs (Decidable (∀ w ∈ ofSource source, Steady w.path))

theorem steadySource_settings (vars : List (String × String)) :
    SteadySource (Environment.settings vars) := by
  intro w hw
  obtain ⟨e, he, rfl⟩ := List.mem_map.1 hw
  exact Environment.steady_settings vars e he

section
variable {source source' : List (String × Setting)} (h : Shuffled source source')
include h

theorem KeepsTelemetry.shuffled (hk : KeepsTelemetry source) : KeepsTelemetry source' :=
  h.forall_path _ (P := fun path => ∃ k rest, path = .key k :: rest) hk

theorem PlainSource.shuffled (hp : PlainSource source) : PlainSource source' where
  keepsTelemetry := hp.keepsTelemetry.shuffled h
  placed := h.forall_path [] (P := fun path => ∀ step ∈ path, step.Placed) hp.placed

theorem SteadySource.shuffled (hs : SteadySource source) : SteadySource source' :=
  h.forall_path [] (P := Steady) hs

end

/-! ## What the sources come to -/

section
variable {source : List (String × Setting)} {name : String}

/-- The entries that a steady source changes have names that stand for themselves. -/
theorem SteadySource.entryName (h : SteadySource source) {w : Write} (hw : w ∈ ofSource source)
    (hn : name ∈ w.entryName?) : Text.lower name = name ∧ Alone name := by
  have hsteady := h w hw
  obtain ⟨⟨k, v⟩, -, rfl⟩ := List.mem_map.1 hw
  dsimp only at hsteady hn
  rcases Setting.pathOf_cases k with halone | ⟨first, rest, hpath, halone⟩
  · rw [Alone] at halone
    rw [halone] at hsteady hn
    cases hn
    exact ⟨Text.lower_lower k, hsteady⟩
  · rw [hpath] at hsteady hn
    cases rest with
    | nil =>
      cases hn
      exact ⟨Text.lower_lower first, hsteady⟩
    | cons step rest =>
      cases hn
      exact ⟨hsteady (.key name) (.head _), halone⟩

/-- And so have those of the telemetry settings, but for paths. -/
theorem SteadySource.telemetryName (h : SteadySource source) {w : Write}
    (hw : w ∈ along ["telemetry"] (ofSource source)) (hn : name ∈ w.entryName?) :
    Text.lower name = name := by
  obtain ⟨u, hu, hw⟩ := List.mem_flatMap.1 hw
  have hsteady := h u hu
  obtain ⟨path, x⟩ := u
  rcases path with _ | ⟨k | i, _ | ⟨step, path⟩⟩
  · cases hw
  · rw [Write.within] at hw
    split at hw
    · cases x with
      | table es =>
        obtain ⟨e, -, rfl⟩ := List.mem_map.1 hw
        cases hn
        exact Text.lower_lower _
      | _ =>
        rw [List.mem_singleton.1 hw] at hn
        cases hn
    · cases hw
  · rw [Write.within] at hw
    split at hw
    · rw [List.mem_singleton.1 hw] at hn
      rcases step with last | i
      · cases path with
        | nil =>
          cases hn
          exact Text.lower_lower _
        | cons next path =>
          cases hn
          exact hsteady (.key name) (.tail _ (.head _))
      · cases hn
    · cases hw
  · cases hw
  · cases hw

end

section
variable {sources : List (List (String × Setting))} {t : Setting}

/-- What steady sources come to in the telemetry settings. -/
theorem tidy_telemetry_of_puts {v : Setting} (hk : ∀ source ∈ sources, KeepsTelemetry source)
    (hs : ∀ source ∈ sources, SteadySource source)
    (h : puts? (along ["telemetry"] (sources.reverse.flatMap ofSource)) (Telemetry.toTree {}) =
      some v) :
    Tidy (fun name => Text.lower name = name) v ∧
      ∀ name ∈ telemetryNames, (v.entry? name).isSome := by
  have hletters : ∀ e ∈ (Telemetry.toTree {}).entries,
      e.1.toList.all (nameLetters.contains ·) := by decide +kernel
  have hstart : Tidy (fun name => Text.lower name = name) (Telemetry.toTree {}) :=
    ⟨by unfold Members.Ascending; decide, fun e he => lower_of_nameLetters (hletters e he)⟩
  have hnames : ∀ name ∈ telemetryNames, (Setting.entry? (Telemetry.toTree {}) name).isSome := by
    decide
  refine ⟨hstart.puts (named_along hk) (fun w hw name hname => ?_) h,
    fun name hname => Setting.isSome_entry?_puts (named_along hk) h (hnames name hname)⟩
  obtain ⟨u, hu, hw⟩ := List.mem_flatMap.1 hw
  obtain ⟨source, hsource, hu⟩ := List.mem_flatMap.1 hu
  exact (hs source (List.mem_reverse.1 hsource)).telemetryName
    (List.mem_flatMap.2 ⟨u, hu, hw⟩) hname

/-- What steady sources come to can be taken over once more. -/
theorem stable_of_puts (hk : ∀ source ∈ sources, KeepsTelemetry source)
    (hs : ∀ source ∈ sources, SteadySource source)
    (h : puts? (sources.reverse.flatMap ofSource) (Settings.toTree {}) = some t) : t.Stable where
  tidy := by
    have hnames : ∀ e ∈ (Settings.toTree {}).entries,
        e.1.toList.all (nameLetters.contains ·) ∧ Alone e.1 := by decide +kernel
    have hstart : Tidy (fun name => Text.lower name = name ∧ Alone name) (Settings.toTree {}) :=
      ⟨by unfold Members.Ascending; decide,
        fun e he => ⟨lower_of_nameLetters (hnames e he).1, (hnames e he).2⟩⟩
    refine hstart.puts (named_flatMap sources) (fun w hw name hn => ?_) h
    obtain ⟨source, hsource, hw⟩ := List.mem_flatMap.1 hw
    exact (hs source (List.mem_reverse.1 hsource)).entryName hw hn
  names := by
    have hstart : ∀ name ∈ topNames, (Setting.entry? (Settings.toTree {}) name).isSome := by decide
    exact fun name hname => Setting.isSome_entry?_puts (named_flatMap sources) h (hstart name hname)
  telemetry := by
    obtain ⟨v, hv, hp⟩ := Setting.entry?_puts (named_flatMap sources) h
      (rfl : Setting.entry? (Settings.toTree {}) "telemetry" = some (Telemetry.toTree {}))
    obtain ⟨htidy, hnames⟩ := tidy_telemetry_of_puts hk hs hp
    -- a value with an entry is a table
    obtain ⟨x, hx⟩ := Option.isSome_iff_exists.1 (hnames "log_level" (by decide))
    obtain ⟨es, rfl⟩ := Setting.exists_table_of_entry? hx
    exact ⟨es, hv, htidy, hnames⟩

end

def decided (sources : List (List (String × Setting))) : Except LoadError Settings :=
  match Settings.layered? sources with
  | none => .error .undecodable
  | some settings =>
    match settings.validate with
    | .ok () => .ok settings
    | .error e => .error (.invalid e)

namespace Sources

variable {s : Sources} {base own : List (String × Setting)} {order : LoadOrder} {name : String}

def layers (s : Sources) (own base : List (String × Setting)) : List (List (String × Setting)) :=
  [Environment.settings s.vars, own, base]

/-- The sources in the order of their importance, with the entries as they are come to. -/
def LoadOrder.layers (order : LoadOrder) (s : Sources) (own base : List (String × Setting)) :
    List (List (String × Setting)) :=
  [order.environment.apply (Environment.settings s.vars), order.own.apply own,
    order.base.apply base]

theorem shuffled_layers (order : LoadOrder) (s : Sources) (own base : List (String × Setting)) :
    List.Forall₂ Shuffled (s.layers own base) (order.layers s own base) :=
  .cons (order.environment.shuffled _) (.cons (order.own.shuffled _)
    (.cons (order.base.shuffled _) .nil))

theorem forall_layers {P : List (String × Setting) → Prop}
    (hP : ∀ {source source'}, Shuffled source source' → P source → P source')
    (h : ∀ source ∈ s.layers own base, P source) (order : LoadOrder) :
    ∀ source ∈ order.layers s own base, P source := by
  simp only [layers, List.forall_mem_cons] at h
  simp only [LoadOrder.layers, List.forall_mem_cons]
  obtain ⟨hv, ho, hb, hnil⟩ := h
  exact ⟨hP (order.environment.shuffled _) hv, hP (order.own.shuffled _) ho,
    hP (order.base.shuffled _) hb, List.forall_mem_nil _⟩

/-! ## Loading -/

/-- At most one file with an ending behind its name is there. -/
def OneFile (s : Sources) (name : String) : Prop :=
  ((Format.all.flatMap (withEnding name)).filterMap s.found?).length ≤ 1

instance (s : Sources) (name : String) : Decidable (s.OneFile name) :=
  inferInstanceAs (Decidable (_ ≤ 1))

theorem fileSettings_of_oneFile (h : s.OneFile name) {formats : List Format}
    (hp : formats.Perm Format.all) :
    s.fileSettings formats name = s.fileSettings Format.all name := by
  have hperm := (hp.flatMap_right (withEnding name)).filterMap s.found?
  have hsame : (formats.flatMap (withEnding name)).filterMap s.found? =
      (Format.all.flatMap (withEnding name)).filterMap s.found? := by
    unfold OneFile at h
    rcases hfound : (Format.all.flatMap (withEnding name)).filterMap s.found? with
      _ | ⟨c, _ | ⟨_, _⟩⟩
    · rw [hfound] at hperm
      exact List.perm_nil.1 hperm
    · rw [hfound] at hperm
      exact List.perm_singleton.1 hperm
    · simp [hfound] at h
  have hfirst : (formats.flatMap (withEnding name)).findSome? s.found? =
      (Format.all.flatMap (withEnding name)).findSome? s.found? := by
    rw [← List.head?_filterMap, ← List.head?_filterMap, hsame]
  rw [fileSettings, fileSettings, candidates, candidates, List.findSome?_append,
    List.findSome?_append, hfirst]

theorem extend_eq {t u : Setting} {source : List (String × Setting)}
    (h : puts? (ofSource source) t = some u) : extend t source = .ok u := by
  rw [extend, Setting.assignAll?_eq, h]
  rfl

theorem layered_eq (hb : s.fileSettings order.formats "default" = .ok base)
    (ho : s.fileSettings order.formats s.surroundings = .ok own)
    (hp : ∀ source ∈ s.layers own base, PlainSource source) :
    ∃ t, layered order s = .ok t ∧
      puts? ((order.layers s own base).reverse.flatMap ofSource) (Settings.toTree {}) = some t := by
  have write : ∀ source ∈ order.layers s own base, ∀ t, ∃ u, puts? (ofSource source) t = some u :=
    fun source hs t => Option.isSome_iff_exists.1
      (Setting.isSome_puts? (forall_layers PlainSource.shuffled hp order source hs).placed t)
  obtain ⟨t₁, h₁⟩ := write (order.base.apply base) (by simp [LoadOrder.layers]) (Settings.toTree {})
  obtain ⟨t₂, h₂⟩ := write (order.own.apply own) (by simp [LoadOrder.layers]) t₁
  obtain ⟨t₃, h₃⟩ := write (order.environment.apply (Environment.settings s.vars))
    (by simp [LoadOrder.layers]) t₂
  refine ⟨t₃, ?_, ?_⟩
  · simp only [layered, hb, ho, bind, Except.bind, extend_eq h₁, extend_eq h₂, extend_eq h₃]
  · simp [LoadOrder.layers, Setting.puts?_append, h₁, h₂, h₃]

/-- What is loaded are the settings that the sources decide on in the order of their entries. -/
theorem load_eq (hb : s.fileSettings order.formats "default" = .ok base)
    (ho : s.fileSettings order.formats s.surroundings = .ok own)
    (hp : ∀ source ∈ s.layers own base, PlainSource source)
    (hs : ∀ source ∈ [own, base], SteadySource source) :
    s.load order = decided (order.layers s own base) := by
  obtain ⟨t, ht, hw⟩ := layered_eq hb ho hp
  have hsteady : ∀ source ∈ s.layers own base, SteadySource source :=
    List.forall_mem_cons.2 ⟨steadySource_settings s.vars, hs⟩
  have hk : ∀ source ∈ order.layers s own base, KeepsTelemetry source :=
    forall_layers KeepsTelemetry.shuffled (fun source hs => (hp source hs).keepsTelemetry) order
  have hstable : t.Stable :=
    stable_of_puts hk (forall_layers SteadySource.shuffled hsteady order) hw
  have hshuffled := order.together.shuffled t.entries
  have halone : ∀ e ∈ order.together.apply t.entries, Alone e.1 := by
    intro e he
    obtain ⟨e', he', heq⟩ :=
      List.mem_map.1 (hshuffled.names_perm.mem_iff.2 (List.mem_map_of_mem he))
    exact heq ▸ (hstable.tidy.names e' he').2
  have htree : s.tree order =
      .ok (Setting.mergeAll (.table []) (order.together.apply t.entries)) := by
    simp only [tree, ht, bind, Except.bind, extend, Setting.assignAll?_of_alone halone]
    rfl
  rw [load, htree, decided, ← Settings.ofTree?_eq hk hw,
    ← Settings.ofTree?_together hstable hshuffled]
  rfl

theorem load_eq_of_once (hb : s.fileSettings order.formats "default" = .ok base)
    (ho : s.fileSettings order.formats s.surroundings = .ok own)
    (hp : ∀ source ∈ s.layers own base, PlainSource source)
    (hs : ∀ source ∈ [own, base], SteadySource source)
    (honce : ∀ source ∈ s.layers own base, WritesOnce source) :
    s.load order = decided (s.layers own base) := by
  rw [load_eq hb ho hp hs, decided, decided, Settings.layered?_shuffled
    (shuffled_layers order s own base) honce fun source hs => (hp source hs).placed]

/-- Where there is no name of the surroundings, they are those of development. -/
theorem load_of_unnamed (h : s.vars.lookup "APP_ENV" = none) (order : LoadOrder) :
    s.load order = load order { s with vars := ("APP_ENV", "development") :: s.vars } := by
  have hv : Environment.settings (("APP_ENV", "development") :: s.vars) =
      Environment.settings s.vars := rfl
  have hs : s.surroundings =
      surroundings { s with vars := ("APP_ENV", "development") :: s.vars } := by
    rw [surroundings, h]
    rfl
  have hfound : found? s = found? { s with vars := ("APP_ENV", "development") :: s.vars } := rfl
  simp only [load, tree, layered, hv, ← hs, fileSettings, hfound]

/-- Whatever the order of formats and of entries is, what is loaded are the settings that the
sources decide on, one by one, if they can be taken from what is written and are valid together.
Where no source writes to a setting more than once the order of entries does not matter, and where
moreover no name means several files no order does. -/
theorem load_decided (order : LoadOrder)
    (hb : s.fileSettings order.formats "default" = .ok base)
    (ho : s.fileSettings order.formats s.surroundings = .ok own)
    (hp : ∀ source ∈ s.layers own base, PlainSource source)
    (hs : ∀ source ∈ [own, base], SteadySource source) :
    s.load order = decided (order.layers s own base) ∧
    ((∀ source ∈ s.layers own base, WritesOnce source) →
      s.load order = decided (s.layers own base) ∧
      ((∀ name ∈ ["default", s.surroundings], s.OneFile name) →
        ∀ order', s.load order' = s.load order)) ∧
    (s.vars.lookup "APP_ENV" = none →
      s.load order = load order { s with vars := ("APP_ENV", "development") :: s.vars }) := by
  refine ⟨load_eq hb ho hp hs, fun honce => ?_, fun h => load_of_unnamed h order⟩
  have hload := load_eq_of_once hb ho hp hs honce
  refine ⟨hload, fun hone order' => ?_⟩
  have hfile : ∀ name ∈ ["default", s.surroundings],
      s.fileSettings order'.formats name = s.fileSettings order.formats name := by
    intro name hname
    rw [fileSettings_of_oneFile (hone name hname) order'.formats_perm,
      fileSettings_of_oneFile (hone name hname) order.formats_perm]
  have hb' := (hfile "default" (.head _)).trans hb
  have ho' := (hfile s.surroundings (.tail _ (.head _))).trans ho
  rw [load_eq_of_once hb' ho' hp hs honce, hload]

def Reads (s : Sources) (P : List (String × Setting) → List (String × Setting) → Prop) : Prop :=
  ∃ own base, s.fileSettings Format.all "default" = .ok base ∧
    s.fileSettings Format.all s.surroundings = .ok own ∧ P own base

instance (s : Sources) (P : List (String × Setting) → List (String × Setting) → Prop)
    [∀ own base, Decidable (P own base)] : Decidable (s.Reads P) :=
  match hb : s.fileSettings Format.all "default",
    ho : s.fileSettings Format.all s.surroundings with
  | .ok base, .ok own => decidable_of_iff (P own base) (by simp [Reads, hb, ho])
  | .error _, _ => isFalse (by simp [Reads, hb])
  | _, .error _ => isFalse (by simp [Reads, ho])

/-- All sources set something, and the environment an item of the list of origins. -/
def overlaid : Sources where
  vars := [("APP_ENV", "stage"), ("COMPASS_PORT", "9100"), ("compass_Telemetry__service_name", "s"),
    ("COMPASS_CORS_ALLOWED_ORIGINS[1]", "https://b.example")]
  files := [("default.json", "\x7b\x22port\x22: 9000, \x22host\x22: \x22::\x22, " ++
      "\x22telemetry\x22: \x7b\x22service_name\x22: \x22d\x22, " ++
      "\x22log_level\x22: \x22debug\x22\x7d\x7d"),
    ("stage.json", "\x7b\x22Port\x22: 9200, \x22API_version\x22: \x22v2\x22\x7d")]

def overlaidSettings : Settings where
  host := "::"
  port := 9100
  version := "v2"
  allowedOrigins := ["*", "https://b.example"]
  telemetry := { serviceName := "s", logLevel := "debug" }

theorem load_overlaid :
    overlaid.Reads (fun own base => (∀ source ∈ overlaid.layers own base, PlainSource source) ∧
      (∀ source ∈ [own, base], SteadySource source) ∧
      (∀ source ∈ overlaid.layers own base, WritesOnce source) ∧
      Settings.layered? (overlaid.layers own base) = some overlaidSettings) ∧
    (∀ name ∈ ["default", overlaid.surroundings], overlaid.OneFile name) ∧
    ∀ order, overlaid.load order = .ok overlaidSettings := by
  have h : overlaid.Reads (fun own base =>
      (∀ source ∈ overlaid.layers own base, PlainSource source) ∧
        (∀ source ∈ [own, base], SteadySource source) ∧
        (∀ source ∈ overlaid.layers own base, WritesOnce source) ∧
        Settings.layered? (overlaid.layers own base) = some overlaidSettings) := by
    decide +kernel
  have hone : ∀ name ∈ ["default", overlaid.surroundings], overlaid.OneFile name := by
    decide +kernel
  refine ⟨h, hone, fun order => ?_⟩
  obtain ⟨own, base, hb, ho, hp, hs, honce, hl⟩ := h
  obtain ⟨-, hload, -⟩ := load_decided .asWritten hb ho hp hs
  obtain ⟨hload, hany⟩ := hload honce
  rw [hany hone order, hload, decided, hl]
  rfl

/-- The list of origins is in the default file, and the environment sets one of its items. -/
def indexedOrigin : Sources where
  vars := [("COMPASS_CORS_ALLOWED_ORIGINS[0]", "https://b.example")]
  files := [("default.json", "\x7b\x22cors_allowed_origins\x22: " ++
    "[\x22https://a.example\x22, \x22https://c.example\x22]\x7d")]

def origins? (source : List (String × Setting)) : Option (List String) := do
  let tree ← Setting.assignAll? source (.table [])
  (← tree.entry? "cors_allowed_origins").texts?

/-- The environment sets the port, and something inside of it. -/
def splitPort : Sources where
  vars := [("COMPASS_PORT", "9000"), ("COMPASS_PORT__X", "1")]
  files := []

def LoadOrder.backwards : LoadOrder :=
  { LoadOrder.asWritten with
    environment := ⟨List.reverse, fun es => .of_perm (List.reverse_perm es).symm⟩ }

/-- Each source leaves the telemetry settings a table and has no name twice, but the list that is
loaded is none that a source has set, and whether the port is that of its variable depends on the
order of the variables. -/
theorem not_decided_indexedOrigin :
    (indexedOrigin.Reads (fun own base => ∀ source ∈ indexedOrigin.layers own base,
      KeepsTelemetry source ∧ (source.map fun e => Text.lower e.1).Nodup ∧
        origins? source ≠ some ["https://b.example", "https://c.example"]) ∧
    origins? (Settings.toTree {}).entries ≠ some ["https://b.example", "https://c.example"] ∧
    indexedOrigin.load .asWritten =
      .ok { allowedOrigins := ["https://b.example", "https://c.example"] }) ∧
    (splitPort.Reads (fun own base => ∀ source ∈ splitPort.layers own base,
      KeepsTelemetry source ∧ (source.map fun e => Text.lower e.1).Nodup) ∧
    splitPort.load .asWritten = .error .undecodable ∧
    splitPort.load .backwards = .ok { port := 9000 }) := by
  have hindexed : indexedOrigin.Reads (fun own base =>
      (∀ source ∈ indexedOrigin.layers own base, PlainSource source) ∧
      (∀ source ∈ [own, base], SteadySource source) ∧
      decided (LoadOrder.asWritten.layers indexedOrigin own base) =
        .ok { allowedOrigins := ["https://b.example", "https://c.example"] }) := by
    decide +kernel
  have hsplit : splitPort.Reads (fun own base =>
      (∀ source ∈ splitPort.layers own base, PlainSource source) ∧
      (∀ source ∈ [own, base], SteadySource source) ∧
      decided (LoadOrder.asWritten.layers splitPort own base) = .error .undecodable ∧
      decided (LoadOrder.backwards.layers splitPort own base) = .ok { port := 9000 }) := by
    decide +kernel
  obtain ⟨own, base, hb, ho, hp, hs, hindexed⟩ := hindexed
  obtain ⟨own', base', hb', ho', hp', hs', hwritten, hbackwards⟩ := hsplit
  exact ⟨⟨by decide +kernel, by decide +kernel, (load_eq hb ho hp hs).trans hindexed⟩,
    by decide +kernel, (load_eq hb' ho' hp' hs').trans hwritten,
    (load_eq hb' ho' hp' hs').trans hbackwards⟩

end Sources

end SourceRegistry
