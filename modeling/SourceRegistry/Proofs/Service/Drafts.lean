import SourceRegistry.Proofs.Service.Programs
import SourceRegistry.Proofs.Text.Space

/-!
# Drafts

What makes a draft acceptable, said on the draft itself: the lengths of its trimmed texts and the
kind of its connection data. `prepare_eq` says that preparing a draft decides exactly this. The
validation report and the construction of the data source ask the same of a draft, so a draft
that passes the one never fails the other.
-/

namespace SourceRegistry

structure Draft.Acceptable (draft : Draft) : Prop where
  name : 1 ≤ (Text.trim draft.name).length ∧ (Text.trim draft.name).length ≤ 100
  pluginSrc : 1 ≤ (Text.trim draft.pluginSrc).length ∧ (Text.trim draft.pluginSrc).length ≤ 255
  data : draft.data.isObject ∨ draft.data.isNull

theorem Draft.acceptable_iff {draft : Draft} :
    draft.Acceptable ↔
      (1 ≤ (Text.trim draft.name).length ∧ (Text.trim draft.name).length ≤ 100) ∧
      (1 ≤ (Text.trim draft.pluginSrc).length ∧ (Text.trim draft.pluginSrc).length ≤ 255) ∧
      (draft.data.isObject ∨ draft.data.isNull) :=
  ⟨fun h => ⟨h.name, h.pluginSrc, h.data⟩, fun h => ⟨h.1, h.2.1, h.2.2⟩⟩

instance (draft : Draft) : Decidable draft.Acceptable := decidable_of_iff' _ Draft.acceptable_iff

def Draft.source (draft : Draft) (w : WorkspaceId) (stamp : Stamp) : DataSource :=
  ⟨stamp.id, w, Text.trim draft.name, Text.trim draft.pluginSrc, draft.health, draft.data,
    stamp.time⟩

/-- What is wrong with a text of at most `max` characters. -/
def textFaults (text : String) (max : Nat) : List String :=
  if (Text.trim text).length = 0 then ["must not be blank"]
  else if max < (Text.trim text).length then ["must be at most " ++ toString max ++ " characters"]
  else []

/-- What is wrong with a draft, field by field in ascending order. -/
def Draft.faults (draft : Draft) : List String :=
  (if draft.data.isObject ∨ draft.data.isNull then [] else ["data: must be a JSON object"])
    ++ (textFaults draft.name 100).map ("name: " ++ ·)
    ++ (textFaults draft.pluginSrc 255).map ("pluginSrc: " ++ ·)

/-- The failure of a use case whose draft is not acceptable. -/
def Draft.rejection (draft : Draft) : ServiceError :=
  ⟨.validationFailed, "; ".intercalate draft.faults⟩

theorem textFaults_eq_nil_iff {text : String} {max : Nat} :
    textFaults text max = [] ↔
      1 ≤ (Text.trim text).length ∧ (Text.trim text).length ≤ max := by
  unfold textFaults
  split
  · simp; omega
  · split
    · simp; omega
    · simp; omega

theorem Draft.faults_eq_nil_iff {draft : Draft} : draft.faults = [] ↔ draft.Acceptable := by
  unfold faults
  rw [acceptable_iff, List.append_eq_nil_iff, List.append_eq_nil_iff, List.map_eq_nil_iff,
    List.map_eq_nil_iff, textFaults_eq_nil_iff, textFaults_eq_nil_iff]
  by_cases h : draft.data.isObject ∨ draft.data.isNull
  · simp [h]
  · simp [h]

def Report.ofFaults (field : String) : List String → Report
  | [] => .success
  | m :: ms => ⟨false, [(field, m :: ms)], by simp [Members.Ascending]⟩

theorem Report.requiredText_eq (value field : String) (max : Nat) :
    requiredText value field max = ofFaults field (textFaults value max) := by
  unfold requiredText textFaults
  by_cases h : Text.trim value = ""
  · simp [h, ofFaults, success, add, FieldErrors.append, FieldErrors.empty, Members.alter]
  · have hl : (Text.trim value).length ≠ 0 := by simpa using h
    simp only [h, hl, if_false]
    split
    · simp [ofFaults, success, add, FieldErrors.append, FieldErrors.empty, Members.alter]
    · rfl

def Draft.findings (draft : Draft) : List (String × List String) :=
  [("data", if draft.data.isObject ∨ draft.data.isNull then [] else ["must be a JSON object"]),
    ("name", textFaults draft.name 100), ("pluginSrc", textFaults draft.pluginSrc 255)]

/-- The fields come in the order of their names, not in the order of the checks. -/
theorem Draft.entries_report (draft : Draft) :
    draft.report.errors.entries = draft.findings.filter (·.2 ≠ []) := by
  unfold report findings isConnectionData
  rw [Report.requiredText_eq, Report.requiredText_eq]
  simp only [maxNameLength, maxPluginSrcLength, ← Bool.or_eq_true]
  generalize textFaults draft.name 100 = name
  generalize textFaults draft.pluginSrc 255 = pluginSrc
  have dataName : "data" < "name" := by decide
  have dataPluginSrc : "data" < "pluginSrc" := by decide
  have namePluginSrc : ¬ "pluginSrc" < "name" := by decide
  cases draft.data.isObject || draft.data.isNull <;> cases name <;> cases pluginSrc <;>
    simp [Report.ofFaults, Report.success, Report.merge, Report.add, FieldErrors.merge,
      FieldErrors.append, FieldErrors.empty, Members.alter, dataName, dataPluginSrc, namePluginSrc]

theorem Draft.valid_report (draft : Draft) :
    draft.report.valid = decide (draft.faults = []) := by
  unfold report faults isConnectionData
  rw [Report.requiredText_eq, Report.requiredText_eq]
  simp only [maxNameLength, maxPluginSrcLength, ← Bool.or_eq_true]
  cases draft.data.isObject || draft.data.isNull <;> cases textFaults draft.name 100 <;>
    cases textFaults draft.pluginSrc 255 <;>
    simp [Report.ofFaults, Report.success, Report.merge, Report.add]

theorem Draft.lines_report (draft : Draft) : draft.report.errors.lines = draft.faults := by
  unfold FieldErrors.lines faults
  rw [entries_report, findings]
  generalize textFaults draft.name 100 = name
  generalize textFaults draft.pluginSrc 255 = pluginSrc
  split <;> cases name <;> cases pluginSrc <;> simp

theorem Draft.ensureValid_report (draft : Draft) :
    draft.report.ensureValid = if draft.Acceptable then .ok () else .error draft.rejection := by
  unfold Report.ensureValid Report.toError rejection
  rw [valid_report, lines_report]
  by_cases h : draft.Acceptable
  · simp [h, faults_eq_nil_iff.2 h]
  · have hf : draft.faults ≠ [] := fun hf => h (faults_eq_nil_iff.1 hf)
    simp [h, hf]

theorem fits_iff {max : Nat} {s : String} : fits max s ↔ 1 ≤ s.length ∧ s.length ≤ max := by
  have h : s.length = 0 ↔ s = "" := String.length_eq_zero_iff
  simp only [fits, Bool.decide_and, Bool.and_eq_true, decide_eq_true_eq, ne_eq, ← h]
  omega

theorem normalizeName_eq (name : String) : normalizeName name =
    if 1 ≤ (Text.trim name).length ∧ (Text.trim name).length ≤ 100 then .ok (Text.trim name)
    else .error (.invalidName name) := by
  simp only [normalizeName, maxNameLength, fits_iff]

theorem normalizePluginSrc_eq (pluginSrc : String) : normalizePluginSrc pluginSrc =
    if 1 ≤ (Text.trim pluginSrc).length ∧ (Text.trim pluginSrc).length ≤ 255 then
      .ok (Text.trim pluginSrc)
    else .error (.invalidPluginSrc (Text.trim pluginSrc)) := by
  simp only [normalizePluginSrc, maxPluginSrcLength, fits_iff]

theorem isConnectionData_iff {data : Json} :
    isConnectionData data ↔ data.isObject ∨ data.isNull := by
  rw [isConnectionData, Bool.or_eq_true]

theorem Draft.ofDraft_eq {draft : Draft} (h : draft.Acceptable) (w : WorkspaceId) (stamp : Stamp) :
    DataSource.ofDraft w draft stamp = .ok (draft.source w stamp) := by
  unfold DataSource.ofDraft
  rw [normalizeName_eq, normalizePluginSrc_eq, if_pos h.name, if_pos h.pluginSrc]
  exact if_pos (isConnectionData_iff.2 h.data)

theorem Service.prepare_eq (ctx : Context) (stamp : Stamp) (draft : Draft) :
    prepare ctx stamp draft =
      if draft.Acceptable then .ok (draft.source ctx.workspace stamp)
      else .error draft.rejection := by
  unfold prepare
  rw [Draft.ensureValid_report]
  by_cases h : draft.Acceptable
  · rw [if_pos h, if_pos h, Draft.ofDraft_eq h]; rfl
  · rw [if_neg h, if_neg h]; rfl

theorem Service.source_of_prepare {ctx : Context} {stamp : Stamp} {draft : Draft} {d : DataSource}
    (h : prepare ctx stamp draft = .ok d) : d = draft.source ctx.workspace stamp := by
  rw [prepare_eq] at h
  split at h
  · cases h; rfl
  · cases h

end SourceRegistry
