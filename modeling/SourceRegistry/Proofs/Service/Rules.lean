import SourceRegistry.Proofs.Service.Drafts

/-!
# The rules for a draft

A draft has to keep three rules, one for each of its name, its plugin source and its connection
data. The report on a draft and the construction of its data source each check them in their own
words: the report tells of every broken rule, the construction fails at the first one. `Judged`
says that both find the same rules broken, so that creating never comes to a construction that
fails.
-/

namespace SourceRegistry

inductive Rule where
  | name
  | pluginSrc
  | data
  deriving DecidableEq, Repr

namespace Rule

/-- The rules in the order in which a construction checks them. -/
def inTurn : List Rule := [.name, .pluginSrc, .data]

/-- The rules in the order in which a report tells of them, that of their fields. -/
def byField : List Rule := [.data, .name, .pluginSrc]

def field : Rule → String
  | .name => "name"
  | .pluginSrc => "pluginSrc"
  | .data => "data"

theorem mem_inTurn (rule : Rule) : rule ∈ inTurn := by
  cases rule <;> decide

end Rule

namespace Draft

def Keeps (draft : Draft) : Rule → Prop
  | .name => 1 ≤ (Text.trim draft.name).length ∧ (Text.trim draft.name).length ≤ 100
  | .pluginSrc => 1 ≤ (Text.trim draft.pluginSrc).length ∧ (Text.trim draft.pluginSrc).length ≤ 255
  | .data => draft.data.isObject ∨ draft.data.isNull

instance (draft : Draft) : DecidablePred draft.Keeps
  | .name => inferInstanceAs (Decidable (_ ∧ _))
  | .pluginSrc => inferInstanceAs (Decidable (_ ∧ _))
  | .data => inferInstanceAs (Decidable (_ ∨ _))

/-- What a report says about a text that is blank or longer than `max`. -/
def textComplaint (text : String) (max : Nat) : String :=
  if (Text.trim text).length = 0 then "must not be blank"
  else "must be at most " ++ toString max ++ " characters"

def complaint (draft : Draft) : Rule → String
  | .name => textComplaint draft.name 100
  | .pluginSrc => textComplaint draft.pluginSrc 255
  | .data => "must be a JSON object"

def failure (draft : Draft) : Rule → DataSourceError
  | .name => .invalidName draft.name
  | .pluginSrc => .invalidPluginSrc (Text.trim draft.pluginSrc)
  | .data => .invalidDefinition "connection data must be a JSON object"

def broken (draft : Draft) (rules : List Rule) : List Rule := rules.filter (¬ draft.Keeps ·)

variable (draft : Draft)

theorem acceptable_iff_keeps : draft.Acceptable ↔ ∀ rule, draft.Keeps rule := by
  rw [acceptable_iff]
  constructor
  · rintro ⟨hn, hp, hd⟩ (_ | _ | _)
    · exact hn
    · exact hp
    · exact hd
  · exact fun h => ⟨h .name, h .pluginSrc, h .data⟩

theorem broken_eq_nil_iff {rules : List Rule} (hall : ∀ rule, rule ∈ rules) :
    draft.broken rules = [] ↔ draft.Acceptable := by
  rw [acceptable_iff_keeps, broken, List.filter_eq_nil_iff]
  simp [hall]

theorem textFaults_eq (text : String) (max : Nat) : textFaults text max =
    if 1 ≤ (Text.trim text).length ∧ (Text.trim text).length ≤ max then []
    else [textComplaint text max] := by
  unfold textFaults textComplaint
  grind

theorem findings_eq : draft.findings =
    Rule.byField.map fun rule =>
      (rule.field, if draft.Keeps rule then [] else [draft.complaint rule]) := by
  rw [findings, textFaults_eq, textFaults_eq]
  rfl

/-- The entries of the report are the broken rules, with one message each. -/
theorem entries_report_eq : draft.report.errors.entries =
    (draft.broken Rule.byField).map fun rule => (rule.field, [draft.complaint rule]) := by
  have hp : (fun e : String × List String => decide (e.2 ≠ [])) ∘
      (fun rule => (rule.field, if draft.Keeps rule then [] else [draft.complaint rule])) =
        fun rule => decide (¬ draft.Keeps rule) := by
    funext rule
    by_cases h : draft.Keeps rule <;> simp [h]
  rw [entries_report, findings_eq, List.filter_map, hp]
  refine List.map_congr_left fun rule hr => ?_
  rw [if_neg (of_decide_eq_true (List.mem_filter.1 hr).2)]

theorem faults_eq_broken : draft.faults =
    (draft.broken Rule.byField).map fun rule => rule.field ++ ": " ++ draft.complaint rule := by
  rw [← lines_report, FieldErrors.lines, entries_report_eq, List.flatMap_map]
  exact List.map_eq_flatMap.symm

/-- A construction succeeds, or fails at the first broken rule. -/
theorem ofDraft_eq_broken (w : WorkspaceId) (stamp : Stamp) : DataSource.ofDraft w draft stamp =
    match draft.broken Rule.inTurn with
    | [] => .ok (draft.source w stamp)
    | rule :: _ => .error (draft.failure rule) := by
  unfold DataSource.ofDraft broken Rule.inTurn
  rw [normalizeName_eq, normalizePluginSrc_eq]
  by_cases hn : draft.Keeps .name
  · rw [List.filter_cons_of_neg (by simpa using hn), if_pos (show _ ∧ _ from hn)]
    by_cases hp : draft.Keeps .pluginSrc
    · rw [List.filter_cons_of_neg (by simpa using hp), if_pos (show _ ∧ _ from hp)]
      by_cases hd : draft.Keeps .data
      · rw [List.filter_cons_of_neg (by simpa using hd)]
        exact if_pos (isConnectionData_iff.2 hd)
      · rw [List.filter_cons_of_pos (by simpa using hd)]
        exact if_neg (hd ∘ isConnectionData_iff.1)
    · rw [List.filter_cons_of_pos (by simpa using hp), if_neg (show ¬ (_ ∧ _) from hp)]
      rfl
  · rw [List.filter_cons_of_pos (by simpa using hn), if_neg (show ¬ (_ ∧ _) from hn)]
    rfl

/-- What a construction makes, it makes of an acceptable draft. -/
theorem of_ofDraft {w : WorkspaceId} {stamp : Stamp} {d : DataSource}
    (h : DataSource.ofDraft w draft stamp = .ok d) :
    draft.Acceptable ∧ draft.source w stamp = d := by
  rw [ofDraft_eq_broken] at h
  split at h
  · next hnil => exact ⟨(draft.broken_eq_nil_iff Rule.mem_inTurn).1 hnil, Except.ok.inj h⟩
  · cases h

end Draft

/-- Creating fails with the faults of the draft, because the name is taken, or as the repository
does when it is asked. -/
theorem Service.failure_create {ctx : Context} {stamp : Stamp} {draft : Draft} {r : Repository σ}
    {s : σ} {e : ServiceError}
    (h : ((program ctx stamp (.create draft)).run.run r s).1 = .error e) :
    e = draft.rejection ∨ e = taken (Text.trim draft.name) ∨
      ∃ a ∈ (program ctx stamp (.create draft)).run.asked r s, (r.answer a.1 a.2).1 = .error e := by
  rw [asked_create]
  rw [program_create] at h
  rw [prepare_eq] at h ⊢
  by_cases ha : draft.Acceptable
  · rw [if_pos ha] at h ⊢
    generalize hd : draft.source ctx.workspace stamp = d at h ⊢
    have hname : d.name = Text.trim draft.name := by rw [← hd]; rfl
    rw [← hname]
    cases hq : r.answer (.nameTaken ctx.workspace d.name) s with
    | mk answer s' =>
      simp only [Program.run, hq] at h ⊢
      rcases answer with e' | _ | _
      · cases h
        exact .inr (.inr ⟨_, .head _, congrArg Prod.fst hq⟩)
      · cases hs : r.answer (.save d) s' with
        | mk answer s'' =>
          simp only [Program.run, hs] at h
          rcases answer with e' | _
          · cases h
            exact .inr (.inr ⟨_, .tail _ (.head _), congrArg Prod.fst hs⟩)
          · cases h
      · cases h
        exact .inr (.inl rfl)
  · rw [if_neg ha] at h
    exact .inl (Except.error.inj h).symm

/-- What the report says of a draft and what its construction and creating it come to. -/
structure Draft.Judged (draft : Draft) (ctx : Context) (stamp : Stamp) : Prop where
  valid_iff : draft.report.valid = true ↔
    ∃ d, DataSource.ofDraft ctx.workspace draft stamp = .ok d
  kept_iff : draft.report.valid = true ↔ ∀ rule, draft.Keeps rule
  /-- Every broken rule is reported, with one message, and nothing else is. -/
  entries : draft.report.errors.entries =
    (draft.broken Rule.byField).map fun rule => (rule.field, [draft.complaint rule])
  text : draft.report.ensureValid =
    if draft.report.valid then .ok ()
    else .error ⟨.validationFailed, "; ".intercalate
      ((draft.broken Rule.byField).map fun rule => rule.field ++ ": " ++ draft.complaint rule)⟩
  construction : DataSource.ofDraft ctx.workspace draft stamp =
    match draft.broken Rule.inTurn with
    | [] => .ok (draft.source ctx.workspace stamp)
    | rule :: _ => .error (draft.failure rule)
  /-- Creating tells of invalid input only if the repository has told of it. -/
  creation : ∀ {σ : Type} (r : Repository σ) (s : σ) (e : ServiceError), e.kind = .invalidInput →
    ((Service.program ctx stamp (.create draft)).run.run r s).1 = .error e →
      ∃ a ∈ (Service.program ctx stamp (.create draft)).run.asked r s,
        (r.answer a.1 a.2).1 = .error e

theorem Draft.judged (draft : Draft) (ctx : Context) (stamp : Stamp) :
    draft.Judged ctx stamp := by
  have hvalid : draft.report.valid = true ↔ draft.Acceptable := by
    rw [valid_report, decide_eq_true_iff, faults_eq_nil_iff]
  constructor
  case valid_iff =>
    rw [hvalid, ← draft.broken_eq_nil_iff Rule.mem_inTurn,
      draft.ofDraft_eq_broken]
    cases draft.broken Rule.inTurn with
    | nil => simp
    | cons rule rest => simp
  case kept_iff => rw [hvalid, acceptable_iff_keeps]
  case entries => exact draft.entries_report_eq
  case text =>
    rw [ensureValid_report, rejection, faults_eq_broken]
    simp only [hvalid]
  case construction => rw [ofDraft_eq_broken]
  case creation =>
    intro σ r s e he h
    rcases Service.failure_create h with rfl | rfl | ha
    · cases he
    · cases he
    · exact ha

end SourceRegistry
