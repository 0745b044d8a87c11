import Mathlib.Data.List.Basic
import Mathlib.Logic.Function.Basic
import SourceRegistry.Proofs.Members
import SourceRegistry.Proofs.Text.Order
import SourceRegistry.Validation

/-!
# What a report says

A report is as good as the list of what was said to it, in the order in which it came: `Sums` says
what a report and the errors made from it come to. Every report that is made from empty ones by
adding and merging is the sum of its history, also where copies are merged into what they were
copied from. Merging is associative, and a report of success makes no difference to it, for all
reports whatever they say.
-/

namespace SourceRegistry

namespace FieldErrors

def messages? (errors : FieldErrors) (field : String) : Option (List String) :=
  errors.entries.lookup field

theorem ext_messages? {errors other : FieldErrors}
    (h : ∀ field, errors.messages? field = other.messages? field) : errors = other := by
  obtain ⟨entries, hentries⟩ := errors
  obtain ⟨others, hothers⟩ := other
  obtain rfl : entries = others := hentries.ext hothers h
  rfl

@[simp] theorem messages?_empty (field : String) : empty.messages? field = none := rfl

theorem messages?_append (errors : FieldErrors) (field : String) (messages : List String)
    (other : String) :
    (errors.append field messages).messages? other =
      if other = field then some ((errors.messages? field).getD [] ++ messages)
      else errors.messages? other :=
  Members.lookup_alter errors.ascending _ other

/-- The messages that are merged come behind those that are there. -/
theorem messages?_merge (errors other : FieldErrors) (field : String) :
    (errors.merge other).messages? field =
      Option.merge (· ++ ·) (errors.messages? field) (other.messages? field) := by
  obtain ⟨entries, hentries⟩ := other
  show (entries.foldl _ errors).messages? field = Option.merge _ _ (entries.lookup field)
  induction entries generalizing errors with
  | nil => rw [List.lookup_nil, Option.merge_none_right]; rfl
  | cons e entries ih =>
    obtain ⟨name, messages⟩ := e
    rw [List.foldl_cons, ih _ hentries.tail, messages?_append, Members.lookup_cons_eq]
    split
    · next heq =>
      rw [heq, hentries.lookup_head, Option.merge_none_right]
      cases errors.messages? name <;> rfl
    · rfl

end FieldErrors

namespace Report

/-- What was said to a report: fields and messages in the order in which they came. -/
abbrev History := List (String × String)

def History.messages (log : History) (field : String) : List String :=
  (log.filter (·.1 = field)).map (·.2)

theorem History.messages_append (log other : History) (field : String) :
    (log ++ other).messages field = log.messages field ++ other.messages field := by
  rw [messages, List.filter_append, List.map_append]
  rfl

theorem History.messages_eq_nil_iff {log : History} {field : String} :
    log.messages field = [] ↔ ∀ m ∈ log, m.1 ≠ field := by
  simp [messages]

/-- All messages with their fields: the fields in ascending order of their bytes, the messages of
each in the order in which they came. -/
def History.IsListing (log : History) (lines : List String) : Prop :=
  ∃ fields : List String, fields.Pairwise (Text.encode · < Text.encode ·) ∧
    (∀ field, field ∈ fields ↔ ∃ message, (field, message) ∈ log) ∧
    lines = fields.flatMap fun field => (log.messages field).map (field ++ ": " ++ ·)

structure Sums (log : History) (r : Report) : Prop where
  valid_iff : r.valid = true ↔ r.errors.entries = []
  entry_ne_nil : ∀ e ∈ r.errors.entries, e.2 ≠ []
  messages_eq : ∀ field, (r.errors.messages? field).getD [] = log.messages field
  toError_eq_none_iff : r.toError = none ↔ r.valid = true
  toError_eq : r.valid = false → ∃ lines, log.IsListing lines ∧
    r.toError = some ⟨.validationFailed, "; ".intercalate lines⟩
  ensureValid_ok_iff : r.ensureValid = .ok () ↔ r.toError = none
  ensureValid_error_iff : ∀ e, r.ensureValid = .error e ↔ r.toError = some e

/-- What a step has to keep: the errors are those of the history, and there is no history iff the
report is valid. -/
structure Follows (log : History) (r : Report) : Prop where
  valid_iff : r.valid = true ↔ log = []
  messages? : ∀ field, r.errors.messages? field =
    if log.messages field = [] then none else some (log.messages field)

namespace Follows

variable {log other : History} {r s : Report}

theorem success : Follows [] success := ⟨by decide, fun _ => rfl⟩

theorem add (h : Follows log r) (field message : String) :
    Follows (log ++ [(field, message)]) (r.add field message) where
  valid_iff := by simp [Report.add]
  messages? name := by
    rw [Report.add, FieldErrors.messages?_append, h.messages?, h.messages?,
      History.messages_append]
    by_cases hn : name = field
    · subst hn
      have hone : History.messages [(name, message)] name = [message] := by
        simp [History.messages]
      rw [if_pos rfl, hone, if_neg (List.append_ne_nil_of_right_ne_nil _ (List.cons_ne_nil _ _))]
      split
      · next hnil => rw [hnil]; rfl
      · rfl
    · have hnone : History.messages [(field, message)] name = [] :=
        History.messages_eq_nil_iff.2 (by simpa using Ne.symm hn)
      rw [if_neg hn, hnone, List.append_nil]

theorem merge (h : Follows log r) (h' : Follows other s) : Follows (log ++ other) (r.merge s) where
  valid_iff := by rw [Report.merge, Bool.and_eq_true, h.valid_iff, h'.valid_iff,
    List.append_eq_nil_iff]
  messages? field := by
    rw [Report.merge, FieldErrors.messages?_merge, h.messages?, h'.messages?,
      History.messages_append]
    by_cases hl : log.messages field = []
    · rw [if_pos hl, hl, List.nil_append, Option.merge_none_left]
    · rw [if_neg hl, if_neg (List.append_ne_nil_of_left_ne_nil hl _)]
      split
      · next ho => rw [ho, List.append_nil, Option.merge_none_right]
      · rfl

theorem entry_eq (h : Follows log r) {e : String × List String} (he : e ∈ r.errors.entries) :
    e.2 = log.messages e.1 ∧ e.2 ≠ [] := by
  have hl : r.errors.messages? e.1 = some e.2 := r.errors.ascending.lookup_of_mem he
  rw [h.messages?] at hl
  split at hl
  · cases hl
  · next hne =>
    rw [← Option.some.inj hl]
    exact ⟨rfl, hne⟩

theorem mem_fields_iff (h : Follows log r) (field : String) :
    field ∈ r.errors.entries.map (·.1) ↔ ∃ message, (field, message) ∈ log := by
  have hl : field ∈ r.errors.entries.map (·.1) ↔ (r.errors.messages? field).isSome := by
    rw [FieldErrors.messages?, List.lookup_isSome_iff]
    simp only [List.mem_map, beq_iff_eq]
    exact exists_congr fun e => and_congr_right fun _ => eq_comm
  have hn : log.messages field = [] ↔ ¬ ∃ message, (field, message) ∈ log := by
    rw [History.messages_eq_nil_iff]
    exact ⟨fun hne ⟨message, hm⟩ => hne _ hm rfl, fun hne m hm he => hne ⟨m.2, he ▸ hm⟩⟩
  rw [hl, h.messages?]
  by_cases hm : log.messages field = []
  · simp only [if_pos hm, Option.isSome_none, Bool.false_eq_true, false_iff]
    exact hn.1 hm
  · simp only [if_neg hm, Option.isSome_some, true_iff]
    exact Classical.not_not.1 fun he => hm (hn.2 he)

theorem isListing_lines (h : Follows log r) : log.IsListing r.errors.lines := by
  refine ⟨r.errors.entries.map (·.1), ?_, h.mem_fields_iff, ?_⟩
  · rw [List.pairwise_map]
    exact r.errors.ascending.imp Text.encode_lt_encode_iff.2
  · rw [FieldErrors.lines, List.flatMap_map]
    refine List.flatMap_congr fun e he => ?_
    rw [← (h.entry_eq he).1]

theorem valid_iff_entries (h : Follows log r) : r.valid = true ↔ r.errors.entries = [] := by
  rw [h.valid_iff]
  constructor
  · rintro rfl
    refine List.eq_nil_iff_forall_not_mem.2 fun e he => ?_
    exact (h.entry_eq he).2 (h.entry_eq he).1
  · intro hnil
    refine List.eq_nil_iff_forall_not_mem.2 fun m hm => ?_
    have hmem := (h.mem_fields_iff m.1).2 ⟨m.2, hm⟩
    rw [hnil] at hmem
    cases hmem

end Follows

theorem toError_eq_none_iff (r : Report) : r.toError = none ↔ r.valid = true := by
  unfold toError
  split
  · next hv => simp [hv]
  · next hv => simp [hv]

theorem ensureValid_iff (r : Report) :
    (r.ensureValid = .ok () ↔ r.toError = none) ∧
      ∀ e, r.ensureValid = .error e ↔ r.toError = some e := by
  unfold ensureValid
  cases r.toError <;> simp

theorem Follows.sums {log : History} {r : Report} (h : Follows log r) : Sums log r where
  valid_iff := h.valid_iff_entries
  entry_ne_nil := fun _ he => (h.entry_eq he).2
  messages_eq field := by
    rw [h.messages?]
    split
    · next hnil => exact hnil.symm
    · rfl
  toError_eq_none_iff := r.toError_eq_none_iff
  toError_eq hv := ⟨_, h.isListing_lines, by rw [toError, if_neg (Bool.eq_false_iff.1 hv)]⟩
  ensureValid_ok_iff := r.ensureValid_iff.1
  ensureValid_error_iff := r.ensureValid_iff.2

/-! ## Programs -/

/-- A step of a program over reports in numbered places. What is merged or copied stays in its
place. -/
inductive Step where
  | success (place : Nat)
  | copy (place source : Nat)
  | add (place : Nat) (field message : String)
  | merge (place source : Nat)

namespace Step

def apply (reports : Nat → Report) : Step → Nat → Report
  | .success place => Function.update reports place .success
  | .copy place source => Function.update reports place (reports source)
  | .add place field message =>
    Function.update reports place ((reports place).add field message)
  | .merge place source =>
    Function.update reports place ((reports place).merge (reports source))

/-- What was said to each report, after a step. -/
def record (logs : Nat → History) : Step → Nat → History
  | .success place => Function.update logs place []
  | .copy place source => Function.update logs place (logs source)
  | .add place field message => Function.update logs place (logs place ++ [(field, message)])
  | .merge place source => Function.update logs place (logs place ++ logs source)

/-- The reports that a program makes, all of which are successes at first. -/
def run (steps : List Step) : Nat → Report := steps.foldl apply fun _ => .success

/-- What a program says to each report. -/
def history (steps : List Step) : Nat → History := steps.foldl record fun _ => []

theorem follows_apply {logs : Nat → History} {reports : Nat → Report}
    (h : ∀ place, Follows (logs place) (reports place)) (step : Step) (place : Nat) :
    Follows (step.record logs place) (step.apply reports place) := by
  have hupdate : ∀ {at_ log r}, Follows log r →
      Follows (Function.update logs at_ log place) (Function.update reports at_ r place) := by
    intro at_ log r hr
    rw [Function.update_apply, Function.update_apply]
    split
    · exact hr
    · exact h place
  cases step with
  | success at_ => exact hupdate .success
  | copy at_ source => exact hupdate (h source)
  | add at_ field message => exact hupdate ((h at_).add field message)
  | merge at_ source => exact hupdate ((h at_).merge (h source))

theorem follows_run (steps : List Step) (place : Nat) :
    Follows (history steps place) (run steps place) := by
  have hfold : ∀ (logs : Nat → History) (reports : Nat → Report),
      (∀ place, Follows (logs place) (reports place)) →
        ∀ place, Follows (steps.foldl record logs place) (steps.foldl apply reports place) := by
    induction steps with
    | nil => exact fun _ _ h => h
    | cons step steps ih => exact fun _ _ h => ih _ _ (follows_apply h step)
  exact hfold _ _ (fun _ => .success) place

end Step

theorem merge_assoc (r s t : Report) : (r.merge s).merge t = r.merge (s.merge t) := by
  have herrors : (r.errors.merge s.errors).merge t.errors =
      r.errors.merge (s.errors.merge t.errors) := by
    refine FieldErrors.ext_messages? fun field => ?_
    simp only [FieldErrors.messages?_merge]
    exact @Std.Associative.assoc _ (Option.merge (· ++ ·)) _ _ _ _
  rw [merge, merge, merge, merge, herrors, Bool.and_assoc]

theorem success_merge (r : Report) : success.merge r = r := by
  have herrors : FieldErrors.empty.merge r.errors = r.errors :=
    FieldErrors.ext_messages? fun field => by
      rw [FieldErrors.messages?_merge, FieldErrors.messages?_empty, Option.merge_none_left]
  rw [merge, success, herrors, Bool.true_and]

theorem merge_success (r : Report) : r.merge success = r := by
  rw [merge, success, Bool.and_true]
  rfl

/-- What reports mean: those that a program makes are the sums of what it says to them, and merging
is what it should be for all reports. -/
theorem faithful :
    (∀ steps place, Sums (Step.history steps place) (Step.run steps place)) ∧
    (∀ r s t : Report, (r.merge s).merge t = r.merge (s.merge t)) ∧
    (∀ r : Report, success.merge r = r ∧ r.merge success = r) ∧
    ∀ r s : Report, (r.merge s).valid = true ↔ r.valid = true ∧ s.valid = true :=
  ⟨fun steps place => (Step.follows_run steps place).sums, merge_assoc,
    fun r => ⟨success_merge r, merge_success r⟩, fun _ _ => Bool.and_eq_true_iff⟩

end Report

end SourceRegistry
