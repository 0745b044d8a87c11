import SourceRegistry.Proofs.Service.Memory
import SourceRegistry.Proofs.Service.Rules
import SourceRegistry.Proofs.Text.Lowercase

/-!
# Names

A name is normalized by taking the white space around it away, and compared in lower case. Of the
data sources that a construction makes the names are normalized already, so comparing them is an
equivalence, and a name is the same as itself in lower case. While a data source is stored, nothing
of its name in lower case can be created in its workspace (`run_create_lower`); only the length of
the name can be in the way first, because lower-casing can make a text longer.
-/

namespace SourceRegistry

theorem normalizeName_eq_ok_iff {name n : String} : normalizeName name = .ok n ↔
    (1 ≤ (Text.trim name).length ∧ (Text.trim name).length ≤ 100) ∧ Text.trim name = n := by
  rw [normalizeName_eq]
  split
  · next h => rw [Except.ok.injEq, and_iff_right h]
  · next h => exact iff_of_false nofun (h ·.1)

/-- What is normalized stays as it is. -/
theorem normalizeName_of_eq_ok {name n : String} (h : normalizeName name = .ok n) :
    normalizeName n = .ok n := by
  obtain ⟨hlen, rfl⟩ := normalizeName_eq_ok_iff.1 h
  rw [normalizeName_eq_ok_iff, Text.trim_trim]
  exact ⟨hlen, rfl⟩

namespace DataSource

/-- A data source that a construction has made of some draft. -/
def Made (d : DataSource) : Prop := ∃ w draft stamp, ofDraft w draft stamp = .ok d

theorem made_source {draft : Draft} (h : draft.Acceptable) (w : WorkspaceId) (stamp : Stamp) :
    (draft.source w stamp).Made :=
  ⟨w, draft, stamp, Draft.ofDraft_eq h w stamp⟩

theorem made_of_prepare {ctx : Context} {stamp : Stamp} {draft : Draft} {d : DataSource}
    (h : Service.prepare ctx stamp draft = .ok d) : d.Made := by
  rw [Service.prepare_eq] at h
  split at h
  · next ha => exact Except.ok.inj h ▸ made_source ha ctx.workspace stamp
  · cases h

theorem Made.trim_name {d : DataSource} (h : d.Made) : Text.trim d.name = d.name := by
  obtain ⟨w, draft, stamp, hd⟩ := h
  obtain ⟨-, rfl⟩ := draft.of_ofDraft hd
  exact Text.trim_trim draft.name

theorem Made.length_name_pos {d : DataSource} (h : d.Made) : 0 < d.name.length := by
  obtain ⟨w, draft, stamp, hd⟩ := h
  obtain ⟨ha, rfl⟩ := draft.of_ofDraft hd
  exact ha.name.1

theorem hasName_iff {d : DataSource} {name : String} :
    d.hasName name ↔ Text.lower d.name = Text.lower (Text.trim name) :=
  decide_eq_true_iff

theorem hasName_padded (d : DataSource) (name : String) {before after : String}
    (hb : ∀ c ∈ before.toList, Text.isSpace c = true)
    (ha : ∀ c ∈ after.toList, Text.isSpace c = true) :
    d.hasName (before ++ name ++ after) = d.hasName name := by
  rw [hasName, hasName, Text.trim_padded hb ha]

theorem Made.hasName_iff {d e : DataSource} (he : e.Made) :
    d.hasName e.name ↔ Text.lower d.name = Text.lower e.name := by
  rw [DataSource.hasName_iff, he.trim_name]

theorem Made.hasName_lower {d : DataSource} (h : d.Made) : d.hasName (Text.lower d.name) := by
  rw [DataSource.hasName_iff, Text.trim_lower h.trim_name, Text.lower_lower]

theorem equivalence_hasName :
    Equivalence fun d e : { d : DataSource // d.Made } => d.1.hasName e.1.name := by
  constructor
  case refl => exact fun d => d.2.hasName_iff.2 rfl
  case symm =>
    intro d e h
    rw [d.2.hasName_iff]
    exact (e.2.hasName_iff.1 h).symm
  case trans =>
    intro d e f hde hef
    rw [f.2.hasName_iff]
    exact (e.2.hasName_iff.1 hde).trans (f.2.hasName_iff.1 hef)

end DataSource

namespace Service

variable (ctx : Context) (stamp : Stamp) {s : Store}

/-- The use cases store nothing but what a construction has made. -/
theorem made_run (op : Operation) (h : ∀ d ∈ s, d.Made) :
    ∀ d ∈ ((program ctx stamp op).run.run .memory s).2.1, d.Made := by
  cases op with
  | list =>
    rw [run_list]
    exact h
  | find id =>
    rw [run_find]
    exact h
  | delete id =>
    rw [run_delete]
    split
    · exact fun d hd => h d (List.mem_of_mem_filter hd)
    · exact h
  | create draft =>
    rw [run_create]
    dsimp only
    split
    · exact h
    · next ha =>
      split
      · exact h
      · split
        · exact h
        · intro d hd
          rcases List.mem_append.1 hd with hd | hd
          · exact h d hd
          · rw [List.mem_singleton.1 hd]
            exact DataSource.made_source (not_not.1 ha) _ stamp

/-- The failure of creating what has the name of a stored data source in lower case. -/
def lowerFailure (name : String) : ServiceError :=
  if (Text.lower name).length ≤ 100 then taken (Text.lower name)
  else ⟨.validationFailed, "name: must be at most 100 characters"⟩

/-- All that is wrong with the draft is its name. -/
theorem rejection_of_long_name {draft : Draft} (hn : 100 < (Text.trim draft.name).length)
    (hp : draft.Keeps .pluginSrc) (hd : draft.Keeps .data) :
    draft.rejection = ⟨.validationFailed, "name: must be at most 100 characters"⟩ := by
  have hne : (Text.trim draft.name).length ≠ 0 := by omega
  rw [Draft.rejection, Draft.faults, if_pos (show _ ∨ _ from hd), textFaults_eq_nil_iff.2 hp,
    textFaults, if_neg hne, if_pos hn]
  rfl

theorem run_create_lower (hs : ∀ d ∈ s, d.Made) {e : DataSource} (he : e ∈ s)
    (hw : ctx.workspace = e.workspace) {draft : Draft}
    (hname : Text.trim draft.name = Text.lower e.name) (hp : draft.Keeps .pluginSrc)
    (hd : draft.Keeps .data) :
    (program ctx stamp (.create draft)).run.run .memory s =
      (.error (lowerFailure e.name), s, []) := by
  have hpos : 1 ≤ (Text.lower e.name).length :=
    (hs e he).length_name_pos.trans_le (Text.length_le_lower e.name)
  rw [run_create, lowerFailure]
  by_cases hlen : (Text.lower e.name).length ≤ 100
  · have ha : draft.Acceptable :=
      Draft.acceptable_iff.2 ⟨by rw [hname]; exact ⟨hpos, hlen⟩, hp, hd⟩
    have hsame : ∃ d ∈ s, d.Namesakes (draft.source ctx.workspace stamp) := by
      refine ⟨e, he, hw.symm, ?_⟩
      rw [Draft.source, hname, Text.lower_lower]
    rw [if_neg (not_not_intro ha), if_pos hsame, if_pos hlen, Draft.source, hname]
  · have ha : ¬ draft.Acceptable := fun ha => hlen (hname ▸ ha.name.2)
    rw [if_pos ha, if_neg hlen, rejection_of_long_name (by rw [hname]; omega) hp hd]

end Service

end SourceRegistry
