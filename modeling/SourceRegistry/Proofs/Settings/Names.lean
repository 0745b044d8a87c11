import SourceRegistry.Proofs.Settings.Writes
import SourceRegistry.Proofs.Text.Lowercase
import SourceRegistry.Settings.Environment

/-!
# Names in lower case

What the sources come to is taken over once more, and then the names on the way of a path are in
lower case too. A path is steady if that changes nothing; the paths of variables always are.
-/

namespace SourceRegistry.Setting

variable {name : String} {path : List Step}

def Step.Lower : Step → Prop
  | .key name => Text.lower name = name
  | .index _ => True

instance : DecidablePred Step.Lower
  | .key name => inferInstanceAs (Decidable (Text.lower name = name))
  | .index _ => isTrue trivial

/-- A name that stands for itself and not for a path. -/
def Alone (name : String) : Prop := pathOf name = [.key name]

instance : DecidablePred Alone := fun name => inferInstanceAs (Decidable (pathOf name = _))

/-- A path with its names in lower case up to the last one. -/
def Steady (path : List Step) : Prop :=
  match path with
  | [.key name] => Alone (Text.lower name)
  | path => ∀ step ∈ path.dropLast, step.Lower

instance : DecidablePred Steady
  | [.key name] => inferInstanceAs (Decidable (Alone (Text.lower name)))
  | [] | .index _ :: _ | .key _ :: _ :: _ =>
    inferInstanceAs (Decidable (∀ step ∈ List.dropLast _, Step.Lower step))

theorem alone_of_isNameChar {cs : List Char} (hne : cs ≠ []) (h : ∀ c ∈ cs, isNameChar c) :
    Alone (String.ofList cs) := by
  have htake : cs.takeWhile isNameChar = cs := by
    rw [List.takeWhile_eq_self_iff]
    exact h
  have hsteps : stepsOf? cs.length [] = some [] := by rw [stepsOf?]
  unfold Alone pathOf
  rw [String.toList_ofList]
  dsimp only
  rw [htake, if_neg (by simpa using hne), List.drop_length, hsteps]

/-- What a name stands for starts with a name that stands for itself, or is that very name. -/
theorem pathOf_cases (name : String) :
    Alone name ∨ ∃ first rest, pathOf name = .key first :: rest ∧ Alone first := by
  by_cases hfirst : (name.toList.takeWhile isNameChar).isEmpty
  · exact .inl (by rw [Alone, pathOf, if_pos hfirst])
  · cases hsteps : stepsOf? name.toList.length
      (name.toList.drop (name.toList.takeWhile isNameChar).length) with
    | none => exact .inl (by simp only [Alone, pathOf, if_neg hfirst, hsteps])
    | some steps =>
      refine .inr ⟨String.ofList (name.toList.takeWhile isNameChar), steps, ?_, ?_⟩
      · simp only [pathOf, if_neg hfirst, hsteps]
      · exact alone_of_isNameChar (by simpa using hfirst) fun c => List.mem_takeWhile_imp

theorem mem_of_stepsOf? {fuel : Nat} {cs : List Char} {steps : List Step}
    (h : stepsOf? fuel cs = some steps) (hmem : .key name ∈ steps) :
    ∀ c ∈ name.toList, c ∈ cs := by
  fun_induction stepsOf? fuel cs generalizing steps with
  | case1 =>
    cases h
    cases hmem
  | case4 =>
    rename_i cs _ _ ih
    obtain ⟨rest, hrest, rfl⟩ := Option.map_eq_some_iff.1 h
    intro c hc
    refine List.mem_cons_of_mem _ ?_
    rcases List.mem_cons.1 hmem with hfirst | hmem
    · rw [Step.key.inj hfirst, String.toList_ofList] at hc
      exact (List.takeWhile_prefix _).subset hc
    · exact List.mem_of_mem_drop (ih hrest hmem c hc)
  | case5 fuel cs _ rest hclose ih =>
    obtain ⟨i, -, h⟩ := Option.bind_eq_some_iff.1 h
    obtain ⟨steps, hsteps, ⟨⟩⟩ := Option.bind_eq_some_iff.1 h
    intro c hc
    have hmem : .key name ∈ steps := by simpa using hmem
    have hrest : c ∈ cs.dropWhile (· ≠ ']') := hclose ▸ List.mem_cons_of_mem _ (ih hsteps hmem c hc)
    exact List.mem_cons_of_mem _ ((List.dropWhile_suffix _).subset hrest)
  | _ => cases h

theorem mem_of_pathOf {first : String} (h : .key first ∈ pathOf name) :
    ∀ c ∈ first.toList, c ∈ name.toList := by
  rw [pathOf] at h
  split at h
  · simp_all
  · split at h
    · next steps hsteps =>
      intro c hc
      rcases List.mem_cons.1 h with hfirst | h
      · rw [Step.key.inj hfirst, String.toList_ofList] at hc
        exact (List.takeWhile_prefix _).subset hc
      · exact List.mem_of_mem_drop (mem_of_stepsOf? hsteps h c hc)
    · simp_all

theorem lower_of_pathOf (h : ∀ c ∈ name.toList, Text.isUncased c) :
    ∀ step ∈ pathOf name, step.Lower := by
  intro step hstep
  cases step with
  | key first => exact Text.lower_of_uncased fun c hc => h c (mem_of_pathOf hstep c hc)
  | index i => trivial

theorem steady_pathOf (h : ∀ c ∈ name.toList, Text.isUncased c) : Steady (pathOf name) := by
  have hlower := lower_of_pathOf h
  unfold Steady
  split
  · next first hpath =>
    have hfirst : Text.lower first = first := hlower (.key first) (by rw [hpath]; exact .head _)
    rw [hfirst]
    rcases pathOf_cases name with halone | ⟨_, _, hfound, halone⟩
    · cases halone.symm.trans hpath
      exact halone
    · cases hfound.symm.trans hpath
      exact halone
  · exact fun step hstep => hlower step ((List.dropLast_prefix _).subset hstep)

end SourceRegistry.Setting

namespace SourceRegistry.Environment

open Setting (Steady pathOf)

theorem mem_pointed {cs : List Char} {c : Char} (h : c ∈ pointed cs) : c = '.' ∨ c ∈ cs := by
  fun_induction pointed cs with
  | case1 cs ih =>
    rcases List.mem_cons.1 h with rfl | h
    · exact .inl rfl
    · exact (ih h).imp_right fun h => List.mem_cons_of_mem _ (List.mem_cons_of_mem _ h)
  | case2 _ cs _ ih =>
    rcases List.mem_cons.1 h with rfl | h
    · exact .inr (.head _)
    · exact (ih h).imp_right (List.mem_cons_of_mem _)
  | case3 => cases h

theorem isUncased_settingName? {var name : String} (h : settingName? var = some name) :
    ∀ c ∈ name.toList, Text.isUncased c := by
  rw [settingName?] at h
  split at h
  · cases h
    intro c hc
    rw [String.toList_ofList] at hc
    rcases mem_pointed hc with rfl | hc
    · decide +kernel
    · have hlower := List.mem_of_mem_drop hc
      rw [Text.toList_lower] at hlower
      exact Text.isUncased_of_mem_lowerChars hlower
  · cases h

theorem steady_add {es : List (String × Setting)} (h : ∀ e ∈ es, Steady (pathOf e.1))
    (var : String × String) : ∀ e ∈ add es var, Steady (pathOf e.1) := by
  intro e he
  unfold add at he
  split at he
  · next name hname =>
    rcases Members.name_mem_alter he with heq | ⟨v, hv⟩
    · rw [heq]
      exact Setting.steady_pathOf (isUncased_settingName? hname)
    · exact h (e.1, v) hv
  · exact h e he

/-- The paths of variables are steady. -/
theorem steady_settings (vars : List (String × String)) :
    ∀ e ∈ settings vars, Steady (pathOf e.1) := by
  unfold settings
  induction vars using List.reverseRecOn with
  | nil => exact List.forall_mem_nil _
  | append_singleton vars var ih =>
    rw [List.foldl_append]
    exact steady_add ih var

end SourceRegistry.Environment
