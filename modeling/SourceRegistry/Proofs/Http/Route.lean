import Mathlib.Data.List.TakeWhile
import SourceRegistry.Http.Route
import SourceRegistry.Proofs.Text.Split

/-!
# Which paths make routes, and what routes match

A path makes a route unless it has an asterisk, a segment with a nameless or a second parameter,
or too many parameters (`isSome_ofPath?_iff`). A route matches the path that it was made from, and
no path with another number of segments.
-/

namespace SourceRegistry.Http

open Text (splitChars)

namespace Segment

/-- A text that can stand as one segment of a route: at most one colon, and a name behind it. -/
def Writable (cs : List Char) : Prop := cs.count ':' ≤ 1 ∧ cs.getLast? ≠ some ':'

instance (cs : List Char) : Decidable (Writable cs) := inferInstanceAs (Decidable (_ ∧ _))

theorem ofChars?_of_not_mem {cs : List Char} (h : ':' ∉ cs) : ofChars? cs = some ⟨cs, none⟩ := by
  have ht : cs.takeWhile (· ≠ ':') = cs :=
    List.takeWhile_eq_self_iff.2 fun c hc => by simpa using ne_of_mem_of_not_mem hc h
  simp only [ofChars?, ht, List.drop_length]

theorem ofChars?_append_cons {l : List Char} (h : ':' ∉ l) (name : List Char) :
    ofChars? (l ++ ':' :: name) =
      if name = [] ∨ ':' ∈ name then none else some ⟨l, some (String.ofList name)⟩ := by
  have ht : (l ++ ':' :: name).takeWhile (· ≠ ':') = l := by
    rw [List.takeWhile_append_of_pos fun c hc => by simpa using ne_of_mem_of_not_mem hc h]
    simp
  simp only [ofChars?, ht, List.drop_left]

theorem isSome_ofChars?_iff {cs : List Char} : (ofChars? cs).isSome ↔ Writable cs := by
  by_cases h : ':' ∈ cs
  · obtain ⟨l, name, rfl, hl⟩ := List.eq_append_cons_of_mem h
    have hcount : (l ++ ':' :: name).count ':' = name.count ':' + 1 := by
      simp [List.count_eq_zero.2 hl]
    have hlast : (l ++ ':' :: name).getLast? = some ':' ↔ name = [] ∨ name.getLast? = some ':' := by
      cases name with
      | nil => simp
      | cons c name => simp
    have hmem : name.getLast? = some ':' → ':' ∈ name := List.mem_of_getLast?
    rw [ofChars?_append_cons hl, Writable, hcount, Ne, hlast]
    by_cases hn : name = [] ∨ ':' ∈ name
    · rw [if_pos hn]
      refine iff_of_false (by simp) fun hw => ?_
      rcases hn with rfl | hn
      · exact hw.2 (.inl rfl)
      · have := List.count_pos_iff.2 hn
        omega
    · rw [if_neg hn]
      rw [not_or] at hn
      refine iff_of_true rfl ⟨by simp [List.count_eq_zero.2 hn.2], ?_⟩
      rintro (hnil | hc)
      · exact hn.1 hnil
      · exact hn.2 (hmem hc)
  · have hlast : cs.getLast? ≠ some ':' := fun hc => h (List.mem_of_getLast? hc)
    simp [ofChars?_of_not_mem h, Writable, List.count_eq_zero.2 h, hlast]

/-- A segment has a parameter for the colon that it was made from. -/
theorem isSome_parameter_iff {cs : List Char} {s : Segment} (h : ofChars? cs = some s) :
    s.parameter.isSome ↔ ':' ∈ cs := by
  by_cases hc : ':' ∈ cs
  · obtain ⟨l, name, rfl, hl⟩ := List.eq_append_cons_of_mem hc
    rw [ofChars?_append_cons hl] at h
    split at h
    · cases h
    · cases h
      simp
  · rw [ofChars?_of_not_mem hc] at h
    cases h
    simpa using hc

/-- A segment matches the text that it was made from, wherever it stands. -/
theorem isSome_match? {cs : List Char} {s : Segment} (h : ofChars? cs = some s) (isLast : Bool) :
    (s.match? isLast cs).isSome := by
  by_cases hc : ':' ∈ cs
  · obtain ⟨l, name, rfl, hl⟩ := List.eq_append_cons_of_mem hc
    rw [ofChars?_append_cons hl] at h
    split at h
    · cases h
    · cases h
      simp [match?]
  · rw [ofChars?_of_not_mem hc] at h
    cases h
    simp [match?]

end Segment

namespace Route

theorem length_of_matchSegments? {r : Route} {ps : List (List Char)}
    {values : List (String × String)} (h : r.matchSegments? ps = some values) :
    ps.length = r.length := by
  induction r generalizing ps values with
  | nil =>
    cases ps with
    | nil => rfl
    | cons p ps => cases h
  | cons s r ih =>
    cases ps with
    | nil => cases h
    | cons p ps =>
      simp only [matchSegments?, bind, Option.bind_eq_some_iff] at h
      obtain ⟨-, -, rest, hrest, -⟩ := h
      rw [List.length_cons, List.length_cons, ih hrest]

/-- A route without parameters matches its own segments only. -/
theorem matchSegments?_literals (ls ps : List (List Char)) :
    matchSegments? (ls.map (⟨·, none⟩)) ps = if ps = ls then some [] else none := by
  induction ls generalizing ps with
  | nil => cases ps <;> rfl
  | cons l ls ih =>
    cases ps with
    | nil => rfl
    | cons p ps =>
      simp only [List.map_cons, matchSegments?, ih, Segment.match?, List.cons.injEq]
      by_cases hp : p = l
      · by_cases hps : ps = ls
        · simp [hp, hps]
        · simp [hp, hps]
      · simp [hp]

/-- Behind literal segments a last parameter takes one more segment that is not empty. -/
theorem matchSegments?_parameter_iff {ls ps : List (List Char)} {name : String}
    {values : List (String × String)} :
    matchSegments? (ls.map (⟨·, none⟩) ++ [⟨[], some name⟩]) ps = some values ↔
      ∃ v, v ≠ [] ∧ ps = ls ++ [v] ∧ values = [(name, String.ofList v)] := by
  induction ls generalizing ps with
  | nil =>
    cases ps with
    | nil => simp [matchSegments?]
    | cons p ps =>
      cases ps with
      | nil =>
        have hv : some [(name, String.ofList p)] = some values ↔
            values = [(name, String.ofList p)] := by
          rw [Option.some_inj, eq_comm]
        by_cases hp : p = []
        · rw [hp]
          refine iff_of_false (by simp [matchSegments?, Segment.match?]) ?_
          rintro ⟨v, hne, hpv, -⟩
          exact hne (List.cons.inj hpv).1.symm
        · simp only [List.map_nil, List.nil_append, matchSegments?, Segment.match?, bind,
            Option.bind, List.take_zero, List.length_nil, if_true, List.isEmpty_nil, Bool.true_and,
            List.drop_zero, List.isEmpty_eq_false_iff.2 hp, Bool.false_eq_true, if_false,
            List.append_nil, hv]
          constructor
          · rintro rfl
            exact ⟨p, hp, rfl, rfl⟩
          · rintro ⟨v, -, hpv, rfl⟩
            rw [(List.cons.inj hpv).1]
      | cons q ps => simp [matchSegments?]
  | cons l ls ih =>
    cases ps with
    | nil => simp [matchSegments?]
    | cons p ps =>
      by_cases hp : p = l
      · simp [matchSegments?, Segment.match?, hp, ih]
      · simp [matchSegments?, Segment.match?, hp]

theorem mapM_cons_eq_some_iff {α β : Type} {f : α → Option β} {x : α} {xs : List α} {l : List β} :
    (x :: xs).mapM f = some l ↔ ∃ y ys, f x = some y ∧ xs.mapM f = some ys ∧ l = y :: ys := by
  simp only [List.mapM_cons, bind, pure, Option.bind_eq_some_iff, Option.some_inj]
  constructor
  · rintro ⟨y, hy, ys, hys, rfl⟩
    exact ⟨y, ys, hy, hys, rfl⟩
  · rintro ⟨y, ys, hy, hys, rfl⟩
    exact ⟨y, hy, ys, hys, rfl⟩

/-- What the segments of a route made from pieces have in common with the pieces. -/
theorem of_mapM_ofChars? {ps : List (List Char)} {r : Route}
    (h : ps.mapM Segment.ofChars? = some r) :
    (∀ p ∈ ps, Segment.Writable p) ∧ parameterCount r = (ps.map (List.count ':')).sum ∧
      (matchSegments? r ps).isSome := by
  induction ps generalizing r with
  | nil =>
    cases h
    simp [parameterCount, matchSegments?]
  | cons p ps ih =>
    obtain ⟨s, r, hs, hr, rfl⟩ := mapM_cons_eq_some_iff.1 h
    obtain ⟨hw, hcount, hmatch⟩ := ih hr
    have hp : Segment.Writable p := Segment.isSome_ofChars?_iff.1 (by rw [hs]; rfl)
    refine ⟨?_, ?_, ?_⟩
    · simpa using ⟨hp, hw⟩
    · have hle := hp.1
      have hpos : s.parameter.isSome ↔ 0 < p.count ':' :=
        (Segment.isSome_parameter_iff hs).trans List.count_pos_iff.symm
      rw [parameterCount] at hcount ⊢
      rw [List.countP_cons, hcount, List.map_cons, List.sum_cons]
      split
      · have := hpos.1 ‹_›
        omega
      · have := mt hpos.2 ‹_›
        omega
    · obtain ⟨here, hhere⟩ := Option.isSome_iff_exists.1 (Segment.isSome_match? hs ps.isEmpty)
      obtain ⟨rest, hrest⟩ := Option.isSome_iff_exists.1 hmatch
      simp [matchSegments?, hhere, hrest]

theorem isSome_mapM_ofChars? {ps : List (List Char)} (h : ∀ p ∈ ps, Segment.Writable p) :
    (ps.mapM Segment.ofChars?).isSome := by
  induction ps with
  | nil => rfl
  | cons p ps ih =>
    obtain ⟨s, hs⟩ := Option.isSome_iff_exists.1 (Segment.isSome_ofChars?_iff.2 (h p (by simp)))
    obtain ⟨r, hr⟩ := Option.isSome_iff_exists.1 (ih fun q hq => h q (List.mem_cons_of_mem _ hq))
    simp [List.mapM_cons, hs, hr]

/-- A path whose segments can be written, with no asterisk and at most `most` parameters. -/
structure Writable (path : List Char) (most : Nat) : Prop where
  noAsterisk : '*' ∉ path
  segments : ∀ p ∈ splitChars '/' path, Segment.Writable p
  parameters : path.count ':' ≤ most

theorem isSome_ofPath?_iff {path : String} :
    (ofPath? path).isSome ↔ Writable path.toList maxParameters := by
  have hcount := Text.count_splitChars (c := '/') (d := ':') (by decide) path.toList
  rw [ofPath?]
  by_cases hs : '*' ∈ path.toList
  · rw [if_pos hs]
    exact iff_of_false (by simp) fun h => h.noAsterisk hs
  · rw [if_neg hs]
    cases hr : (splitChars '/' path.toList).mapM Segment.ofChars? with
    | none =>
      refine iff_of_false (by simp) fun h => ?_
      have := isSome_mapM_ofChars? h.segments
      rw [hr] at this
      cases this
    | some r =>
      obtain ⟨hw, hparam, -⟩ := of_mapM_ofChars? hr
      rw [hcount] at hparam
      by_cases hle : parameterCount r ≤ maxParameters
      · simp only [bind, Option.bind, if_pos hle]
        exact iff_of_true rfl ⟨hs, hw, hparam ▸ hle⟩
      · simp only [bind, Option.bind, if_neg hle]
        exact iff_of_false (by simp) fun h => hle (hparam ▸ h.parameters)

/-- A route matches the path that it was made from. -/
theorem isSome_match?_of_ofPath? {path : String} {r : Route} (h : ofPath? path = some r) :
    (r.match? path).isSome := by
  have hs : '*' ∉ path.toList := (isSome_ofPath?_iff.1 (by rw [h]; rfl)).noAsterisk
  rw [ofPath?, if_neg hs] at h
  simp only [bind, Option.bind_eq_some_iff] at h
  obtain ⟨r', hr, h⟩ := h
  obtain ⟨-, h⟩ := Option.ite_none_right_eq_some.1 h
  cases h
  exact (of_mapM_ofChars? hr).2.2

/-- A route matches paths with as many slashes as the one that it was made from. -/
theorem count_slash_of_match? {path p : String} {r : Route} {values : List (String × String)}
    (hr : ofPath? path = some r) (hm : r.match? p = some values) :
    p.toList.count '/' = path.toList.count '/' := by
  obtain ⟨own, hown⟩ := Option.isSome_iff_exists.1 (isSome_match?_of_ofPath? hr)
  have h₁ := length_of_matchSegments? hm
  have h₂ := length_of_matchSegments? hown
  rw [Text.length_splitChars] at h₁ h₂
  omega

/-- Segments that can be written may stand behind a path. -/
theorem writable_append_iff (path : List Char) {rest : List Char} (most : Nat) (hr : '*' ∉ rest)
    (hw : ∀ p ∈ splitChars '/' rest, Segment.Writable p) :
    Writable (path ++ '/' :: rest) (most + rest.count ':') ↔ Writable path most := by
  have hmem : '*' ∈ path ++ '/' :: rest ↔ '*' ∈ path := by simp [hr]
  have hcount : (path ++ '/' :: rest).count ':' = path.count ':' + rest.count ':' := by
    simp
  have hsplit := Text.splitChars_append_cons '/' path rest
  constructor
  · intro h
    refine ⟨fun hp => h.noAsterisk (hmem.2 hp), fun p hp => h.segments p ?_, ?_⟩
    · rw [hsplit]
      exact List.mem_append_left _ hp
    · have := h.parameters
      omega
  · intro h
    refine ⟨fun hp => h.noAsterisk (hmem.1 hp), fun p hp => ?_, ?_⟩
    · rw [hsplit] at hp
      rcases List.mem_append.1 hp with hp | hp
      · exact h.segments p hp
      · exact hw p hp
    · have := h.parameters
      omega

end Route

end SourceRegistry.Http
