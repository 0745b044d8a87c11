import SourceRegistry.Text.Utf8

/-!
# The order of encoded texts

Texts are compared by code point, and that is the order of their bytes: the encoding of a smaller
character lies before that of a greater one at a byte that both have, whatever follows them.
-/

namespace SourceRegistry.Text

/-- Lists that differ at a place that both have, the first one being smaller there. -/
inductive Before : List UInt8 → List UInt8 → Prop
  | head {x y : UInt8} (h : x < y) (l m : List UInt8) : Before (x :: l) (y :: m)
  | tail (x : UInt8) {l m : List UInt8} (h : Before l m) : Before (x :: l) (x :: m)

theorem Before.append_lt {l m : List UInt8} (h : Before l m) (u v : List UInt8) :
    l ++ u < m ++ v := by
  induction h with
  | head h => exact List.Lex.rel h
  | tail x h ih => exact List.Lex.cons ih

/-- Bytes below 256 are ordered as the numbers are. -/
theorem ofNat_lt_ofNat {m n : Nat} (h : m < n) (hn : n < 256) : UInt8.ofNat m < UInt8.ofNat n := by
  rw [UInt8.lt_iff_toNat_lt, UInt8.toNat_ofNat', UInt8.toNat_ofNat',
    Nat.mod_eq_of_lt (Nat.lt_trans h hn), Nat.mod_eq_of_lt hn]
  exact h

/-- The first bytes decide, or they are the same and the rests decide. -/
theorem before_cons {m n : Nat} {l l' : List UInt8} (hle : m ≤ n) (hn : n < 256)
    (h : m = n → Before l l') : Before (UInt8.ofNat m :: l) (UInt8.ofNat n :: l') := by
  rcases Nat.lt_or_eq_of_le hle with hlt | rfl
  · exact .head (ofNat_lt_ofNat hlt hn) _ _
  · exact .tail _ (h rfl)

theorem before_encodeChar {c d : Char} (h : c < d) :
    Before (String.utf8EncodeChar c) (String.utf8EncodeChar d) := by
  have hlt : c.val.toNat < d.val.toNat := h
  have hmax : d.val.toNat < 0x110000 := by
    have := d.valid
    simp only [UInt32.isValidChar, Nat.isValidChar] at this
    omega
  unfold String.utf8EncodeChar
  generalize c.val.toNat = m at hlt
  generalize d.val.toNat = n at hlt hmax
  dsimp only
  -- the more bytes a character takes, the greater is the first one
  by_cases hn1 : n ≤ 0x7f
  · rw [if_pos hn1, if_pos (by omega)]
    exact before_cons (by omega) (by omega) (by omega)
  · rw [if_neg hn1]
    by_cases hn2 : n ≤ 0x7ff
    · rw [if_pos hn2]
      by_cases hm1 : m ≤ 0x7f
      · rw [if_pos hm1]
        exact before_cons (by omega) (by omega) (by omega)
      · rw [if_neg hm1, if_pos (by omega)]
        exact before_cons (by omega) (by omega) fun h1 =>
          before_cons (by omega) (by omega) (by omega)
    · rw [if_neg hn2]
      by_cases hm1 : m ≤ 0x7f
      · rw [if_pos hm1]
        split <;> exact before_cons (by omega) (by omega) (by omega)
      · rw [if_neg hm1]
        by_cases hn3 : n ≤ 0xffff
        · rw [if_pos hn3]
          by_cases hm2 : m ≤ 0x7ff
          · rw [if_pos hm2]
            exact before_cons (by omega) (by omega) (by omega)
          · rw [if_neg hm2, if_pos (by omega)]
            exact before_cons (by omega) (by omega) fun h1 =>
              before_cons (by omega) (by omega) fun h2 =>
                before_cons (by omega) (by omega) (by omega)
        · rw [if_neg hn3]
          by_cases hm2 : m ≤ 0x7ff
          · rw [if_pos hm2]
            exact before_cons (by omega) (by omega) (by omega)
          · rw [if_neg hm2]
            by_cases hm3 : m ≤ 0xffff
            · rw [if_pos hm3]
              exact before_cons (by omega) (by omega) (by omega)
            · rw [if_neg hm3]
              exact before_cons (by omega) (by omega) fun h1 =>
                before_cons (by omega) (by omega) fun h2 =>
                  before_cons (by omega) (by omega) fun h3 =>
                    before_cons (by omega) (by omega) (by omega)

theorem encodeChar_ne_nil (c : Char) : String.utf8EncodeChar c ≠ [] := by
  rw [← List.length_pos_iff, String.length_utf8EncodeChar]
  exact c.utf8Size_pos

theorem flatMap_encodeChar_lt {l m : List Char} (h : l < m) :
    l.flatMap String.utf8EncodeChar < m.flatMap String.utf8EncodeChar := by
  induction h with
  | @nil d m =>
    obtain ⟨x, u, hd⟩ := List.exists_cons_of_ne_nil (encodeChar_ne_nil d)
    rw [List.flatMap_cons, hd]
    exact List.Lex.nil
  | rel h =>
    rw [List.flatMap_cons, List.flatMap_cons]
    exact (before_encodeChar h).append_lt _ _
  | cons h ih =>
    rw [List.flatMap_cons, List.flatMap_cons]
    exact List.append_left_lt ih

/-- The order of texts is the order of their bytes. -/
theorem encode_lt_encode_iff {s t : String} : encode s < encode t ↔ s < t := by
  have hlt : ∀ {s t : String}, s < t → encode s < encode t := fun h =>
    flatMap_encodeChar_lt (String.lt_iff.1 h)
  refine ⟨fun h => Decidable.byContradiction fun hn => ?_, hlt⟩
  by_cases he : s = t
  · subst he
    exact List.lt_irrefl _ h
  · exact List.lt_asymm h (hlt (Std.lt_of_le_of_ne (String.not_lt.1 hn) (Ne.symm he)))

end SourceRegistry.Text
