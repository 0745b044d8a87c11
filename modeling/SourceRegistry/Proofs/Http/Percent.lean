import SourceRegistry.Http.Percent

/-!
# Encoded texts without percent signs

Where every character is a byte of its own and none is a percent sign, a text stands for itself.
-/

namespace SourceRegistry

namespace Text

theorem utf8Size_of_ascii {c : Char} (h : c.toNat < 128) : c.utf8Size = 1 := by
  rw [Char.utf8Size_eq_one_iff, UInt32.le_iff_toNat_le]
  exact Nat.le_of_lt_succ h

theorem firstChar?_of_ascii {c : Char} (h : c.toNat < 128) (rest : List UInt8) :
    firstChar? (c.val.toUInt8 :: rest) = some c := by
  have hn : c.val.toUInt8.toNat = c.toNat := by
    rw [UInt32.toNat_toUInt8]
    exact Nat.mod_eq_of_lt (Nat.lt_trans h (by decide))
  have hv : c.toNat.isValidChar := c.valid
  simp only [firstChar?, hn, if_pos h, Nat.zero_le, true_and, if_pos hv, Char.ofNat_toNat]

theorem ofBytes_encode_of_ascii {cs : List Char} (h : ∀ c ∈ cs, c.toNat < 128) :
    Symbol.ofBytes (cs.flatMap String.utf8EncodeChar) = cs.map .char := by
  induction cs with
  | nil => rfl
  | cons c cs ih =>
    have hc := h c List.mem_cons_self
    have hsize := utf8Size_of_ascii hc
    rw [Symbol.ofBytes] at ih ⊢
    rw [List.flatMap_cons, String.utf8EncodeChar_eq_singleton hsize, List.singleton_append,
      Symbol.readBytes, firstChar?_of_ascii hc, List.map_cons,
      ← ih fun d hd => h d (List.mem_cons_of_mem c hd)]
    simp only [hsize, Nat.sub_self]

end Text

namespace Http.Percent

theorem bytesFrom_of_not_mem {cs : List Char} (h : '%' ∉ cs) :
    bytesFrom 0 cs = cs.flatMap String.utf8EncodeChar := by
  induction cs with
  | nil => rfl
  | cons c cs ih =>
    rw [List.mem_cons, not_or] at h
    have hc : bytesFrom 0 (c :: cs) = String.utf8EncodeChar c ++ bytesFrom 0 cs := by
      rw [bytesFrom]
      rintro a b tail rfl -
      exact h.1 rfl
    rw [hc, ih h.2, List.flatMap_cons]

theorem decode?_of_plain {s : String} (hp : '%' ∉ s.toList) (h : ∀ c ∈ s.toList, c.toNat < 128) :
    decode? s = some s := by
  rw [decode?, bytesFrom_of_not_mem hp, Text.decode?, Text.ofBytes_encode_of_ascii h]
  have hm : (s.toList.map Text.Symbol.char).mapM Text.Symbol.char? = some s.toList := by
    rw [List.mapM_map]
    exact (List.mapM_pure (f := id)).trans (congrArg _ (List.map_id _))
  rw [hm, Option.map_some, String.ofList_toList]

end Http.Percent

end SourceRegistry
