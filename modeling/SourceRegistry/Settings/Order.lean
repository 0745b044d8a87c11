import SourceRegistry.Settings.Tree

/-!
# Entries in any order

The entries of a table are gone through in the order of a hash map, which is another one in every
table of every run. What depends on it takes the order as a `Shuffle`.
-/

namespace SourceRegistry.Setting

/-- The same entries in another order, also inside of the tables among them. -/
inductive Shuffled : List (String × Setting) → List (String × Setting) → Prop
  | nil : Shuffled [] []
  | cons (e : String × Setting) {es fs : List (String × Setting)} (h : Shuffled es fs) :
      Shuffled (e :: es) (e :: fs)
  | swap (e f : String × Setting) (es : List (String × Setting)) :
      Shuffled (e :: f :: es) (f :: e :: es)
  | inside (name : String) (rest : List (String × Setting)) {es fs : List (String × Setting)}
      (h : Shuffled es fs) : Shuffled ((name, .table es) :: rest) ((name, .table fs) :: rest)
  | trans {es fs gs : List (String × Setting)} (h : Shuffled es fs) (h' : Shuffled fs gs) :
      Shuffled es gs

theorem Shuffled.refl (es : List (String × Setting)) : Shuffled es es := by
  induction es with
  | nil => exact .nil
  | cons e es ih => exact .cons e ih

/-- An order for the entries of any table. -/
structure Shuffle where
  apply : List (String × Setting) → List (String × Setting)
  shuffled : ∀ es, Shuffled es (apply es)

def Shuffle.asWritten : Shuffle := ⟨id, .refl⟩

end SourceRegistry.Setting
