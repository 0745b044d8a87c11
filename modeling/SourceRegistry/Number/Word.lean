/-!
# Words

Powers of two and ten, and the whole numbers that fit a word of some number of bits.
-/

namespace SourceRegistry

def twoPow (n : Nat) : Nat := Nat.pow 2 n

def tenPow (n : Nat) : Nat := Nat.pow 10 n

namespace Word

def fits (bits n : Nat) : Bool := n < twoPow bits

/-- Whether a number fits a word one bit of which is the sign. -/
def fitsSigned (bits : Nat) (n : Int) : Bool :=
  -(twoPow (bits - 1) : Int) ≤ n ∧ n < twoPow (bits - 1)

/-- The greatest number that fits. -/
def greatest (bits : Nat) : Nat := twoPow bits - 1

end Word

end SourceRegistry
