import SourceRegistry.Number.Word

/-!
# Binary numbers of sixty-four bits

A `Binary64` is its bit pattern, so two numbers are equal when they are the same pattern: zero
and negative zero differ. A finite one stands for `± significand · 2 ^ exponent`.
-/

namespace SourceRegistry

structure Binary64 where
  bits : UInt64
  deriving DecidableEq, Repr

namespace Binary64

def ofFloat (x : Float) : Binary64 := ⟨x.toBits⟩

def isNegative (x : Binary64) : Bool := x.bits.toNat / twoPow 63 = 1

def biasedExponent (x : Binary64) : Nat := x.bits.toNat / twoPow 52 % twoPow 11

def fraction (x : Binary64) : Nat := x.bits.toNat % twoPow 52

def isFinite (x : Binary64) : Bool := x.biasedExponent < 2047

def isNaN (x : Binary64) : Bool := x.biasedExponent = 2047 ∧ x.fraction ≠ 0

def isZero (x : Binary64) : Bool := x.biasedExponent = 0 ∧ x.fraction = 0

def significand (x : Binary64) : Nat :=
  if x.biasedExponent = 0 then x.fraction else twoPow 52 + x.fraction

def exponent (x : Binary64) : Int := (max x.biasedExponent 1 : Nat) - 1075

/-- Whether the number below lies half as far away as the one above. -/
def isLowestOfBinade (x : Binary64) : Bool := x.fraction = 0 ∧ 1 < x.biasedExponent

/-- The nearest number, halves to even. -/
def ofInt (n : Int) : Binary64 := ofFloat (Float.ofInt n)

/-- The whole number nearest to a finite number, halves away from zero. -/
def round (x : Binary64) : Int :=
  let magnitude : Nat :=
    match x.exponent with
    | .ofNat e => x.significand * twoPow e
    | .negSucc e => (x.significand + twoPow e) / twoPow (e + 1)
  if x.isNegative then -(magnitude : Int) else magnitude

end Binary64

end SourceRegistry
