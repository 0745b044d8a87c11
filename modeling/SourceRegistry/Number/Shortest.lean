import SourceRegistry.Number.Binary64

/-!
# Shortest decimals

Every decimal that lies closer to a binary number than to its neighbours reads back as that
number. `shortest` is the one of them with the fewest digits; of several, the nearest, and of
two equally near the even one.
-/

namespace SourceRegistry

/-- The number `digits · 10 ^ exponent`. -/
structure Decimal where
  digits : Nat
  exponent : Int
  deriving DecidableEq, Repr

namespace Decimal

/-- The digits of a number without the zeros at its end, and how many there were; `fuel` bounds
the zeros. -/
def dropZeros : Nat → Nat → Nat → Nat × Nat
  | 0, n, dropped => (n, dropped)
  | fuel + 1, n, dropped =>
    if n ≠ 0 ∧ n % 10 = 0 then dropZeros fuel (n / 10) (dropped + 1) else (n, dropped)

def normalize (d : Decimal) : Decimal :=
  let (n, dropped) := dropZeros 20 d.digits 0
  ⟨n, d.exponent + dropped⟩

/-- The exponent of the leading digit. -/
def magnitude (d : Decimal) : Int := d.exponent + (Nat.toDigits 10 d.digits).length - 1

end Decimal

/-- The reals between `low / unit` and `high / unit` read back as `value / unit`; the ends do if
`closed`. -/
structure RoundingInterval where
  low : Nat
  value : Nat
  high : Nat
  unit : Nat
  closed : Bool
  deriving DecidableEq, Repr

namespace RoundingInterval

def ofBinary64 (x : Binary64) : RoundingInterval :=
  let m := x.significand
  let below := if x.isLowestOfBinade then 1 else 2
  let (scale, unit) : Nat × Nat :=
    match x.exponent - 2 with
    | .ofNat e => (twoPow e, 1)
    | .negSucc e => (1, twoPow (e + 1))
  ⟨(4 * m - below) * scale, 4 * m * scale, (4 * m + 2) * scale, unit, m % 2 = 0⟩

/-- Whether the number `n / unit` reads back. -/
def contains (i : RoundingInterval) (n : Nat) : Bool :=
  if i.closed then i.low ≤ n ∧ n ≤ i.high else i.low < n ∧ n < i.high

/-- The best multiple of `10 ^ e` among the two around the value, if one reads back. -/
def candidate? (i : RoundingInterval) (e : Int) : Option Decimal :=
  let (step, scale) : Nat × Nat :=
    match e with
    | .ofNat k => (tenPow k * i.unit, 1)
    | .negSucc k => (i.unit, tenPow (k + 1))
  let i : RoundingInterval :=
    ⟨i.low * scale, i.value * scale, i.high * scale, i.unit, i.closed⟩
  let floor := i.value / step
  let below := i.contains (floor * step) && floor != 0
  let above := i.contains ((floor + 1) * step)
  let remainder := i.value - floor * step
  if below && above then
    if 2 * remainder < step ∨ (2 * remainder = step ∧ floor % 2 = 0) then some ⟨floor, e⟩
    else some ⟨floor + 1, e⟩
  else if below then some ⟨floor, e⟩
  else if above then some ⟨floor + 1, e⟩
  else none

/-- The exponent of the leading digit of `value / unit`. -/
def magnitude (i : RoundingInterval) : Int :=
  if i.unit ≤ i.value then (Nat.toDigits 10 (i.value / i.unit)).length - 1
  else
    let shift := (Nat.toDigits 10 (i.unit / i.value)).length
    if i.unit ≤ i.value * tenPow (shift - 1) then -((shift - 1 : Nat) : Int) else -(shift : Int)

/-- The coarsest of the grids with the leading exponents `e`, `e - 1`, … that has a candidate. -/
def search (i : RoundingInterval) : Nat → Int → Decimal
  | 0, e => ⟨i.value / i.unit, e⟩
  | fuel + 1, e => (i.candidate? e).getD (search i fuel (e - 1))

end RoundingInterval

/-- The shortest decimal of the magnitude of a finite number other than zero. -/
def Binary64.shortest (x : Binary64) : Decimal :=
  let i := RoundingInterval.ofBinary64 x
  (i.search 18 i.magnitude).normalize

/-- How decimals are written: up to which leading exponents without an exponent part, and
whether whole numbers keep a fraction of one zero. -/
structure DecimalStyle where
  least : Option Int
  greatest : Option Int
  wholeFraction : Bool
  deriving DecidableEq, Repr

namespace DecimalStyle

def zeros (n : Int) : List Char := List.replicate n.toNat '0'

/-- All digits around the point. -/
def positional (style : DecimalStyle) (d : Decimal) : List Char :=
  let ds := Nat.toDigits 10 d.digits
  let whole : Int := ds.length + d.exponent
  if 0 ≤ d.exponent then
    ds ++ zeros d.exponent ++ if style.wholeFraction then ['.', '0'] else []
  else if 0 < whole then ds.take whole.toNat ++ '.' :: ds.drop whole.toNat
  else '0' :: '.' :: zeros (-whole) ++ ds

/-- One digit before the point and an exponent with its sign. -/
def scientific (d : Decimal) : List Char :=
  let e := d.magnitude
  let tail := (if 0 ≤ e then '+' else '-') :: Nat.toDigits 10 e.natAbs
  match Nat.toDigits 10 d.digits with
  | [] => []
  | [c] => c :: 'e' :: tail
  | c :: rest => c :: '.' :: rest ++ 'e' :: tail

def magnitudeText (style : DecimalStyle) (x : Binary64) : List Char :=
  if x.isZero then style.positional ⟨0, 0⟩
  else
    let d := x.shortest
    let e := d.magnitude
    if style.least.all (· ≤ e) && style.greatest.all (e ≤ ·) then style.positional d
    else scientific d

/-- The text of a finite number. -/
def write (style : DecimalStyle) (x : Binary64) : String :=
  String.ofList ((if x.isNegative then ['-'] else []) ++ style.magnitudeText x)

end DecimalStyle

end SourceRegistry
