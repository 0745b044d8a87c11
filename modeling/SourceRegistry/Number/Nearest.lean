import SourceRegistry.Number.Shortest

/-!
# Nearest binary numbers

`Binary64.nearest` rounds a decimal to the binary number next to it, in exact arithmetic; of two
that are equally near the even one is taken. `Binary64.ofText?` reads a numeral with it.
-/

namespace SourceRegistry.Binary64

/-- The bit pattern of infinity. -/
def infinityBits : Nat := 0x7FF0000000000000

def infinity : Binary64 := ⟨UInt64.ofNat infinityBits⟩

def nan : Binary64 := ⟨0x7FF8000000000000⟩

def negate (x : Binary64) : Binary64 := ⟨x.bits ^^^ 0x8000000000000000⟩

/-- The whole number nearest to `n / d`, halves to even. -/
def divideEven (n d : Nat) : Nat :=
  let q := n / d
  let r := n % d
  if d < 2 * r ∨ (2 * r = d ∧ q % 2 = 1) then q + 1 else q

/-- The number nearest to `n / d`, for `n` and `d` other than zero. -/
def ofRatio (n d : Nat) : Binary64 :=
  let guess : Int := (Nat.log2 n : Int) - Nat.log2 d - 52
  let atLeast (e : Int) : Bool :=
    if 0 ≤ e then twoPow 52 * d * twoPow e.toNat ≤ n else twoPow 52 * d ≤ n * twoPow e.natAbs
  let e := max (if atLeast guess then guess else guess - 1) (-1074)
  let m :=
    if 0 ≤ e then divideEven n (d * twoPow e.toNat) else divideEven (n * twoPow e.natAbs) d
  let bits := (e + 1074).toNat * twoPow 52 + m
  if bits < infinityBits then ⟨UInt64.ofNat bits⟩ else infinity

/-- The number nearest to a decimal. -/
def nearest (d : Decimal) : Binary64 :=
  if d.digits = 0 then ⟨0⟩
  else if 400 < d.magnitude then infinity
  else if d.magnitude < -400 then ⟨0⟩
  else if 0 ≤ d.exponent then ofRatio (d.digits * tenPow d.exponent.toNat) 1
  else ofRatio d.digits (tenPow d.exponent.natAbs)

def isDigit (c : Char) : Bool := '0' ≤ c ∧ c ≤ '9'

def numeral (ds : List Char) : Nat := ds.foldl (fun n c => 10 * n + (c.toNat - 48)) 0

/-- A text with an optional sign in front, true for minus. -/
def splitSign : List Char → Bool × List Char
  | '-' :: cs => (true, cs)
  | '+' :: cs => (false, cs)
  | cs => (false, cs)

/-- An optional exponent that ends a numeral. -/
def exponentPart? : List Char → Option Int
  | [] => some 0
  | c :: cs =>
    if c = 'e' ∨ c = 'E' then
      let (minus, ds) := splitSign cs
      if ds ≠ [] ∧ ds.all isDigit then
        some (if minus then -(numeral ds : Int) else numeral ds)
      else none
    else none

/-- A numeral without sign: digits with an optional point among them, and an exponent. -/
def unsignedText? (cs : List Char) : Option Decimal := do
  let whole := cs.takeWhile isDigit
  let rest := cs.dropWhile isDigit
  let (fraction, rest) := match rest with
    | '.' :: rest => (rest.takeWhile isDigit, rest.dropWhile isDigit)
    | rest => ([], rest)
  if whole.isEmpty && fraction.isEmpty then none
  let e ← exponentPart? rest
  some ⟨numeral (whole ++ fraction), e - fraction.length⟩

/-- The names of infinity, in lower case. -/
def infinityNames : List String := ["inf", "infinity"]

def ofChars? (cs : List Char) : Option Binary64 :=
  let (minus, cs) := splitSign cs
  let word := String.ofList (cs.map Char.toLower)
  let magnitude :=
    if word ∈ infinityNames then some infinity
    else if word = "nan" then some nan
    else (unsignedText? cs).map nearest
  magnitude.map fun x => if minus then x.negate else x

/-- The number that a text stands for. -/
def ofText? (s : String) : Option Binary64 := ofChars? s.toList

end SourceRegistry.Binary64
