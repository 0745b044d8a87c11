import SourceRegistry.Http.Message
import SourceRegistry.Text.Space

/-!
# Content codings

Which coding a client prefers for the body of a response. It names codings with weights between
zero and one in thousandths; of equal weights compression wins.
-/

namespace SourceRegistry.Http

inductive Coding where
  | identity
  | gzip
  deriving DecidableEq, Repr

namespace Coding

def ofName? (name : String) : Option Coding :=
  match Text.lowerAscii name with
  | "gzip" | "x-gzip" => some .gzip
  | "identity" => some .identity
  | _ => none

/-- Adds up to three decimals, of which the first is worth `unit`. -/
def weightTail : Nat → Nat → List Char → Option Nat
  | _, n, [] => if n ≤ 1000 then some n else none
  | unit, n, c :: cs =>
    if '0' ≤ c ∧ c ≤ '9' ∧ 0 < unit then
      weightTail (unit / 10) (n + unit * (c.toNat - 48)) cs
    else none

/-- A weight such as `q=0.5`, in thousandths. -/
def weight? : List Char → Option Nat
  | q :: '=' :: c :: rest =>
    if (q = 'q' ∨ q = 'Q') ∧ (c = '0' ∨ c = '1') then
      let n := if c = '1' then 1000 else 0
      match rest with
      | [] => some n
      | '.' :: decimals => weightTail 100 n decimals
      | _ => none
    else none
  | _ => none

/-- One entry of a list of codings. -/
def entry? (s : String) : Option (Coding × Nat) := do
  let name := s.toList.takeWhile (· ≠ ';')
  let coding ← ofName? (Text.trim (String.ofList name))
  match s.toList.drop name.length with
  | [] => some (coding, 1000)
  | _ :: parameter => some (coding, ← weight? (Text.trimChars parameter))

def entries (r : Request) : List (Coding × Nat) :=
  ((r.headerValues "accept-encoding").filter isPlain).flatMap fun value =>
    (Text.split ',' value).filterMap entry?

/-- The greatest weight that a request gives a coding. -/
def weightOf (r : Request) (c : Coding) : Nat :=
  (((entries r).filter (·.1 = c)).map (·.2)).foldl max 0

/-- The coding that a request prefers. -/
def preferred (r : Request) : Coding :=
  if 0 < weightOf r .gzip ∧ weightOf r .identity ≤ weightOf r .gzip then .gzip else .identity

end Coding

end SourceRegistry.Http
