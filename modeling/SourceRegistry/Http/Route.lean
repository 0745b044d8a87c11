import SourceRegistry.Text.Space

/-!
# Routes

A route is a path in which the rest of a segment may be a parameter, written as a colon and a
name. It matches paths with the same segments; a parameter matches what stands in its place up
to the next slash, which may be nothing, but not at the end of the path.
-/

namespace SourceRegistry.Http

/-- A segment of a route: literal text, and a parameter behind it. -/
structure Segment where
  literal : List Char
  parameter : Option String
  deriving DecidableEq, Repr

abbrev Route := List Segment

namespace Segment

/-- The segment written as `cs`, unless it has a parameter without a name or two parameters. -/
def ofChars? (cs : List Char) : Option Segment :=
  let literal := cs.takeWhile (· ≠ ':')
  match cs.drop literal.length with
  | [] => some ⟨literal, none⟩
  | _ :: name => if name = [] ∨ ':' ∈ name then none else some ⟨literal, some (String.ofList name)⟩

/-- What stands in place of the parameter, nothing if there is none. -/
def match? (s : Segment) (isLast : Bool) (cs : List Char) : Option (List (String × String)) :=
  match s.parameter with
  | none => if cs = s.literal then some [] else none
  | some name =>
    if cs.take s.literal.length = s.literal then
      let value := cs.drop s.literal.length
      if isLast && value.isEmpty then none else some [(name, String.ofList value)]
    else none

end Segment

namespace Route

/-- The greatest number of parameters of a route. -/
def maxParameters : Nat := 25

def parameterCount (r : Route) : Nat := r.countP (·.parameter.isSome)

/-- The route written as `path`. -/
def ofPath? (path : String) : Option Route := do
  if '*' ∈ path.toList then none
  let r ← (Text.splitChars '/' path.toList).mapM Segment.ofChars?
  if parameterCount r ≤ maxParameters then some r else none

/-- The parameters of a path that the route matches, given as its segments. -/
def matchSegments? : Route → List (List Char) → Option (List (String × String))
  | [], [] => some []
  | s :: ss, p :: ps => do
    let here ← s.match? ps.isEmpty p
    let rest ← matchSegments? ss ps
    some (here ++ rest)
  | _, _ => none

def match? (r : Route) (path : String) : Option (List (String × String)) :=
  matchSegments? r (Text.splitChars '/' path.toList)

end Route

/-- A path below another, with a single slash between them. -/
def nestPath (outer inner : String) : String :=
  if outer.toList.getLast? = some '/' then outer ++ Text.trimStartOf '/' inner else outer ++ inner

end SourceRegistry.Http
