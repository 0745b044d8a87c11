import SourceRegistry.Settings.Scalar
import SourceRegistry.Text.Space

/-!
# Settings from the environment

A variable whose name starts with `COMPASS_`, in any letter case, sets what the rest of its name
says; two underscores go one table deeper. Its value is taken for a truth value, a whole number,
a number, or else a text; for the allowed origins a text is a list with commas.
-/

namespace SourceRegistry.Environment

/-- What the names of settings start with, in lower case. -/
def mark : List Char := "compass_".toList

/-- Replaces two underscores by a point, from the left. -/
def pointed : List Char → List Char
  | '_' :: '_' :: cs => '.' :: pointed cs
  | c :: cs => c :: pointed cs
  | [] => []

/-- The setting that a variable is about. -/
def settingName? (name : String) : Option String :=
  let cs := (Text.lower name).toList
  if mark.isPrefixOf cs then some (String.ofList (pointed (cs.drop mark.length))) else none

/-- The setting whose values are lists. -/
def listName : String := "cors_allowed_origins"

def valueOf (name value : String) : Setting :=
  let lower := Text.lower value
  if lower = "true" then .bool true
  else if lower = "false" then .bool false
  else
    match Setting.int? value with
    | some n => .int n
    | none =>
      match Binary64.ofText? value with
      | some x => .float x
      | none =>
        if name = listName then .list ((Text.split ',' value).map .text) else .text value

/-- Takes a variable over, in place of an earlier one that is about the same setting. -/
def add (es : List (String × Setting)) (var : String × String) : List (String × Setting) :=
  match settingName? var.1 with
  | some name => Members.put name (valueOf name var.2) es
  | none => es

/-- The settings that variables make. -/
def settings (vars : List (String × String)) : List (String × Setting) := vars.foldl add []

end SourceRegistry.Environment
