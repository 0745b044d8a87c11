import SourceRegistry.Settings.Format.Yaml.Node
import SourceRegistry.Settings.LoadError

/-!
# Settings in YAML

A text is a table, or empty. Names are texts or whole numbers; a load that comes to any other name
panics.
-/

namespace SourceRegistry.Yaml

mutual

def Node.toSetting : Node → Except LoadError Setting
  | .bad | .null => .ok .null
  | .bool b => .ok (.bool b)
  | .int n => .ok (.int n)
  | .real s =>
    match Binary64.ofText? s with
    | some x => .ok (.float x)
    | none => .error .unreadable
  | .text s => .ok (.text s)
  | .list l => do .ok (.list (← toItems l))
  | .table es => do .ok (.table (← toEntries [] es))

def toItems : List Node → Except LoadError (List Setting)
  | [] => .ok []
  | node :: rest => do .ok ((← node.toSetting) :: (← toItems rest))

/-- The entries behind those of `before`, of which the last one of a name counts. -/
def toEntries (before : List (String × Setting)) :
    List (Node × Node) → Except LoadError (List (String × Setting))
  | [] => .ok before
  | (.text name, node) :: rest => do toEntries (Members.put name (← node.toSetting) before) rest
  | (.int n, node) :: rest => do
    toEntries (Members.put (toString n) (← node.toSetting) before) rest
  | _ :: _ => .error .panicked

end

/-- The entries of a YAML text. -/
def read (s : String) : Except LoadError (List (String × Setting)) :=
  match Node.ofText? s with
  | none => .error .unreadable
  | some none => .ok []
  | some (some node) => do
    match ← node.toSetting with
    | .table es => .ok es
    | _ => .error .unreadable

end SourceRegistry.Yaml
