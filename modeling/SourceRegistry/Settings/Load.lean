import SourceRegistry.Settings.Assembly
import SourceRegistry.Settings.Environment
import SourceRegistry.Settings.Format.Ini
import SourceRegistry.Settings.Format.Json
import SourceRegistry.Settings.Format.Json5
import SourceRegistry.Settings.Format.Ron
import SourceRegistry.Settings.Format.Toml
import SourceRegistry.Settings.Format.Yaml
import SourceRegistry.Settings.LoadError
import SourceRegistry.Settings.Order

/-!
# Loading settings

Settings come from four sources, each over the one before: the defaults, the file `default`, the
file named by the variable `APP_ENV`, and the environment. What is assembled must be valid. Hash
maps leave open in which order formats are tried and the entries of a source are taken over, so
all of this takes a `LoadOrder`.
-/

namespace SourceRegistry

/-- Where settings are looked for: variables, and the files of one folder with their contents. -/
structure Sources where
  vars : List (String × String)
  files : List (String × String)
  deriving DecidableEq, Repr

/-- The formats of files. -/
inductive Format where
  | toml
  | json
  | yaml
  | ini
  | ron
  | json5
  deriving DecidableEq, Repr

namespace Format

def endings : Format → List String
  | .toml => ["toml"]
  | .json => ["json"]
  | .yaml => ["yaml", "yml"]
  | .ini => ["ini"]
  | .ron => ["ron"]
  | .json5 => ["json5"]

def all : List Format := [.toml, .json, .yaml, .ini, .ron, .json5]

/-- The format of files with an ending. -/
def ofEnding? (ending : String) : Option Format := all.find? (ending ∈ ·.endings)

/-- The settings in a text of a format. -/
def read (f : Format) (s : String) : Except LoadError (List (String × Setting)) :=
  let orUnreadable (es : Option (List (String × Setting))) := es.elim (.error .unreadable) .ok
  match f with
  | .toml => orUnreadable (Toml.read? s)
  | .json => orUnreadable (Setting.readJson? s)
  | .yaml => Yaml.read s
  | .ini => orUnreadable (Ini.read? s)
  | .ron => orUnreadable (Ron.read? s)
  | .json5 => orUnreadable (Json5.read? s)

end Format

namespace Sources

/-- The folders that a name can lead through: the one that the service works in, and the one of
settings inside of it, where names start. -/
inductive Folder where
  | working
  | settings
  deriving DecidableEq, Repr

/-- The folder that one part of a name leads to. -/
def Folder.step? : Folder → String → Option Folder
  | f, "" | f, "." => some f
  | .settings, ".." => some .working
  | .working, "config" => some .settings
  | _, _ => none

/-- Whether a part of a name can be the name of a file. -/
def isFileName (part : String) : Bool := part ∉ ["", ".", ".."]

/-- The file among the settings that the parts of a name lead to. -/
def fileName? (parts : List String) : Option String := do
  let last ← parts.getLast?
  let folder ← parts.dropLast.foldlM Folder.step? Folder.settings
  if folder = .settings ∧ isFileName last then some last else none

/-- What stands behind the last point of a file's name, which does not start with it. -/
def ending (name : String) : String :=
  let behind := (name.toList.reverse.takeWhile (· ≠ '.')).reverse
  if behind.length + 1 < name.length then String.ofList behind else ""

/-- The file of a very name, with its format if that is known. -/
def exactly (name : String) : List (String × Option Format) :=
  (fileName? (Text.split '/' name)).toList.map fun n => (n, Format.ofEnding? (ending n))

/-- The files with an ending of a format behind a name, for which nothing at the end of the name
counts that leads nowhere. -/
def withEnding (name : String) (f : Format) : List (String × Option Format) :=
  let named := ((Text.split '/' name).reverse.dropWhile (· ∈ ["", "."])).reverse
  (fileName? named).toList.flatMap fun n => f.endings.map fun e => (n ++ "." ++ e, some f)

/-- The files that a name may mean, in the order in which they are looked for. -/
def candidates (formats : List Format) (name : String) : List (String × Option Format) :=
  exactly name ++ formats.flatMap (withEnding name)

/-- A file among the sources, with its format. -/
def found? (s : Sources) (candidate : String × Option Format) : Option (Option Format × String) :=
  (s.files.lookup candidate.1).map (candidate.2, ·)

/-- The settings in the file of a name; a missing file sets nothing, nor does one of no known
format. -/
def fileSettings (s : Sources) (formats : List Format) (name : String) :
    Except LoadError (List (String × Setting)) :=
  match (candidates formats name).findSome? s.found? with
  | some (some f, content) => f.read content
  | _ => .ok []

/-- The name of the surroundings that the service runs in. -/
def surroundings (s : Sources) : String := (s.vars.lookup "APP_ENV").getD "development"

/-- What hash maps leave open when settings are loaded: the order of the formats, and that of the
entries of the default file, of the file of the surroundings, of the variables, and of all of them
together. -/
structure LoadOrder where
  formats : List Format
  base : Setting.Shuffle
  own : Setting.Shuffle
  environment : Setting.Shuffle
  together : Setting.Shuffle
  formats_perm : formats.Perm Format.all

def LoadOrder.asWritten : LoadOrder where
  formats := Format.all
  base := .asWritten
  own := .asWritten
  environment := .asWritten
  together := .asWritten
  formats_perm := .refl _

/-- Puts the values of a source into a tree. -/
def extend (tree : Setting) (source : List (String × Setting)) : Except LoadError Setting :=
  (Setting.assignAll? source tree).elim (.error .panicked) .ok

/-- The sources one over the other. -/
def layered (order : LoadOrder) (s : Sources) : Except LoadError Setting := do
  let base ← s.fileSettings order.formats "default"
  let tree ← extend (Settings.toTree {}) (order.base.apply base)
  let own ← s.fileSettings order.formats s.surroundings
  let tree ← extend tree (order.own.apply own)
  extend tree (order.environment.apply (Environment.settings s.vars))

/-- All sources in one tree. What they come to is one more source, which is taken over alone. -/
def tree (order : LoadOrder) (s : Sources) : Except LoadError Setting := do
  extend (.table []) (order.together.apply (← layered order s).entries)

def load (order : LoadOrder) (s : Sources) : Except LoadError Settings := do
  let tree ← s.tree order
  match Settings.ofTree? tree with
  | none => .error .undecodable
  | some settings =>
    match settings.validate with
    | .ok () => .ok settings
    | .error e => .error (.invalid e)

end Sources

end SourceRegistry
