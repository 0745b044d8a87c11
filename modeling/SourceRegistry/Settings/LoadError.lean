import SourceRegistry.Settings.Basic

/-!
# Failures of loading

Why no settings come out of their sources. Three causes have a text; a load that panics breaks off
without one.
-/

namespace SourceRegistry

inductive LoadError where
  /-- A file is not of its format. -/
  | unreadable
  /-- A setting is not of its type. -/
  | undecodable
  | invalid (e : SettingsError)
  /-- There is a name that is no text, or an index in front of a list. -/
  | panicked
  deriving DecidableEq, Repr

def LoadError.message : LoadError → String
  | .unreadable => "Failed to build configuration"
  | .undecodable => "Failed to deserialize configuration"
  | .invalid e => e.message
  | .panicked => ""

end SourceRegistry
