import Mathlib.Logic.Function.Basic
import SourceRegistry.Settings.Basic

/-!
# Settings one by one

What valid settings are, and the defaults with another value for one setting: when they are valid,
and that they tell which value it is.
-/

namespace SourceRegistry

namespace Settings

theorem validate_eq_ok_iff {s : Settings} :
    s.validate = .ok () ↔ s.port ≠ 0 ∧ s.timeoutSeconds ≠ 0 ∧
      s.basePath.toList.head? = some '/' ∧ Text.trim s.version ≠ "" ∧
      s.telemetry.logLevel ∈ logLevels := by
  unfold validate Telemetry.validate
  by_cases hp : s.port = 0
  · simp [hp]
  · by_cases ht : s.timeoutSeconds = 0
    · simp [ht, hp]
    · by_cases hb : s.basePath.toList.head? = some '/'
      · by_cases hv : Text.trim s.version = ""
        · simp [hp, ht, hb, hv]
        · simp [hp, ht, hb, hv]
      · simp [hp, ht, hb]

theorem validate_default : ({} : Settings).validate = .ok () := rfl

end Settings

/-- The settings that are texts, but for the level of reports, which is one of a few. -/
inductive TextSetting where
  | host
  | basePath
  | version
  | serviceName
  deriving DecidableEq, Repr

namespace TextSetting

def names : TextSetting → List String
  | .host => ["host"]
  | .basePath => ["api_base_path"]
  | .version => ["api_version"]
  | .serviceName => ["telemetry", "service_name"]

def put (v : String) (s : Settings) : TextSetting → Settings
  | .host => { s with host := v }
  | .basePath => { s with basePath := v }
  | .version => { s with version := v }
  | .serviceName => { s with telemetry := { s.telemetry with serviceName := v } }

theorem put_injective (t : TextSetting) (s : Settings) : Function.Injective (t.put · s) := by
  intro v w h
  cases t <;> simpa [put] using h

theorem validate_basePath {v : String} :
    (basePath.put v {}).validate = .ok () ↔ v.toList.head? = some '/' := by
  obtain ⟨hp, ht, -, hv, hl⟩ := Settings.validate_eq_ok_iff.1 Settings.validate_default
  rw [Settings.validate_eq_ok_iff]
  exact ⟨fun h => h.2.2.1, fun h => ⟨hp, ht, h, hv, hl⟩⟩

theorem validate_version {v : String} :
    (version.put v {}).validate = .ok () ↔ Text.trim v ≠ "" := by
  obtain ⟨hp, ht, hb, -, hl⟩ := Settings.validate_eq_ok_iff.1 Settings.validate_default
  rw [Settings.validate_eq_ok_iff]
  exact ⟨fun h => h.2.2.2.1, fun h => ⟨hp, ht, hb, h, hl⟩⟩

end TextSetting

inductive CountSetting where
  | port
  | maxBodySize
  | timeoutSeconds
  deriving DecidableEq, Repr

namespace CountSetting

def names : CountSetting → List String
  | .port => ["port"]
  | .maxBodySize => ["max_body_size"]
  | .timeoutSeconds => ["request_timeout_seconds"]

def bits : CountSetting → Nat
  | .port => 16
  | .maxBodySize | .timeoutSeconds => 64

def put (n : Nat) (s : Settings) : CountSetting → Settings
  | .port => { s with port := n }
  | .maxBodySize => { s with maxBodySize := n }
  | .timeoutSeconds => { s with timeoutSeconds := n }

theorem put_injective (c : CountSetting) (s : Settings) : Function.Injective (c.put · s) := by
  intro n m h
  cases c <;> simpa [put] using h

theorem validate_put (c : CountSetting) {n : Nat} (h : n ≠ 0) :
    (c.put n {}).validate = .ok () := by
  obtain ⟨hp, ht, hrest⟩ := Settings.validate_eq_ok_iff.1 Settings.validate_default
  rw [Settings.validate_eq_ok_iff]
  cases c with
  | port => exact ⟨h, ht, hrest⟩
  | maxBodySize => exact ⟨hp, ht, hrest⟩
  | timeoutSeconds => exact ⟨hp, h, hrest⟩

end CountSetting

end SourceRegistry
