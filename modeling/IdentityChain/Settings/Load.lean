import IdentityChain.Settings.Basic
import IdentityChain.Settings.Environment
import IdentityChain.Settings.File

/-!
# Loading settings

Settings come in layers: the environment is written over the file, and the file
over the defaults. The keys of what results are visited in ascending order, and
the first that is unknown or has a bad value is reported.
-/

namespace IdentityChain.RegistrySettings

/-- The layer of the defaults. -/
def defaults : SettingsLayer :=
  Table.ofList [(cacheKey, .int default.cacheSeconds), (timeoutKey, .int default.timeoutMillis)]

/-- Visits settings in order and takes over their values. -/
def visit : List (String × SettingValue) → RegistrySettings → Except SettingsFault RegistrySettings
  | [], settings => .ok settings
  | (key, value) :: rest, settings => do
    if key = cacheKey then
      let seconds ← value.asWord64.mapError (.badValue key)
      visit rest { settings with cacheSeconds := seconds }
    else if key = timeoutKey then
      let millis ← value.asWord64.mapError (.badValue key)
      visit rest { settings with timeoutMillis := millis }
    else throw (.unknownKey key)

/-- The settings of a file, if there is one, and of the environment. -/
def load (file : Option String) (environment : List (String × String)) :
    Except SettingsFault RegistrySettings := do
  let fileLayer ← match file with
    | none => pure Table.empty
    | some text =>
      match SettingsFile.read? text with
      | some layer => pure layer
      | none => throw .unreadable
  let layers := (defaults.merge fileLayer).merge (SettingsEnvironment.layer environment)
  visit layers.entries default

end IdentityChain.RegistrySettings
