import IdentityChain.Settings.Layer
import IdentityChain.Yaml.Value

/-!
# Settings files

A settings file is a YAML mapping of keys to values. If a key is repeated the
last entry counts. A file that holds anything but one mapping cannot be read.

A mapping below a key may wrap a value: an entry with a reserved key holds the
value, an entry with another reserved key holds a number of its origin, and the
other entries do not count. A name that a value has from its tag is a path of
keys, with dots between them, that leads to the value.
-/

namespace IdentityChain.SettingsFile

/-- The key of the value in a mapping that wraps it. -/
def wrappedKey : String := "___figment_value_value"

/-- The key of the number of the origin in such a mapping. -/
def originKey : String := "___figment_value_id"

/-- Whether a value is the number of an origin: an integer of 64 bits without a minus sign. -/
def isOrigin : Yaml.Value → Bool
  | .int false n => (n : Int) ∈ IntRange.unsigned64
  | _ => false

/-- A setting at a path of keys; it is there itself if the first of them is empty. -/
def atPath (path : String) (setting : SettingValue) : SettingValue :=
  if (path.splitOn ".").head? = some "" then setting else .table

mutual

/-- A value of the file as a setting; `none` if the origin of a value in it is no number. -/
def setting? : Yaml.Value → Option SettingValue
  | .null => some .unit
  | .bool b => some (.bool b)
  | .int negative n => some (.int (Yaml.withSign negative n))
  | .float x => some (.float x)
  | .text s => some (.text s)
  | .sequence elements => (settings? elements).map fun _ => .sequence
  | .mapping entries => (wrapped? entries).map (·.getD .table)
  | .named path value => (setting? value).map (atPath path)
termination_by structural value => value

/-- Values of the file as settings. -/
def settings? : List Yaml.Value → Option (List SettingValue)
  | [] => some []
  | value :: rest => do return (← setting? value) :: (← settings? rest)
termination_by structural values => values

/-- The setting that a mapping wraps, if it wraps one: the last of them. -/
def wrapped? : List (String × Yaml.Value) → Option (Option SettingValue)
  | [] => some none
  | entry :: rest => do
    let here ← wrappedIn? entry
    let later ← wrapped? rest
    return later.or here
termination_by structural entries => entries

/-- The setting that an entry of a mapping holds, if its key says so. -/
def wrappedIn? : String × Yaml.Value → Option (Option SettingValue)
  | (key, value) =>
    if key = originKey then if isOrigin value then some none else none
    else (setting? value).map fun setting => if key = wrappedKey then some setting else none
termination_by structural entry => entry

end

/-- The layer of a file; `none` if it cannot be read. -/
def read? (text : String) : Option SettingsLayer := do
  let entries ← Yaml.readTable? text
  return Table.ofList (← entries.mapM fun (key, value) => do return (key, ← setting? value))

end IdentityChain.SettingsFile
