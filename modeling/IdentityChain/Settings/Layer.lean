import IdentityChain.Decimal.Layout
import IdentityChain.Decimal.Numeral
import IdentityChain.Table.Basic
import IdentityChain.Text.Quoted

/-!
# Layers of settings

A layer gives values to some keys, for instance the layer of a file. What
matters of a value is whether it is a natural number of 64 bits; for any other
value a refusal tells what was found.
-/

namespace IdentityChain

/-- A value as a layer gives it. -/
inductive SettingValue where
  | unit
  | bool (b : Bool)
  | int (n : Int)
  | float (x : Binary64)
  | text (s : String)
  | sequence
  | table
  deriving DecidableEq

/-- Values by key. -/
abbrev SettingsLayer := Table SettingValue

namespace SettingValue

/-- Doubles in refusals: never with an exponent, and ties go up. -/
def floatLayout : DecimalLayout where
  positional := none
  pointZero := false
  tie := .up

/-- The text of a double in a refusal. -/
def floatText (x : Binary64) : String :=
  if x.isFinite then floatLayout.render x
  else if x.fraction ≠ 0 then "NaN"
  else if x.negative then "-inf"
  else "inf"

/-- A value in the words of a refusal. -/
def found : SettingValue → String
  | .unit => "unit"
  | .bool b => if b then "bool true" else "bool false"
  | .int n =>
    if n ∈ IntRange.unsigned64 then "unsigned int `" ++ toString n ++ "`"
    else if n ∈ IntRange.signed64 then "signed int `" ++ toString n ++ "`"
    else "integer `" ++ toString n ++ "` as " ++ (if n < 0 then "i128" else "u128")
  | .float x => "float `" ++ floatText x ++ "`"
  | .text s => "string " ++ Text.quoted s
  | .sequence => "sequence"
  | .table => "map"

/-- The value as a natural number of 64 bits, or why it is none. -/
def asWord64 : SettingValue → Except String Nat
  | .int n =>
    if n ∈ IntRange.unsigned64 then .ok n.toNat
    else if n ∈ IntRange.signed64 then
      .error ("invalid value " ++ found (.int n) ++ ", expected u64")
    else .error ("invalid type: found " ++ found (.int n) ++ ", expected u64")
  | value => .error ("invalid type: found " ++ found value ++ ", expected u64")

end SettingValue

/-- Why settings could not be loaded. -/
inductive SettingsFault where
  /-- The file is no mapping of keys to values. -/
  | unreadable
  /-- There is no such setting. -/
  | unknownKey (key : String)
  /-- The setting has a bad value. -/
  | badValue (key reason : String)
  deriving DecidableEq, Repr

namespace SettingsFault

/-- The text in front of every reason. -/
def message : String := "failed to load auth registry configuration"

/-- The key that is at fault. -/
def key : SettingsFault → String
  | .unreadable => ""
  | .unknownKey key => key
  | .badValue key _ => key

/-- The reason, where `known` are the names of the settings. -/
def reason (known : List String) : SettingsFault → String
  | .unreadable => "unreadable"
  | .unknownKey key =>
    "unknown field: found `" ++ key ++ "`, expected `" ++
      String.intercalate " or " (known.map fun name => "`" ++ name ++ "`") ++ "`"
  | .badValue _ reason => reason

end SettingsFault

end IdentityChain
