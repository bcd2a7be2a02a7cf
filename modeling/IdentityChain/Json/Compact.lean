import IdentityChain.Decimal.Layout
import IdentityChain.Json.Basic

/-!
# Compact JSON

A value as JSON text without spaces, fields in key order. A double keeps a
fraction or an exponent, so that its text never reads back as an integer.
-/

namespace IdentityChain.Json

/-- Doubles in JSON text: positional from `0.00001` up to sixteen digits before the point, and ties
go to the even digit. -/
def floatLayout : DecimalLayout where
  positional := some (-5, 15)
  pointZero := true
  tie := .toEven

/-- How one character stands inside a JSON string. -/
def escapedChar (c : Char) : List Char :=
  match c with
  | '"' => ['\\', '"']
  | '\\' => ['\\', '\\']
  | '\x08' => ['\\', 'b']
  | '\x0c' => ['\\', 'f']
  | '\n' => ['\\', 'n']
  | '\r' => ['\\', 'r']
  | '\t' => ['\\', 't']
  | c =>
    if c.toNat < 0x20 then
      ['\\', 'u', '0', '0', Nat.digitChar (c.toNat / 16), Nat.digitChar (c.toNat % 16)]
    else [c]

/-- A JSON string. -/
def compactString (s : String) : String :=
  String.ofList ('"' :: s.toList.flatMap escapedChar ++ ['"'])

mutual

/-- The compact text of a value. -/
def compact : Json → String
  | .null => "null"
  | .bool b => if b then "true" else "false"
  | .int n => toString n
  | .float x => floatLayout.render x
  | .str s => compactString s
  | .arr elements => "[" ++ String.intercalate "," (compactAll elements) ++ "]"
  | .obj fields => "\x7b" ++ String.intercalate "," (compactFields fields) ++ "\x7d"
termination_by structural value => value

/-- The compact texts of the values of a list. -/
def compactAll : List Json → List String
  | [] => []
  | value :: rest => compact value :: compactAll rest
termination_by structural values => values

/-- The compact texts of the fields of an object. -/
def compactFields : List (String × Json) → List String
  | [] => []
  | field :: rest => compactField field :: compactFields rest
termination_by structural fields => fields

/-- The compact text of one field. -/
def compactField : String × Json → String
  | (key, value) => compactString key ++ ":" ++ compact value
termination_by structural field => field

end

end IdentityChain.Json
