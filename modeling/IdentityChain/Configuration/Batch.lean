import IdentityChain.Configuration.Bag

/-!
# Batches of edits

A batch stages edits of property bags by item name, and requires some
properties to hold certain values. It is committed as one unit: if every
requirement holds, each staged bag is merged into its item.
-/

namespace IdentityChain

/-- A value that a property must hold when a batch is committed. -/
structure Requirement where
  item : String
  key : String
  value : Json
  deriving DecidableEq

/-- Whether the property is there and holds an equal value. -/
def Requirement.isMetBy (need : Requirement) (items : Configuration) : Bool :=
  match (items.get? need.item).bind (·.get? need.key) with
  | some current => current.equal need.value
  | none => false

/-- Staged edits and requirements. -/
structure Batch where
  edits : Table Bag
  required : List Requirement
  deriving DecidableEq

namespace Batch

/-- The batch that changes and requires nothing. -/
def empty : Batch := ⟨.empty, []⟩

/-- Stages an edit over what is staged for the item already. -/
def merge (batch : Batch) (name : String) (edit : Bag) : Batch :=
  { batch with edits := batch.edits.alter name fun
      | some staged => staged.merge edit
      | none => edit }

/-- Adds a requirement. -/
def require (batch : Batch) (item key : String) (value : Json) : Batch :=
  { batch with required := batch.required ++ [⟨item, key, value⟩] }

/-- The names of the items it edits, ascending. -/
def names (batch : Batch) : List String := batch.edits.keys

/-- Whether every requirement holds. -/
def isMetBy (batch : Batch) (items : Configuration) : Bool :=
  batch.required.all (·.isMetBy items)

/-- Merges one edit into its item, which is created if it is missing. -/
def applyEdit (items : Configuration) (name : String) (edit : Bag) : Configuration :=
  items.alter name fun
    | some current => current.merge edit
    | none => edit

/-- The items with every edit merged in. -/
def mergeInto (batch : Batch) (items : Configuration) : Configuration :=
  batch.edits.entries.foldl (fun items edit => applyEdit items edit.1 edit.2) items

/-- The batch as JSON: its edits by item name, and its requirements in order. -/
def toJson (batch : Batch) : Json :=
  .arr [Configuration.toJson batch.edits,
    .arr (batch.required.map fun need => .arr [.str need.item, .str need.key, need.value])]

/-- Whether two batches stage equal edits and require equal values in the same order. -/
def equal (a b : Batch) : Bool := a.toJson.equal b.toJson

end Batch

end IdentityChain
