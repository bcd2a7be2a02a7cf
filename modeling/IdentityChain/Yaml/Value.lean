import IdentityChain.Decimal.Numeral
import IdentityChain.Yaml.Node

/-!
# Values of a YAML document

What the nodes of a document mean. A bare scalar is a null, a truth value, an
integer, a double or a text, as it reads; a quoted one is a text. The tags of
the core types ask for such a reading of a scalar or fail. A tag of one's own
gives a name to the value that is there without it. `readTable?` is the mapping
that a text holds.
-/

namespace IdentityChain.Yaml

/-- A value. -/
inductive Value where
  | null
  | bool (b : Bool)
  /-- An integer by its sign and magnitude: a zero may have a minus sign. -/
  | int (negative : Bool) (magnitude : Nat)
  | float (x : Binary64)
  | text (s : String)
  | sequence (elements : List Value)
  | mapping (entries : List (String × Value))
  /-- A value with the name that a tag of one's own gives it. -/
  | named (name : String) (value : Value)

/-! ## Scalars -/

/-- Whether a text is a written null. -/
def isNull (text : String) : Bool := ["null", "Null", "NULL", "~"].contains text

/-- The truth value that a text is. -/
def bool? (text : String) : Option Bool :=
  if ["true", "True", "TRUE"].contains text then some true
  else if ["false", "False", "FALSE"].contains text then some false
  else none

/-- A text without the sign before it, and whether that is a minus. -/
def signed (text : List Char) : Bool × List Char :=
  match text with
  | '-' :: rest => (true, rest)
  | '+' :: rest => (false, rest)
  | _ => (false, text)

/-- Whether a text is digits after a leading zero, which is no number. -/
def isPadded (text : List Char) : Bool :=
  match (signed text).2 with
  | '0' :: c :: rest => (c :: rest).all Char.isDigit
  | _ => false

/-- An integer of a sign and a magnitude. -/
def withSign (negative : Bool) (magnitude : Nat) : Int :=
  if negative then -(magnitude : Int) else magnitude

/-- The sign and the magnitude of the integer of up to 128 bits that a text is, in decimal digits or
after a mark of the base. -/
def integer? (text : List Char) : Option (Bool × Nat) :=
  let (negative, unsigned) := signed text
  let magnitude := match unsigned with
    | '0' :: 'x' :: digits => Text.natural? 16 digits
    | '0' :: 'o' :: digits => Text.natural? 8 digits
    | '0' :: 'b' :: digits => Text.natural? 2 digits
    | digits => if isPadded digits then none else Text.natural? 10 digits
  let fitting := magnitude.filter fun n =>
    withSign negative n ∈ IntRange.signed128 ∨ withSign negative n ∈ IntRange.unsigned128
  fitting.map fun n => (negative, n)

/-- The double that a text is. -/
def float? (text : List Char) : Option Binary64 :=
  let (negative, unsigned) := signed text
  if [".inf", ".Inf", ".INF"].contains (String.ofList unsigned) then some (.infinity negative)
  else if [".nan", ".NaN", ".NAN"].contains (String.ofList text) then some .undefined
  else (Binary64.ofText? text).filter (·.isFinite)

/-- The value of a bare scalar. -/
def plainValue (text : List Char) : Value :=
  let word := String.ofList text
  if text.isEmpty || isNull word then .null
  else
    match bool? word, integer? text with
    | some b, _ => .bool b
    | none, some (negative, n) => .int negative n
    | none, none =>
      match if isPadded text then none else float? text with
      | some x => .float x
      | none => .text word

/-- A core type that a tag can ask for. -/
inductive CoreType where
  | null
  | bool
  | int
  | float
  deriving DecidableEq, Repr

/-- The core types by their tags. -/
def coreTypes : List (TagText × CoreType) :=
  [("null", .null), ("bool", .bool), ("int", .int), ("float", .float)].map fun (word, type) =>
    (.ofChars ("tag:yaml.org,2002:" ++ word).toList, type)

/-- The value of a text as a core type. -/
def CoreType.read? (type : CoreType) (text : List Char) : Option Value :=
  let word := String.ofList text
  match type with
  | .null => if isNull word then some .null else none
  | .bool => (bool? word).map .bool
  | .int => (integer? text).map fun (negative, n) => .int negative n
  | .float => (float? text).map .float

/-- Whether a tag is one of one's own: it starts with an exclamation mark. -/
def isOwn (tag : TagText) : Bool := tag.head? = some (some '!')

/-- The name that a tag of one's own gives: the text after its exclamation mark, or the mark itself
where nothing follows. A tag with bytes that make no character gives none. -/
def ownName? (tag : TagText) : Option String :=
  match tag with
  | [some '!'] => some "!"
  | some '!' :: name => (name.mapM id).map String.ofList
  | _ => none

/-- A value with the name that its tag gives, if it gives one. -/
def Value.under (tag : Option TagText) (value : Value) : Value :=
  match tag.bind ownName? with
  | some name => .named name value
  | none => value

/-- The value of a scalar, apart from the name that its tag may give. -/
def scalarValue? (tag : Option TagText) (isPlain : Bool) (text : List Char) : Option Value :=
  match tag.filter (!isOwn ·) with
  | none => some (if isPlain then plainValue text else .text (String.ofList text))
  | some tag =>
    match coreTypes.lookup tag with
    | some type => type.read? text
    | none => some (.text (String.ofList text))

/-! ## References -/

mutual

/-- The number of the marks that the nodes of a document are written with: one for a scalar or a
reference, and two around a collection. -/
def Node.marks : Node → Nat
  | .reference _ => 1
  | .scalar _ _ _ => 1
  | .sequence _ elements => 2 + Node.marksAll elements
  | .mapping _ entries => 2 + Node.marksEntries entries
termination_by structural node => node

/-- The marks of the nodes of a list. -/
def Node.marksAll : List Node → Nat
  | [] => 0
  | node :: rest => node.marks + Node.marksAll rest
termination_by structural nodes => nodes

/-- The marks of the entries of a mapping. -/
def Node.marksEntries : List (Node × Node) → Nat
  | [] => 0
  | entry :: rest => Node.marksEntry entry + Node.marksEntries rest
termination_by structural entries => entries

/-- The marks of an entry. -/
def Node.marksEntry : Node × Node → Nat
  | (key, value) => key.marks + value.marks
termination_by structural entry => entry

end

/-- The node of an anchor with the nodes inside it. -/
def anchoredAs (properties : Properties) (node : Node) (inside : List (Nat × Node)) :
    List (Nat × Node) :=
  match properties.anchor with
  | some anchor => (anchor, node) :: inside
  | none => inside

mutual

/-- The nodes with an anchor, in the order of their starts. -/
def Node.anchored : Node → List (Nat × Node)
  | .reference _ => []
  | .scalar properties isPlain text => anchoredAs properties (.scalar properties isPlain text) []
  | .sequence properties elements =>
    anchoredAs properties (.sequence properties elements) (Node.anchoredAll elements)
  | .mapping properties entries =>
    anchoredAs properties (.mapping properties entries) (Node.anchoredEntries entries)
termination_by structural node => node

/-- The nodes with an anchor in a list of nodes. -/
def Node.anchoredAll : List Node → List (Nat × Node)
  | [] => []
  | node :: rest => node.anchored ++ Node.anchoredAll rest
termination_by structural nodes => nodes

/-- The nodes with an anchor in the entries of a mapping. -/
def Node.anchoredEntries : List (Node × Node) → List (Nat × Node)
  | [] => []
  | entry :: rest => Node.anchoredEntry entry ++ Node.anchoredEntries rest
termination_by structural entries => entries

/-- The nodes with an anchor in an entry. -/
def Node.anchoredEntry : Node × Node → List (Nat × Node)
  | (key, value) => key.anchored ++ value.anchored
termination_by structural entry => entry

end

/-- What the references of a document point to, and how many may be followed. -/
structure References where
  /-- The nodes by anchor, the last of the document first. -/
  targets : List (Nat × Node)
  limit : Nat

/-- Follows references, and counts them, or fails. -/
abbrev Following (α : Type) := StateT Nat Option α

namespace References

/-- The references of a document. For each of its marks a hundred may be followed. -/
def ofDocument (root : Node) : References := ⟨root.anchored.reverse, 100 * root.marks⟩

/-- The node that a node stands for. -/
def follow (references : References) (node : Node) : Following Node := do
  match node with
  | .reference anchor =>
    modify (· + 1)
    guard ((← get) ≤ references.limit)
    references.targets.lookup anchor
  | _ => return node

/-- The text of a key, which has to be a scalar. -/
def key (references : References) (node : Node) : Following String := do
  match ← references.follow node with
  | .scalar _ _ text => return String.ofList text
  | _ => failure

/-- The entries of a mapping, with their values made by `value`. -/
def table (references : References) (value : Node → Following Value)
    (entries : List (Node × Node)) : Following (List (String × Value)) :=
  entries.mapM fun (key, node) => do
    let key ← references.key key
    return (key, ← value node)

/-- The value of a node, with collections inside each other to a given depth. -/
def value (references : References) : Nat → Node → Following Value
  | 0, node => do
    match ← references.follow node with
    | .scalar properties isPlain text =>
      return (← scalarValue? properties.tag isPlain text).under properties.tag
    | _ => failure
  | depth + 1, node => do
    match ← references.follow node with
    | .reference _ => failure
    | .scalar properties isPlain text =>
      return (← scalarValue? properties.tag isPlain text).under properties.tag
    | .sequence properties elements =>
      let elements ← elements.mapM (value references depth)
      return (Value.sequence elements).under properties.tag
    | .mapping properties entries =>
      let entries ← references.table (value references depth) entries
      return (Value.mapping entries).under properties.tag

end References

/-- How deep collections may stand inside each other in the mapping of a document. -/
def greatestDepth : Nat := 127

/-- The entries of the mapping that is a document; a document without content is an empty one. -/
def Node.table? (root : Node) : Option (List (String × Value)) :=
  match root with
  | .mapping _ entries =>
    let references := References.ofDocument root
    ((references.table (references.value greatestDepth) entries).run 0).map (·.1)
  | .scalar _ true [] => some []
  | _ => none

/-- The entries of the mapping that a text holds, in order; a text without a document holds none. -/
def readTable? (text : String) : Option (List (String × Value)) := do
  match ← Node.ofTokens? (← Token.scan? text.toList) with
  | some document => document.table?
  | none => some []

end IdentityChain.Yaml
