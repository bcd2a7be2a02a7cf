import IdentityChain.Table.Basic
import IdentityChain.Yaml.Token

/-!
# Nodes of a YAML document

`Node.ofTokens?` puts the tokens of a text together to the one document in it:
a tree of scalars, sequences, mappings, and references to nodes with an anchor.
A text may also hold no document at all.

Anchors are numbered in the order of their nodes, each by how many different
names have been given before it. A name that is given again therefore shares
its new number with the next new name, and a number means the last node that
has it.
-/

namespace IdentityChain.Yaml

/-- What may be written before a node. -/
structure Properties where
  anchor : Option Nat
  tag : Option TagText
  deriving DecidableEq, Repr

/-- A node of a document. -/
inductive Node where
  | reference (anchor : Nat)
  | scalar (properties : Properties) (isPlain : Bool) (text : List Char)
  | sequence (properties : Properties) (elements : List Node)
  | mapping (properties : Properties) (entries : List (Node × Node))

namespace Node

/-- The scalar that stands where nothing is written. -/
def empty : Node := .scalar ⟨none, none⟩ true []

/-- The tokens that are left, and what the text before them means for the nodes to come. -/
structure Progress where
  tokens : List Token
  /-- The numbers of the anchors by name. -/
  anchors : Table Nat
  handles : Handles

/-- Takes a value off the tokens, or fails. -/
abbrev Parse (α : Type) := StateT Progress Option α

namespace Parse

/-- The next token, which is left where it is. -/
def peek? : Parse (Option Token) := do return (← get).tokens.head?

/-- Drops the next token. -/
def drop : Parse Unit := modify fun progress => { progress with tokens := progress.tokens.drop 1 }

/-- Whether the next token is one of some. -/
def sees (some : List Token) : Parse Bool := do return (← peek?).any some.contains

/-- Drops the next token, if it is a given one. -/
def dropIf (token : Token) : Parse Bool := do
  if ← sees [token] then
    drop
    return true
  else return false

/-- Drops the next token, which has to be a given one. -/
def expect (token : Token) : Parse Unit := do guard (← dropIf token)

/-- Numbers an anchor. -/
def numbered (name : List Char) : Parse Nat := do
  let progress ← get
  let number := progress.anchors.size
  set { progress with anchors := progress.anchors.insert (String.ofList name) number }
  return number

/-- Takes the name of an anchor, if one is next. -/
def anchorName? : Parse (Option (List Char)) := do
  match ← peek? with
  | some (.anchor name) =>
    drop
    return some name
  | _ => return none

/-- Takes a tag, if one is next. -/
def tag? : Parse (Option Tag) := do
  match ← peek? with
  | some (.tag tag) =>
    drop
    return some tag
  | _ => return none

/-- Takes an anchor and a tag in either order. -/
def properties : Parse (Option (List Char) × Option TagText) := do
  let first ← anchorName?
  let tag ← tag?
  let name ← match first, tag with
    | none, some _ => anchorName?
    | name, _ => pure name
  match tag with
  | none => return (name, none)
  | some tag => return (name, some (← (← get).handles.expand? tag))

mutual

/-- Takes a node. Block collections are nodes where `block` says so, and a sequence whose dashes
stand at the margin of a mapping where `outdented` does. -/
def node : Nat → Bool → Bool → Parse Node
  | 0, _, _ => failure
  | fuel + 1, block, outdented => do
    match ← peek? with
    | some (.reference name) =>
      drop
      let number ← (← get).anchors.get? (String.ofList name)
      return .reference number
    | _ =>
      let (name, tag) ← properties
      let made : Parse Properties := do
        match name with
        | none => return ⟨none, tag⟩
        | some name => return ⟨some (← numbered name), tag⟩
      match (← peek?), block with
      | some (.scalar isPlain text), _ =>
        drop
        return .scalar (← made) isPlain text
      | some .flowSequence, _ =>
        drop
        let properties ← made
        return .sequence properties (← flowElements fuel true)
      | some .flowMapping, _ =>
        drop
        let properties ← made
        return .mapping properties (← flowEntries fuel true)
      | some .blockSequence, true =>
        drop
        let properties ← made
        return .sequence properties (← blockElements fuel)
      | some .blockMapping, true =>
        drop
        let properties ← made
        return .mapping properties (← blockEntries fuel)
      | next, _ =>
        if outdented && next = some .entry then
          let properties ← made
          return .sequence properties (← outdentedElements fuel)
        else
          guard (name.isSome || tag.isSome)
          return .scalar (← made) true []

/-- Takes a node, or the empty scalar before one of some tokens. -/
def nodeBefore : Nat → List Token → Bool → Bool → Parse Node
  | 0, _, _, _ => failure
  | fuel + 1, ends, block, outdented => do
    if ← sees ends then return Node.empty else node fuel block outdented

/-- Takes the elements of a block sequence. -/
def blockElements : Nat → Parse (List Node)
  | 0 => failure
  | fuel + 1 => do
    if ← dropIf .entry then
      let element ← nodeBefore fuel [.entry, .blockEnd] true false
      return element :: (← blockElements fuel)
    else
      expect .blockEnd
      return []

/-- Takes the elements of a sequence whose dashes stand at the margin of a mapping. -/
def outdentedElements : Nat → Parse (List Node)
  | 0 => failure
  | fuel + 1 => do
    if ← dropIf .entry then
      let element ← nodeBefore fuel [.entry, .key, .value, .blockEnd] true false
      return element :: (← outdentedElements fuel)
    else return []

/-- Takes the entries of a block mapping. -/
def blockEntries : Nat → Parse (List (Node × Node))
  | 0 => failure
  | fuel + 1 => do
    if ← dropIf .key then
      let ends := [.key, .value, .blockEnd]
      let key ← nodeBefore fuel ends true true
      let value ← if ← dropIf .value then nodeBefore fuel ends true true else pure Node.empty
      return (key, value) :: (← blockEntries fuel)
    else
      expect .blockEnd
      return []

/-- Takes the elements of a sequence in brackets; all but the first follow a comma. A key among them
makes a mapping of one entry. -/
def flowElements : Nat → Bool → Parse (List Node)
  | 0, _ => failure
  | fuel + 1, isFirst => do
    if ← dropIf .flowSequenceEnd then return []
    unless isFirst do expect .comma
    if ← dropIf .flowSequenceEnd then return []
    let element ← if ← dropIf .key then pairElement fuel else node fuel false false
    return element :: (← flowElements fuel false)

/-- Takes an entry that is an element of a sequence, after the token of its key. The token after a
missing key is dropped, even if it is the one before the value. -/
def pairElement : Nat → Parse Node
  | 0 => failure
  | fuel + 1 => do
    let ends := [.comma, .flowSequenceEnd]
    let key ←
      if ← sees (.value :: ends) then do
        drop
        pure Node.empty
      else node fuel false false
    let value ← if ← dropIf .value then nodeBefore fuel ends false false else pure Node.empty
    return .mapping ⟨none, none⟩ [(key, value)]

/-- Takes the entries of a mapping in braces; all but the first follow a comma. -/
def flowEntries : Nat → Bool → Parse (List (Node × Node))
  | 0, _ => failure
  | fuel + 1, isFirst => do
    if ← dropIf .flowMappingEnd then return []
    unless isFirst do expect .comma
    if ← dropIf .flowMappingEnd then return []
    let ends := [.comma, .flowMappingEnd]
    let entry ←
      if ← dropIf .key then do
        let key ← nodeBefore fuel (.value :: ends) false false
        let value ← if ← dropIf .value then nodeBefore fuel ends false false else pure Node.empty
        pure (key, value)
      else do
        let key ← node fuel false false
        pure (key, Node.empty)
    return entry :: (← flowEntries fuel false)

end

/-- Takes the directives before a document. One of them may give the version of the format, which
has to be known; no handle may be given twice. -/
def directives : Nat → Bool → Handles → Parse Handles
  | 0, _, _ => failure
  | fuel + 1, versioned, handles => do
    match ← peek? with
    | some (.version major minor) =>
      drop
      guard (!versioned && major = 1 && (minor = 1 || minor = 2))
      directives fuel true handles
    | some (.tagHandle handle text) =>
      drop
      guard (handles.lookup handle).isNone
      directives fuel versioned (handles ++ [(handle, text)])
    | _ => return handles ++ Handles.standard

/-- Whether a token is a directive. -/
def isDirective : Token → Bool
  | .version _ _ => true
  | .tagHandle _ _ => true
  | _ => false

/-- Takes the content of a document after the mark at its start. -/
def content (fuel : Nat) : Parse Node := do
  match ← peek? with
  | none => return Node.empty
  | some token =>
    if isDirective token || [.documentStart, .documentEnd].contains token then return Node.empty
    else node fuel true false

/-- Takes the document of a text, if there is one. -/
def document (fuel : Nat) : Parse (Option Node) := do
  match ← peek? with
  | none => return none
  | some token =>
    if isDirective token || token = .documentStart then
      let handles ← directives fuel false []
      modify fun progress => { progress with handles := handles }
      expect .documentStart
      return some (← content fuel)
    else return some (← node fuel true false)

end Parse

/-- The document in a text of some tokens, if there is one; `none` if the tokens make none or more.
After the document only marks of its end may follow. -/
def ofTokens? (tokens : List Token) : Option (Option Node) := do
  let fuel := 3 * tokens.length + 3
  let (document, progress) ← (Parse.document fuel).run ⟨tokens, .empty, Handles.standard⟩
  if progress.tokens.all (· = .documentEnd) then some document else none

end Node

end IdentityChain.Yaml
