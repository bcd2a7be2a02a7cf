import IdentityChain.Yaml.Scalar
import IdentityChain.Yaml.Tag

/-!
# Tokens of a YAML text

`Token.scan?` cuts a text into tokens. Indentation becomes tokens that open and
close block collections. Whether a text is a key shows only at the colon after
it, so each place where a key may start is remembered, and the colon puts the
key's token there afterwards.
-/

namespace IdentityChain.Yaml

/-- A token. -/
inductive Token where
  | version (major minor : Nat)
  | tagHandle (handle : List Char) (text : TagText)
  | documentStart
  | documentEnd
  | blockSequence
  | blockMapping
  | blockEnd
  | flowSequence
  | flowSequenceEnd
  | flowMapping
  | flowMappingEnd
  /-- The dash before an element of a block sequence. -/
  | entry
  /-- The comma between elements. -/
  | comma
  | key
  | value
  /-- The mark of a node that is an anchored one again. -/
  | reference (name : List Char)
  | anchor (name : List Char)
  | tag (tag : Tag)
  | scalar (isPlain : Bool) (text : List Char)
  deriving DecidableEq, Repr

/-- A place where a key may have started. -/
structure KeyPlace where
  /-- Whether nothing but a key can stand there. -/
  required : Bool
  /-- The number of tokens before the place. -/
  tokens : Nat
  index : Nat
  line : Nat
  column : Nat
  deriving DecidableEq, Repr

/-- A key stays on its line and is no longer than 1024 bytes. -/
def KeyPlace.reaches (place : KeyPlace) (cursor : Cursor) : Bool :=
  cursor.line ≤ place.line && cursor.index ≤ place.index + 1024

/-- The tokens that have been scanned, and what the next ones depend on. -/
structure ScanState where
  cursor : Cursor
  tokens : Array Token
  /-- The margins of the open block collections, the innermost first: a collection whose content
  stands at a column has the next column as its margin. -/
  margins : List Nat
  /-- Whether a key may start here. -/
  keyAllowed : Bool
  /-- Where the key of a coming colon may have started. -/
  place : Option KeyPlace
  /-- The same for the collections in brackets around this place, the innermost first. -/
  outerPlaces : List (Option KeyPlace)

namespace ScanState

/-- The state at the start of a text. -/
def start (text : List Char) : ScanState := ⟨.start text, #[], [], true, none, []⟩

/-- Whether this place is inside brackets. -/
def flow (state : ScanState) : Bool := !state.outerPlaces.isEmpty

/-- The margin of the innermost open block collection. -/
def margin (state : ScanState) : Nat := state.margins.headD 0

end ScanState

/-- Scans a token, or fails. -/
abbrev Scanning (α : Type) := StateT ScanState Option α

namespace Scanning

/-- A step over the text. -/
def onText {α : Type} (scan : Scan α) : Scanning α := do
  let state ← get
  let (value, cursor) ← scan.run state.cursor
  set { state with cursor := cursor }
  return value

/-- Adds a token. -/
def push (token : Token) : Scanning Unit :=
  modify fun state => { state with tokens := state.tokens.push token }

/-- Allows or forbids a key to start here. -/
def allowKey (allowed : Bool) : Scanning Unit :=
  modify fun state => { state with keyAllowed := allowed }

/-- Closes the block collections whose content stands beyond a column; `bound` is one more. -/
def closeBlocks (bound : Nat) : Scanning Unit :=
  modify fun state =>
    if state.flow then state
    else
      let closed := state.margins.takeWhile (bound < ·)
      { state with
        tokens := state.tokens ++ Array.replicate closed.length Token.blockEnd
        margins := state.margins.dropWhile (bound < ·) }

/-- Opens a block collection at a column that is inside the margin. Its token goes before those from
number `before` on. -/
def openBlock (column before : Nat) (token : Token) : Scanning Unit :=
  modify fun state =>
    if state.flow || column < state.margin then state
    else
      { state with
        tokens := state.tokens.insertIdxIfInBounds before token
        margins := (column + 1) :: state.margins }

/-- Opens a block collection here. -/
def openBlockHere (token : Token) : Scanning Unit := do
  let state ← get
  openBlock state.cursor.column state.tokens.size token

/-- Forgets where a key may have started, unless a key has to stand there. -/
def dropPlace : Scanning Unit := do
  let state ← get
  guard (state.place.all (!·.required))
  set { state with place := none }

/-- Remembers that a key may start here. -/
def keepPlace : Scanning Unit := do
  let state ← get
  if state.keyAllowed then
    dropPlace
    let cursor := state.cursor
    let required := !state.flow && state.margin = cursor.column + 1
    modify fun state => { state with
      place := some ⟨required, state.tokens.size, cursor.index, cursor.line, cursor.column⟩ }

/-- Forgets the places that a key cannot reach from any more. -/
def dropStalePlaces : Scanning Unit := do
  let state ← get
  let isStale (place : KeyPlace) : Bool := !place.reaches state.cursor
  let places := state.place :: state.outerPlaces
  guard (places.all fun place => place.all fun place => !(isStale place && place.required))
  let fresh (place : Option KeyPlace) : Option KeyPlace := place.filter fun place => !isStale place
  set { state with place := fresh state.place, outerPlaces := state.outerPlaces.map fresh }

/-! ## Space between tokens -/

/-- Skips space, comments and line breaks, and tells whether a key may start afterwards. Where a key
may start, a tab is no space. -/
def skipSpace (flow : Bool) : Nat → Bool → Scan Bool
  | 0, allowed => pure allowed
  | fuel + 1, allowed => do
    Scan.skipOrderMark
    Scan.skipWhile fun c => c = ' ' || (c = '\t' && (flow || !allowed))
    Scan.skipComment
    match (← Scan.peek?).filter isBreak with
    | none => pure allowed
    | some _ =>
      modify Cursor.advance
      skipSpace flow fuel (allowed || !flow)

/-! ## Tokens -/

/-- A digit sequence of a version. -/
def versionNumber : Scan Nat := do
  let digits ← Scan.takeWhile Char.isDigit
  guard (digits.length ≤ 9)
  Text.natural? 10 digits

/-- Scans a directive, up to the end of its line. -/
def directive : Scan Token := do
  Scan.literal '%'
  let name ← Scan.takeWhile isNameChar
  guard ((← get).gapAfter 0)
  Scan.skipWhile isBlank
  let token ←
    if name = "YAML".toList then do
      let major ← versionNumber
      Scan.literal '.'
      pure (.version major (← versionNumber))
    else if name = "TAG".toList then do
      let handle ← Scan.handle
      guard (handle.length = 1 ∨ handle.getLast? = some '!')
      guard ((← Scan.peek?).any isBlank)
      Scan.skipWhile isBlank
      let text ← Scan.someTagText true
      guard ((← get).gapAfter 0)
      pure (.tagHandle handle text)
    else failure
  Scan.endLine
  return token

/-- Scans what is outside all block collections. -/
def outside (scan : Scan Token) : Scanning Unit := do
  closeBlocks 0
  dropPlace
  allowKey false
  push (← onText scan)

/-- Scans an opening bracket. -/
def openBracket (token : Token) : Scanning Unit := do
  keepPlace
  modify fun state => { state with
    place := none
    outerPlaces := state.place :: state.outerPlaces }
  allowKey true
  let _ ← onText Scan.char
  push token

/-- Scans a closing bracket. -/
def closeBracket (token : Token) : Scanning Unit := do
  dropPlace
  modify fun state => match state.outerPlaces with
    | place :: outer => { state with place := place, outerPlaces := outer }
    | [] => state
  allowKey false
  let _ ← onText Scan.char
  push token

/-- Scans a comma. -/
def comma : Scanning Unit := do
  dropPlace
  allowKey true
  let _ ← onText Scan.char
  push .comma

/-- Scans the dash before an element. -/
def entry : Scanning Unit := do
  let state ← get
  unless state.flow do
    guard state.keyAllowed
    openBlockHere .blockSequence
  dropPlace
  allowKey true
  let _ ← onText Scan.char
  push .entry

/-- Scans the question mark before a key. -/
def questionMark : Scanning Unit := do
  let state ← get
  unless state.flow do
    guard state.keyAllowed
    openBlockHere .blockMapping
  dropPlace
  allowKey !state.flow
  let _ ← onText Scan.char
  push .key

/-- Scans a colon. If a key may have started before it, that was a key. -/
def colon : Scanning Unit := do
  let state ← get
  match state.place with
  | some place =>
    modify fun state => { state with
      tokens := state.tokens.insertIdxIfInBounds place.tokens .key
      place := none }
    openBlock place.column place.tokens .blockMapping
    allowKey false
  | none =>
    unless state.flow do
      guard state.keyAllowed
      openBlockHere .blockMapping
    allowKey !state.flow
  let _ ← onText Scan.char
  push .value

/-- Scans a token that a key may start with. -/
def inKey (scan : Scan Token) : Scanning Unit := do
  keepPlace
  allowKey false
  push (← onText scan)

/-- Scans the name after the mark of an anchor or of a reference to one. -/
def anchorName : Scan (List Char) := do
  let _ ← Scan.char
  let name ← Scan.takeWhile isNameChar
  let cursor ← get
  let follows := cursor.rest.head?.any ['?', ':', ',', ']', '\x7d', '%', '@', '\x60'].contains
  guard (!name.isEmpty && (cursor.gapAfter 0 || follows))
  return name

/-- Scans a bare text. After one that ended on another line a key may start. -/
def plainText : Scanning Unit := do
  let state ← get
  keepPlace
  let (text, broken) ← onText (Scan.plain state.flow state.margin)
  allowKey broken
  push (.scalar true text)

/-- Scans a block text. -/
def blockText : Scanning Unit := do
  let state ← get
  dropPlace
  allowKey true
  push (.scalar false (← onText (Scan.block state.margin)))

/-- The characters that mean something at the start of a token. -/
def indicators : List Char :=
  ['-', '?', ':', ',', '[', ']', '\x7b', '\x7d', '#', '&', '*', '!', '|', '>', '\'', '"', '%', '@',
    '\x60']

/-- Whether a bare text may start here. -/
def startsPlain (flow : Bool) (cursor : Cursor) : Bool :=
  match cursor.rest with
  | [] => false
  | '-' :: rest => rest.head?.all (!isBlank ·)
  | c :: _ =>
    if c = '?' ∨ c = ':' then !flow && !cursor.gapAfter 1
    else !isBlank c && !isBreak c && !indicators.contains c

/-- Scans the token that starts here. -/
def token (c : Char) : Scanning Unit := do
  let state ← get
  let cursor := state.cursor
  let flow := state.flow
  let mark (token : Token) : Scan Token := do
    let _ ← Scan.take 3
    return token
  if cursor.column = 0 ∧ c = '%' then outside directive
  else if cursor.atDocumentMark then
    outside (mark (if c = '-' then .documentStart else .documentEnd))
  else if c = '[' then openBracket .flowSequence
  else if c = '\x7b' then openBracket .flowMapping
  else if c = ']' then closeBracket .flowSequenceEnd
  else if c = '\x7d' then closeBracket .flowMappingEnd
  else if c = ',' then comma
  else if c = '-' && cursor.gapAfter 1 then entry
  else if c = '?' && (flow || cursor.gapAfter 1) then questionMark
  else if c = ':' && (flow || cursor.gapAfter 1) then colon
  else if c = '*' then inKey (Token.reference <$> anchorName)
  else if c = '&' then inKey (Token.anchor <$> anchorName)
  else if c = '!' then inKey (Token.tag <$> Scan.tag flow)
  else if (c = '|' ∨ c = '>') ∧ flow = false then blockText
  else if c = '\'' ∨ c = '"' then inKey (Token.scalar false <$> Scan.quoted c)
  else
    guard (startsPlain flow cursor)
    plainText

/-- Scans all tokens that are left. -/
def tokens : Nat → Scanning Unit
  | 0 => failure
  | fuel + 1 => do
    let state ← get
    allowKey (← onText (skipSpace state.flow (fuel + 1) state.keyAllowed))
    dropStalePlaces
    let cursor := (← get).cursor
    closeBlocks (cursor.column + 1)
    match cursor.rest with
    | [] =>
      closeBlocks 0
      dropPlace
    | c :: _ =>
      token c
      tokens fuel

end Scanning

/-- The tokens of a text, if it is one. -/
def Token.scan? (text : List Char) : Option (List Token) :=
  if text.all isAllowed then
    let content := unifyBreaks text
    ((Scanning.tokens (content.length + 2)).run (.start content)).map fun (_, state) =>
      state.tokens.toList
  else none

end IdentityChain.Yaml
