import IdentityChain.Text.Digits
import IdentityChain.Yaml.Cursor

/-!
# Scalars of a YAML text

Texts that stand bare or in quotes, where line breaks are folded into spaces,
and block texts below a `|` or `>`, which keep their lines or fold them. The
`margin` of a block is the least column at which its content may stand.
-/

namespace IdentityChain.Yaml

/-- What stands between two words of a scalar: blanks, and line breaks with blanks around them. -/
structure Gap where
  blanks : List Char
  breaks : List Char
  deriving DecidableEq, Repr

namespace Gap

/-- Whether the gap goes over to another line. -/
def broken (gap : Gap) : Bool := !gap.breaks.isEmpty

/-- The text that stands for the gap. One line feed is folded into a space, and of several the first
is dropped; the other breaks stay. -/
def folded (gap : Gap) : List Char :=
  match gap.breaks with
  | [] => gap.blanks
  | ['\n'] => [' ']
  | '\n' :: more => more
  | breaks => breaks

end Gap

namespace Scan

/-- Skips the blanks at the start of a line. No tab may stand before the margin. -/
def lineStart (margin : Nat) : Nat → Scan Unit
  | 0 => pure ()
  | fuel + 1 => do
    let cursor ← get
    match cursor.rest with
    | ' ' :: _ =>
      set cursor.advance
      lineStart margin fuel
    | '\t' :: _ =>
      guard (margin ≤ cursor.column)
      set cursor.advance
      lineStart margin fuel
    | _ => pure ()

/-- Takes line breaks and skips the blanks after each. -/
def breaks (margin : Nat) : Nat → Scan (List Char)
  | 0 => pure []
  | fuel + 1 => do
    match (← peek?).filter isBreak with
    | none => pure []
    | some c =>
      modify Cursor.advance
      lineStart margin fuel
      return c :: (← breaks margin fuel)

/-- Takes a gap; `fuel` bounds its length. -/
def gap (margin fuel : Nat) : Scan Gap := do
  let blanks ← takeWhile isBlank
  return ⟨blanks, ← breaks margin fuel⟩

/-! ## Bare texts -/

/-- Whether a bare text ends here: at the end, before a colon with a gap after it, or, inside
brackets, before a character that structures them. -/
def plainEnds (flow : Bool) (cursor : Cursor) : Bool :=
  match cursor.rest with
  | [] => true
  | ':' :: _ => cursor.gapAfter 1
  | c :: _ => flow && isFlowIndicator c

/-- Takes a word of a bare text. Inside brackets a colon may not touch a character that structures
them. -/
def plainWord (flow : Bool) : Nat → Scan (List Char)
  | 0 => pure []
  | fuel + 1 => do
    let cursor ← get
    if cursor.gapAfter 0 || plainEnds flow cursor then pure []
    else
      match cursor.rest with
      | ':' :: c :: _ => guard !(flow && (c = '?' || isFlowIndicator c))
      | _ => pure ()
      let c ← char
      return c :: (← plainWord flow fuel)

/-- Takes the words after the first of a bare text, with the gaps before them, and tells whether it
ended on another line. -/
def plainRest (flow : Bool) (margin : Nat) : Nat → Scan (List Char × Bool)
  | 0 => failure
  | fuel + 1 => do
    let between ← gap margin (fuel + 1)
    let cursor ← get
    let outdented := !flow && cursor.column < margin
    if between = ⟨[], []⟩ || outdented || cursor.atDocumentMark || cursor.rest.head? = some '#' ||
        plainEnds flow cursor then
      return ([], between.broken)
    else
      let word ← plainWord flow fuel
      let (more, broken) ← plainRest flow margin fuel
      return (between.folded ++ word ++ more, broken)

/-- Takes a bare text, and tells whether it ended on another line. -/
def plain (flow : Bool) (margin : Nat) : Scan (List Char × Bool) := do
  let fuel := (← get).rest.length + 1
  let word ← plainWord flow fuel
  let (more, broken) ← plainRest flow margin fuel
  return (word ++ more, broken)

/-! ## Quoted texts -/

/-- Takes the character of an escape, after its backslash. -/
def escaped : Scan Char := do
  let coded (places : Nat) : Scan Char := do
    Text.charOfCode? (← Text.natural? 16 (← take places))
  match ← char with
  | '0' => pure '\x00'
  | 'a' => pure '\x07'
  | 'b' => pure '\x08'
  | 't' => pure '\t'
  | '\t' => pure '\t'
  | 'n' => pure '\n'
  | 'v' => pure '\x0b'
  | 'f' => pure '\x0c'
  | 'r' => pure '\r'
  | 'e' => pure '\x1b'
  | ' ' => pure ' '
  | '"' => pure '"'
  | '/' => pure '/'
  | '\\' => pure '\\'
  | 'N' => pure '\u0085'
  | '_' => pure '\u00a0'
  | 'L' => pure '\u2028'
  | 'P' => pure '\u2029'
  | 'x' => coded 2
  | 'u' => coded 4
  | 'U' => coded 8
  | _ => failure

/-- Takes a word of a text in single quotes, where a doubled quote stands for itself. -/
def singleWord : Nat → Scan (List Char)
  | 0 => failure
  | fuel + 1 => do
    let cursor ← get
    match cursor.rest with
    | '\'' :: '\'' :: _ =>
      set cursor.advance.advance
      return '\'' :: (← singleWord fuel)
    | '\'' :: _ => pure []
    | _ =>
      if cursor.gapAfter 0 then pure []
      else
        let c ← char
        return c :: (← singleWord fuel)

/-- Takes a word of a text in double quotes, and tells whether an escaped line break ended it. -/
def doubleWord : Nat → Scan (List Char × Bool)
  | 0 => failure
  | fuel + 1 => do
    let cursor ← get
    match cursor.rest with
    | '"' :: _ => pure ([], false)
    | '\\' :: c :: _ =>
      set cursor.advance
      if isBreak c then
        modify Cursor.advance
        pure ([], true)
      else
        let c ← escaped
        let (word, broken) ← doubleWord fuel
        return (c :: word, broken)
    | _ =>
      if cursor.gapAfter 0 then pure ([], false)
      else
        let c ← char
        let (word, broken) ← doubleWord fuel
        return (c :: word, broken)

/-- Takes a quoted text up to its closing quote. A mark between documents may not stand in it. An
escaped line break leaves no space. -/
def quotedRest (quote : Char) : Nat → Scan (List Char)
  | 0 => failure
  | fuel + 1 => do
    let cursor ← get
    guard (!cursor.atDocumentMark && !cursor.rest.isEmpty)
    let (word, escapedBreak) ←
      if quote = '"' then doubleWord (fuel + 1)
      else do pure (← singleWord (fuel + 1), false)
    if ← sees quote then
      modify Cursor.advance
      return word
    else
      let between ← gap 0 (fuel + 1)
      let more ← quotedRest quote fuel
      return word ++ (if escapedBreak then between.breaks else between.folded) ++ more

/-- Takes a quoted text. -/
def quoted (quote : Char) : Scan (List Char) := do
  literal quote
  quotedRest quote ((← get).rest.length + 1)

/-! ## Block texts -/

/-- What becomes of the line breaks at the end of a block text. -/
inductive Chomping where
  | strip
  | clip
  | keep
  deriving DecidableEq, Repr

/-- Takes the sign of a chomping, if there is one. -/
def chomping? : Scan (Option Chomping) := do
  if ← sees '+' then
    modify Cursor.advance
    return some .keep
  else if ← sees '-' then
    modify Cursor.advance
    return some .strip
  else return none

/-- Takes the digit of an explicit indentation, if there is one; it may not be zero. -/
def indentation? : Scan (Option Nat) := do
  match (← peek?).filter Char.isDigit with
  | none => return none
  | some c =>
    guard (c ≠ '0')
    modify Cursor.advance
    return Text.digit? 10 c

/-- Takes the chomping and the indentation after a `|` or `>`, in either order. -/
def blockHeader : Scan (Chomping × Option Nat) := do
  match ← chomping? with
  | some sign => return (sign, ← indentation?)
  | none =>
    let indentation ← indentation?
    let sign ← if indentation.isSome then chomping? else pure none
    return (sign.getD .clip, indentation)

/-- Takes empty lines, and skips the indentation up to a level, or all of it without one. Reports
the line breaks and the greatest column reached. No tab may stand in the indentation. -/
def emptyLines (level : Option Nat) : Nat → Scan (List Char × Nat)
  | 0 => failure
  | fuel + 1 => do
    let inside (cursor : Cursor) : Bool := level.all (cursor.column < ·)
    let before ← get
    let spaces := (before.rest.takeWhile (· = ' ')).length
    let _ ← take (match level with
      | some n => min spaces (n - before.column)
      | none => spaces)
    let cursor ← get
    guard !(inside cursor && cursor.rest.head? = some '\t')
    match cursor.rest.head?.filter isBreak with
    | none => return ([], cursor.column)
    | some c =>
      set cursor.advance
      let (more, widest) ← emptyLines level fuel
      return (c :: more, max cursor.column widest)

/-- The end of a line in a block text. -/
structure LineEnd where
  /-- The line break after the line. -/
  lead : List Char
  /-- The line breaks of the empty lines after it. -/
  trail : List Char
  /-- Whether the line starts with a blank. -/
  blank : Bool

/-- What stands before a line that starts with a blank or not. Folding turns the break between two
lines that start with no blank into a space, or drops it before empty lines. -/
def LineEnd.joint (before : LineEnd) (literal blank : Bool) : List Char :=
  if literal || before.lead ≠ ['\n'] || before.blank || blank then before.lead ++ before.trail
  else if before.trail.isEmpty then [' ']
  else before.trail

/-- Takes the lines at a level after the end of another, as a text up to the end of the last. -/
def blockLines (literal : Bool) (level : Nat) : Nat → LineEnd → Scan (List Char × LineEnd)
  | 0, _ => failure
  | fuel + 1, before => do
    let cursor ← get
    match cursor.rest with
    | [] => return ([], before)
    | c :: _ =>
      if cursor.column ≠ level then return ([], before)
      else
        let line ← takeWhile fun c => !isBreak c
        let lead ← take (if (← peek?).isSome then 1 else 0)
        let (trail, _) ← emptyLines (some level) (fuel + 1)
        let (more, last) ← blockLines literal level fuel ⟨lead, trail, isBlank c⟩
        return (before.joint literal (isBlank c) ++ line ++ more, last)

/-- Takes a block text inside a margin. Without an explicit indentation its level is that of the
widest empty line or first line, and at least the margin. -/
def block (margin : Nat) : Scan (List Char) := do
  let literal := (← char) = '|'
  let (chomping, indentation) ← blockHeader
  endLine
  let fuel := (← get).rest.length + 1
  let given := indentation.map (margin - 1 + ·)
  let (trail, widest) ← emptyLines given fuel
  let level := given.getD (max widest (max margin 1))
  let (text, last) ← blockLines literal level fuel ⟨[], trail, false⟩
  return text ++ (if chomping = .strip then [] else last.lead) ++
    (if chomping = .keep then last.trail else [])

end Scan

end IdentityChain.Yaml
