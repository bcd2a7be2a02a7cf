import IdentityChain.Decimal.Numeral
import IdentityChain.Text.Blank
import IdentityChain.Time.Calendar
import IdentityChain.Time.Instant

/-!
# Reading times

`Instant.read` reads a date and a time of day with an offset from UTC, in the
relaxed form of RFC 3339: blanks may stand around each number, `t` or a space
may stand for `T`, the offset may be `UTC`, `Z` or hours and minutes with any
colons and blanks between them, and a year with a sign may have any number of
digits. Of several faults the first in reading order is reported; a date that
does not exist comes last.
-/

namespace IdentityChain

/-- Why a text is not a time. -/
inductive TimeError where
  | outOfRange
  | invalid
  | tooShort
  | trailing
  | impossible
  deriving DecidableEq, Repr

/-- The text of a time error. -/
def TimeError.message : TimeError → String
  | .outOfRange => "input is out of range"
  | .invalid => "input contains invalid characters"
  | .tooShort => "premature end of input"
  | .trailing => "trailing input"
  | .impossible => "no possible date and time matching input"

namespace Instant

/-- A step of reading: consumes the front of the text that is left. -/
abbrev Scan := StateT (List Char) (Except TimeError)

namespace Scan

/-- Skips blanks. -/
def blanks : Scan Unit := modify (·.dropWhile Text.isBlank)

/-- Reads one to `most` digits, or any number of them without a bound. The value has to fit 64 bits
with a sign. -/
def digits (most : Option Nat) : Scan Nat := do
  let text ← get
  let window := match most with
    | some n => text.take n
    | none => text
  let read := window.takeWhile Char.isDigit
  match text, read with
  | [], _ => throw .tooShort
  | _, [] => throw .invalid
  | _, _ =>
    if (digitsValue read : Int) ∈ IntRange.signed64 then
      set (text.drop read.length)
      pure (digitsValue read)
    else throw .outOfRange

/-- Reads a number of at most two digits between `least` and `greatest`, after blanks. -/
def number (least greatest : Nat) : Scan Nat := do
  blanks
  let n ← digits (some 2)
  if least ≤ n ∧ n ≤ greatest then pure n else throw .outOfRange

/-- Reads a year: up to four digits, or a sign and any number of them. -/
def year : Scan Int := do
  blanks
  let value : Int ← match ← get with
    | '-' :: rest => do set rest; let n ← digits none; pure (-n)
    | '+' :: rest => do set rest; let n ← digits none; pure n
    | _ => do let n ← digits (some 4); pure n
  if value ∈ IntRange.signed32 then pure value else throw .outOfRange

/-- Reads one given character. -/
def literal (expected : Char) : Scan Unit := do
  match ← get with
  | [] => throw .tooShort
  | c :: rest => if c = expected then set rest else throw .invalid

/-- Reads what stands between the date and the time. -/
def separator : Scan Unit := do
  match ← get with
  | [] => throw .tooShort
  | c :: rest => if c = 't' ∨ c = 'T' ∨ c = ' ' then set rest else throw .invalid

/-- Reads a fraction of a second, if there is one, in nanoseconds. Digits after the ninth are
dropped. -/
def fraction : Scan Nat := do
  match ← get with
  | '.' :: rest =>
    set rest
    let places := ((rest.take 9).takeWhile Char.isDigit).length
    let n ← digits (some 9)
    modify (·.dropWhile Char.isDigit)
    pure (n * Nat.pow 10 (9 - places))
  | _ => pure 0

/-- Reads two digits, the first below `limit`; a first digit above it is out of range. -/
def twoDigits (limit : Nat) : Scan Nat := do
  match ← get with
  | [] => throw .tooShort
  | [c] => if c.toNat < 128 then throw .tooShort else throw .invalid
  | tens :: ones :: rest =>
    if tens.isDigit && ones.isDigit then
      if digitsValue [tens] < limit then
        set rest
        pure (digitsValue [tens, ones])
      else throw .outOfRange
    else throw .invalid

/-- Reads an offset from UTC, in seconds. -/
def offset : Scan Int := do
  match ← get with
  | [] => throw .tooShort
  | c :: rest =>
    if (String.ofList ((c :: rest).take 3)).toLower = "utc" then
      set (rest.drop 2)
      pure 0
    else if c = 'Z' ∨ c = 'z' then
      set rest
      pure 0
    else if c = '+' ∨ c = '-' ∨ c = '−' then
      set rest
      let hours ← twoDigits 10
      modify (·.dropWhile fun c => c = ':' || Text.isBlank c)
      let minutes ← twoDigits 6
      let seconds : Int := hours * 3600 + minutes * 60
      pure (if c = '+' then seconds else -seconds)
    else throw .invalid

/-- Reads a date, a time of day and an offset, and turns them into an instant. The sixtieth second
of a minute is a leap second. -/
def instant : Scan Instant := do
  let y ← year
  blanks; literal '-'
  let month ← number 1 12
  blanks; literal '-'
  let day ← number 1 31
  separator
  let hour ← number 0 23
  blanks; literal ':'
  let minute ← number 0 59
  blanks; literal ':'
  let second ← number 0 60
  let nanos ← fraction
  blanks
  let off ← offset
  blanks
  unless (← get).isEmpty do throw .trailing
  let date : Date := ⟨y, month, day⟩
  let seconds : Int := date.dayNumber * 86400 + hour * 3600 + minute * 60 + (min second 59 : Nat)
  let leap := if second = 60 then Instant.second else 0
  unless date.Exists ∧ (Instant.mk seconds 0).inRange do throw .outOfRange
  unless -86400 < off ∧ off < 86400 do throw .outOfRange
  let t : Instant := ⟨seconds - off, nanos + leap⟩
  if t.inRange then pure t else throw .impossible

end Scan

/-- Reads a time. -/
def read (s : String) : Except TimeError Instant := (·.1) <$> Scan.instant.run s.toList

end Instant

end IdentityChain
