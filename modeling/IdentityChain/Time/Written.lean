import IdentityChain.Time.Calendar
import IdentityChain.Time.Instant

/-!
# Written times

An instant as RFC 3339 text in UTC: `2024-01-01T12:00:00.500Z`. The fraction is
absent when it is zero and has otherwise three, six or nine digits, the fewest
that are exact. A year outside 0000 to 9999 carries its sign.
-/

namespace IdentityChain

namespace Text

/-- A number with zeros in front of it, at least `width` digits in all. -/
def padded (width n : Nat) : List Char :=
  let digits := Nat.toDigits 10 n
  List.replicate (width - digits.length) '0' ++ digits

end Text

namespace Instant

open Text (padded)

/-- The number of seconds in a day. -/
def day : Nat := 86400

/-- The written year. -/
def writtenYear (year : Int) : List Char :=
  if 0 ≤ year ∧ year ≤ 9999 then padded 4 year.toNat
  else (if year < 0 then '-' else '+') :: padded 4 year.natAbs

/-- The written fraction of a second. -/
def writtenFraction (nanos : Nat) : List Char :=
  if nanos = 0 then []
  else if nanos % 1000000 = 0 then '.' :: padded 3 (nanos / 1000000)
  else if nanos % 1000 = 0 then '.' :: padded 6 (nanos / 1000)
  else '.' :: padded 9 nanos

/-- The instant as text. -/
def written (t : Instant) : String :=
  let date := Date.ofDayNumber (t.seconds / day)
  let clock := (t.seconds % day).toNat
  let secondOfMinute := clock % 60 + (if t.inLeap then 1 else 0)
  let nanos := if t.inLeap then t.nanos - second else t.nanos
  String.ofList (writtenYear date.year ++ '-' :: padded 2 date.month ++ '-' :: padded 2 date.day ++
    'T' :: padded 2 (clock / 3600) ++ ':' :: padded 2 (clock / 60 % 60) ++
    ':' :: padded 2 secondOfMinute ++ writtenFraction nanos ++ ['Z'])

end Instant

end IdentityChain
