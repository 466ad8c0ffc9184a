/-!
# Dates

Instants written as dates and times of day. Days are counted in eras of four hundred years, each of
which has the same length, from the first of March of the year zero on.
-/

namespace CacheService
namespace Calendar

structure Date where
  year : Int
  month : Nat
  day : Nat
  deriving DecidableEq, Repr

def daysPerEra : Nat :=
  146097

/-- The days from the first of March of the year zero to the first of January of 1970. -/
def epochDay : Int :=
  719468

/-- The date of a day, counted from the first of January of 1970. -/
def dateOfDay (day : Int) : Date :=
  let shifted := day + epochDay
  let era := shifted / daysPerEra
  let dayOfEra := (shifted % daysPerEra).toNat
  let yearOfEra :=
    (dayOfEra - dayOfEra / 1460 + dayOfEra / 36524 - dayOfEra / 146096) / 365
  let dayOfYear := dayOfEra - (365 * yearOfEra + yearOfEra / 4 - yearOfEra / 100)
  let monthFromMarch := (5 * dayOfYear + 2) / 153
  let month := if monthFromMarch < 10 then monthFromMarch + 3 else monthFromMarch - 9
  { year := era * 400 + yearOfEra + (if month ≤ 2 then 1 else 0)
    month
    day := dayOfYear - (153 * monthFromMarch + 2) / 5 + 1 }

def padded (width n : Nat) : String :=
  let digits := n.repr
  "".pushn '0' (width - digits.length) ++ digits

/-- A year of four digits, or with a sign and more. -/
def yearText (year : Int) : String :=
  if 0 ≤ year && year ≤ 9999 then padded 4 year.toNat
  else (if year < 0 then "-" else "+") ++ padded 4 year.natAbs

/-- The fraction of a second in three, six or nine digits, as many as are needed. -/
def fractionText (nanos : Nat) : String :=
  if nanos = 0 then ""
  else if nanos % 1000000 = 0 then "." ++ padded 3 (nanos / 1000000)
  else if nanos % 1000 = 0 then "." ++ padded 6 (nanos / 1000)
  else "." ++ padded 9 nanos

/-- An instant, given in nanoseconds since the beginning of 1970, as a date and a time of day in
universal time. The zone is written as given. -/
def timestamp (zone : String) (nanoseconds : Int) : String :=
  let seconds := nanoseconds / 1000000000
  let nanos := (nanoseconds % 1000000000).toNat
  let date := dateOfDay (seconds / 86400)
  let second := (seconds % 86400).toNat
  let day := s!"{yearText date.year}-{padded 2 date.month}-{padded 2 date.day}"
  let time :=
    s!"{padded 2 (second / 3600)}:{padded 2 (second / 60 % 60)}:{padded 2 (second % 60)}"
  s!"{day}T{time}{fractionText nanos}{zone}"

def zeroOffset : String :=
  "+00:00"

def zoneLetter : String :=
  "Z"

end Calendar
end CacheService
