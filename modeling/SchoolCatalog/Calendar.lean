/-!
# The calendar

Instants are microseconds since the beginning of the year 1, in universal time; a stamp is the text
of an instant with six decimals, from the year down to the microsecond. Only the years up to 9999
have stamps.
-/

namespace SchoolCatalog

structure Date where
  year : Nat
  month : Nat
  day : Nat
  deriving DecidableEq

namespace Date

def isLeap (year : Nat) : Bool := year % 4 = 0 && (year % 100 != 0 || year % 400 = 0)

def monthLengths (leap : Bool) : List Nat :=
  [31, if leap then 29 else 28, 31, 30, 31, 30, 31, 31, 30, 31, 30, 31]

/-- Counts down a day of the year through the months. -/
def ofDayOfYear (year month dayOfYear : Nat) : List Nat → Date
  | [] => ⟨year, month, dayOfYear + 1⟩
  | length :: rest =>
    if dayOfYear < length then ⟨year, month, dayOfYear + 1⟩
    else ofDayOfYear year (month + 1) (dayOfYear - length) rest

/-- The date that is a number of days after the first of January of the year 1. -/
def ofDays (days : Nat) : Date :=
  let inEra := days % 146097
  let century := min (inEra / 36524) 3
  let inCentury := inEra - century * 36524
  let inFour := inCentury % 1461
  let yearOfFour := min (inFour / 365) 3
  let year := days / 146097 * 400 + century * 100 + inCentury / 1461 * 4 + yearOfFour + 1
  ofDayOfYear year 1 (inFour - yearOfFour * 365) (monthLengths (isLeap year))

end Date

/-- A number with zeros in front up to a width. -/
def zeroPadded (width n : Nat) : String :=
  let digits := Nat.toDigits 10 n
  String.ofList (List.replicate (width - digits.length) '0' ++ digits)

def microsecondsPerDay : Nat := 86400000000

/-- The text of an instant from the year 1 on. -/
def stampText (instant : Nat) : String :=
  let date := Date.ofDays (instant / microsecondsPerDay)
  let rest := instant % microsecondsPerDay
  let seconds := rest / 1000000
  zeroPadded 4 date.year ++ "-" ++ zeroPadded 2 date.month ++ "-" ++ zeroPadded 2 date.day ++ "T" ++
    zeroPadded 2 (seconds / 3600) ++ ":" ++ zeroPadded 2 (seconds / 60 % 60) ++ ":" ++
    zeroPadded 2 (seconds % 60) ++ "." ++ zeroPadded 6 (rest % 1000000) ++ "+00:00"

/-- The instant at which the years end that have stamps. -/
def calendarEnd : Nat := 3652059 * microsecondsPerDay

/-- The stamp of an instant, if it has one. -/
def stamp? (instant : Int) : Option String :=
  if 0 ≤ instant && instant < calendarEnd then some (stampText instant.toNat) else none

/-- The instant at which the seconds of clocks are counted from zero, the beginning of the year
1970. -/
def clockStart : Nat := 719162 * microsecondsPerDay

end SchoolCatalog
