/-!
# Points in time as text

Times are whole seconds from the start of 1970.  `Calendar.text` writes one as date and time of day
in universal time for programs to read, `Calendar.readableText` for people.

**Dates.**  Days are counted from the first of March of the year zero, because the leap day then is
the last day of a year.  Four hundred years have 146097 days.

**Range.**  Years have at least four digits and a sign outside 0 to 9999.  A time before the year
-262143 or after the year 262142 is written as the start of 1970.
-/

namespace Federation.Calendar

/-- Days from the first of March of the year zero to the first of January 1970. -/
def epochDay : Int := 719468

/-- A date. -/
structure Date where
  year : Int
  month : Nat
  day : Nat
deriving DecidableEq

/-- The date of a day counted from the first of January 1970. -/
def dateOfDay (day : Int) : Date :=
  let shifted := day + epochDay
  let era := shifted.fdiv 146097
  let dayOfEra := (shifted - era * 146097).toNat
  let yearOfEra := (dayOfEra - dayOfEra / 1460 + dayOfEra / 36524 - dayOfEra / 146096) / 365
  let dayOfYear := dayOfEra - (365 * yearOfEra + yearOfEra / 4 - yearOfEra / 100)
  let monthFromMarch := (5 * dayOfYear + 2) / 153
  let month := if monthFromMarch < 10 then monthFromMarch + 3 else monthFromMarch - 9
  let year : Int := yearOfEra + era * 400
  { year := if month ≤ 2 then year + 1 else year
    month := month
    day := dayOfYear - (153 * monthFromMarch + 2) / 5 + 1 }

/-- A number with at least so many digits. -/
def padded (width n : Nat) : String :=
  let digits := Nat.toDigits 10 n
  String.ofList (List.replicate (width - digits.length) '0' ++ digits)

/-- A year with a sign where it needs one. -/
def yearText (year : Int) : String :=
  if year < 0 then "-" ++ padded 4 year.natAbs
  else if 9999 < year then "+" ++ padded 4 year.natAbs
  else padded 4 year.natAbs

/-- The first second of the years that can be written. -/
def firstSecond : Int := -8334601228800

/-- The last second of the years that can be written. -/
def lastSecond : Int := 8210266876799

/-- A time, or the start of 1970 instead of one that cannot be written. -/
def writable (seconds : Int) : Int :=
  if seconds < firstSecond ∨ lastSecond < seconds then 0 else seconds

/-- The date of a time. -/
def dateText (seconds : Int) : String :=
  let date := dateOfDay (seconds.fdiv 86400)
  yearText date.year ++ "-" ++ padded 2 date.month ++ "-" ++ padded 2 date.day

/-- The time of day of a time. -/
def clockText (seconds : Int) : String :=
  let second := (seconds.fmod 86400).toNat
  padded 2 (second / 3600) ++ ":" ++ padded 2 (second / 60 % 60) ++ ":" ++ padded 2 (second % 60)

/-- Date and time of day, for programs. -/
def text (seconds : Int) : String :=
  dateText (writable seconds) ++ "T" ++ clockText (writable seconds) ++ "+00:00"

/-- Date and time of day, for people. -/
def readableText (seconds : Int) : String :=
  dateText (writable seconds) ++ " " ++ clockText (writable seconds) ++ " UTC"

end Federation.Calendar
