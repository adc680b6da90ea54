/-!
# Civil time

Seconds since the start of 1970 are shown as a date and a time of day in UTC, by the
Gregorian calendar extended to all years.

* `Date.ofDays`: years are counted from the first of March, so that a leap day is the
  last day of its year, in eras of 400 years that all have the same length.
* `Moment.ofSeconds?`: only years with a certain number of digits can be shown.
-/

namespace EventDetection.Calendar

/-- A day of the Gregorian calendar. -/
structure Date where
  year : Int
  month : Nat
  day : Nat
deriving DecidableEq

/-- Days from the first of March of the year 0 to the first of January 1970. -/
def epochDays : Int := 719468

/-- Days of 400 years. -/
def eraDays : Int := 146097

/-- The date that lies `days` days after the first of January 1970. -/
def Date.ofDays (days : Int) : Date :=
  let d := days + epochDays
  let era := d / eraDays
  let dayOfEra := (d % eraDays).toNat
  let yearOfEra := (dayOfEra - dayOfEra / 1460 + dayOfEra / 36524 - dayOfEra / 146096) / 365
  let dayOfYear := dayOfEra - (365 * yearOfEra + yearOfEra / 4 - yearOfEra / 100)
  let monthFromMarch := (5 * dayOfYear + 2) / 153
  let day := dayOfYear - (153 * monthFromMarch + 2) / 5 + 1
  let month := if monthFromMarch < 10 then monthFromMarch + 3 else monthFromMarch - 9
  ⟨yearOfEra + era * 400 + (if month ≤ 2 then 1 else 0), month, day⟩

/-- A date with a time of day. -/
structure Moment where
  date : Date
  hour : Nat
  minute : Nat
  second : Nat
deriving DecidableEq

/-- The first second that can be shown, at the start of the year -262143. -/
def firstSecond : Int := -8334601228800

/-- The last second that can be shown, at the end of the year 262142. -/
def lastSecond : Int := 8210266876799

/-- The moment that lies `seconds` seconds after the start of 1970, if it can be shown. -/
def Moment.ofSeconds? (seconds : Int) : Option Moment :=
  if firstSecond ≤ seconds ∧ seconds ≤ lastSecond then
    let rest := (seconds % 86400).toNat
    some ⟨Date.ofDays (seconds / 86400), rest / 3600, rest / 60 % 60, rest % 60⟩
  else none

/-- A number with zeros in front, up to `width` digits. -/
def padded (width n : Nat) : List Char :=
  let digits := Nat.toDigits 10 n
  List.replicate (width - digits.length) '0' ++ digits

/-- A year: four digits, or a sign and at least four digits outside of 0 to 9999. -/
def yearText (year : Int) : List Char :=
  if 0 ≤ year ∧ year ≤ 9999 then padded 4 year.toNat
  else (if year < 0 then '-' else '+') :: padded 4 year.natAbs

def Moment.chars (m : Moment) : List Char :=
  yearText m.date.year ++ '-' :: padded 2 m.date.month ++ '-' :: padded 2 m.date.day ++
    ' ' :: padded 2 m.hour ++ ':' :: padded 2 m.minute ++ ':' :: padded 2 m.second ++
    [' ', 'U', 'T', 'C']

end EventDetection.Calendar
