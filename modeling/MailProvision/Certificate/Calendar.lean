import MailProvision.Numeral.Reading

/-!
# The calendar of certificates

Moments are whole seconds from the start of 1970 in universal time. A calendar time names the same
moment by year, month, day, hour, minute and second of the Gregorian calendar, extended in both
directions.

Days are counted from the first of March of the year zero. Four hundred years have 146097 days; the
leap day is the last of its four years, and the one that is left out the last of its century.
-/

namespace MailProvision

/-- A moment by the calendar, in universal time. -/
structure CalendarTime where
  year : Int
  month : Nat
  day : Nat
  hour : Nat
  minute : Nat
  second : Nat
deriving DecidableEq, Repr

namespace CalendarTime

/-- The days from the first of March of the year zero to the start of 1970. -/
def epochDay : Int := 719468

/-- The days in four hundred years. -/
def daysInEra : Nat := 146097

/-- The seconds in a day. -/
def secondsInDay : Nat := 86400

/-- The number of a day from a year that starts in March, a month counted from March, and a day
counted from zero. -/
def dayNumber (marchYear : Int) (marchMonth dayOfMonth : Nat) : Int :=
  let era := marchYear / 400
  let yearOfEra := (marchYear % 400).toNat
  let dayOfYear := (153 * marchMonth + 2) / 5 + dayOfMonth
  era * daysInEra + (yearOfEra * 365 + yearOfEra / 4 - yearOfEra / 100 + dayOfYear : Nat) - epochDay

/-- The moment that a calendar time names. -/
def toSeconds (time : CalendarTime) : Int :=
  let marchYear := if time.month ≤ 2 then time.year - 1 else time.year
  let days := dayNumber marchYear ((time.month + 9) % 12) (time.day - 1)
  days * secondsInDay + (time.hour * 3600 + time.minute * 60 + time.second : Nat)

/-- Year, month and day of a day counted from the start of 1970. -/
def civilDate (day : Int) : Int × Nat × Nat :=
  let shifted := day + epochDay
  let era := shifted / daysInEra
  let dayOfEra := (shifted % daysInEra).toNat
  let century := min (dayOfEra / 36524) 3
  let dayOfCentury := dayOfEra - century * 36524
  let leapCycle := dayOfCentury / 1461
  let dayOfCycle := dayOfCentury % 1461
  let yearOfCycle := min (dayOfCycle / 365) 3
  let dayOfYear := dayOfCycle - yearOfCycle * 365
  let marchMonth := (5 * dayOfYear + 2) / 153
  let month := if marchMonth < 10 then marchMonth + 3 else marchMonth - 9
  let marchYear := era * 400 + (century * 100 + leapCycle * 4 + yearOfCycle : Nat)
  (if month ≤ 2 then marchYear + 1 else marchYear, month,
    dayOfYear - (153 * marchMonth + 2) / 5 + 1)

/-- The calendar time of a moment. -/
def ofSeconds (seconds : Int) : CalendarTime :=
  let (year, month, day) := civilDate (seconds / secondsInDay)
  let secondOfDay := (seconds % secondsInDay).toNat
  { year
    month
    day
    hour := secondOfDay / 3600
    minute := secondOfDay / 60 % 60
    second := secondOfDay % 60 }

/-- The first moment of the year -9999. -/
def earliest : Int := -377705116800

/-- The last moment of the year 9999. -/
def latest : Int := 253402300799

/-- Whether a moment is a date: its year has at most four digits. -/
def isRepresentable (seconds : Int) : Bool :=
  earliest ≤ seconds && seconds ≤ latest

/-- The decimal digits of a number with zeros in front up to a width. -/
def padded (width n : Nat) : List Char :=
  let digits := Nat.toDigits 10 n
  List.replicate (width - digits.length) '0' ++ digits

/-- A moment in words, for reports. -/
def describe (seconds : Int) : String :=
  let time := ofSeconds seconds
  let sign := if time.year < 0 then "-" else ""
  sign ++ String.ofList (padded 4 time.year.natAbs) ++ "-" ++
    String.ofList (padded 2 time.month) ++ "-" ++ String.ofList (padded 2 time.day) ++ " " ++
    toString time.hour ++ ":" ++ String.ofList (padded 2 time.minute) ++ ":" ++
    String.ofList (padded 2 time.second) ++ ".0 +00:00:00"

example : ofSeconds 951782400 = ⟨2000, 2, 29, 0, 0, 0⟩ := by decide

example : toSeconds ⟨-9999, 1, 1, 0, 0, 0⟩ = earliest := by decide

example : toSeconds ⟨9999, 12, 31, 23, 59, 59⟩ = latest := by decide

end CalendarTime

end MailProvision
