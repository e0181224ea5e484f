import MailProvision.Numeral.Reading

/-!
# Dates and times in settings

Dates, times of day and offsets as they are written without quotes, brought into one spelling: `T`
between date and time, `Z` for the zero offset by that name, and no zeros at the end of a fraction
of a second, as the `toml` package writes them.
-/

namespace MailProvision

namespace Settings

namespace Toml

/-- The number written by a fixed count of digits at the front. -/
def fixedDigits? (count : Nat) (chars : List Char) : Option (Nat × List Char) :=
  let front := chars.take count
  if front.length = count then (Numeral.nat? front).map fun n => (n, chars.drop count) else none

/-- Drops an expected character off the front. -/
def dropChar? (expected : Char) : List Char → Option (List Char)
  | c :: rest => if c = expected then some rest else none
  | [] => none

/-- The number of days in a month. -/
def daysInMonth (year month : Nat) : Nat :=
  if month = 2 then
    if year % 4 = 0 && (year % 100 ≠ 0 || year % 400 = 0) then 29 else 28
  else if month = 4 || month = 6 || month = 9 || month = 11 then 30
  else 31

/-- A number with leading zeros. -/
def padded (width n : Nat) : List Char :=
  let written := Nat.toDigits 10 n
  List.replicate (width - written.length) '0' ++ written

/-- A date at the front, in its usual spelling. -/
def date? (chars : List Char) : Option (List Char × List Char) := do
  let (year, afterYear) ← fixedDigits? 4 chars
  let (month, afterMonth) ← fixedDigits? 2 (← dropChar? '-' afterYear)
  let (day, rest) ← fixedDigits? 2 (← dropChar? '-' afterMonth)
  if month < 1 || 12 < month || day < 1 || daysInMonth year month < day then none
  else some (padded 4 year ++ '-' :: padded 2 month ++ '-' :: padded 2 day, rest)

/-- A fraction of a second at the front, cut to nanoseconds and without zeros at its end. -/
def fractionOfSecond? : List Char → Option (List Char × List Char)
  | '.' :: rest =>
      match Numeral.spanDigits rest with
      | ([], _) => none
      | (places, after) =>
          let kept := (places.take 9).reverse.dropWhile (· = '0')
          some (if kept.isEmpty then [] else '.' :: kept.reverse, after)
  | rest => some ([], rest)

/-- A time of day at the front. -/
def time? (chars : List Char) : Option (List Char × List Char) := do
  let (hour, afterHour) ← fixedDigits? 2 chars
  let (minute, afterMinute) ← fixedDigits? 2 (← dropChar? ':' afterHour)
  let (second, afterSecond) ← fixedDigits? 2 (← dropChar? ':' afterMinute)
  let (fraction, rest) ← fractionOfSecond? afterSecond
  if 23 < hour || 59 < minute || 60 < second then none
  else some (padded 2 hour ++ ':' :: padded 2 minute ++ ':' :: padded 2 second ++ fraction, rest)

/-- An offset from universal time at the front, if there is one. -/
def offset? : List Char → Option (List Char × List Char)
  | [] => some ([], [])
  | c :: rest =>
      if c = 'Z' || c = 'z' then some (['Z'], rest)
      else if c = '+' || c = '-' then do
        let (hour, afterHour) ← fixedDigits? 2 rest
        let (minute, after) ← fixedDigits? 2 (← dropChar? ':' afterHour)
        if 23 < hour || 59 < minute then none
        else
          let sign := if c = '-' && (hour ≠ 0 || minute ≠ 0) then '-' else '+'
          some (sign :: padded 2 hour ++ ':' :: padded 2 minute, after)
      else some ([], c :: rest)

/-- A time after a date, where a letter or a single blank leads to one. -/
def timeAfterDate? (chars : List Char) : Option (List Char × List Char) :=
  match chars with
  | c :: rest =>
      let wanted := c = 'T' || c = 't'
      let possible := c = ' ' && (rest.head?.bind Numeral.digit?).isSome
      if wanted || possible then do
        let (time, afterTime) ← time? rest
        let (offset, after) ← offset? afterTime
        return ('T' :: time ++ offset, after)
      else some ([], chars)
  | [] => some ([], [])

/-- A date, a time of day or both at the front. The outer option says whether the text starts like
one, the inner one whether it is one. -/
def moment? (chars : List Char) : Option (Option (String × List Char)) :=
  let front := Numeral.spanDigits chars
  match front.1.length, front.2 with
  | 4, '-' :: _ => some do
      let (date, afterDate) ← date? chars
      let (time, after) ← timeAfterDate? afterDate
      return (String.ofList (date ++ time), after)
  | 2, ':' :: _ => some do
      let (time, after) ← time? chars
      return (String.ofList time, after)
  | _, _ => none

end Toml

end Settings

end MailProvision
