import Mathlib.Order.Monotone.Basic
import MailProvision.Certificate.Calendar

/-!
# Moments and dates

A day has a place in its era: a century, a cycle of four years, a year and a month counted from
March (`CalendarTime.EraDay`). The divisions that split a day find exactly this place, so what a
moment is split into is a date of the calendar and names this moment.
-/

namespace MailProvision

namespace CalendarTime

/-! ## Dates -/

def IsLeapYear (year : Int) : Prop :=
  year % 4 = 0 ∧ (year % 100 = 0 → year % 400 = 0)

instance (year : Int) : Decidable (IsLeapYear year) :=
  inferInstanceAs (Decidable (_ ∧ (_ → _)))

def daysInMonth (year : Int) (month : Nat) : Nat :=
  if month = 2 then if IsLeapYear year then 29 else 28
  else if month ∈ [4, 6, 9, 11] then 30
  else 31

/-- There is such a day, and such a time of the day. -/
structure IsDate (time : CalendarTime) : Prop where
  month : 1 ≤ time.month ∧ time.month ≤ 12
  day : 1 ≤ time.day ∧ time.day ≤ daysInMonth time.year time.month
  hour : time.hour ≤ 23
  minute : time.minute ≤ 59
  second : time.second ≤ 59

theorem daysInMonth_le (year : Int) (month : Nat) : daysInMonth year month ≤ 31 := by
  unfold daysInMonth
  split
  · split
    · decide
    · decide
  · split
    · decide
    · decide

theorem daysInMonth_two (year : Int) :
    daysInMonth year 2 = if IsLeapYear year then 29 else 28 :=
  rfl

/-! ## Days of an era -/

/-- The days of a year from March up to a month counted from March. -/
def daysBeforeMonth (marchMonth : Nat) : Nat :=
  (153 * marchMonth + 2) / 5

/-- The number of a month that is counted from March. -/
def usualMonth (marchMonth : Nat) : Nat :=
  if marchMonth < 10 then marchMonth + 3 else marchMonth - 9

theorem usualMonth_bounds {marchMonth : Nat} (bound : marchMonth ≤ 11) :
    1 ≤ usualMonth marchMonth ∧ usualMonth marchMonth ≤ 12 := by
  unfold usualMonth
  by_cases early : marchMonth < 10
  · rw [if_pos early]
    omega
  · rw [if_neg early]
    omega

theorem usualMonth_add_nine {marchMonth : Nat} (bound : marchMonth ≤ 11) :
    (usualMonth marchMonth + 9) % 12 = marchMonth := by
  unfold usualMonth
  by_cases early : marchMonth < 10
  · rw [if_pos early]
    omega
  · rw [if_neg early]
    omega

/-- All months but February have their number of days in every year. -/
theorem daysBeforeMonth_add (year : Int) {marchMonth : Nat} (bound : marchMonth ≤ 10) :
    daysBeforeMonth marchMonth + daysInMonth year (usualMonth marchMonth) =
      daysBeforeMonth (marchMonth + 1) := by
  have months : ∀ month ≤ 10, usualMonth month ≠ 2 ∧ daysBeforeMonth month +
      (if usualMonth month ∈ [4, 6, 9, 11] then 30 else 31) = daysBeforeMonth (month + 1) := by
    decide
  rw [daysInMonth, if_neg (months _ bound).1]
  exact (months _ bound).2

/-- The place of a day in four hundred years. The last day of a year from March to March is missing
where February has 28 days. -/
structure EraDay where
  century : Nat
  leapCycle : Nat
  yearOfCycle : Nat
  marchMonth : Nat
  dayOfMonth : Nat
  century_le : century ≤ 3
  leapCycle_le : leapCycle ≤ 24
  yearOfCycle_le : yearOfCycle ≤ 3
  marchMonth_le : marchMonth ≤ 11
  inMonth : marchMonth ≤ 10 →
    daysBeforeMonth marchMonth + dayOfMonth < daysBeforeMonth (marchMonth + 1)
  inYear : daysBeforeMonth marchMonth + dayOfMonth < 365 ∨
    daysBeforeMonth marchMonth + dayOfMonth = 365 ∧
      yearOfCycle = 3 ∧ (leapCycle = 24 → century = 3)

namespace EraDay

variable (day : EraDay)

def dayOfYear : Nat :=
  daysBeforeMonth day.marchMonth + day.dayOfMonth

/-- The days before it in the era. -/
def number : Nat :=
  day.century * 36524 + day.leapCycle * 1461 + day.yearOfCycle * 365 + day.dayOfYear

/-- The year of the era, from March to March. -/
def yearOfEra : Nat :=
  day.century * 100 + day.leapCycle * 4 + day.yearOfCycle

/-- The usual month. -/
def month : Nat :=
  usualMonth day.marchMonth

/-- The usual year. -/
def year (era : Int) : Int :=
  if day.month ≤ 2 then era * 400 + day.yearOfEra + 1 else era * 400 + day.yearOfEra

/-- Whether February at the end of the year from March to March has 29 days. -/
def EndsLong : Prop :=
  day.yearOfCycle = 3 ∧ (day.leapCycle = 24 → day.century = 3)

theorem yearOfEra_lt : day.yearOfEra < 400 := by
  have century := day.century_le
  have leapCycle := day.leapCycle_le
  have yearOfCycle := day.yearOfCycle_le
  unfold yearOfEra
  omega

theorem endsLong_iff (era : Int) : day.EndsLong ↔ IsLeapYear (era * 400 + day.yearOfEra + 1) := by
  have century := day.century_le
  have leapCycle := day.leapCycle_le
  have yearOfCycle := day.yearOfCycle_le
  unfold EndsLong IsLeapYear yearOfEra
  omega

theorem marchYear_eq (era : Int) :
    (if day.month ≤ 2 then day.year era - 1 else day.year era) = era * 400 + day.yearOfEra := by
  unfold year
  by_cases late : day.month ≤ 2
  · rw [if_pos late, if_pos late]
    omega
  · rw [if_neg late, if_neg late]

/-- The days before a year of an era that is given by century, cycle and year in the cycle. -/
theorem days_yearOfEra :
    day.yearOfEra * 365 + day.yearOfEra / 4 - day.yearOfEra / 100 =
      day.century * 36524 + day.leapCycle * 1461 + day.yearOfCycle * 365 := by
  have leapCycle := day.leapCycle_le
  have yearOfCycle := day.yearOfCycle_le
  unfold yearOfEra
  have cycles : (day.century * 100 + day.leapCycle * 4 + day.yearOfCycle) / 4 =
      day.century * 25 + day.leapCycle := by omega
  have centuries : (day.century * 100 + day.leapCycle * 4 + day.yearOfCycle) / 100 =
      day.century := by omega
  rw [cycles, centuries]
  omega

theorem dayNumber_eq (era : Int) :
    dayNumber (era * 400 + day.yearOfEra) day.marchMonth day.dayOfMonth =
      era * daysInEra + day.number - epochDay := by
  have days := day.days_yearOfEra
  have bound := day.yearOfEra_lt
  have whole : (era * 400 + (day.yearOfEra : Int)) / 400 = era := by omega
  have part : ((era * 400 + (day.yearOfEra : Int)) % 400).toNat = day.yearOfEra := by omega
  simp only [dayNumber, whole, part]
  rw [days, number, dayOfYear, daysBeforeMonth]

theorem dayOfYear_le : day.dayOfYear ≤ 365 := by
  have inYear := day.inYear
  unfold dayOfYear
  omega

theorem century_eq : min (day.number / 36524) 3 = day.century := by
  have century := day.century_le
  have leapCycle := day.leapCycle_le
  have yearOfCycle := day.yearOfCycle_le
  have inYear := day.inYear
  unfold number dayOfYear
  omega

theorem dayOfCentury_eq : day.number - day.century * 36524 =
    day.leapCycle * 1461 + (day.yearOfCycle * 365 + day.dayOfYear) := by
  unfold number
  omega

theorem dayOfCycle_lt : day.yearOfCycle * 365 + day.dayOfYear < 1461 := by
  have yearOfCycle := day.yearOfCycle_le
  have dayOfYear := day.dayOfYear_le
  omega

theorem yearOfCycle_eq :
    min ((day.yearOfCycle * 365 + day.dayOfYear) / 365) 3 = day.yearOfCycle := by
  have yearOfCycle := day.yearOfCycle_le
  have inYear := day.inYear
  unfold dayOfYear
  omega

theorem marchMonth_eq : (5 * day.dayOfYear + 2) / 153 = day.marchMonth := by
  have marchMonth := day.marchMonth_le
  have dayOfYear_le := day.dayOfYear_le
  have inMonth := day.inMonth
  unfold dayOfYear daysBeforeMonth at *
  omega

theorem number_lt : day.number < 146097 := by
  have century := day.century_le
  have leapCycle := day.leapCycle_le
  have yearOfCycle := day.yearOfCycle_le
  have inYear := day.inYear
  unfold number dayOfYear
  omega

/-- The divisions find the place of the day. -/
theorem civilDate_eq (era : Int) :
    civilDate (era * daysInEra + day.number - epochDay) =
      (day.year era, day.month, day.dayOfMonth + 1) := by
  have bound := day.number_lt
  have inCycle := day.dayOfCycle_lt
  have whole : (era * daysInEra + (day.number : Int) - epochDay + epochDay) / daysInEra = era := by
    simp only [daysInEra]
    omega
  have part : ((era * daysInEra + (day.number : Int) - epochDay + epochDay) % daysInEra).toNat =
      day.number := by
    simp only [daysInEra]
    omega
  have cycle : (day.leapCycle * 1461 + (day.yearOfCycle * 365 + day.dayOfYear)) / 1461 =
      day.leapCycle := by omega
  have rest : (day.leapCycle * 1461 + (day.yearOfCycle * 365 + day.dayOfYear)) % 1461 =
      day.yearOfCycle * 365 + day.dayOfYear := by omega
  have dayOfMonth : day.dayOfYear - (153 * day.marchMonth + 2) / 5 = day.dayOfMonth :=
    Nat.add_sub_cancel_left _ _
  simp only [civilDate, whole, part, day.century_eq, day.dayOfCentury_eq, cycle, rest,
    day.yearOfCycle_eq, Nat.add_sub_cancel_left, day.marchMonth_eq, dayOfMonth]
  rfl

theorem exists_of_lt {number : Nat} (inside : number < 146097) :
    ∃ day : EraDay, day.number = number := by
  obtain ⟨century, few⟩ : ∃ century, century = min (number / 36524) 3 := ⟨_, rfl⟩
  obtain ⟨dayOfCentury, inCentury⟩ : ∃ day, day = number - century * 36524 := ⟨_, rfl⟩
  have bound : dayOfCentury ≤ 36524 := by omega
  obtain ⟨yearOfCycle, year⟩ : ∃ year, year = min (dayOfCentury % 1461 / 365) 3 := ⟨_, rfl⟩
  obtain ⟨dayOfYear, inYear⟩ : ∃ day, day = dayOfCentury % 1461 - yearOfCycle * 365 := ⟨_, rfl⟩
  have bound' : dayOfYear ≤ 365 := by omega
  obtain ⟨marchMonth, march⟩ : ∃ month, month = (5 * dayOfYear + 2) / 153 := ⟨_, rfl⟩
  refine ⟨{
    century
    leapCycle := dayOfCentury / 1461
    yearOfCycle
    marchMonth
    dayOfMonth := dayOfYear - (153 * marchMonth + 2) / 5
    century_le := by omega
    leapCycle_le := by omega
    yearOfCycle_le := by omega
    marchMonth_le := by omega
    inMonth := by
      intro early
      simp only [daysBeforeMonth]
      omega
    inYear := by
      simp only [daysBeforeMonth]
      omega }, ?_⟩
  simp only [EraDay.number, EraDay.dayOfYear, daysBeforeMonth]
  omega

theorem le_daysInMonth (era : Int) :
    day.dayOfMonth + 1 ≤ daysInMonth (day.year era) day.month := by
  have bound := day.marchMonth_le
  by_cases february : day.marchMonth = 11
  · have inYear := day.inYear
    have long := day.endsLong_iff era
    have month : day.month = 2 := by
      rw [month, february]
      rfl
    have year : day.year era = era * 400 + day.yearOfEra + 1 := by
      rw [year, if_pos (Nat.le_of_eq month)]
    rw [february] at inYear
    simp only [daysBeforeMonth] at inYear
    rw [year, month, daysInMonth_two]
    by_cases leap : IsLeapYear (era * 400 + day.yearOfEra + 1)
    · rw [if_pos leap]
      omega
    · have short := mt long.1 leap
      rw [if_neg leap]
      unfold EndsLong at short
      omega
  · have early : day.marchMonth ≤ 10 := by omega
    have inMonth := day.inMonth early
    have days := daysBeforeMonth_add (day.year era) early
    unfold month
    omega

end EraDay

theorem exists_eraDay (number : Int) :
    ∃ (day : EraDay) (era : Int), number = era * daysInEra + day.number - epochDay := by
  have inside : ((number + epochDay) % daysInEra).toNat < 146097 := by
    simp only [daysInEra]
    omega
  rcases EraDay.exists_of_lt inside with ⟨day, same⟩
  refine ⟨day, (number + epochDay) / daysInEra, ?_⟩
  rw [same]
  simp only [daysInEra]
  omega

theorem isDate_ofSeconds (seconds : Int) : (ofSeconds seconds).IsDate := by
  rcases exists_eraDay (seconds / secondsInDay) with ⟨day, era, number⟩
  have inDay : (seconds % secondsInDay).toNat < 86400 := by
    simp only [secondsInDay]
    omega
  simp only [ofSeconds, number, day.civilDate_eq]
  refine ⟨usualMonth_bounds day.marchMonth_le, ⟨Nat.le_add_left _ _, day.le_daysInMonth era⟩,
    ?_, ?_, ?_⟩
  · simp only
    omega
  · simp only
    omega
  · simp only
    omega

/-- A moment is the one that its calendar time names. -/
theorem toSeconds_ofSeconds (seconds : Int) : (ofSeconds seconds).toSeconds = seconds := by
  rcases exists_eraDay (seconds / secondsInDay) with ⟨day, era, number⟩
  have marchMonth : (day.month + 9) % 12 = day.marchMonth := usualMonth_add_nine day.marchMonth_le
  simp only [toSeconds, ofSeconds, number, day.civilDate_eq, day.marchYear_eq, marchMonth,
    Nat.add_sub_cancel, day.dayNumber_eq]
  rw [← number]
  simp only [secondsInDay]
  omega

/-! ## Years -/

/-- The first moment of a year. -/
def startOfYear (year : Int) : Int :=
  dayNumber (year - 1) 10 0 * secondsInDay

theorem startOfYear_le_succ (year : Int) : startOfYear year ≤ startOfYear (year + 1) := by
  simp only [startOfYear, dayNumber, daysInEra, epochDay, secondsInDay]
  omega

/-- A date lies between the start of its year and the start of the next one. -/
theorem toSeconds_bounds {time : CalendarTime} (date : time.IsDate) :
    startOfYear time.year ≤ time.toSeconds ∧ time.toSeconds < startOfYear (time.year + 1) := by
  rcases date with ⟨⟨first, last⟩, ⟨positive, inside⟩, hours, minutes, seconds⟩
  have short := Nat.le_trans inside (daysInMonth_le time.year time.month)
  simp only [toSeconds, startOfYear, dayNumber, daysInEra, epochDay, secondsInDay]
  by_cases early : time.month ≤ 2
  · rw [if_pos early]
    have month : (time.month + 9) % 12 = 10 ∨ (time.month + 9) % 12 = 11 := by omega
    rcases month with month | month
    · rw [month]
      omega
    · rw [month]
      omega
  · rw [if_neg early]
    have month : (time.month + 9) % 12 ≤ 9 := by omega
    generalize (time.month + 9) % 12 = marchMonth at month ⊢
    omega

/-- A moment can be represented if and only if its year has at most four digits. -/
theorem isRepresentable_iff {seconds : Int} : isRepresentable seconds = true ↔
    -9999 ≤ (ofSeconds seconds).year ∧ (ofSeconds seconds).year ≤ 9999 := by
  have bounds := toSeconds_bounds (isDate_ofSeconds seconds)
  rw [toSeconds_ofSeconds] at bounds
  have ordered : Monotone startOfYear := monotone_int_of_le_succ startOfYear_le_succ
  have first : startOfYear (-9999) = earliest := by decide
  have last : startOfYear 10000 = latest + 1 := by decide
  rw [isRepresentable, Bool.and_eq_true, decide_eq_true_iff, decide_eq_true_iff]
  constructor
  · rintro ⟨begun, unfinished⟩
    constructor
    · by_contra early
      have before := @ordered ((ofSeconds seconds).year + 1) (-9999) (by omega)
      omega
    · by_contra late
      have after := @ordered 10000 (ofSeconds seconds).year (by omega)
      omega
  · rintro ⟨begun, unfinished⟩
    have after := @ordered (-9999) (ofSeconds seconds).year begun
    have before := @ordered ((ofSeconds seconds).year + 1) 10000 (by omega)
    omega

end CalendarTime

end MailProvision
