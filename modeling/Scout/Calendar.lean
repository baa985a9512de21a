/-!
# The civil calendar

Days are counted from 1970-01-01. Weeks begin on Monday, and the first week of a year is the one
that holds its first Thursday.
-/

namespace Scout.Calendar

def isLeap (year : Int) : Bool :=
  year % 4 == 0 && (year % 100 != 0 || year % 400 == 0)

def daysInMonth (year : Int) (month : Nat) : Nat :=
  match month with
  | 2 => if isLeap year then 29 else 28
  | 4 | 6 | 9 | 11 => 30
  | _ => 31

/-- Whether there is such a day. -/
def isDate (year : Int) (month day : Nat) : Bool :=
  1 ≤ month && month ≤ 12 && 1 ≤ day && day ≤ daysInMonth year month

/-- Days from the epoch; years are counted from March so that the leap day comes last. -/
def dayNumber (year : Int) (month day : Nat) : Int :=
  let y := if month ≤ 2 then year - 1 else year
  let era := y.fdiv 400
  let yearOfEra := y - era * 400
  let monthFromMarch : Int := (month + 9) % 12
  let dayOfYear := (153 * monthFromMarch + 2) / 5 + day - 1
  let dayOfEra := yearOfEra * 365 + yearOfEra / 4 - yearOfEra / 100 + dayOfYear
  era * 146097 + dayOfEra - 719468

/-- The date of a day. -/
def ofDayNumber (days : Int) : Int × Nat × Nat :=
  let z := days + 719468
  let era := z.fdiv 146097
  let dayOfEra := z - era * 146097
  let yearOfEra := (dayOfEra - dayOfEra / 1460 + dayOfEra / 36524 - dayOfEra / 146096) / 365
  let dayOfYear := dayOfEra - (365 * yearOfEra + yearOfEra / 4 - yearOfEra / 100)
  let monthFromMarch := (5 * dayOfYear + 2) / 153
  let day := dayOfYear - (153 * monthFromMarch + 2) / 5 + 1
  let month := if monthFromMarch < 10 then monthFromMarch + 3 else monthFromMarch - 9
  let year := yearOfEra + era * 400
  (if month ≤ 2 then year + 1 else year, month.toNat, day.toNat)

/-- Monday is 0. -/
def weekday (days : Int) : Nat :=
  ((days + 3).fmod 7).toNat

/-- The Monday of the first week of a year. -/
def firstMonday (year : Int) : Int :=
  let jan1 := dayNumber year 1 1
  let w := weekday jan1
  if w ≤ 3 then jan1 - w else jan1 + (7 - w)

/-- The day named by year, week and day of the week, if the year has that week. -/
def ofWeek? (year : Int) (week day : Nat) : Option Int :=
  let start := firstMonday year
  if 1 ≤ week && 1 ≤ day && day ≤ 7 && start + 7 * (week - 1) < firstMonday (year + 1) then
    some (start + 7 * (week - 1) + (day - 1))
  else none

end Scout.Calendar
