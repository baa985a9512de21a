import Mathlib
import Scout.Moment.Document

/-!
# Dates of days

Every day from the first year on has a date of the calendar, and every number of
seconds that a document may give is a moment on such a date.
-/

namespace Scout

namespace Calendar

/-! ## Years of an era -/

variable {n : Int}

def yearOfEra (n : Int) : Int :=
  (n - n / 1460 + n / 36524 - n / 146096) / 365

/-- The day of that year, counted from the first of March. -/
def dayOfYear (n : Int) : Int :=
  n - (365 * yearOfEra n + yearOfEra n / 4 - yearOfEra n / 100)

theorem yearOfEra_bounds (low : 0 ≤ n) (high : n < 146097) :
    0 ≤ yearOfEra n ∧ yearOfEra n < 400 := by
  unfold yearOfEra
  constructor <;> omega

/-- How the year of a day is found: the century and the four years that the day itself
falls in differ by one at most from those of its year. -/
theorem yearOfEra_place (low : 0 ≤ n) (high : n < 146097) :
    (yearOfEra n / 100 = n / 36524 ∨ yearOfEra n / 100 = n / 36524 - 1) ∧
      (n / 1460 = yearOfEra n / 4 ∨ n / 1460 = yearOfEra n / 4 + 1) := by
  unfold yearOfEra
  generalize hd : n / 1460 = d
  generalize he : n / 36524 = e
  generalize hf : n / 146096 = f
  constructor <;> omega

theorem dayOfYear_bounds (low : 0 ≤ n) (high : n < 146097) :
    0 ≤ dayOfYear n ∧ dayOfYear n ≤ 365 := by
  obtain ⟨century, fours⟩ := yearOfEra_place low high
  have hyear : yearOfEra n = (n - n / 1460 + n / 36524 - n / 146096) / 365 := rfl
  unfold dayOfYear
  generalize yearOfEra n = y at *
  generalize he : n / 36524 = e at *
  generalize hd : n / 1460 = d at *
  rcases century with hc | hc <;> rcases fours with hq | hq <;> omega

/-- A year that has a 366th day ends with the leap day of the next one. -/
theorem leap_of_dayOfYear (low : 0 ≤ n) (high : n < 146097) (h : dayOfYear n = 365) :
    (yearOfEra n + 1) % 4 = 0 ∧ ((yearOfEra n + 1) % 100 = 0 → yearOfEra n = 399) := by
  obtain ⟨century, fours⟩ := yearOfEra_place low high
  have hyear : yearOfEra n = (n - n / 1460 + n / 36524 - n / 146096) / 365 := rfl
  unfold dayOfYear at h
  generalize yearOfEra n = y at *
  generalize he : n / 36524 = e at *
  generalize hd : n / 1460 = d at *
  generalize hf : n / 146096 = f at *
  -- with each quotient fixed up to one, what is left in every case is linear
  have last : f = 0 ∨ f = 1 ∧ n = 146096 := by omega
  have fourth : y % 4 = 0 ∨ y % 4 = 1 ∨ y % 4 = 2 ∨ y % 4 = 3 := by omega
  constructor
  · rcases century with hc | hc <;> rcases fours with hq | hq <;>
      rcases fourth with hk | hk | hk | hk <;> rcases last with hl | hl <;> omega
  · intro hundred
    rcases century with hc | hc <;> rcases fours with hq | hq <;>
      rcases last with hl | hl <;> omega

/-! ## Months -/

/-- The month that a day of a year falls in, counted from March. -/
def monthFromMarch (day : Int) : Int :=
  (5 * day + 2) / 153

def dayOfMonth (day : Int) : Int :=
  day - (153 * monthFromMarch day + 2) / 5 + 1

def month (day : Int) : Int :=
  if monthFromMarch day < 10 then monthFromMarch day + 3 else monthFromMarch day - 9

/-- The days of a year that begins in March are the days of its months; a 366th day needs
a leap year. -/
theorem isDate_of_dayOfYear {day year : Int} (low : 0 ≤ day) (high : day ≤ 365)
    (leap : day = 365 → isLeap year = true) :
    isDate year (month day).toNat (dayOfMonth day).toNat = true := by
  have hmonth : monthFromMarch day = (5 * day + 2) / 153 := rfl
  have first : 0 ≤ monthFromMarch day := by omega
  have last : monthFromMarch day < 12 := by omega
  unfold month dayOfMonth
  generalize monthFromMarch day = m at *
  interval_cases m <;> simp [isDate, daysInMonth] <;> try omega
  by_cases hleap : isLeap year = true
  · simp [hleap]
    omega
  · have hday : day ≠ 365 := fun e => hleap (leap e)
    simp [hleap]
    omega

theorem isLeap_of_remainders {year : Int} (four : year % 4 = 0)
    (hundred : year % 100 = 0 → year % 400 = 0) : isLeap year = true := by
  by_cases h : year % 100 = 0
  · simp [isLeap, four, hundred h]
  · simp [isLeap, four, h]

/-! ## Days from the epoch -/

/-- The first and the last day that a number of seconds may name are of the years up to 9999,
and every day between them has its date. -/
theorem ofDayNumber_isDate {days : Int} (low : -135140 ≤ days) (high : days ≤ 2932896) :
    0 ≤ (ofDayNumber days).1 ∧ (ofDayNumber days).1 < 10000 ∧
      isDate (ofDayNumber days).1 (ofDayNumber days).2.1 (ofDayNumber days).2.2 = true := by
  have hera : (days + 719468).fdiv 146097 = (days + 719468) / 146097 :=
    Int.fdiv_eq_ediv_of_nonneg _ (by decide)
  generalize he : (days + 719468) / 146097 = era at hera
  generalize hn : days + 719468 - era * 146097 = n
  have hform : ofDayNumber days =
      (if month (dayOfYear n) ≤ 2 then yearOfEra n + era * 400 + 1 else yearOfEra n + era * 400,
        (month (dayOfYear n)).toNat, (dayOfMonth (dayOfYear n)).toNat) := by
    rw [ofDayNumber, hera, hn]
    rfl
  have eras : 0 ≤ era ∧ era ≤ 24 := by omega
  have hlow : 0 ≤ n := by omega
  have hhigh : n < 146097 := by omega
  have years := yearOfEra_bounds hlow hhigh
  have dayBounds := dayOfYear_bounds hlow hhigh
  have final : era = 24 → n ≤ 146036 := by omega
  rw [hform]
  refine ⟨by dsimp only; split <;> omega, ?_, isDate_of_dayOfYear dayBounds.1 dayBounds.2 ?_⟩
  · -- the year goes up with January, and the last era stops before that of the year 10000
    have turned : month (dayOfYear n) ≤ 2 → 306 ≤ dayOfYear n := by
      unfold month monthFromMarch
      split <;> omega
    have counted :
        dayOfYear n = n - (365 * yearOfEra n + yearOfEra n / 4 - yearOfEra n / 100) := rfl
    dsimp only
    split <;> omega
  · intro hlast
    have february : month 365 = 2 := by decide
    obtain ⟨four, hundred⟩ := leap_of_dayOfYear hlow hhigh hlast
    rw [hlast, february, if_pos le_rfl]
    exact isLeap_of_remainders (by omega) (by omega)

end Calendar

namespace Moment

/-- Whether the moment is on a date of the calendar, at a time of day, and at a distance
from universal time that a document can say. -/
structure IsDated (m : Moment) : Prop where
  year : m.year < 10000
  date : Calendar.isDate m.year m.month m.day = true
  hour : m.hour < 24
  minute : m.minute < 60
  second : m.second < 60
  micro : m.micro < 1000000
  offset : ∀ s, m.offset = some s → s.natAbs < 86400 ∧ s.natAbs % 60 = 0

theorem isDated_ofEpoch {seconds : Int} {micro : Nat} (low : -11676096000 ≤ seconds)
    (high : seconds ≤ 253402300799) (hmicro : micro < 1000000) :
    (ofEpoch seconds micro).IsDated := by
  have hdays : seconds.fdiv 86400 = seconds / 86400 :=
    Int.fdiv_eq_ediv_of_nonneg _ (by decide)
  have hdate := @Calendar.ofDayNumber_isDate (seconds / 86400) (by omega) (by omega)
  have hform : ofEpoch seconds micro =
      ⟨(Calendar.ofDayNumber (seconds / 86400)).1.toNat,
        (Calendar.ofDayNumber (seconds / 86400)).2.1, (Calendar.ofDayNumber (seconds / 86400)).2.2,
        (seconds - seconds / 86400 * 86400).toNat / 3600,
        (seconds - seconds / 86400 * 86400).toNat / 60 % 60,
        (seconds - seconds / 86400 * 86400).toNat % 60, micro, some 0⟩ := by
    rw [ofEpoch, hdays]
  rw [hform]
  obtain ⟨hfirst, hlast, hdate⟩ := hdate
  exact {
    year := by
      dsimp only
      omega
    date := by
      dsimp only
      rwa [Int.toNat_of_nonneg hfirst]
    hour := by
      dsimp only
      omega
    minute := Nat.mod_lt _ (by decide)
    second := Nat.mod_lt _ (by decide)
    micro := hmicro
    offset := by
      intro s hs
      cases hs
      decide }

theorem isDated_ofTimestamp {stamp : Int} {micro : Nat} {m : Moment}
    (h : ofTimestamp stamp micro = .ok m) : m.IsDated := by
  unfold ofTimestamp at h
  split at h
  extract_lets total seconds at h
  split at h
  · cases h
  split at h
  · cases h
  · cases h
    exact isDated_ofEpoch (by omega) (by omega) (Nat.mod_lt _ (by decide))

end Moment

end Scout
