import Sentry.Domain.Models
import Sentry.Support.Gregorian

/-!
# The market calendar

`UsEquityCalendar` of `app/clock/market_calendar.py`: the scheduled equity sessions, which are
verified for three years and refused for any other. Dates count days and times microseconds
from the first of January 1970.
-/
namespace Sentry

open Support

/-! ### Dates and zones -/

def epochOrdinal : ℤ := 719163

def date (year : ℤ) (month : ℕ) (day : ℤ) : Date :=
  Gregorian.ordinal year month day - epochOrdinal

def Date.year (day : Date) : ℤ := Gregorian.yearOf (day + epochOrdinal)

def Date.weekday (day : Date) : ℤ := Gregorian.weekday (day + epochOrdinal)

def paddedTo (width : ℕ) (n : ℕ) : String :=
  let digits := (toString n).toList
  String.ofList (List.replicate (width - digits.length) '0' ++ digits)

def Date.isoformat (day : Date) : String :=
  let (month, dayOfMonth) := Gregorian.monthDay (day + epochOrdinal)
  paddedTo 4 (Date.year day).toNat ++ "-" ++ paddedTo 2 month ++ "-" ++
    paddedTo 2 dayOfMonth.toNat

def hours (n : ℤ) : ℤ := n * 3600000000

def minutes (n : ℤ) : ℤ := n * 60000000

/-- A time zone. What its data say is not part of the repository. -/
structure ZoneInfo where
  utcoffset : Time → ℤ
  /-- The instant of a time of day, the earlier one where there are two. -/
  combine : Date → ℤ → Time

def ZoneInfo.date (zone : ZoneInfo) (now : Time) : Date := (now + zone.utcoffset now) / hours 24

/-! ### The calendar -/

def verifiedEarlyCloses : List (ℤ × List Date) :=
  [(2026, [date 2026 11 27, date 2026 12 24]),
   (2027, [date 2027 11 26]),
   (2028, [date 2028 7 3, date 2028 11 24])]

def observed (day : Date) : Date :=
  if Date.weekday day = 5 then day - 1
  else if Date.weekday day = 6 then day + 1
  else day

def nthWeekday (year : ℤ) (month : ℕ) (weekday ordinal : ℤ) : Date :=
  let current := date year month 1
  current + ((weekday - Date.weekday current) % 7 + 7 * (ordinal - 1))

def lastWeekday (year : ℤ) (month : ℕ) (weekday : ℤ) : Date :=
  let current :=
    if month = 12 then date (year + 1) 1 1 - 1 else date year (month + 1) 1 - 1
  current - (Date.weekday current - weekday) % 7

def easterSunday (year : ℤ) : Date :=
  let a := year % 19
  let b := year / 100
  let c := year % 100
  let d := b / 4
  let e := b % 4
  let f := (b + 8) / 25
  let g := (b - f + 1) / 3
  let h := (19 * a + b - d - g + 15) % 30
  let i := c / 4
  let k := c % 4
  let ell := (32 + 2 * e + 2 * i - h - k) % 7
  let m := (a + 11 * h + 22 * ell) / 451
  date year ((h + ell - 7 * m + 114) / 31).toNat ((h + ell - 7 * m + 114) % 31 + 1)

/-- `UsEquityCalendar`, with its zone. -/
structure UsEquityCalendar where
  timezone : ZoneInfo

namespace UsEquityCalendar

def verifiedYears : List ℤ := verifiedEarlyCloses.map Prod.fst

def scheduleVersion : String := "nyse-scheduled-2026-2028-verified-2026-09-03"

def requireVerifiedYear (year : ℤ) : Except String Unit :=
  if verifiedYears.contains year then .ok ()
  else .error ("NYSE session schedule is unverified for " ++ toString year ++
    "; refresh the official holiday and early-close calendar")

def holidays (year : ℤ) : List Date :=
  let newYear := date year 1 1
  ([nthWeekday year 1 0 3, nthWeekday year 2 0 3, easterSunday year - 2, lastWeekday year 5 0,
      observed (date year 7 4), nthWeekday year 9 0 1, nthWeekday year 11 3 4,
      observed (date year 12 25)] ++
    -- the Friday before a Saturday New Year's Day is not taken off
    (if Date.weekday newYear = 5 then [] else [observed newYear]) ++
    if 2022 ≤ year then [observed (date year 6 19)] else []).filter
      fun day => Date.year day == year

def isRegularSession (day : Date) : Bool :=
  decide (Date.weekday day < 5) && !(holidays (Date.year day)).contains day

def earlyCloses (year : ℤ) : Except String (List Date) := do
  requireVerifiedYear year
  return (verifiedEarlyCloses.lookup year).getD []

variable (calendar : UsEquityCalendar)

/-- None on a day without a session. -/
def regularSessionClose (day : Date) : Except String (Option Time) := do
  requireVerifiedYear (Date.year day)
  if isRegularSession day then
    let early ← earlyCloses (Date.year day)
    return some (calendar.timezone.combine day (if early.contains day then hours 13 else hours 16))
  else
    return none

/-! ### Coverage -/

/-- The days of the published schedule. -/
def Covered (day : Date) : Prop := date 2026 1 1 ≤ day ∧ day ≤ date 2028 12 31

instance (day : Date) : Decidable (Covered day) := inferInstanceAs (Decidable (_ ∧ _))

theorem covered_iff (day : Date) : Covered day ↔ Date.year day ∈ verifiedYears := by
  have range (year : ℤ) : Date.year day = year ↔
      Gregorian.daysBeforeYear year < day + epochOrdinal ∧
        day + epochOrdinal ≤ Gregorian.daysBeforeYear (year + 1) := Gregorian.yearOf_eq_iff
  have years : Date.year day ∈ verifiedYears ↔
      Date.year day = 2026 ∨ Date.year day = 2027 ∨ Date.year day = 2028 := by
    simp [verifiedYears, verifiedEarlyCloses]
  have first : date 2026 1 1 = 20454 := by decide
  have last : date 2028 12 31 = 21549 := by decide
  -- the three years follow one another
  have joined (n : ℤ) : 20454 ≤ n ∧ n ≤ 21549 ↔
      739616 < n + 719163 ∧ n + 719163 ≤ 739981 ∨ 739981 < n + 719163 ∧ n + 719163 ≤ 740346 ∨
        740346 < n + 719163 ∧ n + 719163 ≤ 740712 := by
    omega
  rw [years, range, range, range, Covered, first, last]
  exact joined day

theorem requireVerifiedYear_of_covered {day : Date} (covered : Covered day) :
    requireVerifiedYear (Date.year day) = .ok () := by
  unfold requireVerifiedYear
  rw [if_pos (List.contains_iff_mem.mpr ((covered_iff day).mp covered))]

/-- A close is known for the days of the schedule only. -/
theorem regularSessionClose_ok_iff (day : Date) :
    (∃ close, calendar.regularSessionClose day = .ok close) ↔ Covered day := by
  constructor
  · rintro ⟨close, known⟩
    by_contra uncovered
    rw [covered_iff, ← List.contains_iff_mem] at uncovered
    unfold regularSessionClose requireVerifiedYear at known
    rw [if_neg uncovered] at known
    cases known
  · intro covered
    have verified := requireVerifiedYear_of_covered covered
    unfold regularSessionClose earlyCloses
    simp only [verified]
    by_cases session : isRegularSession day = true
    · rw [if_pos session]
      exact ⟨_, rfl⟩
    · rw [if_neg session]
      exact ⟨_, rfl⟩

/-- Sessions that end early are sessions of the year they are listed under. -/
example : ∀ entry ∈ verifiedEarlyCloses, ∀ day ∈ entry.2,
    Date.year day = entry.1 ∧ isRegularSession day = true := by
  decide

end UsEquityCalendar

/-- New York by the rule in force since 2007: daylight saving time begins on the second Sunday
of March at two o'clock, and ends on the first Sunday of November. -/
def ZoneInfo.newYork : ZoneInfo where
  utcoffset now :=
    let year := Date.year ((now - hours 5) / hours 24)
    if nthWeekday year 3 6 2 * hours 24 + hours 7 ≤ now ∧
      now < nthWeekday year 11 6 1 * hours 24 + hours 6 then -hours 4 else -hours 5
  combine day time :=
    let year := Date.year day
    -- the hour that is left out still has the offset before it
    if nthWeekday year 3 6 2 * hours 24 + hours 3 ≤ day * hours 24 + time ∧
      day * hours 24 + time < nthWeekday year 11 6 1 * hours 24 + hours 2
    then day * hours 24 + time + hours 4 else day * hours 24 + time + hours 5

end Sentry
