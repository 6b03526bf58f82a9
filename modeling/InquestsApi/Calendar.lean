import Mathlib.Data.List.Basic
import Mathlib.Tactic.NormNum

/-! Dates and timestamps of the proleptic Gregorian calendar, years 1 to 9999.
Timestamps are in UTC, as every stored timestamp is read. -/
namespace InquestsApi

def isLeap (year : ℕ) : Bool := year % 4 = 0 && (year % 100 ≠ 0 || year % 400 = 0)

/-- The length of a month, the second component of `calendar.monthrange`. -/
def monthLength (year month : ℕ) : ℕ :=
  if month = 2 then (if isLeap year then 29 else 28)
  else if month = 4 ∨ month = 6 ∨ month = 9 ∨ month = 11 then 30
  else 31

def maxYear : ℕ := 9999

structure Date where
  year : ℕ
  month : ℕ
  day : ℕ
  year_valid : 1 ≤ year ∧ year ≤ maxYear
  month_valid : 1 ≤ month ∧ month ≤ 12
  day_valid : 1 ≤ day ∧ day ≤ monthLength year month
  deriving DecidableEq

namespace Date

/-- The constructor `date(year, month, day)`; `none` is its `ValueError`. -/
def make (year month day : ℕ) : Option Date :=
  if hy : 1 ≤ year ∧ year ≤ maxYear then
    if hm : 1 ≤ month ∧ month ≤ 12 then
      if hd : 1 ≤ day ∧ day ≤ monthLength year month then some ⟨year, month, day, hy, hm, hd⟩
      else none
    else none
  else none

theorem make_eq_none_iff {year month day : ℕ} (hm : 1 ≤ month ∧ month ≤ 12)
    (hd : 1 ≤ day ∧ day ≤ monthLength year month) :
    make year month day = none ↔ ¬ (1 ≤ year ∧ year ≤ maxYear) := by
  unfold make
  by_cases hy : 1 ≤ year ∧ year ≤ maxYear
  · simp only [hy, hm, hd, and_self, ↓reduceDIte, reduceCtorEq, not_true_eq_false]
  · rw [dif_neg hy]
    exact iff_of_true rfl hy

/-- Dates compare by year, then month, then day. -/
def before (a b : Date) : Bool :=
  a.year < b.year
    || (a.year = b.year && (a.month < b.month || (a.month = b.month && a.day < b.day)))

def daysBeforeYear (year : ℕ) : ℕ :=
  (year - 1) * 365 + (year - 1) / 4 - (year - 1) / 100 + (year - 1) / 400

def daysBeforeMonth (year month : ℕ) : ℕ :=
  ((List.range (month - 1)).map fun i => monthLength year (i + 1)).sum

def toOrdinal (d : Date) : ℕ := daysBeforeYear d.year + daysBeforeMonth d.year d.month + d.day

/-- The month and day that lie a number of days after the first of a month. -/
def monthAndDay (year : ℕ) : (month days : ℕ) → List ℕ → ℕ × ℕ
  | month, days, [] => (month, days + 1)
  | month, days, length :: rest =>
    if days < length then (month, days + 1) else monthAndDay year (month + 1) (days - length) rest

/-- `date.fromordinal`, by cycles of 400, 100, 4 and single years. -/
def ofOrdinal (ordinal : ℕ) : Option Date :=
  let n := ordinal - 1
  let n400 := n / 146097
  let n100 := n % 146097 / 36524
  let n4 := n % 146097 % 36524 / 1461
  let n1 := n % 146097 % 36524 % 1461 / 365
  let year := n400 * 400 + n100 * 100 + n4 * 4 + n1 + 1
  if ordinal = 0 then none
  else if n1 = 4 ∨ n100 = 4 then make (year - 1) 12 31
  else
    let (month, day) := monthAndDay year 1 (n % 146097 % 36524 % 1461 % 365)
      ((List.range 11).map fun i => monthLength year (i + 1))
    make year month day

/-- Adding a day; `none` is the `OverflowError` after the last day of the calendar. -/
def next (d : Date) : Option Date := ofOrdinal (d.toOrdinal + 1)

section IsoFormat

/-- The ordinal of the Monday that begins the first week of a year. -/
def isoWeek1Monday (year : ℕ) : ℕ :=
  let firstDay := daysBeforeYear year + 1
  let firstWeekday := (firstDay + 6) % 7
  if 3 < firstWeekday then firstDay - firstWeekday + 7 else firstDay - firstWeekday

/-- A year has a week 53 when it begins on a Thursday, or on a Wednesday if it is a leap year. -/
def hasWeek53 (year : ℕ) : Bool :=
  let firstWeekday := (daysBeforeYear year + 1) % 7
  firstWeekday = 4 || (firstWeekday = 3 && isLeap year)

def ofIsoWeek (year week day : ℕ) : Option Date :=
  if (1 ≤ year ∧ year ≤ maxYear) ∧ (1 ≤ week ∧ (week ≤ 52 ∨ week = 53 ∧ hasWeek53 year))
      ∧ 1 ≤ day ∧ day ≤ 7 then
    ofOrdinal (isoWeek1Monday year + (week - 1) * 7 + (day - 1))
  else none

/-- A number of the given count of ASCII digits, and the text behind it. -/
def parseDigits : (count value : ℕ) → List Char → Option (ℕ × List Char)
  | 0, value, text => some (value, text)
  | _ + 1, _, [] => none
  | count + 1, value, c :: rest =>
    if '0' ≤ c ∧ c ≤ '9' then parseDigits count (value * 10 + (c.toNat - '0'.toNat)) rest else none

def parseDash : (separated : Bool) → List Char → Option (List Char)
  | false, text => some text
  | true, '-' :: rest => some rest
  | true, _ => none

/-- `date.fromisoformat`: a calendar date or a week date, with its dashes or without. The bytes of the whole
text are counted, but not whether the date takes them all. -/
def fromIsoformat (text : String) : Option Date := do
  if text.utf8ByteSize ∉ [7, 8, 10] then none
  else
    let (year, rest) ← parseDigits 4 0 text.toList
    let separated := rest.head? = some '-'
    match if separated then rest.tail else rest with
    | 'W' :: rest =>
      let (week, rest) ← parseDigits 2 0 rest
      if rest = [] then ofIsoWeek year week 1
      else
        let rest ← parseDash separated rest
        let (day, _) ← parseDigits 1 0 rest
        ofIsoWeek year week day
    | rest =>
      let (month, rest) ← parseDigits 2 0 rest
      let rest ← parseDash separated rest
      let (day, _) ← parseDigits 2 0 rest
      make year month day

example : fromIsoformat "2024-W01-3" = make 2024 1 3 := by decide +kernel
example : fromIsoformat "20240229" = make 2024 2 29 := by decide +kernel
example : fromIsoformat "2023-0229" = none := by decide +kernel
example : fromIsoformat "20240101xx" = make 2024 1 1 := by decide +kernel
example : fromIsoformat "2024W013é" = make 2024 1 3 := by decide +kernel
example : fromIsoformat "20240101x" = none := by decide +kernel

end IsoFormat

end Date

theorem monthLength_pos (year month : ℕ) : 1 ≤ monthLength year month := by
  unfold monthLength
  split_ifs <;> norm_num

/-- Add whole calendar months, clamping the day to the target month length. -/
def addCalendarMonths (start : Date) (months : ℕ) : Option Date :=
  let monthIndex := start.month - 1 + months
  let year := start.year + monthIndex / 12
  let month := monthIndex % 12 + 1
  Date.make year month (min start.day (monthLength year month))

/-- Only the year can leave the calendar: the clamped day always exists. -/
theorem addCalendarMonths_eq_none_iff (start : Date) (months : ℕ) :
    addCalendarMonths start months = none ↔
      maxYear < start.year + (start.month - 1 + months) / 12 := by
  have hstart := start.year_valid
  have hmonth : 1 ≤ (start.month - 1 + months) % 12 + 1 ∧
      (start.month - 1 + months) % 12 + 1 ≤ 12 := by omega
  have hlength := monthLength_pos (start.year + (start.month - 1 + months) / 12)
    ((start.month - 1 + months) % 12 + 1)
  rw [addCalendarMonths, Date.make_eq_none_iff hmonth
    ⟨le_min start.day_valid.1 hlength, min_le_right _ _⟩]
  omega

/-- A UTC timestamp to the microsecond. -/
structure Datetime where
  date : Date
  micros : ℕ
  deriving DecidableEq

namespace Datetime

def microsPerDay : ℕ := 86400000000

/-- Microseconds since the start of the calendar. -/
def instant (t : Datetime) : ℤ := t.date.toOrdinal * microsPerDay + t.micros

end Datetime

end InquestsApi
