import InquestsApi.Calendar

/-! Day numbers of dates: a date is found again under its own number, and a week date has a number
that no other week date has. Dates as digits. -/
namespace InquestsApi
namespace Date

section DayNumbers

variable {year month day : ℕ} {d : Date}

theorem make_some (h : make year month day = some d) :
    d.year = year ∧ d.month = month ∧ d.day = day := by
  unfold make at h
  split_ifs at h
  cases h
  exact ⟨rfl, rfl, rfl⟩

theorem daysBeforeMonth_succ (year month : ℕ) (h : 1 ≤ month) :
    daysBeforeMonth year (month + 1) = daysBeforeMonth year month + monthLength year month := by
  obtain ⟨m, rfl⟩ := Nat.exists_eq_add_of_le h
  have hpred : 1 + m + 1 - 1 = m + 1 := by omega
  have hpred' : 1 + m - 1 = m := by omega
  unfold daysBeforeMonth
  rw [hpred, hpred', List.range_succ, List.map_append, List.sum_append, List.map_singleton,
    List.sum_singleton, Nat.add_comm m 1]

/-- The lengths of consecutive months, from a given one on. -/
def MonthsFrom (year month : ℕ) (lengths : List ℕ) : Prop :=
  ∀ i (h : i < lengths.length), lengths.get ⟨i, h⟩ = monthLength year (month + i)

theorem MonthsFrom.head {length : ℕ} {rest : List ℕ} (h : MonthsFrom year month (length :: rest)) :
    length = monthLength year month :=
  h 0 (Nat.zero_lt_succ _)

theorem MonthsFrom.tail {length : ℕ} {rest : List ℕ} (h : MonthsFrom year month (length :: rest)) :
    MonthsFrom year (month + 1) rest := by
  intro i hi
  rw [Nat.add_assoc, Nat.add_comm 1 i]
  exact h (i + 1) (Nat.succ_lt_succ hi)

/-- The months that `ofOrdinal` goes through. -/
theorem monthsFrom_january (year : ℕ) :
    MonthsFrom year 1 ((List.range 11).map fun i => monthLength year (i + 1)) := by
  intro i hi
  simp [Nat.add_comm]

/-- Going through the months keeps the number of days before them. -/
theorem monthAndDay_days {lengths : List ℕ} {days : ℕ} (hmonth : 1 ≤ month)
    (hlengths : MonthsFrom year month lengths) :
    daysBeforeMonth year (monthAndDay year month days lengths).1 + (monthAndDay year month days lengths).2
      = daysBeforeMonth year month + days + 1 := by
  induction lengths generalizing month days with
  | nil =>
      change daysBeforeMonth year month + (days + 1) = _
      omega
  | cons length rest ih =>
      unfold monthAndDay
      by_cases h : days < length
      · rw [if_pos h]
        change daysBeforeMonth year month + (days + 1) = _
        omega
      · rw [if_neg h, ih (by omega) hlengths.tail, daysBeforeMonth_succ year month hmonth, hlengths.head]
        rw [hlengths.head] at h
        omega

/-- The days before a year, by the cycles of 400, 100 and 4 years that are over. -/
theorem daysBeforeYear_cycles {n400 n100 n4 n1 : ℕ} (h100 : n100 ≤ 3) (h4 : n4 ≤ 24) (h1 : n1 ≤ 3) :
    daysBeforeYear (n400 * 400 + n100 * 100 + n4 * 4 + n1 + 1)
      = n400 * 146097 + n100 * 36524 + n4 * 1461 + n1 * 365 := by
  unfold daysBeforeYear
  omega

theorem daysBeforeMonth_december (year : ℕ) :
    daysBeforeMonth year 12 = 334 + if isLeap year then 1 else 0 := by
  by_cases h : isLeap year <;> simp [daysBeforeMonth, monthLength, h, List.range_succ]

theorem isLeap_iff {y : ℕ} : isLeap y = true ↔ y % 4 = 0 ∧ (y % 100 ≠ 0 ∨ y % 400 = 0) := by
  simp [isLeap]

/-- The last day of a cycle of 4 or 400 years is the last of a leap year. -/
theorem toOrdinal_december {y : ℕ} (hd : make y 12 31 = some d) (hleap : isLeap y = true) :
    d.toOrdinal = daysBeforeYear y + 366 := by
  obtain ⟨rfl, hm, hday⟩ := make_some hd
  unfold toOrdinal
  rw [hm, hday, daysBeforeMonth_december, if_pos hleap]

/-- A date that is found under a day number has that number. -/
theorem toOrdinal_ofOrdinal {n : ℕ} (h : ofOrdinal n = some d) : d.toOrdinal = n := by
  unfold ofOrdinal at h
  simp only at h
  by_cases hzero : n = 0
  · rw [if_pos hzero] at h
    cases h
  rw [if_neg hzero] at h
  by_cases hend : (n - 1) % 146097 % 36524 % 1461 / 365 = 4 ∨ (n - 1) % 146097 / 36524 = 4
  · rw [if_pos hend] at h
    -- the day is the last of a cycle of 400 years, or else of one of 4 years
    by_cases h100 : (n - 1) % 146097 / 36524 = 4
    · have hrest : (n - 1) % 146097 = 146096 := by omega
      rw [hrest] at h
      have hleap : isLeap ((n - 1) / 146097 * 400 + 400) = true := by
        rw [isLeap_iff]
        omega
      rw [toOrdinal_december h hleap]
      unfold daysBeforeYear
      omega
    · have h1 : (n - 1) % 146097 % 36524 % 1461 = 1460 := by omega
      have h4 : (n - 1) % 146097 % 36524 / 1461 ≤ 23 := by omega
      rw [h1] at h
      have hleap : isLeap ((n - 1) / 146097 * 400 + (n - 1) % 146097 / 36524 * 100
          + (n - 1) % 146097 % 36524 / 1461 * 4 + 4) = true := by
        rw [isLeap_iff]
        omega
      have hbefore : daysBeforeYear ((n - 1) / 146097 * 400 + (n - 1) % 146097 / 36524 * 100
          + (n - 1) % 146097 % 36524 / 1461 * 4 + 4) = (n - 1) / 146097 * 146097
          + (n - 1) % 146097 / 36524 * 36524 + (n - 1) % 146097 % 36524 / 1461 * 1461 + 3 * 365 :=
        daysBeforeYear_cycles (by omega) (by omega) le_rfl
      rw [toOrdinal_december h hleap]
      change daysBeforeYear ((n - 1) / 146097 * 400 + (n - 1) % 146097 / 36524 * 100
        + (n - 1) % 146097 % 36524 / 1461 * 4 + 4) + 366 = n
      omega
  · rw [if_neg hend] at h
    obtain ⟨hyear, hmonth, hday⟩ := make_some h
    have h1 : (n - 1) % 146097 % 36524 % 1461 / 365 ≤ 3 := by omega
    have h100 : (n - 1) % 146097 / 36524 ≤ 3 := by omega
    have h4 : (n - 1) % 146097 % 36524 / 1461 ≤ 24 := by omega
    have hcycles : daysBeforeYear d.year = (n - 1) / 146097 * 146097
        + (n - 1) % 146097 / 36524 * 36524 + (n - 1) % 146097 % 36524 / 1461 * 1461
        + (n - 1) % 146097 % 36524 % 1461 / 365 * 365 := by
      rw [hyear]
      exact daysBeforeYear_cycles h100 h4 h1
    have hdays : daysBeforeMonth d.year d.month + d.day
        = daysBeforeMonth d.year 1 + (n - 1) % 146097 % 36524 % 1461 % 365 + 1 := by
      rw [hmonth, hday, ← hyear]
      exact monthAndDay_days le_rfl (monthsFrom_january d.year)
    have hone : daysBeforeMonth d.year 1 = 0 := rfl
    unfold toOrdinal
    omega

end DayNumbers

section WeekDates

variable {y y' w w' k k' : ℕ} {d : Date}

theorem daysBeforeYear_succ (h : 1 ≤ y) :
    daysBeforeYear (y + 1) = daysBeforeYear y + 365 + if isLeap y then 1 else 0 := by
  have h4 : y / 4 = (y - 1) / 4 + if y % 4 = 0 then 1 else 0 := by
    split_ifs <;> omega
  have h100 : y / 100 = (y - 1) / 100 + if y % 100 = 0 then 1 else 0 := by
    split_ifs <;> omega
  have h400 : y / 400 = (y - 1) / 400 + if y % 400 = 0 then 1 else 0 := by
    split_ifs <;> omega
  have hless : (y - 1) / 100 ≤ (y - 1) / 4 := Nat.div_le_div_left (by decide) (by decide)
  unfold daysBeforeYear
  rw [Nat.add_sub_cancel, h4, h100, h400]
  simp only [isLeap_iff]
  split_ifs <;> omega

/-- The first year begins with the calendar; the others have a whole year before them. -/
theorem daysBeforeYear_first (y : ℕ) : daysBeforeYear y = 0 ∨ 365 ≤ daysBeforeYear y := by
  have hless : (y - 1) / 100 ≤ (y - 1) / 4 := Nat.div_le_div_left (by decide) (by decide)
  unfold daysBeforeYear
  omega

/-- A week begins on a Monday. -/
theorem isoWeek1Monday_mod (y : ℕ) : isoWeek1Monday y % 7 = 1 := by
  have hfirst := daysBeforeYear_first y
  unfold isoWeek1Monday
  dsimp only
  split_ifs <;> omega

/-- A year has 52 weeks, or 53. -/
theorem isoWeek1Monday_succ (h : 1 ≤ y) :
    isoWeek1Monday (y + 1) = isoWeek1Monday y + 7 * if hasWeek53 y then 53 else 52 := by
  have hfirst := daysBeforeYear_first y
  have hsucc := daysBeforeYear_succ h
  unfold isoWeek1Monday hasWeek53
  cases hleap : isLeap y with
  | true =>
      rw [hleap, if_pos rfl] at hsucc
      simp only [hsucc, Bool.and_true, Bool.or_eq_true, decide_eq_true_eq]
      split_ifs <;> omega
  | false =>
      rw [hleap, if_neg Bool.false_ne_true] at hsucc
      simp only [hsucc, Bool.and_false, Bool.or_false, decide_eq_true_eq]
      split_ifs <;> omega

/-- A week of a year lies before the first week of any later one. -/
theorem isoWeek1Monday_later (h : 1 ≤ y) (hlater : y < y') (hweek : w ≤ 52 ∨ w = 53 ∧ hasWeek53 y) :
    isoWeek1Monday y + 7 * w ≤ isoWeek1Monday y' := by
  induction y', hlater using Nat.le_induction with
  | base =>
      rw [isoWeek1Monday_succ h]
      rcases hweek with hle | ⟨rfl, h53⟩
      · split_ifs <;> omega
      · rw [if_pos h53]
  | succ later hle ih =>
      have hone : 1 ≤ later := by omega
      rw [isoWeek1Monday_succ hone]
      omega

/-- A date has one week date. -/
theorem ofIsoWeek_injective (h : ofIsoWeek y w k = some d) (h' : ofIsoWeek y' w' k' = some d) :
    y = y' ∧ w = w' ∧ k = k' := by
  unfold ofIsoWeek at h h'
  split_ifs at h with hvalid
  split_ifs at h' with hvalid'
  have hsame := (toOrdinal_ofOrdinal h).symm.trans (toOrdinal_ofOrdinal h')
  have hmonday := isoWeek1Monday_mod y
  have hmonday' := isoWeek1Monday_mod y'
  obtain ⟨⟨hyear, -⟩, ⟨hweek, hweeks⟩, hday⟩ := hvalid
  obtain ⟨⟨hyear', -⟩, ⟨hweek', hweeks'⟩, hday'⟩ := hvalid'
  have hyears : y = y' := by
    rcases Nat.lt_trichotomy y y' with hlt | heq | hgt
    · have hlater := isoWeek1Monday_later hyear hlt hweeks
      omega
    · exact heq
    · have hlater := isoWeek1Monday_later hyear' hgt hweeks'
      omega
  subst hyears
  omega

end WeekDates

section Digits

/-- A number written with the given count of digits. -/
def digitsOf : (count n : ℕ) → List Char
  | 0, _ => []
  | count + 1, n => Char.ofNat ('0'.toNat + n / 10 ^ count % 10) :: digitsOf count n

/-- The digits that are read are those of the number. -/
theorem parseDigits_digits {count value n : ℕ} {chars rest : List Char}
    (h : parseDigits count value chars = some (n, rest)) :
    chars = digitsOf count n ++ rest ∧ value * 10 ^ count ≤ n ∧ n < (value + 1) * 10 ^ count := by
  induction count generalizing value chars with
  | zero =>
      cases h
      simp [digitsOf]
  | succ count ih =>
      cases chars with
      | nil => cases h
      | cons c chars =>
          unfold parseDigits at h
          split_ifs at h with hdigit
          obtain ⟨hrest, hlow, hhigh⟩ := ih h
          have hc : '0'.toNat ≤ c.toNat ∧ c.toNat ≤ '9'.toNat := hdigit
          have hzero : '0'.toNat = 48 := rfl
          have hnine : '9'.toNat = 57 := rfl
          have hvalue : n / 10 ^ count = value * 10 + (c.toNat - '0'.toNat) :=
            Nat.div_eq_of_lt_le hlow hhigh
          have hdigitValue : n / 10 ^ count % 10 = c.toNat - '0'.toNat := by
            rw [hvalue]
            omega
          have hchar : Char.ofNat ('0'.toNat + n / 10 ^ count % 10) = c := by
            rw [hdigitValue, Nat.add_sub_cancel' hc.1, Char.ofNat_toNat]
          refine ⟨?_, ?_, ?_⟩
          · rw [hrest, digitsOf, hchar]
            rfl
          · calc value * 10 ^ (count + 1)
                = value * 10 * 10 ^ count := by rw [Nat.pow_succ', Nat.mul_assoc]
              _ ≤ (value * 10 + (c.toNat - '0'.toNat)) * 10 ^ count :=
                Nat.mul_le_mul_right _ (Nat.le_add_right _ _)
              _ ≤ n := hlow
          · calc n
                < (value * 10 + (c.toNat - '0'.toNat) + 1) * 10 ^ count := hhigh
              _ ≤ (value + 1) * 10 * 10 ^ count := Nat.mul_le_mul_right _ (by omega)
              _ = (value + 1) * 10 ^ (count + 1) := by rw [Nat.pow_succ', Nat.mul_assoc]

/-- `date.isoformat`. -/
def isoformat (d : Date) : String :=
  String.ofList (digitsOf 4 d.year ++ '-' :: digitsOf 2 d.month ++ '-' :: digitsOf 2 d.day)

example : (make 2024 2 29).map isoformat = some "2024-02-29" := by decide +kernel

end Digits

end Date
end InquestsApi
