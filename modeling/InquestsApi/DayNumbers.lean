import InquestsApi.IsoDates

/-! Dates in the order of their day numbers: every number of the calendar has its date, and the day
after a date is the next number. -/
namespace InquestsApi
namespace Date

/-- `date.max`. -/
def maxDate : Date := ⟨9999, 12, 31, by decide, by decide, by decide⟩

def maxOrdinal : ℕ := 3652059

section Order

variable {a b d : Date} {year month month' : ℕ}

theorem daysBeforeMonth_mono (hone : 1 ≤ month) (hle : month ≤ month') :
    daysBeforeMonth year month ≤ daysBeforeMonth year month' := by
  induction month', hle using Nat.le_induction with
  | base => exact le_rfl
  | succ later hlater ih =>
      rw [daysBeforeMonth_succ year later (hone.trans hlater)]
      omega

theorem daysBeforeYear_mono {y y' : ℕ} (hone : 1 ≤ y) (hle : y ≤ y') :
    daysBeforeYear y ≤ daysBeforeYear y' := by
  induction y', hle using Nat.le_induction with
  | base => exact le_rfl
  | succ later hlater ih =>
      rw [daysBeforeYear_succ (hone.trans hlater)]
      omega

theorem daysBeforeMonth_year (year : ℕ) :
    daysBeforeMonth year 13 = 365 + if isLeap year then 1 else 0 := by
  have hlength : monthLength year 12 = 31 := rfl
  rw [daysBeforeMonth_succ year 12 (by decide), daysBeforeMonth_december, hlength]
  omega

theorem daysInto_le (d : Date) (hmonth : d.month < month) :
    daysBeforeMonth d.year d.month + d.day ≤ daysBeforeMonth d.year month := by
  have hnext := daysBeforeMonth_succ d.year d.month d.month_valid.1
  have hmono : daysBeforeMonth d.year (d.month + 1) ≤ daysBeforeMonth d.year month :=
    daysBeforeMonth_mono (Nat.le_add_left 1 d.month) hmonth
  have hday := d.day_valid.2
  omega

theorem toOrdinal_le_year (d : Date) : d.toOrdinal ≤ daysBeforeYear (d.year + 1) := by
  have hinto := daysInto_le d (Nat.lt_succ_of_le d.month_valid.2)
  rw [daysBeforeMonth_year] at hinto
  rw [daysBeforeYear_succ d.year_valid.1]
  unfold toOrdinal
  omega

theorem toOrdinal_pos (d : Date) : 1 ≤ d.toOrdinal := by
  have hday := d.day_valid.1
  unfold toOrdinal
  omega

theorem toOrdinal_le_max (d : Date) : d.toOrdinal ≤ maxOrdinal := by
  have hyear := d.year_valid
  have hmono : daysBeforeYear (d.year + 1) ≤ daysBeforeYear 10000 :=
    daysBeforeYear_mono (Nat.le_add_left 1 d.year) (Nat.succ_le_succ hyear.2)
  exact (toOrdinal_le_year d).trans hmono

theorem before_iff : a.before b = true ↔
    a.year < b.year ∨ a.year = b.year ∧ (a.month < b.month ∨ a.month = b.month ∧ a.day < b.day) := by
  simp only [before, Bool.or_eq_true, Bool.and_eq_true, decide_eq_true_eq]

theorem toOrdinal_lt (h : a.before b = true) : a.toOrdinal < b.toOrdinal := by
  have hfirst := b.day_valid.1
  rcases before_iff.mp h with hyear | ⟨hyear, hmonth | ⟨hmonth, hday⟩⟩
  · have hle := toOrdinal_le_year a
    have hmono : daysBeforeYear (a.year + 1) ≤ daysBeforeYear b.year :=
      daysBeforeYear_mono (Nat.le_add_left 1 a.year) hyear
    unfold toOrdinal at hle ⊢
    omega
  · have hinto := daysInto_le a hmonth
    unfold toOrdinal
    rw [hyear] at hinto ⊢
    omega
  · unfold toOrdinal
    rw [hyear, hmonth]
    omega

theorem before_or_eq_or_before (a b : Date) : a.before b = true ∨ a = b ∨ b.before a = true := by
  by_cases hsame : a.year = b.year ∧ a.month = b.month ∧ a.day = b.day
  · obtain ⟨hyear, hmonth, hday⟩ := hsame
    refine Or.inr (Or.inl ?_)
    cases a
    cases b
    cases hyear
    cases hmonth
    cases hday
    rfl
  · rw [before_iff, before_iff]
    omega

/-- Dates compare as their day numbers do. -/
theorem before_iff_toOrdinal : a.before b = true ↔ a.toOrdinal < b.toOrdinal := by
  constructor
  · exact toOrdinal_lt
  · intro hlt
    rcases before_or_eq_or_before a b with h | rfl | h
    · exact h
    · exact absurd hlt (Nat.lt_irrefl _)
    · exact absurd (toOrdinal_lt h) (Nat.lt_asymm hlt)

theorem toOrdinal_injective : Function.Injective toOrdinal := by
  intro a b h
  rcases before_or_eq_or_before a b with hlt | heq | hlt
  · exact absurd h (toOrdinal_lt hlt).ne
  · exact heq
  · exact absurd h (toOrdinal_lt hlt).ne'

end Order

section Exists

variable {d d' : Date} {n year days : ℕ}

theorem make_isSome {month day : ℕ} (hyear : 1 ≤ year ∧ year ≤ maxYear) (hmonth : 1 ≤ month ∧ month ≤ 12)
    (hday : 1 ≤ day ∧ day ≤ monthLength year month) : (make year month day).isSome = true := by
  unfold make
  rw [dif_pos hyear, dif_pos hmonth, dif_pos hday]
  rfl

/-- Going through the months ends in one of them, on one of its days. -/
theorem monthAndDay_valid {lengths : List ℕ} {month : ℕ}
    (hlengths : MonthsFrom year month lengths)
    (hdays : days < lengths.sum + monthLength year (month + lengths.length)) :
    month ≤ (monthAndDay year month days lengths).1
      ∧ (monthAndDay year month days lengths).1 ≤ month + lengths.length
      ∧ 1 ≤ (monthAndDay year month days lengths).2
      ∧ (monthAndDay year month days lengths).2
        ≤ monthLength year (monthAndDay year month days lengths).1 := by
  induction lengths generalizing month days with
  | nil =>
      have hshort : days < monthLength year month := by simpa using hdays
      exact ⟨le_rfl, le_rfl, Nat.le_add_left 1 days, hshort⟩
  | cons length rest ih =>
      unfold monthAndDay
      by_cases h : days < length
      · rw [if_pos h]
        exact ⟨le_rfl, Nat.le_add_right _ _, Nat.le_add_left 1 days, hlengths.head ▸ h⟩
      · have hmonth : month + (rest.length + 1) = month + 1 + rest.length := by omega
        rw [List.sum_cons, List.length_cons, hmonth] at hdays
        rw [if_neg h, List.length_cons, hmonth]
        have hless : days - length < rest.sum + monthLength year (month + 1 + rest.length) := by omega
        have hrest := ih hlengths.tail hless
        exact ⟨(Nat.le_succ month).trans hrest.1, hrest.2⟩

theorem monthLengths_sum (year : ℕ) :
    ((List.range 11).map fun i => monthLength year (i + 1)).sum = 334 + if isLeap year then 1 else 0 :=
  daysBeforeMonth_december year

/-- Every number of the calendar has its date. -/
theorem ofOrdinal_isSome (hpos : 1 ≤ n) (hle : n ≤ maxOrdinal) : (ofOrdinal n).isSome = true := by
  have hmax : n - 1 < 3652059 := by
    unfold maxOrdinal at hle
    omega
  have hne : n ≠ 0 := by omega
  have h400 : n - 1 = (n - 1) / 146097 * 146097 + (n - 1) % 146097 := (Nat.div_add_mod' _ _).symm
  have hin400 : (n - 1) % 146097 < 146097 := Nat.mod_lt _ (by decide)
  unfold ofOrdinal
  dsimp only
  rw [if_neg hne]
  generalize (n - 1) / 146097 = n400 at *
  generalize (n - 1) % 146097 = r400 at *
  have h100 : r400 = r400 / 36524 * 36524 + r400 % 36524 := (Nat.div_add_mod' _ _).symm
  have hin100 : r400 % 36524 < 36524 := Nat.mod_lt _ (by decide)
  generalize r400 / 36524 = n100 at *
  generalize r400 % 36524 = r100 at *
  have h4 : r100 = r100 / 1461 * 1461 + r100 % 1461 := (Nat.div_add_mod' _ _).symm
  have hin4 : r100 % 1461 < 1461 := Nat.mod_lt _ (by decide)
  generalize r100 / 1461 = n4 at *
  generalize r100 % 1461 = r4 at *
  have h1 : r4 = r4 / 365 * 365 + r4 % 365 := (Nat.div_add_mod' _ _).symm
  have hin1 : r4 % 365 < 365 := Nat.mod_lt _ (by decide)
  generalize r4 / 365 = n1 at *
  generalize r4 % 365 = days at *
  by_cases hend : n1 = 4 ∨ n100 = 4
  · rw [if_pos hend]
    generalize hyear : n400 * 400 + n100 * 100 + n4 * 4 + n1 + 1 - 1 = year
    have hvalid : 1 ≤ year ∧ year ≤ maxYear := by
      unfold maxYear
      omega
    have hdecember : monthLength year 12 = 31 := rfl
    exact make_isSome hvalid (by decide) ⟨by decide, hdecember.ge⟩
  · rw [if_neg hend]
    generalize hyear : n400 * 400 + n100 * 100 + n4 * 4 + n1 + 1 = year
    have hvalid : 1 ≤ year ∧ year ≤ maxYear := by
      unfold maxYear
      omega
    have hdays : days < ((List.range 11).map fun i => monthLength year (i + 1)).sum
        + monthLength year (1 + ((List.range 11).map fun i => monthLength year (i + 1)).length) := by
      have hdecember : monthLength year 12 = 31 := rfl
      rw [monthLengths_sum, List.length_map, List.length_range, hdecember]
      omega
    obtain ⟨hfirst, hlast, hday⟩ := monthAndDay_valid (monthsFrom_january year) hdays
    exact make_isSome hvalid ⟨hfirst, hlast⟩ hday

theorem ofOrdinal_toOrdinal (d : Date) : ofOrdinal d.toOrdinal = some d := by
  obtain ⟨d', hd'⟩ := Option.isSome_iff_exists.mp (ofOrdinal_isSome (toOrdinal_pos d) (toOrdinal_le_max d))
  rw [hd', toOrdinal_injective (toOrdinal_ofOrdinal hd')]

theorem ofOrdinal_eq_some : ofOrdinal n = some d ↔ d.toOrdinal = n := by
  constructor
  · exact toOrdinal_ofOrdinal
  · rintro rfl
    exact ofOrdinal_toOrdinal d

theorem next_eq_some : d.next = some d' ↔ d'.toOrdinal = d.toOrdinal + 1 := ofOrdinal_eq_some

/-- Only the last day of the calendar has no day after it. -/
theorem next_eq_none : d.next = none ↔ d = maxDate := by
  have hle := toOrdinal_le_max d
  have hmax : maxDate.toOrdinal = maxOrdinal := by decide +kernel
  constructor
  · intro hnone
    by_contra hne
    have hlt : d.toOrdinal ≠ maxOrdinal := fun h => hne (toOrdinal_injective (h.trans hmax.symm))
    have hsome : d.next.isSome = true := ofOrdinal_isSome (Nat.le_add_left 1 _) (by omega)
    rw [hnone] at hsome
    cases hsome
  · rintro rfl
    cases hnext : maxDate.next with
    | none => rfl
    | some d =>
        have hafter := next_eq_some.mp hnext
        have hbound := toOrdinal_le_max d
        omega

end Exists

end Date
end InquestsApi
