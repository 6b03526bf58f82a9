import InquestsApi.Reports
import InquestsApi.Timestamps

/-! The window of a report: which instants an inclusive range of dates stands for, and how the windows
of ranges that follow one another lie. -/
namespace InquestsApi

/-- The timestamp lies in a half-open window. -/
def Timestamp.within (t : Timestamp) (window : Datetime × Datetime) : Prop :=
  window.1.instant ≤ t.instant ∧ t.instant < window.2.instant

/-- The date of the timestamp in UTC is one of the range. -/
def InRange (fromDate toDate : Date) (t : Timestamp) : Prop :=
  ∃ u, t.asUtc = some u ∧ ¬ u.date.before fromDate = true ∧ ¬ toDate.before u.date = true

/-- The range goes backwards, or has too many days. -/
def RangeRefused (fromDate toDate : Date) (maxDays : ℕ) : Prop :=
  toDate.before fromDate = true ∨ (maxDays : ℤ) < toDate.toOrdinal - fromDate.toOrdinal + 1

/-- What is asked of the window of a range: it is refused for one of the two reasons, or it has
exactly the instants of the range. -/
inductive Resolved (fromDate toDate : Date) (maxDays : ℕ) : Except ReportError (Datetime × Datetime) → Prop
  | refused (message : String) (hrefused : RangeRefused fromDate toDate maxDays) :
      Resolved fromDate toDate maxDays (.error (.invalidDateRange message))
  | window (window : Datetime × Datetime) (haccepted : ¬ RangeRefused fromDate toDate maxDays)
      (hcovers : ∀ t : Timestamp, t.within window ↔ InRange fromDate toDate t) :
      Resolved fromDate toDate maxDays (.ok window)

section Window

variable {fromDate toDate dayAfter d : Date} {maxDays : ℕ} {window : Datetime × Datetime} {t u : Timestamp}

theorem not_before_iff {a b : Date} : ¬ a.before b = true ↔ b.toOrdinal ≤ a.toOrdinal := by
  rw [Date.before_iff_toOrdinal, Nat.not_lt]

theorem midnight_le_instant (hu : u.offset = some 0) :
    (midnight d).instant ≤ u.instant ↔ d.toOrdinal ≤ u.date.toOrdinal := by
  have hday := Timestamp.instant_day hu
  change (d.toOrdinal : ℤ) * Datetime.microsPerDay + 0 ≤ _ ↔ _
  unfold Datetime.microsPerDay at hday ⊢
  push_cast at hday ⊢
  omega

/-- Between two midnights are the days from the first up to the one before the last. -/
theorem within_midnights : t.within (midnight fromDate, midnight dayAfter)
    ↔ ∃ u, t.asUtc = some u ∧ fromDate.toOrdinal ≤ u.date.toOrdinal
      ∧ u.date.toOrdinal < dayAfter.toOrdinal := by
  have hpos : 0 < Datetime.microsPerDay := by decide
  let first : Timestamp := ⟨fromDate, 0, some 0, hpos, Timestamp.zero_valid⟩
  let last : Timestamp := ⟨dayAfter, 0, some 0, hpos, Timestamp.zero_valid⟩
  have hfirst : first.instant = (midnight fromDate).instant := sub_zero _
  have hlast : last.instant = (midnight dayAfter).instant := sub_zero _
  constructor
  · intro h
    obtain ⟨hle, hlt⟩ := h
    have hle' : first.instant ≤ t.instant := hfirst.trans_le hle
    have hlt' : t.instant < last.instant := hlt.trans_eq hlast.symm
    obtain ⟨u, hu⟩ := Timestamp.asUtc_between rfl rfl hle' hlt'
    obtain ⟨hoffset, hinstant⟩ := Timestamp.asUtc_some hu
    rw [← hinstant] at hle hlt
    have hafter := (midnight_le_instant (d := dayAfter) hoffset).not.mp (not_le.mpr hlt)
    exact ⟨u, hu, (midnight_le_instant hoffset).mp hle, Nat.lt_of_not_le hafter⟩
  · intro h
    obtain ⟨u, hu, hle, hlt⟩ := h
    obtain ⟨hoffset, hinstant⟩ := Timestamp.asUtc_some hu
    constructor
    · rw [← hinstant]
      exact (midnight_le_instant hoffset).mpr hle
    · rw [← hinstant]
      have hafter := (midnight_le_instant (d := dayAfter) hoffset).not.mpr (Nat.not_le_of_lt hlt)
      exact not_le.mp hafter

/-- The window up to the day after a range has the instants of the range. -/
theorem within_iff_inRange (hnext : toDate.next = some dayAfter) :
    t.within (midnight fromDate, midnight dayAfter) ↔ InRange fromDate toDate t := by
  have hafter := Date.next_eq_some.mp hnext
  rw [within_midnights]
  constructor
  · intro h
    obtain ⟨u, hu, hle, hlt⟩ := h
    exact ⟨u, hu, not_before_iff.mpr hle, not_before_iff.mpr (by omega)⟩
  · intro h
    obtain ⟨u, hu, hle, hlt⟩ := h
    rw [not_before_iff] at hle hlt
    exact ⟨u, hu, hle, by omega⟩

/-- What the resolution does: it refuses, it finds no day after the range, or it returns. -/
theorem resolveReportWindow_cases (fromDate toDate : Date) (maxDays : ℕ) :
    (RangeRefused fromDate toDate maxDays
        ∧ ∃ message, resolveReportWindow fromDate toDate maxDays = .error (.invalidDateRange message))
      ∨ ¬ RangeRefused fromDate toDate maxDays
        ∧ ((toDate = Date.maxDate
            ∧ resolveReportWindow fromDate toDate maxDays = .error (.overflow "date value out of range"))
          ∨ ∃ dayAfter, toDate.next = some dayAfter
            ∧ resolveReportWindow fromDate toDate maxDays = .ok (midnight fromDate, midnight dayAfter)) := by
  unfold resolveReportWindow RangeRefused
  by_cases hbefore : toDate.before fromDate = true
  · rw [if_pos hbefore]
    exact Or.inl ⟨Or.inl hbefore, _, rfl⟩
  · have hle := not_before_iff.mp hbefore
    rw [if_neg hbefore]
    by_cases hlong : maxDays < toDate.toOrdinal - fromDate.toOrdinal + 1
    · rw [if_pos hlong]
      exact Or.inl ⟨Or.inr (by omega), _, rfl⟩
    · have haccepted : ¬ (toDate.before fromDate = true
          ∨ (maxDays : ℤ) < toDate.toOrdinal - fromDate.toOrdinal + 1) := by
        intro h
        rcases h with h | h
        · exact hbefore h
        · omega
      rw [if_neg hlong]
      refine Or.inr ⟨haccepted, ?_⟩
      cases hnext : toDate.next with
      | none => exact Or.inl ⟨Date.next_eq_none.mp hnext, rfl⟩
      | some dayAfter => exact Or.inr ⟨dayAfter, rfl, rfl⟩

/-- A range that is accepted, and what its window is. -/
theorem resolveReportWindow_ok (h : resolveReportWindow fromDate toDate maxDays = .ok window) :
    ¬ RangeRefused fromDate toDate maxDays
      ∧ ∃ dayAfter, toDate.next = some dayAfter ∧ window = (midnight fromDate, midnight dayAfter) := by
  rcases resolveReportWindow_cases fromDate toDate maxDays with
    ⟨-, message, hrefused⟩ | ⟨haccepted, ⟨-, hoverflow⟩ | ⟨dayAfter, hnext, hwindow⟩⟩
  · rw [hrefused] at h
    cases h
  · rw [hoverflow] at h
    cases h
  · rw [hwindow] at h
    cases h
    exact ⟨haccepted, dayAfter, hnext, rfl⟩

end Window

/-- The windows of two ranges, the second from the day after the first on, against the range that
they make up. -/
structure Tile (fromDate toDate : Date) (first second : Datetime × Datetime) : Prop where
  meet : first.2 = second.1
  together : ∀ t : Timestamp, InRange fromDate toDate t ↔ t.within first ∨ t.within second
  apart : ∀ t : Timestamp, ¬ (t.within first ∧ t.within second)
  union : ∀ maxDays window, resolveReportWindow fromDate toDate maxDays = .ok window →
    window = (first.1, second.2)

section Tiling

variable {fromDate toDate nextFrom nextTo : Date} {maxDays maxDays' : ℕ}
variable {first second : Datetime × Datetime}

theorem tile_of_adjacent (hadjacent : toDate.next = some nextFrom)
    (hfirst : resolveReportWindow fromDate toDate maxDays = .ok first)
    (hsecond : resolveReportWindow nextFrom nextTo maxDays' = .ok second) :
    Tile fromDate nextTo first second := by
  obtain ⟨haccepted, dayAfter, hnext, rfl⟩ := resolveReportWindow_ok hfirst
  obtain ⟨haccepted', dayAfter', hnext', rfl⟩ := resolveReportWindow_ok hsecond
  obtain rfl : nextFrom = dayAfter := Option.some.inj (hadjacent.symm.trans hnext)
  have horder := not_before_iff.mp fun h => haccepted (Or.inl h)
  have horder' := not_before_iff.mp fun h => haccepted' (Or.inl h)
  have hday := Date.next_eq_some.mp hnext
  have hday' := Date.next_eq_some.mp hnext'
  refine ⟨rfl, ?_, ?_, ?_⟩
  · intro t
    rw [← within_iff_inRange hnext', within_midnights, within_midnights, within_midnights]
    constructor
    · intro h
      obtain ⟨u, hu, hle, hlt⟩ := h
      rcases Nat.lt_or_ge u.date.toOrdinal nextFrom.toOrdinal with hearly | hlate
      · exact Or.inl ⟨u, hu, hle, hearly⟩
      · exact Or.inr ⟨u, hu, hlate, hlt⟩
    · intro h
      rcases h with ⟨u, hu, hle, hlt⟩ | ⟨u, hu, hle, hlt⟩
      · exact ⟨u, hu, hle, by omega⟩
      · exact ⟨u, hu, by omega, hlt⟩
  · intro t h
    exact absurd h.1.2 (not_lt.mpr h.2.1)
  · intro maxDays'' window hwindow
    obtain ⟨-, last, hlast, rfl⟩ := resolveReportWindow_ok hwindow
    rw [Option.some.inj (hlast.symm.trans hnext')]

/-- **The windows of reports.** A range is refused for its two reasons or stands for exactly its
instants, unless it is accepted and ends with the last day of the calendar; and the windows of two
ranges that follow one another tile the window of both. -/
theorem reportWindow_resolved_iff (fromDate toDate : Date) (maxDays : ℕ) :
    (Resolved fromDate toDate maxDays (resolveReportWindow fromDate toDate maxDays)
        ↔ toDate ≠ Date.maxDate ∨ (maxDays : ℤ) < toDate.toOrdinal - fromDate.toOrdinal + 1)
      ∧ ∀ nextFrom nextTo maxDays' first second, toDate.next = some nextFrom →
        resolveReportWindow fromDate toDate maxDays = .ok first →
        resolveReportWindow nextFrom nextTo maxDays' = .ok second →
        Tile fromDate nextTo first second := by
  refine ⟨?_, fun nextFrom nextTo maxDays' first second => tile_of_adjacent⟩
  rcases resolveReportWindow_cases fromDate toDate maxDays with
    ⟨hrefused, message, hresult⟩ | ⟨haccepted, ⟨hlast, hresult⟩ | ⟨dayAfter, hnext, hresult⟩⟩
  · rw [hresult]
    refine iff_of_true (.refused message hrefused) ?_
    rcases hrefused with hbefore | hlong
    · left
      rintro rfl
      have hlt := Date.before_iff_toOrdinal.mp hbefore
      have hmax : Date.maxDate.toOrdinal = Date.maxOrdinal := by decide +kernel
      have hle := Date.toOrdinal_le_max fromDate
      omega
    · exact Or.inr hlong
  · rw [hresult]
    refine iff_of_false (fun h => nomatch h) fun h => ?_
    rcases h with hne | hlong
    · exact hne hlast
    · exact haccepted (Or.inr hlong)
  · rw [hresult]
    refine iff_of_true (.window _ haccepted fun t => within_iff_inRange hnext) (Or.inl ?_)
    rintro rfl
    rw [Date.next_eq_none.mpr rfl] at hnext
    cases hnext

/-- The leap day and the day after it. -/
theorem reportWindow_resolved_leapDay :
    ∃ first second, Tile ⟨2024, 2, 29, by decide, by decide, by decide⟩
      ⟨2024, 3, 1, by decide, by decide, by decide⟩ first second :=
  ⟨_, _, (reportWindow_resolved_iff ⟨2024, 2, 29, by decide, by decide, by decide⟩
    ⟨2024, 2, 29, by decide, by decide, by decide⟩ 1).2
      ⟨2024, 3, 1, by decide, by decide, by decide⟩ ⟨2024, 3, 1, by decide, by decide, by decide⟩ 1
      (midnight ⟨2024, 2, 29, by decide, by decide, by decide⟩,
        midnight ⟨2024, 3, 1, by decide, by decide, by decide⟩)
      (midnight ⟨2024, 3, 1, by decide, by decide, by decide⟩,
        midnight ⟨2024, 3, 2, by decide, by decide, by decide⟩)
      (by decide +kernel) (by decide +kernel) (by decide +kernel)⟩

/-- A range of one day, the last of the calendar, is neither refused nor resolved. -/
theorem reportWindow_not_resolved_lastDay :
    ¬ RangeRefused Date.maxDate Date.maxDate 30
      ∧ resolveReportWindow Date.maxDate Date.maxDate 30 = .error (.overflow "date value out of range")
      ∧ ¬ Resolved Date.maxDate Date.maxDate 30
        (resolveReportWindow Date.maxDate Date.maxDate 30) := by
  have hresult : resolveReportWindow Date.maxDate Date.maxDate 30
      = .error (.overflow "date value out of range") := by decide +kernel
  refine ⟨?_, hresult, ?_⟩
  · intro h
    rcases h with h | h
    · exact absurd h (by decide +kernel)
    · omega
  · rw [hresult]
    exact fun h => nomatch h

end Tiling

end InquestsApi
