import InquestsApi.DayNumbers
import InquestsApi.DomainClaim

/-! Whole calendar months after a date: which month and which day of it they lead to, and that later
dates and more months never lead to an earlier date. -/
namespace InquestsApi

/-- The months of the calendar up to this one, from the year 0 on. -/
def Date.monthIndex (d : Date) : ℕ := d.year * 12 + d.month

/-- The year of the month that lies a number of months after a date. -/
def yearAfter (start : Date) (months : ℕ) : ℕ := (start.monthIndex + months - 1) / 12

section Months

variable {start start' d d' : Date} {m n : ℕ}

theorem addCalendarMonths_some (h : addCalendarMonths start m = some d) :
    d.monthIndex = start.monthIndex + m ∧ d.day = min start.day (monthLength d.year d.month) := by
  obtain ⟨hyear, hmonth, hday⟩ := Date.make_some h
  have hstart := start.month_valid.1
  rw [hday, hyear, hmonth]
  refine ⟨?_, rfl⟩
  unfold Date.monthIndex
  omega

theorem addCalendarMonths_goes (hyear : yearAfter start m ≤ maxYear) :
    ∃ d, addCalendarMonths start m = some d := by
  apply Option.ne_none_iff_exists'.mp
  rw [Ne, addCalendarMonths_eq_none_iff]
  have hstart := start.month_valid.1
  unfold yearAfter Date.monthIndex at hyear
  omega

theorem monthIndex_le (h : ¬ start'.before start = true) : start.monthIndex ≤ start'.monthIndex := by
  have hmonth := start.month_valid
  have hmonth' := start'.month_valid
  rw [Date.before_iff] at h
  unfold Date.monthIndex
  omega

/-- Later dates and more months do not lead to an earlier date: clamping keeps the order of days
in one month, and months do not change places. -/
theorem addCalendarMonths_mono (hstart : ¬ start'.before start = true) (hle : n ≤ m)
    (h : addCalendarMonths start n = some d) (h' : addCalendarMonths start' m = some d') :
    ¬ d'.before d = true := by
  obtain ⟨hindex, hday⟩ := addCalendarMonths_some h
  obtain ⟨hindex', hday'⟩ := addCalendarMonths_some h'
  have hmonths := monthIndex_le hstart
  have hstartMonth := start.month_valid
  have hstartMonth' := start'.month_valid
  have hmonth := d.month_valid
  have hmonth' := d'.month_valid
  intro hbefore
  rw [Date.before_iff] at hstart hbefore
  unfold Date.monthIndex at hindex hindex' hmonths
  have hsame : d.year = d'.year ∧ d.month = d'.month := by omega
  have hdays : start.day ≤ start'.day := by omega
  have hclamped : d.day ≤ d'.day := by
    rw [hday, hday', hsame.1, hsame.2]
    exact min_le_min_right _ hdays
  omega

/-- An earlier date or fewer months stay in the calendar. -/
theorem yearAfter_mono (hstart : ¬ start'.before start = true) (hle : n ≤ m) :
    yearAfter start n ≤ yearAfter start' m := by
  have hmonths := monthIndex_le hstart
  unfold yearAfter
  exact Nat.div_le_div_right (by omega)

/-- The rule for early claims, with the date that it works out. -/
theorem shouldAutoRejectForEarlyProfitCostPoa_eq {claim : DomainClaim} {application : Application}
    {earliest : Date} (referenceDate : Datetime) (hpoa : claim.poaType = some .profitCost)
    (hcertificate : application.proceeding.certificateStartDate = some start)
    (hearliest : addCalendarMonths start minMonthsBeforeProfitCostPoa = some earliest) :
    claim.shouldAutoRejectForEarlyProfitCostPoa application referenceDate
      = some (if referenceDate.date.before earliest then some .profitCostPoaClaimSubmittedTooEarly
          else none) := by
  unfold DomainClaim.shouldAutoRejectForEarlyProfitCostPoa
  rw [if_neg (not_not_intro hpoa), hcertificate]
  simp only [hearliest, Option.map_some]

/-- **Whole months after a date.** The result is so many months later, on the same day or on the
last of a shorter month; an earlier date and fewer months never lead to a later one, and so an
earlier certificate never has its first profit-cost claim at a later date. -/
theorem calendarMonths_clamped_monotone (start : Date) (m : ℕ) (hyear : yearAfter start m ≤ maxYear) :
    ∃ d, addCalendarMonths start m = some d
      ∧ d.monthIndex = start.monthIndex + m
      ∧ d.day = min start.day (monthLength d.year d.month)
      ∧ (∀ earlier n, ¬ start.before earlier = true → n ≤ m →
        ∃ d', addCalendarMonths earlier n = some d' ∧ ¬ d.before d' = true)
      ∧ ∀ (claim : DomainClaim) (application application' : Application) (earlier : Date)
          (referenceDate : Datetime),
        m = minMonthsBeforeProfitCostPoa → claim.poaType = some .profitCost →
        application.proceeding.certificateStartDate = some earlier →
        application'.proceeding.certificateStartDate = some start → ¬ start.before earlier = true →
        ∃ earliest, ¬ d.before earliest = true
          ∧ claim.shouldAutoRejectForEarlyProfitCostPoa application referenceDate
            = some (if referenceDate.date.before earliest then some .profitCostPoaClaimSubmittedTooEarly
                else none)
          ∧ claim.shouldAutoRejectForEarlyProfitCostPoa application' referenceDate
            = some (if referenceDate.date.before d then some .profitCostPoaClaimSubmittedTooEarly
                else none) := by
  obtain ⟨d, hd⟩ := addCalendarMonths_goes hyear
  obtain ⟨hindex, hday⟩ := addCalendarMonths_some hd
  have hearlier : ∀ earlier n, ¬ start.before earlier = true → n ≤ m →
      ∃ d', addCalendarMonths earlier n = some d' ∧ ¬ d.before d' = true := by
    intro earlier n hstart hle
    obtain ⟨d', hd'⟩ := addCalendarMonths_goes ((yearAfter_mono hstart hle).trans hyear)
    exact ⟨d', hd', addCalendarMonths_mono hstart hle hd' hd⟩
  refine ⟨d, hd, hindex, hday, hearlier, ?_⟩
  intro claim application application' earlier referenceDate hm hpoa hcertificate hcertificate' hstart
  subst hm
  obtain ⟨earliest, hearliest, hnot⟩ := hearlier earlier minMonthsBeforeProfitCostPoa hstart le_rfl
  exact ⟨earliest, hnot, shouldAutoRejectForEarlyProfitCostPoa_eq referenceDate hpoa hcertificate hearliest,
    shouldAutoRejectForEarlyProfitCostPoa_eq referenceDate hpoa hcertificate' hd⟩

/-- Three months after the last of November is the last of February, for the day before it too. -/
theorem calendarMonths_clamped_november :
    ∃ d, addCalendarMonths ⟨2023, 11, 30, by decide, by decide, by decide⟩ 3 = some d
      ∧ d.day = 29
      ∧ ∃ d', addCalendarMonths ⟨2023, 11, 29, by decide, by decide, by decide⟩ 3 = some d'
        ∧ ¬ d.before d' = true := by
  obtain ⟨d, hd, -, -, hearlier, -⟩ :=
    calendarMonths_clamped_monotone ⟨2023, 11, 30, by decide, by decide, by decide⟩ 3 (by decide)
  have hresult : addCalendarMonths ⟨2023, 11, 30, by decide, by decide, by decide⟩ 3
      = some ⟨2024, 2, 29, by decide, by decide, by decide⟩ := by decide +kernel
  obtain rfl := Option.some.inj (hd.symm.trans hresult)
  exact ⟨_, hd, rfl, hearlier ⟨2023, 11, 29, by decide, by decide, by decide⟩ 3 (by decide) le_rfl⟩

end Months

end InquestsApi
