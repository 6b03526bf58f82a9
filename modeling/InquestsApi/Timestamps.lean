import InquestsApi.DayNumbers

/-! Timestamps as the database hands them over, naive or with an offset from UTC, and the one time
in UTC that each of them is read as. -/
namespace InquestsApi

/-- A Python `datetime`: what the clock shows, and the offset of an aware one, in microseconds. -/
structure Timestamp where
  date : Date
  micros : ℕ
  offset : Option ℤ
  micros_valid : micros < Datetime.microsPerDay
  offset_valid : ∀ o ∈ offset, |o| < Datetime.microsPerDay
  deriving DecidableEq

namespace Timestamp

def wall (t : Timestamp) : Datetime := ⟨t.date, t.micros⟩

/-- The instant in UTC; a naive timestamp is taken to be in UTC. -/
def instant (t : Timestamp) : ℤ := t.wall.instant - t.offset.getD 0

theorem zero_valid : ∀ o ∈ some (0 : ℤ), |o| < Datetime.microsPerDay := by
  intro o ho
  cases ho
  decide

/-- `value.replace(tzinfo=UTC)`. -/
def replaceUtc (t : Timestamp) : Timestamp := ⟨t.date, t.micros, some 0, t.micros_valid, zero_valid⟩

theorem micros_lt (instant : ℤ) :
    (instant % Datetime.microsPerDay).toNat < Datetime.microsPerDay := by
  have hpos : (0 : ℤ) < Datetime.microsPerDay := by decide
  have hlt := Int.emod_lt_of_pos instant hpos
  have hnonneg := Int.emod_nonneg instant hpos.ne'
  omega

/-- The UTC timestamp of an instant; `none` is the `OverflowError` outside the calendar. -/
def ofInstant (instant : ℤ) : Option Timestamp :=
  (Date.ofOrdinal (instant / Datetime.microsPerDay).toNat).map fun date =>
    ⟨date, (instant % Datetime.microsPerDay).toNat, some 0, micros_lt instant, zero_valid⟩

/-- `value.astimezone(UTC)`. -/
def astimezone (t : Timestamp) : Option Timestamp := ofInstant t.instant

/-- Treat naive stored timestamps as UTC and convert aware timestamps to UTC. -/
def asUtc (t : Timestamp) : Option Timestamp :=
  if t.offset.isNone then some t.replaceUtc else t.astimezone

section Utc

variable {t u : Timestamp} {i : ℤ}

/-- What a timestamp in UTC has for its instant. -/
theorem instant_utc (h : u.offset = some 0) :
    u.instant = u.date.toOrdinal * Datetime.microsPerDay + u.micros := by
  unfold instant wall Datetime.instant
  rw [h, Option.getD_some, sub_zero]

/-- The instants of a day in UTC. -/
theorem instant_day (h : u.offset = some 0) :
    u.date.toOrdinal * Datetime.microsPerDay ≤ u.instant
      ∧ u.instant < (u.date.toOrdinal + 1) * Datetime.microsPerDay := by
  have hlt := u.micros_valid
  rw [instant_utc h]
  unfold Datetime.microsPerDay at hlt ⊢
  constructor <;> push_cast <;> omega

/-- One instant has one timestamp in UTC. -/
theorem eq_of_instant (ht : t.offset = some 0) (hu : u.offset = some 0) (h : t.instant = u.instant) :
    t = u := by
  have htMicros := t.micros_valid
  have huMicros := u.micros_valid
  rw [instant_utc ht, instant_utc hu] at h
  unfold Datetime.microsPerDay at h htMicros huMicros
  have hday : t.date.toOrdinal = u.date.toOrdinal := by omega
  have hdate := Date.toOrdinal_injective hday
  have hmicros : t.micros = u.micros := by omega
  cases t
  cases u
  cases hdate
  cases hmicros
  cases ht
  cases hu
  rfl

theorem ofInstant_some (h : ofInstant i = some u) : u.offset = some 0 ∧ u.instant = i := by
  obtain ⟨date, hdate, rfl⟩ := Option.map_eq_some_iff.mp h
  have hordinal := Date.toOrdinal_ofOrdinal hdate
  have hone := Date.toOrdinal_pos date
  have hnonneg : 0 ≤ i % Datetime.microsPerDay := Int.emod_nonneg i (by decide)
  refine ⟨rfl, ?_⟩
  rw [instant_utc rfl]
  have hsplit := Int.ediv_mul_add_emod i Datetime.microsPerDay
  change (date.toOrdinal : ℤ) * _ + ((i % Datetime.microsPerDay).toNat : ℤ) = i
  have hquotient : (date.toOrdinal : ℤ) = i / Datetime.microsPerDay := by omega
  rw [hquotient, Int.toNat_of_nonneg hnonneg]
  exact hsplit

/-- Every instant of the calendar has its timestamp in UTC. -/
theorem ofInstant_goes (hfirst : (Datetime.microsPerDay : ℤ) ≤ i)
    (hlast : i < (Date.maxOrdinal + 1) * Datetime.microsPerDay) : ∃ u, ofInstant i = some u := by
  have hlow : 1 ≤ i / Datetime.microsPerDay := by
    rw [Int.le_ediv_iff_mul_le (by decide), one_mul]
    exact hfirst
  have hhigh : i / Datetime.microsPerDay < Date.maxOrdinal + 1 := by
    rw [Int.ediv_lt_iff_lt_mul (by decide)]
    exact hlast
  have hsome : (Date.ofOrdinal (i / Datetime.microsPerDay).toNat).isSome = true :=
    Date.ofOrdinal_isSome (by omega) (by omega)
  obtain ⟨date, hdate⟩ := Option.isSome_iff_exists.mp hsome
  unfold ofInstant
  rw [hdate]
  exact ⟨_, rfl⟩

theorem asUtc_some (h : t.asUtc = some u) : u.offset = some 0 ∧ u.instant = t.instant := by
  unfold asUtc at h
  by_cases hnaive : t.offset.isNone = true
  · rw [if_pos hnaive] at h
    cases h
    have hnone := Option.isNone_iff_eq_none.mp hnaive
    refine ⟨rfl, ?_⟩
    unfold instant
    rw [hnone]
    rfl
  · rw [if_neg hnaive] at h
    exact ofInstant_some h

theorem asUtc_goes (hfirst : (Datetime.microsPerDay : ℤ) ≤ t.instant)
    (hlast : t.instant < (Date.maxOrdinal + 1) * Datetime.microsPerDay) : ∃ u, t.asUtc = some u := by
  unfold asUtc
  by_cases hnaive : t.offset.isNone = true
  · rw [if_pos hnaive]
    exact ⟨_, rfl⟩
  · rw [if_neg hnaive]
    exact ofInstant_goes hfirst hlast

/-- The days of the calendar begin with the first and end with the last. -/
theorem instant_calendar (h : u.offset = some 0) :
    (Datetime.microsPerDay : ℤ) ≤ u.instant
      ∧ u.instant < (Date.maxOrdinal + 1) * Datetime.microsPerDay := by
  have hday := instant_day h
  have hone := Date.toOrdinal_pos u.date
  have hmax := Date.toOrdinal_le_max u.date
  unfold Datetime.microsPerDay at hday ⊢
  constructor <;> push_cast at hday ⊢ <;> omega

/-- What is in UTC already is left as it is. -/
theorem asUtc_utc (h : u.offset = some 0) : u.asUtc = some u := by
  obtain ⟨hfirst, hlast⟩ := instant_calendar h
  obtain ⟨u', hu'⟩ := asUtc_goes hfirst hlast
  obtain ⟨hoffset, hinstant⟩ := asUtc_some hu'
  rw [hu', eq_of_instant hoffset h hinstant]

/-- An instant between two of the calendar is one of the calendar. -/
theorem asUtc_between {first last : Timestamp} (hfirst : first.offset = some 0)
    (hlast : last.offset = some 0) (hle : first.instant ≤ t.instant) (hlt : t.instant < last.instant) :
    ∃ u, t.asUtc = some u :=
  asUtc_goes ((instant_calendar hfirst).1.trans hle) (hlt.trans (instant_calendar hlast).2)

end Utc

end Timestamp
end InquestsApi
