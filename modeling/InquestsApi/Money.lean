import InquestsApi.Lib.Rounding

/-! Decimal arithmetic and the `Numeric(10, 2)` columns it is stored in. -/
namespace InquestsApi

/-- A Python `Decimal`, as its value. -/
abbrev Decimal := ℚ

/-- The significant digits of the default decimal context. -/
def contextPrecision : ℕ := 28

def decimalAdd (x y : Decimal) : Decimal := Rounding.toPrecision contextPrecision (x + y)

def decimalSub (x y : Decimal) : Decimal := Rounding.toPrecision contextPrecision (x - y)

/-- `quantize(Decimal("0.01"))`, which rounds half to even. -/
def bankersRound (x : Decimal) : Decimal := (Rounding.halfEven (100 * x) : ℚ) / 100

def resolveClaimTotal (gross vatZeroTotal : Option Decimal) : Option Decimal :=
  match gross with
  | some g => if g = 0 ∧ vatZeroTotal.isSome then vatZeroTotal else some g
  | none => vatZeroTotal

/-- The first amount that `quantize` cannot give two decimals in the digits of the context. -/
def quantizeBound : Decimal := 10 ^ 26

/-- The value of a `Numeric(10, 2)` column: whole pence within the column's ten digits. -/
structure Amount where
  pence : ℤ
  fits : pence.natAbs < 10 ^ 10
  deriving DecidableEq, Repr

theorem resolveClaimTotal_eq_or (gross vatZeroTotal : Option Decimal) :
    resolveClaimTotal gross vatZeroTotal = gross
      ∨ resolveClaimTotal gross vatZeroTotal = vatZeroTotal := by
  cases gross with
  | none => exact .inr rfl
  | some g =>
      by_cases h : g = 0 ∧ vatZeroTotal.isSome
      · exact .inr (if_pos h)
      · exact .inl (if_neg h)

theorem resolveClaimTotal_of_ne_zero {g : Decimal} (hg : g ≠ 0) (vatZeroTotal : Option Decimal) :
    resolveClaimTotal (some g) vatZeroTotal = some g :=
  if_neg fun h => hg h.1

/-- Decimals of whole pence, which a column keeps as they are. -/
def WholePence (x : Decimal) : Prop := ∃ n : ℤ, x = n / 100

theorem wholePence_zero : WholePence 0 := ⟨0, by norm_num⟩

theorem bankersRound_wholePence (x : Decimal) : WholePence (bankersRound x) :=
  ⟨Rounding.halfEven (100 * x), rfl⟩

theorem WholePence.bankersRound_eq {x : Decimal} (hx : WholePence x) : bankersRound x = x := by
  obtain ⟨n, rfl⟩ := hx
  have hpence : 100 * ((n : ℚ) / 100) = n := by ring
  rw [bankersRound, hpence, Rounding.halfEven_isNearest.intCast]

theorem WholePence.neg {x : Decimal} (hx : WholePence x) : WholePence (-x) := by
  obtain ⟨n, rfl⟩ := hx
  exact ⟨-n, by push_cast; ring⟩

theorem WholePence.add {x y : Decimal} (hx : WholePence x) (hy : WholePence y) :
    WholePence (x + y) := by
  obtain ⟨m, rfl⟩ := hx
  obtain ⟨n, rfl⟩ := hy
  exact ⟨m + n, by push_cast; ring⟩

theorem WholePence.sub {x y : Decimal} (hx : WholePence x) (hy : WholePence y) :
    WholePence (x - y) := by
  rw [sub_eq_add_neg]
  exact hx.add hy.neg

/-- The digits of the context hold whole pence below 10 ^ 26. -/
theorem WholePence.toPrecision_eq {x : Decimal} (hx : WholePence x) (hlt : |x| < 10 ^ 26) :
    Rounding.toPrecision contextPrecision x = x := by
  obtain ⟨n, rfl⟩ := hx
  have hdigits : |n| < 10 ^ contextPrecision := by
    rw [abs_div, div_lt_iff₀ (by norm_num), ← Int.cast_abs] at hlt
    rw [contextPrecision]
    norm_num at hlt
    exact_mod_cast hlt
  have hvalue : (n : ℚ) / 100 = (n : ℚ) * 10 ^ (-(2 : ℤ)) := by
    rw [zpow_neg]
    ring
  rw [hvalue, Rounding.toPrecision_eq_self hdigits]

/-- The pence that a column keeps of a decimal. -/
def storedPence (x : Decimal) : ℤ := Rounding.halfAway (100 * x)

namespace Amount

instance : Zero Amount := ⟨⟨0, by decide⟩⟩

def value (a : Amount) : Decimal := (a.pence : ℚ) / 100

/-- What the column keeps of a decimal: two places, ties away from zero, and an error
when the digits before the point do not fit. -/
def ofDecimal (x : Decimal) : Option Amount :=
  if h : (storedPence x).natAbs < 10 ^ 10 then some ⟨storedPence x, h⟩ else none

/-- The same for a nullable column. -/
def ofNullable : Option Decimal → Option (Option Amount)
  | none => some none
  | some x => (ofDecimal x).map some

/-- The stored field as the program reads it back. -/
def valueOf (a : Option Amount) : Option Decimal := a.map value

variable {x : Decimal} {a : Amount}

theorem pence_of_ofDecimal (h : ofDecimal x = some a) : a.pence = storedPence x := by
  unfold ofDecimal at h
  split at h
  · cases h
    rfl
  · cases h

theorem hundred_mul_value (a : Amount) : 100 * a.value = (a.pence : ℚ) := by
  unfold value
  ring

theorem storedPence_value (a : Amount) : storedPence a.value = a.pence := by
  rw [storedPence, hundred_mul_value, Rounding.halfAway_isNearest.intCast]

theorem ofDecimal_value (a : Amount) : ofDecimal a.value = some a := by
  have hfits := a.fits
  unfold ofDecimal
  simp only [storedPence_value, dif_pos hfits]

theorem value_wholePence (a : Amount) : WholePence a.value := ⟨a.pence, rfl⟩

/-- A stored amount is rounded to itself. -/
theorem bankersRound_value (a : Amount) : bankersRound a.value = a.value :=
  a.value_wholePence.bankersRound_eq

theorem bankersRound_neg_value (a : Amount) : bankersRound (-a.value) = -a.value :=
  a.value_wholePence.neg.bankersRound_eq

theorem abs_value_lt (a : Amount) : |a.value| < 10 ^ 8 := by
  have hfits := a.fits
  have hpence : |a.pence| < 10 ^ 10 := by
    rw [abs_lt]
    omega
  have hcast : |(a.pence : ℚ)| < 10 ^ 10 := by
    rw [← Int.cast_abs]
    exact_mod_cast hpence
  rw [value, abs_div, div_lt_iff₀ (by norm_num)]
  norm_num
  linarith

/-- Stored amounts are far within the digits of the context. -/
theorem decimalAdd_value (a b : Amount) : decimalAdd a.value b.value = a.value + b.value := by
  refine (a.value_wholePence.add b.value_wholePence).toPrecision_eq ?_
  refine lt_of_le_of_lt (abs_add_le _ _) ?_
  linarith [a.abs_value_lt, b.abs_value_lt]

theorem decimalSub_value (a b : Amount) : decimalSub a.value b.value = a.value - b.value := by
  refine (a.value_wholePence.sub b.value_wholePence).toPrecision_eq ?_
  refine lt_of_le_of_lt (abs_sub _ _) ?_
  linarith [a.abs_value_lt, b.abs_value_lt]

/-- Nothing is lost when whole pence are stored. -/
theorem value_of_wholePence (hx : WholePence x) (h : ofDecimal x = some a) : a.value = x := by
  obtain ⟨n, rfl⟩ := hx
  have hround : storedPence (n / 100 : ℚ) = n := by
    have hpence : 100 * ((n : ℚ) / 100) = n := by ring
    rw [storedPence, hpence, Rounding.halfAway_isNearest.intCast]
  rw [value, pence_of_ofDecimal h, hround]

theorem value_injective : Function.Injective value := by
  intro a b h
  have hsome : some a = some b := by rw [← ofDecimal_value, ← ofDecimal_value, h]
  exact Option.some.inj hsome

theorem ofNullable_valueOf (a : Option Amount) : ofNullable (valueOf a) = some a := by
  cases a with
  | none => rfl
  | some a => simp only [valueOf, Option.map_some, ofNullable, ofDecimal_value]

end Amount

end InquestsApi
