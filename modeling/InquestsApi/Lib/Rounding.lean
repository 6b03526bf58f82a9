import Mathlib.Algebra.Order.Round
import Mathlib.Data.Int.ConditionallyCompleteOrder
import Mathlib.Data.Int.Log
import Mathlib.Data.Rat.Floor
import Mathlib.Tactic.Linarith

/-! Rounding to the nearest whole unit of an ordered field, and to a number of
significant decimal digits. The rules hold of every nearest rounding, whatever it
does with ties; the two tie-breaking rules of decimal arithmetic are instances. -/
namespace Rounding

variable {α : Type*} [Field α] [LinearOrder α] [IsStrictOrderedRing α]

/-- A rounding that is monotone and never further than half a unit away. -/
structure IsNearest (r : α → ℤ) : Prop where
  mono : Monotone r
  le_add_half : ∀ x, (r x : α) ≤ x + 1 / 2
  sub_half_le : ∀ x, x - 1 / 2 ≤ (r x : α)

namespace IsNearest

variable {r : α → ℤ} {x : α} {n : ℤ}

theorem eq_of_near (h : IsNearest r) (hlow : (n : α) - 1 / 2 < x) (hhigh : x < n + 1 / 2) :
    r x = n := by
  have hup := h.le_add_half x
  have hdown := h.sub_half_le x
  have hlt : (r x : α) < ((n + 1 : ℤ) : α) := by push_cast; linarith
  have hgt : ((n - 1 : ℤ) : α) < r x := by push_cast; linarith
  have hlt' : r x < n + 1 := by exact_mod_cast hlt
  have hgt' : n - 1 < r x := by exact_mod_cast hgt
  omega

theorem intCast (h : IsNearest r) (n : ℤ) : r (n : α) = n :=
  h.eq_of_near (by linarith) (by linarith)

theorem le_of_intCast_le (h : IsNearest r) (hx : (n : α) ≤ x) : n ≤ r x := by
  simpa only [h.intCast] using h.mono hx

theorem lt_of_lt_sub_half (h : IsNearest r) (hx : x < n - 1 / 2) : r x < n := by
  have hup := h.le_add_half x
  have hlt : (r x : α) < n := by linarith
  exact_mod_cast hlt

theorem lt_of_add_half_lt (h : IsNearest r) (hx : (n : α) + 1 / 2 < x) : n < r x := by
  have hdown := h.sub_half_le x
  have hlt : (n : α) < r x := by linarith
  exact_mod_cast hlt

end IsNearest

variable [FloorRing α]

/-- Nearest whole unit, ties to the even neighbour. -/
def halfEven (x : α) : ℤ :=
  if Int.fract x < 1 / 2 then ⌊x⌋
  else if 1 / 2 < Int.fract x then ⌊x⌋ + 1
  else if ⌊x⌋ % 2 = 0 then ⌊x⌋ else ⌊x⌋ + 1

/-- Nearest whole unit, ties away from zero. -/
def halfAway (x : α) : ℤ :=
  if 0 ≤ x then ⌊x + 1 / 2⌋ else ⌈x - 1 / 2⌉

omit [IsStrictOrderedRing α] in
/-- Both neighbours of a value are candidates; only the lower one when it is whole. -/
theorem halfEven_cases (x : α) :
    halfEven x = ⌊x⌋ ∧ Int.fract x ≤ 1 / 2 ∨ halfEven x = ⌊x⌋ + 1 ∧ 1 / 2 ≤ Int.fract x := by
  unfold halfEven
  split_ifs with hlow hhigh heven
  · exact Or.inl ⟨rfl, hlow.le⟩
  · exact Or.inr ⟨rfl, hhigh.le⟩
  · exact Or.inl ⟨rfl, not_lt.mp hhigh⟩
  · exact Or.inr ⟨rfl, not_lt.mp hlow⟩

theorem halfEven_isNearest : IsNearest (halfEven : α → ℤ) where
  mono := by
    intro x y hxy
    have hfloor := Int.floor_mono hxy
    rcases eq_or_lt_of_le hfloor with hsame | hlt
    · -- equal floors: the larger fraction never rounds to the lower neighbour alone
      have hfract : Int.fract x ≤ Int.fract y := by
        simp only [Int.fract, hsame]
        linarith
      unfold halfEven
      rw [hsame]
      split_ifs <;> first | omega | (exfalso; linarith)
    · rcases halfEven_cases x with ⟨hx, -⟩ | ⟨hx, -⟩ <;>
        rcases halfEven_cases y with ⟨hy, -⟩ | ⟨hy, -⟩ <;> omega
  le_add_half := by
    intro x
    have hsplit := Int.floor_add_fract x
    have hnonneg := Int.fract_nonneg x
    rcases halfEven_cases x with ⟨hx, -⟩ | ⟨hx, hf⟩
    · rw [hx]; linarith
    · rw [hx]; push_cast; linarith
  sub_half_le := by
    intro x
    have hsplit := Int.floor_add_fract x
    have hlt := Int.fract_lt_one x
    rcases halfEven_cases x with ⟨hx, hf⟩ | ⟨hx, -⟩
    · rw [hx]; linarith
    · rw [hx]; push_cast; linarith

theorem halfAway_isNearest : IsNearest (halfAway : α → ℤ) where
  mono := by
    intro x y hxy
    unfold halfAway
    split_ifs with hx hy hy
    · exact Int.floor_mono (by linarith)
    · exact absurd (hx.trans hxy) hy
    · have hup : ⌈x - 1 / 2⌉ ≤ 0 := Int.ceil_le.mpr (by push_cast; linarith)
      have hdown : 0 ≤ ⌊y + 1 / 2⌋ := Int.floor_nonneg.mpr (by linarith)
      exact hup.trans hdown
    · exact Int.ceil_mono (by linarith)
  le_add_half := by
    intro x
    unfold halfAway
    split_ifs with hx
    · exact Int.floor_le _
    · have hlt := Int.ceil_lt_add_one (x - 1 / 2)
      linarith
  sub_half_le := by
    intro x
    unfold halfAway
    split_ifs with hx
    · have hlt := Int.sub_one_lt_floor (x + 1 / 2)
      linarith
    · exact Int.le_ceil _

example : (halfEven (5 / 2 : ℚ), halfEven (7 / 2 : ℚ), halfAway (5 / 2 : ℚ)) = (2, 4, 3) := by
  decide +kernel

/-- Ties are broken alike on both sides of zero. -/
theorem halfEven_neg (x : α) : halfEven (-x) = -halfEven x := by
  by_cases hwhole : Int.fract x = 0
  · have hx : ((⌊x⌋ : ℤ) : α) = x := by
      have hsplit := Int.floor_add_fract x
      rw [hwhole, add_zero] at hsplit
      exact hsplit
    rw [← hx, ← Int.cast_neg, halfEven_isNearest.intCast, halfEven_isNearest.intCast]
  · have hfract : Int.fract (-x) = 1 - Int.fract x := Int.fract_neg hwhole
    have hfloor : ⌊-x⌋ = -⌊x⌋ - 1 := by
      have hsplit := Int.floor_add_fract x
      have hsplit' := Int.floor_add_fract (-x)
      have hcast : ((⌊-x⌋ : ℤ) : α) = ((-⌊x⌋ - 1 : ℤ) : α) := by
        push_cast
        linarith
      exact_mod_cast hcast
    unfold halfEven
    rw [hfract, hfloor]
    split_ifs <;> first | omega | (exfalso; linarith)

/-- Half a unit beyond a whole number goes to the even neighbour. -/
theorem halfEven_add_half (n : ℤ) :
    halfEven ((n : α) + 1 / 2) = if n % 2 = 0 then n else n + 1 := by
  have hfloor : ⌊(n : α) + 1 / 2⌋ = n := by
    rw [Int.floor_intCast_add]
    have hzero : ⌊(1 / 2 : α)⌋ = 0 := Int.floor_eq_zero_iff.mpr ⟨by norm_num, by norm_num⟩
    rw [hzero, add_zero]
  have hfract : Int.fract ((n : α) + 1 / 2) = 1 / 2 := by
    rw [Int.fract, hfloor, add_sub_cancel_left]
  rw [halfEven, hfloor, hfract, if_neg (lt_irrefl _), if_neg (lt_irrefl _)]

/-- Only what is more than half a unit below zero is rounded below it. -/
theorem halfEven_neg_iff {x : α} : halfEven x < 0 ↔ x < -(1 / 2) := by
  constructor
  · intro h
    by_contra hx
    have hmono : halfEven (((-1 : ℤ) : α) + 1 / 2) ≤ halfEven x := by
      refine halfEven_isNearest.mono ?_
      push_cast
      linarith
    rw [halfEven_add_half, if_neg (by decide)] at hmono
    omega
  · intro hx
    refine halfEven_isNearest.lt_of_lt_sub_half ?_
    push_cast
    linarith

/-- Half a unit below zero is already rounded below it. -/
theorem halfAway_nonneg_iff {x : α} : 0 ≤ halfAway x ↔ -(1 / 2) < x := by
  unfold halfAway
  split_ifs with hx
  · refine iff_of_true ?_ (lt_of_lt_of_le (by norm_num) hx)
    exact Int.floor_nonneg.mpr (by linarith)
  · have hcast : ((-1 : ℤ) : α) = -1 := by norm_num
    constructor
    · intro h
      have hlt : (-1 : ℤ) < ⌈x - 1 / 2⌉ := by omega
      have hlt' := Int.lt_ceil.mp hlt
      rw [hcast] at hlt'
      linarith
    · intro h
      have hlt : (-1 : ℤ) < ⌈x - 1 / 2⌉ := by
        refine Int.lt_ceil.mpr ?_
        rw [hcast]
        linarith
      omega

/-- The weight of the last of `p` significant decimal digits. -/
def quantum (p : ℕ) (x : α) : α := (10 : α) ^ (Int.log 10 |x| + 1 - p)

/-- A value rounded to `p` significant decimal digits, ties to even. -/
def toPrecision (p : ℕ) (x : α) : α := halfEven (x / quantum p x) * quantum p x

theorem quantum_pos (p : ℕ) (x : α) : 0 < quantum p x :=
  zpow_pos (by norm_num) _

theorem zpow_log_le_self {x : α} (hx : 0 < x) : (10 : α) ^ Int.log 10 x ≤ x := by
  simpa only [Nat.cast_ofNat] using Int.zpow_log_le_self (b := 10) (by norm_num) hx

omit [IsStrictOrderedRing α] in
/-- One digit more is a tenth of the weight. -/
theorem quantum_succ (p : ℕ) (x : α) : quantum p x = 10 * quantum (p + 1) x := by
  have hexp : Int.log 10 |x| + 1 - (p : ℤ) = 1 + (Int.log 10 |x| + 1 - ((p + 1 : ℕ) : ℤ)) := by
    push_cast
    ring
  rw [quantum, quantum, hexp, zpow_add₀ (by norm_num), zpow_one]

theorem abs_digits_lt {p : ℕ} {n m : ℤ} (hn : |n| < 10 ^ p) :
    |(n : α) * 10 ^ (-m)| < (10 : α) ^ ((p : ℤ) - m) := by
  have hten : (10 : α) ≠ 0 := by norm_num
  have hpos : (0 : α) < 10 ^ (-m) := zpow_pos (by norm_num) _
  rw [abs_mul, abs_of_pos hpos, sub_eq_add_neg, zpow_add₀ hten, zpow_natCast]
  refine mul_lt_mul_of_pos_right ?_ hpos
  exact_mod_cast hn

/-- A value of at most `p` digits, the last of weight `10 ^ (-m)`. -/
theorem log_lt_of_digits {p : ℕ} {n m : ℤ} (hn : |n| < 10 ^ p) (hne : n ≠ 0) :
    Int.log 10 |(n : α) * 10 ^ (-m)| < p - m := by
  have hten : (10 : α) ≠ 0 := by norm_num
  have hpos : 0 < |(n : α) * 10 ^ (-m)| := by
    refine abs_pos.mpr (mul_ne_zero ?_ (zpow_ne_zero _ hten))
    exact_mod_cast hne
  have hlt := lt_of_le_of_lt (zpow_log_le_self hpos) (abs_digits_lt hn)
  exact (zpow_lt_zpow_iff_right₀ (by norm_num : (1 : α) < 10)).mp hlt

omit [IsStrictOrderedRing α] in
/-- A value of at most `p` digits is a whole number of quanta of any number whose
leading digit is no higher than digit `p` of that value. -/
theorem digits_div_quantum {p : ℕ} {n m : ℤ} {x : α} (hlog : Int.log 10 |x| < p - m) :
    ∃ k : ℤ, (n : α) * 10 ^ (-m) = k * quantum p x := by
  have hten : (10 : α) ≠ 0 := by norm_num
  obtain ⟨d, hd⟩ := Int.eq_ofNat_of_zero_le (a := p - m - (Int.log 10 |x| + 1)) (by omega)
  refine ⟨n * 10 ^ d, ?_⟩
  have hexp : -m = (d : ℤ) + (Int.log 10 |x| + 1 - p) := by omega
  rw [quantum, hexp, zpow_add₀ hten, zpow_natCast]
  push_cast
  ring

theorem toPrecision_zero (p : ℕ) : toPrecision p (0 : α) = 0 := by
  have hround := (halfEven_isNearest (α := α)).intCast 0
  rw [Int.cast_zero] at hround
  rw [toPrecision, zero_div, hround, Int.cast_zero, zero_mul]

theorem toPrecision_eq_self {p : ℕ} {n m : ℤ} (hn : |n| < 10 ^ p) :
    toPrecision p ((n : α) * 10 ^ (-m)) = n * 10 ^ (-m) := by
  by_cases hne : n = 0
  · rw [hne, Int.cast_zero, zero_mul, toPrecision_zero]
  · obtain ⟨k, hk⟩ := digits_div_quantum (n := n) (log_lt_of_digits (α := α) hn hne)
    have hq := (quantum_pos p ((n : α) * 10 ^ (-m))).ne'
    have hdiv : (n : α) * 10 ^ (-m) / quantum p ((n : α) * 10 ^ (-m)) = k := by
      rw [div_eq_iff hq]
      exact hk
    rw [toPrecision, hdiv, halfEven_isNearest.intCast, ← hk]

/-- The leading digit of a positive value survives the rounding. -/
theorem zpow_log_le_toPrecision {p : ℕ} {x : α} (hp : 0 < p) (hx : 0 < x) :
    (10 : α) ^ Int.log 10 x ≤ toPrecision p x := by
  have hten : (10 : α) ≠ 0 := by norm_num
  have hq := quantum_pos p x
  have hlead : (10 : α) ^ Int.log 10 x = ((10 ^ (p - 1) : ℤ) : α) * quantum p x := by
    obtain ⟨d, rfl⟩ := Nat.exists_eq_add_of_le' hp
    rw [quantum, abs_of_pos hx]
    push_cast
    rw [← zpow_natCast, ← zpow_add₀ hten]
    congr 1
    omega
  have hround : (10 ^ (p - 1) : ℤ) ≤ halfEven (x / quantum p x) := by
    refine halfEven_isNearest.le_of_intCast_le ?_
    rw [le_div_iff₀ hq, ← hlead]
    exact zpow_log_le_self hx
  rw [hlead, toPrecision]
  exact mul_le_mul_of_nonneg_right (by exact_mod_cast hround) hq.le

/-- Rounding to `p` digits does not cross a value of at most `p` digits. -/
theorem le_toPrecision {p : ℕ} {n m : ℤ} {x : α} (hp : 0 < p) (hn : |n| < 10 ^ p)
    (hx : (n : α) * 10 ^ (-m) ≤ x) : (n : α) * 10 ^ (-m) ≤ toPrecision p x := by
  by_cases hlog : Int.log 10 |x| < p - m
  · have hq := quantum_pos p x
    obtain ⟨k, hk⟩ := digits_div_quantum (n := n) hlog
    have hround : k ≤ halfEven (x / quantum p x) := by
      refine halfEven_isNearest.le_of_intCast_le ?_
      rw [le_div_iff₀ hq, ← hk]
      exact hx
    rw [hk, toPrecision]
    exact mul_le_mul_of_nonneg_right (by exact_mod_cast hround) hq.le
  · -- the leading digit of x is above every digit of the bound: x is zero or positive
    rcases eq_or_ne x 0 with rfl | hne
    · rw [toPrecision_zero]
      exact hx
    have hbound := abs_lt.mp (abs_digits_lt (α := α) (m := m) hn)
    have hmono : (10 : α) ^ ((p : ℤ) - m) ≤ (10 : α) ^ Int.log 10 |x| :=
      zpow_le_zpow_right₀ (by norm_num) (not_lt.mp hlog)
    have hlow : (10 : α) ^ Int.log 10 |x| ≤ |x| := zpow_log_le_self (abs_pos.mpr hne)
    rcases lt_or_gt_of_ne hne with hneg | hpos
    · rw [abs_of_neg hneg] at hlow hmono
      linarith [hbound.1]
    · rw [abs_of_pos hpos] at hmono
      exact hbound.2.le.trans (hmono.trans (zpow_log_le_toPrecision hp hpos))

theorem toPrecision_neg (p : ℕ) (x : α) : toPrecision p (-x) = -toPrecision p x := by
  have hquantum : quantum p (-x) = quantum p x := by
    rw [quantum, quantum, abs_neg]
  rw [toPrecision, toPrecision, hquantum, neg_div, halfEven_neg]
  push_cast
  ring

theorem toPrecision_le {p : ℕ} {n m : ℤ} {x : α} (hp : 0 < p) (hn : |n| < 10 ^ p)
    (hx : x ≤ (n : α) * 10 ^ (-m)) : toPrecision p x ≤ (n : α) * 10 ^ (-m) := by
  have hn' : |-n| < 10 ^ p := by rwa [abs_neg]
  have hneg : ((-n : ℤ) : α) * 10 ^ (-m) ≤ -x := by
    push_cast
    linarith
  have hle := le_toPrecision hp hn' hneg
  rw [toPrecision_neg] at hle
  push_cast at hle
  linarith

/-- The neighbours of an even whole number are rounded to it from half a unit away. -/
theorem lt_halfEven_iff {k : ℤ} (heven : k % 2 = 0) {x : α} : k < halfEven x ↔ 1 / 2 < x - k := by
  constructor
  · intro h
    by_contra hx
    have hmono : halfEven x ≤ halfEven ((k : α) + 1 / 2) :=
      halfEven_isNearest.mono (by linarith)
    rw [halfEven_add_half, if_pos heven] at hmono
    omega
  · intro h
    exact halfEven_isNearest.lt_of_add_half_lt (by linarith)

/-- A number whose leading digit is above every digit of a bound has room for the bound and one
of its own last digits. -/
theorem add_quantum_le_zpow_log {p : ℕ} {n m : ℤ} {x : α} (hn : |n| < 10 ^ p)
    (hlog : p - m ≤ Int.log 10 |x|) :
    (n : α) * 10 ^ (-m) + quantum (p + 1) x ≤ (10 : α) ^ Int.log 10 |x| := by
  have hten : (10 : α) ≠ 0 := by norm_num
  obtain ⟨j, hj⟩ := Int.eq_ofNat_of_zero_le (a := Int.log 10 |x| - (p - m)) (by omega)
  have hlead : (10 : α) ^ Int.log 10 |x| = 10 ^ j * 10 ^ p * 10 ^ (-m) := by
    have hexp : Int.log 10 |x| = j + (p + -m) := by omega
    rw [hexp, zpow_add₀ hten, zpow_add₀ hten, zpow_natCast, zpow_natCast, mul_assoc]
  have hlast : quantum (p + 1) x = 10 ^ j * 10 ^ (-m) := by
    have hexp : Int.log 10 |x| + 1 - ((p + 1 : ℕ) : ℤ) = j + -m := by
      push_cast
      omega
    rw [quantum, hexp, zpow_add₀ hten, zpow_natCast]
  have hunit : (0 : α) < 10 ^ (-m) := zpow_pos (by norm_num) _
  have hpower : (1 : α) ≤ 10 ^ j := one_le_pow₀ (by norm_num)
  have hdigits : (1 : α) ≤ 10 ^ p := one_le_pow₀ (by norm_num)
  have hnle : (n : α) ≤ 10 ^ p - 1 := by
    have hlt := (abs_lt.mp hn).2
    have hle : n ≤ 10 ^ p - 1 := by omega
    exact_mod_cast hle
  have hsteps : (n : α) + 10 ^ j ≤ 10 ^ j * 10 ^ p := by nlinarith
  rw [hlast, hlead, ← add_mul]
  exact mul_le_mul_of_nonneg_right hsteps hunit.le

/-- A value is rounded above a bound with a digit to spare when it is above it by more than
half of its own last digit. -/
theorem lt_toPrecision_iff {p : ℕ} {n m : ℤ} {x : α} (hm : m < p) (hn : |n| < 10 ^ p) :
    (n : α) * 10 ^ (-m) < toPrecision (p + 1) x
      ↔ quantum (p + 1) x / 2 < x - n * 10 ^ (-m) := by
  have hq := quantum_pos (p + 1) x
  have hn' : |n| < 10 ^ (p + 1) := hn.trans (pow_lt_pow_right₀ (by norm_num) (Nat.lt_succ_self p))
  by_cases hlog : Int.log 10 |x| < p - m
  · -- the bound is an even number of the last digits of x
    obtain ⟨k, hk⟩ := digits_div_quantum (n := n) hlog
    have hbound : (n : α) * 10 ^ (-m) = ((10 * k : ℤ) : α) * quantum (p + 1) x := by
      rw [hk, quantum_succ]
      push_cast
      ring
    have heven : 10 * k % 2 = 0 := by omega
    rw [hbound, toPrecision, mul_lt_mul_iff_of_pos_right hq, Int.cast_lt, lt_halfEven_iff heven,
      lt_sub_iff_add_lt, lt_div_iff₀ hq, lt_sub_iff_add_lt]
    constructor <;> intro h <;> linarith
  · -- the leading digit of x is above every digit of the bound
    have hbound := abs_lt.mp (abs_digits_lt (α := α) (m := m) hn)
    have hne : x ≠ 0 := by
      rintro rfl
      rw [abs_zero, Int.log_zero_right] at hlog
      omega
    have hroom := add_quantum_le_zpow_log hn (not_lt.mp hlog)
    have hlow : (10 : α) ^ Int.log 10 |x| ≤ |x| := zpow_log_le_self (abs_pos.mpr hne)
    rcases lt_or_gt_of_ne hne with hneg | hpos
    · have hle : x ≤ (n : α) * 10 ^ (-m) := by
        have habove : (10 : α) ^ ((p : ℤ) - m) ≤ (10 : α) ^ Int.log 10 |x| :=
          zpow_le_zpow_right₀ (by norm_num) (not_lt.mp hlog)
        rw [abs_of_neg hneg] at hlow habove
        linarith [hbound.1]
      refine iff_of_false (not_lt.mpr (toPrecision_le (Nat.succ_pos p) hn' hle)) ?_
      linarith
    · rw [abs_of_pos hpos] at hroom hlow
      refine iff_of_true ?_ (by linarith)
      have hkept := zpow_log_le_toPrecision (Nat.succ_pos p) hpos
      linarith

/-- A value is not rounded across zero. -/
theorem toPrecision_nonpos {p : ℕ} {x : α} (hp : 0 < p) (hx : x ≤ 0) : toPrecision p x ≤ 0 := by
  have hzero : |(0 : ℤ)| < 10 ^ p := by
    rw [abs_zero]
    exact pow_pos (by norm_num) _
  have hle := toPrecision_le (α := α) (m := 0) hp hzero (x := x) (by simpa using hx)
  simpa using hle

end Rounding
