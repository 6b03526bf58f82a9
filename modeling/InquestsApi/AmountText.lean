import InquestsApi.Money
import InquestsApi.Text

/-! Amounts as text, with two decimals: as they stand in a report, and with their thousands
separated as they stand in an email. -/
namespace InquestsApi

/-- A number written with at least two digits, as `{n:02d}` does. -/
def twoDigits (n : ℕ) : String :=
  String.ofList (List.replicate (2 - (Nat.repr n).length) '0') ++ Nat.repr n

/-- Digits from the last to the first, with a comma after every third that has another before
it. -/
def separateThousands : List Char → List Char
  | c₁ :: c₂ :: c₃ :: c₄ :: rest => c₁ :: c₂ :: c₃ :: ',' :: separateThousands (c₄ :: rest)
  | few => few

def thousands (n : ℕ) : String :=
  String.ofList (separateThousands (Nat.repr n).toList.reverse).reverse

/-- The pence that two decimals show, without the sign. -/
def shownPence (x : Decimal) : ℕ := (Rounding.halfEven (100 * x)).natAbs

/-- A negative amount keeps its sign even where it rounds to zero. -/
def minusSign (x : Decimal) : String := if x < 0 then "-" else ""

/-- `f"{x:.2f}"`. -/
def formatFixed (x : Decimal) : String :=
  minusSign x ++ Nat.repr (shownPence x / 100) ++ "." ++ twoDigits (shownPence x % 100)

/-- `f"{x:,.2f}"`. -/
def formatAmount (x : Decimal) : String :=
  minusSign x ++ thousands (shownPence x / 100) ++ "." ++ twoDigits (shownPence x % 100)

example : (formatAmount 1234567.891, formatFixed (-1/2)) = ("1,234,567.89", "-0.50") := by
  decide +kernel

section Digits

theorem isDigit_of_mem_repr {n : ℕ} {c : Char} (h : c ∈ (Nat.repr n).toList) : c.isDigit = true := by
  rw [Nat.repr_eq_ofList_toDigits, String.toList_ofList] at h
  exact Nat.isDigit_of_mem_toDigits (by decide) (by decide) h

theorem filter_isDigit_repr (n : ℕ) :
    (Nat.repr n).toList.filter Char.isDigit = (Nat.repr n).toList :=
  List.filter_eq_self.mpr fun _ hc => isDigit_of_mem_repr hc

/-- Taking the commas out again leaves the digits. -/
theorem filter_separateThousands (digits : List Char) :
    (separateThousands digits).filter Char.isDigit = digits.filter Char.isDigit := by
  induction digits using separateThousands.induct with
  | case1 c₁ c₂ c₃ c₄ rest ih =>
      have hcomma : Char.isDigit ',' = false := by decide
      simp only [separateThousands, List.filter_cons, hcomma, Bool.false_eq_true, if_false, ih]
  | case2 few hfew =>
      rw [separateThousands]
      exact hfew

theorem filter_isDigit_thousands (n : ℕ) :
    (thousands n).toList.filter Char.isDigit = (Nat.repr n).toList := by
  rw [thousands, String.toList_ofList, List.filter_reverse, filter_separateThousands,
    List.filter_reverse, List.reverse_reverse, filter_isDigit_repr]

theorem filter_isDigit_twoDigits (n : ℕ) :
    (twoDigits n).toList.filter Char.isDigit = (twoDigits n).toList := by
  rw [twoDigits, String.toList_append, String.toList_ofList, List.filter_append,
    filter_isDigit_repr]
  congr 1
  refine List.filter_eq_self.mpr fun c hc => ?_
  rw [(List.mem_replicate.mp hc).2]
  decide

theorem ofDigitChars_repr (n : ℕ) : Nat.ofDigitChars 10 (Nat.repr n).toList 0 = n := by
  rw [Nat.repr_eq_ofList_toDigits, String.toList_ofList, Nat.ofDigitChars_ten_toDigits]

theorem ofDigitChars_twoDigits {n : ℕ} (h : n < 100) (m : ℕ) :
    Nat.ofDigitChars 10 (twoDigits n).toList m = 100 * m + n := by
  have hlength : ∀ n < 100, (twoDigits n).toList.length = 2 := by decide +kernel
  have hvalue : Nat.ofDigitChars 10 (twoDigits n).toList 0 = n := by
    rw [twoDigits, String.toList_append, String.toList_ofList, Nat.ofDigitChars_append,
      Nat.ofDigitChars_replicate_zero, Nat.mul_zero, ofDigitChars_repr]
  rw [Nat.ofDigitChars_eq_ofDigitChars_zero, hlength n h, hvalue]

/-- The pence of an amount can be read back from its text. -/
theorem ofDigitChars_formatAmount (x : Decimal) :
    Nat.ofDigitChars 10 ((formatAmount x).toList.filter Char.isDigit) 0 = shownPence x := by
  have hsign : (minusSign x).toList.filter Char.isDigit = [] := by
    unfold minusSign
    split_ifs <;> decide
  have hpoint : ".".toList.filter Char.isDigit = [] := by decide
  have hlt : shownPence x % 100 < 100 := Nat.mod_lt _ (by decide)
  simp only [formatAmount, String.toList_append, List.filter_append, hsign, hpoint,
    filter_isDigit_thousands, filter_isDigit_twoDigits, List.nil_append, List.append_nil]
  rw [Nat.ofDigitChars_append, ofDigitChars_repr, ofDigitChars_twoDigits hlt]
  exact Nat.div_add_mod _ _

/-- Amounts that are not negative are told apart to the penny. -/
theorem formatAmount_inj {x y : Decimal} (hx : 0 ≤ x) (hy : 0 ≤ y) :
    formatAmount x = formatAmount y ↔ bankersRound x = bankersRound y := by
  have hround : ∀ {z : Decimal}, 0 ≤ z → (shownPence z : ℤ) = Rounding.halfEven (100 * z) := by
    intro z hz
    refine Int.natAbs_of_nonneg (Rounding.halfEven_isNearest.le_of_intCast_le ?_)
    rw [Int.cast_zero]
    linarith
  have hsign : ∀ {z : Decimal}, 0 ≤ z → minusSign z = "" := fun hz => if_neg (not_lt.mpr hz)
  constructor
  · intro h
    have hpence : shownPence x = shownPence y := by
      rw [← ofDigitChars_formatAmount x, ← ofDigitChars_formatAmount y, h]
    rw [bankersRound, bankersRound, ← hround hx, ← hround hy, hpence]
  · intro h
    have hpence : shownPence x = shownPence y := by
      have hcast : (Rounding.halfEven (100 * x) : ℚ) = Rounding.halfEven (100 * y) := by
        rw [bankersRound, bankersRound] at h
        linarith
      have hint : Rounding.halfEven (100 * x) = Rounding.halfEven (100 * y) := by
        exact_mod_cast hcast
      rw [shownPence, shownPence, hint]
    rw [formatAmount, formatAmount, hsign hx, hsign hy, hpence]

end Digits

end InquestsApi
