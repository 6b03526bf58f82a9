import InquestsApi.Store
import Std.Data.String.ToNat

/-! Invoice numbers: a claim reference and a sequence number can be read back from one, and
the number of a recoupment is never the number of a payment. -/
namespace InquestsApi

theorem digits_ofDigitChars (n : ℕ) : Nat.ofDigitChars 10 (threeDigits n).toList 0 = n := by
  rw [threeDigits, String.toList_append, String.toList_ofList, Nat.ofDigitChars_append,
    Nat.ofDigitChars_replicate_zero, Nat.repr_eq_ofList_toDigits, String.toList_ofList, Nat.mul_zero,
    Nat.ofDigitChars_ten_toDigits]

/-- The padding to three digits loses nothing. -/
theorem threeDigits_injective : Function.Injective threeDigits := by
  intro m n h
  rw [← digits_ofDigitChars m, ← digits_ofDigitChars n, h]

/-- A reference has one length. -/
theorem generateClaimReference_length (draw : ReferenceDraw 4) :
    (generateClaimReference draw).toList.length = 14 := by
  simp only [generateClaimReference, ReferenceDraw.render, String.toList_append, String.toList_ofList, List.length_append,
    List.length_map, List.length_ofFn]
  rfl

theorem invoiceNumberOf_injective {a b : String} {m n : ℕ}
    (hlength : a.toList.length = b.toList.length)
    (h : invoiceNumberOf a m = invoiceNumberOf b n) : a = b ∧ m = n := by
  have hchars := congrArg String.toList h
  simp only [invoiceNumberOf, String.toList_append, List.append_assoc] at hchars
  obtain ⟨hreference, hsequence⟩ := List.append_inj hchars hlength
  have hdigits := List.append_cancel_left hsequence
  exact ⟨String.toList_inj.mp hreference, threeDigits_injective (String.toList_inj.mp hdigits)⟩

/-- The number of a payment ends in a digit. -/
theorem getLast_invoiceNumberOf (reference : String) (n : ℕ) :
    ∃ c, (invoiceNumberOf reference n).toList.getLast? = some c ∧ c.isDigit = true := by
  have hne : (Nat.repr n).toList ≠ [] := by
    rw [Nat.repr_eq_ofList_toDigits, String.toList_ofList]
    exact Nat.toDigits_ne_nil
  refine ⟨(Nat.repr n).toList.getLast hne, ?_, ?_⟩
  · simp only [invoiceNumberOf, threeDigits, String.toList_append]
    rw [← List.append_assoc, List.getLast?_append_of_ne_nil _ hne, List.getLast?_eq_some_getLast hne]
  · have hdigits : ∀ c ∈ (Nat.repr n).toList, c.isDigit = true := by
      intro c hc
      rw [Nat.repr_eq_ofList_toDigits, String.toList_ofList] at hc
      exact Nat.isDigit_of_mem_toDigits (by decide) (by decide) hc
    exact hdigits _ (List.getLast_mem hne)

/-- The number of a recoupment is no payment's. -/
theorem reversal_ne_invoiceNumberOf (number reference : String) (n : ℕ) :
    number ++ "-R" ≠ invoiceNumberOf reference n := by
  intro h
  obtain ⟨c, hlast, hdigit⟩ := getLast_invoiceNumberOf reference n
  rw [← h, String.toList_append] at hlast
  have hr : (number.toList ++ "-R".toList).getLast? = some 'R' := by
    rw [List.getLast?_append_of_ne_nil _ (by decide)]
    rfl
  rw [hr] at hlast
  cases hlast
  exact absurd hdigit (by decide)

theorem reversal_injective {a b : String} (h : a ++ "-R" = b ++ "-R") : a = b :=
  (String.append_left_inj "-R").mp h

end InquestsApi
