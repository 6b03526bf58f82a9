import Mathlib.Order.Lattice
import Mathlib.Data.List.Basic

/-! Half-open windows one after another: what lies between the outer bounds lies in exactly
one of them. -/
namespace Tiling

variable {α δ : Type*} [LinearOrder δ]

/-- The instant lies in the window. -/
def Within (window : δ × δ) (t : δ) : Prop := window.1 ≤ t ∧ t < window.2

instance (window : δ × δ) (t : δ) : Decidable (Within window t) :=
  inferInstanceAs (Decidable (_ ∧ _))

/-- Each window ends where the next one starts. -/
inductive Tiles : δ → List (δ × δ) → δ → Prop
  | nil (a : δ) : Tiles a [] a
  | cons {a m b : δ} {windows : List (δ × δ)} (hle : a ≤ m) (rest : Tiles m windows b) :
      Tiles a ((a, m) :: windows) b

variable {a b : δ} {windows : List (δ × δ)}

theorem Tiles.le (h : Tiles a windows b) : a ≤ b := by
  induction h with
  | nil => exact le_rfl
  | cons hle _ ih => exact hle.trans ih

/-- Two windows that meet are one window, and nothing lies in both. -/
theorem filter_append_perm {m : δ} (ham : a ≤ m) (hmb : m ≤ b) (time : α → δ) (xs : List α) :
    ((xs.filter fun x => Within (a, m) (time x)) ++ xs.filter fun x => Within (m, b) (time x)).Perm
      (xs.filter fun x => Within (a, b) (time x)) := by
  induction xs with
  | nil => exact .nil
  | cons x rest ih =>
      by_cases hfirst : Within (a, m) (time x)
      · have hwhole : Within (a, b) (time x) := ⟨hfirst.1, hfirst.2.trans_le hmb⟩
        have hsecond : ¬ Within (m, b) (time x) := fun h => absurd hfirst.2 (not_lt.mpr h.1)
        rw [List.filter_cons_of_pos (by simpa using hfirst),
          List.filter_cons_of_neg (by simpa using hsecond),
          List.filter_cons_of_pos (by simpa using hwhole), List.cons_append]
        exact ih.cons x
      · rw [List.filter_cons_of_neg (by simpa using hfirst)]
        by_cases hsecond : Within (m, b) (time x)
        · have hwhole : Within (a, b) (time x) := ⟨ham.trans hsecond.1, hsecond.2⟩
          rw [List.filter_cons_of_pos (by simpa using hsecond),
            List.filter_cons_of_pos (by simpa using hwhole)]
          exact List.perm_middle.trans (ih.cons x)
        · have hwhole : ¬ Within (a, b) (time x) := by
            intro h
            rcases lt_or_ge (time x) m with hlt | hge
            · exact hfirst ⟨h.1, hlt⟩
            · exact hsecond ⟨hge, h.2⟩
          rw [List.filter_cons_of_neg (by simpa using hsecond),
            List.filter_cons_of_neg (by simpa using hwhole)]
          exact ih

/-- The rows of the windows together are the rows between the outer bounds. -/
theorem Tiles.perm (h : Tiles a windows b) (time : α → δ) (xs : List α) :
    (windows.flatMap fun w => xs.filter fun x => Within w (time x)).Perm
      (xs.filter fun x => Within (a, b) (time x)) := by
  induction h with
  | nil a =>
      have hnone : (xs.filter fun x => Within (a, a) (time x)) = [] := by
        apply List.filter_eq_nil_iff.mpr
        intro x _ hx
        have hwithin : Within (a, a) (time x) := of_decide_eq_true hx
        exact absurd hwithin.2 (not_lt.mpr hwithin.1)
      rw [hnone]
      exact .nil
  | cons hle rest ih =>
      rw [List.flatMap_cons]
      exact (ih.append_left _).trans (filter_append_perm hle rest.le time xs)

end Tiling
