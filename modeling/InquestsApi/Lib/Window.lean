import Mathlib.Algebra.Order.Group.Defs
import Mathlib.Algebra.Order.Sub.Basic
import Mathlib.Data.List.Basic
import Mathlib.Data.List.Induction

/-! Items that arrive with a time each, when those that are live are few in the window that ends
with each arrival: they are then few in every window. -/
namespace Window

variable {α τ : Type*} [AddCommGroup τ] [LinearOrder τ]

/-- How many live items are not older than a time. -/
def countSince (live : α → Bool) (time : α → τ) (start : τ) (items : List α) : ℕ :=
  items.countP fun b => live b && decide (start ≤ time b)

/-- How many live items lie between two times, both included. -/
def countWithin (live : α → Bool) (time : α → τ) (first last : τ) (items : List α) : ℕ :=
  items.countP fun b => live b && decide (first ≤ time b) && decide (time b ≤ last)

/-- Each live item found fewer than the limit among those before it, not older than itself by
more than the width. -/
def Sparse (live : α → Bool) (time : α → τ) (width : τ) (limit : ℕ) (items : List α) : Prop :=
  ∀ older a newer, items = older ++ a :: newer → live a = true →
    countSince live time (time a - width) older < limit

section Windows

variable {live : α → Bool} {time : α → τ} {width : τ} {limit : ℕ} {items older : List α} {a : α}

theorem sparse_nil : Sparse live time width limit [] := by
  intro older a newer hsplit
  simp at hsplit

theorem Sparse.of_append_singleton (h : Sparse live time width limit (older ++ [a])) :
    Sparse live time width limit older := by
  intro before b after hsplit hlive
  apply h before b (after ++ [a]) _ hlive
  rw [hsplit, List.append_assoc, List.cons_append]

/-- The step: what is asked of one more item. -/
theorem sparse_append_singleton : Sparse live time width limit (older ++ [a]) ↔
    Sparse live time width limit older
      ∧ (live a = true → countSince live time (time a - width) older < limit) := by
  constructor
  · intro h
    exact ⟨h.of_append_singleton, h older a [] rfl⟩
  · intro ⟨holder, hnew⟩ before b after hsplit hlive
    induction after using List.reverseRecOn with
    | nil =>
        obtain ⟨rfl, hlast⟩ := List.append_inj' hsplit rfl
        cases hlast
        exact hnew hlive
    | append_singleton after c _ =>
        rw [← List.cons_append, ← List.append_assoc] at hsplit
        obtain ⟨rfl, -⟩ := List.append_inj' hsplit rfl
        exact holder before b after rfl hlive

/-- Items that change may cease to be live, and keep their times. -/
theorem Sparse.map {f : α → α} (h : Sparse live time width limit items)
    (hlive : ∀ a ∈ items, live (f a) = true → live a = true)
    (htime : ∀ a, time (f a) = time a) : Sparse live time width limit (items.map f) := by
  induction items using List.reverseRecOn with
  | nil => exact sparse_nil
  | append_singleton older a ih =>
      obtain ⟨holder, hnew⟩ := sparse_append_singleton.mp h
      have hlater : ∀ b ∈ older, live (f b) = true → live b = true := by
        intro b hb
        exact hlive b (List.mem_append_left _ hb)
      rw [List.map_append, List.map_singleton, sparse_append_singleton]
      refine ⟨ih holder hlater, fun hliveA => ?_⟩
      refine lt_of_le_of_lt ?_ (hnew (hlive a (by simp) hliveA))
      unfold countSince
      rw [List.countP_map, htime]
      apply List.countP_mono_left
      intro b hb hcounted
      simp only [Function.comp_apply, htime, Bool.and_eq_true] at hcounted ⊢
      exact ⟨hlater b hb hcounted.1, hcounted.2⟩

/-- However a window is placed, there are no more live items in it than the limit: the last to
arrive found the others in the window that ends with it. -/
theorem Sparse.countWithin_le [IsOrderedAddMonoid τ] (h : Sparse live time width limit items) (first : τ) :
    countWithin live time first (first + width) items ≤ limit := by
  induction items using List.reverseRecOn with
  | nil => exact Nat.zero_le limit
  | append_singleton older a ih =>
      obtain ⟨holder, hnew⟩ := sparse_append_singleton.mp h
      have holderCount := ih holder
      unfold countWithin at holderCount ⊢
      rw [List.countP_append, List.countP_singleton]
      by_cases hin : (live a && decide (first ≤ time a) && decide (time a ≤ first + width)) = true
      · rw [if_pos hin]
        simp only [Bool.and_eq_true, decide_eq_true_eq] at hin
        obtain ⟨⟨hlive, -⟩, hlast⟩ := hin
        have hstart : time a - width ≤ first := sub_le_iff_le_add.mpr hlast
        have hfound : older.countP (fun b => live b && decide (first ≤ time b)
            && decide (time b ≤ first + width)) ≤ countSince live time (time a - width) older := by
          apply List.countP_mono_left
          intro b _ hcounted
          simp only [Bool.and_eq_true, decide_eq_true_eq] at hcounted ⊢
          exact ⟨hcounted.1.1, hstart.trans hcounted.1.2⟩
        have hfew := hnew hlive
        omega
      · rw [if_neg hin]
        exact holderCount

end Windows

end Window
