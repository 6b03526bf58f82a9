import Mathlib.Data.List.Basic
import Mathlib.Logic.Function.Basic

/-! Rows that are looked up by a key: what a lookup finds after a row is added or taken away, or after all
rows have been rewritten under their keys. -/
namespace Keyed

variable {κ β : Type} [DecidableEq κ]

/-- The first row with this key. -/
def lookup (key : β → κ) (rows : List β) (k : κ) : Option β := rows.find? fun row => key row = k

variable {key : β → κ} {rows : List β} {row : β} {k : κ}

theorem lookup_eq_none_iff : lookup key rows k = none ↔ rows.any (fun row => key row = k) = false := by
  simp [lookup]

theorem lookup_append (h : lookup key rows (key row) = none) :
    lookup key (rows ++ [row]) = Function.update (lookup key rows) (key row) (some row) := by
  funext k
  by_cases hk : k = key row
  · subst hk
    unfold lookup at h ⊢
    simp [List.find?_append, h]
  · have hother : ¬ key row = k := fun hsame => hk hsame.symm
    unfold lookup
    simp [List.find?_append, hk, hother]

theorem lookup_filter : lookup key (rows.filter fun row => key row ≠ k)
    = Function.update (lookup key rows) k none := by
  funext other
  by_cases hk : other = k
  · subst hk
    unfold lookup
    simp
  · rw [Function.update_of_ne hk]
    unfold lookup
    rw [List.find?_filter]
    congr 1
    funext row
    by_cases hrow : key row = other
    · simp [hrow, hk]
    · simp [hrow]

theorem lookup_map {f : β → β} (hkey : ∀ row, key (f row) = key row) :
    lookup key (rows.map f) k = (lookup key rows k).map f := by
  unfold lookup
  rw [List.find?_map]
  congr 2
  funext row
  simp [hkey]

section Views

variable {γ : Type} (f : β → γ)

/-- What the lookups show of the rows. -/
def view (key : β → κ) (rows : List β) : κ → Option γ := fun k => (lookup key rows k).map f

theorem map_update (g : κ → Option β) (k : κ) (x : Option β) :
    (fun k' => (Function.update g k x k').map f)
      = Function.update (fun k' => (g k').map f) k (x.map f) := by
  funext k'
  by_cases h : k' = k
  · subst h
    simp
  · simp [h]

theorem view_append (h : lookup key rows (key row) = none) :
    view f key (rows ++ [row]) = Function.update (view f key rows) (key row) (some (f row)) := by
  unfold view
  rw [lookup_append h, map_update]
  rfl

theorem view_filter (k : κ) : view f key (rows.filter fun row => key row ≠ k)
    = Function.update (view f key rows) k none := by
  unfold view
  rw [lookup_filter, map_update]
  rfl

/-- Rows that are rewritten show what they showed, where the view does not read what is written. -/
theorem view_map {g : β → β} (hkey : ∀ row, key (g row) = key row) (hview : ∀ row, f (g row) = f row) :
    view f key (rows.map g) = view f key rows := by
  funext k
  unfold view
  rw [lookup_map hkey, Option.map_map]
  exact congrArg (fun g => Option.map g (lookup key rows k)) (funext hview)

end Views

end Keyed
