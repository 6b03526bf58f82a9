import Mathlib.Data.List.Basic

/-! Rows collected under their keys: what a key has is the rows with that key, in their order. -/
namespace Grouping

variable {κ α : Type*} [DecidableEq κ]

/-- Put a value behind those that a key has. -/
def append (key : κ) (value : α) : List (κ × List α) → List (κ × List α)
  | [] => [(key, [value])]
  | (k, values) :: rest =>
    if k = key then (k, values ++ [value]) :: rest else (k, values) :: append key value rest

/-- The values of a key. -/
def get (key : κ) : List (κ × List α) → List α
  | [] => []
  | (k, values) :: rest => if k = key then values else get key rest

def group (rows : List (κ × α)) : List (κ × List α) :=
  rows.foldl (fun index row => append row.1 row.2 index) []

theorem get_append (key other : κ) (value : α) (index : List (κ × List α)) :
    get other (append key value index) = get other index ++ if key = other then [value] else [] := by
  induction index with
  | nil => by_cases h : key = other <;> simp [append, get, h]
  | cons entry rest ih =>
      obtain ⟨k, values⟩ := entry
      by_cases hkey : k = key
      · subst hkey
        by_cases hother : k = other <;> simp [append, get, hother]
      · by_cases hother : k = other
        · subst hother
          have hne : key ≠ k := fun h => hkey h.symm
          simp [append, get, hkey, hne]
        · simp [append, get, hkey, hother, ih]

theorem get_foldl (key : κ) (rows : List (κ × α)) (index : List (κ × List α)) :
    get key (rows.foldl (fun index row => append row.1 row.2 index) index)
      = get key index ++ (rows.filter fun row => row.1 = key).map (·.2) := by
  induction rows generalizing index with
  | nil => simp
  | cons row rest ih =>
      rw [List.foldl_cons, ih, get_append, List.append_assoc]
      by_cases h : row.1 = key <;> simp [h]

theorem get_group (key : κ) (rows : List (κ × α)) :
    get key (group rows) = (rows.filter fun row => row.1 = key).map (·.2) := get_foldl key rows []

theorem mem_get_group {key : κ} {rows : List (κ × α)} {value : α} :
    value ∈ get key (group rows) ↔ (key, value) ∈ rows := by
  rw [get_group, List.mem_map]
  constructor
  · intro h
    obtain ⟨row, hrow, rfl⟩ := h
    obtain ⟨hmem, hkey⟩ := List.mem_filter.mp hrow
    rw [← of_decide_eq_true hkey]
    exact hmem
  · intro h
    exact ⟨(key, value), List.mem_filter.mpr ⟨h, decide_eq_true rfl⟩, rfl⟩

end Grouping
