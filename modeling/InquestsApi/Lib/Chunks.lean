import Mathlib.Data.List.Basic

/-! Rows that are written to one buffer and taken out of it in chunks: the buffer holds what is
pending, and the chunks are the texts of consecutive groups of rows. -/
namespace Chunks

variable {ρ α : Type*}

/-- A text buffer with a position in it, as `io.StringIO` has. -/
structure Buffer (α : Type*) where
  content : List α
  position : ℕ

namespace Buffer

def empty : Buffer α := ⟨[], 0⟩

/-- Write over what stands at the position, behind padding if that lies past the end. -/
def write (pad : α) (b : Buffer α) (text : List α) : Buffer α where
  content := b.content.take b.position ++ List.replicate (b.position - b.content.length) pad ++ text
    ++ b.content.drop (b.position + text.length)
  position := b.position + text.length

def seek (b : Buffer α) (position : ℕ) : Buffer α := { b with position := position }

/-- Cut the content; the position stays where it is. -/
def truncate (b : Buffer α) (size : ℕ) : Buffer α := { b with content := b.content.take size }

/-- The content, and the buffer after it was taken out. -/
def drain (b : Buffer α) : List α × Buffer α := (b.content, (b.seek 0).truncate 0)

/-- The buffer has this text and is at its end. -/
structure Holds (b : Buffer α) (text : List α) : Prop where
  content : b.content = text
  position : b.position = text.length

variable {b : Buffer α} {text more : List α} {pad : α}

theorem holds_empty : (empty : Buffer α).Holds [] := ⟨rfl, rfl⟩

theorem Holds.write (h : b.Holds text) : (b.write pad more).Holds (text ++ more) := by
  constructor
  · have hpad : text.length - text.length = 0 := Nat.sub_self _
    have hdrop : text.drop (text.length + more.length) = [] := List.drop_eq_nil_of_le (Nat.le_add_right _ _)
    simp only [Buffer.write, h.content, h.position, List.take_length, hpad, List.replicate_zero,
      List.append_nil, hdrop]
  · simp only [Buffer.write, h.position, List.length_append]

theorem Holds.drain (h : b.Holds text) : b.drain.1 = text ∧ b.drain.2.Holds [] :=
  ⟨h.content, rfl, rfl⟩

end Buffer

/-- Consecutive groups of rows, the first behind what is pending: a group is closed when the count
of all rows is a multiple of `n`. -/
def groups (n : ℕ) : (count : ℕ) → (pending rows : List ρ) → List (List ρ)
  | _, [], [] => []
  | _, pending, [] => [pending]
  | count, pending, row :: rows =>
    if (count + 1) % n = 0 then (pending ++ [row]) :: groups n (count + 1) [] rows
    else groups n (count + 1) (pending ++ [row]) rows

theorem groups_nil (n count : ℕ) (pending : List ρ) :
    groups n count pending [] = if pending.isEmpty then [] else [pending] := by
  cases pending <;> rfl

theorem groups_cons (n count : ℕ) (pending : List ρ) (row : ρ) (rows : List ρ) :
    groups n count pending (row :: rows) =
      if (count + 1) % n = 0 then (pending ++ [row]) :: groups n (count + 1) [] rows
      else groups n (count + 1) (pending ++ [row]) rows := by
  cases pending <;> rfl

/-- No row is lost, repeated or moved. -/
theorem flatten_groups (n count : ℕ) (pending rows : List ρ) :
    (groups n count pending rows).flatten = pending ++ rows := by
  induction rows generalizing count pending with
  | nil =>
      rw [groups_nil, List.append_nil]
      cases pending with
      | nil => rfl
      | cons row rest => exact List.append_nil _
  | cons row rows ih =>
      rw [groups_cons]
      by_cases hclosed : (count + 1) % n = 0
      · rw [if_pos hclosed, List.flatten_cons, ih, List.nil_append, List.append_assoc]
        rfl
      · rw [if_neg hclosed, ih, List.append_assoc]
        rfl

theorem ne_nil_of_mem_groups {n count : ℕ} {pending rows group : List ρ}
    (h : group ∈ groups n count pending rows) : group ≠ [] := by
  induction rows generalizing count pending with
  | nil =>
      cases pending with
      | nil => cases h
      | cons row rest =>
          rw [List.mem_singleton.mp h]
          exact List.cons_ne_nil row rest
  | cons row rows ih =>
      rw [groups_cons] at h
      by_cases hclosed : (count + 1) % n = 0
      · rw [if_pos hclosed, List.mem_cons] at h
        rcases h with rfl | h
        · exact List.append_ne_nil_of_right_ne_nil pending (List.cons_ne_nil row [])
        · exact ih h
      · rw [if_neg hclosed] at h
        exact ih h

end Chunks
