import Mathlib.Data.List.FinRange
import Mathlib.Data.Sym.Sym2

/-! Items that arrive one after another, each compared with those that came before it: the
unordered pairs that are found, and when the order of arrival does not matter to them. -/
namespace Arrivals

variable {α β : Type*}

/-- Of two items of the list, one comes before the other. -/
def Precedes (order : List α) (first second : α) : Prop := [first, second].Sublist order

theorem Precedes.mem {order : List α} {a b : α} (h : Precedes order a b) : a ∈ order ∧ b ∈ order :=
  ⟨h.subset (by simp), h.subset (by simp)⟩

theorem not_precedes_nil {a b : α} : ¬ Precedes [] a b := by
  intro h
  cases h

/-- The last arrival comes after all others. -/
theorem precedes_append_singleton {order : List α} {last a b : α} :
    Precedes (order ++ [last]) a b ↔ Precedes order a b ∨ a ∈ order ∧ b = last := by
  unfold Precedes
  constructor
  · intro h
    obtain ⟨front, back, hsplit, hfront, hback⟩ := List.sublist_append_iff.mp h
    rcases front with _ | ⟨x, _ | ⟨y, front⟩⟩
    · rw [List.nil_append] at hsplit
      have hlength := (hsplit ▸ hback).length_le
      simp at hlength
    · simp only [List.cons_append, List.nil_append, List.cons.injEq] at hsplit
      obtain ⟨rfl, rfl⟩ := hsplit
      exact .inr ⟨List.singleton_sublist.mp hfront,
        List.mem_singleton.mp (List.singleton_sublist.mp hback)⟩
    · simp only [List.cons_append, List.cons.injEq, List.nil_eq, List.append_eq_nil_iff] at hsplit
      obtain ⟨rfl, rfl, rfl, -⟩ := hsplit
      exact .inl hfront
  · rintro (h | ⟨ha, rfl⟩)
    · exact h.trans (List.sublist_append_left _ _)
    · exact (List.singleton_sublist.mpr ha).append (List.Sublist.refl [b])

theorem precedes_map {f : α → β} {order : List α} {x y : β} :
    Precedes (order.map f) x y ↔ ∃ a b, Precedes order a b ∧ f a = x ∧ f b = y := by
  unfold Precedes
  constructor
  · intro h
    obtain ⟨front, hfront, hmap⟩ := List.sublist_map_iff.mp h
    obtain ⟨a, rest, rfl, ha, hrest⟩ := List.map_eq_cons_iff.mp hmap.symm
    obtain ⟨b, rfl, hb⟩ := List.map_eq_singleton_iff.mp hrest
    exact ⟨a, b, hfront, ha, hb⟩
  · rintro ⟨a, b, h, rfl, rfl⟩
    exact h.map f

/-- Two items that are not one come in one order or the other. -/
theorem precedes_total {order : List α} {a b : α} (ha : a ∈ order) (hb : b ∈ order) (hne : a ≠ b) :
    Precedes order a b ∨ Precedes order b a := by
  induction order with
  | nil => cases ha
  | cons x rest ih =>
      rcases List.mem_cons.mp ha with rfl | ha'
      · have hb : b ∈ rest := (List.mem_cons.mp hb).resolve_left (Ne.symm hne)
        exact .inl (.cons_cons a (List.singleton_sublist.mpr hb))
      · rcases List.mem_cons.mp hb with rfl | hb'
        · exact .inr (.cons_cons b (List.singleton_sublist.mpr ha'))
        · exact (ih ha' hb').imp (·.cons x) (·.cons x)

theorem Precedes.ne {order : List α} {a b : α} (h : Precedes order a b) (hnodup : order.Nodup) :
    a ≠ b := by
  rintro rfl
  exact List.nodup_iff_sublist.mp hnodup a h

theorem Precedes.asymm {order : List α} {a b : α} (h : Precedes order a b) (hnodup : order.Nodup) :
    ¬ Precedes order b a := by
  induction order with
  | nil => cases h
  | cons x rest ih =>
      have hrest := (List.nodup_cons.mp hnodup).2
      have hx := (List.nodup_cons.mp hnodup).1
      intro hback
      cases h with
      | cons _ h =>
          cases hback with
          | cons _ hback => exact ih h hrest hback
          | cons_cons _ hback => exact hx (Precedes.mem h).2
      | cons_cons _ h =>
          have hb := List.singleton_sublist.mp h
          cases hback with
          | cons _ hback => exact hx (Precedes.mem hback).2
          | cons_cons _ hback => exact hx hb

/-- The pairs of which the later item was found to match the earlier one. -/
def foundPairs (matched : α → α → Prop) (order : List α) : Set (Sym2 α) :=
  {p | ∃ a b, Precedes order a b ∧ matched a b ∧ p = s(a, b)}

section Orders

variable {matched : α → α → Prop} {order order' : List α} {a b : α}

/-- Of a pair that comes in this order, only this comparison is made. -/
theorem mem_foundPairs_iff (hnodup : order.Nodup) (h : Precedes order a b) :
    s(a, b) ∈ foundPairs matched order ↔ matched a b := by
  constructor
  · rintro ⟨x, y, hxy, hmatched, hpair⟩
    rcases Sym2.eq_iff.mp hpair with ⟨rfl, rfl⟩ | ⟨rfl, rfl⟩
    · exact hmatched
    · exact absurd hxy (h.asymm hnodup)
  · intro hmatched
    exact ⟨a, b, h, hmatched, rfl⟩

/-- Where matching is symmetric, an order finds what any other finds. -/
theorem foundPairs_subset_of_perm (hperm : order.Perm order') (hnodup : order.Nodup)
    (hsymm : ∀ a ∈ order, ∀ b ∈ order, a ≠ b → matched a b → matched b a) :
    foundPairs matched order ⊆ foundPairs matched order' := by
  rintro p ⟨a, b, hab, hmatched, rfl⟩
  obtain ⟨ha, hb⟩ := hab.mem
  have hne := hab.ne hnodup
  rcases precedes_total (hperm.mem_iff.mp ha) (hperm.mem_iff.mp hb) hne with h | h
  · exact ⟨a, b, h, hmatched, rfl⟩
  · exact ⟨b, a, h, hsymm a ha b hb hne hmatched, Sym2.eq_swap⟩

/-- The order of arrival does not matter exactly where matching is symmetric. -/
theorem foundPairs_perm_iff (hnodup : order.Nodup) :
    (∀ o₁ o₂ : List α, o₁.Perm order → o₂.Perm order →
      foundPairs matched o₁ = foundPairs matched o₂)
      ↔ ∀ a ∈ order, ∀ b ∈ order, a ≠ b → matched a b → matched b a := by
  classical
  constructor
  · intro hsame a ha b hb hne hmatched
    -- the two orders that begin with the pair, one way round and the other
    have hab : (a :: b :: (order.erase a).erase b).Perm order := by
      have hb' : b ∈ order.erase a := (List.mem_erase_of_ne (Ne.symm hne)).mpr hb
      exact ((List.perm_cons_erase hb').symm.cons a).trans (List.perm_cons_erase ha).symm
    have hba : (b :: a :: (order.erase a).erase b).Perm order := (List.Perm.swap a b _).trans hab
    have hfirst : Precedes (a :: b :: (order.erase a).erase b) a b :=
      (List.nil_sublist _).cons_cons b |>.cons_cons a
    have hsecond : Precedes (b :: a :: (order.erase a).erase b) b a :=
      (List.nil_sublist _).cons_cons a |>.cons_cons b
    have hfound := (mem_foundPairs_iff (hab.nodup_iff.mpr hnodup) hfirst).mpr hmatched
    rw [hsame _ _ hab hba, Sym2.eq_swap] at hfound
    exact (mem_foundPairs_iff (hba.nodup_iff.mpr hnodup) hsecond).mp hfound
  · intro hsymm o₁ o₂ h₁ h₂
    have hsymm₁ : ∀ a ∈ o₁, ∀ b ∈ o₁, a ≠ b → matched a b → matched b a :=
      fun a ha b hb => hsymm a (h₁.mem_iff.mp ha) b (h₁.mem_iff.mp hb)
    have hsymm₂ : ∀ a ∈ o₂, ∀ b ∈ o₂, a ≠ b → matched a b → matched b a :=
      fun a ha b hb => hsymm a (h₂.mem_iff.mp ha) b (h₂.mem_iff.mp hb)
    have hperm := h₁.trans h₂.symm
    apply Set.Subset.antisymm
    · exact foundPairs_subset_of_perm hperm (h₁.nodup_iff.mpr hnodup) hsymm₁
    · exact foundPairs_subset_of_perm hperm.symm (h₂.nodup_iff.mpr hnodup) hsymm₂

end Orders

end Arrivals
