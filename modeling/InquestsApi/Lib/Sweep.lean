import Mathlib.Data.List.Basic
import Mathlib.Data.List.Nodup
import Mathlib.Data.List.Perm.Lattice
import Mathlib.Data.Sym.Sym2

/-! A sweep over items each of which reports others: a pair is written down when it is first
reported, unless it stands there already, one way round or the other. -/
namespace Sweep

variable {α : Type*}

/-- The pairs without their order. -/
def unordered (pairs : List (α × α)) : List (Sym2 α) := pairs.map fun p => s(p.1, p.2)

@[simp] theorem unordered_nil : unordered ([] : List (α × α)) = [] := rfl

@[simp] theorem unordered_append (pairs new : List (α × α)) :
    unordered (pairs ++ new) = unordered pairs ++ unordered new := List.map_append

@[simp] theorem unordered_eq_nil {pairs : List (α × α)} : unordered pairs = [] ↔ pairs = [] :=
  List.map_eq_nil_iff

theorem mem_unordered {pairs : List (α × α)} {a b : α} :
    s(a, b) ∈ unordered pairs ↔ (a, b) ∈ pairs ∨ (b, a) ∈ pairs := by
  unfold unordered
  rw [List.mem_map]
  constructor
  · rintro ⟨⟨x, y⟩, hmem, hsame⟩
    rcases Sym2.eq_iff.mp hsame with ⟨rfl, rfl⟩ | ⟨rfl, rfl⟩
    · exact .inl hmem
    · exact .inr hmem
  · rintro (h | h)
    · exact ⟨(a, b), h, rfl⟩
    · exact ⟨(b, a), h, Sym2.eq_swap⟩

/-- What is written about one item is about nothing twice. -/
theorem nodup_unordered_pairs {a : α} {reported : List α} (h : reported.Nodup) :
    (unordered (reported.map fun b => (a, b))).Nodup := by
  unfold unordered
  rw [List.map_map]
  refine h.map ?_
  intro b c hsame
  exact Sym2.congr_right.mp hsame

variable [DecidableEq α]

/-- The reported items whose pair with this one is not written down yet. -/
def unseen (seen : List (α × α)) (a : α) (reported : List α) : List α :=
  reported.filter fun b => (a, b) ∉ seen && (b, a) ∉ seen

theorem mem_unseen {seen : List (α × α)} {a b : α} {reported : List α} :
    b ∈ unseen seen a reported ↔ b ∈ reported ∧ s(a, b) ∉ unordered seen := by
  simp [unseen, mem_unordered]

/-- The pairs that the sweep adds to those which are there. -/
def sweep (report : α → List α) : List α → List (α × α) → List (α × α)
  | [], _ => []
  | a :: rest, seen =>
    let new := (unseen seen a (report a)).map fun b => (a, b)
    new ++ sweep report rest (seen ++ new)

section Pairs

variable {report : α → List α} {order order' : List α} {seen : List (α × α)} {p : Sym2 α}

/-- The step: what one item adds. -/
theorem mem_unordered_new {a : α} :
    p ∈ unordered ((unseen seen a (report a)).map fun b => (a, b))
      ↔ p ∉ unordered seen ∧ ∃ b ∈ report a, p = s(a, b) := by
  constructor
  · intro hp
    obtain ⟨pair, hpair, rfl⟩ := List.mem_map.mp hp
    obtain ⟨b, hb, rfl⟩ := List.mem_map.mp hpair
    obtain ⟨hreported, hunseen⟩ := mem_unseen.mp hb
    exact ⟨hunseen, b, hreported, rfl⟩
  · rintro ⟨hunseen, b, hreported, rfl⟩
    refine List.mem_map.mpr ⟨(a, b), ?_, rfl⟩
    exact List.mem_map_of_mem (mem_unseen.mpr ⟨hreported, hunseen⟩)

/-- The sweep adds the reported pairs that are not there, whatever the order of the items. -/
theorem mem_sweep :
    p ∈ unordered (sweep report order seen)
      ↔ p ∉ unordered seen ∧ ∃ a ∈ order, ∃ b ∈ report a, p = s(a, b) := by
  induction order generalizing seen with
  | nil => simp [sweep]
  | cons a rest ih =>
      rw [sweep, unordered_append, List.mem_append, ih, mem_unordered_new, unordered_append,
        List.mem_append, mem_unordered_new]
      simp only [List.mem_cons, exists_eq_or_imp]
      by_cases hnew : p ∉ unordered seen ∧ ∃ b ∈ report a, p = s(a, b)
      · simp [hnew]
      · simp only [hnew, or_false, false_or]
        constructor
        · intro h
          exact ⟨h.1, .inr h.2⟩
        · rintro ⟨hunseen, hhere | hrest⟩
          · exact absurd ⟨hunseen, hhere⟩ hnew
          · exact ⟨hunseen, hrest⟩

/-- A pair that is added names the item that reported it first. -/
theorem reported_of_mem_sweep {a b : α} (h : (a, b) ∈ sweep report order seen) :
    a ∈ order ∧ b ∈ report a := by
  induction order generalizing seen with
  | nil => cases h
  | cons x rest ih =>
      rcases List.mem_append.mp h with hnew | hrest
      · obtain ⟨y, hy, hsame⟩ := List.mem_map.mp hnew
        cases hsame
        exact ⟨List.mem_cons_self, (mem_unseen.mp hy).1⟩
      · obtain ⟨ha, hb⟩ := ih hrest
        exact ⟨List.mem_cons_of_mem x ha, hb⟩

/-- No pair is added twice, where no item reports another twice. -/
theorem nodup_sweep (hreport : ∀ a ∈ order, (report a).Nodup) :
    (unordered (sweep report order seen)).Nodup := by
  induction order generalizing seen with
  | nil => exact List.nodup_nil
  | cons a rest ih =>
      have hnew := nodup_unordered_pairs (a := a) ((hreport a List.mem_cons_self).filter fun b =>
        (a, b) ∉ seen && (b, a) ∉ seen)
      rw [sweep, unordered_append]
      refine List.nodup_append.mpr ⟨hnew, ih fun b hb => hreport b (List.mem_cons_of_mem a hb), ?_⟩
      intro p hp q hq hsame
      -- what is added later is not among what is there by then
      have hlater := (mem_sweep.mp hq).1
      apply hlater
      rw [unordered_append, ← hsame]
      exact List.mem_append_right _ hp

/-- Every order adds the same pairs. -/
theorem sweep_perm (hreport : ∀ a ∈ order, (report a).Nodup) (hperm : order'.Perm order) :
    (unordered (sweep report order' seen)).Perm (unordered (sweep report order seen)) := by
  have hreport' : ∀ a ∈ order', (report a).Nodup := fun a ha => hreport a (hperm.mem_iff.mp ha)
  refine (List.perm_ext_iff_of_nodup (nodup_sweep hreport') (nodup_sweep hreport)).mpr ?_
  intro p
  simp only [mem_sweep, hperm.mem_iff]

/-- After a sweep there is nothing left to add. -/
theorem sweep_again (hsub : order' ⊆ order) :
    sweep report order' (seen ++ sweep report order seen) = [] := by
  rw [← unordered_eq_nil]
  apply List.eq_nil_iff_forall_not_mem.mpr
  intro p hp
  obtain ⟨hunseen, a, ha, hreported⟩ := mem_sweep.mp hp
  rw [unordered_append, List.mem_append, mem_sweep, not_or] at hunseen
  exact hunseen.2 ⟨hunseen.1, a, hsub ha, hreported⟩

end Pairs

end Sweep
