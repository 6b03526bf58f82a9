import Mathlib.Data.List.Dedup
import Mathlib.Data.List.MinMax
import Mathlib.Order.WellFounded

/-! Candidates at a distance, each with a label: the label of the nearest ones, where they
agree on it. -/
namespace Nearest

variable {α β δ : Type*} [LinearOrder δ] {distance : α → δ} {label : α → β}

/-- No candidate is nearer than this one. -/
structure IsNearest (distance : α → δ) (candidate : α → Prop) (a : α) : Prop where
  among : candidate a
  nearest : ∀ b, candidate b → distance a ≤ distance b

/-- All nearest candidates have one label. -/
def Agree (distance : α → δ) (label : α → β) (candidate : α → Prop) : Prop :=
  ∀ a b, IsNearest distance candidate a → IsNearest distance candidate b → label a = label b

/-- What is nearest stays nearest when distances are rounded. -/
theorem IsNearest.of_monotone {γ : Type*} [LinearOrder γ] {rounded : δ → γ} (hmono : Monotone rounded)
    {candidate : α → Prop} {a : α} (h : IsNearest distance candidate a) :
    IsNearest (fun b => rounded (distance b)) candidate a where
  among := h.among
  nearest := fun b hb => hmono (h.nearest b hb)

/-- Among distances that cannot go down for ever, one is the least. -/
theorem exists_isNearest_of_wellFounded [WellFoundedLT δ] {candidate : α → Prop}
    (h : ∃ a, candidate a) : ∃ a, IsNearest distance candidate a := by
  obtain ⟨a, ha, hleast⟩ := (InvImage.wf distance wellFounded_lt).has_min {a | candidate a} h
  exact ⟨a, ha, fun b hb => not_lt.mp (hleast b hb)⟩

section Listed

variable {candidate : α → Prop} {candidates : List α} (hmem : ∀ a, a ∈ candidates ↔ candidate a)

include hmem in
theorem isNearest_of_argmin {a : α} (h : candidates.argmin distance = some a) :
    IsNearest distance candidate a where
  among := (hmem a).mp (List.argmin_mem h)
  nearest := fun b hb => List.le_of_mem_argmin ((hmem b).mpr hb) h

include hmem in
theorem exists_isNearest (h : ∃ a, candidate a) : ∃ a, IsNearest distance candidate a := by
  cases hleast : candidates.argmin distance with
  | none =>
      obtain ⟨a, ha⟩ := h
      have hempty := List.argmin_eq_none.mp hleast
      exact absurd ((hmem a).mpr ha) (hempty ▸ List.not_mem_nil)
  | some a => exact ⟨a, isNearest_of_argmin hmem hleast⟩

end Listed

variable [DecidableEq β]

/-- The label of the nearest candidates, if there are any and they have one label. -/
def pick (distance : α → δ) (label : α → β) (candidates : List α) : Option β :=
  match candidates.argmin distance with
  | none => none
  | some least =>
    match ((candidates.filter fun a => distance a = distance least).map label).dedup with
    | [found] => some found
    | _ => none

theorem dedup_eq_singleton {labels : List β} {found : β} :
    labels.dedup = [found] ↔ found ∈ labels ∧ ∀ x ∈ labels, x = found := by
  constructor
  · intro h
    have hmem : ∀ x, x ∈ labels ↔ x = found := by
      intro x
      rw [← List.mem_dedup, h, List.mem_singleton]
    exact ⟨(hmem found).mpr rfl, fun x hx => (hmem x).mp hx⟩
  · rintro ⟨hfound, hall⟩
    have hperm : labels.dedup.Perm [found] := by
      refine (List.perm_ext_iff_of_nodup (List.nodup_dedup _) (List.nodup_singleton _)).mpr ?_
      intro x
      rw [List.mem_dedup, List.mem_singleton]
      exact ⟨hall x, fun h => h ▸ hfound⟩
    exact List.perm_singleton.mp hperm

variable {candidate : α → Prop} {candidates : List α} (hmem : ∀ a, a ∈ candidates ↔ candidate a)

include hmem in
theorem pick_eq_some {found : β} :
    pick distance label candidates = some found ↔
      (∃ a, IsNearest distance candidate a)
        ∧ ∀ a, IsNearest distance candidate a → label a = found := by
  unfold pick
  cases hleast : candidates.argmin distance with
  | none =>
      simp only [reduceCtorEq, false_iff]
      rintro ⟨⟨a, ha⟩, -⟩
      have hempty := List.argmin_eq_none.mp hleast
      exact absurd ((hmem a).mpr ha.among) (hempty ▸ List.not_mem_nil)
  | some a =>
    have ha := isNearest_of_argmin hmem hleast
    have hnearest : ∀ b, b ∈ candidates.filter (fun b => distance b = distance a) ↔
        IsNearest distance candidate b := by
      intro b
      rw [List.mem_filter, decide_eq_true_eq, hmem]
      constructor
      · rintro ⟨hb, hsame⟩
        exact ⟨hb, fun c hc => hsame ▸ ha.nearest c hc⟩
      · intro hb
        exact ⟨hb.among, le_antisymm (hb.nearest a ha.among) (ha.nearest b hb.among)⟩
    have hlabels : ∀ x, x ∈ (candidates.filter fun b => distance b = distance a).map label ↔
        ∃ b, IsNearest distance candidate b ∧ label b = x := by
      intro x
      rw [List.mem_map]
      simp only [hnearest]
    dsimp only
    constructor
    · intro h
      split at h
      · rename_i hsingle
        cases h
        refine ⟨⟨a, ha⟩, fun b hb => ?_⟩
        exact (dedup_eq_singleton.mp hsingle).2 _ ((hlabels _).mpr ⟨b, hb, rfl⟩)
      · cases h
    · rintro ⟨-, hall⟩
      have hsingle := dedup_eq_singleton.mpr
        ⟨(hlabels found).mpr ⟨a, ha, hall a ha⟩, fun x hx => by
          obtain ⟨b, hb, rfl⟩ := (hlabels x).mp hx
          exact hall b hb⟩
      rw [hsingle]

include hmem in
/-- Where there is a candidate, a label is picked exactly when the nearest agree. -/
theorem pick_isSome (h : ∃ a, candidate a) :
    (pick distance label candidates).isSome ↔ Agree distance label candidate := by
  rw [Option.isSome_iff_exists]
  constructor
  · rintro ⟨found, hpick⟩ a b ha hb
    have hall := ((pick_eq_some hmem).mp hpick).2
    rw [hall a ha, hall b hb]
  · intro hagree
    obtain ⟨a, ha⟩ : ∃ a, IsNearest distance candidate a := exists_isNearest hmem h
    exact ⟨label a, (pick_eq_some hmem).mpr ⟨⟨a, ha⟩, fun b hb => hagree b a hb ha⟩⟩

/-- Candidates are picked from by what they are, not by how they are listed. -/
theorem pick_congr {others : List α} (h : ∀ a, a ∈ candidates ↔ a ∈ others) :
    pick distance label candidates = pick distance label others := by
  apply Option.ext
  intro found
  have hleft : pick distance label candidates = some found ↔ _ := pick_eq_some h
  have hright : pick distance label others = some found ↔ _ := pick_eq_some fun a => Iff.rfl
  rw [hleft, hright]

end Nearest
