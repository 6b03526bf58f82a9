import Mathlib.Data.List.Forall2
import Mathlib.Data.List.Perm.Subperm

/-! Records that are backed by a log: each record stands for an entry of its own. -/
namespace Backing

variable {α β : Type} {R : α → β → Prop} {records more : List α} {log new : List β}

/-- Each record stands for an entry of the log, and no two records for the same one. -/
def Backed (R : α → β → Prop) (records : List α) (log : List β) : Prop :=
  ∃ used, List.Forall₂ R records used ∧ used.Subperm log

theorem Backed.nil : Backed R [] log := ⟨[], .nil, List.nil_subperm⟩

/-- Entries that no record stands for do no harm. -/
theorem Backed.newer (h : Backed R records log) : Backed R records (new ++ log) := by
  obtain ⟨used, hused, hsub⟩ := h
  refine ⟨used, hused, hsub.trans ?_⟩
  exact (List.sublist_append_right new log).subperm

theorem Backed.append (h : Backed R records log) (hmore : List.Forall₂ R more new) :
    Backed R (records ++ more) (new ++ log) := by
  obtain ⟨used, hused, hsub⟩ := h
  refine ⟨used ++ new, List.rel_append hused hmore, ?_⟩
  have hlog : (used ++ new).Subperm (log ++ new) := (List.subperm_append_right new).mpr hsub
  exact hlog.trans List.perm_append_comm.subperm

theorem Backed.exists_of_mem (h : Backed R records log) {a : α} (ha : a ∈ records) :
    ∃ b ∈ log, R a b := by
  obtain ⟨used, hused, hsub⟩ := h
  obtain ⟨b, hb, hR⟩ : ∃ b ∈ used, R a b := by
    clear hsub
    induction hused with
    | nil => cases ha
    | cons hhead _ ih =>
        rcases List.mem_cons.mp ha with rfl | hrest
        · exact ⟨_, List.mem_cons_self, hhead⟩
        · obtain ⟨b, hb, hR⟩ := ih hrest
          exact ⟨b, List.mem_cons_of_mem _ hb, hR⟩
  exact ⟨b, hsub.subset hb, hR⟩

end Backing
