import Mathlib.Data.List.Forall2
import Mathlib.Data.List.Flatten

/-! Merging several lists that are in order: the least head goes first and, of equal ones, that of
the earliest list. -/
namespace Merge

variable {α β : Type*} {le : α → α → Bool} {le' : β → β → Bool}

def mergeAll (le : α → α → Bool) (lists : List (List α)) : List α :=
  lists.foldl (fun merged list => merged.merge list le) []

section Perm

theorem foldl_perm (merged : List α) (lists : List (List α)) :
    (lists.foldl (fun merged list => merged.merge list le) merged).Perm (merged ++ lists.flatten) := by
  induction lists generalizing merged with
  | nil =>
      rw [List.flatten_nil, List.append_nil]
      rfl
  | cons list rest ih =>
      have hfirst : (merged.merge list le).Perm (merged ++ list) := List.merge_perm_append le
      have hall := (ih (merged.merge list le)).trans (hfirst.append_right rest.flatten)
      rw [List.flatten_cons, ← List.append_assoc]
      exact hall

/-- Nothing is lost or repeated. -/
theorem mergeAll_perm (le : α → α → Bool) (lists : List (List α)) :
    (mergeAll le lists).Perm lists.flatten :=
  foldl_perm [] lists

end Perm

section Order

variable {R : α → α → Prop} {xs ys : List α} {lists : List (List α)}

/-- What the choice between two heads says of their order. -/
def Across (le : α → α → Bool) (R : α → α → Prop) (xs ys : List α) : Prop :=
  ∀ x ∈ xs, ∀ y ∈ ys, (le x y = true → R x y) ∧ (¬ le x y = true → R y x)

theorem pairwise_merge (htrans : ∀ a b c, R a b → R b c → R a c) (hacross : Across le R xs ys)
    (hxs : xs.Pairwise R) (hys : ys.Pairwise R) : (xs.merge ys le).Pairwise R := by
  induction xs generalizing ys with
  | nil =>
      rw [List.nil_merge]
      exact hys
  | cons x xs ihx =>
      induction ys with
      | nil =>
          rw [List.merge_right]
          exact hxs
      | cons y ys ihy =>
          obtain ⟨hx, hxs'⟩ := List.pairwise_cons.mp hxs
          obtain ⟨hy, hys'⟩ := List.pairwise_cons.mp hys
          have hheads := hacross x List.mem_cons_self y List.mem_cons_self
          by_cases h : le x y = true
          · rw [List.cons_merge_cons_pos le xs ys h]
            refine List.pairwise_cons.mpr ⟨?_, ihx ?_ hxs' hys⟩
            · intro z hz
              rcases List.mem_merge.mp hz with hz | hz
              · exact hx z hz
              · -- what follows the other head follows this one
                rcases List.mem_cons.mp hz with rfl | hz
                · exact hheads.1 h
                · exact htrans x y z (hheads.1 h) (hy z hz)
            · exact fun a ha => hacross a (List.mem_cons_of_mem x ha)
          · rw [List.cons_merge_cons_neg le xs ys h]
            refine List.pairwise_cons.mpr ⟨?_, ihy ?_ hys'⟩
            · intro z hz
              rcases List.mem_merge.mp hz with hz | hz
              · rcases List.mem_cons.mp hz with rfl | hz
                · exact hheads.2 h
                · exact htrans y x z (hheads.2 h) (hx z hz)
              · exact hy z hz
            · exact fun a ha b hb => hacross a ha b (List.mem_cons_of_mem y hb)

theorem foldl_pairwise (htrans : ∀ a b c, R a b → R b c → R a c) {merged : List α}
    (hmerged : merged.Pairwise R) (hbefore : ∀ list ∈ lists, Across le R merged list)
    (hlists : ∀ list ∈ lists, list.Pairwise R) (hacross : lists.Pairwise (Across le R)) :
    (lists.foldl (fun merged list => merged.merge list le) merged).Pairwise R := by
  induction lists generalizing merged with
  | nil => exact hmerged
  | cons list rest ih =>
      obtain ⟨hlist, hrest⟩ := List.pairwise_cons.mp hacross
      have hfirst := pairwise_merge htrans (hbefore list List.mem_cons_self) hmerged
        (hlists list List.mem_cons_self)
      refine ih hfirst ?_ (fun l hl => hlists l (List.mem_cons_of_mem list hl)) hrest
      intro later hlater x hx
      rcases List.mem_merge.mp hx with hx | hx
      · exact hbefore later (List.mem_cons_of_mem list hlater) x hx
      · exact hlist later hlater x hx

/-- Lists in an order that the choice agrees with are merged into one in that order. -/
theorem mergeAll_pairwise (htrans : ∀ a b c, R a b → R b c → R a c)
    (hlists : ∀ list ∈ lists, list.Pairwise R) (hacross : lists.Pairwise (Across le R)) :
    (mergeAll le lists).Pairwise R :=
  foldl_pairwise htrans .nil (fun _ _ _ hx => absurd hx List.not_mem_nil) hlists hacross

end Order

section Related

variable {S : α → β → Prop} {xs ys : List α} {xs' ys' : List β}

/-- Lists whose elements are related, and chosen alike, are merged into such lists. -/
theorem forall₂_merge (hsame : ∀ a a' b b', S a a' → S b b' → le a b = le' a' b')
    (hxs : List.Forall₂ S xs xs') (hys : List.Forall₂ S ys ys') :
    List.Forall₂ S (xs.merge ys le) (xs'.merge ys' le') := by
  induction hxs generalizing ys ys' with
  | nil =>
      rw [List.nil_merge, List.nil_merge]
      exact hys
  | @cons x x' xs xs' hx hxs ihx =>
      induction hys with
      | nil =>
          rw [List.merge_right, List.merge_right]
          exact .cons hx hxs
      | @cons y y' ys ys' hy hys ihy =>
          have hchoice := hsame x x' y y' hx hy
          by_cases h : le x y = true
          · have h' : le' x' y' = true := hchoice.symm.trans h
            rw [List.cons_merge_cons_pos le xs ys h, List.cons_merge_cons_pos le' xs' ys' h']
            exact .cons hx (ihx (.cons hy hys))
          · have h' : ¬ le' x' y' = true := fun h' => h (hchoice.trans h')
            rw [List.cons_merge_cons_neg le xs ys h, List.cons_merge_cons_neg le' xs' ys' h']
            exact .cons hy ihy

theorem mergeAll_forall₂ {lists : List (List α)} {lists' : List (List β)}
    (hsame : ∀ a a' b b', S a a' → S b b' → le a b = le' a' b')
    (hlists : List.Forall₂ (List.Forall₂ S) lists lists') :
    List.Forall₂ S (mergeAll le lists) (mergeAll le' lists') := by
  have hfold : ∀ (merged : List α) (merged' : List β), List.Forall₂ S merged merged' →
      List.Forall₂ S (lists.foldl (fun merged list => merged.merge list le) merged)
        (lists'.foldl (fun merged list => merged.merge list le') merged') := by
    induction hlists with
    | nil => exact fun _ _ hmerged => hmerged
    | cons hlist _ ih => exact fun _ _ hmerged => ih _ _ (forall₂_merge hsame hmerged hlist)
  exact hfold [] [] .nil

end Related

end Merge
