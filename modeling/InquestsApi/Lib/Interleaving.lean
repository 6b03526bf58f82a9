import Mathlib.Logic.Function.Basic
import Mathlib.Logic.Relation

/-! Processes over a shared state. Each step lets one process act, atomically, on its own
local state and on the shared one; a process that has to wait takes no step. -/
namespace Interleaving

/-- What a process does next: its local state, the shared state, and what they become. -/
abbrev Program (ι κ σ : Type) := ι → κ → σ → Option (κ × σ)

structure System (ι κ σ : Type) where
  locals : ι → κ
  shared : σ

/-- Which steps of a program are taken into account. -/
abbrev Admission (ι κ σ : Type) := ι → κ → σ → Prop

def anyStep {ι κ σ : Type} : Admission ι κ σ := fun _ _ _ => True

instance {ι κ σ : Type} (i : ι) (k : κ) (g : σ) : Decidable (anyStep i k g) := .isTrue trivial

section Runs

variable {ι κ σ : Type} [DecidableEq ι] (program : Program ι κ σ) (admitted : Admission ι κ σ)

namespace System

def advance (s : System ι κ σ) (i : ι) : Option (System ι κ σ) :=
  (program i (s.locals i) s.shared).map fun next => ⟨Function.update s.locals i next.1, next.2⟩

/-- Follow a schedule, as long as its steps are admitted and nobody has to wait. -/
def follow [∀ i k g, Decidable (admitted i k g)] :
    System ι κ σ → List ι → Option (System ι κ σ)
  | s, [] => some s
  | s, i :: rest =>
    if admitted i (s.locals i) s.shared then (s.advance program i).bind fun s' => s'.follow rest
    else none

end System

/-- An admitted step of one process. -/
structure Step (i : ι) (s s' : System ι κ σ) : Prop where
  admitted : admitted i (s.locals i) s.shared
  advance : s.advance program i = some s'

def Run : System ι κ σ → System ι κ σ → Prop :=
  Relation.ReflTransGen fun s s' => ∃ i, Step program admitted i s s'

/-- A shared invariant and a local assertion for each process: the process keeps both, and
the others do not disturb the assertion. -/
structure Outline (I : σ → Prop) (A : ι → κ → σ → Prop) : Prop where
  own : ∀ {i : ι} {k k' : κ} {g g' : σ}, I g → A i k g → admitted i k g →
    program i k g = some (k', g') → I g' ∧ A i k' g'
  others : ∀ {i j : ι} {k k' l : κ} {g g' : σ}, j ≠ i → I g → A i k g → A j l g → admitted i k g →
    program i k g = some (k', g') → A j l g'

/-- The invariant and every assertion hold. -/
structure Holds (I : σ → Prop) (A : ι → κ → σ → Prop) (s : System ι κ σ) : Prop where
  shared : I s.shared
  locals : ∀ i, A i (s.locals i) s.shared

end Runs

section Rules

variable {ι κ σ : Type} [DecidableEq ι] {program : Program ι κ σ}
variable {admitted admitted' : Admission ι κ σ} {I : σ → Prop} {A : ι → κ → σ → Prop}
variable {s s' : System ι κ σ} {i : ι}

theorem Step.run (h : Step program admitted i s s') : Run program admitted s s' :=
  .single ⟨i, h⟩

/-- A step is one action of its process; the others keep their local states. -/
theorem Step.act (h : Step program admitted i s s') :
    ∃ k g, program i (s.locals i) s.shared = some (k, g)
      ∧ s' = ⟨Function.update s.locals i k, g⟩ := by
  obtain ⟨⟨k, g⟩, hact, hsame⟩ := Option.map_eq_some_iff.mp h.advance
  exact ⟨k, g, hact, hsame.symm⟩

theorem Outline.step (ho : Outline program admitted I A) (hs : Holds I A s)
    (h : Step program admitted i s s') : Holds I A s' := by
  obtain ⟨k, g, hact, rfl⟩ := h.act
  obtain ⟨hshared, hown⟩ := ho.own hs.shared (hs.locals i) h.admitted hact
  refine ⟨hshared, ?_⟩
  intro j
  by_cases hj : j = i
  · subst hj
    simpa only [Function.update_self] using hown
  · have hkept := ho.others hj hs.shared (hs.locals i) (hs.locals j) h.admitted hact
    simpa only [Function.update_of_ne hj] using hkept

theorem Outline.run (ho : Outline program admitted I A) (hs : Holds I A s)
    (h : Run program admitted s s') : Holds I A s' := by
  induction h with
  | refl => exact hs
  | tail _ hlast ih =>
      obtain ⟨i, hstep⟩ := hlast
      exact ho.step ih hstep

/-- What each action does to a view of the shared state, a run does in steps. -/
theorem Outline.view {τ : Type} {R : τ → τ → Prop} {f : σ → τ} (ho : Outline program admitted I A)
    (hR : ∀ i k k' g g', I g → A i k g → admitted i k g → program i k g = some (k', g') →
      Relation.ReflTransGen R (f g) (f g'))
    (hs : Holds I A s) (h : Run program admitted s s') :
    Relation.ReflTransGen R (f s.shared) (f s'.shared) := by
  induction h with
  | refl => exact .refl
  | tail hrun hlast ih =>
      obtain ⟨i, hstep⟩ := hlast
      have hmid := ho.run hs hrun
      obtain ⟨k, g, hact, rfl⟩ := hstep.act
      exact ih.trans (hR i _ k _ g hmid.shared (hmid.locals i) hstep.admitted hact)

theorem run_of_follow [∀ i k g, Decidable (admitted i k g)] {schedule : List ι}
    (h : s.follow program admitted schedule = some s') : Run program admitted s s' := by
  induction schedule generalizing s with
  | nil =>
      cases h
      exact .refl
  | cons i rest ih =>
      unfold System.follow at h
      by_cases hadmitted : admitted i (s.locals i) s.shared
      · rw [if_pos hadmitted] at h
        obtain ⟨s₁, hstep, hrest⟩ := Option.bind_eq_some_iff.mp h
        exact (Step.run ⟨hadmitted, hstep⟩).trans (ih hrest)
      · rw [if_neg hadmitted] at h
        cases h

/-- A schedule whose end passes a test is a run to such an end. -/
theorem exists_run_of_follow [∀ i k g, Decidable (admitted i k g)] {schedule : List ι}
    {test : System ι κ σ → Bool} (h : (s.follow program admitted schedule).any test = true) :
    ∃ s', Run program admitted s s' ∧ test s' = true := by
  obtain ⟨s', hs', htest⟩ := (Option.any_eq_true test _).mp h
  exact ⟨s', run_of_follow hs', htest⟩

/-- One process acts alone, from a local and a shared state to others. -/
inductive Solo (program : Program ι κ σ) (i : ι) : κ → σ → κ → σ → Prop
  | stop {k : κ} {g : σ} : Solo program i k g k g
  | act {k k₁ k' : κ} {g g₁ g' : σ} (hact : program i k g = some (k₁, g₁))
      (hrest : Solo program i k₁ g₁ k' g') : Solo program i k g k' g'

/-- What a process does alone, it can do in a system that leaves it alone. -/
theorem Solo.run {k k' : κ} {g g' : σ} (h : Solo program i k g k' g') (hlocal : s.locals i = k)
    (hshared : s.shared = g) :
    Run program anyStep s ⟨Function.update s.locals i k', g'⟩ := by
  induction h generalizing s with
  | stop =>
      subst hlocal hshared
      rw [Function.update_eq_self]
      exact .refl
  | @act k k₁ k' g g₁ g' hact _ ih =>
      subst hlocal hshared
      let next : System ι κ σ := ⟨Function.update s.locals i k₁, g₁⟩
      have hadvance : s.advance program i = some next := by
        unfold System.advance
        rw [hact]
        rfl
      have hrest := ih (s := next) (Function.update_self i k₁ s.locals) rfl
      rw [show Function.update next.locals i k' = Function.update s.locals i k' from
        Function.update_idem k₁ k' s.locals] at hrest
      exact (Step.run ⟨trivial, hadvance⟩).trans hrest

end Rules

end Interleaving
