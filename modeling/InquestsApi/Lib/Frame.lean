import InquestsApi.Lib.UnitOfWork

/-! What a transaction body leaves alone: a view of the store that reads as before at every
normal end. -/
namespace UnitOfWork

namespace Tx

variable {ε σ ω α β γ : Type} {m : Tx ε σ ω α} {f : α → Tx ε σ ω β} {view : σ → γ}

/-- A normal end of the body has not changed the view. -/
def Keeps (view : σ → γ) (m : Tx ε σ ω α) : Prop :=
  ∀ t a t', m t = .ok a t' → view t'.store = view t.store

theorem Keeps.pure (a : α) : Keeps view (Pure.pure a : Tx ε σ ω α) := by
  intro t a' t' h
  obtain ⟨-, rfl⟩ := pure_ok.mp h
  rfl

theorem Keeps.check (g : σ → Except ε α) : Keeps view (check g : Tx ε σ ω α) := by
  intro t a t' h
  obtain ⟨-, rfl⟩ := check_ok.mp h
  rfl

theorem Keeps.callOut (fails : Bool) (e : ε) : Keeps view (callOut fails e : Tx ε σ ω Unit) := by
  intro t u t' h
  obtain ⟨-, rfl⟩ := callOut_ok.mp h
  rfl

theorem Keeps.send (fails : Bool) (e : ε) (message : ω) :
    Keeps view (send fails e message : Tx ε σ ω Unit) := by
  intro t u t' h
  obtain ⟨-, rfl⟩ := send_ok.mp h
  rfl

theorem Keeps.touch {g : σ → σ} (hg : ∀ s, view (g s) = view s) :
    Keeps view (touch g : Tx ε σ ω Unit) := by
  intro t u t' h
  obtain rfl := touch_ok.mp h
  exact hg t.store

theorem Keeps.flush {fault : Option Fault} {e : ε} {g : σ → Except ε (α × σ)}
    (hg : ∀ s a s', g s = .ok (a, s') → view s' = view s) :
    Keeps view (flush fault e g : Tx ε σ ω α) := by
  intro t a t' h
  obtain ⟨-, s, hs, rfl⟩ := flush_ok.mp h
  exact hg t.store a s hs

theorem Keeps.bind (hm : Keeps view m) (hf : ∀ a, Keeps view (f a)) : Keeps view (m >>= f) := by
  intro t b t' h
  obtain ⟨a, t₁, hfirst, hrest⟩ := bind_ok.mp h
  exact (hf a t₁ b t' hrest).trans (hm t a t₁ hfirst)

end Tx

end UnitOfWork
