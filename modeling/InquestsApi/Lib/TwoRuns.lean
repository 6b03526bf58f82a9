import InquestsApi.Lib.UnitOfWork

/-! Two runs of a unit of work side by side: when both end normally, or both with the same error,
whatever differs between the stores they run on. -/
namespace UnitOfWork

section Results

variable {ε ε₁ ε₂ σ₁ σ₂ α₁ α₂ β₁ β₂ : Type}

/-- Both results are normal, or both are errors. -/
def EndsAlike (Q : α₁ → α₂ → σ₁ → σ₂ → Prop) (E : ε₁ → ε₂ → σ₁ → σ₂ → Prop) :
    EStateM.Result ε₁ σ₁ α₁ → EStateM.Result ε₂ σ₂ α₂ → Prop
  | .ok a₁ s₁, .ok a₂ s₂ => Q a₁ a₂ s₁ s₂
  | .error e₁ s₁, .error e₂ s₂ => E e₁ e₂ s₁ s₂
  | _, _ => False

/-- From related states, the two computations end alike. -/
def Alike (P : σ₁ → σ₂ → Prop) (m₁ : EStateM ε₁ σ₁ α₁) (m₂ : EStateM ε₂ σ₂ α₂)
    (Q : α₁ → α₂ → σ₁ → σ₂ → Prop) (E : ε₁ → ε₂ → σ₁ → σ₂ → Prop) : Prop :=
  ∀ s₁ s₂, P s₁ s₂ → EndsAlike Q E (m₁ s₁) (m₂ s₂)

/-- Two checks end with related values, or with the same error. -/
def SameCheck (V : α₁ → α₂ → Prop) : Except ε α₁ → Except ε α₂ → Prop
  | .ok a₁, .ok a₂ => V a₁ a₂
  | .error e₁, .error e₂ => e₁ = e₂
  | _, _ => False

/-- The ends of two checks, taken apart. -/
theorem SameCheck.cases {V : α₁ → α₂ → Prop} {x₁ : Except ε α₁} {x₂ : Except ε α₂}
    (h : SameCheck V x₁ x₂) :
    (∃ a₁ a₂, x₁ = .ok a₁ ∧ x₂ = .ok a₂ ∧ V a₁ a₂) ∨ ∃ e, x₁ = .error e ∧ x₂ = .error e := by
  cases x₁ with
  | error e₁ =>
      cases x₂ with
      | error e₂ => exact Or.inr ⟨e₁, rfl, congrArg Except.error h.symm⟩
      | ok a₂ => exact h.elim
  | ok a₁ =>
      cases x₂ with
      | error e₂ => exact h.elim
      | ok a₂ => exact Or.inl ⟨a₁, a₂, rfl, rfl, h⟩

theorem SameCheck.bind {V : α₁ → α₂ → Prop} {W : β₁ → β₂ → Prop} {x₁ : Except ε α₁}
    {x₂ : Except ε α₂} {f₁ : α₁ → Except ε β₁} {f₂ : α₂ → Except ε β₂} (hx : SameCheck V x₁ x₂)
    (hf : ∀ a₁ a₂, V a₁ a₂ → SameCheck W (f₁ a₁) (f₂ a₂)) :
    SameCheck W (x₁ >>= f₁) (x₂ >>= f₂) := by
  rcases hx.cases with ⟨a₁, a₂, h₁, h₂, hV⟩ | ⟨e, h₁, h₂⟩
  · rw [h₁, h₂]
    exact hf a₁ a₂ hV
  · rw [h₁, h₂]
    rfl

theorem SameCheck.refl {V : α₁ → α₁ → Prop} (x : Except ε α₁) (hV : ∀ a, x = .ok a → V a a) :
    SameCheck V x x := by
  cases x with
  | error e => rfl
  | ok a => exact hV a rfl

theorem SameCheck.mono {V W : α₁ → α₂ → Prop} {x₁ : Except ε α₁} {x₂ : Except ε α₂}
    (h : SameCheck V x₁ x₂) (hVW : ∀ a₁ a₂, V a₁ a₂ → W a₁ a₂) : SameCheck W x₁ x₂ := by
  rcases h.cases with ⟨a₁, a₂, h₁, h₂, hV⟩ | ⟨e, h₁, h₂⟩
  · rw [h₁, h₂]
    exact hVW a₁ a₂ hV
  · rw [h₁, h₂]
    rfl

end Results

namespace Alike

variable {ε₁ ε₂ σ₁ σ₂ α₁ α₂ β₁ β₂ : Type}
variable {P P' : σ₁ → σ₂ → Prop} {Q Q' : α₁ → α₂ → σ₁ → σ₂ → Prop}
variable {E E' : ε₁ → ε₂ → σ₁ → σ₂ → Prop}
variable {m₁ : EStateM ε₁ σ₁ α₁} {m₂ : EStateM ε₂ σ₂ α₂}

theorem pure {a₁ : α₁} {a₂ : α₂} (h : ∀ s₁ s₂, P s₁ s₂ → Q a₁ a₂ s₁ s₂) :
    Alike P (Pure.pure a₁ : EStateM ε₁ σ₁ α₁) (Pure.pure a₂ : EStateM ε₂ σ₂ α₂) Q E := h

theorem throw {e₁ : ε₁} {e₂ : ε₂} (h : ∀ s₁ s₂, P s₁ s₂ → E e₁ e₂ s₁ s₂) :
    Alike P (MonadExcept.throw e₁ : EStateM ε₁ σ₁ α₁) (MonadExcept.throw e₂ : EStateM ε₂ σ₂ α₂) Q E := h

/-- The ends of both runs, taken apart. -/
theorem cases (h : Alike P m₁ m₂ Q E) {s₁ : σ₁} {s₂ : σ₂} (hP : P s₁ s₂) :
    (∃ a₁ t₁ a₂ t₂, m₁ s₁ = .ok a₁ t₁ ∧ m₂ s₂ = .ok a₂ t₂ ∧ Q a₁ a₂ t₁ t₂)
      ∨ ∃ e₁ t₁ e₂ t₂, m₁ s₁ = .error e₁ t₁ ∧ m₂ s₂ = .error e₂ t₂ ∧ E e₁ e₂ t₁ t₂ := by
  have hends := h s₁ s₂ hP
  cases h₁ : m₁ s₁ with
  | ok a₁ t₁ =>
      cases h₂ : m₂ s₂ with
      | ok a₂ t₂ =>
          rw [h₁, h₂] at hends
          exact Or.inl ⟨a₁, t₁, a₂, t₂, rfl, rfl, hends⟩
      | error e₂ t₂ =>
          rw [h₁, h₂] at hends
          exact hends.elim
  | error e₁ t₁ =>
      cases h₂ : m₂ s₂ with
      | ok a₂ t₂ =>
          rw [h₁, h₂] at hends
          exact hends.elim
      | error e₂ t₂ =>
          rw [h₁, h₂] at hends
          exact Or.inr ⟨e₁, t₁, e₂, t₂, rfl, rfl, hends⟩

theorem bind {R : β₁ → β₂ → σ₁ → σ₂ → Prop} {f₁ : α₁ → EStateM ε₁ σ₁ β₁} {f₂ : α₂ → EStateM ε₂ σ₂ β₂}
    (hm : Alike P m₁ m₂ Q E) (hf : ∀ a₁ a₂, Alike (Q a₁ a₂) (f₁ a₁) (f₂ a₂) R E) :
    Alike P (m₁ >>= f₁) (m₂ >>= f₂) R E := by
  intro s₁ s₂ hP
  rcases hm.cases hP with ⟨a₁, t₁, a₂, t₂, h₁, h₂, hQ⟩ | ⟨e₁, t₁, e₂, t₂, h₁, h₂, hE⟩
  · rw [bind_eq_of_ok h₁, bind_eq_of_ok h₂]
    exact hf a₁ a₂ t₁ t₂ hQ
  · rw [bind_eq_of_error h₁, bind_eq_of_error h₂]
    exact hE

theorem tryCatch {h₁ : ε₁ → EStateM ε₁ σ₁ α₁} {h₂ : ε₂ → EStateM ε₂ σ₂ α₂}
    (hm : Alike P m₁ m₂ Q E) (hh : ∀ e₁ e₂, Alike (E e₁ e₂) (h₁ e₁) (h₂ e₂) Q E') :
    Alike P (MonadExcept.tryCatch m₁ h₁) (MonadExcept.tryCatch m₂ h₂) Q E' := by
  intro s₁ s₂ hP
  rcases hm.cases hP with ⟨a₁, t₁, a₂, t₂, hm₁, hm₂, hQ⟩ | ⟨e₁, t₁, e₂, t₂, hm₁, hm₂, hE⟩
  · rw [tryCatch_eq_of_ok hm₁, tryCatch_eq_of_ok hm₂]
    exact hQ
  · rw [tryCatch_eq_of_error hm₁, tryCatch_eq_of_error hm₂]
    exact hh e₁ e₂ t₁ t₂ hE

theorem weaken (h : Alike P m₁ m₂ Q E) (hP : ∀ s₁ s₂, P' s₁ s₂ → P s₁ s₂)
    (hQ : ∀ a₁ a₂ s₁ s₂, Q a₁ a₂ s₁ s₂ → Q' a₁ a₂ s₁ s₂)
    (hE : ∀ e₁ e₂ s₁ s₂, E e₁ e₂ s₁ s₂ → E' e₁ e₂ s₁ s₂) : Alike P' m₁ m₂ Q' E' := by
  intro s₁ s₂ hP'
  rcases h.cases (hP s₁ s₂ hP') with ⟨a₁, t₁, a₂, t₂, h₁, h₂, hend⟩ | ⟨e₁, t₁, e₂, t₂, h₁, h₂, hend⟩
  · rw [h₁, h₂]
    exact hQ a₁ a₂ t₁ t₂ hend
  · rw [h₁, h₂]
    exact hE e₁ e₂ t₁ t₂ hend

end Alike

/-! Bodies of a transaction, from stores in a relation: an error is the same one in both. -/
namespace Tx

variable {ε σ ω α₁ α₂ β₁ β₂ : Type}

/-- The two bodies end alike, and leave related stores. -/
def Alike (P : σ → σ → Prop) (m₁ : Tx ε σ ω α₁) (m₂ : Tx ε σ ω α₂)
    (Q : α₁ → α₂ → σ → σ → Prop) : Prop :=
  UnitOfWork.Alike (fun t₁ t₂ => P t₁.store t₂.store) m₁ m₂ (fun a₁ a₂ t₁ t₂ => Q a₁ a₂ t₁.store t₂.store)
    (fun e₁ e₂ _ _ => e₁ = e₂)

namespace Alike

variable {P : σ → σ → Prop} {m₁ : Tx ε σ ω α₁} {m₂ : Tx ε σ ω α₂} {Q : α₁ → α₂ → σ → σ → Prop}

theorem pure {a₁ : α₁} {a₂ : α₂} (h : ∀ s₁ s₂, P s₁ s₂ → Q a₁ a₂ s₁ s₂) :
    Alike P (Pure.pure a₁ : Tx ε σ ω α₁) (Pure.pure a₂ : Tx ε σ ω α₂) Q :=
  UnitOfWork.Alike.pure fun t₁ t₂ hP => h t₁.store t₂.store hP

theorem bind {R : β₁ → β₂ → σ → σ → Prop} {f₁ : α₁ → Tx ε σ ω β₁} {f₂ : α₂ → Tx ε σ ω β₂}
    (hm : Alike P m₁ m₂ Q) (hf : ∀ a₁ a₂, Alike (Q a₁ a₂) (f₁ a₁) (f₂ a₂) R) :
    Alike P (m₁ >>= f₁) (m₂ >>= f₂) R :=
  UnitOfWork.Alike.bind hm hf

theorem check {f₁ : σ → Except ε α₁} {f₂ : σ → Except ε α₂}
    (h : ∀ s₁ s₂, P s₁ s₂ → SameCheck (fun a₁ a₂ => Q a₁ a₂ s₁ s₂) (f₁ s₁) (f₂ s₂)) :
    Alike P (Tx.check f₁ : Tx ε σ ω α₁) (Tx.check f₂) Q := by
  intro t₁ t₂ hP
  unfold Tx.check
  rcases (h t₁.store t₂.store hP).cases with ⟨a₁, a₂, h₁, h₂, hQ⟩ | ⟨e, h₁, h₂⟩
  · rw [h₁, h₂]
    exact hQ
  · rw [h₁, h₂]
    rfl

theorem flush {fault : Option Fault} {e : ε} {f₁ : σ → Except ε (α₁ × σ)} {f₂ : σ → Except ε (α₂ × σ)}
    (h : ∀ s₁ s₂, P s₁ s₂ → SameCheck (fun p₁ p₂ => Q p₁.1 p₂.1 p₁.2 p₂.2) (f₁ s₁) (f₂ s₂)) :
    Alike P (Tx.flush fault e f₁ : Tx ε σ ω α₁) (Tx.flush fault e f₂) Q := by
  intro t₁ t₂ hP
  unfold Tx.flush
  cases fault with
  | some fault => rfl
  | none =>
      rcases (h t₁.store t₂.store hP).cases with ⟨p₁, p₂, h₁, h₂, hQ⟩ | ⟨e', h₁, h₂⟩
      · rw [h₁, h₂]
        exact hQ
      · rw [h₁, h₂]
        rfl

theorem callOut {fails : Bool} {e : ε} : Alike P (Tx.callOut fails e : Tx ε σ ω Unit)
    (Tx.callOut fails e) (fun _ _ => P) := by
  intro t₁ t₂ hP
  cases fails with
  | true => rfl
  | false => exact hP

/-- The messages may differ. -/
theorem send {fails : Bool} {e : ε} {y₁ y₂ : ω} : Alike P (Tx.send fails e y₁ : Tx ε σ ω Unit)
    (Tx.send fails e y₂) (fun _ _ => P) := by
  intro t₁ t₂ hP
  cases fails with
  | true => rfl
  | false => exact hP

end Alike

end Tx

/-! Sessions between transactions: related in what is committed, and equally usable. -/
namespace Session

variable {σ ω ο : Type}

/-- Both sessions are settled over related stores, and hold the same objects. -/
structure InStep (P : σ → σ → Prop) (s₁ s₂ : Session σ ω ο) : Prop where
  clean₁ : s₁.Clean
  clean₂ : s₂.Clean
  loaded : s₁.loaded = s₂.loaded
  committed : P s₁.committed s₂.committed

/-- Both sessions have failed over related stores, in the same way. -/
structure Failed (P : σ → σ → Prop) (s₁ s₂ : Session σ ω ο) : Prop where
  usable : s₁.usable = s₂.usable
  loaded : s₁.loaded = s₂.loaded
  committed : P s₁.committed s₂.committed

/-- Both sessions have written, over related databases, what is related in turn. -/
structure Pending (P Q : σ → σ → Prop) (s₁ s₂ : Session σ ω ο) : Prop where
  usable₁ : s₁.usable = true
  usable₂ : s₂.usable = true
  loaded : s₁.loaded = s₂.loaded
  committed : P s₁.committed s₂.committed
  working : Q s₁.working s₂.working

theorem InStep.failed {P : σ → σ → Prop} {s₁ s₂ : Session σ ω ο} (h : InStep P s₁ s₂) :
    Failed P s₁ s₂ :=
  ⟨h.clean₁.usable.trans h.clean₂.usable.symm, h.loaded, h.committed⟩

theorem inStep_start {P : σ → σ → Prop} {db₁ db₂ : σ} (h : P db₁ db₂) :
    InStep P (start db₁ : Session σ ω ο) (start db₂) :=
  ⟨start_clean db₁, start_clean db₂, rfl, h⟩

end Session

namespace Uow

open Session

variable {ε σ ω ο α₁ α₂ β₁ β₂ : Type}

/-- The two requests end alike over related databases: with the same error, or with related
databases again. -/
def Alike (P : σ → σ → Prop) (m₁ : Uow ε σ ω ο α₁) (m₂ : Uow ε σ ω ο α₂)
    (Q : α₁ → α₂ → σ → σ → Prop) (E : σ → σ → Prop) : Prop :=
  UnitOfWork.Alike (InStep P) m₁ m₂ (fun a₁ a₂ => InStep (Q a₁ a₂))
    (fun e₁ e₂ s₁ s₂ => e₁ = e₂ ∧ Failed E s₁ s₂)

namespace Alike

variable {P : σ → σ → Prop} {m₁ : Uow ε σ ω ο α₁} {m₂ : Uow ε σ ω ο α₂}
variable {Q : α₁ → α₂ → σ → σ → Prop} {E : σ → σ → Prop}

theorem bind {R : β₁ → β₂ → σ → σ → Prop} {f₁ : α₁ → Uow ε σ ω ο β₁} {f₂ : α₂ → Uow ε σ ω ο β₂}
    (hm : Alike P m₁ m₂ Q E) (hf : ∀ a₁ a₂, Alike (Q a₁ a₂) (f₁ a₁) (f₂ a₂) R E) :
    Alike P (m₁ >>= f₁) (m₂ >>= f₂) R E :=
  UnitOfWork.Alike.bind hm hf

theorem pure {a₁ : α₁} {a₂ : α₂} (h : ∀ s₁ s₂, P s₁ s₂ → Q a₁ a₂ s₁ s₂) :
    Alike P (Pure.pure a₁ : Uow ε σ ω ο α₁) (Pure.pure a₂ : Uow ε σ ω ο α₂) Q E :=
  UnitOfWork.Alike.pure fun _ _ hP => ⟨hP.clean₁, hP.clean₂, hP.loaded, h _ _ hP.committed⟩

theorem throw {e : Raised ε} (h : ∀ s₁ s₂, P s₁ s₂ → E s₁ s₂) :
    Alike P (MonadExcept.throw e : Uow ε σ ω ο α₁) (MonadExcept.throw e : Uow ε σ ω ο α₂) Q E :=
  UnitOfWork.Alike.throw fun _ _ hP => ⟨rfl, hP.failed.usable, hP.loaded, h _ _ hP.committed⟩

theorem check {f₁ : σ → Except ε α₁} {f₂ : σ → Except ε α₂}
    (h : ∀ s₁ s₂, P s₁ s₂ → SameCheck (fun a₁ a₂ => Q a₁ a₂ s₁ s₂) (f₁ s₁) (f₂ s₂)) :
    Alike P (transact (Tx.check f₁) : Uow ε σ ω ο α₁) (transact (Tx.check f₂)) Q P := by
  intro s₁ s₂ hP
  unfold transact Tx.check
  rw [if_pos hP.clean₁.usable, if_pos hP.clean₂.usable, hP.clean₁.working, hP.clean₂.working]
  rcases (h s₁.committed s₂.committed hP.committed).cases with ⟨a₁, a₂, h₁, h₂, hQ⟩ | ⟨e, h₁, h₂⟩
  · rw [h₁, h₂]
    exact ⟨⟨rfl, hP.clean₁.usable⟩, ⟨rfl, hP.clean₂.usable⟩, hP.loaded, hQ⟩
  · rw [h₁, h₂]
    exact ⟨rfl, hP.failed.usable, hP.loaded, hP.committed⟩

theorem transact {body₁ : Tx ε σ ω α₁} {body₂ : Tx ε σ ω α₂} (h : Tx.Alike P body₁ body₂ Q) :
    UnitOfWork.Alike (InStep P) (Uow.transact body₁ : Uow ε σ ω ο α₁) (Uow.transact body₂)
      (fun a₁ a₂ => Pending P (Q a₁ a₂)) (fun e₁ e₂ s₁ s₂ => e₁ = e₂ ∧ Failed P s₁ s₂) := by
  intro s₁ s₂ hP
  have hstart : P s₁.working s₂.working := by
    rw [hP.clean₁.working, hP.clean₂.working]
    exact hP.committed
  unfold Uow.transact
  rw [if_pos hP.clean₁.usable, if_pos hP.clean₂.usable]
  have hends : (fun t₁ t₂ : Txn σ ω => P t₁.store t₂.store) ⟨s₁.working, s₁.outbox⟩
      ⟨s₂.working, s₂.outbox⟩ := hstart
  rcases UnitOfWork.Alike.cases h hends with ⟨a₁, t₁, a₂, t₂, h₁, h₂, hQ⟩ | ⟨⟨e, fault⟩, t₁, _, t₂, h₁, h₂, rfl⟩
  · rw [h₁, h₂]
    exact ⟨hP.clean₁.usable, hP.clean₂.usable, hP.loaded, hP.committed, hQ⟩
  · rw [h₁, h₂]
    cases fault with
    | raised => exact ⟨rfl, hP.failed.usable, hP.loaded, hP.committed⟩
    | flush => exact ⟨rfl, rfl, rfl, hP.committed⟩

theorem commit {R : σ → σ → Prop} {fault : Option ε} :
    UnitOfWork.Alike (Pending P R) (Uow.commit fault : Uow ε σ ω ο Unit) (Uow.commit fault)
      (fun _ _ => InStep R) (fun e₁ e₂ s₁ s₂ => e₁ = e₂ ∧ Failed P s₁ s₂) := by
  intro s₁ s₂ hP
  unfold Uow.commit
  rw [if_pos hP.usable₁, if_pos hP.usable₂]
  cases fault with
  | none => exact ⟨⟨rfl, hP.usable₁⟩, ⟨rfl, hP.usable₂⟩, rfl, hP.working⟩
  | some e => exact ⟨rfl, rfl, hP.loaded, hP.committed⟩

/-- A transaction that fails leaves the databases as they were, whatever its body wrote. -/
theorem inTransaction {body₁ : Tx ε σ ω α₁} {body₂ : Tx ε σ ω α₂} {fault : Option ε}
    (h : Tx.Alike P body₁ body₂ Q) :
    Alike P (Uow.inTransaction body₁ fault : Uow ε σ ω ο α₁) (Uow.inTransaction body₂ fault) Q P :=
  (transact h).bind fun _ _ => commit.bind fun _ _ => UnitOfWork.Alike.pure fun _ _ hQ => hQ

theorem read [DecidableEq ο] {o : ο} :
    Alike P (Uow.read o : Uow ε σ ω ο Unit) (Uow.read o) (fun _ _ => P) P := by
  intro s₁ s₂ hP
  unfold Uow.read
  rw [hP.clean₁.usable, hP.clean₂.usable, hP.loaded]
  by_cases hloaded : s₂.loaded o = true
  · rw [if_pos hloaded, if_pos hloaded]
    exact hP
  · rw [if_neg hloaded, if_neg hloaded]
    exact ⟨⟨hP.clean₁.working, rfl⟩, ⟨hP.clean₂.working, rfl⟩, rfl, hP.committed⟩

/-- After a failure an object may be lost, to both alike. -/
theorem read_failed [DecidableEq ο] {o : ο} :
    UnitOfWork.Alike (Failed P) (Uow.read o : Uow ε σ ω ο Unit) (Uow.read o) (fun _ _ => Failed P)
      (fun e₁ e₂ s₁ s₂ => e₁ = e₂ ∧ Failed P s₁ s₂) := by
  intro s₁ s₂ hP
  unfold Uow.read
  rw [hP.usable, hP.loaded]
  by_cases hloaded : s₂.loaded o = true
  · rw [if_pos hloaded, if_pos hloaded]
    exact hP
  · rw [if_neg hloaded, if_neg hloaded]
    by_cases husable : s₂.usable = true
    · rw [if_pos husable, if_pos husable]
      exact ⟨rfl, rfl, hP.committed⟩
    · rw [if_neg husable, if_neg husable]
      exact ⟨rfl, hP⟩

/-- A rollback settles both sessions again. -/
theorem rollback_failed {E : σ → σ → Prop} : UnitOfWork.Alike (Failed P)
    (Uow.rollback : Uow ε σ ω ο Unit) Uow.rollback (fun _ _ => InStep P)
    (fun e₁ e₂ s₁ s₂ => e₁ = e₂ ∧ Failed E s₁ s₂) :=
  fun _ _ hP => ⟨⟨rfl, rfl⟩, ⟨rfl, rfl⟩, rfl, hP.committed⟩

theorem recover {handler₁ : Raised ε → Uow ε σ ω ο α₁} {handler₂ : Raised ε → Uow ε σ ω ο α₂}
    {E' : σ → σ → Prop} (hm : Alike P m₁ m₂ Q E)
    (hh : ∀ e, UnitOfWork.Alike (Failed E) (handler₁ e) (handler₂ e) (fun a₁ a₂ => InStep (Q a₁ a₂))
      (fun e₁ e₂ s₁ s₂ => e₁ = e₂ ∧ Failed E' s₁ s₂)) :
    Alike P (tryCatch m₁ handler₁) (tryCatch m₂ handler₂) Q E' := by
  refine UnitOfWork.Alike.tryCatch hm ?_
  rintro e _ s₁ s₂ ⟨rfl, hfailed⟩
  exact hh e s₁ s₂ hfailed

theorem orRollback (hm : Alike P m₁ m₂ Q E) : Alike P (Uow.orRollback m₁) (Uow.orRollback m₂) Q E :=
  hm.recover fun _ => rollback_failed.bind fun _ _ => Uow.Alike.throw fun _ _ h => h

theorem weaken {P' : σ → σ → Prop} {Q' : α₁ → α₂ → σ → σ → Prop} {E' : σ → σ → Prop}
    (hm : Alike P m₁ m₂ Q E) (hP : ∀ s₁ s₂, P' s₁ s₂ → P s₁ s₂)
    (hQ : ∀ a₁ a₂ s₁ s₂, Q a₁ a₂ s₁ s₂ → Q' a₁ a₂ s₁ s₂) (hE : ∀ s₁ s₂, E s₁ s₂ → E' s₁ s₂) :
    Alike P' m₁ m₂ Q' E' :=
  UnitOfWork.Alike.weaken hm
    (fun _ _ h => ⟨h.clean₁, h.clean₂, h.loaded, hP _ _ h.committed⟩)
    (fun _ _ _ _ h => ⟨h.clean₁, h.clean₂, h.loaded, hQ _ _ _ _ h.committed⟩)
    (fun _ _ _ _ h => ⟨h.1, h.2.usable, h.2.loaded, hE _ _ h.2.committed⟩)

/-- The errors alone: what a failed request leaves is no longer looked at. -/
theorem sameError (hm : Alike P m₁ m₂ Q E) :
    UnitOfWork.Alike (InStep P) m₁ m₂ (fun a₁ a₂ => InStep (Q a₁ a₂)) (fun e₁ e₂ _ _ => e₁ = e₂) :=
  UnitOfWork.Alike.weaken hm (fun _ _ h => h) (fun _ _ _ _ h => h) fun _ _ _ _ h => h.1

end Alike

end Uow

end UnitOfWork
