import Mathlib.Logic.Relation

/-! A unit of work: transaction bodies over a store, and the session that commits
them or rolls them back. A body that fails part way is never committed; a failed
flush also leaves the session unusable, and its objects unreadable, until the
session is rolled back. -/
namespace UnitOfWork

/-- How a call inside a transaction failed. -/
inductive Fault where
  | raised
  | flush
  deriving DecidableEq, Repr

structure Failure (ε : Type) where
  error : ε
  fault : Fault

/-- The transaction's own view of the store, and the messages that have left for good. -/
structure Txn (σ ω : Type) where
  store : σ
  outbox : List ω

abbrev Tx (ε σ ω α : Type) := EStateM (Failure ε) (Txn σ ω) α

/-- The state a computation ends in, normally or not. -/
def endState {ε σ α : Type} : EStateM.Result ε σ α → σ
  | .ok _ s => s
  | .error _ s => s

theorem endState_of_ok {ε σ α : Type} {result : EStateM.Result ε σ α} {a : α} {s : σ}
    (h : result = .ok a s) : endState result = s := by
  rw [h]
  rfl

theorem endState_of_error {ε σ α : Type} {result : EStateM.Result ε σ α} {e : ε} {s : σ}
    (h : result = .error e s) : endState result = s := by
  rw [h]
  rfl

/-- Whether a computation ends normally with a result and a state that pass a test. -/
def endsOk {ε σ α : Type} (result : EStateM.Result ε σ α) (test : α → σ → Bool) : Bool :=
  match result with
  | .ok a s => test a s
  | .error _ _ => false

theorem exists_of_endsOk {ε σ α : Type} {result : EStateM.Result ε σ α} {test : α → σ → Bool}
    (h : endsOk result test = true) : ∃ a s, result = .ok a s ∧ test a s = true := by
  cases result with
  | ok a s => exact ⟨a, s, rfl, h⟩
  | error e s => cases h

/-- Whether a computation fails with an error and a state that pass a test. -/
def endsError {ε σ α : Type} (result : EStateM.Result ε σ α) (test : ε → σ → Bool) : Bool :=
  match result with
  | .ok _ _ => false
  | .error e s => test e s

theorem exists_of_endsError {ε σ α : Type} {result : EStateM.Result ε σ α} {test : ε → σ → Bool}
    (h : endsError result test = true) : ∃ e s, result = .error e s ∧ test e s = true := by
  cases result with
  | ok a s => cases h
  | error e s => exact ⟨e, s, rfl, h⟩

section Inversion

variable {ε σ α β : Type} {s s' : σ} {a a' : α} {b : β} {e e' : ε}
variable {m : EStateM ε σ α} {f : α → EStateM ε σ β}

@[simp] theorem pure_ok : (pure a : EStateM ε σ α) s = .ok a' s' ↔ a = a' ∧ s = s' := by
  simp [pure, EStateM.pure]

@[simp] theorem pure_error : ¬ (pure a : EStateM ε σ α) s = .error e s' := by
  simp [pure, EStateM.pure]

theorem throw_apply : (throw e : EStateM ε σ α) s = .error e s := rfl

theorem tryCatch_apply {h : ε → EStateM ε σ α} :
    (tryCatch m h) s = match m s with
      | .ok a u => .ok a u
      | .error e u => h e u := by
  simp only [tryCatch, tryCatchThe, MonadExceptOf.tryCatch]
  delta EStateM.tryCatch
  cases m s <;> rfl

@[simp] theorem throw_ok : ¬ (throw e : EStateM ε σ α) s = .ok a s' := by
  simp [throw_apply]

@[simp] theorem throw_error : (throw e : EStateM ε σ α) s = .error e' s' ↔ e = e' ∧ s = s' := by
  simp [throw_apply]

@[simp] theorem bind_ok :
    (m >>= f) s = .ok b s' ↔ ∃ a u, m s = .ok a u ∧ f a u = .ok b s' := by
  simp only [bind, EStateM.bind]
  cases m s with
  | ok a u =>
      constructor
      · intro h
        exact ⟨a, u, rfl, h⟩
      · rintro ⟨_, _, ⟨rfl, rfl⟩, h⟩
        exact h
  | error e u => simp

@[simp] theorem bind_error : (m >>= f) s = .error e s' ↔
    m s = .error e s' ∨ ∃ a u, m s = .ok a u ∧ f a u = .error e s' := by
  simp only [bind, EStateM.bind]
  cases m s with
  | ok a u =>
      constructor
      · intro h
        exact Or.inr ⟨a, u, rfl, h⟩
      · rintro (h | ⟨_, _, ⟨rfl, rfl⟩, h⟩)
        · cases h
        · exact h
  | error e u => simp

theorem bind_eq_of_ok (h : m s = .ok a s') : (m >>= f) s = f a s' := by
  simp only [bind, EStateM.bind, h]

theorem bind_eq_of_error (h : m s = .error e s') : (m >>= f) s = .error e s' := by
  simp only [bind, EStateM.bind, h]

theorem bind_eq_of_eq {m' : EStateM ε σ α} (h : m s = m' s) : (m >>= f) s = (m' >>= f) s := by
  simp only [bind, EStateM.bind, h]

theorem tryCatch_eq_of_ok {h : ε → EStateM ε σ α} (hm : m s = .ok a s') :
    (tryCatch m h) s = .ok a s' := by
  rw [tryCatch_apply, hm]

theorem tryCatch_eq_of_error {h : ε → EStateM ε σ α} (hm : m s = .error e s') :
    (tryCatch m h) s = h e s' := by
  rw [tryCatch_apply, hm]

@[simp] theorem tryCatch_ok {h : ε → EStateM ε σ α} : (tryCatch m h) s = .ok a s' ↔
    m s = .ok a s' ∨ ∃ e u, m s = .error e u ∧ h e u = .ok a s' := by
  rw [tryCatch_apply]
  cases m s with
  | ok a u => simp
  | error e u =>
      constructor
      · intro hh
        exact Or.inr ⟨e, u, rfl, hh⟩
      · rintro (hh | ⟨_, _, ⟨rfl, rfl⟩, hh⟩)
        · cases hh
        · exact hh

@[simp] theorem tryCatch_error {h : ε → EStateM ε σ α} : (tryCatch m h) s = .error e s' ↔
    ∃ e₁ u, m s = .error e₁ u ∧ h e₁ u = .error e s' := by
  rw [tryCatch_apply]
  cases m s with
  | ok a u => simp
  | error e u =>
      constructor
      · intro hh
        exact ⟨e, u, rfl, hh⟩
      · rintro ⟨_, _, ⟨rfl, rfl⟩, hh⟩
        exact hh

end Inversion

namespace Tx

variable {ε σ ω α : Type}

/-- Read the transaction's view of the store. -/
def query (f : σ → α) : Tx ε σ ω α := fun t => .ok (f t.store) t

def raise (e : ε) : Tx ε σ ω α := fun t => .error ⟨e, .raised⟩ t

/-- A computation over the store that may raise without touching the session. -/
def check (f : σ → Except ε α) : Tx ε σ ω α := fun t =>
  match f t.store with
  | .ok a => .ok a t
  | .error e => .error ⟨e, .raised⟩ t

/-- A write that is flushed: it fails when told to, or when the store refuses it. -/
def flush (fault : Option Fault) (e : ε) (f : σ → Except ε (α × σ)) : Tx ε σ ω α := fun t =>
  match fault with
  | some k => .error ⟨e, k⟩ t
  | none =>
    match f t.store with
    | .ok (a, s) => .ok a { t with store := s }
    | .error c => .error ⟨c, .flush⟩ t

/-- Change an object that the session holds: the next flush writes it with the rest. -/
def touch (f : σ → σ) : Tx ε σ ω Unit := fun t => .ok () { t with store := f t.store }

/-- A lookup in another service. -/
def callOut (fails : Bool) (e : ε) : Tx ε σ ω Unit := fun t =>
  if fails then .error ⟨e, .raised⟩ t else .ok () t

/-- A message handed to another service: once accepted it cannot be taken back. -/
def send (fails : Bool) (e : ε) (m : ω) : Tx ε σ ω Unit := fun t =>
  if fails then .error ⟨e, .raised⟩ t else .ok () { t with outbox := m :: t.outbox }

variable {t t' : Txn σ ω} {a : α}

@[simp] theorem query_ok {f : σ → α} :
    (query f : Tx ε σ ω α) t = .ok a t' ↔ f t.store = a ∧ t = t' := by
  simp [query]

@[simp] theorem check_ok {f : σ → Except ε α} :
    (check f : Tx ε σ ω α) t = .ok a t' ↔ f t.store = .ok a ∧ t = t' := by
  unfold check
  cases f t.store <;> simp

@[simp] theorem flush_ok {k : Option Fault} {e : ε} {f : σ → Except ε (α × σ)} :
    (flush k e f : Tx ε σ ω α) t = .ok a t' ↔
      k = none ∧ ∃ s, f t.store = .ok (a, s) ∧ t' = { t with store := s } := by
  unfold flush
  cases k with
  | some k => simp
  | none =>
      cases hf : f t.store with
      | ok p =>
          constructor
          · intro h
            cases h
            exact ⟨rfl, p.2, rfl, rfl⟩
          · rintro ⟨-, s, hs, rfl⟩
            cases hs
            rfl
      | error c => simp

@[simp] theorem touch_ok {f : σ → σ} {u : Unit} :
    (touch f : Tx ε σ ω Unit) t = .ok u t' ↔ t' = { t with store := f t.store } := by
  simp [touch, eq_comm]

@[simp] theorem check_error {f : σ → Except ε α} {e : Failure ε} :
    (check f : Tx ε σ ω α) t = .error e t' ↔
      ∃ c, f t.store = .error c ∧ e = ⟨c, .raised⟩ ∧ t' = t := by
  unfold check
  cases f t.store <;> simp [eq_comm]

@[simp] theorem flush_error {k : Option Fault} {e : ε} {f : σ → Except ε (α × σ)} {e' : Failure ε} :
    (flush k e f : Tx ε σ ω α) t = .error e' t' ↔ t' = t ∧
      ((∃ fault, k = some fault ∧ e' = ⟨e, fault⟩)
        ∨ k = none ∧ ∃ c, f t.store = .error c ∧ e' = ⟨c, .flush⟩) := by
  unfold flush
  cases k with
  | some k => simp [eq_comm, and_comm]
  | none => cases hf : f t.store <;> simp [eq_comm, and_comm]

@[simp] theorem callOut_error {fails : Bool} {e : ε} {e' : Failure ε} :
    (callOut fails e : Tx ε σ ω Unit) t = .error e' t' ↔
      fails = true ∧ e' = ⟨e, .raised⟩ ∧ t' = t := by
  cases fails <;> simp [callOut, eq_comm]

@[simp] theorem send_error {fails : Bool} {e : ε} {m : ω} {e' : Failure ε} :
    (send fails e m : Tx ε σ ω Unit) t = .error e' t' ↔
      fails = true ∧ e' = ⟨e, .raised⟩ ∧ t' = t := by
  cases fails <;> simp [send, eq_comm]

@[simp] theorem callOut_ok {fails : Bool} {e : ε} {u : Unit} :
    (callOut fails e : Tx ε σ ω Unit) t = .ok u t' ↔ fails = false ∧ t = t' := by
  cases fails <;> simp [callOut]

@[simp] theorem send_ok {fails : Bool} {e : ε} {m : ω} {u : Unit} :
    (send fails e m : Tx ε σ ω Unit) t = .ok u t' ↔
      fails = false ∧ t' = { t with outbox := m :: t.outbox } := by
  cases fails <;> simp [send, eq_comm]

/-- A message that needs a call first leaves when neither fails. -/
theorem callOut_send_ok {fails fails' : Bool} {e e' : ε} {m : ω} {u : Unit} :
    (do callOut fails e; send fails' e' m : Tx ε σ ω Unit) t = .ok u t' ↔
      fails = false ∧ fails' = false ∧ t' = { t with outbox := m :: t.outbox } := by
  simp only [bind_ok, callOut_ok, send_ok]
  constructor
  · rintro ⟨_, _, ⟨hcall, rfl⟩, hsend, rfl⟩
    exact ⟨hcall, hsend, rfl⟩
  · rintro ⟨hcall, hsend, rfl⟩
    exact ⟨(), t, ⟨hcall, rfl⟩, hsend, rfl⟩

end Tx

/-- What leaves a use case: the error of a call, or the refusal of an unusable session. -/
inductive Raised (ε : Type) where
  | call (e : ε)
  | pendingRollback

/-- One request's session. `loaded` says which of the objects in the request's hands
can still be read without going back to the store; `trail` lists the states it has
committed, newest first. -/
structure Session (σ ω ο : Type) where
  committed : σ
  working : σ
  outbox : List ω
  usable : Bool
  loaded : ο → Bool
  trail : List σ

abbrev Uow (ε σ ω ο α : Type) := EStateM (Raised ε) (Session σ ω ο) α

namespace Session

variable {σ ω ο : Type}

/-- A session between transactions: nothing is pending and nothing is broken. -/
def settled (db : σ) (outbox : List ω) (loaded : ο → Bool) (trail : List σ) : Session σ ω ο :=
  ⟨db, db, outbox, true, loaded, trail⟩

def start (db : σ) : Session σ ω ο := settled db [] (fun _ => false) []

/-- The session at the start of its next transaction: it then sees what is committed. -/
def next (db : σ) (s : Session σ ω ο) : Session σ ω ο := { s with committed := db, working := db }

end Session

namespace Uow

variable {ε σ ω ο α : Type}

/-- Run a transaction body in the session. Its writes stay uncommitted. -/
def transact (body : Tx ε σ ω α) : Uow ε σ ω ο α := fun s =>
  if s.usable then
    match body ⟨s.working, s.outbox⟩ with
    | .ok a t => .ok a { s with working := t.store, outbox := t.outbox }
    | .error ⟨e, .raised⟩ t => .error (.call e) { s with working := t.store, outbox := t.outbox }
    | .error ⟨e, .flush⟩ t =>
      .error (.call e)
        { s with working := s.committed, outbox := t.outbox, usable := false, loaded := fun _ => false }
  else .error .pendingRollback s

/-- A commit that fails leaves the transaction to be rolled back. A commit that
succeeds expires every object of the session. -/
def commit (fault : Option ε) : Uow ε σ ω ο Unit := fun s =>
  if s.usable then
    match fault with
    | some e => .error (.call e) { s with usable := false }
    | none => .ok () { s with
        committed := s.working, loaded := fun _ => false, trail := s.working :: s.trail }
  else .error .pendingRollback s

def rollback : Uow ε σ ω ο Unit := fun s =>
  .ok () { s with working := s.committed, usable := true, loaded := fun _ => false }

/-- Read an attribute of an object: an expired one is loaded again, if the session can. -/
def read [DecidableEq ο] (o : ο) : Uow ε σ ω ο Unit := fun s =>
  if s.loaded o then .ok () s
  else if s.usable then .ok () { s with loaded := fun p => p = o ∨ s.loaded p }
  else .error .pendingRollback s

/-- Roll back whatever failed, and let the failure through. -/
def orRollback (m : Uow ε σ ω ο α) : Uow ε σ ω ο α :=
  tryCatch m fun e => do
    rollback
    throw e

/-- A transaction body followed by its commit. -/
def inTransaction (body : Tx ε σ ω α) (fault : Option ε) : Uow ε σ ω ο α := do
  let a ← transact body
  commit fault
  pure a

end Uow

section Commits

variable {ε σ ω ο α β : Type}

namespace Session

/-- Nothing is pending and nothing is broken. -/
structure Clean (s : Session σ ω ο) : Prop where
  working : s.working = s.committed
  usable : s.usable = true

/-- Nothing is pending, or nothing can be done before a rollback. -/
def Idle (s : Session σ ω ο) : Prop := s.Clean ∨ s.usable = false

/-- Every state committed between two sessions is reached by steps of the relation. -/
structure Extends (R : σ → σ → Prop) (s s' : Session σ ω ο) : Prop where
  committed : Relation.ReflTransGen R s.committed s'.committed
  trail : ∀ x ∈ s'.trail, x ∈ s.trail ∨ Relation.ReflTransGen R s.committed x

theorem start_clean (db : σ) : (start db : Session σ ω ο).Clean := ⟨rfl, rfl⟩

theorem next_clean {db : σ} {s : Session σ ω ο} (h : s.usable = true) : (s.next db).Clean := ⟨rfl, h⟩

variable {R : σ → σ → Prop} {s s' s'' : Session σ ω ο}

/-- What every step brings about holds at the end, if it held at the start. -/
theorem Extends.committed_holds {I : σ → Prop} (h : s.Extends (fun _ db => I db) s')
    (hstart : I s.committed) : I s'.committed := by
  rcases h.committed.cases_tail with hsame | ⟨_, -, hlast⟩
  · rw [hsame]
    exact hstart
  · exact hlast

theorem Extends.of_same (hc : s'.committed = s.committed) (ht : s'.trail = s.trail) :
    s.Extends R s' := by
  refine ⟨?_, ?_⟩
  · rw [hc]
  · intro x hx
    exact Or.inl (ht ▸ hx)

theorem Extends.mono {S : σ → σ → Prop} (h : s.Extends R s') (hstep : ∀ x y, R x y → S x y) :
    s.Extends S s' where
  committed := Relation.ReflTransGen.mono hstep _ _ h.committed
  trail := fun x hx => (h.trail x hx).imp_right (Relation.ReflTransGen.mono hstep _ _)

theorem Extends.trans (h : s.Extends R s') (h' : s'.Extends R s'') : s.Extends R s'' := by
  refine ⟨h.committed.trans h'.committed, ?_⟩
  intro x hx
  rcases h'.trail x hx with hx | hx
  · exact h.trail x hx
  · exact Or.inr (h.committed.trans hx)

end Session

namespace Uow

variable {R : σ → σ → Prop} {P : σ → Prop} {Q Q' : α → σ → Prop} {Q₂ : β → σ → Prop}
variable {body : Tx ε σ ω α} {fault : Option ε}

/-- From a clean session whose committed state satisfies `P`, everything the program
commits is reached by steps of `R`, and a normal end leaves a clean session in `Q`. -/
def Triple (R : σ → σ → Prop) (P : σ → Prop) (m : Uow ε σ ω ο α) (Q : α → σ → Prop) : Prop :=
  ∀ s : Session σ ω ο, s.Clean → P s.committed →
    (∀ a s', m s = .ok a s' → s'.Clean ∧ s.Extends R s' ∧ Q a s'.committed)
      ∧ ∀ e s', m s = .error e s' → s.Extends R s'

/-- A failure commits nothing. -/
def Atomic (m : Uow ε σ ω ο α) : Prop :=
  ∀ s e s', m s = .error e s' → s'.committed = s.committed ∧ s'.trail = s.trail

/-- Whatever state the session is in, nothing is committed and a normal end is clean. -/
def Restores (m : Uow ε σ ω ο α) (V : α → Prop) : Prop :=
  ∀ s : Session σ ω ο,
    (∀ a s', m s = .ok a s' → s'.Clean ∧ s'.committed = s.committed ∧ s'.trail = s.trail ∧ V a)
      ∧ ∀ e s', m s = .error e s' → s'.committed = s.committed ∧ s'.trail = s.trail

theorem rollback_ok {s s' : Session σ ω ο} {u : Unit} :
    (rollback : Uow ε σ ω ο Unit) s = .ok u s' ↔
      s' = { s with working := s.committed, usable := true, loaded := fun _ => false } := by
  simp [rollback, eq_comm]

theorem transact_ok {s s' : Session σ ω ο} {a : α} :
    transact body s = .ok a s' ↔ s.usable = true ∧ ∃ t, body ⟨s.working, s.outbox⟩ = .ok a t
      ∧ s' = { s with working := t.store, outbox := t.outbox } := by
  unfold transact
  by_cases husable : s.usable = true
  · rw [if_pos husable]
    cases hbody : body ⟨s.working, s.outbox⟩ with
    | ok b t =>
        constructor
        · intro h
          cases h
          exact ⟨husable, t, rfl, rfl⟩
        · rintro ⟨-, t', ht, rfl⟩
          cases ht
          rfl
    | error e t =>
        obtain ⟨e, fault⟩ := e
        cases fault <;> simp
  · rw [if_neg husable]
    simp [husable]

theorem commit_ok {s s' : Session σ ω ο} {u : Unit} :
    (commit fault : Uow ε σ ω ο Unit) s = .ok u s' ↔ s.usable = true ∧ fault = none ∧ s' =
      { s with committed := s.working, loaded := fun _ => false, trail := s.working :: s.trail } := by
  unfold commit
  by_cases husable : s.usable = true
  · rw [if_pos husable]
    cases fault <;> simp [husable, eq_comm]
  · rw [if_neg husable]
    simp [husable]

theorem inTransaction_ok {s s' : Session σ ω ο} {a : α} :
    inTransaction body fault s = .ok a s' ↔
      s.usable = true ∧ fault = none ∧ ∃ t, body ⟨s.working, s.outbox⟩ = .ok a t
        ∧ s' = ⟨t.store, t.store, t.outbox, true, fun _ => false, t.store :: s.trail⟩ := by
  simp only [inTransaction, bind_ok, pure_ok, transact_ok, commit_ok]
  constructor
  · rintro ⟨_, _, ⟨husable, t, hbody, rfl⟩, _, _, ⟨-, hnone, rfl⟩, rfl, rfl⟩
    simp only [husable]
    exact ⟨trivial, hnone, t, hbody, rfl⟩
  · rintro ⟨husable, hnone, t, hbody, rfl⟩
    refine ⟨a, _, ⟨husable, t, hbody, rfl⟩, (), _, ⟨husable, hnone, rfl⟩, rfl, ?_⟩
    simp only [husable]

theorem transact_atomic : Atomic (transact body : Uow ε σ ω ο α) := by
  intro s e s' h
  unfold transact at h
  split at h
  · split at h <;> cases h <;> exact ⟨rfl, rfl⟩
  · cases h
    exact ⟨rfl, rfl⟩

theorem transact_of_raised {s : Session σ ω ο} {e : ε} {t : Txn σ ω} (husable : s.usable = true)
    (h : body ⟨s.working, s.outbox⟩ = .error ⟨e, .raised⟩ t) :
    transact body s = .error (.call e) { s with working := t.store, outbox := t.outbox } := by
  unfold transact
  rw [if_pos husable, h]

theorem transact_of_flush {s : Session σ ω ο} {e : ε} {t : Txn σ ω} (husable : s.usable = true)
    (h : body ⟨s.working, s.outbox⟩ = .error ⟨e, .flush⟩ t) :
    transact body s = .error (.call e) { s with
      working := s.committed, outbox := t.outbox, usable := false, loaded := fun _ => false } := by
  unfold transact
  rw [if_pos husable, h]

theorem transact_of_unusable {s : Session σ ω ο} (husable : s.usable = false) :
    transact body s = .error .pendingRollback s := by
  unfold transact
  rw [husable]
  rfl

theorem transact_of_error {s : Session σ ω ο} {e : Failure ε} {t : Txn σ ω}
    (husable : s.usable = true) (h : body ⟨s.working, s.outbox⟩ = .error e t) :
    ∃ s', transact body s = .error (.call e.error) s' := by
  obtain ⟨e, fault⟩ := e
  unfold transact
  rw [if_pos husable, h]
  cases fault <;> exact ⟨_, rfl⟩

theorem transact_check_of_ok {f : σ → Except ε α} {db : σ} {a : α} (h : f db = .ok a) :
    (transact (Tx.check f) : Uow ε σ ω ο α) (.start db) = .ok a (.start db) :=
  transact_ok.mpr ⟨rfl, ⟨db, []⟩, Tx.check_ok.mpr ⟨h, rfl⟩, rfl⟩

theorem transact_check_of_error {f : σ → Except ε α} {db : σ} {e : ε} (h : f db = .error e) :
    (transact (Tx.check f) : Uow ε σ ω ο α) (.start db) = .error (.call e) (.start db) := by
  have hchecked : (Tx.check f : Tx ε σ ω α) ⟨db, []⟩ = .error ⟨e, .raised⟩ ⟨db, []⟩ :=
    Tx.check_error.mpr ⟨e, h, rfl, rfl⟩
  simp only [transact, Session.start, Session.settled, if_true, hchecked]

/-- Nothing is committed before a commit. -/
theorem transact_committed {s : Session σ ω ο} :
    (endState (transact body s)).committed = s.committed := by
  unfold transact
  split
  · split <;> rfl
  · rfl

/-- What is only tried commits nothing. -/
theorem attempt_committed {a : α} {s : Session σ ω ο} :
    (endState ((tryCatch (transact body) fun _ => Pure.pure a : Uow ε σ ω ο α) s)).committed
      = s.committed := by
  have hcommitted : (endState ((transact body : Uow ε σ ω ο α) s)).committed = s.committed :=
    transact_committed
  cases hbody : (transact body : Uow ε σ ω ο α) s with
  | ok b s' =>
      rw [hbody] at hcommitted
      rw [tryCatch_eq_of_ok hbody]
      exact hcommitted
  | error e s' =>
      rw [hbody] at hcommitted
      rw [tryCatch_eq_of_error hbody]
      exact hcommitted

/-- With nothing pending, a commit commits nothing new. -/
theorem commit_committed {s : Session σ ω ο} (h : s.working = s.committed) :
    (endState ((commit fault : Uow ε σ ω ο Unit) s)).committed = s.committed := by
  unfold commit
  split
  · cases fault with
    | some e => rfl
    | none => exact h
  · rfl

/-- A commit that fails leaves what the body wrote to be rolled back. -/
theorem inTransaction_of_fault {s : Session σ ω ο} {e : ε} {a : α} {t : Txn σ ω}
    (husable : s.usable = true) (h : body ⟨s.working, s.outbox⟩ = .ok a t) :
    inTransaction body (some e) s
      = .error (.call e) { s with working := t.store, outbox := t.outbox, usable := false } := by
  have hcommit : (commit (some e) : Uow ε σ ω ο Unit) { s with working := t.store, outbox := t.outbox }
      = .error (.call e) { s with working := t.store, outbox := t.outbox, usable := false } := by
    unfold commit
    rw [if_pos husable]
  unfold inTransaction
  rw [bind_eq_of_ok (transact_ok.mpr ⟨husable, t, h, rfl⟩)]
  exact bind_eq_of_error hcommit

theorem inTransaction_atomic : Atomic (inTransaction body fault : Uow ε σ ω ο α) := by
  intro s e s' h
  simp only [inTransaction, bind_error, pure_error, and_false, exists_false, or_false] at h
  rcases h with h | ⟨a, s₁, htransact, hcommit⟩
  · exact transact_atomic s e s' h
  · have hsame : s₁.committed = s.committed ∧ s₁.trail = s.trail := by
      unfold transact at htransact
      split at htransact
      · split at htransact <;> cases htransact
        exact ⟨rfl, rfl⟩
      · cases htransact
    unfold commit at hcommit
    split at hcommit
    · cases fault <;> cases hcommit
      exact hsame
    · cases hcommit
      exact hsame

/-- A body that begins with a read is what follows the read. -/
theorem inTransaction_check {f : σ → Except ε β} {b : β} {body : β → Tx ε σ ω α} {db : σ}
    (h : f db = .ok b) :
    (inTransaction (do let b ← Tx.check f; body b) fault : Uow ε σ ω ο α) (.start db)
      = inTransaction (body b) fault (.start db) := by
  have hbody : (do let b ← Tx.check f; body b) ⟨db, []⟩ = body b ⟨db, []⟩ :=
    bind_eq_of_ok (Tx.check_ok.mpr ⟨h, rfl⟩)
  have htransact : (transact (do let b ← Tx.check f; body b) : Uow ε σ ω ο α) (.start db)
      = transact (body b) (.start db) := by
    simp only [transact, Session.start, Session.settled, hbody]
  exact bind_eq_of_eq htransact

/-- A transaction that fails commits nothing. -/
theorem inTransaction_committed_of_failure {s : Session σ ω ο}
    (h : ∀ a t, body ⟨s.working, s.outbox⟩ = .ok a t → fault ≠ none) :
    (endState ((inTransaction body fault : Uow ε σ ω ο α) s)).committed = s.committed := by
  cases hend : inTransaction body fault s with
  | ok a s' =>
      obtain ⟨-, hnone, t, hbody, -⟩ := inTransaction_ok.mp hend
      exact absurd hnone (h a t hbody)
  | error e s' =>
      obtain ⟨hcommitted, -⟩ := inTransaction_atomic s e s' hend
      exact hcommitted

theorem inTransaction_committed_of_ok {s : Session σ ω ο} {a : α} {t : Txn σ ω}
    (husable : s.usable = true) (h : body ⟨s.working, s.outbox⟩ = .ok a t) :
    (endState ((inTransaction body none : Uow ε σ ω ο α) s)).committed = t.store := by
  rw [inTransaction_ok.mpr ⟨husable, rfl, t, h, rfl⟩]
  rfl

/-- A failed flush leaves a session in which nothing can be read. -/
theorem inTransaction_of_flush {s : Session σ ω ο} {e : ε} {t : Txn σ ω} (husable : s.usable = true)
    (h : body ⟨s.working, s.outbox⟩ = .error ⟨e, .flush⟩ t) :
    ∃ s', inTransaction body fault s = .error (.call e) s' ∧ s'.usable = false
      ∧ s'.loaded = fun _ => false := by
  exact ⟨_, bind_eq_of_error (transact_of_flush husable h), rfl, rfl⟩

theorem read_of_unusable [DecidableEq ο] {s : Session σ ω ο} {o : ο} (hloaded : s.loaded o = false)
    (husable : s.usable = false) :
    (read o : Uow ε σ ω ο Unit) s = .error .pendingRollback s := by
  unfold read
  rw [hloaded, husable]
  rfl

/-- A transaction that fails without a failed flush leaves loaded objects loaded. -/
theorem inTransaction_keeps_loaded {s s' : Session σ ω ο} {e : Raised ε}
    (hbody : ∀ t f t', body t = .error f t' → f.fault = .raised)
    (h : inTransaction body fault s = .error e s') : s'.loaded = s.loaded := by
  simp only [inTransaction, bind_error, pure_error, and_false, exists_false, or_false] at h
  rcases h with h | ⟨a, s₁, htransact, hcommit⟩
  · unfold transact at h
    split at h
    · split at h
      · cases h
      · cases h
        rfl
      · rename_i hfailed
        cases hbody _ _ _ hfailed
    · cases h
      rfl
  · have hkept : s₁.loaded = s.loaded := by
      unfold transact at htransact
      split at htransact
      · split at htransact <;> cases htransact
        rfl
      · cases htransact
    unfold commit at hcommit
    split at hcommit
    · cases fault <;> cases hcommit
      exact hkept
    · cases hcommit
      exact hkept

theorem Atomic.map {m : Uow ε σ ω ο α} {b : β} (hm : Atomic m) :
    Atomic (do let _ ← m; pure b : Uow ε σ ω ο β) := by
  intro s e s' h
  simp only [bind_error, pure_error, and_false, exists_false, or_false] at h
  exact hm s e s' h

theorem read_outcome [DecidableEq ο] {o : ο} {s s' : Session σ ω ο} :
    (∀ u : Unit, (read o : Uow ε σ ω ο Unit) s = .ok u s' →
      s'.committed = s.committed ∧ s'.working = s.working ∧ s'.usable = s.usable
        ∧ s'.trail = s.trail)
      ∧ ∀ e, (read o : Uow ε σ ω ο Unit) s = .error e s' →
        s' = s ∧ s.usable = false ∧ s.loaded o = false := by
  unfold read
  refine ⟨?_, ?_⟩
  · intro u h
    split at h
    · cases h
      exact ⟨rfl, rfl, rfl, rfl⟩
    · split at h
      · cases h
        exact ⟨rfl, rfl, rfl, rfl⟩
      · cases h
  · intro e h
    split at h
    · cases h
    · rename_i hloaded
      split at h
      · cases h
      · rename_i husable
        cases h
        exact ⟨rfl, eq_false_of_ne_true husable, eq_false_of_ne_true hloaded⟩

/-- Whatever its end, a read changes what is loaded at most. -/
theorem read_end [DecidableEq ο] (o : ο) (s : Session σ ω ο) :
    ∃ loaded, endState ((read o : Uow ε σ ω ο Unit) s) = { s with loaded := loaded } := by
  unfold read
  by_cases hloaded : s.loaded o = true
  · rw [if_pos hloaded]
    exact ⟨s.loaded, rfl⟩
  · rw [if_neg hloaded]
    by_cases husable : s.usable = true
    · rw [if_pos husable]
      exact ⟨_, rfl⟩
    · rw [if_neg husable]
      exact ⟨s.loaded, rfl⟩

/-- A handler that looks at an object first may be refused; otherwise it restores. -/
theorem read_then_rollback_restores [DecidableEq ο] (o : ο) :
    Restores (do read o; rollback : Uow ε σ ω ο Unit) (fun _ => True) := by
  intro s
  refine ⟨?_, ?_⟩
  · intro u s' h
    obtain ⟨_, s₁, hread, hroll⟩ := bind_ok.mp h
    obtain ⟨hc, -, -, ht⟩ := read_outcome.1 _ hread
    obtain rfl := rollback_ok.mp hroll
    exact ⟨⟨rfl, rfl⟩, hc, ht, trivial⟩
  · intro e s' h
    rcases bind_error.mp h with h | ⟨_, s₁, -, hroll⟩
    · obtain ⟨rfl, -, -⟩ := read_outcome.2 _ h
      exact ⟨rfl, rfl⟩
    · cases hroll

/-- A handler that rolls back first can then look at any object. -/
theorem rollback_then_read_restores [DecidableEq ο] (o : ο) (a : α) :
    Restores (do rollback; read o; Pure.pure a : Uow ε σ ω ο α) (fun b => b = a) := by
  intro s
  refine ⟨?_, ?_⟩
  · intro b s' h
    obtain ⟨_, s₁, hroll, h⟩ := bind_ok.mp h
    obtain ⟨_, s₂, hread, h⟩ := bind_ok.mp h
    obtain ⟨rfl, rfl⟩ := pure_ok.mp h
    obtain rfl := rollback_ok.mp hroll
    obtain ⟨hc, hw, hu, ht⟩ := read_outcome.1 _ hread
    exact ⟨⟨hw.trans hc.symm, hu⟩, hc, ht, rfl⟩
  · intro e s' h
    rcases bind_error.mp h with h | ⟨_, s₁, hroll, h⟩
    · cases h
    · obtain rfl := rollback_ok.mp hroll
      rcases bind_error.mp h with h | ⟨_, s₂, -, h⟩
      · obtain ⟨-, hu, -⟩ := read_outcome.2 _ h
        cases hu
      · exact absurd h pure_error

theorem rollback_then_throw_restores (e : Raised ε) (V : α → Prop) :
    Restores (do rollback; throw e : Uow ε σ ω ο α) V := by
  intro s
  refine ⟨?_, ?_⟩
  · intro b s' h
    obtain ⟨_, _, _, hthrow⟩ := bind_ok.mp h
    exact absurd hthrow throw_ok
  · intro e' s' h
    rcases bind_error.mp h with h | ⟨_, s₁, hroll, hthrow⟩
    · cases h
    · obtain rfl := rollback_ok.mp hroll
      obtain ⟨-, rfl⟩ := throw_error.mp hthrow
      exact ⟨rfl, rfl⟩

/-- A handler that rolls back and fails commits nothing. -/
theorem rethrow_committed {m : Uow ε σ ω ο α} {raised : Raised ε → Raised ε} {s : Session σ ω ο} :
    (endState ((tryCatch m fun e => do rollback; throw (raised e)) s)).committed
      = (endState (m s)).committed := by
  cases hm : m s with
  | ok a s' =>
      rw [tryCatch_eq_of_ok hm]
  | error e s' =>
      rw [tryCatch_eq_of_error hm]
      rfl

/-- A handler that looks at an object, rolls back and fails commits nothing. -/
theorem read_rollback_throw_committed [DecidableEq ο] {o : ο} {e : Raised ε} {s : Session σ ω ο} :
    (endState ((do read o; rollback; throw e : Uow ε σ ω ο α) s)).committed = s.committed := by
  cases hread : (read o : Uow ε σ ω ο Unit) s with
  | ok u s' =>
      obtain ⟨hcommitted, -, -, -⟩ := read_outcome.1 u hread
      rw [bind_eq_of_ok hread]
      exact hcommitted
  | error e' s' =>
      obtain ⟨rfl, -, -⟩ := read_outcome.2 e' hread
      rw [bind_eq_of_error hread]
      rfl

/-- A handler that lets the failure through: it commits nothing and sends nothing. -/
def Refuses (m : Uow ε σ ω ο α) : Prop :=
  ∀ s, ∃ e s', m s = .error e s' ∧ s'.committed = s.committed ∧ s'.trail = s.trail
    ∧ s'.outbox = s.outbox

theorem rollback_then_throw_refuses (e : Raised ε) :
    Refuses (do rollback; throw e : Uow ε σ ω ο α) :=
  fun _ => ⟨e, _, rfl, rfl, rfl, rfl⟩

theorem read_rollback_throw_refuses [DecidableEq ο] (o : ο) (e : Raised ε) :
    Refuses (do read o; rollback; throw e : Uow ε σ ω ο α) := by
  intro s
  have hrest : ∀ u : Session σ ω ο, ∃ u', (do rollback; throw e : Uow ε σ ω ο α) u = .error e u'
      ∧ u'.committed = u.committed ∧ u'.trail = u.trail ∧ u'.outbox = u.outbox :=
    fun u => ⟨_, rfl, rfl, rfl, rfl⟩
  by_cases hread : s.loaded o = true ∨ s.usable = true
  · have hok : ∃ u : Session σ ω ο, (read o : Uow ε σ ω ο Unit) s = .ok () u
        ∧ u.committed = s.committed ∧ u.trail = s.trail ∧ u.outbox = s.outbox := by
      unfold read
      by_cases hloaded : s.loaded o = true
      · exact ⟨s, if_pos hloaded, rfl, rfl, rfl⟩
      · rw [if_neg hloaded, if_pos (hread.resolve_left hloaded)]
        exact ⟨_, rfl, rfl, rfl, rfl⟩
    obtain ⟨u, hok, hcommitted, htrail, houtbox⟩ := hok
    obtain ⟨u', hthrow, hcommitted', htrail', houtbox'⟩ := hrest u
    refine ⟨e, u', ?_, hcommitted'.trans hcommitted, htrail'.trans htrail, houtbox'.trans houtbox⟩
    rw [bind_eq_of_ok hok]
    exact hthrow
  · have hloaded : s.loaded o = false := eq_false_of_ne_true fun h => hread (.inl h)
    have husable : s.usable = false := eq_false_of_ne_true fun h => hread (.inr h)
    exact ⟨.pendingRollback, s, bind_eq_of_error (read_of_unusable hloaded husable), rfl, rfl, rfl⟩

section Refusing

variable {m : Uow ε σ ω ο α} {handler : Raised ε → Uow ε σ ω ο α} {s s' : Session σ ω ο}

/-- Behind such a handler a program ends normally as it would without. -/
theorem tryCatch_refuses_ok (hrefuses : ∀ e, Refuses (handler e)) {a : α} :
    tryCatch m handler s = .ok a s' ↔ m s = .ok a s' := by
  rw [tryCatch_ok]
  constructor
  · rintro (h | ⟨e, u, -, h⟩)
    · exact h
    · obtain ⟨e', u', herror, -⟩ := hrefuses e u
      rw [herror] at h
      cases h
  · exact Or.inl

theorem tryCatch_refuses_error (hrefuses : ∀ e, Refuses (handler e)) {e : Raised ε}
    (h : tryCatch m handler s = .error e s') : ∃ e' u, m s = .error e' u
      ∧ s'.committed = u.committed ∧ s'.trail = u.trail ∧ s'.outbox = u.outbox := by
  obtain ⟨e', u, hm, hh⟩ := tryCatch_error.mp h
  obtain ⟨e'', u', herror, hcommitted, htrail, houtbox⟩ := hrefuses e' u
  rw [herror] at hh
  cases hh
  exact ⟨e', u, hm, hcommitted, htrail, houtbox⟩

end Refusing

/-- A body that reads, calls out and sends, but writes nothing. -/
def Tx.WritesNothing (body : Tx ε σ ω α) : Prop :=
  (∀ t a t', body t = .ok a t' → t'.store = t.store)
    ∧ ∀ t f t', body t = .error f t' → t'.store = t.store ∧ f.fault = .raised

namespace Triple

variable {m : Uow ε σ ω ο α}

theorem pure {a : α} (h : ∀ db, P db → Q a db) :
    Triple R P (Pure.pure a : Uow ε σ ω ο α) Q := by
  intro s hclean hP
  refine ⟨?_, ?_⟩
  · intro b s' hb
    obtain ⟨rfl, rfl⟩ := pure_ok.mp hb
    exact ⟨hclean, .of_same rfl rfl, h _ hP⟩
  · intro e s' he
    exact absurd he pure_error

theorem throw {e : Raised ε} : Triple R P (MonadExcept.throw e : Uow ε σ ω ο α) Q := by
  intro s _ _
  refine ⟨?_, ?_⟩
  · intro b s' hb
    exact absurd hb throw_ok
  · intro e' s' he
    obtain ⟨-, rfl⟩ := throw_error.mp he
    exact .of_same rfl rfl

theorem bind {f : α → Uow ε σ ω ο β} (hm : Triple R P m Q) (hf : ∀ a, Triple R (Q a) (f a) Q₂) :
    Triple R P (m >>= f) Q₂ := by
  intro s hclean hP
  obtain ⟨hok, herr⟩ := hm s hclean hP
  refine ⟨?_, ?_⟩
  · intro b s' h
    obtain ⟨a, s₁, hs₁, hs'⟩ := bind_ok.mp h
    obtain ⟨hclean₁, hext, hQ⟩ := hok a s₁ hs₁
    obtain ⟨hclean', hext', hQ'⟩ := (hf a s₁ hclean₁ hQ).1 b s' hs'
    exact ⟨hclean', hext.trans hext', hQ'⟩
  · intro e s' h
    rcases bind_error.mp h with h | ⟨a, s₁, hs₁, hs'⟩
    · exact herr e s' h
    · obtain ⟨hclean₁, hext, hQ⟩ := hok a s₁ hs₁
      exact hext.trans ((hf a s₁ hclean₁ hQ).2 e s' hs')

/-- Reading and checking before the first write. -/
theorem check {f : σ → Except ε α} :
    Triple R P (transact (Tx.check f) : Uow ε σ ω ο α) (fun a db => f db = .ok a ∧ P db) := by
  intro s hclean hP
  refine ⟨?_, ?_⟩
  · intro a s' h
    simp only [transact, hclean.usable, if_true, Tx.check, hclean.working] at h
    cases hf : f s.committed with
    | ok b =>
        simp only [hf] at h
        cases h
        exact ⟨⟨rfl, rfl⟩, .of_same rfl rfl, hf, hP⟩
    | error e =>
        simp only [hf] at h
        cases h
  · intro e s' h
    obtain ⟨hc, ht⟩ := transact_atomic s e s' h
    exact .of_same hc ht

/-- A transaction commits one step, or nothing. -/
theorem inTransaction
    (h : ∀ t a t', P t.store → body t = .ok a t' → R t.store t'.store ∧ Q a t'.store) :
    Triple R P (Uow.inTransaction body fault : Uow ε σ ω ο α) Q := by
  intro s hclean hP
  refine ⟨?_, ?_⟩
  · intro a s' hs'
    obtain ⟨-, -, t, hbody, rfl⟩ := inTransaction_ok.mp hs'
    have hP' : P s.working := hclean.working ▸ hP
    obtain ⟨hR, hQ⟩ := h ⟨s.working, s.outbox⟩ a t hP' hbody
    have hstep : Relation.ReflTransGen R s.committed t.store :=
      .single (hclean.working ▸ hR)
    refine ⟨⟨rfl, rfl⟩, ⟨hstep, ?_⟩, hQ⟩
    intro x hx
    rcases List.mem_cons.mp hx with rfl | hx
    · exact Or.inr hstep
    · exact Or.inl hx
  · intro e s' hs'
    obtain ⟨hc, ht⟩ := inTransaction_atomic s e s' hs'
    exact .of_same hc ht

theorem read [DecidableEq ο] {o : ο} :
    Triple R P (Uow.read o : Uow ε σ ω ο Unit) (fun _ db => P db) := by
  intro s hclean hP
  refine ⟨?_, ?_⟩
  · intro u s' h
    unfold Uow.read at h
    split at h
    · cases h
      exact ⟨hclean, .of_same rfl rfl, hP⟩
    · rw [if_pos hclean.usable] at h
      cases h
      exact ⟨⟨hclean.working, hclean.usable⟩, .of_same rfl rfl, hP⟩
  · intro e s' h
    unfold Uow.read at h
    split at h
    · cases h
    · rw [if_pos hclean.usable] at h
      cases h

/-- With nothing pending, a commit changes nothing. -/
theorem commit : Triple R P (Uow.commit fault : Uow ε σ ω ο Unit) (fun _ db => P db) := by
  intro s hclean hP
  refine ⟨?_, ?_⟩
  · intro u s' h
    obtain ⟨husable, -, rfl⟩ := commit_ok.mp h
    refine ⟨⟨rfl, husable⟩, ⟨?_, ?_⟩, ?_⟩
    · rw [hclean.working]
    · intro x hx
      rcases List.mem_cons.mp hx with rfl | hx
      · rw [hclean.working]
        exact Or.inr .refl
      · exact Or.inl hx
    · rw [hclean.working]
      exact hP
  · intro e s' h
    unfold Uow.commit at h
    split at h
    · cases fault <;> cases h
      exact .of_same rfl rfl
    · cases h
      exact .of_same rfl rfl

/-- Two bodies in one transaction, of which only the second is under a handler. -/
theorem staged {first : Tx ε σ ω α} {second : α → Tx ε σ ω β} {γ : Type} {K : β → σ → Prop}
    {Q₃ : γ → σ → Prop} {rest : α → β → Uow ε σ ω ο γ} {handler : α → Raised ε → Uow ε σ ω ο γ}
    (hbody : ∀ t a t₁ b t', P t.store → first t = .ok a t₁ → second a t₁ = .ok b t' → fault = none →
      R t.store t'.store ∧ K b t'.store)
    (hrest : ∀ a b, Triple R (K b) (rest a b) Q₃) (hrefuses : ∀ a e, Refuses (handler a e)) :
    Triple R P (do
      let a ← transact first
      tryCatch (do let b ← Uow.inTransaction (second a) fault; rest a b) (handler a)) Q₃ := by
  intro s hclean hP
  -- what the first body leaves pending, the commit of the second takes with it
  have hcommit : ∀ a s₁ b s₂, transact first s = .ok a s₁ →
      Uow.inTransaction (second a) fault s₁ = .ok b s₂ →
        s₂.Clean ∧ s.Extends R s₂ ∧ K b s₂.committed := by
    intro a s₁ b s₂ hfirst hsecond
    obtain ⟨-, t, ht, rfl⟩ := transact_ok.mp hfirst
    obtain ⟨-, hnone, t', ht', rfl⟩ := inTransaction_ok.mp hsecond
    have hP' : P s.working := hclean.working ▸ hP
    obtain ⟨hR, hQ⟩ := hbody ⟨s.working, s.outbox⟩ a t b t' hP' ht ht' hnone
    have hstep : Relation.ReflTransGen R s.committed t'.store := .single (hclean.working ▸ hR)
    refine ⟨⟨rfl, rfl⟩, ⟨hstep, ?_⟩, hQ⟩
    intro x hx
    rcases List.mem_cons.mp hx with rfl | hx
    · exact Or.inr hstep
    · exact Or.inl hx
  refine ⟨?_, ?_⟩
  · intro c s' h
    obtain ⟨a, s₁, hfirst, h⟩ := bind_ok.mp h
    obtain ⟨b, s₂, hsecond, hrest'⟩ := bind_ok.mp ((tryCatch_refuses_ok (hrefuses a)).mp h)
    obtain ⟨hclean₂, hext, hQ⟩ := hcommit a s₁ b s₂ hfirst hsecond
    obtain ⟨hclean', hext', hQ'⟩ := (hrest a b s₂ hclean₂ hQ).1 c s' hrest'
    exact ⟨hclean', hext.trans hext', hQ'⟩
  · intro e s' h
    rcases bind_error.mp h with h | ⟨a, s₁, hfirst, h⟩
    · obtain ⟨hc, ht⟩ := transact_atomic s e s' h
      exact .of_same hc ht
    · obtain ⟨e', u, hu, hcommitted, htrail, -⟩ := tryCatch_refuses_error (hrefuses a) h
      refine Session.Extends.trans ?_ (.of_same hcommitted htrail)
      rcases bind_error.mp hu with hu | ⟨b, s₂, hsecond, hu⟩
      · obtain ⟨hc, ht⟩ := inTransaction_atomic s₁ e' u hu
        obtain ⟨-, t, -, rfl⟩ := transact_ok.mp hfirst
        exact .of_same hc ht
      · obtain ⟨hclean₂, hext, hQ⟩ := hcommit a s₁ b s₂ hfirst hsecond
        exact hext.trans ((hrest a b s₂ hclean₂ hQ).2 e' u hu)

theorem refuse {handler : Raised ε → Uow ε σ ω ο α} (hm : Triple R P m Q)
    (hrefuses : ∀ e, Refuses (handler e)) : Triple R P (tryCatch m handler) Q := by
  intro s hclean hP
  obtain ⟨hok, herr⟩ := hm s hclean hP
  refine ⟨?_, ?_⟩
  · intro a s' h
    exact hok a s' ((tryCatch_refuses_ok hrefuses).mp h)
  · intro e s' h
    obtain ⟨e', u, hu, hcommitted, htrail, -⟩ := tryCatch_refuses_error hrefuses h
    exact (herr e' u hu).trans (.of_same hcommitted htrail)

theorem orRollback (hm : Triple R P m Q) : Triple R P (Uow.orRollback m) Q :=
  hm.refuse rollback_then_throw_refuses

/-- A handler that restores the session after an atomic failure leaves what was there. -/
theorem recover {V : α → Prop} {h : Raised ε → Uow ε σ ω ο α} (hm : Triple R P m Q)
    (hatomic : Atomic m) (hh : ∀ e, Restores (h e) V) :
    Triple R P (tryCatch m h) (fun a db => Q a db ∨ V a ∧ P db) := by
  intro s hclean hP
  obtain ⟨hok, -⟩ := hm s hclean hP
  refine ⟨?_, ?_⟩
  · intro a s' hs'
    rcases tryCatch_ok.mp hs' with hs' | ⟨e, s₁, hs₁, hs'⟩
    · obtain ⟨hclean', hext, hQ⟩ := hok a s' hs'
      exact ⟨hclean', hext, Or.inl hQ⟩
    · obtain ⟨hc, ht⟩ := hatomic s e s₁ hs₁
      obtain ⟨hclean', hc', ht', hV⟩ := (hh e s₁).1 a s' hs'
      have hsame : s'.committed = s.committed := hc'.trans hc
      exact ⟨hclean', .of_same hsame (ht'.trans ht), Or.inr ⟨hV, hsame ▸ hP⟩⟩
  · intro e s' hs'
    obtain ⟨e₁, s₁, hs₁, hs'⟩ := tryCatch_error.mp hs'
    obtain ⟨hc, ht⟩ := hatomic s e₁ s₁ hs₁
    obtain ⟨hc', ht'⟩ := (hh e₁ s₁).2 e s' hs'
    exact .of_same (hc'.trans hc) (ht'.trans ht)

/-- What is only tried, and writes nothing, leaves the session clean either way. -/
theorem attempt {a : α} (h : Tx.WritesNothing body) :
    Triple R P (tryCatch (transact body) fun _ => Pure.pure a : Uow ε σ ω ο α)
      (fun _ db => P db) := by
  intro s hclean hP
  have hworking : ∀ t : Txn σ ω, t.store = s.working →
      (⟨s.committed, t.store, t.outbox, true, s.loaded, s.trail⟩ : Session σ ω ο).Clean :=
    fun t ht => ⟨ht.trans hclean.working, rfl⟩
  refine ⟨?_, ?_⟩
  · intro b s' hs'
    rcases tryCatch_ok.mp hs' with hs' | ⟨e, s₁, hs₁, hs'⟩
    · simp only [transact, hclean.usable, if_true] at hs'
      cases hbody : body ⟨s.working, s.outbox⟩ with
      | ok c t =>
          rw [hbody] at hs'
          cases hs'
          exact ⟨hworking t (h.1 _ _ _ hbody), .of_same rfl rfl, hP⟩
      | error f t =>
          rw [hbody] at hs'
          obtain ⟨e, _ | _⟩ := f <;> cases hs'
    · obtain ⟨-, rfl⟩ := pure_ok.mp hs'
      simp only [transact, hclean.usable, if_true] at hs₁
      cases hbody : body ⟨s.working, s.outbox⟩ with
      | ok c t =>
          rw [hbody] at hs₁
          cases hs₁
      | error f t =>
          rw [hbody] at hs₁
          obtain ⟨hstore, hfault⟩ := h.2 _ _ _ hbody
          obtain ⟨e, _ | _⟩ := f
          · cases hs₁
            exact ⟨hworking t hstore, .of_same rfl rfl, hP⟩
          · cases hfault
  · intro e s' hs'
    obtain ⟨_, _, _, hs'⟩ := tryCatch_error.mp hs'
    exact absurd hs' pure_error

/-- Whatever the end, what a program commits from a clean session is reached by steps. -/
theorem ends {s : Session σ ω ο} (hm : Triple R P m Q) (hclean : s.Clean) (hP : P s.committed) :
    s.Extends R (endState (m s)) := by
  cases h : m s with
  | ok a s' => exact ((hm s hclean hP).1 a s' h).2.1
  | error e s' => exact (hm s hclean hP).2 e s' h

theorem weaken {P' : σ → Prop} (hm : Triple R P m Q) (hP : ∀ db, P' db → P db)
    (hQ : ∀ a db, Q a db → Q' a db) : Triple R P' m Q' := by
  intro s hclean hP'
  obtain ⟨hok, herr⟩ := hm s hclean (hP _ hP')
  refine ⟨?_, herr⟩
  intro a s' h
  obtain ⟨hclean', hext, hq⟩ := hok a s' h
  exact ⟨hclean', hext, hQ _ _ hq⟩

end Triple

end Uow

end Commits

end UnitOfWork
