import InquestsApi.Lib.UnitOfWork

/-! What leaves with a transaction. A message that was accepted is not taken back, so what a
program promises about its messages it has to promise at every end: after the commit, and
after the failure that leaves nothing else behind. -/
namespace UnitOfWork

namespace Tx

variable {ε σ ω α β : Type} {m : Tx ε σ ω α} {f : α → Tx ε σ ω β} {t : Txn σ ω} {x : ω}

/-- Whatever its end, a body takes no message back. -/
def Grows (m : Tx ε σ ω α) : Prop := ∀ t, ∃ sent, (endState (m t)).outbox = sent ++ t.outbox

/-- Whatever its end, a body sends nothing. -/
def Silent (m : Tx ε σ ω α) : Prop := ∀ t, (endState (m t)).outbox = t.outbox

theorem Silent.grows (hm : Silent m) : Grows m := fun t => ⟨[], hm t⟩

theorem Silent.pure (a : α) : Silent (Pure.pure a : Tx ε σ ω α) := fun _ => rfl

theorem Silent.check (g : σ → Except ε α) : Silent (check g : Tx ε σ ω α) := by
  intro t
  unfold Tx.check
  cases g t.store <;> rfl

theorem Silent.flush (fault : Option Fault) (e : ε) (g : σ → Except ε (α × σ)) :
    Silent (flush fault e g : Tx ε σ ω α) := by
  intro t
  unfold Tx.flush
  cases fault with
  | some k => rfl
  | none =>
      cases g t.store with
      | ok p => rfl
      | error e => rfl

theorem Silent.touch (g : σ → σ) : Silent (touch g : Tx ε σ ω Unit) := fun _ => rfl

theorem Silent.callOut (fails : Bool) (e : ε) : Silent (callOut fails e : Tx ε σ ω Unit) := by
  intro t
  cases fails <;> rfl

theorem Silent.bind (hm : Silent m) (hf : ∀ a, Silent (f a)) : Silent (m >>= f) := by
  intro t
  have hfirst := hm t
  cases hresult : m t with
  | error e t' =>
      rw [hresult] at hfirst
      rw [bind_eq_of_error hresult]
      exact hfirst
  | ok a t' =>
      rw [hresult] at hfirst
      rw [bind_eq_of_ok hresult]
      exact (hf a t').trans hfirst

theorem Grows.send (fails : Bool) (e : ε) (m : ω) : Grows (send fails e m : Tx ε σ ω Unit) := by
  intro t
  cases fails with
  | true => exact ⟨[], rfl⟩
  | false => exact ⟨[m], rfl⟩

theorem Grows.bind (hm : Grows m) (hf : ∀ a, Grows (f a)) : Grows (m >>= f) := by
  intro t
  obtain ⟨sent, hsent⟩ := hm t
  cases hresult : m t with
  | error e t' =>
      rw [hresult] at hsent
      rw [bind_eq_of_error hresult]
      exact ⟨sent, hsent⟩
  | ok a t' =>
      rw [hresult] at hsent
      rw [bind_eq_of_ok hresult]
      obtain ⟨more, hmore⟩ := hf a t'
      refine ⟨more ++ sent, ?_⟩
      rw [hmore, List.append_assoc]
      exact congrArg _ hsent

/-- A message that has left was sent after every silent step before it. -/
theorem Silent.reaches (hm : Silent m) (hnew : x ∉ t.outbox)
    (h : x ∈ (endState ((m >>= f) t)).outbox) :
    ∃ a t', m t = .ok a t' ∧ x ∉ t'.outbox ∧ x ∈ (endState (f a t')).outbox := by
  have hfirst := hm t
  cases hresult : m t with
  | error e t' =>
      rw [hresult] at hfirst
      rw [bind_eq_of_error hresult] at h
      exact absurd (hfirst ▸ h) hnew
  | ok a t' =>
      rw [hresult] at hfirst
      rw [bind_eq_of_ok hresult] at h
      exact ⟨a, t', rfl, fun hold => hnew (hfirst ▸ hold), h⟩

/-- Before a message has left, the send of a first one has been accepted. -/
theorem send_reaches {fails : Bool} {e : ε} {y : ω} {g : Unit → Tx ε σ ω β} (hnew : x ∉ t.outbox)
    (h : x ∈ (endState ((Tx.send fails e y >>= g) t)).outbox) :
    fails = false ∧ x ∈ (endState (g () { t with outbox := y :: t.outbox })).outbox := by
  cases fails with
  | true => exact absurd h hnew
  | false => exact ⟨rfl, h⟩

/-- What two bodies give back does not change where they end. -/
theorem endState_bind_pure {g : α → β → α} :
    endState ((m >>= fun a => f a >>= fun b => Pure.pure (g a b)) t) = endState ((m >>= f) t) := by
  cases hm : m t with
  | error e t' =>
      rw [bind_eq_of_error hm, bind_eq_of_error hm]
      rfl
  | ok a t' =>
      rw [bind_eq_of_ok hm, bind_eq_of_ok hm]
      cases hf : f a t' with
      | error e t'' =>
          rw [bind_eq_of_error hf]
          rfl
      | ok b t'' =>
          rw [bind_eq_of_ok hf]
          rfl

/-- A body goes through when its first step does, and the rest of it from there. -/
theorem bind_goes {a : α} {t' : Txn σ ω} (hm : m t = .ok a t')
    (hf : ∃ b t'', f a t' = .ok b t'') : ∃ b t'', (m >>= f) t = .ok b t'' := by
  rw [bind_eq_of_ok hm]
  exact hf

theorem send_goes {fails : Bool} {e : ε} {y : ω} {g : Unit → Tx ε σ ω β} (hsend : fails = false)
    (hg : ∃ b t', g () { t with outbox := y :: t.outbox } = .ok b t') :
    ∃ b t', (Tx.send fails e y >>= g) t = .ok b t' :=
  bind_goes (send_ok.mpr ⟨hsend, rfl⟩) hg

/-- After the last send, the message that has left is the one that was sent. -/
theorem Silent.sent {y : ω} (hm : Silent m) (hnew : x ∉ t.outbox)
    (h : x ∈ (endState (m { t with outbox := y :: t.outbox })).outbox) : x = y := by
  rw [hm] at h
  rcases List.mem_cons.mp h with hsame | hold
  · exact hsame
  · exact absurd hold hnew

end Tx

section Sessions

variable {ε σ ω ο α β γ : Type}

/-- What is committed, and what has left. -/
def Session.view (s : Session σ ω ο) : Txn σ ω := ⟨s.committed, s.outbox⟩

namespace Uow

/-- From a clean session whose view satisfies `P`, a normal end leaves a clean session whose
view satisfies `Q`, and a failure a view that satisfies `E`. -/
def Ensures (P : Txn σ ω → Prop) (m : Uow ε σ ω ο α) (Q : α → Txn σ ω → Prop)
    (E : Txn σ ω → Prop) : Prop :=
  ∀ s : Session σ ω ο, s.Clean → P s.view →
    (∀ a s', m s = .ok a s' → s'.Clean ∧ Q a s'.view) ∧ ∀ e s', m s = .error e s' → E s'.view

/-- A handler that may end normally leaves the view alone, and the session clean. -/
def Quiet (m : Uow ε σ ω ο α) : Prop :=
  ∀ s : Session σ ω ο, (endState (m s)).view = s.view
    ∧ ∀ a s', m s = .ok a s' → s'.Clean

variable {P : Txn σ ω → Prop} {Q Q' : α → Txn σ ω → Prop} {E E' : Txn σ ω → Prop}
variable {Q₂ : β → Txn σ ω → Prop} {m : Uow ε σ ω ο α} {body : Tx ε σ ω α} {fault : Option ε}

theorem view_read [DecidableEq ο] (o : ο) (s : Session σ ω ο) :
    (endState ((read o : Uow ε σ ω ο Unit) s)).view = s.view := by
  obtain ⟨loaded, hread⟩ := read_end (ε := ε) o s
  rw [hread]
  rfl

/-- What a session sees while nothing is pending is its view. -/
theorem view_of_clean {s : Session σ ω ο} (hclean : s.Clean) :
    (⟨s.working, s.outbox⟩ : Txn σ ω) = s.view := by
  rw [hclean.working]
  rfl

/-- Between transactions, every object can be read. -/
theorem read_of_clean [DecidableEq ο] (o : ο) {s : Session σ ω ο} (hclean : s.Clean) :
    ∃ s', (read o : Uow ε σ ω ο Unit) s = .ok () s' ∧ s'.Clean ∧ s'.view = s.view := by
  have hview := view_read (ε := ε) o s
  cases hread : (read o : Uow ε σ ω ο Unit) s with
  | ok u s' =>
      obtain ⟨hcommitted, hworking, husable, -⟩ := read_outcome.1 u hread
      rw [hread] at hview
      exact ⟨s', rfl, ⟨hworking.trans (hclean.working.trans hcommitted.symm),
        husable.trans hclean.usable⟩, hview⟩
  | error e s' =>
      obtain ⟨-, husable, -⟩ := read_outcome.2 e hread
      rw [hclean.usable] at husable
      cases husable

variable (body) in
/-- What a body leaves before it is committed: its messages. -/
theorem view_transact {s : Session σ ω ο} (husable : s.usable = true) :
    (endState ((transact body : Uow ε σ ω ο α) s)).view
      = ⟨s.committed, (endState (body ⟨s.working, s.outbox⟩)).outbox⟩ := by
  unfold transact
  rw [if_pos husable]
  cases body ⟨s.working, s.outbox⟩ with
  | ok a t => rfl
  | error e t =>
      obtain ⟨e, fault⟩ := e
      cases fault <;> rfl

/-- What a transaction that fails leaves, its body or its commit. -/
theorem view_inTransaction_error {s s' : Session σ ω ο} {e : Raised ε} (husable : s.usable = true)
    (h : inTransaction body fault s = .error e s') :
    s'.view = ⟨s.committed, (endState (body ⟨s.working, s.outbox⟩)).outbox⟩ := by
  have hbody := view_transact body husable
  rcases bind_error.mp h with h | ⟨a, s₁, hs₁, hrest⟩
  · rw [h] at hbody
    exact hbody
  · rw [hs₁] at hbody
    rcases bind_error.mp hrest with h | ⟨u, s₂, -, hpure⟩
    · unfold commit at h
      split at h
      · cases fault <;> cases h
        exact hbody
      · cases h
        exact hbody
    · exact absurd hpure pure_error

theorem quiet_read_then_rollback [DecidableEq ο] (o : ο) :
    Quiet (do read o; rollback : Uow ε σ ω ο Unit) := by
  intro s
  have hview := view_read (ε := ε) o s
  constructor
  · cases hread : (read o : Uow ε σ ω ο Unit) s with
    | ok u s' =>
        rw [hread] at hview
        rw [bind_eq_of_ok hread]
        exact hview
    | error e s' =>
        rw [hread] at hview
        rw [bind_eq_of_error hread]
        exact hview
  · exact fun u s' h => ((read_then_rollback_restores o s).1 u s' h).1

theorem quiet_rollback_then_read [DecidableEq ο] (o : ο) (a : α) :
    Quiet (do rollback; read o; Pure.pure a : Uow ε σ ω ο α) := by
  intro s
  constructor
  · let rolledBack : Session σ ω ο :=
      { s with working := s.committed, usable := true, loaded := fun _ => false }
    have hview := view_read (ε := ε) o rolledBack
    have hroll : (rollback : Uow ε σ ω ο Unit) s = .ok () rolledBack := rfl
    rw [bind_eq_of_ok hroll]
    cases hread : (read o : Uow ε σ ω ο Unit) rolledBack with
    | ok u s' =>
        rw [hread] at hview
        rw [bind_eq_of_ok hread]
        exact hview
    | error e s' =>
        rw [hread] at hview
        rw [bind_eq_of_error hread]
        exact hview
  · exact fun b s' h => ((rollback_then_read_restores o a s).1 b s' h).1

namespace Ensures

theorem pure {a : α} (h : ∀ t, P t → Q a t) : Ensures P (Pure.pure a : Uow ε σ ω ο α) Q E := by
  intro s hclean hP
  constructor
  · intro b s' hb
    obtain ⟨rfl, rfl⟩ := pure_ok.mp hb
    exact ⟨hclean, h _ hP⟩
  · intro e s' he
    exact absurd he pure_error

theorem throw {e : Raised ε} (h : ∀ t, P t → E t) :
    Ensures P (MonadExcept.throw e : Uow ε σ ω ο α) Q E := by
  intro s _ hP
  constructor
  · intro b s' hb
    exact absurd hb throw_ok
  · intro e' s' he
    obtain ⟨-, rfl⟩ := throw_error.mp he
    exact h _ hP

theorem bind {f : α → Uow ε σ ω ο β} (hm : Ensures P m Q E) (hf : ∀ a, Ensures (Q a) (f a) Q₂ E) :
    Ensures P (m >>= f) Q₂ E := by
  intro s hclean hP
  obtain ⟨hok, herror⟩ := hm s hclean hP
  constructor
  · intro b s' h
    obtain ⟨a, s₁, hs₁, hs'⟩ := bind_ok.mp h
    obtain ⟨hclean₁, hQ⟩ := hok a s₁ hs₁
    exact (hf a s₁ hclean₁ hQ).1 b s' hs'
  · intro e s' h
    rcases bind_error.mp h with h | ⟨a, s₁, hs₁, hs'⟩
    · exact herror e s' h
    · obtain ⟨hclean₁, hQ⟩ := hok a s₁ hs₁
      exact (hf a s₁ hclean₁ hQ).2 e s' hs'

theorem check {f : σ → Except ε α} (h : ∀ t, P t → E t) :
    Ensures P (transact (Tx.check f) : Uow ε σ ω ο α) (fun a t => f t.store = .ok a ∧ P t) E := by
  intro s hclean hP
  have hview := view_transact (Tx.check f : Tx ε σ ω α) hclean.usable
  constructor
  · intro a s' hs'
    obtain ⟨-, t, ht, rfl⟩ := transact_ok.mp hs'
    obtain ⟨hf, rfl⟩ := Tx.check_ok.mp ht
    refine ⟨⟨hclean.working, hclean.usable⟩, ?_, hP⟩
    exact hclean.working ▸ hf
  · intro e s' hs'
    rw [hs', Tx.Silent.check] at hview
    exact h _ (hview ▸ hP)

theorem query {f : σ → α} :
    Ensures P (transact (Tx.query f) : Uow ε σ ω ο α) (fun a t => f t.store = a ∧ P t) E := by
  intro s hclean hP
  constructor
  · intro a s' hs'
    obtain ⟨-, t, ht, rfl⟩ := transact_ok.mp hs'
    obtain ⟨hf, rfl⟩ := Tx.query_ok.mp ht
    refine ⟨⟨hclean.working, hclean.usable⟩, ?_, hP⟩
    exact hclean.working ▸ hf
  · intro e s' hs'
    have hgoes : transact (Tx.query f : Tx ε σ ω α) s = .ok (f s.working) s :=
      transact_ok.mpr ⟨hclean.usable, _, Tx.query_ok.mpr ⟨rfl, rfl⟩, rfl⟩
    rw [hgoes] at hs'
    cases hs'

/-- A body that only hands messages over needs no commit. -/
theorem dispatch (hstore : ∀ t, (endState (body t)).store = t.store)
    (hok : ∀ t a t', P t → body t = .ok a t' → Q a t')
    (hfails : ∀ t e t', P t → body t = .error e t' → E t') :
    Ensures P (transact body : Uow ε σ ω ο α) Q E := by
  intro s hclean hP
  have hview := view_of_clean hclean
  have hleft := view_transact body hclean.usable
  have hkept := hstore s.view
  rw [hview] at hleft
  constructor
  · intro a s' hs'
    obtain ⟨-, t, ht, rfl⟩ := transact_ok.mp hs'
    rw [hview] at ht
    rw [ht] at hkept
    have hsame : (⟨s.committed, t.outbox⟩ : Txn σ ω) = t := congrArg (Txn.mk · t.outbox) hkept.symm
    refine ⟨⟨hkept, hclean.usable⟩, ?_⟩
    exact hsame.symm ▸ hok s.view a t hP ht
  · intro e s' hs'
    rw [hs'] at hleft
    cases hbody : body s.view with
    | ok a t =>
        have hgoes := transact_ok.mpr ⟨hclean.usable, t, hview ▸ hbody, rfl⟩
        rw [hs'] at hgoes
        cases hgoes
    | error f t =>
        rw [hbody] at hkept hleft
        have hsame : (⟨s.committed, t.outbox⟩ : Txn σ ω) = t := congrArg (Txn.mk · t.outbox) hkept.symm
        exact (hleft.trans hsame).symm ▸ hfails s.view f t hP hbody

/-- A transaction commits what its body leaves, or leaves its messages. -/
theorem inTransaction
    (hok : ∀ t a t', P t → body t = .ok a t' → fault = none → Q a t')
    (hfails : ∀ t, P t → (∀ a t', body t = .ok a t' → fault ≠ none) →
      E ⟨t.store, (endState (body t)).outbox⟩) :
    Ensures P (Uow.inTransaction body fault : Uow ε σ ω ο α) Q E := by
  intro s hclean hP
  have hview := view_of_clean hclean
  constructor
  · intro a s' hs'
    obtain ⟨-, hnone, t, hbody, rfl⟩ := inTransaction_ok.mp hs'
    exact ⟨⟨rfl, rfl⟩, hok _ a t hP (hview ▸ hbody) hnone⟩
  · intro e s' hs'
    have hfailed : ∀ a t', body s.view = .ok a t' → fault ≠ none := by
      intro a t' hbody hnone
      have hcommitted := inTransaction_ok.mpr ⟨hclean.usable, hnone, t', hview ▸ hbody, rfl⟩
      rw [hs'] at hcommitted
      cases hcommitted
    rw [view_inTransaction_error hclean.usable hs', hview]
    exact hfails s.view hP hfailed

theorem read [DecidableEq ο] {o : ο} : Ensures P (Uow.read o : Uow ε σ ω ο Unit) (fun _ => P) E := by
  intro s hclean hP
  obtain ⟨s₁, hread, hclean₁, hview⟩ := read_of_clean (ε := ε) o hclean
  constructor
  · intro u s' h
    cases hread.symm.trans h
    exact ⟨hclean₁, hview ▸ hP⟩
  · intro e s' h
    cases hread.symm.trans h

/-- With nothing pending, a commit changes nothing. -/
theorem commit : Ensures P (Uow.commit fault : Uow ε σ ω ο Unit) (fun _ => P) P := by
  intro s hclean hP
  constructor
  · intro u s' h
    obtain ⟨husable, -, rfl⟩ := commit_ok.mp h
    refine ⟨⟨rfl, husable⟩, ?_⟩
    simp only [Session.view, hclean.working]
    exact hP
  · intro e s' h
    unfold Uow.commit at h
    split at h
    · cases fault <;> cases h
      exact hP
    · cases h
      exact hP

/-- Two bodies in one transaction, of which only the second is under a handler. -/
theorem staged {first : Tx ε σ ω α} {second : α → Tx ε σ ω β} {K : β → Txn σ ω → Prop}
    {Q₃ : γ → Txn σ ω → Prop} {rest : α → β → Uow ε σ ω ο γ} {handler : α → Raised ε → Uow ε σ ω ο γ}
    (hok : ∀ t a t₁ b t', P t → first t = .ok a t₁ → second a t₁ = .ok b t' → fault = none → K b t')
    (hfails : ∀ t, P t → (∀ a t₁ b t', first t = .ok a t₁ → second a t₁ = .ok b t' → fault ≠ none) →
      E ⟨t.store, (endState ((first >>= second) t)).outbox⟩)
    (hrest : ∀ a b, Ensures (K b) (rest a b) Q₃ E) (hrefuses : ∀ a e, Refuses (handler a e)) :
    Ensures P (do
      let a ← transact first
      tryCatch (do let b ← Uow.inTransaction (second a) fault; rest a b) (handler a)) Q₃ E := by
  intro s hclean hP
  have hview := view_of_clean hclean
  -- what the first body leaves pending, the commit of the second takes with it
  have hcommit : ∀ a s₁ b s₂, transact first s = .ok a s₁ →
      Uow.inTransaction (second a) fault s₁ = .ok b s₂ → s₂.Clean ∧ K b s₂.view := by
    intro a s₁ b s₂ hfirst hsecond
    obtain ⟨-, t, ht, rfl⟩ := transact_ok.mp hfirst
    obtain ⟨-, hnone, t', ht', rfl⟩ := inTransaction_ok.mp hsecond
    exact ⟨⟨rfl, rfl⟩, hok _ a t b t' hP (hview ▸ ht) ht' hnone⟩
  constructor
  · intro c s' h
    obtain ⟨a, s₁, hfirst, h⟩ := bind_ok.mp h
    obtain ⟨b, s₂, hsecond, hrest'⟩ := bind_ok.mp ((tryCatch_refuses_ok (hrefuses a)).mp h)
    obtain ⟨hclean₂, hK⟩ := hcommit a s₁ b s₂ hfirst hsecond
    exact (hrest a b s₂ hclean₂ hK).1 c s' hrest'
  · intro e s' h
    rcases bind_error.mp h with h | ⟨a, s₁, hfirst, h⟩
    · -- the first body fails
      have hleft := view_transact first hclean.usable
      rw [h, hview] at hleft
      have hfailed : ∀ a t₁, first s.view ≠ .ok a t₁ := by
        intro a t₁ hbody
        have hdone : transact first s = .ok a _ :=
          transact_ok.mpr ⟨hclean.usable, t₁, hview ▸ hbody, rfl⟩
        rw [h] at hdone
        cases hdone
      have hsame : (endState ((first >>= second) s.view)).outbox
          = (endState (first s.view)).outbox := by
        cases hresult : first s.view with
        | ok a t₁ => exact absurd hresult (hfailed a t₁)
        | error e' t₁ =>
            rw [bind_eq_of_error hresult]
            rfl
      have hE := hfails s.view hP fun a t₁ b t' hbody => absurd hbody (hfailed a t₁)
      rw [hsame] at hE
      exact hleft ▸ hE
    · obtain ⟨e', u, hu, hcommitted, -, houtbox⟩ := tryCatch_refuses_error (hrefuses a) h
      have hsame : s'.view = u.view := by
        simp only [Session.view, hcommitted, houtbox]
      rw [hsame]
      rcases bind_error.mp hu with hu | ⟨b, s₂, hsecond, hu⟩
      · -- the second body fails, or the commit
        obtain ⟨-, t, ht, rfl⟩ := transact_ok.mp hfirst
        rw [hview] at ht
        have hfailed : ∀ a' t₁ b t', first s.view = .ok a' t₁ → second a' t₁ = .ok b t' →
            fault ≠ none := by
          intro a' t₁ b t' hbody hsecond hnone
          cases ht.symm.trans hbody
          have hdone : Uow.inTransaction (second a) fault
              { s with working := t.store, outbox := t.outbox } = .ok b _ :=
            inTransaction_ok.mpr ⟨hclean.usable, hnone, t', hsecond, rfl⟩
          rw [hu] at hdone
          cases hdone
        have hE := hfails s.view hP hfailed
        rw [bind_eq_of_ok ht] at hE
        have hleft := view_inTransaction_error
          (s := { s with working := t.store, outbox := t.outbox }) hclean.usable hu
        exact hleft ▸ hE
      · obtain ⟨hclean₂, hK⟩ := hcommit a s₁ b s₂ hfirst hsecond
        exact (hrest a b s₂ hclean₂ hK).2 e' u hu

/-- A handler that refuses lets the failure through. -/
theorem refuse {handler : Raised ε → Uow ε σ ω ο α} (hm : Ensures P m Q E)
    (hrefuses : ∀ e, Refuses (handler e)) : Ensures P (tryCatch m handler) Q E := by
  intro s hclean hP
  obtain ⟨hok, herror⟩ := hm s hclean hP
  constructor
  · intro a s' h
    exact hok a s' ((tryCatch_refuses_ok hrefuses).mp h)
  · intro e s' h
    obtain ⟨e', u, hu, hcommitted, -, houtbox⟩ := tryCatch_refuses_error hrefuses h
    have hsame : s'.view = u.view := by
      simp only [Session.view, hcommitted, houtbox]
    exact hsame ▸ herror e' u hu

theorem orRollback (hm : Ensures P m Q E) : Ensures P (Uow.orRollback m) Q E :=
  hm.refuse rollback_then_throw_refuses

/-- A quiet handler leaves what the failure left. -/
theorem recover {handler : Raised ε → Uow ε σ ω ο α} (hm : Ensures P m Q E)
    (hquiet : ∀ e, Quiet (handler e)) : Ensures P (tryCatch m handler) (fun a t => Q a t ∨ E t) E := by
  intro s hclean hP
  obtain ⟨hok, herror⟩ := hm s hclean hP
  constructor
  · intro a s' h
    rcases tryCatch_ok.mp h with h | ⟨e, s₁, hs₁, h⟩
    · obtain ⟨hclean', hQ⟩ := hok a s' h
      exact ⟨hclean', .inl hQ⟩
    · obtain ⟨hview, hcleans⟩ := hquiet e s₁
      rw [h] at hview
      exact ⟨hcleans a s' h, .inr (hview ▸ herror e s₁ hs₁)⟩
  · intro e s' h
    obtain ⟨e₁, s₁, hs₁, h⟩ := tryCatch_error.mp h
    obtain ⟨hview, -⟩ := hquiet e₁ s₁
    rw [h] at hview
    exact hview ▸ herror e₁ s₁ hs₁

/-- What cannot fail needs no handler. -/
theorem unfailing {handler : Raised ε → Uow ε σ ω ο α} (hm : Ensures P m Q fun _ => False) :
    Ensures P (tryCatch m handler) Q E := by
  intro s hclean hP
  obtain ⟨hok, herror⟩ := hm s hclean hP
  constructor
  · intro a s' h
    rcases tryCatch_ok.mp h with h | ⟨e, s₁, hs₁, -⟩
    · exact hok a s' h
    · exact (herror e s₁ hs₁).elim
  · intro e s' h
    obtain ⟨e₁, s₁, hs₁, -⟩ := tryCatch_error.mp h
    exact (herror e₁ s₁ hs₁).elim

theorem given {p : Prop} (h : p → Ensures P m Q E) : Ensures (fun t => p ∧ P t) m Q E := by
  intro s hclean hP
  exact h hP.1 s hclean hP.2

theorem weaken {P' : Txn σ ω → Prop} (hm : Ensures P m Q E) (hP : ∀ t, P' t → P t)
    (hQ : ∀ a t, Q a t → Q' a t) (hE : ∀ t, E t → E' t) : Ensures P' m Q' E' := by
  intro s hclean hP'
  obtain ⟨hok, herror⟩ := hm s hclean (hP _ hP')
  constructor
  · intro a s' h
    obtain ⟨hclean', hq⟩ := hok a s' h
    exact ⟨hclean', hQ _ _ hq⟩
  · intro e s' h
    exact hE _ (herror e s' h)

/-- What a program ensures at every end. -/
theorem ends {s : Session σ ω ο} (hm : Ensures P m (fun _ => E) E) (hclean : s.Clean) (hP : P s.view) :
    E (endState (m s)).view := by
  obtain ⟨hok, herror⟩ := hm s hclean hP
  cases h : m s with
  | ok a s' => exact (hok a s' h).2
  | error e s' => exact herror e s' h

end Ensures

end Uow

end Sessions

end UnitOfWork
