import InquestsApi.DomainClaim
import InquestsApi.Lib.UnitOfWork

/-! `CustomSession.commit`: the commit of the session, tried again with new keys after a unique
constraint has failed. -/
namespace InquestsApi

open UnitOfWork

/-- The `id` of an instance, where it has such an attribute. -/
inductive IdAttribute where
  | uuid (value : Uuid)
  | other
  deriving DecidableEq

structure OrmInstance (α : Type) where
  id : Option IdAttribute
  attributes : α
  deriving DecidableEq

/-- A new key for an instance whose key is a UUID. -/
def OrmInstance.regenerate {α : Type} (fresh : Uuid) (instance' : OrmInstance α) : OrmInstance α :=
  match instance'.id with
  | some (.uuid _) => { instance' with id := some (.uuid fresh) }
  | _ => instance'

/-- An object that waits for a commit: its identity, and what it is to become. -/
inductive OrmChange (κ α : Type) where
  | new (identity : κ) (row : OrmInstance α)
  | dirty (identity : κ) (row : OrmInstance α)
  | deleted (identity : κ)

namespace OrmChange

variable {κ α : Type}

def identity : OrmChange κ α → κ
  | new identity _ | dirty identity _ | deleted identity => identity

/-- The row that the object is to have. -/
def target : OrmChange κ α → Option (OrmInstance α)
  | new _ row | dirty _ row => some row
  | deleted _ => none

def regenerate (fresh : Uuid) : OrmChange κ α → OrmChange κ α
  | new identity row => new identity (row.regenerate fresh)
  | change => change

/-- The database does not have it yet. -/
def Pending (database : κ → Option (OrmInstance α)) : OrmChange κ α → Prop
  | new identity _ => database identity = none
  | dirty identity row => ∃ stored, database identity = some stored ∧ stored ≠ row
  | deleted identity => (database identity).isSome

def PersistedIn (database : κ → Option (OrmInstance α)) (change : OrmChange κ α) : Prop :=
  database change.identity = change.target

theorem Pending.not_persisted {database : κ → Option (OrmInstance α)} {change : OrmChange κ α}
    (h : change.Pending database) : ¬ change.PersistedIn database := by
  intro hpersisted
  cases change with
  | new identity row =>
      have hsome := h.symm.trans hpersisted
      cases hsome
  | dirty identity row =>
      obtain ⟨stored, hstored, hne⟩ := h
      exact hne (Option.some.inj (hstored.symm.trans hpersisted))
  | deleted identity =>
      have hnone : database identity = none := hpersisted
      rw [Pending, hnone] at h
      cases h

@[simp] theorem identity_regenerate (fresh : Uuid) (change : OrmChange κ α) :
    (change.regenerate fresh).identity = change.identity := by
  cases change <;> rfl

theorem Pending.regenerate {database : κ → Option (OrmInstance α)} {change : OrmChange κ α}
    (h : change.Pending database) (fresh : Uuid) : (change.regenerate fresh).Pending database := by
  cases change with
  | new identity row => exact h
  | dirty identity row => exact h
  | deleted identity => exact h

end OrmChange

/-- A session over a database: each object waits in one of its collections at most. -/
structure OrmSession (κ α : Type) where
  database : κ → Option (OrmInstance α)
  changes : List (OrmChange κ α)
  identities : (changes.map (·.identity)).Nodup
  pending : ∀ change ∈ changes, change.Pending database

/-- How a commit of pending work ends. -/
inductive CommitOutcome where
  | success
  | integrityError (message : String)
  | otherError

inductive CommitError where
  | integrityError (message : String)
  | otherError
  | httpException (statusCode : ℕ) (detail : String)
  deriving DecidableEq, Repr

def uniqueConstraintFailed : String := "UNIQUE constraint failed"

namespace OrmSession

variable {κ α : Type} [DecidableEq κ]

/-- What a commit writes: each object's row at its identity. -/
def written (database : κ → Option (OrmInstance α)) :
    List (OrmChange κ α) → κ → Option (OrmInstance α)
  | [] => database
  | change :: rest => Function.update (written database rest) change.identity change.target

def persist (s : OrmSession κ α) : OrmSession κ α where
  database := written s.database s.changes
  changes := []
  identities := List.nodup_nil
  pending := fun _ h => absurd h List.not_mem_nil

/-- New objects are expunged, and changed and deleted ones are as they were. -/
def rollback (s : OrmSession κ α) : OrmSession κ α where
  database := s.database
  changes := []
  identities := List.nodup_nil
  pending := fun _ h => absurd h List.not_mem_nil

/-- A new key for each of the new objects that the session still holds. -/
def regenerate (fresh : ℕ → Uuid) (s : OrmSession κ α) : OrmSession κ α where
  database := s.database
  changes := s.changes.mapIdx fun i change => change.regenerate (fresh i)
  identities := by
    have hsame : (s.changes.mapIdx fun i change => change.regenerate (fresh i)).map
        OrmChange.identity = s.changes.map OrmChange.identity := by
      apply List.ext_getElem
      · simp
      · simp
    rw [hsame]
    exact s.identities
  pending := by
    intro change hchange
    obtain ⟨i, hi, rfl⟩ := List.mem_mapIdx.mp hchange
    exact (s.pending _ (List.getElem_mem hi)).regenerate (fresh i)

/-- The commit of the session itself; with nothing pending it succeeds. -/
def superCommit (outcome : CommitOutcome) : EStateM CommitError (OrmSession κ α) Unit := fun s =>
  if s.changes.isEmpty then .ok () s
  else match outcome with
    | .success => .ok () s.persist
    | .integrityError message => .error (.integrityError message) s
    | .otherError => .error .otherError s

/-- The tries that remain; `retries` have failed, and the outcomes are those of the tries. -/
def commitLoop (uuid4 : ℕ → ℕ → Uuid) (outcomes : ℕ → CommitOutcome) :
    (remaining retries : ℕ) → EStateM CommitError (OrmSession κ α) Unit
  | 0, _ => throw (.httpException 500 "Could not generate a unique UUID after multiple attempts.")
  | remaining + 1, retries =>
    tryCatch (superCommit (outcomes retries)) fun e =>
      match e with
      | .integrityError message =>
        if contains uniqueConstraintFailed message then do
          modify rollback
          modify (regenerate (uuid4 (retries + 1)))
          commitLoop uuid4 outcomes remaining (retries + 1)
        else throw e
      | e => throw e

/-- `CustomSession.commit`; its callers leave `max_retries` at three. -/
def commit (uuid4 : ℕ → ℕ → Uuid) (outcomes : ℕ → CommitOutcome) (maxRetries : ℤ) :
    EStateM CommitError (OrmSession κ α) Unit :=
  commitLoop uuid4 outcomes maxRetries.toNat 0

/-- Everything that was pending is persisted. -/
def AllPersisted (before after : OrmSession κ α) : Prop :=
  ∀ change ∈ before.changes, change.PersistedIn after.database

/-- Nothing that was pending is persisted. -/
def NonePersisted (before after : OrmSession κ α) : Prop :=
  ∀ change ∈ before.changes, ¬ change.PersistedIn after.database

/-- A commit that returns has persisted everything, one that raises nothing. -/
def AllOrNothing (before : OrmSession κ α) :
    EStateM.Result CommitError (OrmSession κ α) Unit → Prop
  | .ok _ after => AllPersisted before after
  | .error _ after => NonePersisted before after

/-- A commit that finds a key taken. -/
def UniqueFailed : CommitOutcome → Prop
  | .integrityError message => contains uniqueConstraintFailed message = true
  | _ => False

section Commit

variable {uuid4 : ℕ → ℕ → Uuid} {outcomes : ℕ → CommitOutcome} {s : OrmSession κ α}
variable {outcome : CommitOutcome} {remaining retries : ℕ}

theorem persist_allPersisted (s : OrmSession κ α) : AllPersisted s s.persist := by
  have hwritten : ∀ changes : List (OrmChange κ α), (changes.map (·.identity)).Nodup →
      ∀ change ∈ changes, change.PersistedIn (written s.database changes) := by
    intro changes hnodup
    induction changes with
    | nil => exact fun _ h => absurd h List.not_mem_nil
    | cons first rest ih =>
        obtain ⟨hfirst, hrest⟩ := List.nodup_cons.mp hnodup
        intro change hchange
        rcases List.mem_cons.mp hchange with rfl | hlater
        · exact Function.update_self _ _ _
        · have hne : change.identity ≠ first.identity := by
            intro hsame
            have hmem : change.identity ∈ rest.map (·.identity) := List.mem_map_of_mem hlater
            rw [hsame] at hmem
            exact hfirst hmem
          unfold OrmChange.PersistedIn
          rw [written, Function.update_of_ne hne]
          exact ih hrest change hlater
  exact hwritten s.changes s.identities

omit [DecidableEq κ] in
theorem nonePersisted_of_same {after : OrmSession κ α} (h : after.database = s.database) :
    NonePersisted s after := by
  intro change hchange
  rw [h]
  exact (s.pending change hchange).not_persisted

theorem superCommit_of_nil (h : s.changes = []) : superCommit outcome s = .ok () s := by
  unfold superCommit
  rw [h]
  rfl

theorem superCommit_of_ne_nil (outcome : CommitOutcome) (h : s.changes ≠ []) :
    superCommit outcome s = match outcome with
    | .success => .ok () s.persist
    | .integrityError message => .error (.integrityError message) s
    | .otherError => .error .otherError s := by
  unfold superCommit
  rw [List.isEmpty_eq_false_iff.mpr h]
  rfl

/-- The commit of the session itself is all or nothing. -/
theorem superCommit_allOrNothing (s : OrmSession κ α) (outcome : CommitOutcome) :
    AllOrNothing s (superCommit outcome s) := by
  by_cases hnil : s.changes = []
  · rw [superCommit_of_nil hnil]
    intro change hchange
    rw [hnil] at hchange
    cases hchange
  · rw [superCommit_of_ne_nil outcome hnil]
    cases outcome with
    | success => exact persist_allPersisted s
    | integrityError message => exact nonePersisted_of_same rfl
    | otherError => exact nonePersisted_of_same rfl

/-- A try that does not find a key taken ends the loop as the session's own commit ends. -/
theorem commitLoop_of_not_unique (h : s.changes = [] ∨ ¬ UniqueFailed (outcomes retries)) :
    commitLoop uuid4 outcomes (remaining + 1) retries s = superCommit (outcomes retries) s := by
  unfold commitLoop
  by_cases hnil : s.changes = []
  · exact tryCatch_eq_of_ok (superCommit_of_nil hnil) |>.trans (superCommit_of_nil hnil).symm
  · have hunique := h.resolve_left hnil
    have hsuper := superCommit_of_ne_nil (outcomes retries) hnil
    cases houtcome : outcomes retries with
    | success =>
        rw [houtcome] at hsuper
        exact (tryCatch_eq_of_ok hsuper).trans hsuper.symm
    | otherError =>
        rw [houtcome] at hsuper
        exact (tryCatch_eq_of_error hsuper).trans hsuper.symm
    | integrityError message =>
        rw [houtcome] at hsuper hunique
        have htext : ¬ contains uniqueConstraintFailed message = true := hunique
        refine (tryCatch_eq_of_error hsuper).trans (Eq.trans ?_ hsuper.symm)
        exact congrFun (if_neg htext) s

/-- After a taken key the next try has nothing left to commit, and returns. -/
theorem commitLoop_of_unique (hpending : s.changes ≠ []) (h : UniqueFailed (outcomes retries)) :
    commitLoop uuid4 outcomes (remaining + 1) retries s
      = commitLoop uuid4 outcomes remaining (retries + 1)
          (regenerate (uuid4 (retries + 1)) s.rollback) := by
  have hsuper := superCommit_of_ne_nil (outcomes retries) hpending
  cases houtcome : outcomes retries with
  | success =>
      rw [houtcome] at h
      exact h.elim
  | otherError =>
      rw [houtcome] at h
      exact h.elim
  | integrityError message =>
      rw [houtcome] at h hsuper
      have htext : contains uniqueConstraintFailed message = true := h
      rw [commitLoop, houtcome]
      exact (tryCatch_eq_of_error hsuper).trans (congrFun (if_pos htext) s)

/-- A commit is all or nothing, but for pending work that meets a taken key and is tried again:
the rollback has dropped it, and the next try commits nothing and returns. -/
theorem commit_allOrNothing_iff (uuid4 : ℕ → ℕ → Uuid) (outcomes : ℕ → CommitOutcome)
    (maxRetries : ℤ) (s : OrmSession κ α) :
    AllOrNothing s (commit uuid4 outcomes maxRetries s)
      ↔ s.changes = [] ∨ ¬ UniqueFailed (outcomes 0) ∨ maxRetries ≤ 1 := by
  unfold commit
  cases hremaining : maxRetries.toNat with
  | zero =>
      have hfew : maxRetries ≤ 1 := by omega
      refine iff_of_true ?_ (.inr (.inr hfew))
      exact nonePersisted_of_same rfl
  | succ remaining =>
      by_cases hkept : s.changes = [] ∨ ¬ UniqueFailed (outcomes 0)
      · rw [commitLoop_of_not_unique hkept]
        refine iff_of_true (superCommit_allOrNothing s _) ?_
        exact hkept.imp_right .inl
      · obtain ⟨hpending, hunique⟩ := not_or.mp hkept
        rw [not_not] at hunique
        rw [commitLoop_of_unique hpending hunique]
        cases remaining with
        | zero =>
            have hfew : maxRetries ≤ 1 := by omega
            refine iff_of_true ?_ (.inr (.inr hfew))
            exact nonePersisted_of_same rfl
        | succ remaining =>
            have hmany : ¬ maxRetries ≤ 1 := by omega
            have hnone : (regenerate (uuid4 1) s.rollback).changes = [] := rfl
            rw [commitLoop_of_not_unique (.inl hnone), superCommit_of_nil hnone]
            refine iff_of_false ?_ ?_
            · intro hall
              obtain ⟨change, hchange⟩ := List.exists_mem_of_ne_nil _ hpending
              exact nonePersisted_of_same rfl change hchange (hall change hchange)
            · rintro (hnil | hnot | hfew)
              · exact hpending hnil
              · exact hnot hunique
              · exact hmany hfew

/-- One new object, whose key is taken at the first try. -/
theorem commit_returns_without_work :
    ∃ s : OrmSession ℕ Unit, ∃ after,
      commit (fun _ _ => 0)
          (fun retries => if retries = 0 then .integrityError uniqueConstraintFailed else .success) 3 s
        = .ok () after ∧ ¬ AllPersisted s after := by
  let row : OrmInstance Unit := ⟨some (.uuid 0), ()⟩
  let s : OrmSession ℕ Unit :=
    { database := fun _ => none
      changes := [.new 0 row]
      identities := List.pairwise_singleton _ _
      pending := fun change h => by
        rw [List.mem_singleton.mp h]
        rfl }
  refine ⟨s, s.rollback, rfl, ?_⟩
  intro hall
  have hpersisted := hall _ (List.mem_singleton_self _)
  cases hpersisted

end Commit

end OrmSession

end InquestsApi
