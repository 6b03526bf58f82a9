import InquestsApi.ConcurrentRequests

/-! A request that nothing else runs beside: its phases, taken one after another, commit
what its use case commits. -/
namespace InquestsApi

open UnitOfWork Interleaving ClaimRequest

/-- No row is locked. -/
def unlocked (s : Store) : Database := ⟨s, fun _ => none⟩

theorem unlock_lock (s : Store) (claimId request : ℕ) (s' : Store) :
    ({ (unlocked s).lock claimId request with store := s' } : Database).unlock claimId = unlocked s' := by
  simp only [Database.unlock, Database.lock, unlocked, Function.update_idem, Function.update_eq_self]

section Create

variable {env : Env} {faults : Faults} {command : CreateClaimCommand} {prepared : PreparedClaim}
variable {claim : Claim} {db : Store} {s : Session Store Notification OrmObject}

/-- A session between its transactions does not change when its next one starts. -/
theorem next_of_clean (h : s.Clean) : s.next s.committed = s := by
  obtain ⟨committed, working, outbox, usable, loaded, trail⟩ := s
  obtain rfl : working = committed := h.working
  rfl

theorem submit_clean (h : CreateClaim.submit env faults command prepared (.start db) = .ok claim s) :
    s.Clean := by
  have htriple : Uow.Triple (fun _ _ => True) (fun _ => True)
      (CreateClaim.submit env faults command prepared) (fun _ _ => True) :=
    submit_triple fun _ _ _ _ _ => ⟨trivial, trivial⟩
  exact ((htriple _ (Session.start_clean db) trivial).1 claim s h).1

theorem notify_clean {s' : Session Store Notification OrmObject} {u : Unit} (hs : s.Clean)
    (h : CreateClaim.notify env faults prepared claim s = .ok u s') : s'.Clean := by
  have htriple : Uow.Triple (fun _ _ => True) (fun _ => True)
      (CreateClaim.notify env faults prepared claim) (fun _ _ => True) :=
    notify_triple fun _ _ _ _ => ⟨trivial, trivial⟩
  exact ((htriple s hs trivial).1 u s' h).1

variable {requests : ℕ → Submission} {i : ℕ}

/-- The second decision of a request: with no row locked it does not wait. -/
theorem decide_alone (hrequest : requests i = ⟨.create command, env, faults⟩) (hs : s.Clean) :
    Solo (program requests) i (.confirmed prepared claim s) (unlocked s.committed) .done
      (unlocked (endState (CreateClaim.decide env faults prepared claim s)).committed) := by
  refine .act ?_ .stop
  simp only [program, hrequest, decideStep, unlocked, next_of_clean hs]
  rfl

theorem notify_alone (hrequest : requests i = ⟨.create command, env, faults⟩) (hs : s.Clean) :
    Solo (program requests) i (.submitted prepared claim s) (unlocked s.committed) .done
      (unlocked (endState ((do
        CreateClaim.notify env faults prepared claim
        CreateClaim.decide env faults prepared claim : Request CreateClaimResult) s)).committed) := by
  cases hnotify : CreateClaim.notify env faults prepared claim s with
  | error e s' =>
      rw [bind_eq_of_error hnotify]
      refine .act ?_ .stop
      simp only [program, hrequest, notifyStep, unlocked, next_of_clean hs, hnotify]
      rfl
  | ok u s' =>
      rw [bind_eq_of_ok hnotify]
      refine .act ?_ (decide_alone hrequest (notify_clean hs hnotify))
      simp only [program, hrequest, notifyStep, unlocked, next_of_clean hs, hnotify]

theorem create_alone (hrequest : requests i = ⟨.create command, env, faults⟩) :
    Solo (program requests) i .start (unlocked db) .done (unlocked ((requests i).after db)) := by
  have hafter : (requests i).after db
      = (endState (CreateClaim.execute env faults command (.start db))).committed := by
    rw [hrequest]
    rfl
  rw [hafter]
  cases hprepare : CreateClaim.prepare command db with
  | error e =>
      rw [execute_of_error hprepare]
      refine .act ?_ .stop
      simp only [program, hrequest, readStep, unlocked, hprepare]
      rfl
  | ok prepared =>
      rw [execute_of_ok hprepare]
      have hread : program requests i .start (unlocked db) = some (.prepared prepared, unlocked db) := by
        simp only [program, hrequest, readStep, unlocked, hprepare]
      cases hsubmit : CreateClaim.submit env faults command prepared (.start db) with
      | error e s =>
          rw [bind_eq_of_error hsubmit]
          refine .act hread (.act ?_ .stop)
          simp only [program, hrequest, submitStep, unlocked, hsubmit]
          rfl
      | ok claim s =>
          rw [bind_eq_of_ok hsubmit]
          refine .act hread (.act ?_ (notify_alone hrequest (submit_clean hsubmit)))
          simp only [program, hrequest, submitStep, unlocked, hsubmit]

end Create

section Assess

variable {requests : ℕ → Submission} {i : ℕ} {env : Env} {faults : Faults} {db : Store}
variable {laaReference claimReference : String} {α : Type}
variable {body : Application → Claim → Transaction α}

/-- What a caseworker's decision commits, with its claim read in the transaction. -/
def assessed (faults : Faults) (laaReference claimReference : String)
    (body : Application → Claim → Transaction α) (db : Store) : Store :=
  match findDecidedApplication laaReference db with
  | .error _ => db
  | .ok application =>
    (endState ((Uow.inTransaction
      (do
        let claim ← Tx.check (claimForAssessment claimReference application.applicationId)
        body application claim)
      (commitFault faults .assessment) : Request α) (.start db))).committed

/-- With no row locked, the read does not wait, and the lock is gone at the end. -/
theorem assess_alone
    (hread : ∀ g, program requests i .start g = lockStep g i laaReference claimReference)
    (hassess : ∀ application claim g, program requests i (.locked application claim) g
      = some (assessStep faults claim g (body application claim))) :
    Solo (program requests) i .start (unlocked db) .done
      (unlocked (assessed faults laaReference claimReference body db)) := by
  unfold assessed
  cases happlication : findDecidedApplication laaReference db with
  | error e =>
      refine .act ?_ .stop
      simp only [hread, lockStep, unlocked, happlication]
  | ok application =>
      cases hclaim : claimForAssessment claimReference application.applicationId db with
      | error e =>
          have hnothing : (endState ((Uow.inTransaction
              (do
                let claim ← Tx.check (claimForAssessment claimReference application.applicationId)
                body application claim)
              (commitFault faults .assessment) : Request α) (.start db))).committed = db := by
            apply Uow.inTransaction_committed_of_failure
            intro a t hbody
            obtain ⟨claim, _, hcheck, -⟩ := bind_ok.mp hbody
            have hfound := (Tx.check_ok.mp hcheck).1
            cases hclaim.symm.trans hfound
          refine .act ?_ .stop
          simp only [hread, lockStep, unlocked, happlication, hclaim, hnothing]
      | ok claim =>
          have hlock : program requests i .start (unlocked db)
              = some (.locked application claim, (unlocked db).lock claim.claimId i) := by
            simp only [hread, lockStep, unlocked, happlication, hclaim]
            rfl
          have hstep : program requests i (.locked application claim) ((unlocked db).lock claim.claimId i)
              = some (.done, unlocked (endState ((Uow.inTransaction
                (do
                  let claim ← Tx.check (claimForAssessment claimReference application.applicationId)
                  body application claim)
                (commitFault faults .assessment) : Request α) (.start db))).committed) := by
            rw [hassess, Uow.inTransaction_check hclaim]
            exact congrArg (fun g => some (Phase.done, g)) (unlock_lock db claim.claimId i _)
          exact .act hlock (.act hstep .stop)

theorem pay_alone {command : PayInFullClaimCommand}
    (hrequest : requests i = ⟨.payInFull command, env, faults⟩) :
    Solo (program requests) i .start (unlocked db) .done (unlocked ((requests i).after db)) := by
  have hafter : (requests i).after db = assessed faults command.laaReference command.claimReference
      (PayInFullClaimUseCase.payAssessedClaim env faults command) db := by
    rw [hrequest]
    unfold assessed Submission.after Submission.session PayInFullClaimUseCase.execute
    cases hfound : findDecidedApplication command.laaReference db with
    | error e =>
        simp only [bind_eq_of_error (Uow.transact_check_of_error hfound)]
        rfl
    | ok application =>
        simp only [bind_eq_of_ok (Uow.transact_check_of_ok hfound)]
        exact Uow.rethrow_committed
  rw [hafter]
  apply assess_alone
  · intro g
    simp only [program, hrequest]
  · intro application claim g
    simp only [program, hrequest]

theorem reject_alone {command : RejectClaimCommand}
    (hrequest : requests i = ⟨.reject command, env, faults⟩) :
    Solo (program requests) i .start (unlocked db) .done (unlocked ((requests i).after db)) := by
  have hafter : (requests i).after db = assessed faults command.laaReference command.claimReference
      (RejectClaimUseCase.rejectAssessedClaim env faults command) db := by
    rw [hrequest]
    unfold assessed Submission.after Submission.session RejectClaimUseCase.execute
    cases hfound : findDecidedApplication command.laaReference db with
    | error e =>
        simp only [bind_eq_of_error (Uow.transact_check_of_error hfound)]
        rfl
    | ok application =>
        simp only [bind_eq_of_ok (Uow.transact_check_of_ok hfound)]
        let decided : Request Claim := Uow.inTransaction
          (RejectClaimUseCase.rejectClaim env faults command application) (commitFault faults .assessment)
        have hdecided : (endState (Uow.orRollback decided (.start db))).committed
            = (endState (decided (.start db))).committed := Uow.rethrow_committed
        -- The message that follows the commit is only tried.
        cases hend : Uow.orRollback decided (.start db) with
        | ok claim s =>
            rw [hend] at hdecided
            rw [bind_eq_of_ok hend]
            exact Uow.attempt_committed.trans hdecided
        | error e s =>
            rw [hend] at hdecided
            rw [bind_eq_of_error hend]
            exact hdecided
  rw [hafter]
  apply assess_alone
  · intro g
    simp only [program, hrequest]
  · intro application claim g
    simp only [program, hrequest]

end Assess

section InTurn

variable {requests : ℕ → Submission} {i : ℕ} {db : Store}

theorem request_alone :
    Solo (program requests) i .start (unlocked db) .done (unlocked ((requests i).after db)) := by
  cases hrequest : requests i with
  | mk request env faults =>
      rw [← hrequest]
      cases request with
      | create command => exact create_alone hrequest
      | payInFull command => exact pay_alone hrequest
      | reject command => exact reject_alone hrequest

/-- Requests made one after another are one of the ways in which they can interleave. -/
theorem run_inTurn {order : List ℕ} (hdistinct : order.Nodup) {s : System ℕ Phase Database}
    (hidle : ∀ i ∈ order, s.locals i = .start) (hunlocked : s.shared = unlocked db) :
    ∃ s', Run (program requests) anyStep s s'
      ∧ s'.shared = unlocked (afterAll db (order.map requests)) := by
  induction order generalizing s db with
  | nil => exact ⟨s, .refl, hunlocked⟩
  | cons i rest ih =>
      obtain ⟨hfresh, hrest⟩ := List.nodup_cons.mp hdistinct
      have halone : Solo (program requests) i .start (unlocked db) .done
          (unlocked ((requests i).after db)) := request_alone
      have hfirst := halone.run (hidle i List.mem_cons_self) hunlocked
      let next : System ℕ Phase Database :=
        ⟨Function.update s.locals i .done, unlocked ((requests i).after db)⟩
      have hstill : ∀ j ∈ rest, next.locals j = .start := by
        intro j hj
        have hne : j ≠ i := fun heq => hfresh (heq ▸ hj)
        simp only [next, Function.update_of_ne hne]
        exact hidle j (List.mem_cons_of_mem i hj)
      obtain ⟨s', hrun, hshared⟩ := ih (s := next) hrest hstill rfl
      exact ⟨s', hfirst.trans hrun, hshared⟩

end InTurn

end InquestsApi
