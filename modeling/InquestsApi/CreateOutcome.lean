import InquestsApi.AutoApproval
import InquestsApi.ClaimLifecycle
import InquestsApi.ClaimSubmission

/-! What the end of a create request says of the database: whether it raises, and what it
returns, against what it has committed, whatever port fails in it. -/
namespace InquestsApi

open UnitOfWork ClaimRepository HistoryEventRepository

/-- The reasons stored with the decisions of a claim. -/
def Store.rejectionReasonsOf (s : Store) (claimId : ℕ) : List ReasonCode :=
  (s.decisionsOf claimId).flatMap fun d => (s.reasonsOf d.claimDecisionId).map (·.reasonCode)

/-- The state has the claim of a request on top, with the status and the reasons of its result. -/
def Reports (db : Store) (result : CreateClaimResult) (s : Store) : Prop :=
  ∃ c, s.claims = db.claims ++ [c] ∧ c.claimId = result.claim.claimId
    ∧ c.statusId = result.claim.statusId
    ∧ s.rejectionReasonsOf c.claimId = result.rejectionReasons.getD []

/-- A request that raises has committed no claim; one that returns has committed its claim,
with the status and the reasons that it returns. -/
def Honest (db : Store) :
    EStateM.Result (Raised ApiError) (Session Store Notification OrmObject) CreateClaimResult → Prop
  | .error _ session => session.committed.claims = db.claims
  | .ok result session => Reports db result session.committed

/-- The earliest date of a profit-cost claim lies beyond the last year of the calendar. -/
def LeavesCalendar (command : CreateClaimCommand) (application : Application) : Prop :=
  command.poaType = some .profitCost
    ∧ ∃ start, application.proceeding.certificateStartDate = some start
      ∧ maxYear < start.year + (start.month - 1 + minMonthsBeforeProfitCostPoa) / 12

section Stages

variable {env : Env} {faults : Faults} {command : CreateClaimCommand} {prepared : PreparedClaim}
variable {db : Store} {claim : Claim} {s : Session Store Notification OrmObject}

/-- A submittable claim is submitted, and its row is then loaded again. -/
theorem submit_of_submittable (hkeys : SchemaKeys db)
    (h : Submittable env faults command prepared db) :
    ∃ claim s, CreateClaim.submit env faults command prepared (.start db) = .ok claim s
      ∧ s.loaded .claim = true := by
  obtain ⟨⟨claim, t, hbody⟩, hcommit⟩ := (submitClaim_isOk_iff hkeys).mpr h
  have hstage : Uow.inTransaction (CreateClaim.submitClaim env faults command prepared)
      (commitFault faults .submission) (.start db : Session Store Notification OrmObject)
      = .ok claim ⟨t.store, t.store, t.outbox, true, fun _ => false, [t.store]⟩ :=
    Uow.inTransaction_ok.mpr ⟨rfl, commitFault_eq_none.mpr hcommit, t, hbody, rfl⟩
  refine ⟨claim, ⟨t.store, t.store, t.outbox, true, fun o => o = .claim ∨ false, [t.store]⟩, ?_, rfl⟩
  refine tryCatch_ok.mpr (.inl ?_)
  rw [bind_eq_of_ok hstage]
  rfl

/-- Whatever is submitted was submittable, and its row is then loaded again. -/
theorem submit_ok (h : CreateClaim.submit env faults command prepared (.start db) = .ok claim s) :
    Submittable env faults command prepared db ∧ s.loaded .claim = true := by
  have hbody := (Uow.tryCatch_refuses_ok Uow.rollback_then_throw_refuses).mp h
  obtain ⟨row, s₁, hstage, hbody⟩ := bind_ok.mp hbody
  obtain ⟨-, hcommit, t, hsubmit, rfl⟩ := Uow.inTransaction_ok.mp hstage
  refine ⟨submittable_of_ok hsubmit (commitFault_eq_none.mp hcommit), ?_⟩
  obtain ⟨_, s₂, hread, hend⟩ := bind_ok.mp hbody
  obtain ⟨-, rfl⟩ := pure_ok.mp hend
  cases hread
  rfl

/-- A request that raises at its submission has left the database as it was. -/
theorem submit_error {e : Raised ApiError}
    (h : CreateClaim.submit env faults command prepared (.start db) = .error e s) :
    s.committed = db := by
  obtain ⟨e', s', herror, hhandler⟩ := tryCatch_error.mp h
  have hrestored := ((Uow.rollback_then_throw_restores e' fun _ => True) s').2 e s hhandler
  rcases bind_error.mp herror with herror | ⟨claim, s₁, hstage, hread⟩
  · exact hrestored.1.trans (Uow.inTransaction_atomic _ _ _ herror).1
  · -- the row can be loaded again after the commit
    obtain ⟨-, -, t, -, rfl⟩ := Uow.inTransaction_ok.mp hstage
    rcases bind_error.mp hread with hread | ⟨_, _, -, hpure⟩ <;> contradiction

/-- Any other claim is not, and the request raises. -/
theorem submit_of_not_submittable (h : ¬ Submittable env faults command prepared db) :
    ∃ e s, CreateClaim.submit env faults command prepared (.start db) = .error e s
      ∧ s.committed = db := by
  cases hresult : CreateClaim.submit env faults command prepared (.start db) with
  | ok claim s => exact absurd (submit_ok hresult).1 h
  | error e s => exact ⟨e, s, rfl, submit_error hresult⟩

theorem confirmSubmission_fault {t t' : Txn Store Notification} {e : Failure ApiError}
    (hport : faults (.createHistoryEvent .claimSubmissionConfirmation) ≠ some .flush)
    (h : CreateClaim.confirmSubmission env faults prepared claim t = .error e t') :
    e.fault = .raised := by
  unfold CreateClaim.confirmSubmission at h
  rcases bind_error.mp h with h | ⟨_, _, -, h⟩
  · rcases bind_error.mp h with h | ⟨_, _, -, h⟩
    · obtain ⟨_, -, rfl, -⟩ := Tx.check_error.mp h
      rfl
    · obtain ⟨-, ⟨fault, hfault, rfl⟩ | ⟨-, c, hc, -⟩⟩ := Tx.flush_error.mp h
      · cases fault with
        | raised => rfl
        | flush => exact absurd hfault hport
      · cases hc
  · rcases bind_error.mp h with h | ⟨_, _, -, h⟩
    · obtain ⟨-, rfl, -⟩ := Tx.callOut_error.mp h
      rfl
    · obtain ⟨-, rfl, -⟩ := Tx.send_error.mp h
      rfl

/-- The event of the confirmation fails in the flush, and the confirmation with it. -/
theorem confirmSubmission_of_flush (t : Txn Store Notification)
    (hport : faults (.createHistoryEvent .claimSubmissionConfirmation) = some .flush) :
    ∃ e, CreateClaim.confirmSubmission env faults prepared claim t = .error ⟨e, .flush⟩ t := by
  refine ⟨.portFailure (.createHistoryEvent .claimSubmissionConfirmation), ?_⟩
  unfold CreateClaim.confirmSubmission
  refine bind_eq_of_error ?_
  have hactor : requireActor (CreateClaim.emailEvent .claimSubmissionConfirmation
      prepared.application).actor = .ok ActorType.system.value := by
    change requireActor (some ActorType.system.value) = .ok ActorType.system.value
    decide
  have hchecked : (Tx.check fun _ => requireActor (CreateClaim.emailEvent .claimSubmissionConfirmation
      prepared.application).actor : Transaction String) t = .ok ActorType.system.value t :=
    Tx.check_ok.mpr ⟨hactor, rfl⟩
  unfold createHistoryEvent
  rw [bind_eq_of_ok hchecked]
  exact Tx.flush_error.mpr ⟨rfl, .inl ⟨.flush, hport, rfl⟩⟩

/-- The confirmation is only tried, unless its event fails in the flush: then the handler
cannot read the claim that it logs. -/
theorem notify_isOk_iff (hclean : s.Clean) (hloaded : s.loaded .claim = true) :
    (∃ u s', CreateClaim.notify env faults prepared claim s = .ok u s')
      ↔ faults (.createHistoryEvent .claimSubmissionConfirmation) ≠ some .flush := by
  constructor
  · rintro ⟨u, s', h⟩ hport
    obtain ⟨e, hbody⟩ : ∃ e, CreateClaim.confirmSubmission env faults prepared claim
        ⟨s.working, s.outbox⟩ = .error ⟨e, .flush⟩ ⟨s.working, s.outbox⟩ :=
      confirmSubmission_of_flush _ hport
    obtain ⟨s₁, hstage, husable, hempty⟩ := Uow.inTransaction_of_flush hclean.usable hbody
    rcases tryCatch_ok.mp h with hok | ⟨e', s₂, herror, hhandler⟩
    · rw [hstage] at hok
      cases hok
    · rw [hstage] at herror
      cases herror
      obtain ⟨_, s₃, hread, -⟩ := bind_ok.mp hhandler
      rw [Uow.read_of_unusable (by rw [hempty]) husable] at hread
      cases hread
  · intro hport
    cases hresult : (Uow.inTransaction (CreateClaim.confirmSubmission env faults prepared claim)
        (commitFault faults .confirmation) : Request Unit) s with
    | ok u s' => exact ⟨u, s', tryCatch_ok.mpr (.inl hresult)⟩
    | error e s' =>
        have hkept := Uow.inTransaction_keeps_loaded
          (fun _ _ _ hfailed => confirmSubmission_fault hport hfailed) hresult
        have hread : (Uow.read .claim : Request Unit) s' = .ok () s' := by
          unfold Uow.read
          rw [hkept, hloaded, if_pos rfl]
        have hhandler : (do Uow.read .claim; Uow.rollback : Request Unit) s'
            = .ok () { s' with working := s'.committed, usable := true, loaded := fun _ => false } := by
          rw [bind_eq_of_ok hread]
          exact Uow.rollback_ok.mpr rfl
        exact ⟨(), _, tryCatch_ok.mpr (.inr ⟨e, s', hresult, hhandler⟩)⟩

theorem autoDecision_isOk {body : Transaction Unit} {stage : Stage} {decided : CreateClaimResult} :
    ∃ result s', CreateClaim.autoDecision faults claim body stage decided s = .ok result s' := by
  unfold CreateClaim.autoDecision
  cases hresult : (do
      Uow.inTransaction body (commitFault faults stage)
      pure decided : Request CreateClaimResult) s with
  | ok result s' => exact ⟨result, s', tryCatch_ok.mpr (.inl hresult)⟩
  | error e s' =>
      -- the handler rolls back first, and can then read the claim
      exact ⟨_, _, tryCatch_ok.mpr (.inr ⟨e, s', hresult, rfl⟩)⟩

theorem decide_isOk_iff : (∃ result s', CreateClaim.decide env faults prepared claim s = .ok result s')
    ↔ CreateClaim.autoOutcome env prepared ≠ none := by
  unfold CreateClaim.decide
  cases CreateClaim.autoOutcome env prepared with
  | none =>
      refine iff_of_false ?_ fun h => h rfl
      rintro ⟨result, s', h⟩
      exact absurd h throw_ok
  | some outcome =>
      refine iff_of_true ?_ (Option.some_ne_none outcome)
      cases outcome with
      | reject reasonCodes => exact autoDecision_isOk
      | approve => exact autoDecision_isOk
      | hold => exact ⟨_, s, rfl⟩

end Stages

section Calendar

variable {env : Env} {command : CreateClaimCommand} {prepared : PreparedClaim}

/-- The rules on early claims are the only ones that leave the calendar. -/
theorem autoOutcome_eq_none_iff (hpoa : prepared.validatedClaim.poaType = command.poaType) :
    CreateClaim.autoOutcome env prepared = none ↔ LeavesCalendar command prepared.application := by
  unfold CreateClaim.autoOutcome DomainClaim.shouldAutoReject
    DomainClaim.shouldAutoRejectForEarlyProfitCostPoa LeavesCalendar
  rw [Option.map_eq_none_iff, Option.map_eq_none_iff, hpoa]
  by_cases hprofit : command.poaType = some .profitCost
  · rw [if_neg (not_not.mpr hprofit)]
    cases hstart : prepared.application.proceeding.certificateStartDate with
    | none => simp
    | some start =>
        rw [Option.map_eq_none_iff, addCalendarMonths_eq_none_iff]
        constructor
        · intro hyear
          exact ⟨hprofit, start, rfl, hyear⟩
        · rintro ⟨-, _, hsame, hyear⟩
          cases hsame
          exact hyear
  · rw [if_pos hprofit]
    refine iff_of_false (Option.some_ne_none _) ?_
    rintro ⟨h, -⟩
    exact hprofit h

end Calendar

section Reported

variable {env : Env} {faults : Faults} {command : CreateClaimCommand} {prepared : PreparedClaim}
variable {claim : Claim} {db s s' : Store}

theorem Held.decisionsOf_eq_nil (h : Held command db prepared claim s) (hkeys : SchemaKeys db) :
    s.decisionsOf claim.claimId = [] := by
  rw [Store.decisionsOf, h.decisions]
  refine filter_key_eq_nil ?_
  intro d hd hsame
  have hnew : d.claimId ≠ claim.claimId := by
    rw [h.stored.claimId]
    exact nextKey_ne (hkeys.decisionOf d hd)
  exact hnew hsame

theorem Held.reports_submitted (h : Held command db prepared claim s) (hkeys : SchemaKeys db)
    (status : ClaimStatus) (hstatus : status = .submitted) :
    Reports db ⟨claim.withStatus status, none⟩ s := by
  refine ⟨claim, h.claims, rfl, ?_, ?_⟩
  · exact h.stored.status.trans hstatus.symm
  · rw [Store.rejectionReasonsOf, h.decisionsOf_eq_nil hkeys]
    rfl

/-- A decision is reported with the reasons of its verdict. -/
theorem Held.reports_decided (h : Held command db prepared claim s) (hkeys : SchemaKeys db)
    {verdict : Verdict} {rows : DecisionRows} {reasons : Option (List ReasonCode)}
    (hdecided : Decided claim.claimId verdict rows s s')
    (hreasons : verdict.reasons.map Prod.fst = reasons.getD []) :
    Reports db ⟨claim.withStatus verdict.status, reasons⟩ s' := by
  have hreasonOf : ∀ r ∈ s.decisionReasons,
      r.claimDecisionId ∈ s.claimDecisions.map (·.claimDecisionId) := by
    rw [h.reasons, h.decisions]
    exact hkeys.reasonOf
  have hcodes : rows.reasons.map (·.reasonCode) = verdict.reasons.map Prod.fst := by
    rw [← hdecided.record.reasons, List.map_map]
    rfl
  refine ⟨claim.withStatus verdict.status, ?_, rfl, rfl, ?_⟩
  · rw [hdecided.claims]
    exact h.setClaimStatus verdict.status
  · calc s'.rejectionReasonsOf claim.claimId
        = (s'.reasonsOf rows.decision.claimDecisionId).map (·.reasonCode) := by
          rw [Store.rejectionReasonsOf, hdecided.decisionsOf_self, h.decisionsOf_eq_nil hkeys]
          exact List.append_nil _
      _ = rows.reasons.map (·.reasonCode) := by rw [hdecided.reasonsOf_self hreasonOf]
      _ = reasons.getD [] := hcodes.trans hreasons

theorem decide_reports (hkeys : SchemaKeys db) :
    Uow.Triple (fun _ _ => True) (Held command db prepared claim)
      (CreateClaim.decide env faults prepared claim) (Reports db) := by
  refine decide_of_bodies ?_ ?_ ?_ ?_
  · intro reasonCodes t u t' _ h hok
    obtain ⟨rows, hdecided⟩ := autoRejectClaim_ok hok
    refine ⟨trivial, h.reports_decided hkeys hdecided ?_⟩
    rw [Verdict.reasons, List.map_map]
    exact List.map_id _
  · intro t u t' _ h hok
    obtain ⟨lines, rows, -, hdecided⟩ := autoApproveClaim_ok hok
    exact ⟨trivial, h.reports_decided hkeys hdecided rfl⟩
  · exact fun s h => h.reports_submitted hkeys .submitted rfl
  · exact fun s h => h.reports_submitted hkeys claim.statusId h.stored.status

end Reported

section Execution

variable {env : Env} {faults : Faults} {command : CreateClaimCommand} {prepared : PreparedClaim}
variable {db : Store} {claim : Claim}
variable {s s' : Session Store Notification OrmObject}

theorem claims_of_steps {a b : Store}
    (h : Relation.ReflTransGen (fun s s' : Store => s'.claims = s.claims) a b) :
    b.claims = a.claims := by
  induction h with
  | refl => rfl
  | tail _ hlast ih => exact hlast.trans ih

/-- A confirmation leaves the claim of the request standing, however it ends. -/
theorem notify_held : Uow.Triple (fun s s' => s'.claims = s.claims) (Held command db prepared claim)
    (CreateClaim.notify env faults prepared claim) (fun _ s => Held command db prepared claim s) := by
  refine notify_triple ?_
  intro s s' hnoted hheld
  refine ⟨?_, hheld.note hnoted⟩
  obtain ⟨events, rfl⟩ := hnoted
  rfl

/-- Once the claim is committed, the request is honest exactly when it does not raise. -/
theorem honest_of_submitted (hkeys : SchemaKeys db)
    (hpoa : prepared.validatedClaim.poaType = command.poaType) (hclean : s.Clean)
    (hheld : Held command db prepared claim s.committed) (hloaded : s.loaded .claim = true) :
    Honest db ((do
        CreateClaim.notify env faults prepared claim
        CreateClaim.decide env faults prepared claim : Request CreateClaimResult) s)
      ↔ faults (.createHistoryEvent .claimSubmissionConfirmation) ≠ some .flush
        ∧ ¬ LeavesCalendar command prepared.application := by
  have hraised : ∀ s' : Session Store Notification OrmObject,
      s'.committed.claims = db.claims ++ [claim] → s'.committed.claims ≠ db.claims := by
    intro s' hclaims heq
    have hlength := congrArg List.length (hclaims.symm.trans heq)
    simp at hlength
  by_cases hport : faults (.createHistoryEvent .claimSubmissionConfirmation) = some .flush
  · refine iff_of_false ?_ fun h => h.1 hport
    cases hnotify : CreateClaim.notify env faults prepared claim s with
    | ok u s' => exact absurd hport ((notify_isOk_iff hclean hloaded).mp ⟨u, s', hnotify⟩)
    | error e s' =>
        rw [bind_eq_of_error hnotify]
        have hkept := claims_of_steps ((notify_held s hclean hheld).2 e s' hnotify).committed
        exact hraised s' (hkept.trans hheld.claims)
  · obtain ⟨u, s', hnotify⟩ : ∃ u s', CreateClaim.notify env faults prepared claim s = .ok u s' :=
      (notify_isOk_iff hclean hloaded).mpr hport
    obtain ⟨hclean', -, hheld'⟩ := (notify_held s hclean hheld).1 u s' hnotify
    rw [bind_eq_of_ok hnotify]
    by_cases hcalendar : LeavesCalendar command prepared.application
    · refine iff_of_false ?_ fun h => h.2 hcalendar
      unfold CreateClaim.decide
      rw [(autoOutcome_eq_none_iff hpoa).mpr hcalendar]
      exact hraised s' hheld'.claims
    · refine iff_of_true ?_ ⟨hport, hcalendar⟩
      have hsome : CreateClaim.autoOutcome env prepared ≠ none :=
        fun hnone => hcalendar ((autoOutcome_eq_none_iff hpoa).mp hnone)
      obtain ⟨result, s'', hdecide⟩ : ∃ result s'',
          CreateClaim.decide env faults prepared claim s' = .ok result s'' := decide_isOk_iff.mpr hsome
      rw [hdecide]
      exact ((decide_reports hkeys s' hclean' hheld').1 result s'' hdecide).2.2

end Execution

/-- A request is honest unless its claim is committed and then either the event of the
confirmation fails in the flush, or the early-claim rule leaves the calendar. -/
theorem create_outcome_honest_iff (env : Env) (faults : Faults) (command : CreateClaimCommand)
    (db : Store) (hkeys : SchemaKeys db) :
    Honest db (CreateClaim.execute env faults command (.start db)) ↔
      ¬ ∃ prepared, CreateClaim.prepare command db = .ok prepared
        ∧ Submittable env faults command prepared db
        ∧ (faults (.createHistoryEvent .claimSubmissionConfirmation) = some .flush
          ∨ LeavesCalendar command prepared.application) := by
  cases hprepare : CreateClaim.prepare command db with
  | error e =>
      refine iff_of_true ?_ ?_
      · rw [execute_of_error hprepare]
        rfl
      · rintro ⟨_, hok, -⟩
        cases hok
  | ok prepared =>
      rw [execute_of_ok hprepare]
      by_cases hsubmittable : Submittable env faults command prepared db
      · obtain ⟨claim, s, hsubmit, hloaded⟩ := submit_of_submittable hkeys hsubmittable
        obtain ⟨hclean, -, hheld⟩ :=
          (submit_held _ (Session.start_clean db) ⟨hprepare, rfl⟩).1 claim s hsubmit
        rw [bind_eq_of_ok hsubmit,
          honest_of_submitted hkeys (prepare_poaType hprepare).1 hclean hheld hloaded, ← not_or]
        refine not_congr ?_
        constructor
        · intro h
          exact ⟨prepared, rfl, hsubmittable, h⟩
        · rintro ⟨_, hsame, -, h⟩
          cases hsame
          exact h
      · refine iff_of_true ?_ ?_
        · obtain ⟨e, s, hsubmit, hkept⟩ := submit_of_not_submittable hsubmittable
          rw [bind_eq_of_error hsubmit]
          exact congrArg Store.claims hkept
        · rintro ⟨_, hsame, hsubmitted, -⟩
          cases hsame
          exact hsubmittable hsubmitted

/-- An approval whose status cannot be written returns the claim as submitted. -/
theorem create_outcome_honest_failedApproval :
    Honest Sample.store (CreateClaim.execute Sample.env
      (fun call => if call = .updateClaimStatus then some .flush else none)
      (Sample.poaCommand .expertCost none (some 120) (some 20)) (.start Sample.store)) := by
  refine (create_outcome_honest_iff _ _ _ _ (Store.schemaKeys_initial _ _ _)).mpr ?_
  rintro ⟨prepared, -, -, hflush | ⟨hpoa, -⟩⟩
  · cases hflush
  · cases hpoa

/-- The event of the confirmation fails in the flush: the request raises over its committed claim. -/
theorem create_raises_over_committed_claim :
    ∃ session, CreateClaim.execute Sample.env
        (fun call =>
          if call = .createHistoryEvent .claimSubmissionConfirmation then some .flush else none)
        (Sample.poaCommand .expertCost none (some 120) (some 20)) (.start Sample.store)
        = .error .pendingRollback session
      ∧ session.committed.claims.map (·.statusId) = [.submitted]
      ∧ SchemaKeys Sample.store
      ∧ ¬ Honest Sample.store (.error .pendingRollback session) := by
  have hrun : endsError (CreateClaim.execute Sample.env
      (fun call =>
        if call = .createHistoryEvent .claimSubmissionConfirmation then some .flush else none)
      (Sample.poaCommand .expertCost none (some 120) (some 20)) (.start Sample.store))
      (fun e session => (e matches .pendingRollback)
        && session.committed.claims.map (·.statusId) = [.submitted]) = true := by
    decide +kernel
  obtain ⟨e, session, hresult, htest⟩ := exists_of_endsError hrun
  obtain ⟨he, hstatus⟩ := Bool.and_eq_true_iff.mp htest
  cases e with
  | call e => cases he
  | pendingRollback =>
      refine ⟨session, hresult, of_decide_eq_true hstatus, Store.schemaKeys_initial _ _ _, ?_⟩
      intro hkept
      have hclaims : session.committed.claims = [] := hkept
      rw [hclaims] at hstatus
      cases hstatus

end InquestsApi
