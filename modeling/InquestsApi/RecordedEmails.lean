import InquestsApi.ApprovedEmailsOnce
import InquestsApi.ClaimSubmission
import InquestsApi.Lib.Backing
import InquestsApi.Outboxes

/-! The emails about claims that the history records, against those that were accepted. An email
and its record are two effects, of which a failure may leave one. -/
namespace InquestsApi

open UnitOfWork HistoryEventRepository Backing

/-- Events that say an email about a claim was sent. -/
def HistoryEvent.isClaimEmail (event : HistoryEvent) : Bool :=
  event.eventReference matches .claimSubmissionConfirmation | .claimApprovedEmail | .claimRejectedEmail

/-- What an email is recorded as, the claim it is about, and where it goes. -/
structure ClaimEmail where
  recordedAs : HistoryEventReference
  claim : Claim
  recipient : Option String

def Notification.claimEmail : Notification → Option ClaimEmail
  | .claimSubmitConfirmation claim _ recipientEmail _ =>
    some ⟨.claimSubmissionConfirmation, claim, some recipientEmail⟩
  | .claimRejected claim _ _ recipientEmail _ => some ⟨.claimRejectedEmail, claim, recipientEmail⟩
  | .claimGranted claim _ recipientEmail _ => some ⟨.claimApprovedEmail, claim, some recipientEmail⟩
  | .claimFinalBillPaid claim _ recipientEmail _ _ =>
    some ⟨.claimFinalBillPaidEmail, claim, some recipientEmail⟩
  | _ => none

/-- The event is the record of this email: of its kind, for a claim of its application, and to the
recipient and of the claim it names, where it names one. -/
structure RecordOf (event : HistoryEvent) (email : ClaimEmail) : Prop where
  kind : email.recordedAs = event.eventReference
  application : email.claim.applicationId = event.applicationId
  recipient : ∀ address, event.data "recipient" = some (.text address) →
    email.recipient = some address
  claim : ∀ reference, event.data "claim_reference" = some (.text reference) →
    email.claim.claimReference = reference

def StandsFor (event : HistoryEvent) (m : Notification) : Prop :=
  ∃ email, m.claimEmail = some email ∧ RecordOf event email

def Store.claimEmails (s : Store) : List HistoryEvent := s.historyEvents.filter (·.isClaimEmail)

/-- Each email that the history records was accepted: in this request or before it. -/
def Accounted (log : List Notification) (t : Txn Store Notification) : Prop :=
  Backed StandsFor t.store.claimEmails (t.outbox ++ log)

section Records

variable {env : Env} {faults : Faults} {log : List Notification} {t t' : Txn Store Notification}
variable {rows : List HistoryEvent} {sent : List Notification} {row : HistoryEvent}
variable {application : Application} {claim : Claim}

/-- Emails that were accepted stay accepted, whatever becomes of the transaction. -/
theorem Accounted.grown {outbox : List Notification} (h : Accounted log t)
    (hgrows : ∃ sent, outbox = sent ++ t.outbox) : Accounted log ⟨t.store, outbox⟩ := by
  obtain ⟨sent, rfl⟩ := hgrows
  unfold Accounted
  rw [List.append_assoc]
  exact h.newer

theorem Accounted.appends (h : Accounted log t) (happends : Appends rows sent t t')
    (hrows : List.Forall₂ StandsFor (rows.filter (·.isClaimEmail)) sent) : Accounted log t' := by
  unfold Accounted Store.claimEmails
  rw [happends.rows, happends.sent, List.filter_append, List.append_assoc]
  exact h.append hrows

theorem WrittenAs.eventReference {event : NewEvent} (h : event.WrittenAs env row) :
    row.eventReference = event.eventReference := by
  obtain ⟨_, _, -, rfl⟩ := h
  rfl

theorem isClaimEmail_of_written {event : NewEvent} (h : event.WrittenAs env row) :
    row.isClaimEmail = (event.eventReference matches
      .claimSubmissionConfirmation | .claimApprovedEmail | .claimRejectedEmail) := by
  unfold HistoryEvent.isClaimEmail
  rw [WrittenAs.eventReference h]

/-- The event of an email to the provider of an application records that email. -/
theorem emailEvent_recordOf {reference : HistoryEventReference} {email : ClaimEmail}
    (h : (CreateClaim.emailEvent reference application).WrittenAs env row)
    (hkind : email.recordedAs = reference)
    (hof : email.claim.applicationId = application.applicationId)
    (hto : email.recipient = some application.provider.emailAddress) : RecordOf row email := by
  obtain ⟨_, _, -, rfl⟩ := h
  refine ⟨hkind, hof, ?_, ?_⟩
  · intro address haddress
    have hnamed : some (Json.text application.provider.emailAddress) = some (.text address) := haddress
    cases hnamed
    exact hto
  · intro claimReference hreference
    have hunnamed : (none : Option Json) = some (.text claimReference) := hreference
    cases hunnamed

end Records

section Transactions

variable {α : Type} {env : Env} {faults : Faults} {log : List Notification} {fault : Option ApiError}
variable {application : Application} {claim : Claim} {prepared : PreparedClaim}
variable {body : Transaction α} {Q : α → Prop}

/-- A transaction that sends what it records leaves the history accounted for, committed or not. -/
theorem inTransaction_accounted (hgrows : Tx.Grows body)
    (hok : ∀ t a t', body t = .ok a t' → Q a ∧ ∃ rows sent, Appends rows sent t t'
      ∧ List.Forall₂ StandsFor (rows.filter (·.isClaimEmail)) sent) :
    Uow.Ensures (Accounted log) (Uow.inTransaction body fault : Request α)
      (fun a t => Q a ∧ Accounted log t) (Accounted log) := by
  apply Uow.Ensures.inTransaction
  · intro t a t' h hbody _
    obtain ⟨hQ, rows, sent, happends, hrows⟩ := hok t a t' hbody
    exact ⟨hQ, h.appends happends hrows⟩
  · intro t h _
    exact h.grown (hgrows t)

theorem submit_accounted {command : CreateClaimCommand} : Uow.Ensures (Accounted log)
    (CreateClaim.submit env faults command prepared)
    (fun claim t => claim.applicationId = prepared.application.applicationId ∧ Accounted log t)
    (Accounted log) := by
  unfold CreateClaim.submit
  apply Uow.Ensures.orRollback
  have hstage : Uow.Ensures (Accounted log)
      (Uow.inTransaction (CreateClaim.submitClaim env faults command prepared)
        (commitFault faults .submission) : Request Claim)
      (fun claim t => claim.applicationId = prepared.application.applicationId ∧ Accounted log t)
      (Accounted log) := by
    apply inTransaction_accounted (submitClaim_silent env faults prepared command).grows
    intro t claim t' hbody
    obtain ⟨row, hwritten, happends⟩ := submitClaim_appends hbody
    refine ⟨(submitClaim_ok hbody).stored.applicationId, [row], [], happends, ?_⟩
    have hother : row.isClaimEmail = false := isClaimEmail_of_written hwritten
    rw [List.filter_cons_of_neg (by simp [hother])]
    exact .nil
  exact hstage.bind fun _ => Uow.Ensures.read.bind fun _ => .pure fun _ h => h

theorem confirmSubmission_grows : Tx.Grows (CreateClaim.confirmSubmission env faults prepared claim) :=
  (createHistoryEvent_silent env faults _).grows.bind fun _ =>
    (Tx.Silent.callOut _ _).grows.bind fun _ => .send _ _ _

theorem notify_accounted (hof : claim.applicationId = prepared.application.applicationId) :
    Uow.Ensures (Accounted log) (CreateClaim.notify env faults prepared claim)
      (fun _ => Accounted log) (Accounted log) := by
  have hstage : Uow.Ensures (Accounted log)
      (Uow.inTransaction (CreateClaim.confirmSubmission env faults prepared claim)
        (commitFault faults .confirmation) : Request Unit)
      (fun _ t => True ∧ Accounted log t) (Accounted log) := by
    apply inTransaction_accounted confirmSubmission_grows
    intro t u t' hbody
    obtain ⟨row, hwritten, happends⟩ := confirmSubmission_appends hbody
    refine ⟨trivial, _, _, happends, ?_⟩
    have hemail : row.isClaimEmail = true := isClaimEmail_of_written hwritten
    rw [List.filter_cons_of_pos hemail]
    exact .cons ⟨_, rfl, emailEvent_recordOf hwritten rfl hof rfl⟩ .nil
  unfold CreateClaim.notify
  refine (hstage.recover fun e => Uow.quiet_read_then_rollback _).weaken (fun _ h => h) ?_ fun _ h => h
  rintro u t (⟨-, h⟩ | h)
  · exact h
  · exact h

/-- An automatic decision sends nothing, and records no email. -/
theorem autoDecision_accounted {body : Transaction Unit} {stage : Stage} {decided : CreateClaimResult}
    (hsilent : Tx.Silent body)
    (hok : ∀ t u t', body t = .ok u t' →
      ∃ row, row.isClaimEmail = false ∧ Appends [row] [] t t') :
    Uow.Ensures (Accounted log) (CreateClaim.autoDecision faults claim body stage decided)
      (fun _ => Accounted log) (Accounted log) := by
  have hstage : Uow.Ensures (Accounted log)
      (Uow.inTransaction body (commitFault faults stage) : Request Unit)
      (fun _ t => True ∧ Accounted log t) (Accounted log) := by
    apply inTransaction_accounted hsilent.grows
    intro t u t' hbody
    obtain ⟨row, hother, happends⟩ := hok t u t' hbody
    refine ⟨trivial, _, _, happends, ?_⟩
    rw [List.filter_cons_of_neg (by simp [hother])]
    exact .nil
  have hdecided := hstage.bind fun _ => Uow.Ensures.pure (a := decided) (Q := fun _ => Accounted log)
    fun _ h => h.2
  unfold CreateClaim.autoDecision
  refine (hdecided.recover fun e => Uow.quiet_rollback_then_read _ _).weaken (fun _ h => h) ?_
    fun _ h => h
  rintro result t (h | h)
  · exact h
  · exact h

theorem decide_accounted : Uow.Ensures (Accounted log) (CreateClaim.decide env faults prepared claim)
    (fun _ => Accounted log) (Accounted log) := by
  unfold CreateClaim.decide
  cases CreateClaim.autoOutcome env prepared with
  | none => exact .throw fun _ h => h
  | some outcome =>
      cases outcome with
      | reject reasonCodes =>
          apply autoDecision_accounted (autoRejectClaim_silent env faults claim prepared reasonCodes)
          intro t u t' hbody
          obtain ⟨row, hwritten, happends⟩ := autoRejectClaim_appends hbody
          exact ⟨row, isClaimEmail_of_written hwritten, happends⟩
      | approve =>
          apply autoDecision_accounted (autoApproveClaim_silent env faults claim prepared)
          intro t u t' hbody
          obtain ⟨row, hwritten, happends⟩ := autoApproveClaim_appends hbody
          exact ⟨row, isClaimEmail_of_written hwritten, happends⟩
      | hold => exact .pure fun _ h => h

theorem create_accounted {command : CreateClaimCommand} : Uow.Ensures (Accounted log)
    (CreateClaim.execute env faults command) (fun _ => Accounted log) (Accounted log) := by
  unfold CreateClaim.execute
  refine Uow.Ensures.bind (.check fun _ h => h) fun prepared => ?_
  have hsubmit : Uow.Ensures (Accounted log) (CreateClaim.submit env faults command prepared)
      (fun claim t => claim.applicationId = prepared.application.applicationId ∧ Accounted log t)
      (Accounted log) := submit_accounted
  refine Uow.Ensures.bind (hsubmit.weaken (fun _ h => h.2) (fun _ _ h => h) fun _ h => h) fun claim => ?_
  apply Uow.Ensures.given
  intro hof
  exact (notify_accounted hof).bind fun _ => decide_accounted

theorem payClaim_grows {command : PayInFullClaimCommand} :
    Tx.Grows (PayInFullClaimUseCase.payClaim env faults command application) := by
  refine (Tx.Silent.check _).grows.bind fun c => ?_
  refine (Tx.Silent.check _).grows.bind fun _ => ?_
  refine (portWrite_silent faults _ _).grows.bind fun _ => ?_
  refine (portWrite_silent faults _ _).grows.bind fun _ => ?_
  refine (updateClaimStatus_silent faults _ _).grows.bind fun _ => ?_
  refine (createPaymentExtractLines_silent env faults _ _ _ _).grows.bind fun _ => ?_
  refine (createHistoryEvent_silent env faults _).grows.bind fun _ => ?_
  refine (Tx.Silent.callOut _ _).grows.bind fun _ => ?_
  exact (Tx.Grows.send _ _ _).bind fun _ => (createHistoryEvent_silent env faults _).grows

/-- The email of a payment is of the kind that its event records, and goes where it says. -/
theorem payInFullDecisionMail_claimEmail {command : PayInFullClaimCommand} :
    (payInFullDecisionMail env command application claim).claimEmail
      = some ⟨.claimApprovedEmail, claim.withStatus .payInFull,
          some application.provider.emailAddress⟩ := by
  unfold payInFullDecisionMail
  by_cases hpoa : claim.claimTypeId = .paymentOnAccount
  · simp [hpoa, Notification.claimEmail]
  · simp [hpoa, Notification.claimEmail, HistoryEventReference.claimFinalBillPaidEmail]

theorem payment_accounted {command : PayInFullClaimCommand} : Uow.Ensures (Accounted log)
    (PayInFullClaimUseCase.execute env faults command) (fun _ => Accounted log) (Accounted log) := by
  unfold PayInFullClaimUseCase.execute
  refine Uow.Ensures.bind (.check fun _ h => h) fun application => ?_
  have hstage : Uow.Ensures (Accounted log)
      (Uow.inTransaction (PayInFullClaimUseCase.payClaim env faults command application)
        (commitFault faults .assessment) : Request Unit)
      (fun _ t => True ∧ Accounted log t) (Accounted log) := by
    apply inTransaction_accounted payClaim_grows
    intro t u t' hbody
    obtain ⟨c, assessed, emailed, hc, hassessed, hemailed, happends⟩ := payClaim_appends hbody
    refine ⟨trivial, _, _, happends, ?_⟩
    have hother : assessed.isClaimEmail = false := isClaimEmail_of_written hassessed
    have hemail : emailed.isClaimEmail = true := isClaimEmail_of_written hemailed
    rw [List.filter_cons_of_neg (by simp [hother]), List.filter_cons_of_pos hemail]
    refine .cons ⟨_, payInFullDecisionMail_claimEmail, ?_⟩ .nil
    exact emailEvent_recordOf hemailed rfl (claimForAssessment_ok hc).2.1 rfl
  refine Uow.Ensures.refuse ?_ fun e => Uow.rollback_then_throw_refuses _
  exact hstage.weaken (fun _ h => h.2) (fun _ _ h => h.2) fun _ h => h

end Transactions

/-- The calls of a rejection up to its commit go through. -/
structure RejectionCommits (env : Env) (faults : Faults) : Prop where
  actor : ∃ actor, requireActor env.user.name = .ok actor
  decision : faults .createClaimDecision = none
  reason : faults (.createDecisionReason 0) = none
  status : faults .updateClaimStatus = none
  assessed : faults (.createHistoryEvent .claimAssessmentCompleted) = none
  emailed : faults (.createHistoryEvent .claimRejectedEmail) = none
  commit : faults (.commit .assessment) = none

/-- Where a rejection is committed, its email goes out after it, and to the provider. -/
def TellsProvider (env : Env) (faults : Faults) (command : RejectClaimCommand) (db : Store) : Prop :=
  ∀ application claim, findDecidedApplication command.laaReference db = .ok application →
    claimForAssessment command.claimReference application.applicationId db = .ok claim →
    RejectionCommits env faults →
      faults .getFirmName = none ∧ faults .sendNotification = none
        ∧ claim.claimantId = some application.provider.emailAddress

section Rejections

open RejectClaimUseCase

variable {env : Env} {faults : Faults} {command : RejectClaimCommand} {application : Application}
variable {claim : Claim} {log : List Notification} {t t' : Txn Store Notification} {db : Store}

def rejectionEmail (env : Env) (command : RejectClaimCommand) (application : Application)
    (claim : Claim) : Notification :=
  .claimRejected claim application.laaReference command.justification claim.claimantId
    (env.firmName application.provider.firmCode)

theorem rejectionCommits_of_ok (h : rejectClaim env faults command application t = .ok claim t')
    (hcommit : commitFault faults .assessment = none) : RejectionCommits env faults := by
  simp only [rejectClaim, rejectAssessedClaim, bind_ok, createClaimDecision_ok,
    createDecisionReason_ok, updateClaimStatus_ok, createHistoryEvent_ok] at h
  obtain ⟨_, _, -, _, _, ⟨hdecision, -⟩, _, _, ⟨hreason, -⟩, _, _, ⟨-, hstatus, -⟩, _, _,
    ⟨actor, hactor, hassessed, -⟩, _, _, ⟨_, -, hemailed, -⟩, -⟩ := h
  exact ⟨⟨actor, hactor⟩, hdecision, hreason, hstatus, hassessed, hemailed,
    commitFault_eq_none.mp hcommit⟩

/-- A rejection that is told to the provider is committed with the record of its email. -/
theorem rejectClaim_accounted (hdb : Accounted log ⟨db, []⟩)
    (hfound : findDecidedApplication command.laaReference db = .ok application)
    (htells : TellsProvider env faults command db)
    (h : rejectClaim env faults command application ⟨db, []⟩ = .ok claim t')
    (hcommit : commitFault faults .assessment = none) :
    faults .getFirmName = none ∧ faults .sendNotification = none
      ∧ Accounted log ⟨t'.store, rejectionEmail env command application claim :: t'.outbox⟩ := by
  obtain ⟨c, assessed, emailed, hc, hassessed, hemailed, happends⟩ := rejectClaim_appends h
  obtain ⟨c', _, hc', hclaim, -⟩ := rejectClaim_ok h
  cases hc.symm.trans hc'
  obtain ⟨hfirm, hsend, hclaimant⟩ :=
    htells application c hfound hc (rejectionCommits_of_ok h hcommit)
  have hsent : Appends [assessed, emailed] [rejectionEmail env command application claim] ⟨db, []⟩
      ⟨t'.store, rejectionEmail env command application claim :: t'.outbox⟩ := by
    refine ⟨happends.rows, ?_⟩
    rw [happends.sent]
    rfl
  refine ⟨hfirm, hsend, hdb.appends hsent ?_⟩
  have hother : assessed.isClaimEmail = false := isClaimEmail_of_written hassessed
  have hemail : emailed.isClaimEmail = true := isClaimEmail_of_written hemailed
  rw [List.filter_cons_of_neg (by simp [hother]), List.filter_cons_of_pos hemail]
  refine .cons ⟨_, rfl, emailEvent_recordOf hemailed rfl ?_ ?_⟩ .nil
  · rw [hclaim]
    exact (claimForAssessment_ok hc).2.1
  · rw [hclaim]
    exact hclaimant

theorem sendRejectionEmail_sent (hfirm : faults .getFirmName = none)
    (hsend : faults .sendNotification = none) : sendRejectionEmail env faults command application claim t
      = .ok () { t with outbox := rejectionEmail env command application claim :: t.outbox } := by
  unfold sendRejectionEmail
  rw [hfirm, hsend]
  rfl

theorem rejection_accounted (hdb : Accounted log ⟨db, []⟩)
    (htells : TellsProvider env faults command db) : Uow.Ensures (fun t => t = ⟨db, []⟩)
    (RejectClaimUseCase.execute env faults command) (fun _ => Accounted log) (Accounted log) := by
  unfold RejectClaimUseCase.execute
  refine Uow.Ensures.bind (.check ?_) fun application => ?_
  · rintro t rfl
    exact hdb
  have hstage : Uow.Ensures
      (fun t => findDecidedApplication command.laaReference t.store = .ok application ∧ t = ⟨db, []⟩)
      (Uow.inTransaction (rejectClaim env faults command application)
        (commitFault faults .assessment) : Request Claim)
      (fun claim t => faults .getFirmName = none ∧ faults .sendNotification = none
        ∧ Accounted log ⟨t.store, rejectionEmail env command application claim :: t.outbox⟩)
      (Accounted log) := by
    apply Uow.Ensures.inTransaction
    · rintro t claim t' ⟨hfound, rfl⟩ hbody hcommit
      exact rejectClaim_accounted hdb hfound htells hbody hcommit
    · rintro t ⟨-, rfl⟩ -
      exact hdb.grown ((rejectClaim_silent env faults application command).grows _)
  refine Uow.Ensures.bind hstage.orRollback fun claim => ?_
  apply Uow.Ensures.unfailing
  apply Uow.Ensures.dispatch
  · intro t
    cases hbody : sendRejectionEmail env faults command application claim t with
    | ok u t' => exact sendRejectionEmail_writesNothing.1 t u t' hbody
    | error e t' => exact (sendRejectionEmail_writesNothing.2 t e t' hbody).1
  · rintro t u t' ⟨hfirm, hsend, h⟩ hbody
    cases (sendRejectionEmail_sent hfirm hsend).symm.trans hbody
    exact h
  · rintro t e t' ⟨hfirm, hsend, -⟩ hbody
    cases (sendRejectionEmail_sent hfirm hsend).symm.trans hbody

end Rejections

section Job

open SendAutoApprovedPoaClaimEmailsUseCase

variable {env : Env} {faults : Faults} {claim : Claim} {log : List Notification} {now : Datetime}
variable {db : Store} {s s' : Session Store Notification OrmObject}

/-- The job records an email only after it was accepted. -/
theorem processed_accounted (hprocessed : Processed env faults claim s s')
    (h : Accounted log s.view) : Accounted log s'.view := by
  cases hprocessed with
  | untouched hcommitted _ houtbox =>
      have hview : s'.view = s.view := by rw [Session.view, hcommitted, houtbox, Session.view]
      rw [hview]
      exact h
  | unrecorded application hcommitted _ houtbox =>
      have hview : s'.view = ⟨s.view.store, [approvedEmail env claim application] ++ s.view.outbox⟩ := by
        rw [Session.view, hcommitted, houtbox]
        rfl
      rw [hview]
      exact h.grown ⟨_, rfl⟩
  | told application t' hawaiting hbody hcommitted _ houtbox =>
      obtain ⟨row, hwritten, happends⟩ := sendApprovedEmail_appends hbody
      have hview : s'.view = t' := by rw [Session.view, hcommitted, houtbox]
      have hfound := (awaitingEmail_iff.mp hawaiting).1
      have hmatches := List.find?_some (p := fun a : Application =>
        decide (a.applicationId = claim.applicationId)) hfound
      have hof : claim.applicationId = application.applicationId := (of_decide_eq_true hmatches).symm
      have hemail : row.isClaimEmail = true := isClaimEmail_of_written hwritten
      have hstart : Accounted log ⟨s.committed, s.outbox⟩ := h
      rw [hview]
      apply hstart.appends happends
      rw [List.filter_cons_of_pos hemail]
      refine .cons ⟨_, rfl, ?_⟩ .nil
      obtain ⟨_, _, -, rfl⟩ := hwritten
      refine ⟨rfl, hof, ?_, ?_⟩
      · intro address haddress
        have hunnamed : (none : Option Json) = some (.text address) := haddress
        cases hunnamed
      · intro claimReference hreference
        have hnamed : some (Json.text claim.claimReference) = some (.text claimReference) := hreference
        cases hnamed
        rfl

theorem job_accounted (h : Accounted log ⟨db, []⟩) : Accounted log
    (endState (SendAutoApprovedPoaClaimEmailsUseCase.execute env faults now (.start db))).view :=
  execute_invariant (I := fun s => Accounted log s.view) (fun _ _ h => h)
    (fun _ _ _ _ hprocessed h => processed_accounted hprocessed h) h

end Job

/-- What the condition asks of a request. -/
def Submission.tells (r : Submission) (db : Store) : Prop :=
  match r.request with
  | .reject command => TellsProvider r.env r.faults command db
  | _ => True

/-- Runs of the claim requests and of the email job, with the emails they had accepted, the newest
first. In between, whatever records no email about a claim may change the database. -/
inductive EmailRun (admitted : Store → Submission → Prop) (init : Store) :
    Store → List Notification → Prop
  | start : EmailRun admitted init init []
  | request {db : Store} {log : List Notification} (r : Submission)
      (h : EmailRun admitted init db log) (hr : admitted db r) :
      EmailRun admitted init (r.after db) ((r.session db).outbox ++ log)
  | job {db : Store} {log : List Notification} (env : Env) (faults : Faults) (now : Datetime)
      (h : EmailRun admitted init db log) :
      EmailRun admitted init
        (endState (SendAutoApprovedPoaClaimEmailsUseCase.execute env faults now (.start db))).committed
        ((endState (SendAutoApprovedPoaClaimEmailsUseCase.execute env faults now
          (.start db))).outbox ++ log)
  | other {db db' : Store} {log : List Notification} (h : EmailRun admitted init db log)
      (hkept : db'.claimEmails = db.claimEmails) : EmailRun admitted init db' log

theorem request_accounted {r : Submission} {db : Store} {log : List Notification}
    (h : Accounted log ⟨db, []⟩) (htells : r.tells db) : Accounted log (r.session db).view := by
  obtain ⟨request, env, faults⟩ := r
  cases request with
  | create command => exact create_accounted.ends (Session.start_clean db) h
  | payInFull command => exact payment_accounted.ends (Session.start_clean db) h
  | reject command => exact (rejection_accounted h htells).ends (Session.start_clean db) rfl

/-- Where each rejection that is committed is told to the provider, every email about a claim that
the history records was accepted, each record an email of its own: of its kind, about a claim of its
application, and to the recipient it names. -/
theorem claim_emails_accounted {init db : Store} {log : List Notification}
    (hinit : init.claimEmails = []) (h : EmailRun (fun db r => r.tells db) init db log) :
    Backed StandsFor db.claimEmails log := by
  induction h with
  | start =>
      rw [hinit]
      exact .nil
  | request r _ hr ih => exact request_accounted ih hr
  | job env faults now _ ih => exact job_accounted ih
  | other _ hkept ih =>
      rw [hkept]
      exact ih

namespace Sample

/-- A final bill that is submitted under the given address. -/
def billBy (claimantId : String) : Submission :=
  create { finalBillCommand with claimantId := some claimantId }

/-- A rejection of the first claim, whose email is not accepted. -/
def unsentRejection : Submission :=
  { reject firstReference with
    faults := fun call => if call = .sendNotification then some .raised else none }

/-- The database after a bill and its rejection, and the emails that were accepted. -/
def rejected (claimantId : String) (rejection : Submission) : Store × List Notification :=
  let db := (billBy claimantId).after store
  (rejection.after db,
    (rejection.session db).outbox ++ (((billBy claimantId).session store).outbox ++ []))

theorem rejected_run {admitted : Store → Submission → Prop} {claimantId : String}
    {rejection : Submission} (hbill : admitted store (billBy claimantId))
    (hrejection : admitted ((billBy claimantId).after store) rejection) :
    EmailRun admitted store (rejected claimantId rejection).1 (rejected claimantId rejection).2 :=
  .request rejection (.request (billBy claimantId) .start hbill) hrejection

theorem reject_tells : (reject firstReference).tells ((billBy "provider@example.com").after store) := by
  intro application claim hfound hclaim _
  have happlication : ((billBy "provider@example.com").after store).applications.all
      (fun a => a.provider.emailAddress = "provider@example.com") = true := by decide +kernel
  have hclaimant : ((billBy "provider@example.com").after store).claims.all
      (fun c => c.claimantId = some "provider@example.com") = true := by decide +kernel
  have haddress := List.all_eq_true.mp happlication application (findDecidedApplication_mem hfound)
  have hsame := List.all_eq_true.mp hclaimant claim (claimForAssessment_ok hclaim).1
  refine ⟨rfl, rfl, ?_⟩
  rw [of_decide_eq_true hsame, of_decide_eq_true haddress]

end Sample

open Sample

theorem claim_emails_accounted_rejected :
    (rejected "provider@example.com" (reject firstReference)).1.claimEmails.map (·.eventReference)
        = [.claimSubmissionConfirmation, .claimRejectedEmail]
      ∧ Backed StandsFor (rejected "provider@example.com" (reject firstReference)).1.claimEmails
          (rejected "provider@example.com" (reject firstReference)).2 := by
  refine ⟨by decide +kernel, ?_⟩
  exact claim_emails_accounted rfl (rejected_run trivial reject_tells)

/-- A rejection is recorded as told to the provider when its email was not accepted, and, when
nothing fails, when it went to the claimant. -/
theorem rejection_email_misrecorded :
    (¬ ∀ db log, EmailRun (fun _ _ => True) store db log → Backed StandsFor db.claimEmails log)
      ∧ ¬ ∀ db log, EmailRun (fun _ r => r.faults = noFaults) store db log →
        Backed StandsFor db.claimEmails log := by
  constructor
  · intro h
    have hrun : EmailRun (fun _ _ => True) store (rejected "provider@example.com" unsentRejection).1
        (rejected "provider@example.com" unsentRejection).2 := rejected_run trivial trivial
    have hbacked := h _ _ hrun
    have hrecorded : (rejected "provider@example.com" unsentRejection).1.claimEmails.any
        (fun event => event.eventReference = .claimRejectedEmail) = true := by decide +kernel
    have hunsent : (rejected "provider@example.com" unsentRejection).2.all
        (fun m => m.claimEmail.map (·.recordedAs) ≠ some .claimRejectedEmail) = true := by
      decide +kernel
    obtain ⟨event, hevent, hkind⟩ := List.any_eq_true.mp hrecorded
    obtain ⟨m, hm, email, hemail, hrecord⟩ := hbacked.exists_of_mem hevent
    have hnone := of_decide_eq_true (List.all_eq_true.mp hunsent m hm)
    apply hnone
    rw [hemail, Option.map_some, hrecord.kind, of_decide_eq_true hkind]
  · intro h
    have hrun : EmailRun (fun _ r => r.faults = noFaults) store
        (rejected "claimant@example.com" (reject firstReference)).1
        (rejected "claimant@example.com" (reject firstReference)).2 := rejected_run rfl rfl
    have hbacked := h _ _ hrun
    have hrecorded : (rejected "claimant@example.com" (reject firstReference)).1.claimEmails.any
        (fun event => event.eventReference = .claimRejectedEmail
          && event.data "recipient" = some (.text "provider@example.com")) = true := by
      decide +kernel
    have helsewhere : (rejected "claimant@example.com" (reject firstReference)).2.all
        (fun m => m.claimEmail.all fun email => email.recordedAs ≠ .claimRejectedEmail
          || email.recipient ≠ some "provider@example.com") = true := by
      decide +kernel
    obtain ⟨event, hevent, hnamed⟩ := List.any_eq_true.mp hrecorded
    obtain ⟨hkind, hrecipient⟩ := Bool.and_eq_true_iff.mp hnamed
    obtain ⟨m, hm, email, hemail, hrecord⟩ := hbacked.exists_of_mem hevent
    have hnone := List.all_eq_true.mp helsewhere m hm
    rw [hemail] at hnone
    rcases Bool.or_eq_true_iff.mp hnone with hother | hother
    · apply of_decide_eq_true hother
      rw [hrecord.kind, of_decide_eq_true hkind]
    · exact of_decide_eq_true hother (hrecord.recipient _ (of_decide_eq_true hrecipient))

end InquestsApi
