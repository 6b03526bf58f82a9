import InquestsApi.CaseRuns

/-! What each committed body adds to the history, and which messages leave with it. -/
namespace InquestsApi

open UnitOfWork HistoryEventRepository

/-- A row is an event as it was written, under some key. -/
def HistoryEventRepository.NewEvent.WrittenAs (event : NewEvent) (env : Env) (row : HistoryEvent) :
    Prop :=
  ∃ actor id, requireActor event.actor = .ok actor ∧ row = event.row env actor id

/-- The history grows by these rows and the outbox by these messages, the newest first. -/
structure Appends (rows : List HistoryEvent) (sent : List Notification)
    (t t' : Txn Store Notification) : Prop where
  rows : t'.store.historyEvents = t.store.historyEvents ++ rows
  sent : t'.outbox = sent ++ t.outbox

section Bodies

variable {env : Env} {faults : Faults} {t t' t'' : Txn Store Notification} {u : Unit}
variable {rows rows' : List HistoryEvent} {sent sent' : List Notification}
variable {application : Application} {claim : Claim}

theorem Appends.of_same (hrows : t'.store.historyEvents = t.store.historyEvents)
    (hsent : t'.outbox = t.outbox) : Appends [] [] t t' :=
  ⟨hrows.trans (List.append_nil _).symm, hsent⟩

theorem Appends.trans (h : Appends rows sent t t') (h' : Appends rows' sent' t' t'') :
    Appends (rows ++ rows') (sent' ++ sent) t t'' := by
  constructor
  · rw [h'.rows, h.rows, List.append_assoc]
  · rw [h'.sent, h.sent, List.append_assoc]

theorem createHistoryEvent_appends {event : NewEvent}
    (h : createHistoryEvent env faults event t = .ok u t') :
    ∃ row, event.WrittenAs env row ∧ Appends [row] [] t t' := by
  obtain ⟨actor, hactor, -, rfl⟩ := createHistoryEvent_ok.mp h
  exact ⟨_, ⟨actor, _, hactor, rfl⟩, rfl, rfl⟩

theorem send_appends {fails : Bool} {e : ApiError} {m : Notification}
    (h : (Tx.send fails e m : Transaction Unit) t = .ok u t') : Appends [] [m] t t' := by
  obtain ⟨-, rfl⟩ := Tx.send_ok.mp h
  exact ⟨(List.append_nil _).symm, rfl⟩

theorem callOut_appends {fails : Bool} {e : ApiError}
    (h : (Tx.callOut fails e : Transaction Unit) t = .ok u t') : Appends [] [] t t' := by
  obtain ⟨-, rfl⟩ := Tx.callOut_ok.mp h
  exact .of_same rfl rfl

section Applications

theorem createApplication_appends {request : ApplicationCreate} {firmCode : String}
    (h : ApplicationRepository.createApplication env faults request firmCode t = .ok application t') :
    Appends [] [] t t' := by
  obtain ⟨_, _, _, -, -, -, -, -, rfl⟩ := createApplication_ok.mp h
  exact .of_same rfl rfl

theorem identifyAndRecord_appends {applicationId : ℕ}
    (h : IdentifyDuplicateApplicationsUseCase.execute env faults applicationId t = .ok u t') :
    Appends [] [] t t' := by
  obtain ⟨_, -, -, rfl⟩ := CreateApplicationUseCase.identifyAndRecord_ok.mp h
  exact .of_same rfl rfl

open CreateApplicationUseCase in
theorem createBody_appends {request : ApplicationCreate} {firmCode : String}
    {userOfficeCodes : List String}
    (h : createBody env faults request firmCode userOfficeCodes t = .ok application t') :
    ∃ submitted confirmed, (submittedEvent request application).WrittenAs env submitted
      ∧ (confirmationEvent request application).WrittenAs env confirmed
      ∧ Appends [submitted, confirmed]
          [.applicationSubmitted application request.provider.emailAddress] t t' := by
  obtain ⟨t₁, u, hcreate, hsubmit⟩ := createBody_ok.mp h
  simp only [submitApplication, bind_ok, checkOffice_ok] at hsubmit
  obtain ⟨_, _, ⟨-, -, -, rfl⟩, _, _, hidentified, _, _, hsubmitted, _, _, hsend, hconfirmed⟩ := hsubmit
  obtain ⟨submitted, hwritten, hfirst⟩ := createHistoryEvent_appends hsubmitted
  obtain ⟨confirmed, hwritten', hsecond⟩ := createHistoryEvent_appends hconfirmed
  refine ⟨submitted, confirmed, hwritten, hwritten', ?_⟩
  have hcreated := (createApplication_appends hcreate).trans (identifyAndRecord_appends hidentified)
  exact hcreated.trans (hfirst.trans ((send_appends hsend).trans hsecond))

theorem recordDecision_appends {proceeding : ApplicationProceeding}
    {eventData : List (String × Json)}
    (h : recordDecision env faults application proceeding eventData t = .ok u t') :
    ∃ row, (decisionEvent env application eventData).WrittenAs env row ∧ Appends [row] [] t t' := by
  obtain ⟨actor, hactor, -, -, rfl⟩ := recordDecision_ok.mp h
  exact ⟨_, ⟨actor, _, hactor, rfl⟩, rfl, rfl⟩

open GrantDecisionUseCase in
theorem sendGrant_appends (h : sendGrant env faults application t = .ok u t') :
    ∃ context event certified emailed lettered,
      letterEvent application context = .ok event
        ∧ (certificateEvent env application).WrittenAs env certified
        ∧ (CreateClaim.emailEvent .applicationGrantedEmail application).WrittenAs env emailed
        ∧ event.WrittenAs env lettered
        ∧ Appends [certified, emailed, lettered] [.grantLetter context,
            .applicationGranted application context application.provider.emailAddress] t t' := by
  simp only [sendGrant, sendGrantEmail, sendGrantLetter, bind_ok, populateCertificateContext_ok,
    Tx.check_ok] at h
  obtain ⟨context, t₁, ⟨-, -, addressed, -, -, hloaded⟩, _, _, ⟨_, _, hpdf, hmail⟩, _, _, hcertified,
    _, _, hemailed, _, _, ⟨_, _, hletterPdf, hletter⟩, event, _, ⟨hevent, rfl⟩, hlettered⟩ := h
  have hcontext : Appends [] [] t t₁ := by
    rw [hloaded]
    exact .of_same rfl rfl
  obtain ⟨certified, hwritten, hfirst⟩ := createHistoryEvent_appends hcertified
  obtain ⟨emailed, hwritten', hsecond⟩ := createHistoryEvent_appends hemailed
  obtain ⟨lettered, hwritten'', hthird⟩ := createHistoryEvent_appends hlettered
  refine ⟨_, event, certified, emailed, lettered, hevent, hwritten, hwritten', hwritten'', ?_⟩
  have hsent := hcontext.trans ((callOut_appends hpdf).trans (send_appends hmail))
  have hprinted := (callOut_appends hletterPdf).trans (send_appends hletter)
  exact hsent.trans (hfirst.trans (hsecond.trans (hprinted.trans hthird)))

open GrantDecisionUseCase in
theorem grantBody_appends {request : GrantApplicationUpdate}
    (h : grantBody env faults request application t = .ok u t') :
    ∃ granted context event assessed certified emailed lettered,
      granted = { application with
          proceeding := grantedProceeding env request application.proceeding }
        ∧ letterEvent granted context = .ok event
        ∧ (decisionEvent env application [("merits_decision", .text "Granted")]).WrittenAs env assessed
        ∧ (certificateEvent env granted).WrittenAs env certified
        ∧ (CreateClaim.emailEvent .applicationGrantedEmail granted).WrittenAs env emailed
        ∧ event.WrittenAs env lettered
        ∧ Appends [assessed, certified, emailed, lettered] [.grantLetter context,
            .applicationGranted granted context application.provider.emailAddress] t t' := by
  obtain ⟨_, t₁, hrecord, hsend⟩ := bind_ok.mp h
  obtain ⟨assessed, hassessed, hfirst⟩ := recordDecision_appends hrecord
  obtain ⟨context, event, certified, emailed, lettered, hevent, hcertified, hemailed, hlettered,
    hrest⟩ := sendGrant_appends hsend
  exact ⟨_, context, event, assessed, certified, emailed, lettered, rfl, hevent, hassessed, hcertified,
    hemailed, hlettered, hfirst.trans hrest⟩

open RefuseDecisionUseCase in
theorem refuseBody_appends {request : RefuseApplicationUpdate}
    (h : refuseBody env faults request application t = .ok u t') :
    ∃ refused assessed emailed,
      refused = { application with proceeding := refusedProceeding request application.proceeding }
        ∧ (decisionEvent env application [("merits_decision", .text "Refused"),
            ("refusal_reason", .text request.reasonForRefusal.value),
            ("refusal_justification", .text request.justification)]).WrittenAs env assessed
        ∧ (CreateClaim.emailEvent .applicationRefused refused).WrittenAs env emailed
        ∧ Appends [assessed, emailed]
            [.applicationRefused refused application.provider.emailAddress] t t' := by
  simp only [refuseBody, sendRefusal, bind_ok] at h
  obtain ⟨_, _, hrecord, _, _, hsend, hemailed⟩ := h
  obtain ⟨assessed, hassessed, hfirst⟩ := recordDecision_appends hrecord
  obtain ⟨emailed, hwritten, hsecond⟩ := createHistoryEvent_appends hemailed
  exact ⟨_, assessed, emailed, rfl, hassessed, hwritten,
    hfirst.trans ((send_appends hsend).trans hsecond)⟩

open UpdatePublicBodiesUseCase in
theorem updatePublicBodies_appends {publicBodyIds : List PublicBodyId}
    (h : updatePublicBodies env faults publicBodyIds application t = .ok u t') :
    ∃ row, (updatedEvent env publicBodyIds application).WrittenAs env row
      ∧ Appends [row] [] t t' := by
  obtain ⟨actor, hactor, -, -, rfl⟩ := updatePublicBodies_ok.mp h
  exact ⟨_, ⟨actor, _, hactor, rfl⟩, rfl, rfl⟩

end Applications

section Claims

theorem createClaim_appends {applicationId : ℕ} {domain : DomainClaim} {claimantId : Option String}
    {funds : Decimal}
    (h : ClaimRepository.createClaim env faults applicationId domain claimantId funds t
      = .ok claim t') : Appends [] [] t t' := by
  obtain ⟨-, rfl⟩ := createClaim_ok h
  exact .of_same rfl rfl

theorem linkAttachments_appends {command : CreateClaimCommand}
    (h : CreateClaim.linkAttachments faults command claim t = .ok u t') : Appends [] [] t t' := by
  obtain ⟨_, _, _, rfl⟩ := linkAttachments_ok h
  exact .of_same rfl rfl

theorem createDecisionReason_appends {index claimDecisionId : ℕ} {reasonCode : ReasonCode}
    {justification : Option String}
    (h : ClaimRepository.createDecisionReason faults index claimDecisionId reasonCode justification t
      = .ok u t') : Appends [] [] t t' := by
  obtain ⟨-, rfl⟩ := createDecisionReason_ok.mp h
  exact .of_same rfl rfl

theorem createDecisionReasons_appends {claimDecisionId index : ℕ} {reasonCodes : List ReasonCode}
    (h : CreateClaim.createDecisionReasons faults claimDecisionId index reasonCodes t = .ok u t') :
    Appends [] [] t t' := by
  obtain ⟨_, -, -, rfl⟩ := createDecisionReasons_ok h
  exact .of_same rfl rfl

theorem createClaimDecision_appends {claimId : ℕ} {status : ClaimDecisionStatus} {d : ClaimDecision}
    (h : ClaimRepository.createClaimDecision env faults claimId status t = .ok d t') :
    Appends [] [] t t' := by
  obtain ⟨-, -, rfl⟩ := createClaimDecision_ok.mp h
  exact .of_same rfl rfl

theorem updateClaimStatus_appends {claimId : ℕ} {status : ClaimStatus}
    (h : ClaimRepository.updateClaimStatus faults claimId status t = .ok u t') :
    Appends [] [] t t' := by
  obtain ⟨-, -, rfl⟩ := updateClaimStatus_ok.mp h
  exact .of_same rfl rfl

theorem createClaimDecisionAmount_appends {claimDecisionId : ℕ} {amounts : PayInFullClaim}
    (h : ClaimRepository.createClaimDecisionAmount faults claimDecisionId amounts t = .ok u t') :
    Appends [] [] t t' := by
  obtain ⟨_, -, rfl⟩ := createClaimDecisionAmount_ok h
  exact .of_same rfl rfl

theorem createPaymentExtract_appends {claimId index : ℕ} {lines : List PaymentExtractLine}
    (h : ClaimRepository.createPaymentExtract env faults claimId index lines t = .ok u t') :
    Appends [] [] t t' := by
  obtain ⟨_, -, rfl⟩ := createPaymentExtract_ok h
  exact .of_same rfl rfl

open CreateClaim in
theorem submitClaim_appends {command : CreateClaimCommand} {prepared : PreparedClaim}
    (h : submitClaim env faults command prepared t = .ok claim t') :
    ∃ row, (submittedEvent command prepared claim).WrittenAs env row ∧ Appends [row] [] t t' := by
  simp only [submitClaim, bind_ok, pure_ok] at h
  obtain ⟨_, _, hcreate, _, _, hlink, _, _, hevent, rfl, rfl⟩ := h
  obtain ⟨row, hwritten, happends⟩ := createHistoryEvent_appends hevent
  exact ⟨row, hwritten,
    (createClaim_appends hcreate).trans ((linkAttachments_appends hlink).trans happends)⟩

open CreateClaim in
theorem confirmSubmission_appends {prepared : PreparedClaim}
    (h : confirmSubmission env faults prepared claim t = .ok u t') :
    ∃ row, (emailEvent .claimSubmissionConfirmation prepared.application).WrittenAs env row
      ∧ Appends [row] [.claimSubmitConfirmation claim prepared.application.laaReference
          prepared.application.provider.emailAddress
          (env.firmName prepared.application.provider.firmCode)] t t' := by
  simp only [confirmSubmission, bind_ok] at h
  obtain ⟨_, _, hevent, _, _, hfirm, hsend⟩ := h
  obtain ⟨row, hwritten, happends⟩ := createHistoryEvent_appends hevent
  exact ⟨row, hwritten, happends.trans ((callOut_appends hfirm).trans (send_appends hsend))⟩

open CreateClaim in
theorem autoRejectClaim_appends {prepared : PreparedClaim} {reasonCodes : List ReasonCode}
    (h : autoRejectClaim env faults prepared claim reasonCodes t = .ok u t') :
    ∃ row, (systemEvent .poaAutoRejected prepared.application
        [("claim_reference", .text claim.claimReference)]).WrittenAs env row
      ∧ Appends [row] [] t t' := by
  simp only [autoRejectClaim, bind_ok] at h
  obtain ⟨_, _, hdecision, _, _, hreasons, _, _, hstatus, hevent⟩ := h
  obtain ⟨row, hwritten, happends⟩ := createHistoryEvent_appends hevent
  have hdecided := (createClaimDecision_appends hdecision).trans
    ((createDecisionReasons_appends hreasons).trans (updateClaimStatus_appends hstatus))
  exact ⟨row, hwritten, hdecided.trans happends⟩

open CreateClaim in
theorem autoApproveClaim_appends {prepared : PreparedClaim}
    (h : autoApproveClaim env faults prepared claim t = .ok u t') :
    ∃ row, (systemEvent .poaAutoApproved prepared.application
        [("claim_reference", .text claim.claimReference)]).WrittenAs env row
      ∧ Appends [row] [] t t' := by
  simp only [autoApproveClaim, bind_ok, Tx.check_ok] at h
  obtain ⟨_, _, hdecision, _, _, hamount, _, _, ⟨-, rfl⟩, _, _, hextract, _, _, hstatus, hevent⟩ := h
  obtain ⟨row, hwritten, happends⟩ := createHistoryEvent_appends hevent
  have hdecided := (createClaimDecision_appends hdecision).trans
    (createClaimDecisionAmount_appends hamount)
  have hpaid := (createPaymentExtract_appends hextract).trans (updateClaimStatus_appends hstatus)
  exact ⟨row, hwritten, hdecided.trans (hpaid.trans happends)⟩

open RejectClaimUseCase in
theorem rejectClaim_appends {command : RejectClaimCommand}
    (h : rejectClaim env faults command application t = .ok claim t') :
    ∃ c assessed emailed,
      claimForAssessment command.claimReference application.applicationId t.store = .ok c
        ∧ (assessmentEvent env application c .rejected
            [("decision_justification", .text command.justification)]).WrittenAs env assessed
        ∧ (CreateClaim.emailEvent .claimRejectedEmail application).WrittenAs env emailed
        ∧ Appends [assessed, emailed] [] t t' := by
  simp only [rejectClaim, rejectAssessedClaim, bind_ok, Tx.check_ok, pure_ok] at h
  obtain ⟨c, _, ⟨hc, rfl⟩, _, _, hdecision, _, _, hreason, _, _, hstatus, _, _, hassessed, _, _,
    hemailed, -, rfl⟩ := h
  obtain ⟨assessed, hwritten, hfirst⟩ := createHistoryEvent_appends hassessed
  obtain ⟨emailed, hwritten', hsecond⟩ := createHistoryEvent_appends hemailed
  refine ⟨c, assessed, emailed, hc, hwritten, hwritten', ?_⟩
  have hdecided := (createClaimDecision_appends hdecision).trans
    ((createDecisionReason_appends hreason).trans (updateClaimStatus_appends hstatus))
  exact hdecided.trans (hfirst.trans hsecond)

/-- A rejected claim was submitted for the application, and its decision is on record. -/
theorem rejectClaim_assesses {command : RejectClaimCommand}
    (h : RejectClaimUseCase.rejectClaim env faults command application t = .ok claim t') :
    ∃ c rows assessed emailed,
      (c ∈ t.store.claims ∧ c.applicationId = application.applicationId ∧ c.statusId = .submitted)
        ∧ Decided c.claimId (.reject [(.manualRejection, some command.justification)]) rows
            t.store t'.store
        ∧ (assessmentEvent env application c .rejected
            [("decision_justification", .text command.justification)]).WrittenAs env assessed
        ∧ (CreateClaim.emailEvent .claimRejectedEmail application).WrittenAs env emailed
        ∧ Appends [assessed, emailed] [] t t' := by
  obtain ⟨c, assessed, emailed, hc, hassessed, hemailed, happends⟩ := rejectClaim_appends h
  obtain ⟨c', rows, hc', -, hdecided⟩ := rejectClaim_ok h
  obtain rfl : c = c' := Except.ok.inj (hc.symm.trans hc')
  exact ⟨c, rows, assessed, emailed, claimForAssessment_ok hc, hdecided, hassessed, hemailed, happends⟩

open PayInFullClaimUseCase in
/-- The message that tells the provider what was paid. -/
def payInFullDecisionMail (env : Env) (command : PayInFullClaimCommand) (application : Application)
    (claim : Claim) : Notification :=
  let email := application.provider.emailAddress
  let firmName := env.firmName application.provider.firmCode
  let paid := claim.withStatus .payInFull
  let isPoa : Bool := claim.claimTypeId = .paymentOnAccount
  if isPoa then .claimGranted paid application.laaReference email firmName
  else .claimFinalBillPaid paid application.laaReference email firmName (decisionAmounts command claim)

open PayInFullClaimUseCase in
theorem payClaim_appends {command : PayInFullClaimCommand}
    (h : payClaim env faults command application t = .ok u t') :
    ∃ c assessed emailed,
      claimForAssessment command.claimReference application.applicationId t.store = .ok c
        ∧ (assessmentEvent env application c .payInFull
            (amountDetails (decisionAmounts command c))).WrittenAs env assessed
        ∧ (CreateClaim.emailEvent .claimApprovedEmail application).WrittenAs env emailed
        ∧ Appends [assessed, emailed] [payInFullDecisionMail env command application c] t t' := by
  simp only [payClaim, payAssessedClaim, createPaymentExtractLines, sendPayInFullDecisionEmail,
    bind_ok, Tx.check_ok] at h
  obtain ⟨c, _, ⟨hc, rfl⟩, _, _, ⟨-, rfl⟩, _, _, hdecision, _, _, hamount, _, _, hstatus, _, _,
    ⟨_, _, ⟨-, rfl⟩, hextract⟩, _, _, hassessed, _, _, hfirm, _, _, hsend, hemailed⟩ := h
  obtain ⟨assessed, hwritten, hfirst⟩ := createHistoryEvent_appends hassessed
  obtain ⟨emailed, hwritten', hsecond⟩ := createHistoryEvent_appends hemailed
  refine ⟨c, assessed, emailed, hc, hwritten, ?_, ?_⟩
  · by_cases hpoa : c.claimTypeId = .paymentOnAccount
    · simpa [hpoa] using hwritten'
    · simpa [hpoa, HistoryEventReference.claimFinalBillPaidEmail] using hwritten'
  · have hdecided := (createClaimDecision_appends hdecision).trans
      (createClaimDecisionAmount_appends hamount)
    have hpaid := (updateClaimStatus_appends hstatus).trans (createPaymentExtract_appends hextract)
    have hsent := (callOut_appends hfirm).trans (send_appends hsend)
    have hall := hdecided.trans (hpaid.trans (hfirst.trans (hsent.trans hsecond)))
    exact hall

open PayInFullClaimUseCase in
/-- A paid claim was submitted for the application, and its decision is on record. -/
theorem payClaim_assesses {command : PayInFullClaimCommand}
    (h : payClaim env faults command application t = .ok u t') :
    ∃ c lines rows assessed emailed,
      (c ∈ t.store.claims ∧ c.applicationId = application.applicationId ∧ c.statusId = .submitted)
        ∧ Decided c.claimId (.payInFull lines) rows t.store t'.store
        ∧ (assessmentEvent env application c .payInFull
            (amountDetails (decisionAmounts command c))).WrittenAs env assessed
        ∧ (CreateClaim.emailEvent .claimApprovedEmail application).WrittenAs env emailed
        ∧ Appends [assessed, emailed] [payInFullDecisionMail env command application c] t t' := by
  obtain ⟨c, assessed, emailed, hc, hassessed, hemailed, happends⟩ := payClaim_appends h
  obtain ⟨c', lines, rows, _, hc', -, -, hdecided⟩ := payClaim_ok h
  obtain rfl : c = c' := Except.ok.inj (hc.symm.trans hc')
  exact ⟨c, lines, rows, assessed, emailed, claimForAssessment_ok hc, hdecided, hassessed, hemailed,
    happends⟩

open SendAutoApprovedPoaClaimEmailsUseCase in
theorem sendApprovedEmail_appends (h : sendApprovedEmail env faults claim application t = .ok u t') :
    ∃ row, (approvedEmailEvent claim application).WrittenAs env row
      ∧ Appends [row] [approvedEmail env claim application] t t' := by
  obtain ⟨-, -, -, rfl⟩ := sendApprovedEmail_ok.mp h
  have hsystem : requireActor (some ActorType.system.value) = .ok ActorType.system.value := by decide
  exact ⟨_, ⟨_, _, hsystem, rfl⟩, rfl, rfl⟩

end Claims

end Bodies

end InquestsApi
