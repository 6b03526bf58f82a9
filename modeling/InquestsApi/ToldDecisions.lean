import InquestsApi.DecisionRecord
import InquestsApi.Outboxes

/-! What a provider is told about an application or a payment, against what the request then
commits. The email leaves inside the transaction, ahead of its last writes and of its
commit. -/
namespace InquestsApi

open UnitOfWork Tx ClaimRepository HistoryEventRepository

/-- The amounts of a decision as their columns keep them. -/
structure AmountsRow (amounts : PayInFullClaim) (row : ClaimDecisionAmount) : Prop where
  profitCostNet : Amount.ofNullable amounts.profitCostNet = some row.profitCostNet
  profitCostGross : Amount.ofNullable amounts.profitCostGross = some row.profitCostGross
  profitCostVatZero : Amount.ofNullable amounts.profitCostVatZero = some row.profitCostVatZero
  disbursementNet : Amount.ofNullable amounts.disbursementNet = some row.disbursementNet
  disbursementGross : Amount.ofNullable amounts.disbursementGross = some row.disbursementGross
  disbursementVatZero : Amount.ofNullable amounts.disbursementVatZero = some row.disbursementVatZero

/-- A client but for its addresses, which the making of a certificate writes to. -/
def Client.SameAs (client stored : Client) : Prop :=
  { stored with
    homeAddress := client.homeAddress
    correspondenceAddress := client.correspondenceAddress } = client

/-- An application is stored as it was decided. -/
structure ShownDecision (s : Store) (application : Application) (decision : MeritsDecision) : Prop where
  decision : application.proceeding.meritsDecision = decision
  row : ∃ client, application.client.SameAs client
    ∧ { application with client := client } ∈ s.applications
  only : ∀ a ∈ s.applications, a.applicationId = application.applicationId →
    a.proceeding = application.proceeding

/-- A claim is stored as paid, with its decision and the amounts of it, under an application of
that reference and provider. -/
structure ShownPayment (s : Store) (claim : Claim) (laaReference recipientEmail : String)
    (amounts : ClaimDecisionAmount → Prop) : Prop where
  stored : claim ∈ s.claims
  status : claim.statusId = .payInFull
  decision : ∃ d ∈ s.claimDecisions, d.claimId = claim.claimId ∧ d.decision = .payInFull
    ∧ ∃ row ∈ s.claimDecisionAmounts, row.claimDecisionId = d.claimDecisionId ∧ amounts row
  application : ∃ a ∈ s.applications, a.applicationId = claim.applicationId
    ∧ a.laaReference = laaReference ∧ a.provider.emailAddress = recipientEmail

namespace Notification

/-- The emails that tell a provider of an application, or of a payment. -/
def tellsProvider : Notification → Bool
  | applicationSubmitted _ _ | applicationGranted _ _ _ | applicationRefused _ _ => true
  | claimGranted _ _ _ _ | claimFinalBillPaid _ _ _ _ _ => true
  | grantLetter _ | claimSubmitConfirmation _ _ _ _ | claimRejected _ _ _ _ _ => false

/-- What an email says of an application or a payment is what the database shows. -/
def ShownBy (s : Store) : Notification → Prop
  | applicationSubmitted application recipientEmail =>
    application ∈ s.applications ∧ application.provider.emailAddress = recipientEmail
  | applicationGranted application _ recipientEmail =>
    ShownDecision s application .granted ∧ application.provider.emailAddress = recipientEmail
  | applicationRefused application recipientEmail =>
    ShownDecision s application .refused ∧ application.provider.emailAddress = recipientEmail
  | claimGranted claim laaReference recipientEmail _ =>
    ShownPayment s claim laaReference recipientEmail fun _ => True
  | claimFinalBillPaid claim laaReference recipientEmail _ decisionAmounts =>
    ShownPayment s claim laaReference recipientEmail (AmountsRow decisionAmounts)
  | _ => True

/-- The calls of a transaction after its email. -/
def laterCalls : Notification → List Call
  | applicationSubmitted _ _ => [.createHistoryEvent .applicationSubmissionConfirmation]
  | applicationGranted _ _ _ =>
    [.createHistoryEvent .certificateCreated, .createHistoryEvent .applicationGrantedEmail,
      .generatePrintLetterPdf, .sendLetter, .createHistoryEvent .applicationGrantedLetter]
  | applicationRefused _ _ => [.createHistoryEvent .applicationRefused]
  | claimGranted _ _ _ _ => [.createHistoryEvent .claimApprovedEmail]
  | claimFinalBillPaid _ _ _ _ _ => [.createHistoryEvent .claimFinalBillPaidEmail]
  | _ => []

/-- The transaction that an email leaves in. -/
def stage : Notification → Stage
  | applicationSubmitted _ _ => .application
  | applicationGranted _ _ _ | applicationRefused _ _ | grantLetter _ => .decision
  | claimSubmitConfirmation _ _ _ _ => .confirmation
  | claimRejected _ _ _ _ _ | claimGranted _ _ _ _ | claimFinalBillPaid _ _ _ _ _ => .assessment

/-- The letter of a grant is recorded with the address of the certificate. -/
def namesAddress : Notification → Bool
  | applicationGranted _ context _ => context.clientAddress.isSome
  | _ => true

/-- The steps of the transaction after its email all succeed. -/
structure CarriedOn (faults : Faults) (m : Notification) : Prop where
  calls : ∀ call ∈ m.laterCalls, faults call = none
  address : m.namesAddress = true

/-- So does its commit. -/
structure FollowedUp (faults : Faults) (m : Notification) : Prop where
  carriedOn : m.CarriedOn faults
  commit : faults (.commit m.stage) = none

end Notification

open Notification

section Bodies

variable {env : Env} {faults : Faults} {t t' : Txn Store Notification} {m : Notification} {u : Unit}
variable {application : Application} {claim : Claim}

/-- An email that has left a transaction, at whatever end: if the steps after it succeed the
transaction ends normally, and then shows what the email says. -/
structure Told {α : Type} (faults : Faults) (stage : Stage) (body : Transaction α)
    (t : Txn Store Notification) (m : Notification) : Prop where
  stage : m.stage = stage
  carriedOn : m.CarriedOn faults → ∃ a t', body t = .ok a t'
  shown : ∀ a t', body t = .ok a t' → m.CarriedOn faults ∧ m.ShownBy t'.store

theorem system_actor : requireActor (some ActorType.system.value) = .ok ActorType.system.value := by
  decide

theorem createHistoryEvent_goes (event : NewEvent) {actor : String}
    (hactor : requireActor event.actor = .ok actor)
    (hcall : faults (.createHistoryEvent event.eventReference) = none) :
    ∃ u t', createHistoryEvent env faults event t = .ok u t' :=
  ⟨(), _, createHistoryEvent_ok.mpr ⟨actor, hactor, hcall, rfl⟩⟩

open CreateApplicationUseCase in
theorem createBody_told {request : ApplicationCreate} {firmCode : String}
    {userOfficeCodes : List String} (hnew : m ∉ t.outbox)
    (h : m ∈ (endState (createBody env faults request firmCode userOfficeCodes t)).outbox) :
    Told faults .application (createBody env faults request firmCode userOfficeCodes) t m := by
  have hbody : createBody env faults request firmCode userOfficeCodes = (do
      let application ← ApplicationRepository.createApplication env faults request firmCode
      checkOffice env faults application userOfficeCodes
      IdentifyDuplicateApplicationsUseCase.execute env faults application.applicationId
      createHistoryEvent env faults (submittedEvent request application)
      Tx.send (faults .sendNotification).isSome (.portFailure .sendNotification)
        (.applicationSubmitted application request.provider.emailAddress)
      createHistoryEvent env faults (confirmationEvent request application)
      pure application) := by
    simp only [createBody, submitApplication, bind_assoc]
  rw [hbody] at h
  obtain ⟨application, t₁, hcreate, hnew, h⟩ := (createApplication_silent env faults _ _).reaches hnew h
  obtain ⟨_, t₂, hoffice, hnew, h⟩ := (checkOffice_silent env faults _ _).reaches hnew h
  obtain ⟨_, t₃, hduplicates, hnew, h⟩ := (identifyAndRecord_silent env faults _).reaches hnew h
  obtain ⟨_, t₄, hsubmitted, hnew, h⟩ := (createHistoryEvent_silent env faults _).reaches hnew h
  obtain ⟨hsend, h⟩ := send_reaches hnew h
  have hrest : Silent (do
      createHistoryEvent env faults (confirmationEvent request application)
      pure application : Transaction Application) :=
    .bind (createHistoryEvent_silent env faults _) fun _ => .pure application
  obtain rfl := hrest.sent hnew h
  constructor
  · rfl
  · intro hcarried
    have hconfirmed := hcarried.calls _ (List.mem_singleton_self _)
    rw [hbody]
    refine bind_goes hcreate (bind_goes hoffice (bind_goes hduplicates (bind_goes hsubmitted
      (send_goes hsend ?_))))
    obtain ⟨_, _, hlast⟩ :=
      createHistoryEvent_goes (confirmationEvent request application) system_actor hconfirmed
    exact bind_goes hlast ⟨application, _, rfl⟩
  · intro a t' hbody
    obtain ⟨t₁', u, hcreate', hsubmit⟩ := createBody_ok.mp hbody
    cases hcreate.symm.trans hcreate'
    obtain ⟨-, -, -, _, _, _, -, -, -, -, -, -, hconfirmed, -⟩ := submitApplication_ok.mp hsubmit
    obtain ⟨_, _, _, -, -, -, -, happlication, -⟩ := createApplication_ok.mp hcreate
    refine ⟨⟨?_, rfl⟩, ?_, ?_⟩
    · intro call hcall
      rw [List.mem_singleton.mp hcall]
      exact hconfirmed
    · rw [createBody_applications hbody]
      exact List.mem_append_right _ (List.mem_singleton_self _)
    · rw [happlication]
      rfl

section Decisions

variable {proceeding : ApplicationProceeding}

open CreateCertificateContext

/-- A decision is shown once the rows of its application hold it. -/
theorem shownDecision_update {s s' : Store} {decision : MeritsDecision} {client : Client}
    {f : Application → Application} (hmem : application ∈ s.applications)
    (hdecision : proceeding.meritsDecision = decision) (hclient : application.client.SameAs client)
    (hself : f application = { application with proceeding := proceeding, client := client })
    (hproceeding : ∀ a, (f a).proceeding = proceeding)
    (hrows : s'.applications = (s.updateApplication application.applicationId f).applications) :
    ShownDecision s' { application with proceeding := proceeding } decision := by
  constructor
  · exact hdecision
  · refine ⟨client, hclient, ?_⟩
    rw [hrows]
    exact List.mem_map.mpr ⟨application, hmem, (if_pos rfl).trans hself⟩
  · intro a ha hid
    rw [hrows] at ha
    rcases mem_updateApplication ha with ⟨-, hother⟩ | ⟨b, -, -, rfl⟩
    · exact absurd hid hother
    · exact hproceeding b

open RefuseDecisionUseCase in
theorem refuseBody_told {request : RefuseApplicationUpdate} (hmem : application ∈ t.store.applications)
    (hnew : m ∉ t.outbox)
    (h : m ∈ (endState (refuseBody env faults request application t)).outbox) :
    Told faults .decision (refuseBody env faults request application) t m := by
  obtain ⟨_, t₁, hrecord, hnew, h⟩ := (recordDecision_silent env faults _ _ _).reaches hnew h
  obtain ⟨hsend, h⟩ := send_reaches hnew h
  obtain rfl := (createHistoryEvent_silent env faults _).sent hnew h
  constructor
  · rfl
  · intro hcarried
    have hemailed := hcarried.calls _ (List.mem_singleton_self _)
    exact bind_goes hrecord (send_goes hsend (createHistoryEvent_goes _ system_actor hemailed))
  · intro a t' hbody
    have hrows := refuseBody_ok hbody
    simp only [refuseBody, sendRefusal, bind_ok, createHistoryEvent_ok] at hbody
    obtain ⟨_, _, -, _, _, -, _, -, hemailed, -⟩ := hbody
    refine ⟨⟨?_, rfl⟩, ?_, rfl⟩
    · intro call hcall
      rw [List.mem_singleton.mp hcall]
      exact hemailed
    · exact shownDecision_update hmem rfl rfl rfl (fun _ => rfl) hrows

theorem updateApplication_twice {s : Store} {applicationId : ℕ} {f g : Application → Application}
    (hid : ∀ a, (f a).applicationId = a.applicationId) :
    ((s.updateApplication applicationId f).updateApplication applicationId g).applications
      = (s.updateApplication applicationId (g ∘ f)).applications := by
  simp only [Store.updateApplication, List.map_map]
  apply List.map_congr_left
  intro a _
  by_cases h : a.applicationId = applicationId
  · simp [h, hid a]
  · simp [h]

theorem clientAddress_sameAs {client : Client} {officeAddress : Address}
    {addressed : Option Address × Client}
    (h : clientAddress client officeAddress = .ok addressed) : client.SameAs addressed.2 := by
  rcases clientAddress_ok.mp h with ⟨-, rfl⟩ | ⟨recipient, address, -, -, rfl⟩
  · rfl
  · unfold Client.setStoredAddress
    split <;> rfl

open GrantDecisionUseCase

theorem grantBody_shown {request : GrantApplicationUpdate}
    (hmem : application ∈ t.store.applications)
    (h : grantBody env faults request application t = .ok u t') :
    ShownDecision t'.store
      { application with proceeding := grantedProceeding env request application.proceeding }
      .granted := by
  obtain ⟨-, addressed, haddressed, hrows⟩ := grantBody_ok h
  have honce := hrows.trans (updateApplication_twice fun _ => rfl)
  exact shownDecision_update hmem rfl (clientAddress_sameAs haddressed) rfl (fun _ => rfl) honce

/-- What a grant does after its email. -/
def afterGrantEmail (env : Env) (faults : Faults) (application : Application)
    (context : ApplicationCertificate) : Transaction Unit := do
  createHistoryEvent env faults (certificateEvent env application)
  createHistoryEvent env faults (CreateClaim.emailEvent .applicationGrantedEmail application)
  sendGrantLetter faults context
  let event ← Tx.check fun _ => letterEvent application context
  createHistoryEvent env faults event

theorem sendGrant_eq : sendGrant env faults application = (do
    let certificate ← populateCertificateContext env faults application
    Tx.callOut (faults .generatePdf).isSome (.portFailure .generatePdf)
    Tx.send (faults .sendNotification).isSome (.portFailure .sendNotification)
      (.applicationGranted application (prepareContextForDisplay certificate)
        application.provider.emailAddress)
    afterGrantEmail env faults application (prepareContextForDisplay certificate)) := by
  simp only [sendGrant, sendGrantEmail, afterGrantEmail, bind_assoc]

/-- A letter goes to an address. -/
theorem afterGrantEmail_goes {context : ApplicationCertificate} {actor recipientEmail : String}
    (hactor : requireActor env.user.name = .ok actor)
    (h : (applicationGranted application context recipientEmail).CarriedOn faults) :
    ∃ u t', afterGrantEmail env faults application context t = .ok u t' := by
  obtain ⟨hcalls, haddress⟩ := h
  simp only [laterCalls, List.forall_mem_cons] at hcalls
  obtain ⟨hcertified, hemailed, hprinted, hletter, hlettered, -⟩ := hcalls
  obtain ⟨address, hsome⟩ := Option.isSome_iff_exists.mp haddress
  obtain ⟨_, _, hfirst⟩ := createHistoryEvent_goes (certificateEvent env application) hactor hcertified
  refine bind_goes hfirst ?_
  obtain ⟨_, _, hsecond⟩ := createHistoryEvent_goes
    (CreateClaim.emailEvent .applicationGrantedEmail application) system_actor hemailed
  refine bind_goes hsecond ?_
  refine bind_goes (a := ()) (sendGrantLetter_ok.mpr ⟨hprinted, hletter, rfl⟩) ?_
  refine bind_goes (Tx.check_ok.mpr ⟨letterEvent_ok.mpr ⟨address, hsome, rfl⟩, rfl⟩) ?_
  exact createHistoryEvent_goes _ system_actor hlettered

/-- After its email a grant sends a letter only. -/
theorem afterGrantEmail_sent {context : ApplicationCertificate} (hemail : m.tellsProvider = true)
    (h : m ∈ (endState (afterGrantEmail env faults application context t)).outbox) :
    m ∈ t.outbox := by
  by_contra hnew
  simp only [afterGrantEmail, sendGrantLetter, bind_assoc] at h
  obtain ⟨_, _, -, hnew, h⟩ := (createHistoryEvent_silent env faults _).reaches hnew h
  obtain ⟨_, _, -, hnew, h⟩ := (createHistoryEvent_silent env faults _).reaches hnew h
  obtain ⟨_, _, -, hnew, h⟩ := (Silent.callOut _ _).reaches hnew h
  obtain ⟨-, h⟩ := send_reaches hnew h
  have hrest : Silent (do
      let event ← Tx.check fun _ => letterEvent application context
      createHistoryEvent env faults event : Transaction Unit) :=
    .bind (.check _) fun _ => createHistoryEvent_silent env faults _
  rw [hrest.sent hnew h] at hemail
  cases hemail

theorem grantBody_told {request : GrantApplicationUpdate}
    (hmem : application ∈ t.store.applications) (hemail : m.tellsProvider = true) (hnew : m ∉ t.outbox)
    (h : m ∈ (endState (grantBody env faults request application t)).outbox) :
    Told faults .decision (grantBody env faults request application) t m := by
  simp only [grantBody, sendGrant_eq] at h
  obtain ⟨_, t₁, hrecord, hnew, h⟩ := (recordDecision_silent env faults _ _ _).reaches hnew h
  obtain ⟨certificate, t₂, hcontext, hnew, h⟩ :=
    (populateCertificateContext_silent env faults _).reaches hnew h
  obtain ⟨_, t₃, hpdf, hnew, h⟩ := (Silent.callOut _ _).reaches hnew h
  obtain ⟨hsend, h⟩ := send_reaches hnew h
  obtain rfl := (List.mem_cons.mp (afterGrantEmail_sent hemail h)).resolve_right hnew
  obtain ⟨actor, hactor, -⟩ := recordDecision_ok.mp hrecord
  constructor
  · rfl
  · intro hcarried
    simp only [grantBody, sendGrant_eq]
    exact bind_goes hrecord (bind_goes hcontext (bind_goes hpdf (send_goes hsend
      (afterGrantEmail_goes hactor hcarried))))
  · intro a t' hbody
    obtain ⟨⟨hcalls, -, -, haddress⟩, -⟩ := grantBody_ok hbody
    obtain ⟨-, -, addressed, haddressed, hcertificate, -⟩ := populateCertificateContext_ok.mp hcontext
    refine ⟨⟨?_, ?_⟩, grantBody_shown hmem hbody, rfl⟩
    · intro call hcall
      apply hcalls
      simp only [laterCalls, List.mem_cons, List.not_mem_nil, or_false] at hcall
      rcases hcall with rfl | rfl | rfl | rfl | rfl <;> decide
    · have hsame := certificate_address hcertificate
      simp only [namesAddress, prepareContextForDisplay, hsame]
      exact (clientAddress_isSome haddressed).mpr haddress

end Decisions

section Payments

open PayInFullClaimUseCase

variable {command : PayInFullClaimCommand}

theorem createClaimDecisionAmount_row {claimDecisionId : ℕ} {amounts : PayInFullClaim}
    (h : createClaimDecisionAmount faults claimDecisionId amounts t = .ok u t') :
    ∃ row ∈ t'.store.claimDecisionAmounts, row.claimDecisionId = claimDecisionId
      ∧ AmountsRow amounts row := by
  simp only [createClaimDecisionAmount, portWrite_ok, insertDecisionAmount, except_bind_ok,
    toColumn_ok] at h
  obtain ⟨-, s, ⟨net, hnet, gross, hgross, vatZero, hvatZero, disbNet, hdisbNet, disbGross, hdisbGross,
    disbVatZero, hdisbVatZero, hrow⟩, rfl⟩ := h
  split at hrow
  · cases hrow
  · simp only [except_pure_ok, Prod.mk.injEq, true_and] at hrow
    rw [← hrow]
    exact ⟨_, List.mem_append_right _ (List.mem_singleton_self _), rfl, hnet, hgross, hvatZero,
      hdisbNet, hdisbGross, hdisbVatZero⟩

/-- What a payment leaves of its decision. -/
theorem payAssessedClaim_shown (hclaim : claim ∈ t.store.claims)
    (h : payAssessedClaim env faults command application claim t = .ok u t') :
    claim.withStatus .payInFull ∈ t'.store.claims
      ∧ ∃ d ∈ t'.store.claimDecisions, d.claimId = claim.claimId ∧ d.decision = .payInFull
        ∧ ∃ row ∈ t'.store.claimDecisionAmounts, row.claimDecisionId = d.claimDecisionId
          ∧ AmountsRow (decisionAmounts command claim) row := by
  simp only [payAssessedClaim, createPaymentExtractLines, bind_ok, Tx.check_ok, createClaimDecision_ok,
    updateClaimStatus_ok, createHistoryEvent_ok, Tx.callOut_ok] at h
  obtain ⟨_, _, ⟨-, rfl⟩, d, _, ⟨-, rfl, rfl⟩, _, _, hamount, _, _, ⟨-, -, rfl⟩,
    _, _, ⟨lines, _, ⟨-, rfl⟩, hextract⟩, _, _, ⟨actor, -, -, rfl⟩, _, _, ⟨-, rfl⟩, hsend⟩ := h
  obtain ⟨row, hrow, hdecision, hamounts⟩ := createClaimDecisionAmount_row hamount
  obtain ⟨amount, -, rfl⟩ := createClaimDecisionAmount_ok hamount
  obtain ⟨extracts, -, rfl⟩ := createPaymentExtract_ok hextract
  obtain ⟨events, hevents⟩ := sendPayInFullDecisionEmail_ok hsend
  rw [hevents]
  refine ⟨List.mem_map.mpr ⟨claim, hclaim, if_pos rfl⟩, _, List.mem_append_right _
    (List.mem_singleton_self _), rfl, rfl, row, hrow, hdecision, hamounts⟩

theorem payInFullDecisionMail_shownBy {s : Store}
    (hclaim : claim.withStatus .payInFull ∈ s.claims)
    (happlication : application ∈ s.applications)
    (hof : claim.applicationId = application.applicationId)
    (hdecision : ∃ d ∈ s.claimDecisions, d.claimId = claim.claimId ∧ d.decision = .payInFull
      ∧ ∃ row ∈ s.claimDecisionAmounts, row.claimDecisionId = d.claimDecisionId
        ∧ AmountsRow (decisionAmounts command claim) row) :
    (payInFullDecisionMail env command application claim).ShownBy s := by
  have hshown : ∀ amounts : ClaimDecisionAmount → Prop,
      (∀ row, AmountsRow (decisionAmounts command claim) row → amounts row) →
      ShownPayment s (claim.withStatus .payInFull) application.laaReference
        application.provider.emailAddress amounts := by
    intro amounts hamounts
    obtain ⟨d, hd, hdclaim, hpaid, row, hrow, hrowOf, hrowAmounts⟩ := hdecision
    exact ⟨hclaim, rfl, ⟨d, hd, hdclaim, hpaid, row, hrow, hrowOf, hamounts row hrowAmounts⟩,
      application, happlication, hof.symm, rfl, rfl⟩
  unfold payInFullDecisionMail
  by_cases hpoa : claim.claimTypeId = .paymentOnAccount
  · simp only [hpoa, decide_true, if_true]
    exact hshown _ fun _ _ => trivial
  · simp only [hpoa, decide_false, Bool.false_eq_true, if_false]
    exact hshown _ fun _ h => h

theorem payInFullDecisionMail_laterCalls :
    (payInFullDecisionMail env command application claim).laterCalls
      = [.createHistoryEvent .claimApprovedEmail] := by
  unfold payInFullDecisionMail
  dsimp only
  split <;> rfl

theorem payInFullDecisionMail_stage :
    (payInFullDecisionMail env command application claim).stage = .assessment := by
  unfold payInFullDecisionMail
  dsimp only
  split <;> rfl

theorem payInFullDecisionMail_namesAddress :
    (payInFullDecisionMail env command application claim).namesAddress = true := by
  unfold payInFullDecisionMail
  dsimp only
  split <;> rfl

/-- The email says what was paid, and is recorded under one reference. -/
theorem sendPayInFullDecisionEmail_eq :
    sendPayInFullDecisionEmail env faults (claim.withStatus .payInFull) application
      (env.firmName application.provider.firmCode) (decisionAmounts command claim) = (do
        Tx.send (faults .sendNotification).isSome (.portFailure .sendNotification)
          (payInFullDecisionMail env command application claim)
        createHistoryEvent env faults (CreateClaim.emailEvent .claimApprovedEmail application)) := by
  have htype : (claim.withStatus .payInFull).claimTypeId = claim.claimTypeId := rfl
  unfold sendPayInFullDecisionEmail payInFullDecisionMail
  rw [htype]
  by_cases hpoa : claim.claimTypeId = .paymentOnAccount
  · simp only [hpoa, decide_true, if_true]
  · simp only [hpoa, decide_false, Bool.false_eq_true, if_false]
    rfl

theorem payClaim_told (hfound : application ∈ t.store.applications) (hnew : m ∉ t.outbox)
    (h : m ∈ (endState (payClaim env faults command application t)).outbox) :
    Told faults .assessment (payClaim env faults command application) t m := by
  have hbody : payClaim env faults command application = (do
      let claim ← Tx.check (claimForAssessment command.claimReference application.applicationId)
      Tx.check fun _ => validateAmounts (decisionAmounts command claim)
      let claimDecision ← createClaimDecision env faults claim.claimId .payInFull
      createClaimDecisionAmount faults claimDecision.claimDecisionId (decisionAmounts command claim)
      updateClaimStatus faults claim.claimId .payInFull
      createPaymentExtractLines env faults claim application (decisionAmounts command claim)
        claimDecision.createdAt.date
      createHistoryEvent env faults (assessmentEvent env application claim .payInFull
        (amountDetails (decisionAmounts command claim)))
      Tx.callOut (faults .getFirmName).isSome (.portFailure .getFirmName)
      Tx.send (faults .sendNotification).isSome (.portFailure .sendNotification)
        (payInFullDecisionMail env command application claim)
      createHistoryEvent env faults (CreateClaim.emailEvent .claimApprovedEmail application)) := by
    unfold payClaim payAssessedClaim
    simp only [sendPayInFullDecisionEmail_eq]
  rw [hbody] at h
  obtain ⟨claim, t₁, hclaim, hnew, h⟩ := (Silent.check _).reaches hnew h
  obtain ⟨_, t₂, hvalid, hnew, h⟩ := (Silent.check _).reaches hnew h
  obtain ⟨d, t₃, hdecision, hnew, h⟩ := (portWrite_silent faults _ _).reaches hnew h
  obtain ⟨_, t₄, hamount, hnew, h⟩ := (portWrite_silent faults _ _).reaches hnew h
  obtain ⟨_, t₅, hstatus, hnew, h⟩ := (updateClaimStatus_silent faults _ _).reaches hnew h
  obtain ⟨_, t₆, hextract, hnew, h⟩ :=
    (createPaymentExtractLines_silent env faults _ _ _ _).reaches hnew h
  obtain ⟨_, t₇, hassessed, hnew, h⟩ := (createHistoryEvent_silent env faults _).reaches hnew h
  obtain ⟨_, t₈, hfirm, hnew, h⟩ := (Silent.callOut _ _).reaches hnew h
  obtain ⟨hsend, h⟩ := send_reaches hnew h
  obtain rfl := (createHistoryEvent_silent env faults _).sent hnew h
  constructor
  · exact payInFullDecisionMail_stage
  · intro hcarried
    have hemailed : faults (.createHistoryEvent .claimApprovedEmail) = none := by
      apply hcarried.calls
      rw [payInFullDecisionMail_laterCalls]
      exact List.mem_singleton_self _
    rw [hbody]
    exact bind_goes hclaim (bind_goes hvalid (bind_goes hdecision (bind_goes hamount
      (bind_goes hstatus (bind_goes hextract (bind_goes hassessed (bind_goes hfirm (send_goes hsend
        (createHistoryEvent_goes _ system_actor hemailed)))))))))
  · intro u t' hok
    obtain ⟨c, _, rows, _, -, -, -, hdecided⟩ := payClaim_ok hok
    obtain ⟨claim', t₁', hread, hpaid⟩ := bind_ok.mp hok
    cases hclaim.symm.trans hread
    obtain ⟨hassessed', rfl⟩ := Tx.check_ok.mp hclaim
    obtain ⟨hmem, hof, -⟩ := claimForAssessment_ok hassessed'
    obtain ⟨hstored, hrecorded⟩ := payAssessedClaim_shown hmem hpaid
    rw [← hdecided.applications] at hfound
    refine ⟨⟨?_, payInFullDecisionMail_namesAddress⟩,
      payInFullDecisionMail_shownBy hstored hfound hof hrecorded⟩
    intro call hcall
    rw [payInFullDecisionMail_laterCalls, List.mem_singleton] at hcall
    simp only [hbody, bind_ok, createHistoryEvent_ok] at hok
    obtain ⟨_, _, -, _, _, -, _, _, -, _, _, -, _, _, -, _, _, -, _, _, -, _, _, -, _, _, -, _, -,
      hemailed, -⟩ := hok
    rw [hcall]
    exact hemailed

end Payments

end Bodies

/-- An email at the end of its request: the database shows what it says, or is as it was. -/
structure ToldOf (faults : Faults) (db : Store) (m : Notification) (s : Store) : Prop where
  shown : m.FollowedUp faults → m.ShownBy s
  undone : ¬ m.FollowedUp faults → s = db

def AllTold (faults : Faults) (db : Store) (t : Txn Store Notification) : Prop :=
  ∀ m ∈ t.outbox, m.tellsProvider = true → ToldOf faults db m t.store

/-- Every email that leaves a transaction on a database is told of as above. -/
def Tells {α : Type} (faults : Faults) (stage : Stage) (db : Store) (body : Transaction α) : Prop :=
  ∀ m, m.tellsProvider = true → m ∈ (endState (body ⟨db, []⟩)).outbox →
    Told faults stage body ⟨db, []⟩ m

section Requests

variable {α : Type} {env : Env} {faults : Faults} {db : Store} {stage : Stage}
variable {body : Transaction α} {laaReference : String}

theorem allTold_start : AllTold faults db ⟨db, []⟩ := by
  intro m hm
  cases hm

/-- A transaction that is committed shows what its emails say. -/
theorem Tells.committed {a : α} {t' : Txn Store Notification} (h : Tells faults stage db body)
    (hbody : body ⟨db, []⟩ = .ok a t') (hcommit : commitFault faults stage = none) :
    AllTold faults db t' := by
  intro m hm hemail
  have hleft : m ∈ (endState (body ⟨db, []⟩)).outbox := by
    rw [hbody]
    exact hm
  obtain ⟨hstage, -, hshown⟩ := h m hemail hleft
  obtain ⟨hcarried, hshows⟩ := hshown a t' hbody
  have hfollowed : m.FollowedUp faults := by
    refine ⟨hcarried, ?_⟩
    rw [hstage]
    exact Option.map_eq_none_iff.mp hcommit
  exact ⟨fun _ => hshows, fun hnot => absurd hfollowed hnot⟩

/-- One that is not leaves the database as it was, for want of a step after the email. -/
theorem Tells.uncommitted (h : Tells faults stage db body)
    (hfails : ∀ a t', body ⟨db, []⟩ = .ok a t' → commitFault faults stage ≠ none) :
    AllTold faults db ⟨db, (endState (body ⟨db, []⟩)).outbox⟩ := by
  intro m hm hemail
  obtain ⟨hstage, hgoes, -⟩ := h m hemail hm
  refine ⟨fun hfollowed => ?_, fun _ => rfl⟩
  obtain ⟨a, t', hbody⟩ := hgoes hfollowed.carriedOn
  have hcommit := hfollowed.commit
  rw [hstage] at hcommit
  exact absurd (Option.map_eq_none_iff.mpr hcommit) (hfails a t' hbody)

theorem getApplication_tells : Uow.Ensures (fun t => t = ⟨db, []⟩) (getApplication laaReference)
    (fun application t => application ∈ db.applications ∧ t = ⟨db, []⟩) (AllTold faults db) := by
  refine .bind (.check ?_) fun application => ?_
  · rintro t rfl
    exact allTold_start
  · refine .bind .read fun _ => .pure ?_
    rintro t ⟨hfound, rfl⟩
    exact ⟨findDecidedApplication_mem hfound, rfl⟩

theorem creation_tells {request : ApplicationCreate} {firmCode : String}
    {userOfficeCodes : List String} : Uow.Ensures (fun t => t = ⟨db, []⟩)
      (CreateApplicationUseCase.execute env faults request firmCode userOfficeCodes)
      (fun _ => AllTold faults db) (AllTold faults db) := by
  have htells : Tells faults .application db
      (CreateApplicationUseCase.createBody env faults request firmCode userOfficeCodes) :=
    fun m _ hleft => createBody_told List.not_mem_nil hleft
  have hbody : ∀ {t application t₁ u t'},
      ApplicationRepository.createApplication env faults request firmCode t = .ok application t₁ →
      CreateApplicationUseCase.submitApplication env faults request application userOfficeCodes t₁
        = .ok u t' →
      CreateApplicationUseCase.createBody env faults request firmCode userOfficeCodes t
        = .ok application t' :=
    fun hcreate hsubmit => createBody_ok.mpr ⟨_, _, hcreate, hsubmit⟩
  refine Uow.Ensures.staged (K := fun _ => AllTold faults db) ?_ ?_ ?_ ?_
  · rintro t application t₁ u t' rfl hcreate hsubmit hcommit
    exact htells.committed (hbody hcreate hsubmit) hcommit
  · rintro t rfl hfails
    have hfails' := htells.uncommitted fun application t' hok => by
      obtain ⟨t₁, u, hcreate, hsubmit⟩ := createBody_ok.mp hok
      exact hfails application t₁ u t' hcreate hsubmit
    rw [CreateApplicationUseCase.createBody, endState_bind_pure] at hfails'
    exact hfails'
  · exact fun _ _ => .bind .read fun _ => .pure fun _ h => h
  · exact fun _ e => Uow.rollback_then_throw_refuses e

/-- A decision tells of its two bodies as of one. -/
theorem decision_tells {first second : Application → Transaction Unit} {refusal : ApiError}
    (htells : ∀ application ∈ db.applications,
      Tells faults .decision db (do first application; second application)) :
    Uow.Ensures (fun t => t = ⟨db, []⟩) (do
      let application ← getApplication laaReference
      Uow.transact (first application)
      sendDecision faults (second application) refusal)
      (fun _ => AllTold faults db) (AllTold faults db) := by
  refine .bind getApplication_tells fun application => ?_
  refine Uow.Ensures.staged (K := fun _ => AllTold faults db) ?_ ?_ ?_ ?_
  · rintro t v t₁ u t' ⟨hmem, rfl⟩ hfirst hsecond hcommit
    exact (htells application hmem).committed (bind_ok.mpr ⟨v, t₁, hfirst, hsecond⟩) hcommit
  · rintro t ⟨hmem, rfl⟩ hfails
    refine (htells application hmem).uncommitted fun u t' hbody => ?_
    obtain ⟨v, t₁, hfirst, hsecond⟩ := bind_ok.mp hbody
    exact hfails v t₁ u t' hfirst hsecond
  · exact fun _ _ => .commit
  · exact fun _ _ => Uow.read_rollback_throw_refuses _ _

theorem payment_tells {command : PayInFullClaimCommand} : Uow.Ensures (fun t => t = ⟨db, []⟩)
    (PayInFullClaimUseCase.execute env faults command)
    (fun _ => AllTold faults db) (AllTold faults db) := by
  refine .bind (.check ?_) fun application => ?_
  · rintro t rfl
    exact allTold_start
  have htells : application ∈ db.applications → Tells faults .assessment db
      (PayInFullClaimUseCase.payClaim env faults command application) :=
    fun hmem m _ hleft => payClaim_told hmem List.not_mem_nil hleft
  refine Uow.Ensures.refuse (.inTransaction ?_ ?_) fun e => Uow.rollback_then_throw_refuses _
  · rintro t u t' ⟨hfound, rfl⟩ hbody hcommit
    exact (htells (findDecidedApplication_mem hfound)).committed hbody hcommit
  · rintro t ⟨hfound, rfl⟩ hfails
    exact (htells (findDecidedApplication_mem hfound)).uncommitted hfails

end Requests

/-- The requests that decide on an application, or pay a claim. -/
def CaseRequest.tellsProvider : CaseRequest → Bool
  | .createApplication _ _ _ | .grant _ _ | .refuse _ _ | .claim (.payInFull _) => true
  | _ => false

/-- An email that was accepted in a request is what the request commits, or else a step after
the email has failed and the request commits nothing. -/
theorem told_as_committed (r : CaseSubmission) (db : Store) (m : Notification)
    (hrequest : r.request.tellsProvider = true) (hsent : m ∈ (r.session db).outbox)
    (htells : m.tellsProvider = true) :
    (m.FollowedUp r.faults → m.ShownBy (r.after db))
      ∧ (¬ m.FollowedUp r.faults → r.after db = db) := by
  have hstart : (Session.start db : Session Store Notification OrmObject).view = ⟨db, []⟩ := rfl
  have hall : AllTold r.faults db (r.session db).view := by
    obtain ⟨request, env, faults⟩ := r
    cases request with
    | createApplication request firmCode userOfficeCodes =>
        exact creation_tells.ends (Session.start_clean db) hstart
    | grant laaReference request =>
        refine (decision_tells fun application hmem => ?_).ends (Session.start_clean db) hstart
        exact fun m htells hleft => grantBody_told hmem htells List.not_mem_nil hleft
    | refuse laaReference request =>
        refine (decision_tells fun application hmem => ?_).ends (Session.start_clean db) hstart
        exact fun m _ hleft => refuseBody_told hmem List.not_mem_nil hleft
    | claim request =>
        cases request with
        | payInFull command => exact payment_tells.ends (Session.start_clean db) hstart
        | create command => cases hrequest
        | reject command => cases hrequest
    | updatePublicBodies laaReference publicBodyIds => cases hrequest
    | createNote laaReference noteText => cases hrequest
    | sendApprovedEmails now => cases hrequest
  obtain ⟨hshown, hundone⟩ := hall m hsent htells
  exact ⟨hshown, hundone⟩

theorem told_as_committed_grant :
    ∃ m ∈ (Sample.grant.session Sample.createdStore).outbox,
      m.tellsProvider = true ∧ m.ShownBy (Sample.grant.after Sample.createdStore) := by
  have hsent : (Sample.grant.session Sample.createdStore).outbox.any
      (fun m => m.tellsProvider && m.namesAddress) = true := by decide +kernel
  obtain ⟨m, hm, htest⟩ := List.any_eq_true.mp hsent
  obtain ⟨htells, haddress⟩ := Bool.and_eq_true_iff.mp htest
  obtain ⟨hshown, -⟩ := told_as_committed Sample.grant Sample.createdStore m rfl hm htells
  exact ⟨m, hm, htells, hshown ⟨⟨fun _ _ => rfl, haddress⟩, rfl⟩⟩

/-- A refusal whose commit fails, after its email. -/
def Sample.lostRefusal : CaseSubmission :=
  { refuse with faults := fun call => if call = .commit .decision then some .raised else none }

theorem told_of_lost_refusal :
    ¬ ∀ (r : CaseSubmission) (db : Store) (m : Notification), r.request.tellsProvider = true →
      m ∈ (r.session db).outbox → m.tellsProvider = true → m.ShownBy (r.after db) := by
  intro h
  let db := Sample.createdStore
  have hsent : (Sample.lostRefusal.session db).outbox.any (fun m => match m with
      | .applicationRefused application _ => (Sample.lostRefusal.after db).applications.any fun a =>
          a.applicationId = application.applicationId && a.proceeding.meritsDecision ≠ .refused
      | _ => false) = true := by decide +kernel
  obtain ⟨m, hm, htest⟩ := List.any_eq_true.mp hsent
  cases m with
  | applicationRefused application recipientEmail =>
      obtain ⟨a, ha, hrow⟩ := List.any_eq_true.mp htest
      obtain ⟨hid, hundecided⟩ := Bool.and_eq_true_iff.mp hrow
      obtain ⟨⟨hdecision, -, honly⟩, -⟩ := h Sample.lostRefusal db _ rfl hm rfl
      rw [← honly a ha (of_decide_eq_true hid)] at hdecision
      exact of_decide_eq_true hundecided hdecision
  | _ => cases htest

end InquestsApi
