import InquestsApi.Store

/-! `CreateClaimUseCase`: a claim is checked and committed as submitted, its confirmation is
sent, and it may then be rejected or approved without a caseworker, each in a transaction
of its own. -/
namespace InquestsApi

open UnitOfWork

/-- The objects of a request's session whose attributes its handlers read. -/
inductive OrmObject where
  | claim
  | application
  | listedClaim (index : ℕ)
  deriving DecidableEq, Repr

abbrev Request (α : Type) := Uow ApiError Store Notification OrmObject α

def commitFault (faults : Faults) (stage : Stage) : Option ApiError :=
  (faults (.commit stage)).map fun _ => .portFailure (.commit stage)

structure CreateClaimCommand where
  laaReference : String
  firmCode : String
  officeCodes : List String
  claimType : ClaimType
  poaType : Option POAType
  net : Option Decimal
  gross : Option Decimal
  vatZeroTotal : Option Decimal
  claimantId : Option String
  claimEvidenceIds : Option (List Uuid)
  inquestOutcomes : List InquestOutcomeCode
  costTemplateFileId : Option Uuid
  costTemplateFileName : Option String
  details : BillDetails Decimal
  deriving DecidableEq

structure CreateClaimResult where
  claim : Claim
  rejectionReasons : Option (List ReasonCode)
  deriving DecidableEq

/-- What the checks of a request leave for its writes. -/
structure PreparedClaim where
  application : Application
  validatedClaim : DomainClaim
  existingSummaries : List ExistingClaimSummary
  totalFundsRemainingAfterClaim : Decimal
  deriving DecidableEq

def asInvalidClaim {α : Type} : Except ClaimValidationError α → Except ApiError α
  | .ok a => .ok a
  | .error e => .error (.invalidClaim e.code e.message)

@[simp] theorem asInvalidClaim_ok {α : Type} {m : Except ClaimValidationError α} {a : α} :
    asInvalidClaim m = .ok a ↔ m = .ok a := by
  cases m <;> simp [asInvalidClaim]

namespace CreateClaim

section Checks

variable (command : CreateClaimCommand)

def checkEvidence : Except ApiError Unit :=
  if command.claimType = .nilBill then
    if command.claimEvidenceIds.isSome then
      .error (.invalidClaim .claimEvidenceNotAllowed Message.claimEvidenceNotAllowed)
    else .ok ()
  else if command.claimEvidenceIds.getD [] = [] then
    .error (.invalidClaim .missingClaimEvidence Message.missingClaimEvidence)
  else .ok ()

def findApplication (s : Store) : Except ApiError Application :=
  match s.getApplicationByLaaReference command.laaReference with
  | none => .error (.applicationNotFound command.laaReference)
  | some application =>
    if application.provider.firmCode ≠ command.firmCode then
      .error (.applicationNotFound command.laaReference)
    else if application.provider.officeId ∉ command.officeCodes then
      .error (.providerOfficeMismatch command.laaReference)
    else if ¬ application.isGranted then
      .error (.invalidClaim .applicationNotGranted Message.applicationNotGranted)
    else .ok application

def domainClaim : DomainClaim where
  claimType := command.claimType
  poaType := command.poaType
  net := command.net
  gross := command.gross
  vatZeroTotal := command.vatZeroTotal
  inquestOutcomes := command.inquestOutcomes
  costTemplateFileId := command.costTemplateFileId
  costTemplateFileName := command.costTemplateFileName
  details := command.details

def validateClaim : Except ClaimValidationError DomainClaim := do
  (domainClaim command).postInit
  (domainClaim command).validateTotalClaimCost

/-- The claims of an application with their latest decisions. -/
def existingClaimAmounts (applicationId : ℕ) (s : Store) : List ApprovedClaimAmount :=
  (s.getClaimsByApplicationId applicationId).map fun c =>
    { decision := (s.getClaimDecisionByClaimId c.claimId).map (·.decision)
      gross := Amount.valueOf c.totalProfitCostGross
      vatZeroTotal := Amount.valueOf c.totalProfitCostVatZero }

/-- `_calculate_total_funds_remaining`. -/
def calculateTotalFundsRemaining (application : Application) (validatedClaim : DomainClaim)
    (s : Store) : Decimal :=
  let fundsBeforeNewClaim := calculateAvailableFunds
    application.proceeding.substantiveCostLimitation
    (existingClaimAmounts application.applicationId s)
  let newClaimAmount := ApprovedClaimAmount.paymentAmount
    ⟨none, validatedClaim.gross, validatedClaim.vatZeroTotal⟩
  bankersRound (decimalSub fundsBeforeNewClaim newClaimAmount)

/-- An amount of two decimals, unless `quantize` raises for want of digits. -/
def quantize (rounded : Decimal) : Except ApiError Decimal :=
  if |rounded| < quantizeBound then .ok rounded else .error .invalidOperation

theorem quantize_ok {rounded amount : Decimal} :
    quantize rounded = .ok amount ↔ |rounded| < quantizeBound ∧ amount = rounded := by
  unfold quantize
  split_ifs with h
  · simp [h, eq_comm]
  · simp [h]

/-- Everything the request reads and checks before its first write. -/
def prepare (s : Store) : Except ApiError PreparedClaim := do
  checkEvidence command
  let application ← findApplication command s
  let validatedClaim ← asInvalidClaim (validateClaim command)
  let existingSummaries := (s.getClaimsByApplicationId application.applicationId).map (·.summary)
  asInvalidClaim (DomainClaim.validateNoActiveFinalBill existingSummaries)
  let totalFundsRemainingAfterClaim ← quantize (calculateTotalFundsRemaining application validatedClaim s)
  pure
    { application := application
      validatedClaim := validatedClaim
      existingSummaries := existingSummaries
      totalFundsRemainingAfterClaim := totalFundsRemainingAfterClaim }

/-- What the checks of a request have found when they pass. -/
structure Prepares (s : Store) (prepared : PreparedClaim) : Prop where
  evidence : checkEvidence command = .ok ()
  application : findApplication command s = .ok prepared.application
  validatedClaim : validateClaim command = .ok prepared.validatedClaim
  existingSummaries : prepared.existingSummaries
    = (s.getClaimsByApplicationId prepared.application.applicationId).map (·.summary)
  noActiveFinalBill : DomainClaim.validateNoActiveFinalBill prepared.existingSummaries = .ok ()
  funds : quantize (calculateTotalFundsRemaining prepared.application prepared.validatedClaim s)
    = .ok prepared.totalFundsRemainingAfterClaim

variable {command} in
theorem prepare_ok {s : Store} {prepared : PreparedClaim} (h : prepare command s = .ok prepared) :
    Prepares command s prepared := by
  simp only [prepare, except_bind_ok, asInvalidClaim_ok, except_pure_ok] at h
  obtain ⟨⟨⟩, hevidence, application, happlication, validated, hvalid, ⟨⟩, hbill, funds, hfunds, rfl⟩ := h
  exact ⟨hevidence, happlication, hvalid, rfl, hbill, hfunds⟩

end Checks

section Transactions

variable (env : Env) (faults : Faults) (command : CreateClaimCommand) (prepared : PreparedClaim)
variable (claim : Claim)

open ClaimRepository HistoryEventRepository

def submittedEvent : NewEvent where
  eventReference := .claimSubmitted
  actor := command.claimantId
  actorType := .provider
  applicationId := prepared.application.applicationId
  eventData := [("claim_type", .text command.claimType.value),
    ("claim_reference", .text claim.claimReference)]

def systemEvent (eventReference : HistoryEventReference) (application : Application)
    (eventData : List (String × Json)) : NewEvent where
  eventReference := eventReference
  actor := some ActorType.system.value
  actorType := .system
  applicationId := application.applicationId
  eventData := eventData

/-- The event of a message sent to the provider of an application. -/
def emailEvent (eventReference : HistoryEventReference) (application : Application) : NewEvent :=
  systemEvent eventReference application
    [("recipient", .text application.provider.emailAddress),
      ("channel", .text NotificationType.email.value)]

def linkEvidence : Transaction Unit :=
  match command.claimEvidenceIds with
  | some evidenceIds => linkEvidenceToClaim faults claim.claimId evidenceIds
  | none => pure ()

def linkCostTemplate : Transaction Unit :=
  match command.costTemplateFileId, command.costTemplateFileName with
  | some fileId, some fileName => linkCostTemplateToClaim faults claim.claimId fileId fileName
  | _, _ => pure ()

def linkAttachments : Transaction Unit := do
  linkEvidence faults command claim
  linkInquestOutcomesToClaim faults claim.claimId command.inquestOutcomes
  linkCostTemplate faults command claim

def submitClaim : Transaction Claim := do
  let claim ← createClaim env faults prepared.application.applicationId prepared.validatedClaim
    command.claimantId prepared.totalFundsRemainingAfterClaim
  linkAttachments faults command claim
  createHistoryEvent env faults (submittedEvent command prepared claim)
  pure claim

def confirmSubmission : Transaction Unit := do
  let provider := prepared.application.provider
  createHistoryEvent env faults (emailEvent .claimSubmissionConfirmation prepared.application)
  Tx.callOut (faults .getFirmName).isSome (.portFailure .getFirmName)
  Tx.send (faults .sendNotification).isSome (.portFailure .sendNotification)
    (.claimSubmitConfirmation claim prepared.application.laaReference provider.emailAddress
      (env.firmName provider.firmCode))

def createDecisionReasons (claimDecisionId : ℕ) : (index : ℕ) → List ReasonCode → Transaction Unit
  | _, [] => pure ()
  | index, reasonCode :: rest => do
    createDecisionReason faults index claimDecisionId reasonCode none
    createDecisionReasons claimDecisionId (index + 1) rest

def autoRejectClaim (reasonCodes : List ReasonCode) : Transaction Unit := do
  let claimDecision ← createClaimDecision env faults claim.claimId .reject
  createDecisionReasons faults claimDecision.claimDecisionId 0 reasonCodes
  updateClaimStatus faults claim.claimId .rejected
  createHistoryEvent env faults (systemEvent .poaAutoRejected prepared.application
    [("claim_reference", .text claim.claimReference)])

def submittedPoaLines : Except ApiError (List PaymentExtractLine) :=
  match poaClaimPaymentExtractLines claim (payInFullClaimFromSubmittedPoaClaim claim) with
  | some lines => .ok lines
  | none => .error (.valueError "POA profit cost extract requires a net or vat_zero amount")

def autoApproveClaim : Transaction Unit := do
  let claimDecision ← createClaimDecision env faults claim.claimId .payInFull
  createClaimDecisionAmount faults claimDecision.claimDecisionId
    (payInFullClaimFromSubmittedPoaClaim claim)
  let lines ← Tx.check fun _ => submittedPoaLines claim
  createPaymentExtract env faults claim.claimId 0 lines
  updateClaimStatus faults claim.claimId .payInFull
  createHistoryEvent env faults (systemEvent .poaAutoApproved prepared.application
    [("claim_reference", .text claim.claimReference)])

end Transactions

section Requests

variable (env : Env) (faults : Faults) (command : CreateClaimCommand) (prepared : PreparedClaim)
variable (claim : Claim)

/-- The logging of the new claim reads its key, which loads the claim again after the
commit has expired it. -/
def submit : Request Claim :=
  Uow.orRollback do
    let claim ← Uow.inTransaction (submitClaim env faults command prepared)
      (commitFault faults .submission)
    Uow.read .claim
    pure claim

/-- The handler logs the key of the claim before it rolls back. -/
def notify : Request Unit :=
  tryCatch
    (Uow.inTransaction (confirmSubmission env faults prepared claim)
      (commitFault faults .confirmation))
    fun _ => do
      Uow.read .claim
      Uow.rollback

/-- A failed automatic decision leaves the claim to a caseworker. -/
def autoDecision (body : Transaction Unit) (stage : Stage) (decided : CreateClaimResult) :
    Request CreateClaimResult :=
  tryCatch
    (do
      Uow.inTransaction body (commitFault faults stage)
      pure decided)
    fun _ => do
      Uow.rollback
      Uow.read .claim
      pure ⟨claim.withStatus .submitted, none⟩

/-- What a request decides about its claim without a caseworker. -/
inductive AutoOutcome where
  | reject (reasonCodes : List ReasonCode)
  | approve
  | hold
  deriving DecidableEq, Repr

/-- `none` is the error of an early-claim check that leaves the calendar. -/
def autoOutcome : Option AutoOutcome :=
  (prepared.validatedClaim.shouldAutoReject prepared.application prepared.existingSummaries
    (env.now .readReferenceDate)).map fun rejection =>
      if rejection.isRejected then .reject (rejection.reasons.map (·.toReasonCode))
      else if ¬ prepared.validatedClaim.requiresManualReview prepared.application
            prepared.existingSummaries
          ∧ prepared.validatedClaim.isEligibleForAutoApproval prepared.application then .approve
      else .hold

def decide : Request CreateClaimResult :=
  match autoOutcome env prepared with
  | none => throw (.call (.valueError "year 10000 is out of range"))
  | some (.reject reasonCodes) =>
    autoDecision faults claim (autoRejectClaim env faults prepared claim reasonCodes) .autoReject
      ⟨claim.withStatus .rejected, some reasonCodes⟩
  | some .approve =>
    autoDecision faults claim (autoApproveClaim env faults prepared claim) .autoApprove
      ⟨claim.withStatus .payInFull, none⟩
  | some .hold => pure ⟨claim, none⟩

def execute : Request CreateClaimResult := do
  let prepared ← Uow.transact (Tx.check (prepare command))
  let claim ← submit env faults command prepared
  notify env faults prepared claim
  decide env faults prepared claim

end Requests

end CreateClaim

end InquestsApi
