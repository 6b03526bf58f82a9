import InquestsApi.CreateClaim

/-! `PayInFullClaimUseCase` and `RejectClaimUseCase`: a caseworker decides a claim that is
awaiting assessment, in one transaction that holds the claim's row. -/
namespace InquestsApi

open UnitOfWork ClaimRepository HistoryEventRepository

structure PayInFullClaimCommand where
  laaReference : String
  claimReference : String
  profitCostNet : Option Decimal
  profitCostGross : Option Decimal
  profitCostVatZero : Option Decimal
  disbursementNet : Option Decimal
  disbursementGross : Option Decimal
  disbursementVatZero : Option Decimal
  deriving DecidableEq, Repr

structure RejectClaimCommand where
  laaReference : String
  claimReference : String
  justification : String
  deriving DecidableEq, Repr

/-- The application a decision names. -/
def findDecidedApplication (laaReference : String) (s : Store) : Except ApiError Application :=
  match s.getApplicationByLaaReference laaReference with
  | none => .error (.applicationNotFound laaReference)
  | some application => .ok application

/-- The claim a decision is about: of the named application, and still to be decided. -/
def claimForAssessment (claimReference : String) (applicationId : ℕ) (s : Store) :
    Except ApiError Claim :=
  match s.getClaimByReference claimReference with
  | none => .error (.claimNotFound claimReference)
  | some claim =>
    if claim.applicationId ≠ applicationId then .error (.claimNotFound claimReference)
    else if ¬ isClaimAwaitingAssessment claim.statusId then
      .error (.claimAssessmentConflict "Claim is not awaiting assessment")
    else .ok claim

/-- The event of an assessment by the signed-in caseworker. -/
def assessmentEvent (env : Env) (application : Application) (claim : Claim) (status : ClaimStatus)
    (details : List (String × Json)) : NewEvent where
  eventReference := .claimAssessmentCompleted
  actor := env.user.name
  actorType := .caseworker
  applicationId := application.applicationId
  eventData := [("claim_type", .text claim.claimTypeId.value),
    ("claim_reference", .text claim.claimReference),
    ("claim_decision", .text status.value)] ++ details

namespace PayInFullClaimUseCase

section Lines

variable (claim : Claim) (decisionAmounts : PayInFullClaim)

def finalOrNilBillPaymentExtractLines : List PaymentExtractLine :=
  let invoiceDate := claim.submissionDate.date
  if decisionAmounts.isNilBill then
    [buildFinalBillNilFeesExtract claim.claimReference 1 invoiceDate]
  else
    let fees := (buildFinalBillFeesExtract claim.claimReference 1 invoiceDate
      decisionAmounts.profitCostGross decisionAmounts.profitCostVatZero).toList
    fees ++ buildFinalBillDisbursementExtract claim.claimReference (fees.length + 1) invoiceDate
      decisionAmounts.disbursementGross decisionAmounts.disbursementVatZero

/-- The paid Payment on account claims of an application, but for the claim at hand. -/
def recoupablePoaClaims (applicationId currentClaimId : ℕ) (s : Store) : List Claim :=
  (s.getClaimsByApplicationId applicationId).filter fun c =>
    c.claimId ≠ currentClaimId && c.claimTypeId = .paymentOnAccount && c.statusId = .payInFull

def recoupmentSource (e : ClaimPaymentExtract) : RecoupmentSourceLine :=
  ⟨e.invoiceNumber, e.invoiceAmount.value, e.taxCode⟩

/-- One recoupment for each line of each claim, numbered on from claim to claim. -/
def recoupmentLinesOf (decisionDate : Date) (s : Store) :
    (startSequence : ℕ) → List Claim → List PaymentExtractLine
  | _, [] => []
  | sequence, poaClaim :: rest =>
    let lines := buildRecoupmentExtract sequence decisionDate
      ((s.getPaymentExtractsByClaimId poaClaim.claimId).map recoupmentSource)
    lines ++ recoupmentLinesOf decisionDate s (sequence + lines.length) rest

def recoupmentLines (applicationId startSequence : ℕ) (decisionDate : Date) (s : Store) :
    List PaymentExtractLine :=
  recoupmentLinesOf decisionDate s startSequence
    (recoupablePoaClaims applicationId claim.claimId s)

/-- The lines of a decision; `none` is the error of the profit cost builder. -/
def paymentExtractLines (applicationId : ℕ) (decisionDate : Date) (s : Store) :
    Option (List PaymentExtractLine) :=
  if claim.claimTypeId = .paymentOnAccount then poaClaimPaymentExtractLines claim decisionAmounts
  else
    let lines := finalOrNilBillPaymentExtractLines claim decisionAmounts
    some (lines ++ recoupmentLines claim applicationId (lines.length + 1) decisionDate s)

end Lines

variable (env : Env) (faults : Faults) (command : PayInFullClaimCommand)

def hasNoAmounts : Bool :=
  command.profitCostNet = none && command.profitCostGross = none
    && command.profitCostVatZero = none && command.disbursementNet = none
    && command.disbursementGross = none && command.disbursementVatZero = none

/-- A Payment on account claim paid without amounts is paid as it was submitted. -/
def decisionAmounts (claim : Claim) : PayInFullClaim :=
  if claim.claimTypeId = .paymentOnAccount ∧ hasNoAmounts command then
    payInFullClaimFromSubmittedPoaClaim claim
  else
    { claimTypeId := claim.claimTypeId
      poaTypeId := claim.poaTypeId
      profitCostNet := command.profitCostNet
      profitCostGross := command.profitCostGross
      profitCostVatZero := command.profitCostVatZero
      disbursementNet := command.disbursementNet
      disbursementGross := command.disbursementGross
      disbursementVatZero := command.disbursementVatZero }

def validateAmounts (decisionAmounts : PayInFullClaim) : Except ApiError Unit :=
  match decisionAmounts.validate with
  | .ok () => .ok ()
  | .error e => .error (.claimValidation e)

def createPaymentExtractLines (claim : Claim) (application : Application)
    (decisionAmounts : PayInFullClaim) (decisionDate : Date) : Transaction Unit := do
  let lines ← Tx.check fun s =>
    match paymentExtractLines claim decisionAmounts application.applicationId decisionDate s with
    | some lines => .ok lines
    | none => .error (.valueError "POA profit cost extract requires a net or vat_zero amount")
  createPaymentExtract env faults claim.claimId 0 lines

def jsonAmount (x : Option Decimal) : Json :=
  match x with
  | some x => .amount x
  | none => .null

def amountDetails (p : PayInFullClaim) : List (String × Json) :=
  [("profit_cost_net", jsonAmount p.profitCostNet),
    ("profit_cost_gross", jsonAmount p.profitCostGross),
    ("profit_cost_vat_zero", jsonAmount p.profitCostVatZero),
    ("disbursement_net", jsonAmount p.disbursementNet),
    ("disbursement_gross", jsonAmount p.disbursementGross),
    ("disbursement_vat_zero", jsonAmount p.disbursementVatZero)]

def sendPayInFullDecisionEmail (claim : Claim) (application : Application) (firmName : String)
    (decisionAmounts : PayInFullClaim) : Transaction Unit := do
  let email := application.provider.emailAddress
  let isPoa : Bool := claim.claimTypeId = .paymentOnAccount
  Tx.send (faults .sendNotification).isSome (.portFailure .sendNotification)
    (if isPoa then .claimGranted claim application.laaReference email firmName
     else .claimFinalBillPaid claim application.laaReference email firmName decisionAmounts)
  createHistoryEvent env faults (CreateClaim.emailEvent
    (if isPoa then .claimApprovedEmail else .claimFinalBillPaidEmail) application)

/-- The claim as it was read is what the later steps are given; the status they write is
seen by the message only. -/
def payAssessedClaim (application : Application) (claim : Claim) : Transaction Unit := do
  let decisionAmounts := decisionAmounts command claim
  Tx.check fun _ => validateAmounts decisionAmounts
  let claimDecision ← createClaimDecision env faults claim.claimId .payInFull
  createClaimDecisionAmount faults claimDecision.claimDecisionId decisionAmounts
  updateClaimStatus faults claim.claimId .payInFull
  createPaymentExtractLines env faults claim application decisionAmounts
    claimDecision.createdAt.date
  createHistoryEvent env faults (assessmentEvent env application claim .payInFull
    (amountDetails decisionAmounts))
  Tx.callOut (faults .getFirmName).isSome (.portFailure .getFirmName)
  sendPayInFullDecisionEmail env faults (claim.withStatus .payInFull) application
    (env.firmName application.provider.firmCode) decisionAmounts

/-- The row of the claim is locked when it is read, until the transaction ends. -/
def payClaim (application : Application) : Transaction Unit := do
  let claim ← Tx.check (claimForAssessment command.claimReference application.applicationId)
  payAssessedClaim env faults command application claim

/-- A refusal of the amounts leaves the request as an invalid claim. -/
def raisedError : Raised ApiError → Raised ApiError
  | .call (.claimValidation e) => .call (.invalidClaim e.code e.message)
  | e => e

def execute : Request Unit := do
  let application ← Uow.transact (Tx.check (findDecidedApplication command.laaReference))
  tryCatch
    (Uow.inTransaction (payClaim env faults command application) (commitFault faults .assessment))
    fun e => do
      Uow.rollback
      throw (raisedError e)

end PayInFullClaimUseCase

namespace RejectClaimUseCase

variable (env : Env) (faults : Faults) (command : RejectClaimCommand)

def rejectAssessedClaim (application : Application) (claim : Claim) : Transaction Claim := do
  let claimDecision ← createClaimDecision env faults claim.claimId .reject
  createDecisionReason faults 0 claimDecision.claimDecisionId .manualRejection
    (some command.justification)
  updateClaimStatus faults claim.claimId .rejected
  createHistoryEvent env faults (assessmentEvent env application claim .rejected
    [("decision_justification", .text command.justification)])
  createHistoryEvent env faults (CreateClaim.emailEvent .claimRejectedEmail application)
  pure (claim.withStatus .rejected)

/-- The row of the claim is locked when it is read, until the transaction ends. -/
def rejectClaim (application : Application) : Transaction Claim := do
  let claim ← Tx.check (claimForAssessment command.claimReference application.applicationId)
  rejectAssessedClaim env faults command application claim

def sendRejectionEmail (application : Application) (claim : Claim) : Transaction Unit := do
  Tx.callOut (faults .getFirmName).isSome (.portFailure .getFirmName)
  Tx.send (faults .sendNotification).isSome (.portFailure .sendNotification)
    (.claimRejected claim application.laaReference command.justification claim.claimantId
      (env.firmName application.provider.firmCode))

/-- The message goes out after the commit; its failure is only logged. -/
def execute : Request Unit := do
  let application ← Uow.transact (Tx.check (findDecidedApplication command.laaReference))
  let claim ← Uow.orRollback (Uow.inTransaction (rejectClaim env faults command application)
    (commitFault faults .assessment))
  tryCatch (Uow.transact (sendRejectionEmail env faults command application claim))
    fun _ => pure ()

end RejectClaimUseCase

end InquestsApi
