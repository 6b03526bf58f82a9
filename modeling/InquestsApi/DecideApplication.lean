import InquestsApi.CertificateContext
import InquestsApi.DecideClaim

/-! `GrantDecisionUseCase`, `RefuseDecisionUseCase` and `RetrieveCertificateUseCase`: the
decision on an application, its certificate and its letters. -/
namespace InquestsApi

open UnitOfWork HistoryEventRepository CreateCertificateContext

structure GrantApplicationUpdate where
  certificateStartDate : Date
  deriving DecidableEq

/-- A refusal as its validator leaves it: both fields are given. -/
structure RefuseApplicationUpdate where
  reasonForRefusal : ReasonForRefusal
  justification : String
  deriving DecidableEq, Repr

/-- The lookup of the application loads it into the session. -/
def getApplication (laaReference : String) : Request Application := do
  let application ← Uow.transact (Tx.check (findDecidedApplication laaReference))
  Uow.read .application
  pure application

section Decision

variable (env : Env) (faults : Faults)

def decisionEvent (application : Application) (eventData : List (String × Json)) : NewEvent where
  eventReference := .applicationAssessmentCompleted
  actor := env.user.name
  actorType := .caseworker
  applicationId := application.applicationId
  eventData := eventData

/-- The decision is written and noted, ahead of everything that is sent. -/
def recordDecision (application : Application) (proceeding : ApplicationProceeding)
    (eventData : List (String × Json)) : Transaction Unit := do
  portWrite faults .updateDecision fun s => .ok ((),
    s.updateApplication application.applicationId fun a => { a with proceeding := proceeding })
  createHistoryEvent env faults (decisionEvent env application eventData)

/-- What is sent after the decision is committed with it; the handler names the application
in its log before it rolls back. -/
def sendDecision (body : Transaction Unit) (refusal : ApiError) : Request Unit :=
  tryCatch
    (do
      Uow.inTransaction body (commitFault faults .decision)
      Uow.commit (commitFault faults .decisionHistory))
    fun _ => do
      Uow.read .application
      Uow.rollback
      throw (.call refusal)

end Decision

namespace GrantDecisionUseCase

variable (env : Env) (faults : Faults)

def grantedProceeding (request : GrantApplicationUpdate) (proceeding : ApplicationProceeding) :
    ApplicationProceeding :=
  { proceeding with
    meritsDecision := .granted
    reasonForRefusal := none
    justification := none
    substantiveCostLimitationEffectiveDate := some request.certificateStartDate
    certificateStartDate := some request.certificateStartDate
    certificateIssueDate := some (env.now .readIssueDate).date }

def sendGrantEmail (application : Application) (context : ApplicationCertificate) :
    Transaction Unit := do
  Tx.callOut (faults .generatePdf).isSome (.portFailure .generatePdf)
  Tx.send (faults .sendNotification).isSome (.portFailure .sendNotification)
    (.applicationGranted application context application.provider.emailAddress)

def sendGrantLetter (context : ApplicationCertificate) : Transaction Unit := do
  Tx.callOut (faults .generatePrintLetterPdf).isSome (.portFailure .generatePrintLetterPdf)
  Tx.send (faults .sendLetter).isSome (.portFailure .sendLetter) (.grantLetter context)

def dumpAddress (address : Address) : Json :=
  .fields [("address_line_1", some address.addressLine1), ("address_line_2", address.addressLine2),
    ("town_or_city", some address.townOrCity), ("county", address.county),
    ("postcode", some address.postcode)]

/-- The event of the letter names the address that the certificate has. -/
def letterEvent (application : Application) (context : ApplicationCertificate) :
    Except ApiError NewEvent :=
  match context.clientAddress with
  | none => .error (.attributeError "model_dump")
  | some address =>
    .ok (CreateClaim.systemEvent .applicationGrantedLetter application
      [("recipient", dumpAddress address), ("channel", .text NotificationType.letter.value)])

def certificateEvent (application : Application) : NewEvent where
  eventReference := .certificateCreated
  actor := env.user.name
  actorType := .caseworker
  applicationId := application.applicationId
  eventData := [("laa_reference", .text application.laaReference)]

def sendGrant (application : Application) : Transaction Unit := do
  let certificate ← populateCertificateContext env faults application
  let context := prepareContextForDisplay certificate
  sendGrantEmail faults application context
  createHistoryEvent env faults (certificateEvent env application)
  createHistoryEvent env faults (CreateClaim.emailEvent .applicationGrantedEmail application)
  sendGrantLetter faults context
  let event ← Tx.check fun _ => letterEvent application context
  createHistoryEvent env faults event

def execute (laaReference : String) (request : GrantApplicationUpdate) : Request Unit := do
  let application ← getApplication laaReference
  let proceeding := grantedProceeding env request application.proceeding
  Uow.transact (recordDecision env faults application proceeding
    [("merits_decision", .text "Granted")])
  sendDecision faults (sendGrant env faults { application with proceeding := proceeding })
    (.grantDecision "Failed to grant application.")

end GrantDecisionUseCase

namespace RefuseDecisionUseCase

variable (env : Env) (faults : Faults)

def refusedProceeding (request : RefuseApplicationUpdate) (proceeding : ApplicationProceeding) :
    ApplicationProceeding :=
  { proceeding with
    meritsDecision := .refused
    reasonForRefusal := some request.reasonForRefusal.value
    justification := some request.justification }

def sendRefusal (application : Application) : Transaction Unit := do
  Tx.send (faults .sendNotification).isSome (.portFailure .sendNotification)
    (.applicationRefused application application.provider.emailAddress)
  createHistoryEvent env faults (CreateClaim.emailEvent .applicationRefused application)

def execute (laaReference : String) (request : RefuseApplicationUpdate) : Request Unit := do
  let application ← getApplication laaReference
  let proceeding := refusedProceeding request application.proceeding
  Uow.transact (recordDecision env faults application proceeding
    [("merits_decision", .text "Refused"), ("refusal_reason", .text request.reasonForRefusal.value),
      ("refusal_justification", .text request.justification)])
  sendDecision faults (sendRefusal env faults { application with proceeding := proceeding })
    (.refuseDecision "Failed to refuse application.")

end RefuseDecisionUseCase

namespace RetrieveCertificateUseCase

variable (env : Env) (faults : Faults)

/-- A retrieval reads, and never commits. -/
def execute (laaReference : String) : Request ApplicationCertificate := do
  let application ← getApplication laaReference
  if application.overallDecision ≠ .granted then
    throw (.call (.applicationNotGranted laaReference))
  Uow.transact (populateCertificateContext env faults application)

end RetrieveCertificateUseCase

end InquestsApi
