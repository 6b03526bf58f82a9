import InquestsApi.Lib.UnitOfWork
import InquestsApi.PaymentExtract

/-! What a request meets outside the domain: its ports' calls and how they can fail, the
clock, the signed-in user, the random draws, and the messages it sends. -/
namespace InquestsApi

open UnitOfWork

/-- The transactions that a request commits. -/
inductive Stage where
  | application
  | publicBodies
  | note
  | submission
  | confirmation
  | autoReject
  | autoApprove
  | assessment
  | decision
  | decisionHistory
  | approvedEmail
  deriving DecidableEq, Repr

/-- The port calls of a request. No request makes the same call twice; a job that goes
through claims makes its calls for one after another. -/
inductive Call where
  | createApplication
  | createClaim
  | linkEvidenceToClaim
  | linkInquestOutcomesToClaim
  | linkCostTemplateToClaim
  | createHistoryEvent (eventReference : HistoryEventReference)
  | createClaimDecision
  | createClaimDecisionAmount
  | createDecisionReason (index : ℕ)
  | createPaymentExtract (index : ℕ)
  | updateClaimStatus
  | updateDecision
  | updatePublicBodies
  | createDuplicateRecords
  | doesOfficeExist
  | getFirmName
  | getOfficeAddress
  | generatePdf
  | generatePrintLetterPdf
  | sendNotification
  | sendLetter
  | readReferenceDate
  | readIssueDate
  | readCertificateDate (index : ℕ)
  | commit (stage : Stage)
  | ofClaim (index : ℕ) (call : Call)
  deriving DecidableEq, Repr

/-- Which calls of a request fail, and how. -/
abbrev Faults := Call → Option Fault

def noFaults : Faults := fun _ => none

/-- The faults of a job's calls for one of its claims. -/
def Faults.ofClaim (faults : Faults) (index : ℕ) : Faults := fun call => faults (.ofClaim index call)

inductive ApiError where
  | applicationNotFound (laaReference : String)
  | applicationNotGranted (laaReference : String)
  | providerOfficeMismatch (message : String)
  | providerDetailsRetrieval (message : String)
  | lookupError (message : String)
  | invalidClaim (code : ClaimErrorCode) (message : String)
  | claimValidation (e : ClaimValidationError)
  | claimNotFound (claimReference : String)
  | claimAssessmentConflict (message : String)
  | grantDecision (message : String)
  | refuseDecision (message : String)
  | runtimeError (message : String)
  | valueError (message : String)
  | attributeError (name : String)
  | uniqueViolation (constraint : String)
  | numericOverflow
  | invalidOperation
  | portFailure (call : Call)
  deriving DecidableEq, Repr

inductive Notification where
  | applicationSubmitted (application : Application) (recipientEmail : String)
  | applicationRefused (application : Application) (recipientEmail : String)
  | applicationGranted (application : Application) (context : ApplicationCertificate)
      (recipientEmail : String)
  | grantLetter (context : ApplicationCertificate)
  | claimSubmitConfirmation (claim : Claim) (laaReference recipientEmail firmName : String)
  | claimRejected (claim : Claim) (laaReference rejectReason : String)
      (recipientEmail : Option String) (firmName : String)
  | claimGranted (claim : Claim) (laaReference recipientEmail firmName : String)
  | claimFinalBillPaid (claim : Claim) (laaReference recipientEmail firmName : String)
      (decisionAmounts : PayInFullClaim)
  deriving DecidableEq

structure EntraUser where
  name : Option String
  objectId : Option String
  emailAddress : Option String
  deriving DecidableEq, Repr

/-- The letters and digits that references are drawn from, without the ambiguous ones. -/
def allowedCharacters : List Char := "ACEFHJKLMNPRTUVWXY3479".toList

abbrev ReferenceCharacter := { c : Char // c ∈ allowedCharacters }

/-- Two groups of random characters. -/
structure ReferenceDraw (length : ℕ) where
  first : Fin length → ReferenceCharacter
  second : Fin length → ReferenceCharacter

structure Env where
  user : EntraUser
  now : Call → Datetime
  bannedWords : List String
  draws : ℕ → ReferenceDraw 4
  applicationDraws : ℕ → ReferenceDraw 3
  lowering : Lowering
  officeExists : String → Bool
  firmName : String → String
  officeAddress : String → Address

def Env.ofClaim (env : Env) (index : ℕ) : Env :=
  { env with now := fun call => env.now (.ofClaim index call) }

end InquestsApi
