import InquestsApi.CreateOutcome
import InquestsApi.EvidenceLinks

/-! What the endpoints that a provider may call answer: the search for an application, the claims
of an application, one claim with its decision, and the answer to a new claim. -/
namespace InquestsApi

open UnitOfWork

structure ApplicationSearchResponse where
  laaReference : String
  clientFirstName : String
  clientLastName : String
  clientDateOfBirth : String
  dateSubmitted : Datetime
  firmName : String
  firmNumber : String
  overallDecision : MeritsDecision
  deriving DecidableEq

namespace ApplicationRepository

/-- Whether an application belongs to a firm, at one of the offices. -/
def isOwn (firmCode : String) (officeCodes : List String) (application : Application) : Bool :=
  application.provider.firmCode = firmCode && application.provider.officeId ∈ officeCodes

def searchApplications (laaReference firmCode : String) (officeCodes : List String)
    (meritsDecision : Option MeritsDecision) (s : Store) : List Application :=
  s.applications.filter fun a =>
    isOwn firmCode officeCodes a
      && (a.laaReference = normaliseReference laaReference
        && meritsDecision.all fun decision => a.proceeding.meritsDecision = decision)

end ApplicationRepository

namespace SearchApplicationUseCase

def response (firmName : String) (application : Application) : ApplicationSearchResponse where
  laaReference := application.laaReference
  clientFirstName := application.client.clientFirstName
  clientLastName := application.client.clientLastName
  clientDateOfBirth := application.client.dateOfBirth
  dateSubmitted := application.createdAt
  firmName := firmName
  firmNumber := application.provider.firmCode
  overallDecision := application.overallDecision

/-- The reference is normalised here and in the repository again. -/
def execute (env : Env) (faults : Faults) (laaReference firmCode : String) (officeCodes : List String)
    (meritsDecision : Option MeritsDecision) (s : Store) :
    Except ApiError (List ApplicationSearchResponse) :=
  let matchingApplications := ApplicationRepository.searchApplications
    (normaliseReference laaReference) firmCode officeCodes meritsDecision s
  match matchingApplications.head? with
  | none => .ok []
  | some first =>
    if (faults .getFirmName).isSome then .error (.portFailure .getFirmName)
    else .ok (matchingApplications.map (response (env.firmName first.provider.firmCode)))

end SearchApplicationUseCase

/-- What every answer about a claim shows of it. -/
structure ClaimSummaryBase where
  claimReference : String
  claimTypeId : ClaimType
  submissionDate : Datetime
  totalProfitCostNet : Option Amount
  totalProfitCostGross : Option Amount
  totalProfitCostVatZero : Option Amount
  totalFundsRemainingAfterClaim : Amount
  poaTypeId : Option POAType
  totalAmount : Option Decimal
  deriving DecidableEq

def ClaimSummaryBase.ofClaim (c : Claim) : ClaimSummaryBase where
  claimReference := c.claimReference
  claimTypeId := c.claimTypeId
  submissionDate := c.submissionDate
  totalProfitCostNet := c.totalProfitCostNet
  totalProfitCostGross := c.totalProfitCostGross
  totalProfitCostVatZero := c.totalProfitCostVatZero
  totalFundsRemainingAfterClaim := c.totalFundsRemainingAfterClaim
  poaTypeId := c.poaTypeId
  totalAmount := c.total

structure ClaimSummaryResponse extends ClaimSummaryBase where
  statusId : ClaimStatus
  claimDecisionStatus : Option ClaimDecisionStatus
  deriving DecidableEq

namespace ListApplicationClaimsUseCase

def summary (s : Store) (c : Claim) : ClaimSummaryResponse where
  toClaimSummaryBase := .ofClaim c
  statusId := c.statusId
  claimDecisionStatus := (s.getClaimDecisionByClaimId c.claimId).map (·.decision)

def execute (laaReference : String) (assessed : Bool) (s : Store) :
    Except ApiError (List ClaimSummaryResponse) :=
  match s.getApplicationByLaaReference laaReference with
  | none => .error (.applicationNotFound laaReference)
  | some application =>
    let claims := (s.getClaimsByApplicationId application.applicationId).filter fun c =>
      if assessed then c.statusId ≠ .submitted else c.statusId = .submitted
    .ok (claims.map (summary s))

end ListApplicationClaimsUseCase

structure ClaimEvidenceResponse where
  claimEvidenceId : Uuid
  fileName : String
  fileSize : Option ℤ
  deriving DecidableEq

structure DecisionReasonResponse where
  reasonCode : ReasonCode
  justification : Option String
  deriving DecidableEq

structure ClaimDecisionAmountResponse where
  profitCostNet : Option Amount
  profitCostGross : Option Amount
  profitCostVatZero : Option Amount
  disbursementNet : Option Amount
  disbursementGross : Option Amount
  disbursementVatZero : Option Amount
  deriving DecidableEq

structure ClaimDecisionResponse where
  claimDecisionId : ℕ
  decision : ClaimDecisionStatus
  decisionReasons : List DecisionReasonResponse
  decisionAmount : Option ClaimDecisionAmountResponse
  deriving DecidableEq

structure CostTemplateFileResponse where
  claimCostTemplateFileId : Uuid
  claimCostTemplateFileName : String
  fileSize : Option ℤ
  deriving DecidableEq

structure ClaimByIdResponse extends ClaimSummaryBase where
  substantiveCostLimitation : Option Int32
  claimEvidence : List ClaimEvidenceResponse
  claimDecision : Option ClaimDecisionResponse
  inquestOutcomes : List InquestOutcomeCode
  claimCostTemplateFile : Option CostTemplateFileResponse
  details : BillDetails Amount
  deriving DecidableEq

namespace GetClaimUseCase

section Responses

variable (s : Store)

def evidenceResponse (e : ClaimEvidence) : ClaimEvidenceResponse :=
  ⟨e.claimEvidenceId, e.fileName, e.fileSize⟩

def amountResponse (a : ClaimDecisionAmount) : ClaimDecisionAmountResponse :=
  ⟨a.profitCostNet, a.profitCostGross, a.profitCostVatZero, a.disbursementNet, a.disbursementGross,
    a.disbursementVatZero⟩

def decisionResponse (d : ClaimDecision) : ClaimDecisionResponse where
  claimDecisionId := d.claimDecisionId
  decision := d.decision
  decisionReasons := (s.decisionReasons.filter fun r => r.claimDecisionId = d.claimDecisionId).map
    fun r => ⟨r.reasonCode, r.justification⟩
  decisionAmount := (s.claimDecisionAmounts.find? fun a => a.claimDecisionId = d.claimDecisionId).map
    amountResponse

/-- The size of the file is read from the evidence of that key. -/
def templateResponse (template : ClaimCostTemplate) : CostTemplateFileResponse where
  claimCostTemplateFileId := template.claimCostTemplateFileId
  claimCostTemplateFileName := template.claimCostTemplateFileName
  fileSize := (s.getClaimEvidenceById template.claimCostTemplateFileId).bind (·.fileSize)

def response (application : Application) (c : Claim) : ClaimByIdResponse where
  toClaimSummaryBase := .ofClaim c
  substantiveCostLimitation := application.proceeding.substantiveCostLimitation
  claimEvidence := (s.claimEvidence.filter fun e => e.claimId = some c.claimId).map evidenceResponse
  claimDecision := (s.getClaimDecisionByClaimId c.claimId).map (decisionResponse s)
  inquestOutcomes := (s.claimInquestOutcomes.filter fun o => o.claimId = c.claimId).map
    (·.inquestOutcomeId)
  claimCostTemplateFile := (s.claimCostTemplates.find? fun t => t.claimId = c.claimId).map
    (templateResponse s)
  details := c.details

end Responses

def execute (laaReference claimReference : String) (s : Store) : Except ApiError ClaimByIdResponse :=
  match s.getApplicationByLaaReference laaReference with
  | none => .error (.applicationNotFound laaReference)
  | some application =>
    match s.getClaimByReference claimReference with
    | none => .error (.claimNotFound claimReference)
    | some c =>
      if c.applicationId ≠ application.applicationId then .error (.claimNotFound claimReference)
      else .ok (response s application c)

end GetClaimUseCase

structure ClaimResponse where
  claimReference : String
  rejectionReasons : Option (List ReasonCode)
  deriving DecidableEq

/-- The answer of the endpoint to the end of a create request. -/
def CreateClaim.answer :
    EStateM.Result (Raised ApiError) (Session Store Notification OrmObject) CreateClaimResult →
      Except (Raised ApiError) ClaimResponse
  | .ok result _ => .ok ⟨result.claim.claimReference, result.rejectionReasons⟩
  | .error e _ => .error e

end InquestsApi
