import InquestsApi.DomainClaim

/-! The rows of the claim and history tables. A monetary field is an `Amount`, so a row
never holds more than its `Numeric(10, 2)` column can. -/
namespace InquestsApi

structure Claim where
  claimId : ℕ
  applicationId : ℕ
  claimReference : String
  claimTypeId : ClaimType
  statusId : ClaimStatus
  submissionDate : Datetime
  totalProfitCostNet : Option Amount
  totalProfitCostGross : Option Amount
  totalProfitCostVatZero : Option Amount
  totalFundsRemainingAfterClaim : Amount
  claimantId : Option String
  poaTypeId : Option POAType
  details : BillDetails Amount
  deriving DecidableEq

namespace Claim

variable (c : Claim)

/-- The summary of a stored claim that the rules are given. -/
def summary : ExistingClaimSummary where
  claimType := c.claimTypeId
  status := c.statusId
  poaType := c.poaTypeId
  submissionDate := c.submissionDate
  net := Amount.valueOf c.totalProfitCostNet
  gross := Amount.valueOf c.totalProfitCostGross
  vatZeroTotal := Amount.valueOf c.totalProfitCostVatZero

/-- The claim total of the stored fields. -/
def total : Option Decimal :=
  resolveClaimTotal (Amount.valueOf c.totalProfitCostGross)
    (Amount.valueOf c.totalProfitCostVatZero)

def isActiveFinalBill : Bool := c.claimTypeId.isFinalBill && c.statusId.isActive

def withStatus (status : ClaimStatus) : Claim := { c with statusId := status }

@[simp] theorem withStatus_claimId (status : ClaimStatus) :
    (c.withStatus status).claimId = c.claimId := rfl
@[simp] theorem withStatus_applicationId (status : ClaimStatus) :
    (c.withStatus status).applicationId = c.applicationId := rfl
@[simp] theorem withStatus_claimReference (status : ClaimStatus) :
    (c.withStatus status).claimReference = c.claimReference := rfl
@[simp] theorem withStatus_claimTypeId (status : ClaimStatus) :
    (c.withStatus status).claimTypeId = c.claimTypeId := rfl
@[simp] theorem withStatus_statusId (status : ClaimStatus) :
    (c.withStatus status).statusId = status := rfl
@[simp] theorem withStatus_total (status : ClaimStatus) : (c.withStatus status).total = c.total := rfl

/-- What the paid claims of a list add up to, by their stored fields. -/
def paidTotal (claims : List Claim) : Decimal :=
  ((claims.filter fun c => c.statusId = .payInFull).map fun c => c.total.getD 0).sum

theorem paidTotal_summary (claims : List Claim) :
    InquestsApi.paidTotal (claims.map (·.summary)) = paidTotal claims := by
  unfold InquestsApi.paidTotal paidTotal
  rw [List.filter_map, List.map_map]
  rfl

end Claim

structure ClaimDecision where
  claimDecisionId : ℕ
  claimId : ℕ
  decision : ClaimDecisionStatus
  createdAt : Datetime
  deriving DecidableEq

structure DecisionReason where
  decisionReasonId : ℕ
  claimDecisionId : ℕ
  reasonCode : ReasonCode
  justification : Option String
  deriving DecidableEq, Repr

structure ClaimDecisionAmount where
  claimDecisionAmountId : ℕ
  claimDecisionId : ℕ
  profitCostNet : Option Amount
  profitCostGross : Option Amount
  profitCostVatZero : Option Amount
  disbursementNet : Option Amount
  disbursementGross : Option Amount
  disbursementVatZero : Option Amount
  deriving DecidableEq, Repr

structure ClaimPaymentExtract where
  claimPaymentExtractId : ℕ
  claimId : ℕ
  sequenceNumber : ℕ
  invoiceNumber : String
  invoiceAmount : Amount
  invoiceDate : Date
  invoiceType : InvoiceTypeCode
  taxCode : TaxCode
  createdAt : Datetime
  deriving DecidableEq

structure ClaimEvidence where
  claimEvidenceId : Uuid
  sdsFileName : String
  fileName : String
  fileSize : Option ℤ
  claimId : Option ℕ
  deriving DecidableEq, Repr

structure ClaimInquestOutcome where
  claimInquestOutcomeId : ℕ
  claimId : ℕ
  inquestOutcomeId : InquestOutcomeCode
  deriving DecidableEq, Repr

structure ClaimCostTemplate where
  claimCostTemplateId : ℕ
  claimId : ℕ
  claimCostTemplateFileId : Uuid
  claimCostTemplateFileName : String
  deriving DecidableEq, Repr

structure HistoryEvent where
  id : ℕ
  eventReference : HistoryEventReference
  timestamp : Datetime
  actor : String
  actorType : ActorType
  entraUserObjectId : Option String
  actorEmailAddress : Option String
  eventData : List (String × Json)
  applicationId : ℕ
  deriving DecidableEq

end InquestsApi
