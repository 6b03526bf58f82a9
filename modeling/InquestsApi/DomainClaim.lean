import InquestsApi.Application
import InquestsApi.ClaimErrors
import InquestsApi.Money

/-! The claim as its rules see it: what a submission must contain, how its totals are
normalised, and when it is rejected, held or approved without a caseworker. -/
namespace InquestsApi

abbrev Uuid := BitVec 128

def maxProfitCostPoaClaimCount : ℕ := 4
def minMonthsBeforeProfitCostPoa : ℕ := 3
def autoApprovalMaxTotal : Decimal := 50000

/-- The details that only final and nil bills carry. -/
structure BillDetails (δ : Type) where
  hasCounselBeenPaid : Option Bool
  hasAlternativeFunding : Option Bool
  hasRecoveryCostsAwarded : Option Bool
  financialRecoveryPreviousPreCertificateCosts : Option δ
  financialRecoveryCost : Option δ
  financialRecoveryDamages : Option δ
  financialRecoveryInterest : Option δ
  payingParty : Option String
  numberOfCounselInstructed : Option NumberOfCounselInstructed
  deriving DecidableEq, Repr

namespace BillDetails

variable {δ : Type}

/-- Which of the recovery details are given. -/
def recoveryDetailValues (d : BillDetails δ) : List Bool :=
  [d.hasAlternativeFunding.isSome, d.hasRecoveryCostsAwarded.isSome,
    d.financialRecoveryPreviousPreCertificateCosts.isSome, d.financialRecoveryCost.isSome,
    d.financialRecoveryDamages.isSome, d.financialRecoveryInterest.isSome, d.payingParty.isSome]

/-- Which of the counsel details are given. -/
def counselDetailValues (d : BillDetails δ) : List Bool :=
  [d.hasCounselBeenPaid.isSome, d.numberOfCounselInstructed.isSome]

def empty : BillDetails δ := ⟨none, none, none, none, none, none, none, none, none⟩

end BillDetails

structure DomainClaim where
  claimType : ClaimType
  poaType : Option POAType
  net : Option Decimal
  gross : Option Decimal
  vatZeroTotal : Option Decimal
  inquestOutcomes : List InquestOutcomeCode
  costTemplateFileId : Option Uuid
  costTemplateFileName : Option String
  details : BillDetails Decimal
  deriving DecidableEq, Repr

/-- An earlier claim of the application, as the rules look at it. -/
structure ExistingClaimSummary where
  claimType : ClaimType
  status : ClaimStatus
  poaType : Option POAType
  submissionDate : Datetime
  net : Option Decimal
  gross : Option Decimal
  vatZeroTotal : Option Decimal
  deriving DecidableEq

def isClaimAwaitingAssessment (status : ClaimStatus) : Bool := status = .submitted

/-- `FINAL_BILL_CLAIM_TYPES`, which is also `INQUEST_OUTCOME_CLAIM_TYPES`. -/
def ClaimType.isFinalBill (t : ClaimType) : Bool := t = .finalBill || t = .nilBill

/-- `ACTIVE_FINAL_BILL_STATUSES`. -/
def ClaimStatus.isActive (s : ClaimStatus) : Bool := s = .submitted || s = .payInFull

namespace DomainClaim

section Construction

variable (claim : DomainClaim)

def validateClaimTypePoaCombination : Except ClaimValidationError Unit := do
  refuseWhen (claim.claimType = .paymentOnAccount ∧ claim.poaType = none)
    .missingPoaTypeForPaymentOnAccount Message.missingPoaType
  refuseWhen (claim.claimType ≠ .paymentOnAccount ∧ claim.poaType.isSome)
    .poaTypeNotAllowedForNonPaymentOnAccount Message.poaNotAllowed

def validateInquestOutcomes : Except ClaimValidationError Unit := do
  let requiresInquestOutcomes := claim.claimType.isFinalBill
  refuseWhen (requiresInquestOutcomes ∧ claim.inquestOutcomes = [])
    .missingInquestOutcomes Message.missingInquestOutcomes
  refuseWhen (¬ requiresInquestOutcomes ∧ claim.inquestOutcomes ≠ [])
    .inquestOutcomesNotAllowed Message.inquestOutcomesNotAllowed

def validateCostTemplateFile : Except ClaimValidationError Unit := do
  let requiresCostTemplateFile : Bool := claim.claimType = .finalBill
  let hasCostTemplateFile := claim.costTemplateFileId.isSome && claim.costTemplateFileName.isSome
  refuseWhen (requiresCostTemplateFile ∧ ¬ hasCostTemplateFile)
    .missingCostTemplateFile Message.missingCostTemplateFile
  refuseWhen (¬ requiresCostTemplateFile ∧ hasCostTemplateFile)
    .costTemplateFileNotAllowed Message.costTemplateFileNotAllowed

/-- A group of details is required of some claim types and forbidden to the others. -/
def validateDetailGroup (required : Bool) (given : List Bool)
    (missing notAllowed : ClaimErrorCode × String) : Except ClaimValidationError Unit := do
  refuseWhen (required ∧ ¬ given.all id) missing.1 missing.2
  refuseWhen (¬ required ∧ given.any id) notAllowed.1 notAllowed.2

def validateRecoveryDetails : Except ClaimValidationError Unit :=
  validateDetailGroup claim.claimType.isFinalBill claim.details.recoveryDetailValues
    (.missingFinalBillDetails, Message.missingFinalBillDetails)
    (.finalBillDetailsNotAllowed, Message.finalBillDetailsNotAllowed)

def validateCounselDetails : Except ClaimValidationError Unit :=
  validateDetailGroup (claim.claimType = .finalBill) claim.details.counselDetailValues
    (.missingCounselDetails, Message.missingCounselDetails)
    (.counselDetailsNotAllowed, Message.counselDetailsNotAllowed)

/-- `__post_init__`. -/
def postInit : Except ClaimValidationError Unit := do
  claim.validateClaimTypePoaCombination
  claim.validateInquestOutcomes
  claim.validateCostTemplateFile
  claim.validateRecoveryDetails
  claim.validateCounselDetails

end Construction

section Totals

variable (claim : DomainClaim)

def validateBillTotals : Except ClaimValidationError Unit := do
  refuseWhen claim.net.isSome .netTotalNotAllowedForBill Message.netTotalNotAllowedForBill
  refuseWhen claim.vatZeroTotal.isSome
    .vatZeroTotalNotAllowedForBill Message.vatZeroTotalNotAllowedForBill
  refuseWhen (claim.gross = none) .missingGrossTotalForBill Message.missingGrossTotalForBill
  refuseWhen (claim.claimType = .nilBill ∧ ∃ g ∈ claim.gross, g ≠ 0)
    .nilBillGrossMustBeZero Message.nilBillGrossMustBeZero
  refuseWhen (claim.claimType = .finalBill ∧ ∃ g ∈ claim.gross, g ≤ 0)
    .finalBillGrossMustBePositive Message.finalBillGrossMustBePositive

def validateTotalsConsistency : Except ClaimValidationError Unit := do
  refuseWhen (∃ n ∈ claim.net, n < 0) .negativeNetCost Message.negativeNet
  refuseWhen (∃ n ∈ claim.net, ∃ g ∈ claim.gross, g < n)
    .netTotalHigherThanGrossTotal Message.netGtGross

def validateNonProfitCostHasAtLeastOneTotal : Except ClaimValidationError Unit :=
  refuseWhen (claim.net = none ∧ claim.gross = none ∧ claim.vatZeroTotal = none)
    .missingNonProfitCostTotal Message.missingNonProfitCostTotal

def validateNonProfitCostGrossPresentWhenNetEntered : Except ClaimValidationError Unit :=
  refuseWhen (claim.net.isSome ∧ claim.gross = none)
    .missingGrossTotalWhenNetEntered Message.missingGross

def normalizeNonProfitCostTotals : DomainClaim :=
  { claim with
    net := some (claim.net.getD 0)
    gross := some ((resolveClaimTotal claim.gross claim.vatZeroTotal).getD 0)
    vatZeroTotal := some (claim.vatZeroTotal.getD 0) }

def validateProfitCost : Except ClaimValidationError Unit := do
  refuseWhen (claim.vatZeroTotal.isSome ∧ (claim.net.isSome ∨ claim.gross.isSome))
    .profitCostMixedVat Message.mixedVat
  refuseWhen (claim.vatZeroTotal = none ∧ claim.net.isSome ∧ claim.gross = none)
    .missingGrossTotalWhenNetEntered Message.missingGross
  refuseWhen (claim.vatZeroTotal = none ∧ ¬ (claim.net.isSome ∧ claim.gross.isSome))
    .missingTotalClaimCost Message.missingTotal

/-- The source changes the claim in place; here the claim with its totals as they then
are is the result. -/
def validateTotalClaimCost : Except ClaimValidationError DomainClaim :=
  if claim.claimType.isFinalBill then do
    claim.validateBillTotals
    pure claim
  else do
    claim.validateTotalsConsistency
    let claim' ←
      if claim.claimType = .paymentOnAccount ∧ claim.poaType.isSome ∧
          claim.poaType ≠ some .profitCost then do
        claim.validateNonProfitCostHasAtLeastOneTotal
        claim.validateNonProfitCostGrossPresentWhenNetEntered
        pure claim.normalizeNonProfitCostTotals
      else pure claim
    if claim'.poaType = some .profitCost then
      claim'.validateProfitCost
    pure claim'

end Totals

/-- No claim is accepted beside a final or nil bill that is awaiting assessment or paid. -/
def validateNoActiveFinalBill (existingClaims : List ExistingClaimSummary) :
    Except ClaimValidationError Unit :=
  refuseWhen (existingClaims.any fun c => c.claimType.isFinalBill && c.status.isActive)
    .activeFinalBillExists Message.activeFinalBillExists

end DomainClaim

inductive ClaimRejectionReason where
  | maxPoaClaimsExceeded
  | claimExceedsSubstantiveCostLimit
  | applicationClaimsExceedCostLimit
  | profitCostPoaClaimSubmittedTooEarly
  deriving DecidableEq, Repr

/-- `ReasonCode(reason.value)`. -/
def ClaimRejectionReason.toReasonCode : ClaimRejectionReason → ReasonCode
  | maxPoaClaimsExceeded => .maxPoaClaimsExceeded
  | claimExceedsSubstantiveCostLimit => .claimExceedsSubstantiveCostLimit
  | applicationClaimsExceedCostLimit => .applicationClaimsExceedCostLimit
  | profitCostPoaClaimSubmittedTooEarly => .profitCostPoaClaimSubmittedTooEarly

structure ClaimRejection where
  reasons : List ClaimRejectionReason
  deriving DecidableEq, Repr

def ClaimRejection.isRejected (rejection : ClaimRejection) : Bool := 0 < rejection.reasons.length

/-- `_get_substantive_cost_limit`. -/
def Application.substantiveCostLimit (application : Application) : Option Decimal :=
  application.proceeding.substantiveCostLimitation.map fun limit => (limit.toInt : ℚ)

/-- What the paid claims of an application add up to, each by its claim total. -/
def paidTotal (existingClaims : List ExistingClaimSummary) : Decimal :=
  ((existingClaims.filter fun c => c.status = .payInFull).map fun c =>
    (resolveClaimTotal c.gross c.vatZeroTotal).getD 0).sum

namespace DomainClaim

variable (claim : DomainClaim) (application : Application)
variable (existingClaims : List ExistingClaimSummary) (referenceDate : Datetime)

def exceedsHardPoaLimit : Bool :=
  claim.claimType = .paymentOnAccount &&
    match resolveClaimTotal claim.gross claim.vatZeroTotal with
    | none => false
    | some total => autoApprovalMaxTotal < total

def isEligibleForAutoApproval : Bool :=
  claim.claimType = .paymentOnAccount
    && (resolveClaimTotal claim.gross claim.vatZeroTotal).isSome
    && !claim.exceedsHardPoaLimit
    && application.status ≠ some "WITHDRAWN"
    && application.overallDecision = .granted

def shouldAutoRejectForMaxPoaCount : Option ClaimRejectionReason :=
  if claim.poaType ≠ some .profitCost then none
  else
    let cutoff := referenceDate.instant - 365 * Datetime.microsPerDay
    let activePoas := existingClaims.filter fun c =>
      c.poaType = some .profitCost
        && c.status ≠ .rejected && c.status ≠ .rejectedWithAmendment
        && cutoff ≤ c.submissionDate.instant
    if maxProfitCostPoaClaimCount ≤ activePoas.length then some .maxPoaClaimsExceeded else none

def shouldAutoRejectForLimit : Option ClaimRejectionReason :=
  if claim.claimType ≠ .paymentOnAccount then none
  else
    match resolveClaimTotal claim.gross claim.vatZeroTotal, application.substantiveCostLimit with
    | some total, some limit =>
      if limit < total then some .claimExceedsSubstantiveCostLimit else none
    | _, _ => none

def exceedsAggregateCostLimit : Bool :=
  claim.claimType = .paymentOnAccount &&
    match resolveClaimTotal claim.gross claim.vatZeroTotal, application.substantiveCostLimit with
    | some newClaimCost, some limit =>
      limit < decimalAdd (paidTotal existingClaims) newClaimCost
    | _, _ => false

/-- Claims over the hard limit, or over the case cost limit together with what is paid,
are held for a caseworker. -/
def requiresManualReview : Bool :=
  claim.claimType = .paymentOnAccount
    && (claim.exceedsHardPoaLimit || claim.exceedsAggregateCostLimit application existingClaims)

/-- The outer `none` is the `ValueError` of a start date too near the end of the calendar. -/
def shouldAutoRejectForEarlyProfitCostPoa : Option (Option ClaimRejectionReason) :=
  if claim.poaType ≠ some .profitCost then some none
  else
    match application.proceeding.certificateStartDate with
    | none => some none
    | some certificateStartDate =>
      (addCalendarMonths certificateStartDate minMonthsBeforeProfitCostPoa).map fun earliest =>
        if referenceDate.date.before earliest then some .profitCostPoaClaimSubmittedTooEarly
        else none

def shouldAutoReject : Option ClaimRejection :=
  (claim.shouldAutoRejectForEarlyProfitCostPoa application referenceDate).map fun earlyPoaReason =>
    ⟨(claim.shouldAutoRejectForMaxPoaCount existingClaims referenceDate).toList
      ++ (claim.shouldAutoRejectForLimit application).toList
      ++ earlyPoaReason.toList⟩

end DomainClaim

/-- A claim's latest decision and cost figures, for available-funds accounting. -/
structure ApprovedClaimAmount where
  decision : Option ClaimDecisionStatus
  gross : Option Decimal
  vatZeroTotal : Option Decimal
  deriving DecidableEq

namespace ApprovedClaimAmount

def isApproved (amount : ApprovedClaimAmount) : Bool :=
  amount.decision = some .grant || amount.decision = some .payInFull

def paymentAmount (amount : ApprovedClaimAmount) : Decimal :=
  (resolveClaimTotal amount.gross amount.vatZeroTotal).getD 0

end ApprovedClaimAmount

def calculateAvailableFunds (substantiveCostLimitation : Option Int32)
    (claimAmounts : List ApprovedClaimAmount) : Decimal :=
  let limit : Decimal := (substantiveCostLimitation.getD 0).toInt
  limit - ((claimAmounts.filter (·.isApproved)).map (·.paymentAmount)).sum

end InquestsApi
