import InquestsApi.ClaimModels

/-! The amounts of a decision to pay in full, entered or rebuilt from the submission. -/
namespace InquestsApi

structure PayInFullClaim where
  claimTypeId : ClaimType
  poaTypeId : Option POAType
  profitCostNet : Option Decimal
  profitCostGross : Option Decimal
  profitCostVatZero : Option Decimal
  disbursementNet : Option Decimal
  disbursementGross : Option Decimal
  disbursementVatZero : Option Decimal
  deriving DecidableEq, Repr

namespace PayInFullClaim

variable (p : PayInFullClaim)

def amounts : List (Option Decimal) :=
  [p.profitCostNet, p.profitCostGross, p.profitCostVatZero,
    p.disbursementNet, p.disbursementGross, p.disbursementVatZero]

def isNilBill : Bool := p.amounts.all fun amount => amount = none || amount = some 0

def profitCostNotApplicable : Bool :=
  p.claimTypeId = .paymentOnAccount && p.poaTypeId.isSome && p.poaTypeId ≠ some .profitCost

def disbursementNotApplicable : Bool :=
  p.claimTypeId = .paymentOnAccount && p.poaTypeId = some .profitCost

def hasProfitCost : Bool :=
  p.profitCostNet.isSome || p.profitCostGross.isSome || p.profitCostVatZero.isSome

def hasDisbursement : Bool :=
  p.disbursementNet.isSome || p.disbursementGross.isSome || p.disbursementVatZero.isSome

def validateProfitCost : Except ClaimValidationError Unit :=
  if p.claimTypeId = .nilBill then
    refuseWhen p.hasProfitCost .profitCostNotAllowedForNilBillClaim
      Message.pifProfitCostNotAllowedForNilBill
  else if p.profitCostNotApplicable then
    refuseWhen p.hasProfitCost .profitCostNotAllowedForPoaClaim
      Message.pifProfitCostNotAllowedForPoa
  else do
    refuseWhen (¬ p.hasProfitCost) .missingTotalClaimCost Message.pifMissingTotalClaimCost
    refuseWhen (p.profitCostVatZero.isSome ∧ (p.profitCostNet.isSome ∨ p.profitCostGross.isSome))
      .profitCostMixedVat Message.pifProfitCostMixedVat
    refuseWhen (p.profitCostNet.isSome ∧ ¬ p.profitCostGross.isSome)
      .missingGrossTotalWhenNetEntered Message.pifMissingGrossTotal
    refuseWhen (p.profitCostGross.isSome ∧ ¬ p.profitCostNet.isSome)
      .missingNetTotalWhenGrossEntered Message.pifMissingNetTotal
    refuseWhen (∃ net ∈ p.profitCostNet, ∃ gross ∈ p.profitCostGross, gross < net)
      .netTotalHigherThanGrossTotal Message.netGtGross

/-- A gross that is zero, or the zero-rated total, with a net of zero is how a claim for
zero-rated disbursements only is stored. -/
def hasNoStandardRatedDisbursement (net gross vatZero : Decimal) : Bool :=
  net = 0 && (gross = 0 || gross = vatZero)

def validateDisbursement : Except ClaimValidationError Unit :=
  if p.claimTypeId = .nilBill then
    refuseWhen p.hasDisbursement .disbursementNotAllowedForNilBillClaim
      Message.disbNotAllowedForNilBill
  else if p.disbursementNotApplicable then
    refuseWhen p.hasDisbursement .disbursementNotAllowedForPoaClaim Message.disbNotAllowedForPoa
  else do
    refuseWhen (¬ p.hasDisbursement) .missingDisbursementTotal Message.disbMissingTotal
    refuseWhen (p.disbursementNet.isSome ∧ ¬ p.disbursementGross.isSome)
      .missingDisbursementGrossWhenNetEntered Message.disbMissingGrossTotal
    refuseWhen (p.disbursementGross.isSome ∧ ¬ p.disbursementNet.isSome)
      .missingDisbursementNetWhenGrossEntered Message.disbMissingNetTotal
    let vatZero := p.disbursementVatZero.getD 0
    refuseWhen (∃ net ∈ p.disbursementNet, ∃ gross ∈ p.disbursementGross,
        ¬ hasNoStandardRatedDisbursement net gross vatZero ∧ gross ≤ decimalAdd vatZero net)
      .disbursementGrossNotGreaterThanTotal Message.disbGrossNotGreaterThanTotal

def validate : Except ClaimValidationError Unit := do
  p.validateProfitCost
  p.validateDisbursement

end PayInFullClaim

/-- The decision amounts as the provider submitted them. -/
def payInFullClaimFromSubmittedPoaClaim (claim : Claim) : PayInFullClaim :=
  let net := Amount.valueOf claim.totalProfitCostNet
  let gross := Amount.valueOf claim.totalProfitCostGross
  let vatZero := Amount.valueOf claim.totalProfitCostVatZero
  if claim.poaTypeId = some .profitCost then
    ⟨claim.claimTypeId, claim.poaTypeId, net, gross, vatZero, none, none, none⟩
  else
    ⟨claim.claimTypeId, claim.poaTypeId, none, none, none, net, gross, vatZero⟩

end InquestsApi
