import Mathlib.Tactic.SplitIfs

/-! The refusals of the claim rules: codes, messages and the one way a rule refuses. -/
namespace InquestsApi

inductive ClaimErrorCode where
  | missingTotalClaimCost
  | missingNonProfitCostTotal
  | missingGrossTotalWhenNetEntered
  | missingNetTotalWhenGrossEntered
  | profitCostMixedVat
  | netTotalHigherThanGrossTotal
  | negativeNetCost
  | missingPoaTypeForPaymentOnAccount
  | poaTypeNotAllowedForNonPaymentOnAccount
  | missingClaimEvidence
  | claimEvidenceNotAllowed
  | applicationNotGranted
  | missingInquestOutcomes
  | inquestOutcomesNotAllowed
  | missingCostTemplateFile
  | costTemplateFileNotAllowed
  | missingFinalBillDetails
  | finalBillDetailsNotAllowed
  | missingCounselDetails
  | counselDetailsNotAllowed
  | netTotalNotAllowedForBill
  | vatZeroTotalNotAllowedForBill
  | missingGrossTotalForBill
  | finalBillGrossMustBePositive
  | nilBillGrossMustBeZero
  | missingDisbursementTotal
  | missingDisbursementGrossWhenNetEntered
  | missingDisbursementNetWhenGrossEntered
  | disbursementGrossNotGreaterThanTotal
  | profitCostNotAllowedForNilBillClaim
  | disbursementNotAllowedForNilBillClaim
  | profitCostNotAllowedForPoaClaim
  | disbursementNotAllowedForPoaClaim
  | activeFinalBillExists
  deriving DecidableEq, Repr

structure ClaimValidationError where
  code : ClaimErrorCode
  message : String
  deriving DecidableEq, Repr

/-- A rule that refuses with its code and message whenever its condition holds. -/
def refuseWhen (p : Prop) [Decidable p] (code : ClaimErrorCode) (message : String) :
    Except ClaimValidationError Unit :=
  if p then .error ⟨code, message⟩ else .ok ()

@[simp] theorem refuseWhen_ok {p : Prop} [Decidable p] {code : ClaimErrorCode} {message : String}
    {u : Unit} : refuseWhen p code message = .ok u ↔ ¬ p := by
  unfold refuseWhen
  split_ifs with h <;> simp [h]

@[simp] theorem refuseWhen_error {p : Prop} [Decidable p] {code : ClaimErrorCode}
    {message : String} {e : ClaimValidationError} :
    refuseWhen p code message = .error e ↔ p ∧ e = ⟨code, message⟩ := by
  unfold refuseWhen
  split_ifs with h <;> simp [h, eq_comm]

@[simp] theorem except_bind_ok {ε α β : Type} {m : Except ε α} {f : α → Except ε β} {b : β} :
    (m >>= f) = .ok b ↔ ∃ a, m = .ok a ∧ f a = .ok b := by
  cases m with
  | error e => simp [bind, Except.bind]
  | ok a => simp [bind, Except.bind]

@[simp] theorem except_bind_error {ε α β : Type} {m : Except ε α} {f : α → Except ε β} {e : ε} :
    (m >>= f) = .error e ↔ m = .error e ∨ ∃ a, m = .ok a ∧ f a = .error e := by
  cases m with
  | error e => simp [bind, Except.bind]
  | ok a => simp [bind, Except.bind]

@[simp] theorem except_pure_ok {ε α : Type} {a b : α} :
    (pure a : Except ε α) = .ok b ↔ a = b := by
  simp [pure, Except.pure]

namespace Message

def mixedVat := "You cannot submit a profit cost claim with both 0% and 20% VAT"
def missingGross := "Please complete the gross total value of your claim"
def missingNonProfitCostTotal := "Please complete the total value of your claim to continue"
def missingTotal :=
  "Either total_profit_cost_vat_zero or both "
    ++ "total_profit_cost_net and total_profit_cost_gross must be provided"
def negativeNet := "net cost must not be negative"
def netGtGross := "Net total cannot be higher than the gross total value"
def missingPoaType := "poa_type_id is required when claim_type is PAYMENT_ON_ACCOUNT"
def poaNotAllowed := "poa_type_id must not be provided when claim_type is not PAYMENT_ON_ACCOUNT"
def applicationNotGranted := "Claims may only be submitted for applications that have been granted"
def missingClaimEvidence := "Claim evidence is required"
def missingInquestOutcomes :=
  "At least one inquest outcome is required for final bill and nil bill claims"
def inquestOutcomesNotAllowed :=
  "Inquest outcomes may only be provided for final bill and nil bill claims"
def missingCostTemplateFile := "A cost template file is required for final bill claims"
def costTemplateFileNotAllowed := "A cost template file may only be provided for final bill claims"
def missingFinalBillDetails :=
  "All final bill details are required for final bill and nil bill claims"
def finalBillDetailsNotAllowed :=
  "Final bill details may only be provided for final bill and nil bill claims"
def missingCounselDetails := "Counsel details are required for final bill claims"
def counselDetailsNotAllowed := "Counsel details may only be provided for final bill claims"
def netTotalNotAllowedForBill :=
  "A net total may not be provided for final bill and nil bill claims"
def vatZeroTotalNotAllowedForBill :=
  "A zero-rated VAT total may not be provided for final bill and nil bill claims"
def missingGrossTotalForBill := "A gross total is required for final bill and nil bill claims"
def finalBillGrossMustBePositive :=
  "The gross total must be greater than zero for final bill claims"
def nilBillGrossMustBeZero := "The gross total must be zero for nil bill claims"
def claimEvidenceNotAllowed :=
  "Claim evidence may only be provided for payment on account and final bill claims"
def activeFinalBillExists :=
  "A further claim cannot be submitted because a final bill or nil bill has "
    ++ "already been submitted for this case"
def pifMissingTotalClaimCost := "Complete the total value of the claim to continue"
def pifProfitCostMixedVat := "You cannot submit a total profit cost claim with both 0% and 20% VAT"
def pifMissingGrossTotal := "Enter the gross total for profit costs including VAT"
def pifMissingNetTotal := "Enter the net total for profit costs excluding VAT"
def pifProfitCostNotAllowedForNilBill := "Profit cost amounts are not allowed for a nil bill claim"
def pifProfitCostNotAllowedForPoa :=
  "Profit cost amounts are not allowed for this payment on account claim type"
def disbMissingTotal := "Enter the total of the claim to continue"
def disbMissingGrossTotal := "Enter the gross total of the claim"
def disbMissingNetTotal := "Enter the net total for disbursement costs excluding VAT"
def disbGrossNotGreaterThanTotal :=
  "The gross total must be greater than the 0% VAT and net total combined"
def disbNotAllowedForNilBill := "Disbursement amounts are not allowed for a nil bill claim"
def disbNotAllowedForPoa :=
  "Disbursement amounts are not allowed for this payment on account claim type"

end Message

end InquestsApi
