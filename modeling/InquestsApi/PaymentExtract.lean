import InquestsApi.PayInFull

/-! The payment extract lines of a paid claim: what is paid, under which invoice number. -/
namespace InquestsApi

def profitCostPaymentRate : Decimal := 8 / 10
def vatMultiplier : Decimal := 12 / 10

structure PaymentExtractLine where
  sequenceNumber : ℕ
  invoiceNumber : String
  invoiceAmount : Decimal
  invoiceDate : Date
  invoiceType : InvoiceTypeCode
  taxCode : TaxCode
  deriving DecidableEq

def invoiceNumberOf (claimReference : String) (sequence : ℕ) : String :=
  claimReference ++ "_" ++ threeDigits sequence

/-- `none` is the `ValueError` of a profit cost with neither a net nor a zero-rated amount. -/
def buildPoaProfitCostExtract (claimReference : String) (sequence : ℕ) (submissionDate : Datetime)
    (net vatZeroAmount : Option Decimal) : Option PaymentExtractLine :=
  let line := fun amount taxCode => some
    { sequenceNumber := sequence
      invoiceNumber := invoiceNumberOf claimReference sequence
      invoiceAmount := bankersRound amount
      invoiceDate := submissionDate.date
      invoiceType := .poa
      taxCode := taxCode }
  match vatZeroAmount, net with
  | some vatZero, _ => line (vatZero * profitCostPaymentRate) .zeroVat
  | none, some net => line (net * profitCostPaymentRate * vatMultiplier) .gbVat20
  | none, none => none

/-- What a gross holds beyond its zero-rated part. -/
def vat20PercentAmount (gross vatZeroAmount : Option Decimal) : Decimal :=
  decimalSub (gross.getD 0) (vatZeroAmount.getD 0)

/-- The amounts a gross is paid as: its standard-rated part, then its zero-rated part,
each only when it is positive. -/
def disbursementAmounts (gross vatZeroAmount : Option Decimal) : List (Decimal × TaxCode) :=
  let standard := vat20PercentAmount gross vatZeroAmount
  (if 0 < standard then [(bankersRound standard, TaxCode.gbVat20)] else [])
    ++ (vatZeroAmount.filter (0 < ·)).toList.map fun v => (bankersRound v, TaxCode.zeroVat)

/-- The lines for a list of amounts, numbered on from a sequence number. -/
def numberedLines (claimReference : String) (invoiceDate : Date) (invoiceType : InvoiceTypeCode) :
    ℕ → List (Decimal × TaxCode) → List PaymentExtractLine
  | _, [] => []
  | sequence, (amount, taxCode) :: rest =>
    { sequenceNumber := sequence
      invoiceNumber := invoiceNumberOf claimReference sequence
      invoiceAmount := amount
      invoiceDate := invoiceDate
      invoiceType := invoiceType
      taxCode := taxCode } :: numberedLines claimReference invoiceDate invoiceType (sequence + 1) rest

def buildPoaDisbursementExtract (claimReference : String) (submissionDate : Datetime)
    (gross vatZeroAmount : Option Decimal) : List PaymentExtractLine :=
  numberedLines claimReference submissionDate.date .poa 1 (disbursementAmounts gross vatZeroAmount)

def buildFinalBillDisbursementExtract (claimReference : String) (startSequence : ℕ)
    (invoiceDate : Date) (gross vatZeroAmount : Option Decimal) : List PaymentExtractLine :=
  numberedLines claimReference invoiceDate .finalBillDisbursement startSequence
    (disbursementAmounts gross vatZeroAmount)

def buildFinalBillFeesExtract (claimReference : String) (sequence : ℕ) (invoiceDate : Date)
    (gross vatZeroAmount : Option Decimal) : Option PaymentExtractLine :=
  let line := fun amount taxCode => some
    { sequenceNumber := sequence
      invoiceNumber := invoiceNumberOf claimReference sequence
      invoiceAmount := bankersRound amount
      invoiceDate := invoiceDate
      invoiceType := .finalBillFees
      taxCode := taxCode }
  match vatZeroAmount.filter (0 < ·), gross.filter (0 < ·) with
  | some vatZero, _ => line vatZero .zeroVat
  | none, some gross => line gross .gbVat20
  | none, none => none

def buildFinalBillNilFeesExtract (claimReference : String) (sequence : ℕ) (invoiceDate : Date) :
    PaymentExtractLine where
  sequenceNumber := sequence
  invoiceNumber := invoiceNumberOf claimReference sequence
  invoiceAmount := 0
  invoiceDate := invoiceDate
  invoiceType := .finalBillFees
  taxCode := .zeroVat

structure RecoupmentSourceLine where
  invoiceNumber : String
  invoiceAmount : Decimal
  taxCode : TaxCode
  deriving DecidableEq

/-- Recoupments reclaim the original payment, so appear as a negative. -/
def buildRecoupmentExtract (startSequence : ℕ) (invoiceDate : Date) :
    List RecoupmentSourceLine → List PaymentExtractLine
  | [] => []
  | original :: rest =>
    { sequenceNumber := startSequence
      invoiceNumber := original.invoiceNumber ++ "-R"
      invoiceAmount := bankersRound (-original.invoiceAmount)
      invoiceDate := invoiceDate
      invoiceType := .recouped
      taxCode := original.taxCode } :: buildRecoupmentExtract (startSequence + 1) invoiceDate rest

/-- The line(s) for a Payment on account claim being paid in full, the same for
auto-approval and manual decisions. -/
def poaClaimPaymentExtractLines (claim : Claim) (decisionAmounts : PayInFullClaim) :
    Option (List PaymentExtractLine) :=
  match claim.poaTypeId with
  | some .profitCost =>
    (buildPoaProfitCostExtract claim.claimReference 1 claim.submissionDate
      decisionAmounts.profitCostNet decisionAmounts.profitCostVatZero).map ([·])
  | some .expertCost | some .nonExpertDisbursement =>
    some (buildPoaDisbursementExtract claim.claimReference claim.submissionDate
      decisionAmounts.disbursementGross decisionAmounts.disbursementVatZero)
  | none => some []

end InquestsApi
