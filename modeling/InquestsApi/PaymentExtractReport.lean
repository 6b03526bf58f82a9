import InquestsApi.Lib.Join
import InquestsApi.Reports

/-! `payment_extract_report` and `GeneratePaymentExtractReportUseCase`: three queries over one
join of the payment extracts, two for the lookups that are validated up front and one for the
lines that are streamed. -/
namespace InquestsApi

structure UnclassifiablePaymentLineError where
  message : String
  deriving DecidableEq, Repr

structure PaymentLineClassification where
  description : String
  modelNumber : String
  deriving DecidableEq, Repr

def finalBillProfitCosts : PaymentLineClassification := ⟨"Profit costs", "Profit costs"⟩
def poaProfitCosts : PaymentLineClassification := ⟨"Profit costs (80%)", "Profit costs"⟩
def disbursements : PaymentLineClassification := ⟨"Expert costs", "Disbursements"⟩

structure PaymentLineType where
  invoiceType : InvoiceTypeCode
  poaType : Option POAType
  originalPoaType : Option POAType
  deriving DecidableEq, Repr

structure PaymentExtractReportSourceLine where
  invoiceNumber : String
  invoiceAmount : Decimal
  invoiceDate : Date
  taxCode : TaxCode
  lineType : PaymentLineType
  firmCode : String
  officeId : String
  laaReference : String
  clientFirstName : Option String
  clientLastName : Option String
  deriving DecidableEq

def classifyPoa (poaType : Option POAType) (lineType : PaymentLineType) :
    Except UnclassifiablePaymentLineError PaymentLineClassification :=
  match poaType with
  | none => .error ⟨"Cannot classify " ++ lineType.invoiceType.value ++ " line without a POA type"⟩
  | some .profitCost => .ok poaProfitCosts
  | some _ => .ok disbursements

def classifyPaymentLine (lineType : PaymentLineType) :
    Except UnclassifiablePaymentLineError PaymentLineClassification :=
  match lineType.invoiceType with
  | .finalBillFees => .ok finalBillProfitCosts
  | .finalBillDisbursement => .ok disbursements
  | .poa => classifyPoa lineType.poaType lineType
  | .recouped => classifyPoa lineType.originalPoaType lineType

/-- A row of the join: a line, its claim and application, and what a recoupment takes back. -/
structure PaymentExtractJoin where
  extract : ClaimPaymentExtract
  claim : Claim
  application : Application
  originalExtract : Option ClaimPaymentExtract
  originalClaim : Option Claim

section Query

variable (createdFrom createdBefore : Datetime) (s : Store)

/-- The outer joins to the line that a recoupment takes back, and on to its claim. -/
def originalsOf (e : ClaimPaymentExtract) : List (Option ClaimPaymentExtract × Option Claim) :=
  (Join.outer (s.claimPaymentExtracts.filter fun original =>
    e.invoiceType = .recouped ∧ original.invoiceNumber ++ "-R" = e.invoiceNumber)).flatMap fun original =>
      (Join.outer (s.claims.filter fun c => original.map (·.claimId) = some c.claimId)).map fun c =>
        (original, c)

def paymentExtractReportStatement : List PaymentExtractJoin :=
  (s.claimPaymentExtracts.filter fun e => e.createdAt.within createdFrom createdBefore).flatMap fun e =>
    (s.claims.filter fun c => e.claimId = c.claimId).flatMap fun c =>
      (s.applications.filter fun a => c.applicationId = a.applicationId).flatMap fun a =>
        (originalsOf s e).map fun original => ⟨e, c, a, original.1, original.2⟩

def PaymentExtractJoin.lineType (row : PaymentExtractJoin) : PaymentLineType where
  invoiceType := row.extract.invoiceType
  poaType := row.claim.poaTypeId
  originalPoaType := row.originalClaim.bind (·.poaTypeId)

def PaymentExtractJoin.line (row : PaymentExtractJoin) : PaymentExtractReportSourceLine where
  invoiceNumber := row.extract.invoiceNumber
  invoiceAmount := row.extract.invoiceAmount.value
  invoiceDate := row.extract.invoiceDate
  taxCode := row.extract.taxCode
  lineType := row.lineType
  firmCode := row.application.provider.firmCode
  officeId := row.application.provider.officeId
  laaReference := row.application.laaReference
  clientFirstName := some row.application.client.clientFirstName
  clientLastName := some row.application.client.clientLastName

/-- By time of creation, then by claim, then by sequence number. -/
def ClaimPaymentExtract.inOrder (a b : ClaimPaymentExtract) : Prop :=
  a.createdAt.instant < b.createdAt.instant
    ∨ (a.createdAt.instant = b.createdAt.instant
      ∧ (a.claimId < b.claimId ∨ (a.claimId = b.claimId ∧ a.sequenceNumber ≤ b.sequenceNumber)))

instance : DecidableRel ClaimPaymentExtract.inOrder := fun _ _ => inferInstanceAs (Decidable (_ ∨ _))

def getPaymentExtractFirmCodes : List String :=
  ((paymentExtractReportStatement createdFrom createdBefore s).map fun row =>
    row.application.provider.firmCode).dedup

def getPaymentExtractLineTypes : List PaymentLineType :=
  ((paymentExtractReportStatement createdFrom createdBefore s).map (·.lineType)).dedup

/-- The rows that are streamed, in their order. -/
def paymentExtractRows : List PaymentExtractJoin :=
  (paymentExtractReportStatement createdFrom createdBefore s).insertionSort fun a b =>
    a.extract.inOrder b.extract

def iterPaymentExtractReportLines : List PaymentExtractReportSourceLine :=
  (paymentExtractRows createdFrom createdBefore s).map (·.line)

end Query

namespace GeneratePaymentExtractReportUseCase

def maxReportRangeDays : ℕ := 30

/-- A firm as the provider details service gives it. -/
structure Firm where
  firmNumber : String
  firmName : Option String

structure PaymentExtractReportRow where
  description : String
  invoiceAmount : Decimal
  invoiceDate : Date
  invoiceType : InvoiceTypeCode
  invoiceNumber : String
  firmName : String
  officeId : String
  laaReference : String
  clientName : String
  taxCode : TaxCode
  modelNumber : String
  deriving DecidableEq

/-- `firm_names.get`: of two firms with one number, the later one counts. -/
def firmNameOf (firms : List Firm) (firmCode : String) : Option String :=
  (firms.reverse.find? fun firm => firm.firmNumber = firmCode).bind (·.firmName)

section Lookups

variable (getFirmsByIds : List String → Except ReportError (List Firm))
variable (createdFrom createdBefore : Datetime)

def buildFirmNameLookup (s : Store) : Except ReportError (List Firm) :=
  let firmCodes := getPaymentExtractFirmCodes createdFrom createdBefore s
  if firmCodes = [] then .ok []
  else do
    let firms ← getFirmsByIds firmCodes
    match firmCodes.find? fun firmCode => (firmNameOf firms firmCode).isNone with
    | some firmCode => .error (.reportGeneration ("Firm name not found for firm code " ++ firmCode))
    | none => .ok firms

def buildClassificationLookup (s : Store) :
    Except ReportError (List (PaymentLineType × PaymentLineClassification)) :=
  (getPaymentExtractLineTypes createdFrom createdBefore s).mapM fun lineType =>
    match classifyPaymentLine lineType with
    | .ok classification => .ok (lineType, classification)
    | .error e => .error (.reportGeneration e.message)

end Lookups

/-- What is returned before the first row is written: the lines, and the lookups for them. -/
structure ReportStream where
  lines : List PaymentExtractReportSourceLine
  firmNames : List Firm
  classifications : List (PaymentLineType × PaymentLineClassification)

def joinNames (names : List (Option String)) : String :=
  " ".intercalate (names.filterMap fun name => name.filter (· ≠ ""))

def buildRow (stream : ReportStream) (line : PaymentExtractReportSourceLine) :
    Except ReportError PaymentExtractReportRow :=
  match firmNameOf stream.firmNames line.firmCode, stream.classifications.lookup line.lineType with
  | some firmName, some classification => .ok
      { description := classification.description
        invoiceAmount := line.invoiceAmount
        invoiceDate := line.invoiceDate
        invoiceType := line.lineType.invoiceType
        invoiceNumber := line.invoiceNumber
        firmName := firmName
        officeId := line.officeId
        laaReference := line.laaReference
        clientName := joinNames [line.clientFirstName, line.clientLastName]
        taxCode := line.taxCode
        modelNumber := classification.modelNumber }
  | _, _ => .error (.reportGeneration
      ("Payment extract line " ++ line.invoiceNumber ++ " was not pre-checked"))

section Row

variable {stream : ReportStream} {line : PaymentExtractReportSourceLine}

/-- A row is built when both lookups know its line. -/
theorem buildRow_goes :
    (∃ row, buildRow stream line = .ok row) ↔
      (∃ firmName, firmNameOf stream.firmNames line.firmCode = some firmName)
        ∧ ∃ classification, stream.classifications.lookup line.lineType = some classification := by
  unfold buildRow
  cases firmNameOf stream.firmNames line.firmCode with
  | none => simp
  | some firmName => cases stream.classifications.lookup line.lineType <;> simp

theorem buildRow_error {error : ReportError} (h : buildRow stream line = .error error) :
    error = .reportGeneration ("Payment extract line " ++ line.invoiceNumber ++ " was not pre-checked") := by
  unfold buildRow at h
  split at h
  · cases h
  · cases h
    rfl

end Row

/-- What consuming the stream gives: every row, or the error that cuts it short. -/
def streamCsv (stream : ReportStream) : Except ReportError (List PaymentExtractReportRow) :=
  stream.lines.mapM (buildRow stream)

/-- The cut-off of a report: the end of its window, or now. -/
def cutOff (windowEnd now : Datetime) : Datetime :=
  if now.instant < windowEnd.instant then now else windowEnd

/-- The three queries, each with the store as it is committed when the query runs. -/
def execute (getFirmsByIds : List String → Except ReportError (List Firm)) (now : Datetime)
    (fromDate toDate : Date) (atFirmCodes atLineTypes atLines : Store) :
    Except ReportError ReportStream := do
  let (createdFrom, windowEnd) ← resolveReportWindow fromDate toDate maxReportRangeDays
  let createdBefore := cutOff windowEnd now
  let firmNames ← buildFirmNameLookup getFirmsByIds createdFrom createdBefore atFirmCodes
  let classifications ← buildClassificationLookup createdFrom createdBefore atLineTypes
  pure ⟨iterPaymentExtractReportLines createdFrom createdBefore atLines, firmNames, classifications⟩

end GeneratePaymentExtractReportUseCase

end InquestsApi
