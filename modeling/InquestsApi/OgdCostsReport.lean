import InquestsApi.Reports
import Mathlib.Data.List.Dedup

/-! The OGD costs report: the payment extract lines of the claims that were decided in a
window, with the public bodies of their applications. -/
namespace InquestsApi

structure OgdCostsReportSourceLine where
  applicationId : ℕ
  claimDecisionDate : Datetime
  claimDecision : ClaimDecisionStatus
  invoiceType : InvoiceTypeCode
  claimType : ClaimType
  laaReference : String
  invoiceNumber : String
  invoiceAmount : Decimal
  taxCode : TaxCode
  deceasedFirstName : String
  deceasedLastName : String
  deceasedDateOfDeath : String
  deriving DecidableEq

def billTypeLabel : ClaimType → String
  | .paymentOnAccount => "POA"
  | .finalBill => "Final bill"
  | .nilBill => "Nil bill"

def recoupedBillType : String := "POA"

/-- Recoupments are stored against the final bill's claim but reverse a POA payment. -/
def resolveBillType (line : OgdCostsReportSourceLine) : String :=
  if line.invoiceType = .recouped then recoupedBillType else billTypeLabel line.claimType

/-- The decisions that the report has a label for. -/
def decisionLabel : ClaimDecisionStatus → Option String
  | .payInFull => some "Pay in full"
  | _ => none

structure OgdCostsRow where
  claimDecisionDate : Date
  claimDecision : String
  billType : String
  publicBodies : String
  laaReference : String
  invoiceNumber : String
  invoiceAmount : Decimal
  taxCode : TaxCode
  deceased : String
  dateOfDeath : Date
  deriving DecidableEq

def dateOfDeath (value : String) : Except ReportError Date :=
  match Date.fromIsoformat value with
  | some d => .ok d
  | none => .error (.invalidOgdCostsRecord "Date of death is not a valid YYYY-MM-DD date")

def buildOgdCostsRow (line : OgdCostsReportSourceLine) (publicBodies : List PublicBodyId) :
    Except ReportError OgdCostsRow :=
  match decisionLabel line.claimDecision with
  | none => .error (.invalidOgdCostsRecord ("Unsupported claim decision ClaimDecisionStatus." ++ line.claimDecision.value))
  | some label => do
    let dateOfDeath ← dateOfDeath line.deceasedDateOfDeath
    pure
      { claimDecisionDate := line.claimDecisionDate.date
        claimDecision := label
        billType := resolveBillType line
        publicBodies := formatPublicBodies publicBodies
        laaReference := line.laaReference
        invoiceNumber := line.invoiceNumber
        invoiceAmount := line.invoiceAmount
        taxCode := line.taxCode
        deceased := neutraliseCsvFormula (line.deceasedFirstName ++ " " ++ line.deceasedLastName)
        dateOfDeath := dateOfDeath }

/-- A row fails for its decision or for its date of death. -/
theorem buildOgdCostsRow_error {line : OgdCostsReportSourceLine} {publicBodies : List PublicBodyId}
    {e : ReportError} (h : buildOgdCostsRow line publicBodies = .error e) :
    decisionLabel line.claimDecision = none
        ∧ e = .invalidOgdCostsRecord
            ("Unsupported claim decision ClaimDecisionStatus." ++ line.claimDecision.value)
      ∨ Date.fromIsoformat line.deceasedDateOfDeath = none
        ∧ e = .invalidOgdCostsRecord "Date of death is not a valid YYYY-MM-DD date" := by
  unfold buildOgdCostsRow at h
  split at h
  · rename_i hlabel
    cases h
    exact .inl ⟨hlabel, rfl⟩
  · cases hdate : Date.fromIsoformat line.deceasedDateOfDeath with
    | none =>
        simp only [dateOfDeath, hdate] at h
        cases h
        exact .inr ⟨rfl, rfl⟩
    | some d =>
        simp only [dateOfDeath, hdate] at h
        cases h

/-- A row of the join that the report is made from. -/
structure OgdCostsJoin where
  extract : ClaimPaymentExtract
  claim : Claim
  decision : ClaimDecision
  application : Application

section Query

variable (decidedFrom decidedBefore : Datetime) (s : Store)

def ogdCostsStatement : List OgdCostsJoin :=
  s.claimPaymentExtracts.flatMap fun e =>
    (s.claims.filter fun c => e.claimId = c.claimId).flatMap fun c =>
      (s.claimDecisions.filter fun d => d.claimId = c.claimId && d.decision = .payInFull
          && d.createdAt.within decidedFrom decidedBefore).flatMap fun d =>
        (s.applications.filter fun a => c.applicationId = a.applicationId).map fun a => ⟨e, c, d, a⟩

def OgdCostsJoin.line (row : OgdCostsJoin) : OgdCostsReportSourceLine where
  applicationId := row.application.applicationId
  claimDecisionDate := row.decision.createdAt
  claimDecision := row.decision.decision
  invoiceType := row.extract.invoiceType
  claimType := row.claim.claimTypeId
  laaReference := row.application.laaReference
  invoiceNumber := row.extract.invoiceNumber
  invoiceAmount := row.extract.invoiceAmount.value
  taxCode := row.extract.taxCode
  deceasedFirstName := row.application.deceased.deceasedFirstName
  deceasedLastName := row.application.deceased.deceasedLastName
  deceasedDateOfDeath := row.application.deceased.deceasedDateOfDeath

/-- By time of decision, then by claim, then by sequence number. -/
def OgdCostsJoin.inOrder (a b : OgdCostsJoin) : Prop :=
  a.decision.createdAt.instant < b.decision.createdAt.instant
    ∨ (a.decision.createdAt.instant = b.decision.createdAt.instant
      ∧ (a.claim.claimId < b.claim.claimId
        ∨ (a.claim.claimId = b.claim.claimId
          ∧ a.extract.sequenceNumber ≤ b.extract.sequenceNumber)))

instance : DecidableRel OgdCostsJoin.inOrder := fun _ _ => inferInstanceAs (Decidable (_ ∨ _))

/-- The rows of the report, in its order. -/
def ogdCostsRows : List OgdCostsJoin :=
  (ogdCostsStatement decidedFrom decidedBefore s).insertionSort OgdCostsJoin.inOrder

def iterOgdCostsReportLines : List OgdCostsReportSourceLine :=
  (ogdCostsRows decidedFrom decidedBefore s).map (·.line)

/-- The public bodies of the applications of the report, by application. -/
def getOgdPublicBodiesByApplication : List (ℕ × List PublicBodyId) :=
  let applicationIds :=
    ((ogdCostsStatement decidedFrom decidedBefore s).map (·.application.applicationId)).dedup
  (applicationIds.map fun id =>
    (id, ((s.applications.filter fun a => a.applicationId = id).flatMap (·.publicBodies)).map
      (·.publicBodyId))).filter (·.2 ≠ [])

end Query

theorem mem_ogdCostsStatement {s : Store} {decidedFrom decidedBefore : Datetime} {row : OgdCostsJoin} :
    row ∈ ogdCostsStatement decidedFrom decidedBefore s ↔
      row.extract ∈ s.claimPaymentExtracts ∧ row.claim ∈ s.claims ∧ row.decision ∈ s.claimDecisions
        ∧ row.application ∈ s.applications ∧ row.extract.claimId = row.claim.claimId
        ∧ row.decision.claimId = row.claim.claimId ∧ row.decision.decision = .payInFull
        ∧ row.decision.createdAt.within decidedFrom decidedBefore = true
        ∧ row.claim.applicationId = row.application.applicationId := by
  simp only [ogdCostsStatement, List.mem_flatMap, List.mem_map, List.mem_filter, Bool.and_eq_true,
    decide_eq_true_eq]
  constructor
  · rintro ⟨e, he, c, ⟨hc, hec⟩, d, ⟨hd, ⟨hdc, hpaid⟩, hwithin⟩, a, ⟨ha, hca⟩, rfl⟩
    exact ⟨he, hc, hd, ha, hec, hdc, hpaid, hwithin, hca⟩
  · rintro ⟨he, hc, hd, ha, hec, hdc, hpaid, hwithin, hca⟩
    exact ⟨_, he, _, ⟨hc, hec⟩, _, ⟨hd, ⟨hdc, hpaid⟩, hwithin⟩, _, ⟨ha, hca⟩, rfl⟩

namespace GenerateOgdCostsReportUseCase

def maxOgdCostsReportRangeDays : ℕ := 90

def reportRow (publicBodies : List (ℕ × List PublicBodyId)) (line : OgdCostsReportSourceLine) :
    Except ReportError OgdCostsRow :=
  match publicBodies.lookup line.applicationId with
  | some (body :: rest) => buildOgdCostsRow line (body :: rest)
  | _ => .error (.reportGeneration
      ("No public bodies found for application " ++ Nat.repr line.applicationId))

/-- What a failure inside the report leaves it as. -/
def asReportGeneration : ReportError → ReportError
  | .reportGeneration message => .reportGeneration message
  | .invalidOgdCostsRecord message => .reportGeneration message
  | _ => .reportGeneration "OGD costs report generation failed"

/-- The whole report or an error, so a partial extract is never returned. -/
def execute (fromDate toDate : Date) (s : Store) : Except ReportError (List OgdCostsRow) := do
  let (decidedFrom, decidedBefore) ← resolveReportWindow fromDate toDate maxOgdCostsReportRangeDays
  match (iterOgdCostsReportLines decidedFrom decidedBefore s).mapM
      (reportRow (getOgdPublicBodiesByApplication decidedFrom decidedBefore s)) with
  | .ok rows => .ok rows
  | .error e => .error (asReportGeneration e)

end GenerateOgdCostsReportUseCase

end InquestsApi
