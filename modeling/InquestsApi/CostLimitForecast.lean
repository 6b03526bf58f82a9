import InquestsApi.Reports

/-! The cost limit forecast: what the report knows of an application and what it says
remains of the cost limit. -/
namespace InquestsApi

structure ForecastClaim where
  claimType : ClaimType
  status : ClaimStatus
  gross : Option Decimal
  vatZeroTotal : Option Decimal
  deriving DecidableEq

structure CostLimitForecastCandidate where
  applicationId : ℕ
  laaReference : String
  applicationStatus : Option String
  meritsDecision : MeritsDecision
  certificateEndDate : Option Date
  costLimit : Option Int32
  certificateEffectiveDate : Date
  claims : List ForecastClaim
  publicBodies : List PublicBodyId
  deriving DecidableEq

def liveApplicationStatus : String := "LIVE"

def CostLimitForecastCandidate.isLive (candidate : CostLimitForecastCandidate) (reportDate : Date) :
    Bool :=
  candidate.applicationStatus = some liveApplicationStatus
    && candidate.meritsDecision = .granted
    && candidate.certificateEndDate.all fun endDate => ¬ endDate.before reportDate

def CostLimitForecastCandidate.hasPaidFinalBill (candidate : CostLimitForecastCandidate) : Bool :=
  candidate.claims.any fun c => c.claimType = .finalBill && c.status = .payInFull

def CostLimitForecastCandidate.remainingCostLimit (candidate : CostLimitForecastCandidate) :
    Decimal :=
  let paidClaims := (candidate.claims.filter fun c => c.status = .payInFull).map fun c =>
    ApprovedClaimAmount.mk (some .payInFull) c.gross c.vatZeroTotal
  calculateAvailableFunds candidate.costLimit paidClaims

/-- The record `iter_forecast_candidates` yields for an application with a start date. -/
def forecastCandidate (s : Store) (application : Application) (effectiveDate : Date) :
    CostLimitForecastCandidate where
  applicationId := application.applicationId
  laaReference := application.laaReference
  applicationStatus := application.status
  meritsDecision := application.proceeding.meritsDecision
  certificateEndDate := application.proceeding.certificateEndDate
  costLimit := application.proceeding.proceeding.substantiveCostLimitation
  certificateEffectiveDate := effectiveDate
  claims := (s.getClaimsByApplicationId application.applicationId).map fun c =>
    { claimType := c.claimTypeId
      status := c.statusId
      gross := Amount.valueOf c.totalProfitCostGross
      vatZeroTotal := Amount.valueOf c.totalProfitCostVatZero }
  publicBodies := application.publicBodies.map (·.publicBodyId)

structure CostLimitForecastRow where
  laaReference : String
  publicBodies : String
  costLimit : Decimal
  remaining : Decimal
  certificateEffectiveDate : Date

/-- The row of a candidate, or `none` when the certificate is not part of the forecast. -/
def buildCostLimitForecastRow (candidate : CostLimitForecastCandidate) (reportDate : Date) :
    Except ReportError (Option CostLimitForecastRow) :=
  if ¬ candidate.isLive reportDate ∨ candidate.hasPaidFinalBill then .ok none
  else if candidate.remainingCostLimit ≤ 0 then .ok none
  else if candidate.publicBodies = [] then
    .error (.invalidCostLimitForecastRecord
      ("No public bodies found for application " ++ Nat.repr candidate.applicationId))
  else
    match candidate.costLimit with
    | none => .error (.typeError "conversion from NoneType to Decimal is not supported")
    | some costLimit => .ok (some
        { laaReference := candidate.laaReference
          publicBodies := formatPublicBodies candidate.publicBodies
          costLimit := costLimit.toInt
          remaining := candidate.remainingCostLimit
          certificateEffectiveDate := candidate.certificateEffectiveDate })

/-- The candidates by effective date, then by reference. -/
def iterForecastCandidates (s : Store) : List CostLimitForecastCandidate :=
  (s.applications.filterMap fun a =>
    a.proceeding.certificateStartDate.map (forecastCandidate s a)).insertionSort fun a b =>
      a.certificateEffectiveDate.before b.certificateEffectiveDate
        ∨ (a.certificateEffectiveDate = b.certificateEffectiveDate
          ∧ a.laaReference ≤ b.laaReference)

theorem mem_iterForecastCandidates {s : Store} {candidate : CostLimitForecastCandidate} :
    candidate ∈ iterForecastCandidates s ↔ ∃ a ∈ s.applications, ∃ effectiveDate,
      a.proceeding.certificateStartDate = some effectiveDate
        ∧ candidate = forecastCandidate s a effectiveDate := by
  simp only [iterForecastCandidates, List.mem_insertionSort, List.mem_filterMap,
    Option.map_eq_some_iff, eq_comm]

namespace GenerateCostLimitForecastReportUseCase

/-- The whole report or an error: one candidate without a row spoils it. -/
def execute (reportDate : Date) (s : Store) : Except ReportError (List CostLimitForecastRow) :=
  match (iterForecastCandidates s).mapM fun candidate =>
      buildCostLimitForecastRow candidate reportDate with
  | .ok rows => .ok rows.reduceOption
  | .error _ => .error (.reportGeneration "Cost limit forecast report generation failed")

end GenerateCostLimitForecastReportUseCase

end InquestsApi
