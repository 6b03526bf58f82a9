import InquestsApi.AutoApprovedEmails
import InquestsApi.EventCatalogue
import InquestsApi.Lib.Checked
import InquestsApi.Reports

/-! `decisions_report` and `GenerateDecisionsReportUseCase`: one row for each decision event
of the history, read back from the event's untyped data. -/
namespace InquestsApi

def decisionEventReferences : List HistoryEventReference :=
  [.applicationAssessmentCompleted, .claimAssessmentCompleted, .poaAutoApproved, .poaAutoRejected]

inductive SubmissionType where
  | application
  | claim
  deriving DecidableEq, Repr

structure DecisionsReportSourceRecord where
  eventReference : HistoryEventReference
  decidedAt : Datetime
  actor : String
  actorType : ActorType
  actorEmailAddress : Option String
  eventData : EventData
  laaReference : String
  applicationSubmittedAt : Datetime
  claimSubmittedAt : Option Datetime
  deriving DecidableEq

structure DecisionsReportRow where
  submissionType : SubmissionType
  caseReference : String
  claimReference : String
  decision : String
  submissionDate : Date
  decidedAt : Datetime
  who : String
  refusalReason : String
  justification : String
  deriving DecidableEq

def systemUsername : String := "System"

def resolveHistoryUsername (actorType : ActorType) (actor : String)
    (actorEmailAddress : Option String) : String :=
  match actorType with
  | .system => systemUsername
  | .caseworker =>
    match actorEmailAddress with
    | some emailAddress => if emailAddress = "" then actor else emailAddress
    | none => actor
  | .provider => actor

/-- `repr` of a value that a lookup gives, exact for a text without quotes. -/
def reprOf (printing : Printing) : Option Json → String
  | none => "None"
  | some (.text text) => "'" ++ text ++ "'"
  | some value => printing.str value

/-- `value or ""`. -/
def textOrEmpty : Option Json → String
  | some (.text text) => text
  | _ => ""

def applicationDecisions : List String := ["Granted", "Refused"]

def claimDecisionLabels : List (String × String) :=
  [("PAY_IN_FULL", "Pay in full"), ("REJECTED", "Rejected")]

def refusalReasonLabels : List (String × String) :=
  [(ReasonForRefusal.notInScope.value, "Not in scope"),
    (ReasonForRefusal.insufficientInformation.value, "Insufficient information"),
    (ReasonForRefusal.duplicateCase.value, "Duplicate case")]

/-- The label of a value that a lookup gives: only a text has one. -/
def labelOf (labels : List (String × String)) : Option Json → Option String
  | some (.text text) => labels.lookup text
  | _ => none

section Rows

variable (printing : Printing) (record : DecisionsReportSourceRecord)

def recordEventData : Except ReportError EventData :=
  if record.eventData = [] then .error (.invalidDecisionRecord "Decision event has no event data")
  else .ok record.eventData

def decisionsReportRow (submissionType : SubmissionType) (claimReference decision : String)
    (submittedAt : Datetime) (refusalReason justification : String) : DecisionsReportRow where
  submissionType := submissionType
  caseReference := record.laaReference
  claimReference := claimReference
  decision := decision
  submissionDate := submittedAt.date
  decidedAt := record.decidedAt
  who := neutraliseCsvFormula
    (resolveHistoryUsername record.actorType record.actor record.actorEmailAddress)
  refusalReason := refusalReason
  justification := neutraliseCsvFormula justification

def applicationDecisionRow : Except ReportError DecisionsReportRow := do
  let data ← recordEventData record
  let row := fun decision =>
    decisionsReportRow record .application "" decision record.applicationSubmittedAt
  match data.lookup "merits_decision" with
  | some (.text decision) =>
    if decision ∉ applicationDecisions then
      .error (.invalidDecisionRecord ("Unknown application decision '" ++ decision ++ "'"))
    else if decision = "Refused" then
      match labelOf refusalReasonLabels (data.lookup "refusal_reason") with
      | some label =>
        .ok (row decision label (textOrEmpty (data.lookup "refusal_justification")))
      | none => .error (.invalidDecisionRecord
        ("Unknown refusal reason " ++ reprOf printing (data.lookup "refusal_reason")))
    else .ok (row decision "" "")
  | other =>
    .error (.invalidDecisionRecord ("Unknown application decision " ++ reprOf printing other))

def claimDecisionRow (decision justification : Option Json) :
    Except ReportError DecisionsReportRow := do
  match labelOf claimDecisionLabels decision with
  | none =>
    .error (.invalidDecisionRecord ("Unknown claim decision " ++ reprOf printing decision))
  | some label =>
    let data ← recordEventData record
    let claimReference := textOrEmpty (data.lookup "claim_reference")
    if claimReference = "" then
      .error (.invalidDecisionRecord "Claim decision has no claim reference")
    else
      match record.claimSubmittedAt with
      | none => .error (.invalidDecisionRecord
        ("Claim " ++ claimReference ++ " has no submission date"))
      | some submittedAt =>
        .ok (decisionsReportRow record .claim claimReference label submittedAt ""
          (textOrEmpty justification))

def buildDecisionsReportRow : Except ReportError DecisionsReportRow :=
  match record.eventReference with
  | .applicationAssessmentCompleted => applicationDecisionRow printing record
  | .claimAssessmentCompleted => do
    let data ← recordEventData record
    claimDecisionRow printing record (data.lookup "claim_decision")
      (data.lookup "decision_justification")
  | .poaAutoApproved => claimDecisionRow printing record (some (.text "PAY_IN_FULL")) none
  | .poaAutoRejected => claimDecisionRow printing record (some (.text "REJECTED")) none
  | other => .error (.invalidDecisionRecord ("Event " ++ other.value ++ " is not a decision event"))

end Rows

section Query

/-- The claim an event names, if it names one. -/
def claimReferenceOf (event : HistoryEvent) : Option String :=
  let claimReference := textOrEmpty (event.data "claim_reference")
  if claimReference = "" then none else some claimReference

def getClaimSubmissionDates (claimReferences : List String) (s : Store) : List (String × Datetime) :=
  (s.claims.filter fun c => c.claimReference ∈ claimReferences).map fun c =>
    (c.claimReference, c.submissionDate)

/-- The decision events of the window, each with its application, oldest first. -/
def decisionEvents (decidedFrom decidedBefore : Datetime) (s : Store) :
    List (HistoryEvent × Application) :=
  ((s.historyEvents.flatMap fun event =>
    (s.applications.filter fun a => a.applicationId = event.applicationId).map fun a =>
      (event, a)).filter fun row =>
    row.1.eventReference ∈ decisionEventReferences
      && row.1.timestamp.within decidedFrom decidedBefore).insertionSort fun a b =>
    a.1.timestamp.instant < b.1.timestamp.instant
      ∨ a.1.timestamp.instant = b.1.timestamp.instant ∧ a.1.id ≤ b.1.id

def sourceRecord (claimSubmissionDates : List (String × Datetime)) (event : HistoryEvent)
    (application : Application) : DecisionsReportSourceRecord where
  eventReference := event.eventReference
  decidedAt := event.timestamp
  actor := event.actor
  actorType := event.actorType
  actorEmailAddress := event.actorEmailAddress
  eventData := event.eventData
  laaReference := application.laaReference
  applicationSubmittedAt := application.createdAt
  claimSubmittedAt := (claimReferenceOf event).bind fun claimReference =>
    claimSubmissionDates.lookup claimReference

def getDecisionsReportRecords (decidedFrom decidedBefore : Datetime) (s : Store) :
    List DecisionsReportSourceRecord :=
  let rows := decisionEvents decidedFrom decidedBefore s
  let claimSubmissionDates :=
    getClaimSubmissionDates (rows.filterMap fun row => claimReferenceOf row.1) s
  rows.map fun row => sourceRecord claimSubmissionDates row.1 row.2

end Query

namespace GenerateDecisionsReportUseCase

def maxReportRangeDays : ℕ := 30

/-- A record that cannot be shown fails the report as a whole. -/
def asReportGeneration : ReportError → ReportError
  | .invalidDecisionRecord message => .reportGeneration message
  | e => e

def execute (printing : Printing) (fromDate toDate : Date) (s : Store) :
    Except ReportError (List DecisionsReportRow) := do
  let (decidedFrom, decidedBefore) ← resolveReportWindow fromDate toDate maxReportRangeDays
  match (getDecisionsReportRecords decidedFrom decidedBefore s).mapM
      (buildDecisionsReportRow printing) with
  | .ok rows => .ok rows
  | .error e => .error (asReportGeneration e)

end GenerateDecisionsReportUseCase

section Reading

variable {printing : Printing} {record : DecisionsReportSourceRecord} {s : Store}

theorem mem_decisionEvents {decidedFrom decidedBefore : Datetime} {event : HistoryEvent}
    {application : Application} :
    (event, application) ∈ decisionEvents decidedFrom decidedBefore s ↔
      event ∈ s.historyEvents ∧ application ∈ s.applications
        ∧ application.applicationId = event.applicationId
        ∧ event.eventReference ∈ decisionEventReferences
        ∧ event.timestamp.within decidedFrom decidedBefore = true := by
  unfold decisionEvents
  rw [List.mem_insertionSort, List.mem_filter, List.mem_flatMap]
  simp only [List.mem_map, List.mem_filter, Bool.and_eq_true, decide_eq_true_eq, Prod.mk.injEq]
  constructor
  · rintro ⟨⟨e, he, a, ⟨ha, hid⟩, rfl, rfl⟩, hdecision, hwithin⟩
    exact ⟨he, ha, hid, hdecision, hwithin⟩
  · rintro ⟨he, ha, hid, hdecision, hwithin⟩
    exact ⟨⟨event, he, application, ⟨ha, hid⟩, rfl, rfl⟩, hdecision, hwithin⟩

/-- A claim that is looked up has its submission date. -/
theorem getClaimSubmissionDates_lookup {claimReferences : List String} {claimReference : String}
    (hasked : claimReference ∈ claimReferences)
    (hstored : claimReference ∈ s.claims.map (·.claimReference)) :
    ((getClaimSubmissionDates claimReferences s).lookup claimReference).isSome := by
  obtain ⟨c, hc, rfl⟩ := List.mem_map.mp hstored
  rw [List.lookup_isSome_iff]
  refine ⟨(c.claimReference, c.submissionDate), ?_, beq_self_eq_true _⟩
  exact List.mem_map.mpr ⟨c, List.mem_filter.mpr ⟨hc, decide_eq_true hasked⟩, rfl⟩

theorem recordEventData_ok {key : String} {value : Json} (h : record.eventData.lookup key = some value) :
    recordEventData record = .ok record.eventData := by
  have hdata : record.eventData ≠ [] := by
    intro hnone
    rw [hnone] at h
    cases h
  exact if_neg hdata

theorem applicationDecisionRow_granted
    (h : record.eventData.lookup "merits_decision" = some (.text "Granted")) :
    ∃ row, applicationDecisionRow printing record = .ok row := by
  have hknown : "Granted" ∈ applicationDecisions := by decide
  simp [applicationDecisionRow, recordEventData_ok h, h, hknown]

theorem applicationDecisionRow_refused {reason : ReasonForRefusal}
    (h : record.eventData.lookup "merits_decision" = some (.text "Refused"))
    (hreason : record.eventData.lookup "refusal_reason" = some (.text reason.value)) :
    ∃ row, applicationDecisionRow printing record = .ok row := by
  have hknown : "Refused" ∈ applicationDecisions := by decide
  obtain ⟨label, hlabel⟩ : ∃ label, refusalReasonLabels.lookup reason.value = some label := by
    cases reason <;> exact ⟨_, rfl⟩
  simp [applicationDecisionRow, recordEventData_ok h, h, hknown, hreason, labelOf, hlabel]

/-- A claim decision has a row where it is a known one of a claim that is named and found. -/
theorem claimDecisionRow_goes (printing : Printing) {decision : Option Json}
    (justification : Option Json) :
    (∃ row, claimDecisionRow printing record decision justification = .ok row) ↔
      (labelOf claimDecisionLabels decision).isSome
        ∧ textOrEmpty (record.eventData.lookup "claim_reference") ≠ ""
        ∧ record.claimSubmittedAt.isSome := by
  unfold claimDecisionRow
  cases hlabel : labelOf claimDecisionLabels decision with
  | none => simp
  | some label =>
      by_cases hdata : record.eventData = []
      · have hunnamed : textOrEmpty none = "" := rfl
        simp [recordEventData, hdata, hunnamed, bind, Except.bind]
      · by_cases hnamed : textOrEmpty (record.eventData.lookup "claim_reference") = ""
        · simp [recordEventData, hdata, hnamed]
        · cases hsubmitted : record.claimSubmittedAt <;>
            simp [recordEventData, hdata, hnamed]

theorem buildDecisionsReportRow_assessment_goes
    (hreference : record.eventReference = .claimAssessmentCompleted) :
    (∃ row, buildDecisionsReportRow printing record = .ok row) ↔
      (labelOf claimDecisionLabels (record.eventData.lookup "claim_decision")).isSome
        ∧ textOrEmpty (record.eventData.lookup "claim_reference") ≠ ""
        ∧ record.claimSubmittedAt.isSome := by
  rw [← claimDecisionRow_goes printing (record.eventData.lookup "decision_justification")]
  unfold buildDecisionsReportRow
  rw [hreference]
  by_cases hdata : record.eventData = []
  · simp [recordEventData, hdata, bind, Except.bind, claimDecisionRow, labelOf]
  · simp [recordEventData, hdata]

end Reading

end InquestsApi
