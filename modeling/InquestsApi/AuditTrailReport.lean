import InquestsApi.DecisionsReport
import InquestsApi.PaymentExtractReport

/-! `audit_trail` and `GenerateAuditTrailReportUseCase`: the events of three tables as one list,
in the order in which they happened, and a row for each of them. -/
namespace InquestsApi

inductive ReportType where
  | claimsBacklog
  | applicationsBacklog
  | paymentExtract
  | auditTrail
  | decisions
  | ogdCosts
  | costLimitForecast
  deriving DecidableEq, Repr

def ReportType.value : ReportType → String
  | claimsBacklog => "Claims Backlog"
  | applicationsBacklog => "Applications Backlog"
  | paymentExtract => "Payment Extract"
  | auditTrail => "User Audit Trail"
  | decisions => "Decisions"
  | ogdCosts => "OGD Costs"
  | costLimitForecast => "Cost Limit Forecast"

inductive ApplicationPageType where
  | overview
  | certificate
  deriving DecidableEq, Repr

structure ReportAudit where
  id : ℕ
  timestamp : Datetime
  userEmailAddress : String
  reportType : ReportType
  deriving DecidableEq

structure ViewApplicationPagesAudit where
  id : ℕ
  timestamp : Datetime
  userEmailAddress : String
  laaReference : String
  page : ApplicationPageType
  deriving DecidableEq

/-- The two tables that requests which only read write to. -/
structure AuditTables where
  reportAudit : List ReportAudit
  viewApplicationPagesAudit : List ViewApplicationPagesAudit

structure AuditTrailEvent where
  occurredAt : Datetime
  eventReference : String
  username : String
  laaReference : Option String
  firmCode : Option String
  officeId : Option String
  eventData : EventData
  deriving DecidableEq

def formulaPrefixes : List Char := ['=', '+', '-', '@', '\t', '\r']

/-- Stops spreadsheet tools from evaluating a cell as a formula. -/
def csvSafe (value : String) : String :=
  match value.toList with
  | [] => value
  | c :: _ => if c ∈ formulaPrefixes then "'" ++ value else value

/-- The reports neutralise alike. -/
theorem csvSafe_eq : csvSafe = neutraliseCsvFormula := rfl

/-- Only of what a provider does is it known from which firm and office. -/
def auditHistoryEvent (event : HistoryEvent) (application : Application) : AuditTrailEvent :=
  let isProviderAction : Bool := event.actorType = .provider
  { occurredAt := event.timestamp
    eventReference := event.eventReference.value
    username := resolveHistoryUsername event.actorType event.actor event.actorEmailAddress
    laaReference := some application.laaReference
    firmCode := if isProviderAction then some application.provider.firmCode else none
    officeId := if isProviderAction then some application.provider.officeId else none
    eventData := event.eventData }

def applicationViewEvent (eventReference : AuditEventReference) (event : ViewApplicationPagesAudit) :
    AuditTrailEvent where
  occurredAt := event.timestamp
  eventReference := eventReference.value
  username := event.userEmailAddress
  laaReference := some event.laaReference
  firmCode := none
  officeId := none
  eventData := []

def applicationOverviewViewEvent : ViewApplicationPagesAudit → AuditTrailEvent :=
  applicationViewEvent .applicationViewed

def applicationCertificateViewEvent : ViewApplicationPagesAudit → AuditTrailEvent :=
  applicationViewEvent .certificateViewed

def reportDownloadEvent (event : ReportAudit) : AuditTrailEvent where
  occurredAt := event.timestamp
  eventReference := AuditEventReference.reportDownloaded.value
  username := event.userEmailAddress
  laaReference := none
  firmCode := none
  officeId := none
  eventData := [("report_name", .text event.reportType.value)]

namespace AuditTrailRepository

variable (fromInclusive beforeExclusive : Datetime)

/-- Each event with its application, by time and then by key. -/
def iterHistoryEvents (s : Store) : List AuditTrailEvent :=
  (((s.historyEvents.filter fun event => event.timestamp.within fromInclusive beforeExclusive).flatMap
    fun event => (s.applications.filter fun a => event.applicationId = a.applicationId).map fun a =>
      (event, a)).insertionSort fun x y =>
    x.1.timestamp.instant < y.1.timestamp.instant
      ∨ x.1.timestamp.instant = y.1.timestamp.instant ∧ x.1.id ≤ y.1.id).map fun row =>
    auditHistoryEvent row.1 row.2

def viewEvent (event : ViewApplicationPagesAudit) : AuditTrailEvent :=
  match event.page with
  | .overview => applicationOverviewViewEvent event
  | .certificate => applicationCertificateViewEvent event

def iterApplicationViewEvents (audit : AuditTables) : List AuditTrailEvent :=
  ((audit.viewApplicationPagesAudit.filter fun event =>
    event.timestamp.within fromInclusive beforeExclusive).insertionSort fun x y =>
    x.timestamp.instant < y.timestamp.instant
      ∨ x.timestamp.instant = y.timestamp.instant ∧ x.id ≤ y.id).map viewEvent

def iterReportEvents (audit : AuditTables) : List AuditTrailEvent :=
  ((audit.reportAudit.filter fun event =>
    event.timestamp.within fromInclusive beforeExclusive).insertionSort fun x y =>
    x.timestamp.instant < y.timestamp.instant
      ∨ x.timestamp.instant = y.timestamp.instant ∧ x.id ≤ y.id).map reportDownloadEvent

end AuditTrailRepository

namespace GenerateAuditTrailReportUseCase

open AuditTrailRepository GeneratePaymentExtractReportUseCase

def maxAuditTrailReportRangeDays : ℕ := 30

structure AuditTrailRow where
  title : String
  description : String
  occurredAt : Datetime
  username : String
  laaReference : String
  firmName : String
  officeId : String
  deriving DecidableEq

/-- The cells of a row that hold texts; the day and the time are kept as a value. -/
def AuditTrailRow.texts (row : AuditTrailRow) : List String :=
  [row.title, row.description, row.username, row.laaReference, row.firmName, row.officeId]

/-- Of events at one time, those of an earlier table come first. -/
def readEvents (fromInclusive beforeExclusive : Datetime) (s : Store) (audit : AuditTables) :
    List AuditTrailEvent :=
  let earlier := fun a b : AuditTrailEvent => decide (a.occurredAt.instant ≤ b.occurredAt.instant)
  ((iterHistoryEvents fromInclusive beforeExclusive s).merge
    (iterApplicationViewEvents fromInclusive beforeExclusive audit) earlier).merge
      (iterReportEvents fromInclusive beforeExclusive audit) earlier

def firmCodesOf (events : List AuditTrailEvent) : List String :=
  ((events.filterMap fun event => event.firmCode.filter (· ≠ "")).dedup).insertionSort (· ≤ ·)

def buildAuditFirmNameLookup (getFirmsByIds : List String → Except ReportError (List Firm))
    (events : List AuditTrailEvent) : Except ReportError (List Firm) :=
  let firmCodes := firmCodesOf events
  if firmCodes = [] then .ok []
  else do
    let firms ← getFirmsByIds firmCodes
    match firmCodes.find? fun firmCode => (firmNameOf firms firmCode).isNone with
    | some firmCode => .error (.reportGeneration ("Firm name not found for firm code " ++ firmCode))
    | none => .ok firms

def EventDescriptionError.message : EventDescriptionError → String
  | .unknownEventReference _ message => message
  | .invalidEventData _ message => message

/-- The name of an event's firm, and nothing where it has none. -/
def firmNameCell (firms : List Firm) (event : AuditTrailEvent) : String :=
  match event.firmCode.filter (· ≠ "") with
  | some firmCode => (firmNameOf firms firmCode).getD ""
  | none => ""

def buildAuditRow (printing : Printing) (firms : List Firm) (event : AuditTrailEvent) :
    Except ReportError AuditTrailRow :=
  match describeEvent printing event.eventReference event.eventData with
  | .error e => .error (.reportGeneration (EventDescriptionError.message e))
  | .ok described => .ok
      { title := csvSafe described.title
        description := csvSafe described.description
        occurredAt := event.occurredAt
        username := csvSafe event.username
        laaReference := csvSafe (event.laaReference.getD "")
        firmName := csvSafe (firmNameCell firms event)
        officeId := csvSafe (event.officeId.getD "") }

/-- The whole report or an error, so a failure never yields a part of it. -/
def execute (printing : Printing) (getFirmsByIds : List String → Except ReportError (List Firm))
    (fromDate toDate : Date) (s : Store) (audit : AuditTables) :
    Except ReportError (List AuditTrailRow) := do
  let (fromInclusive, beforeExclusive) ←
    resolveReportWindow fromDate toDate maxAuditTrailReportRangeDays
  let events := readEvents fromInclusive beforeExclusive s audit
  let firms ← buildAuditFirmNameLookup getFirmsByIds events
  events.mapM (buildAuditRow printing firms)

end GenerateAuditTrailReportUseCase

end InquestsApi
