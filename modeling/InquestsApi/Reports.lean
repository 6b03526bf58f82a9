import InquestsApi.Store

/-! What the reports share: their errors, their window of days, and how a list of public
bodies and a free text are shown in a row. Cells are kept as values: how a date or an amount
is printed never decides whether a report is produced. -/
namespace InquestsApi

inductive ReportError where
  | invalidDateRange (message : String)
  | reportGeneration (message : String)
  | invalidCostLimitForecastRecord (message : String)
  | invalidOgdCostsRecord (message : String)
  | invalidDecisionRecord (message : String)
  | typeError (message : String)
  | overflow (message : String)
  | keyError (key : String)
  deriving DecidableEq, Repr

def midnight (d : Date) : Datetime := ⟨d, 0⟩

/-- The `[start, end)` window in UTC that covers an inclusive range of dates. -/
def resolveReportWindow (fromDate toDate : Date) (maxDays : ℕ) :
    Except ReportError (Datetime × Datetime) :=
  if toDate.before fromDate then
    .error (.invalidDateRange "The 'from' date must be on or before the 'to' date.")
  else if maxDays < toDate.toOrdinal - fromDate.toOrdinal + 1 then
    .error (.invalidDateRange ("The date range must not exceed " ++ Nat.repr maxDays ++ " days."))
  else
    match toDate.next with
    | none => .error (.overflow "date value out of range")
    | some dayAfter => .ok (midnight fromDate, midnight dayAfter)

/-- A half-open window of timestamps. -/
def Datetime.within (t decidedFrom decidedBefore : Datetime) : Bool :=
  decidedFrom.instant ≤ t.instant && t.instant < decidedBefore.instant

def publicBodyDelimiter : String := "; "

def formatPublicBodies (bodies : List PublicBodyId) : String :=
  publicBodyDelimiter.intercalate ((bodies.map (·.value)).insertionSort (· ≤ ·))

def formulaTriggers : List Char := ['=', '+', '-', '@', '\t', '\r']

/-- Stop spreadsheet applications from evaluating free text as a formula. -/
def neutraliseCsvFormula (value : String) : String :=
  match value.toList with
  | [] => value
  | c :: _ => if c ∈ formulaTriggers then "'" ++ value else value

end InquestsApi
