import InquestsApi.AttributedDecisions
import InquestsApi.CsvStream
import InquestsApi.DecisionsReport
import InquestsApi.Ledger
import InquestsApi.Lib.CsvReader
import InquestsApi.Lib.Join
import InquestsApi.ShownDuplicates

/-! The two backlogs, and the claims that are neither lost nor listed twice: each is in the backlog of
claims until it is decided, and from then on in the decisions report. -/
namespace InquestsApi

open UnitOfWork HistoryEventRepository
open GeneratePaymentExtractReportUseCase (Firm TextBuffer writerow writerow_holds firmNameOf)

/-- `get_open_claims`: the claims that wait, each with its application, the earliest first. -/
def ClaimRepository.getOpenClaims (s : Store) : List (Claim × Application) :=
  ((s.claims.flatMap fun c =>
    (s.applications.filter fun a => c.applicationId = a.applicationId).map fun a => (c, a)).filter
      fun row => row.1.statusId = .submitted).insertionSort
    fun x y => x.1.submissionDate.instant ≤ y.1.submissionDate.instant

/-- `strftime("%Y-%m-%d %H:%M:%S")`. -/
def Datetime.strftime (t : Datetime) : String :=
  Date.isoformat t.date ++ " " ++ twoDigits (t.micros / 3600000000) ++ ":"
    ++ twoDigits (t.micros / 60000000 % 60) ++ ":" ++ twoDigits (t.micros / 1000000 % 60)

def MeritsDecision.value : MeritsDecision → String
  | .submitted => "SUBMITTED"
  | .refused => "REFUSED"
  | .granted => "GRANTED"

namespace Backlog

section Csv

variable {α : Type} (firmCodeOf : α → String) (cells : String → α → List String)
variable (firms : List Firm)

/-- The row of a record, once the name of its firm is looked up. -/
def buildRow (record : α) : Except ReportError (List String) :=
  match firmNameOf firms (firmCodeOf record) with
  | none =>
    .error (.reportGeneration ("Firm name not found for firm code " ++ firmCodeOf record))
  | some firmName => .ok (cells firmName record)

def writeRows (buffer : TextBuffer) : List α → Except ReportError TextBuffer
  | [] => .ok buffer
  | record :: records => do
    let row ← buildRow firmCodeOf cells firms record
    writeRows (writerow buffer row) records

/-- A backlog: the firms of its records, the header, and a row for each record. -/
def build (getFirmsByIds : List String → Except ReportError (List Firm)) (headers : List String)
    (records : List α) : Except ReportError (List Char) := do
  let firms ← getFirmsByIds (records.map firmCodeOf).dedup
  let buffer ← writeRows firmCodeOf cells firms (writerow .empty headers) records
  pure buffer.content

end Csv

/-- What a reader finds in one column, below its header. -/
def column (index : ℕ) (content : List Char) : List (Option String) :=
  (Csv.read content).tail.map (·[index]?)

section Built

variable {α : Type} {firmCodeOf : α → String} {cells : String → α → List String}
variable {firms : List Firm} {buffer : TextBuffer} {pending : List (List String)} {records : List α}
variable {content : List Char}

theorem buildRow_ok {record : α} {row : List String} :
    buildRow firmCodeOf cells firms record = .ok row
      ↔ ∃ firmName, firmNameOf firms (firmCodeOf record) = some firmName ∧ row = cells firmName record := by
  unfold buildRow
  cases firmNameOf firms (firmCodeOf record) with
  | none => simp
  | some firmName => simp [eq_comm]

/-- The rows are written behind what the buffer holds. -/
theorem writeRows_ok (hbuffer : buffer.Holds (Csv.text pending)) :
    (writeRows firmCodeOf cells firms buffer records).map (·.content) = .ok content
      ↔ ∃ rows, List.Forall₂ (fun record row => buildRow firmCodeOf cells firms record = .ok row) records rows
        ∧ content = Csv.text (pending ++ rows) := by
  induction records generalizing buffer pending with
  | nil =>
      change Except.ok buffer.content = Except.ok content ↔ _
      rw [hbuffer.content]
      simp [eq_comm]
  | cons record records ih =>
      unfold writeRows
      cases hrow : buildRow firmCodeOf cells firms record with
      | error e =>
          refine iff_of_false (fun h => nomatch h) ?_
          intro h
          obtain ⟨rows, hrows, -⟩ := h
          cases hrows with
          | cons hhead _ => cases hrow.symm.trans hhead
      | ok row =>
          change (writeRows firmCodeOf cells firms (writerow buffer row) records).map (·.content) = _ ↔ _
          rw [ih (writerow_holds hbuffer row)]
          constructor
          · intro h
            obtain ⟨rows, hrows, hcontent⟩ := h
            exact ⟨row :: rows, .cons hrow hrows, by simpa using hcontent⟩
          · intro h
            obtain ⟨_, hrows, hcontent⟩ := h
            cases hrows with
            | cons hhead hrest =>
                cases hrow.symm.trans hhead
                exact ⟨_, hrest, by simpa using hcontent⟩

variable {getFirmsByIds : List String → Except ReportError (List Firm)} {headers : List String}

/-- A backlog is read back as its header and a row for each record. -/
theorem build_ok : build firmCodeOf cells getFirmsByIds headers records = .ok content
      ↔ ∃ firms rows, getFirmsByIds (records.map firmCodeOf).dedup = .ok firms
        ∧ List.Forall₂ (fun record row => buildRow firmCodeOf cells firms record = .ok row) records rows
        ∧ content = Csv.text (headers :: rows) := by
  have hheader : (writerow .empty headers).Holds (Csv.text ([] ++ [headers])) :=
    writerow_holds Chunks.Buffer.holds_empty _
  unfold build
  cases getFirmsByIds (records.map firmCodeOf).dedup with
  | error e => exact iff_of_false (fun h => nomatch h) fun ⟨_, _, h, _⟩ => nomatch h
  | ok firms =>
      change (writeRows firmCodeOf cells firms (writerow .empty headers) records).map (·.content) = _ ↔ _
      rw [writeRows_ok hheader]
      constructor
      · intro h
        obtain ⟨rows, hrows⟩ := h
        exact ⟨firms, rows, rfl, hrows⟩
      · intro h
        obtain ⟨_, rows, hfirms, hrows⟩ := h
        cases hfirms
        exact ⟨rows, hrows⟩

/-- A column whose cells are those of the records, whatever their firms are called. -/
theorem column_of_build (index : ℕ) (f : α → String)
    (hcell : ∀ firmName record, (cells firmName record)[index]? = some (f record))
    (h : build firmCodeOf cells getFirmsByIds headers records = .ok content) :
    column index content = records.map fun record => some (f record) := by
  obtain ⟨firms, rows, -, hrows, rfl⟩ := build_ok.mp h
  unfold column
  rw [Csv.read_text, List.tail_cons]
  clear h
  induction hrows with
  | nil => rfl
  | cons hhead _ ih =>
      obtain ⟨firmName, -, rfl⟩ := buildRow_ok.mp hhead
      rw [List.map_cons, List.map_cons, hcell, ih]

end Built

end Backlog

/-- `f"{amount:.2f}"`, or nothing where there is no amount. -/
def amountCell (amount : Option Amount) : String :=
  match Amount.valueOf amount with
  | some value => formatFixed value
  | none => ""

namespace GenerateClaimBacklogReportUseCase

def claimsBacklogReportHeaders : List String :=
  ["Case reference", "Firm Name", "Firm Account Number", "Submission date", "Claim reference",
    "Claim status", "Total 0% VAT claim value", "Net total claim value", "Gross total claim value",
    "Claim type"]

def cells (firmName : String) (row : Claim × Application) : List String :=
  [row.2.laaReference, firmName, row.2.provider.firmCode, row.1.submissionDate.strftime,
    row.1.claimReference, row.1.statusId.value, amountCell row.1.totalProfitCostVatZero,
    amountCell row.1.totalProfitCostNet, amountCell row.1.totalProfitCostGross,
    row.1.claimTypeId.value]

def execute (getFirmsByIds : List String → Except ReportError (List Firm)) (s : Store) :
    Except ReportError (List Char) :=
  Backlog.build (·.2.provider.firmCode) cells getFirmsByIds claimsBacklogReportHeaders
    (ClaimRepository.getOpenClaims s)

end GenerateClaimBacklogReportUseCase

namespace GenerateApplicationBacklogReportUseCase

open ApplicationRepository

def applicationBacklogReportHeaders : List String :=
  ["Application reference", "Current application status", "Application received date", "Firm name",
    "Office account number", "Proceeding", "Matter type", "Potential duplicate",
    "Potential duplicate submitted application reference(s)"]

def cells (firmName : String) (record : ApplicationBacklogRecord) : List String :=
  [record.laaReference, record.meritsDecision.value, record.createdAt.strftime, firmName,
    record.officeId, record.proceedingDescription.getD "", record.matterType.getD "",
    if record.potentialDuplicateApplications = [] then "No" else "Yes",
    "; ".intercalate record.potentialDuplicateApplications]

/-- The records, or the error that `get_application_backlog_records` raises, and their text. -/
def execute (getFirmsByIds : List String → Except ReportError (List Firm)) (s : Store) :
    Except (ApiError ⊕ ReportError) (List Char) := do
  let records ← (getApplicationBacklogRecords s).mapError .inl
  (Backlog.build (·.firmCode) cells getFirmsByIds applicationBacklogReportHeaders records).mapError .inr

end GenerateApplicationBacklogReportUseCase

/-- The claim that a decision event names in the report: an assessment of the application names none. -/
def claimNamed (event : HistoryEvent) : String :=
  if event.eventReference = .applicationAssessmentCompleted then ""
  else textOrEmpty (event.data "claim_reference")

/-- The event is a decision on the claim with this reference. -/
def decides (claimReference : String) (event : HistoryEvent) : Bool :=
  event.eventReference ∈ decisionEventReferences && claimNamed event = claimReference

/-- The store joins each claim and each event with one application. -/
structure JoinedCases (s : Store) : Prop where
  keyed : DuplicatesKeyed s
  recorded : WellRecordedHistory s
  filed : ∀ c ∈ s.claims, ClaimOnFile s c

section Joins

variable {s : Store}

theorem applications_partner {applicationId : ℕ} (hkeys : (s.applications.map (·.applicationId)).Nodup)
    (h : applicationId ∈ applicationIds s) :
    ∃ a, (s.applications.filter fun a => a.applicationId = applicationId) = [a] := by
  obtain ⟨a, ha, rfl⟩ := List.mem_map.mp h
  exact ⟨a, Join.filter_key_eq_singleton hkeys ha⟩

theorem getOpenClaims_perm (hs : JoinedCases s) :
    ((ClaimRepository.getOpenClaims s).map Prod.fst).Perm
      (s.claims.filter fun c => c.statusId = .submitted) := by
  have hone : ∀ c ∈ s.claims,
      ∃ a, (s.applications.filter fun a => c.applicationId = a.applicationId) = [a] := by
    intro c hc
    simpa only [eq_comm] using applications_partner hs.keyed.keys (hs.filed c hc).application
  unfold ClaimRepository.getOpenClaims
  refine ((List.perm_insertionSort _ _).map Prod.fst).trans ?_
  conv_rhs => rw [← Join.map_fst_flatMap hone, List.filter_map]
  exact List.Perm.refl _

theorem decisionEvents_perm (hs : JoinedCases s) (decidedFrom decidedBefore : Datetime) :
    ((decisionEvents decidedFrom decidedBefore s).map Prod.fst).Perm
      (s.historyEvents.filter fun event => event.eventReference ∈ decisionEventReferences
        && event.timestamp.within decidedFrom decidedBefore) := by
  have hone : ∀ event ∈ s.historyEvents,
      ∃ a, (s.applications.filter fun a => a.applicationId = event.applicationId) = [a] :=
    fun event hevent => applications_partner hs.keyed.keys (hs.recorded.events event hevent).application
  unfold decisionEvents
  refine ((List.perm_insertionSort _ _).map Prod.fst).trans ?_
  conv_rhs => rw [← Join.map_fst_flatMap hone, List.filter_map]
  exact List.Perm.refl _

end Joins

section Rows

variable {s : Store} {c : Claim} {event : HistoryEvent} {rows : List HistoryEvent}

theorem applicationDecisionRow_names {printing : Printing} {record : DecisionsReportSourceRecord}
    {row : DecisionsReportRow} (h : applicationDecisionRow printing record = .ok row) :
    row.submissionType = .application ∧ row.caseReference = record.laaReference
      ∧ row.claimReference = "" := by
  simp only [applicationDecisionRow, except_bind_ok] at h
  obtain ⟨data, -, h⟩ := h
  split at h
  · split_ifs at h
    · split at h
      · cases h
        exact ⟨rfl, rfl, rfl⟩
      · cases h
    · cases h
      exact ⟨rfl, rfl, rfl⟩
  · cases h

theorem eq_of_recordEventData {record : DecisionsReportSourceRecord} {data : EventData}
    (h : recordEventData record = .ok data) : record.eventData = data := by
  unfold recordEventData at h
  split_ifs at h
  exact Except.ok.inj h

/-- A claim's row tells its reference, and the label of the decision. -/
theorem claimDecisionRow_names {printing : Printing} {record : DecisionsReportSourceRecord}
    {decision justification : Option Json} {row : DecisionsReportRow}
    (h : claimDecisionRow printing record decision justification = .ok row) :
    row.submissionType = .claim
      ∧ row.claimReference = textOrEmpty (record.eventData.lookup "claim_reference")
      ∧ labelOf claimDecisionLabels decision = some row.decision := by
  unfold claimDecisionRow at h
  cases hlabel : labelOf claimDecisionLabels decision with
  | none => simp [hlabel] at h
  | some label =>
      simp only [hlabel, except_bind_ok] at h
      obtain ⟨data, hdata, h⟩ := h
      obtain rfl := eq_of_recordEventData hdata
      split_ifs at h
      cases hsubmitted : record.claimSubmittedAt with
      | none => simp [hsubmitted] at h
      | some submittedAt =>
          simp only [hsubmitted] at h
          cases h
          exact ⟨rfl, rfl, rfl⟩

/-- The status that a decision event of a claim tells. -/
def claimDecided (event : HistoryEvent) : Option Json :=
  match event.eventReference with
  | .poaAutoApproved => some (.text "PAY_IN_FULL")
  | .poaAutoRejected => some (.text "REJECTED")
  | _ => event.data "claim_decision"

/-- What the report shows of a decision event: the application where it is an assessment of one, and a
claim with what was decided of it otherwise. -/
theorem buildDecisionsReportRow_names {printing : Printing} {row : DecisionsReportRow}
    {dates : List (String × Datetime)} {application : Application}
    (h : buildDecisionsReportRow printing (sourceRecord dates event application) = .ok row) :
    row.claimReference = claimNamed event
      ∧ if event.eventReference = .applicationAssessmentCompleted then
          row.submissionType = .application ∧ row.caseReference = application.laaReference
        else row.submissionType = .claim
          ∧ labelOf claimDecisionLabels (claimDecided event) = some row.decision := by
  have hreference : (sourceRecord dates event application).eventReference = event.eventReference := rfl
  unfold buildDecisionsReportRow at h
  rw [hreference] at h
  unfold claimNamed claimDecided
  cases hkind : event.eventReference <;> simp only [hkind] at h
  case applicationAssessmentCompleted =>
    obtain ⟨htype, hcase, hclaim⟩ := applicationDecisionRow_names h
    exact ⟨hclaim, htype, hcase⟩
  case claimAssessmentCompleted =>
    rw [except_bind_ok] at h
    obtain ⟨data, hdata, h⟩ := h
    obtain rfl := eq_of_recordEventData hdata
    obtain ⟨htype, hclaim, hlabel⟩ := claimDecisionRow_names h
    exact ⟨hclaim, htype, hlabel⟩
  case poaAutoApproved =>
    obtain ⟨htype, hclaim, hlabel⟩ := claimDecisionRow_names h
    exact ⟨hclaim, htype, hlabel⟩
  case poaAutoRejected =>
    obtain ⟨htype, hclaim, hlabel⟩ := claimDecisionRow_names h
    exact ⟨hclaim, htype, hlabel⟩
  all_goals cases h

end Rows

def claimDecisionReferences : List HistoryEventReference :=
  [.claimAssessmentCompleted, .poaAutoApproved, .poaAutoRejected]

/-- The claim waits and no decision names it; or it is decided, and one event names it, which tells how. -/
inductive ToldOnce (s : Store) (c : Claim) : Prop
  | waiting (hstatus : c.statusId = .submitted)
      (hnone : s.historyEvents.filter (decides c.claimReference) = [])
  | decided (event : HistoryEvent) (hstatus : c.statusId ≠ .submitted)
      (hone : s.historyEvents.filter (decides c.claimReference) = [event]) (htells : TellsClaim c event)

structure ClaimsAccounted (s : Store) : Prop extends JoinedCases s where
  references : (s.claims.map (·.claimReference)).Nodup
  told : ∀ c ∈ s.claims, ToldOnce s c

section Steps

variable {env : Env} {faults : Faults} {request : CaseRequest} {s s' : Store} {c : Claim}
variable {row : HistoryEvent} {rows : List HistoryEvent} {claimReference : String}

theorem decides_iff (hnamed : claimReference ≠ "") :
    decides claimReference row = true
      ↔ row.eventReference ∈ claimDecisionReferences
        ∧ textOrEmpty (row.data "claim_reference") = claimReference := by
  unfold decides claimNamed
  rw [Bool.and_eq_true, decide_eq_true_eq, decide_eq_true_eq]
  by_cases hassessment : row.eventReference = .applicationAssessmentCompleted
  · rw [if_pos hassessment, hassessment]
    exact iff_of_false (fun h => hnamed h.2.symm) fun h => absurd h.1 (by decide)
  · rw [if_neg hassessment]
    simp [decisionEventReferences, claimDecisionReferences, hassessment]

theorem filter_decides_eq_nil (hnamed : claimReference ≠ "")
    (h : ∀ row ∈ rows, row.eventReference ∉ claimDecisionReferences) :
    rows.filter (decides claimReference) = [] := by
  apply List.filter_eq_nil_iff.mpr
  intro row hrow hdecides
  exact h row hrow ((decides_iff hnamed).mp hdecides).1

theorem TellsClaim.mem_claimDecisionReferences (h : TellsClaim c row) :
    row.eventReference ∈ claimDecisionReferences := by
  cases h.verdict with
  | assessed hkind _ => simp [hkind, claimDecisionReferences]
  | autoApproved hkind _ _ => simp [hkind, claimDecisionReferences]
  | autoRejected hkind _ => simp [hkind, claimDecisionReferences]

/-- An event that tells a claim decides this claim and no other. -/
theorem TellsClaim.decides_iff (h : TellsClaim c row) (hnamed : claimReference ≠ "") :
    decides claimReference row = true ↔ c.claimReference = claimReference := by
  rw [InquestsApi.decides_iff hnamed, h.reference]
  exact and_iff_right h.mem_claimDecisionReferences

/-- What is told of the claims, after a step that adds no decision. -/
theorem ClaimsAccounted.undecided (hs : ClaimsAccounted s)
    (hgrows : s'.historyEvents = s.historyEvents ++ rows)
    (hrows : ∀ row ∈ rows, row.eventReference ∉ claimDecisionReferences) (hc : c ∈ s.claims) :
    ToldOnce s' c := by
  have hsame : s'.historyEvents.filter (decides c.claimReference)
      = s.historyEvents.filter (decides c.claimReference) := by
    rw [hgrows, List.filter_append, filter_decides_eq_nil (hs.recorded.references c hc) hrows,
      List.append_nil]
  cases hs.told c hc with
  | waiting hstatus hnone => exact .waiting hstatus (hsame.trans hnone)
  | decided event hstatus hone htells => exact .decided event hstatus (hsame.trans hone) htells

/-- No decision is told of a claim before it is there. -/
theorem JoinedCases.filter_decides_of_new (hs : JoinedCases s) (hnamed : claimReference ≠ "")
    (hnew : ∀ c ∈ s.claims, c.claimReference ≠ claimReference) :
    s.historyEvents.filter (decides claimReference) = [] := by
  apply List.filter_eq_nil_iff.mpr
  intro event hevent hdecides
  obtain ⟨hkind, hreference⟩ := (decides_iff hnamed).mp hdecides
  have hdata := (hs.recorded.events event hevent).data
  have hnames : ∃ c ∈ s.claims, NamesClaim event.applicationId event.eventData c := by
    simp only [claimDecisionReferences, List.mem_cons, List.not_mem_nil, or_false] at hkind
    rcases hkind with hkind | hkind | hkind
    · rw [hkind] at hdata
      obtain ⟨c, hc, hnames, -⟩ := hdata
      exact ⟨c, hc, hnames⟩
    · rw [hkind] at hdata
      exact hdata
    · rw [hkind] at hdata
      exact hdata
  obtain ⟨c, hc, hnames⟩ := hnames
  unfold HistoryEvent.data at hreference
  rw [hnames.reference] at hreference
  exact hnew c hc hreference

/-- A claim is submitted, with a reference that is new. -/
theorem ClaimsAccounted.submitted {claim : Claim} (hs : ClaimsAccounted s)
    (hgrows : s'.historyEvents = s.historyEvents ++ rows)
    (hrows : ∀ row ∈ rows, row.eventReference ∉ claimDecisionReferences)
    (hclaims : s'.claims = s.claims ++ [claim]) (hstatus : claim.statusId = .submitted)
    (hnamed : claim.claimReference ≠ "")
    (hnew : ∀ c ∈ s.claims, c.claimReference ≠ claim.claimReference) :
    (s'.claims.map (·.claimReference)).Nodup ∧ ∀ c ∈ s'.claims, ToldOnce s' c := by
  rw [hclaims]
  constructor
  · rw [List.map_append, List.map_singleton]
    refine List.nodup_append.mpr ⟨hs.references, List.nodup_singleton _, ?_⟩
    intro reference hreference _ hsingle
    obtain ⟨c, hc, rfl⟩ := List.mem_map.mp hreference
    rw [List.mem_singleton.mp hsingle]
    exact hnew c hc
  · intro c hc
    rcases List.mem_append.mp hc with hold | hlast
    · exact hs.undecided hgrows hrows hold
    · rw [List.mem_singleton.mp hlast]
      refine .waiting hstatus ?_
      rw [hgrows, List.filter_append, hs.filter_decides_of_new hnamed hnew,
        filter_decides_eq_nil hnamed hrows, List.append_nil]

/-- A claim that waits is decided, and the first of the new events tells it. -/
theorem ClaimsAccounted.decided {claim : Claim} {verdict : Verdict} {decisionRows : DecisionRows}
    (hs : ClaimsAccounted s) (hdecided : Decided claim.claimId verdict decisionRows s s')
    (hclaim : claim ∈ s.claims) (hstatus : claim.statusId = .submitted)
    (hgrows : s'.historyEvents = s.historyEvents ++ row :: rows)
    (htells : TellsClaim (claim.withStatus verdict.status) row)
    (hrows : ∀ row ∈ rows, row.eventReference ∉ claimDecisionReferences) :
    (s'.claims.map (·.claimReference)).Nodup ∧ ∀ c ∈ s'.claims, ToldOnce s' c := by
  have hsame : s'.claims.map (·.claimReference) = s.claims.map (·.claimReference) := by
    rw [hdecided.claims, Store.setClaimStatus, List.map_map]
    apply List.map_congr_left
    intro c _
    by_cases hkey : c.claimId = claim.claimId
    · simp [hkey, Claim.withStatus]
    · simp [hkey]
  refine ⟨hsame ▸ hs.references, ?_⟩
  intro c hc
  obtain ⟨c₀, hc₀, rfl⟩ := hdecided.mem_claims.mp hc
  have hnamed := hs.recorded.references c₀ hc₀
  have hgrown : s'.historyEvents.filter (decides c₀.claimReference)
      = s.historyEvents.filter (decides c₀.claimReference)
        ++ if decides c₀.claimReference row then [row] else [] := by
    rw [hgrows, List.filter_append, List.filter_cons, filter_decides_eq_nil hnamed hrows]
  by_cases hkey : c₀.claimId = claim.claimId
  · obtain rfl := eq_of_claimId hs.recorded.keys hc₀ hclaim hkey
    rw [if_pos rfl]
    rw [if_pos ((htells.decides_iff hnamed).mpr rfl)] at hgrown
    cases hs.told c₀ hc₀ with
    | waiting _ hnone =>
        rw [hnone] at hgrown
        refine .decided row ?_ hgrown htells
        intro hwaits
        cases verdict <;> cases hwaits
    | decided _ hdecided _ _ => exact absurd hstatus hdecided
  · have hother : ¬ decides c₀.claimReference row = true := by
      rw [htells.decides_iff hnamed]
      intro hreference
      exact hkey (congrArg Claim.claimId (List.inj_on_of_nodup_map hs.references hclaim hc₀ hreference)).symm
    rw [if_neg hother, List.append_nil] at hgrown
    rw [if_neg hkey]
    cases hs.told c₀ hc₀ with
    | waiting hwaits hnone => exact .waiting hwaits (hgrown.trans hnone)
    | decided event hdone hone htold => exact .decided event hdone (hgrown.trans hone) htold

theorem JoinedCases.step {permitted : CasePermissions} (hs : JoinedCases s)
    (h : CaseTransacts permitted s s') : JoinedCases s' := by
  obtain ⟨_, hstep⟩ := h.historyStep
  exact ⟨hs.keyed.transacts h, hs.recorded.step hstep, hstep.onFile hs.filed⟩

/-- What the history is given of a kind that decides no claim. -/
theorem ClaimsAccounted.of_same (hs : ClaimsAccounted s)
    (hgrows : s'.historyEvents = s.historyEvents ++ rows)
    (hrows : ∀ row ∈ rows, row.eventReference ∉ claimDecisionReferences) (hsame : s'.claims = s.claims) :
    (s'.claims.map (·.claimReference)).Nodup ∧ ∀ c ∈ s'.claims, ToldOnce s' c := by
  rw [hsame]
  exact ⟨hs.references, fun c hc => hs.undecided hgrows hrows hc⟩

/-- Only the requests of claims write events that decide a claim. -/
theorem eventKinds_undecided (h : ∀ r, request ≠ .claim r) :
    ∀ kind ∈ eventKinds request, kind.1 ∉ claimDecisionReferences := by
  cases request with
  | claim r => exact absurd rfl (h r)
  | _ =>
      simp only [eventKinds]
      decide

theorem Performs.accounted (h : Performs env faults request s s') (hs : ClaimsAccounted s) :
    ClaimsAccounted s' := by
  have hview : IgnoresApplications Store.claims :=
    ⟨⟨⟨fun _ _ => rfl⟩, fun _ _ _ => rfl, fun _ _ _ => rfl, fun _ _ _ => rfl⟩, fun _ _ => rfl,
      fun _ _ => rfl⟩
  have hjoined := hs.toJoinedCases.step h.anyCase
  suffices hclaims : (s'.claims.map (·.claimReference)).Nodup ∧ ∀ c ∈ s'.claims, ToldOnce s' c from
    ⟨hjoined, hclaims.1, hclaims.2⟩
  obtain ⟨rows, hgrows, hrecorded⟩ := h.rows
  by_cases hclaim : ∃ r, request = .claim r
  case neg =>
    have hcase := not_exists.mp hclaim
    have hother : ∀ row ∈ rows, row.eventReference ∉ claimDecisionReferences :=
      fun row hrow => eventKinds_undecided hcase _ (hrecorded row hrow).kind
    exact hs.of_same hgrows hother (h.keeps_of_case hview hcase)
  obtain ⟨_, rfl⟩ := hclaim
  cases h with
  | confirmation _ h =>
      obtain ⟨row, ⟨actor, id, -, rfl⟩, happends⟩ := confirmSubmission_appends h
      refine hs.of_same happends.rows (List.forall_mem_singleton.mpr ?_)
        (confirmSubmission_keeps _ _ _ _ hview.toIgnoresUpdates.toIgnoresHistory _ _ _ h)
      exact (by decide : HistoryEventReference.claimSubmissionConfirmation ∉ claimDecisionReferences)
  | submission _ h =>
      obtain ⟨row, ⟨actor, id, -, rfl⟩, happends⟩ := submitClaim_appends h
      have hsubmitted := submitClaim_ok h
      obtain ⟨draw, hreference⟩ := hsubmitted.stored.reference
      refine hs.submitted happends.rows (List.forall_mem_singleton.mpr ?_) hsubmitted.claims
        hsubmitted.stored.status (hreference ▸ generateClaimReference_ne draw) hsubmitted.stored.newReference
      exact (by decide : HistoryEventReference.claimSubmitted ∉ claimDecisionReferences)
  | autoRejection hpursued _ h =>
      obtain ⟨row, ⟨actor, id, -, rfl⟩, happends⟩ := autoRejectClaim_appends h
      obtain ⟨_, hdecided⟩ := autoRejectClaim_ok h
      refine hs.decided hdecided hpursued.standing.stored hpursued.standing.status happends.rows ?_
        (List.forall_mem_nil _)
      exact ⟨hpursued.claimOf.symm, rfl, .autoRejected rfl rfl⟩
  | autoApproval hpursued houtcome h =>
      obtain ⟨row, ⟨actor, id, -, rfl⟩, happends⟩ := autoApproveClaim_appends h
      obtain ⟨_, _, -, hdecided⟩ := autoApproveClaim_ok h
      have htype := hpursued.standing.claimType.trans
        (isEligibleForAutoApproval_claimType (autoOutcome_approve houtcome).2.2)
      refine hs.decided hdecided hpursued.standing.stored hpursued.standing.status happends.rows ?_
        (List.forall_mem_nil _)
      exact ⟨hpursued.claimOf.symm, rfl, .autoApproved rfl rfl htype⟩
  | payment _ h =>
      obtain ⟨_, _, _, _, _, ⟨hstored, happlication, hstatus⟩, hdecided, ⟨actor, id, -, rfl⟩,
        ⟨_, _, -, rfl⟩, happends⟩ := payClaim_assesses h
      refine hs.decided hdecided hstored hstatus happends.rows ?_ (List.forall_mem_singleton.mpr ?_)
      · exact ⟨happlication.symm, rfl, .assessed rfl rfl⟩
      · exact (by decide : HistoryEventReference.claimApprovedEmail ∉ claimDecisionReferences)
  | rejection _ h =>
      obtain ⟨_, _, _, _, ⟨hstored, happlication, hstatus⟩, hdecided, ⟨actor, id, -, rfl⟩,
        ⟨_, _, -, rfl⟩, happends⟩ := rejectClaim_assesses h
      refine hs.decided hdecided hstored hstatus happends.rows ?_ (List.forall_mem_singleton.mpr ?_)
      · exact ⟨happlication.symm, rfl, .assessed rfl rfl⟩
      · exact (by decide : HistoryEventReference.claimRejectedEmail ∉ claimDecisionReferences)

end Steps

/-- Every download of the backlog has the claim's reference this often. -/
def BackloggedTimes (s : Store) (c : Claim) (n : ℕ) : Prop :=
  ∀ getFirmsByIds content, GenerateClaimBacklogReportUseCase.execute getFirmsByIds s = .ok content →
    (Backlog.column 4 content).count (some c.claimReference) = n

/-- Every decisions report has the claim's reference this often, and shows the claim by its status. -/
def ReportedTimes (s : Store) (c : Claim) (n : Datetime × Datetime → ℕ) : Prop :=
  ∀ printing fromDate toDate window,
    resolveReportWindow fromDate toDate GenerateDecisionsReportUseCase.maxReportRangeDays = .ok window →
    ∃ rows, GenerateDecisionsReportUseCase.execute printing fromDate toDate s = .ok rows
      ∧ (rows.map (·.claimReference)).count c.claimReference = n window
      ∧ ∀ row ∈ rows, row.claimReference = c.claimReference →
        claimDecisionLabels.lookup c.statusId.value = some row.decision

/-- A claim that waits is in the backlog, one that is decided in the reports of the time of its decision;
and nowhere else. -/
inductive AccountedFor (s : Store) (c : Claim) : Prop
  | waiting (hstatus : c.statusId = .submitted) (hbacklog : BackloggedTimes s c 1)
      (hreported : ReportedTimes s c fun _ => 0)
  | decided (event : HistoryEvent) (hevent : event ∈ s.historyEvents) (hstatus : c.statusId ≠ .submitted)
      (htells : TellsClaim c event) (hbacklog : BackloggedTimes s c 0)
      (hreported : ReportedTimes s c fun window =>
        if event.timestamp.within window.1 window.2 then 1 else 0)

section Counts

variable {s : Store} {c : Claim} {event : HistoryEvent}

theorem ClaimsAccounted.backlogged (hs : ClaimsAccounted s) (hc : c ∈ s.claims) :
    BackloggedTimes s c (if c.statusId = .submitted then 1 else 0) := by
  intro getFirmsByIds content h
  have hcolumn := Backlog.column_of_build 4 (fun row => row.1.claimReference) (fun _ _ => rfl) h
  have hkeys : (s.claims.map fun c => some c.claimReference).Nodup := by
    simpa [Function.comp_def] using hs.references.map (Option.some_injective _)
  rw [hcolumn]
  refine (List.Perm.count_eq ?_ _).trans
    (Join.count_key_filter (p := fun c => c.statusId = .submitted) hkeys hc)
  simpa [Function.comp_def] using
    (getOpenClaims_perm hs.toJoinedCases).map fun c => some c.claimReference

/-- Every report of a window that is accepted has a row for each decision of the window. -/
theorem WellRecordedHistory.reported (hs : WellRecordedHistory s) (printing : Printing)
    {fromDate toDate : Date} {window : Datetime × Datetime}
    (hwindow : resolveReportWindow fromDate toDate GenerateDecisionsReportUseCase.maxReportRangeDays
      = .ok window) :
    ∃ rows, GenerateDecisionsReportUseCase.execute printing fromDate toDate s = .ok rows
      ∧ List.Forall₂ (fun record row => buildDecisionsReportRow printing record = .ok row)
        (getDecisionsReportRecords window.1 window.2 s) rows := by
  obtain ⟨rows, hrows⟩ := Checked.mapM_goes.mpr ((hs.readable printing).rows window.1 window.2)
  refine ⟨rows, ?_, Checked.mapM_ok.mp hrows⟩
  unfold GenerateDecisionsReportUseCase.execute
  rw [hwindow]
  simp only [bind, Except.bind]
  rw [hrows]

theorem ClaimsAccounted.reportedTimes (hs : ClaimsAccounted s)
    (htells : ∀ event ∈ s.historyEvents, decides c.claimReference event = true → TellsClaim c event) :
    ReportedTimes s c fun window => (s.historyEvents.filter (decides c.claimReference)).countP fun event =>
      event.timestamp.within window.1 window.2 := by
  intro printing fromDate toDate window hwindow
  obtain ⟨rows, hexecute, hrows⟩ := hs.recorded.reported printing hwindow
  unfold getDecisionsReportRecords at hrows
  rw [List.forall₂_map_left_iff] at hrows
  have hevents := decisionEvents_perm hs.toJoinedCases window.1 window.2
  refine ⟨rows, hexecute, ?_, ?_⟩
  · have hnames : ((decisionEvents window.1 window.2 s).map Prod.fst).map claimNamed
        = rows.map (·.claimReference) := by
      rw [List.map_map, ← List.forall₂_eq_eq_eq, List.forall₂_map_left_iff, List.forall₂_map_right_iff]
      exact hrows.imp fun _ _ hrow => (buildDecisionsReportRow_names hrow).1.symm
    dsimp only
    rw [← hnames, (hevents.map claimNamed).count_eq, List.count, List.countP_map, List.countP_filter,
      List.countP_filter]
    apply List.countP_congr
    intro event _
    simp only [Function.comp_apply, decides, Bool.and_eq_true, beq_iff_eq, decide_eq_true_eq]
    tauto
  · intro row hrow hreference
    obtain ⟨⟨event, application⟩, hmem, hbuilt⟩ := exists_left_of_forall₂ hrows hrow
    obtain ⟨hnamed, hlabel⟩ := buildDecisionsReportRow_names hbuilt
    obtain ⟨hevent, -, -, hkind, -⟩ := mem_decisionEvents.mp hmem
    have hdecides : decides c.claimReference event = true := by
      unfold decides
      rw [Bool.and_eq_true, decide_eq_true_eq, decide_eq_true_eq]
      exact ⟨hkind, hnamed.symm.trans hreference⟩
    have htold := htells event hevent hdecides
    have hdecided : claimDecided event = some (.text c.statusId.value) := by
      unfold claimDecided
      cases htold.verdict with
      | assessed hkind htold => rw [hkind]; exact htold
      | autoApproved hkind hstatus _ => rw [hkind, hstatus]; rfl
      | autoRejected hkind hstatus => rw [hkind, hstatus]; rfl
    have hassessed : event.eventReference ≠ .applicationAssessmentCompleted := by
      cases htold.verdict with
      | assessed hkind _ => rw [hkind]; decide
      | autoApproved hkind _ _ => rw [hkind]; decide
      | autoRejected hkind _ => rw [hkind]; decide
    rw [if_neg hassessed, hdecided] at hlabel
    exact hlabel.2

/-- What the invariant says of the two reports. -/
theorem ClaimsAccounted.accountedFor (hs : ClaimsAccounted s) (hc : c ∈ s.claims) : AccountedFor s c := by
  have hbacklog := hs.backlogged hc
  cases hs.told c hc with
  | waiting hstatus hnone =>
      rw [if_pos hstatus] at hbacklog
      refine .waiting hstatus hbacklog ?_
      have hreported := hs.reportedTimes fun event hevent hdecides =>
        absurd hdecides (List.filter_eq_nil_iff.mp hnone event hevent)
      simpa only [hnone, List.countP_nil] using hreported
  | decided event hstatus hone htells =>
      rw [if_neg hstatus] at hbacklog
      have honly : ∀ other, other ∈ s.historyEvents ∧ decides c.claimReference other = true ↔ other = event := by
        intro other
        rw [← List.mem_filter, hone, List.mem_singleton]
      have hreported := hs.reportedTimes fun other hother hdecides =>
        (honly other).mp ⟨hother, hdecides⟩ ▸ htells
      refine .decided event ((honly event).mpr rfl).1 hstatus htells hbacklog ?_
      simpa only [hone, List.countP_singleton] using hreported

end Counts

section Runs

variable {allowedScopes : String} {steps : List SecuredStep} {evidence : List ClaimEvidence} {s : Store}

theorem claimsAccounted_initial (evidence : List ClaimEvidence) :
    ClaimsAccounted (.initial [] evidence []) where
  keyed := ⟨List.nodup_nil, List.nodup_nil, fun _ hnone => absurd hnone List.not_mem_nil⟩
  recorded := ⟨List.nodup_nil, fun _ hnone => absurd hnone List.not_mem_nil,
    fun _ hnone => absurd hnone List.not_mem_nil⟩
  filed := fun _ hnone => absurd hnone List.not_mem_nil
  references := List.nodup_nil
  told := fun _ hnone => absurd hnone List.not_mem_nil

theorem committedBy_claimsAccounted (hs : s ∈ committedBy allowedScopes steps (.initial [] evidence [])) :
    ClaimsAccounted s :=
  committedBy_invariant (claimsAccounted_initial evidence)
    (fun _ _ _ _ _ _ hperforms hs => hperforms.accounted hs) s hs

/-- **No claim is lost or shown twice.** In every database that a run from an empty one commits, whatever
its requests and whatever fails: a claim that waits is in the backlog of claims once, and in no decisions
report; a claim that is decided is not in the backlog, and is told by one event of the history, so that
it is once in every decisions report of the days of that event, with the label of its status, and in no
other. -/
theorem claims_accounted (allowedScopes : String) (steps : List SecuredStep)
    (evidence : List ClaimEvidence) :
    ∀ s ∈ committedBy allowedScopes steps (.initial [] evidence []), ∀ c ∈ s.claims, AccountedFor s c :=
  fun _ hs _ hc => (committedBy_claimsAccounted hs).accountedFor hc

end Runs

/-- A claim that waits between two transactions of its request, and is rejected by the second. -/
theorem claims_accounted_rejected :
    (∃ s ∈ committedBy Sample.scopes Sample.securedSteps (.initial [] [] []), ∃ c ∈ s.claims,
      c.statusId = .submitted ∧ AccountedFor s c)
    ∧ ∃ s ∈ committedBy Sample.scopes Sample.securedSteps (.initial [] [] []), ∃ c ∈ s.claims,
      c.statusId = .rejected ∧ AccountedFor s c := by
  have hfound : ∀ status, (status = .submitted ∨ status = .rejected) →
      ∃ s ∈ committedBy Sample.scopes Sample.securedSteps (.initial [] [] []), ∃ c ∈ s.claims,
        c.statusId = status := by
    intro status hstatus
    have hclaims : ((committedBy Sample.scopes Sample.securedSteps (.initial [] [] [])).any fun s =>
        s.claims.any fun c => c.statusId = status) = true := by
      rcases hstatus with rfl | rfl <;> decide +kernel
    obtain ⟨s, hs, hclaim⟩ := List.any_eq_true.mp hclaims
    obtain ⟨c, hc, hstatus⟩ := List.any_eq_true.mp hclaim
    exact ⟨s, hs, c, hc, of_decide_eq_true hstatus⟩
  obtain ⟨s, hs, c, hc, hwaits⟩ := hfound .submitted (Or.inl rfl)
  obtain ⟨s', hs', c', hc', hrejected⟩ := hfound .rejected (Or.inr rfl)
  exact ⟨⟨s, hs, c, hc, hwaits, claims_accounted Sample.scopes Sample.securedSteps [] s hs c hc⟩,
    s', hs', c', hc', hrejected, claims_accounted Sample.scopes Sample.securedSteps [] s' hs' c' hc'⟩

end InquestsApi
