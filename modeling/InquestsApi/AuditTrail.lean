import InquestsApi.Lib.Merge
import InquestsApi.AuditTrailReport
import InquestsApi.CsvStream
import InquestsApi.ReportWindow

/-! The audit trail over tables whose timestamps are naive or have an offset from UTC: the three
sources, each in its own order, merged by the time that they are read as, and the text of the file. -/
namespace InquestsApi

variable {α : Type}

/-- A record whose time is the one that its clock shows, at an offset from UTC if it is aware. -/
structure Zoned (clock : α → Datetime) where
  record : α
  offset : Option ℤ
  micros_valid : (clock record).micros < Datetime.microsPerDay
  offset_valid : ∀ o ∈ offset, |o| < Datetime.microsPerDay

namespace Zoned

variable {clock : α → Datetime}

def timestamp (z : Zoned clock) : Timestamp :=
  ⟨(clock z.record).date, (clock z.record).micros, z.offset, z.micros_valid, z.offset_valid⟩

/-- The record that shows a given time. -/
def stamped (t : Timestamp) (record : α) (h : clock record = t.wall) : Zoned clock :=
  ⟨record, t.offset, h ▸ t.micros_valid, t.offset_valid⟩

theorem timestamp_stamped {t : Timestamp} {record : α} {h : clock record = t.wall} :
    (stamped t record h).timestamp = t := by
  unfold timestamp stamped
  cases t
  simp only [h, Timestamp.wall]

end Zoned

instance (t : Timestamp) (window : Datetime × Datetime) : Decidable (t.within window) :=
  inferInstanceAs (Decidable (_ ∧ _))

/-- The tables that the audit trail is read from. Every event of the history is of one application,
which the foreign key and the primary key see to. -/
structure AuditDatabase where
  applications : List Application
  historyEvents : List (Zoned HistoryEvent.timestamp)
  viewApplicationPagesAudit : List (Zoned ViewApplicationPagesAudit.timestamp)
  reportAudit : List (Zoned ReportAudit.timestamp)
  applications_keyed : (applications.map (·.applicationId)).Nodup
  history_owned : ∀ row ∈ historyEvents, row.record.applicationId ∈ applications.map (·.applicationId)

/-- An event as the report lists it. -/
abbrev ZonedEvent : Type := Zoned AuditTrailEvent.occurredAt

/-- The time in UTC, or the error where the calendar has none. -/
def orOverflow : Option Timestamp → Except ReportError Timestamp
  | some t => .ok t
  | none => .error (.overflow "date value out of range")

namespace AuditTrailRepositoryAdapter

section Statement

variable {ρ : Type} (timestamp : ρ → Timestamp) (id : ρ → ℕ)

/-- By time and then by key. -/
def inOrder (x y : ρ) : Prop :=
  (timestamp x).instant < (timestamp y).instant
    ∨ (timestamp x).instant = (timestamp y).instant ∧ id x ≤ id y

instance : DecidableRel (inOrder timestamp id) := fun _ _ => inferInstanceAs (Decidable (_ ∨ _))

/-- The `where` and the `order_by` of the three statements; the database compares instants. -/
def selected (window : Datetime × Datetime) (rows : List ρ) : List ρ :=
  (rows.filter fun row => (timestamp row).within window).insertionSort (inOrder timestamp id)

/-- The loop over what is selected, which reads each timestamp as UTC. -/
def events (event : Timestamp → ρ → ZonedEvent) (rows : List ρ) : Except ReportError (List ZonedEvent) :=
  rows.mapM fun row => (orOverflow (timestamp row).asUtc).map fun occurredAt => event occurredAt row

instance : Std.Total (inOrder timestamp id) where
  total x y := by
    unfold inOrder
    omega

instance : IsTrans ρ (inOrder timestamp id) where
  trans x y z hxy hyz := by
    unfold inOrder at *
    omega

variable {timestamp id} {window : Datetime × Datetime} {rows : List ρ}

theorem selected_perm :
    (selected timestamp id window rows).Perm (rows.filter fun row => (timestamp row).within window) :=
  List.perm_insertionSort _ _

theorem selected_pairwise : (selected timestamp id window rows).Pairwise (inOrder timestamp id) :=
  List.pairwise_insertionSort _ _

theorem within_of_mem_selected {row : ρ} (h : row ∈ selected timestamp id window rows) :
    row ∈ rows ∧ (timestamp row).within window := by
  have hmem := selected_perm.mem_iff.mp h
  rw [List.mem_filter, decide_eq_true_eq] at hmem
  exact hmem

/-- Rows whose times the calendar has in UTC are all yielded. -/
theorem events_ok (event : Timestamp → ρ → ZonedEvent)
    (h : ∀ row ∈ rows, ∃ occurredAt, (timestamp row).asUtc = some occurredAt) :
    ∃ listed, events timestamp event rows = .ok listed
      ∧ List.Forall₂ (fun row e => row ∈ rows ∧ ∃ occurredAt,
        (timestamp row).asUtc = some occurredAt ∧ e = event occurredAt row) rows listed := by
  have hgoes : ∃ listed, events timestamp event rows = .ok listed := by
    refine Checked.mapM_goes.mpr fun row hrow => ?_
    obtain ⟨occurredAt, hutc⟩ := h row hrow
    rw [hutc]
    exact ⟨_, rfl⟩
  obtain ⟨listed, hlisted⟩ := hgoes
  refine ⟨listed, hlisted, ?_⟩
  have hall := Checked.mapM_ok.mp hlisted
  refine (List.forall₂_and_left _ _).mpr ⟨fun row hrow => hrow, ?_⟩
  refine hall.imp fun row e hevent => ?_
  cases hutc : (timestamp row).asUtc with
  | none =>
      rw [hutc] at hevent
      cases hevent
  | some occurredAt =>
      rw [hutc] at hevent
      cases hevent
      exact ⟨occurredAt, rfl, rfl⟩

end Statement

def historyEvent (occurredAt : Timestamp) (row : Zoned HistoryEvent.timestamp × Application) :
    ZonedEvent :=
  Zoned.stamped occurredAt (auditHistoryEvent { row.1.record with timestamp := occurredAt.wall } row.2) rfl

theorem viewEvent_occurredAt (event : ViewApplicationPagesAudit) :
    (AuditTrailRepository.viewEvent event).occurredAt = event.timestamp := by
  unfold AuditTrailRepository.viewEvent
  cases event.page <;> rfl

def viewEvent (occurredAt : Timestamp) (row : Zoned ViewApplicationPagesAudit.timestamp) : ZonedEvent :=
  Zoned.stamped occurredAt (AuditTrailRepository.viewEvent { row.record with timestamp := occurredAt.wall })
    (viewEvent_occurredAt _)

def reportEvent (occurredAt : Timestamp) (row : Zoned ReportAudit.timestamp) : ZonedEvent :=
  Zoned.stamped occurredAt (reportDownloadEvent { row.record with timestamp := occurredAt.wall }) rfl

variable (window : Datetime × Datetime) (db : AuditDatabase)

/-- Each event with its application. -/
def historyRows : List (Zoned HistoryEvent.timestamp × Application) :=
  db.historyEvents.flatMap fun row =>
    (db.applications.filter fun a => a.applicationId = row.record.applicationId).map fun a => (row, a)

def iterHistoryEvents : Except ReportError (List ZonedEvent) :=
  events (·.1.timestamp) historyEvent
    (selected (·.1.timestamp) (·.1.record.id) window (historyRows db))

def iterApplicationViewEvents : Except ReportError (List ZonedEvent) :=
  events (·.timestamp) viewEvent
    (selected (·.timestamp) (·.record.id) window db.viewApplicationPagesAudit)

def iterReportEvents : Except ReportError (List ZonedEvent) :=
  events (·.timestamp) reportEvent (selected (·.timestamp) (·.record.id) window db.reportAudit)

end AuditTrailRepositoryAdapter

namespace AuditTrail

open AuditTrailRepositoryAdapter
open GeneratePaymentExtractReportUseCase (Firm TextBuffer writerow writerow_holds)
open GenerateAuditTrailReportUseCase (maxAuditTrailReportRangeDays buildAuditFirmNameLookup buildAuditRow)

def auditTrailReportHeaders : List String :=
  ["Event title", "Event description", "Event date", "Event time", "Username", "Case reference",
    "Firm name", "Office account number"]

/-- `_as_utc`, which the use case has of its own. -/
def asUtc (value : Timestamp) : Option Timestamp :=
  if value.offset.isSome then value.astimezone else some value.replaceUtc

/-- The key that events are merged by. -/
def keyed (event : ZonedEvent) : Except ReportError (Timestamp × ZonedEvent) :=
  (orOverflow (asUtc event.timestamp)).map fun key => (key, event)

/-- `heapq.merge` of the three iterators, by the key; its list or the first error. -/
def readEvents (window : Datetime × Datetime) (db : AuditDatabase) :
    Except ReportError (List ZonedEvent) := do
  let history ← iterHistoryEvents window db
  let views ← iterApplicationViewEvents window db
  let reports ← iterReportEvents window db
  let sources ← [history, views, reports].mapM fun events => events.mapM keyed
  pure ((Merge.mergeAll (fun a b => a.1.instant ≤ b.1.instant) sources).map Prod.snd)

/-- `strftime("%H:%M:%S")`. -/
def clockText (t : Timestamp) : String :=
  twoDigits (t.micros / 3600000000) ++ ":" ++ twoDigits (t.micros / 60000000 % 60) ++ ":"
    ++ twoDigits (t.micros / 1000000 % 60)

section Csv

variable (printing : Printing) (firms : List Firm)

def buildRow (event : ZonedEvent) : Except ReportError (List String) := do
  let row ← buildAuditRow printing firms event.record
  let occurredAt ← orOverflow (asUtc event.timestamp)
  pure [row.title, row.description, csvSafe (Date.isoformat occurredAt.date),
    csvSafe (clockText occurredAt), row.username, row.laaReference, row.firmName, row.officeId]

def writeRows (buffer : TextBuffer) : List ZonedEvent → Except ReportError TextBuffer
  | [] => .ok buffer
  | event :: events => do
    let cells ← buildRow printing firms event
    writeRows (writerow buffer cells) events

def buildCsv (events : List ZonedEvent) : Except ReportError (List Char) :=
  (writeRows printing firms (writerow .empty auditTrailReportHeaders) events).map (·.content)

end Csv

/-- `execute`, whose result is the text of the file. -/
def execute (printing : Printing) (getFirmsByIds : List String → Except ReportError (List Firm))
    (fromDate toDate : Date) (db : AuditDatabase) : Except ReportError (List Char) := do
  let window ← resolveReportWindow fromDate toDate maxAuditTrailReportRangeDays
  let events ← readEvents window db
  let firms ← buildAuditFirmNameLookup getFirmsByIds (events.map (·.record))
  buildCsv printing firms events

/-! ### What the report lists -/

/-- A row of one of the three tables. -/
inductive AuditRow where
  | history (row : Zoned HistoryEvent.timestamp)
  | view (row : Zoned ViewApplicationPagesAudit.timestamp)
  | report (row : Zoned ReportAudit.timestamp)

namespace AuditRow

def timestamp : AuditRow → Timestamp
  | history row => row.timestamp
  | view row => row.timestamp
  | report row => row.timestamp

def id : AuditRow → ℕ
  | history row => row.record.id
  | view row => row.record.id
  | report row => row.record.id

/-- The place of the row's table among the three. -/
def source : AuditRow → ℕ
  | history _ => 0
  | view _ => 1
  | report _ => 2

/-- By time in UTC, then by table, and within a table by key. -/
def inOrder (x y : AuditRow) : Prop :=
  x.timestamp.instant < y.timestamp.instant
    ∨ x.timestamp.instant = y.timestamp.instant ∧ (x.source < y.source ∨ x.source = y.source ∧ x.id ≤ y.id)

end AuditRow

def rows (db : AuditDatabase) : List AuditRow :=
  db.historyEvents.map .history
    ++ (db.viewApplicationPagesAudit.map .view ++ db.reportAudit.map .report)

/-- The event that a row is listed as. -/
inductive Shows (db : AuditDatabase) : AuditRow → ZonedEvent → Prop
  | history (row : Zoned HistoryEvent.timestamp) (application : Application) (occurredAt : Timestamp)
      (happlication : application ∈ db.applications)
      (howner : application.applicationId = row.record.applicationId)
      (hutc : row.timestamp.asUtc = some occurredAt) :
      Shows db (.history row) (historyEvent occurredAt (row, application))
  | view (row : Zoned ViewApplicationPagesAudit.timestamp) (occurredAt : Timestamp)
      (hutc : row.timestamp.asUtc = some occurredAt) : Shows db (.view row) (viewEvent occurredAt row)
  | report (row : Zoned ReportAudit.timestamp) (occurredAt : Timestamp)
      (hutc : row.timestamp.asUtc = some occurredAt) : Shows db (.report row) (reportEvent occurredAt row)

/-- The events of a window: one for each row of the tables in it, in the order of the rows. -/
structure Trail (db : AuditDatabase) (window : Datetime × Datetime) (listed : List AuditRow)
    (events : List ZonedEvent) : Prop where
  complete : listed.Perm ((rows db).filter fun row => row.timestamp.within window)
  ordered : listed.Pairwise AuditRow.inOrder
  shown : List.Forall₂ (Shows db) listed events

section Reading

variable {db : AuditDatabase} {window : Datetime × Datetime} {row : AuditRow} {event : ZonedEvent}
variable {t u : Timestamp}

/-- The use case reads timestamps as the adapter does. -/
theorem asUtc_eq (value : Timestamp) : asUtc value = value.asUtc := by
  unfold asUtc Timestamp.asUtc
  cases value.offset <;> rfl

/-- Every timestamp of a window is one of the calendar. -/
theorem asUtc_of_within (hlast : window.2.micros < Datetime.microsPerDay) (h : t.within window) :
    ∃ u, t.asUtc = some u := by
  obtain ⟨hfirst, hbefore⟩ := h
  have hone := Date.toOrdinal_pos window.1.date
  have hmax := Date.toOrdinal_le_max window.2.date
  unfold Datetime.instant at hfirst hbefore
  unfold Datetime.microsPerDay at hlast hfirst hbefore
  apply Timestamp.asUtc_goes
  · unfold Datetime.microsPerDay
    push_cast at hfirst ⊢
    omega
  · unfold Datetime.microsPerDay
    push_cast at hbefore ⊢
    omega

/-- What is shown has the time of its row, in UTC. -/
theorem Shows.utc (h : Shows db row event) : row.timestamp.asUtc = some event.timestamp := by
  cases h with
  | history row application occurredAt _ _ hutc =>
      have htime : (historyEvent occurredAt (row, application)).timestamp = occurredAt :=
        Zoned.timestamp_stamped
      rw [htime]
      exact hutc
  | view row occurredAt hutc =>
      have htime : (viewEvent occurredAt row).timestamp = occurredAt :=
        Zoned.timestamp_stamped
      rw [htime]
      exact hutc
  | report row occurredAt hutc =>
      have htime : (reportEvent occurredAt row).timestamp = occurredAt :=
        Zoned.timestamp_stamped
      rw [htime]
      exact hutc

/-- An event in UTC has its own time for its key. -/
theorem keyed_utc (h : event.timestamp.offset = some 0) : keyed event = .ok (event.timestamp, event) := by
  unfold keyed
  rw [asUtc_eq, Timestamp.asUtc_utc h]
  rfl

theorem Shows.instant (h : Shows db row event) : event.timestamp.instant = row.timestamp.instant :=
  (Timestamp.asUtc_some h.utc).2

end Reading

section Sources

variable {db : AuditDatabase} {window : Datetime × Datetime}

/-- What is asked of one source: that its rows in the window are yielded, in its order. -/
structure Yields (db : AuditDatabase) (window : Datetime × Datetime) (table : List AuditRow)
    (source : Except ReportError (List ZonedEvent)) (listed : List AuditRow) (events : List ZonedEvent) :
    Prop where
  result : source = .ok events
  complete : listed.Perm (table.filter fun row => row.timestamp.within window)
  ordered : listed.Pairwise AuditRow.inOrder
  shown : List.Forall₂ (Shows db) listed events

/-- A source, for any of the three tables. -/
theorem yields {ρ : Type} (db : AuditDatabase) (timestamp : ρ → Timestamp) (id : ρ → ℕ)
    (event : Timestamp → ρ → ZonedEvent) (rows : List ρ) (listed : ρ → AuditRow)
    (hlast : window.2.micros < Datetime.microsPerDay)
    (htime : ∀ row, (listed row).timestamp = timestamp row) (hid : ∀ row, (listed row).id = id row)
    (hsource : ∀ x y, (listed x).source = (listed y).source)
    (hshown : ∀ row ∈ rows, ∀ occurredAt, (timestamp row).asUtc = some occurredAt →
      Shows db (listed row) (event occurredAt row)) :
    ∃ shown events, Yields db window (rows.map listed)
      (AuditTrailRepositoryAdapter.events timestamp event (selected timestamp id window rows))
      shown events := by
  have hread : ∀ row ∈ selected timestamp id window rows,
      ∃ occurredAt, (timestamp row).asUtc = some occurredAt :=
    fun row hrow => asUtc_of_within hlast (within_of_mem_selected hrow).2
  obtain ⟨events, hresult, hevents⟩ := events_ok event hread
  refine ⟨(selected timestamp id window rows).map listed, events, hresult, ?_, ?_, ?_⟩
  · rw [List.filter_map]
    have hsame : (fun row : AuditRow => decide (row.timestamp.within window)) ∘ listed
        = fun row => decide ((timestamp row).within window) := by
      funext row
      simp only [Function.comp_apply, htime]
    rw [hsame]
    exact selected_perm.map listed
  · rw [List.pairwise_map]
    refine selected_pairwise.imp fun {x y} hxy => ?_
    unfold AuditRow.inOrder
    rw [htime, htime, hid, hid]
    exact hxy.imp_right fun h => ⟨h.1, Or.inr ⟨hsource x y, h.2⟩⟩
  · rw [List.forall₂_map_left_iff]
    refine hevents.imp fun row e h => ?_
    obtain ⟨hrow, occurredAt, hutc, rfl⟩ := h
    exact hshown row (within_of_mem_selected hrow).1 occurredAt hutc

theorem mem_historyRows {row : Zoned HistoryEvent.timestamp × Application} (h : row ∈ historyRows db) :
    row.2 ∈ db.applications ∧ row.2.applicationId = row.1.record.applicationId := by
  obtain ⟨event, _, hrow⟩ := List.mem_flatMap.mp h
  obtain ⟨application, happlication, rfl⟩ := List.mem_map.mp hrow
  rw [List.mem_filter, decide_eq_true_eq] at happlication
  exact happlication

/-- The join keeps each event of the history once. -/
theorem historyRows_fst (db : AuditDatabase) : (historyRows db).map Prod.fst = db.historyEvents := by
  refine Join.flatMap_eq_self fun row hrow => ?_
  obtain ⟨application, happlication, howner⟩ := List.mem_map.mp (db.history_owned row hrow)
  refine ⟨(row, application), ?_, rfl⟩
  rw [← howner, Join.filter_key_eq_singleton db.applications_keyed happlication]
  rfl

theorem iterHistoryEvents_yields (db : AuditDatabase) (hlast : window.2.micros < Datetime.microsPerDay) :
    ∃ listed events, Yields db window (db.historyEvents.map .history) (iterHistoryEvents window db)
      listed events := by
  rw [← historyRows_fst, List.map_map]
  refine yields db (·.1.timestamp) (·.1.record.id) historyEvent (historyRows db)
    (AuditRow.history ∘ Prod.fst) hlast (fun _ => rfl) (fun _ => rfl) (fun _ _ => rfl) ?_
  intro row hrow occurredAt hutc
  obtain ⟨happlication, howner⟩ := mem_historyRows hrow
  exact .history row.1 row.2 occurredAt happlication howner hutc

theorem iterApplicationViewEvents_yields (db : AuditDatabase)
    (hlast : window.2.micros < Datetime.microsPerDay) :
    ∃ listed events, Yields db window (db.viewApplicationPagesAudit.map .view)
      (iterApplicationViewEvents window db) listed events := by
  unfold iterApplicationViewEvents
  exact yields db (·.timestamp) (·.record.id) viewEvent db.viewApplicationPagesAudit .view hlast
    (fun _ => rfl) (fun _ => rfl) (fun _ _ => rfl) fun row _ occurredAt hutc => .view row occurredAt hutc

theorem iterReportEvents_yields (db : AuditDatabase) (hlast : window.2.micros < Datetime.microsPerDay) :
    ∃ listed events, Yields db window (db.reportAudit.map .report) (iterReportEvents window db)
      listed events := by
  unfold iterReportEvents
  exact yields db (·.timestamp) (·.record.id) reportEvent db.reportAudit .report hlast
    (fun _ => rfl) (fun _ => rfl) (fun _ _ => rfl) fun row _ occurredAt hutc => .report row occurredAt hutc

end Sources

section Merged

variable {db : AuditDatabase} {window : Datetime × Datetime}

def withKeys (events : List ZonedEvent) : List (Timestamp × ZonedEvent) :=
  events.map fun event => (event.timestamp, event)

theorem keyed_all {events : List ZonedEvent} (h : ∀ event ∈ events, event.timestamp.offset = some 0) :
    events.mapM keyed = .ok (withKeys events) := by
  unfold withKeys
  rw [Checked.mapM_ok, List.forall₂_map_right_iff, List.forall₂_same]
  exact fun event hevent => keyed_utc (h event hevent)

theorem utc_of_shown {listed : List AuditRow} {events : List ZonedEvent}
    (h : List.Forall₂ (Shows db) listed events) : ∀ event ∈ events, event.timestamp.offset = some 0 := by
  induction h with
  | nil => exact List.forall_mem_nil _
  | cons hhead _ ih => exact List.forall_mem_cons.mpr ⟨(Timestamp.asUtc_some hhead.utc).1, ih⟩

/-- Three sources with events in UTC are merged as they are. -/
theorem readEvents_merge {history views reports : List ZonedEvent}
    (hhistory : iterHistoryEvents window db = .ok history)
    (hviews : iterApplicationViewEvents window db = .ok views)
    (hreports : iterReportEvents window db = .ok reports)
    (hutc : ∀ events ∈ [history, views, reports], ∀ event ∈ events, event.timestamp.offset = some 0) :
    readEvents window db = .ok ((Merge.mergeAll (fun a b => a.1.instant ≤ b.1.instant)
      [withKeys history, withKeys views, withKeys reports]).map Prod.snd) := by
  have hkeyed : [history, views, reports].mapM (fun events => events.mapM keyed)
      = .ok ([history, views, reports].map withKeys) := by
    rw [Checked.mapM_ok, List.forall₂_map_right_iff, List.forall₂_same]
    exact fun events hevents => keyed_all (hutc events hevents)
  unfold readEvents
  rw [hhistory, hviews, hreports]
  simp only [bind, Except.bind]
  rw [hkeyed]
  rfl

/-- The choice between two rows that the merge makes. -/
def firstRow (a b : AuditRow) : Bool := a.timestamp.instant ≤ b.timestamp.instant

theorem Yields.source {β : Type} {listed : List AuditRow} {events : List ZonedEvent} {i : ℕ}
    {read : Except ReportError (List ZonedEvent)} {table : List β} {row : β → AuditRow}
    (h : Yields db window (table.map row) read listed events) (hrow : ∀ b, (row b).source = i) :
    ∀ x ∈ listed, x.source = i := by
  intro x hx
  have htable := List.mem_of_mem_filter (h.complete.mem_iff.mp hx)
  obtain ⟨b, _, rfl⟩ := List.mem_map.mp htable
  exact hrow b

theorem across_of_source {xs ys : List AuditRow} {i j : ℕ} (hij : i < j) (hxs : ∀ x ∈ xs, x.source = i)
    (hys : ∀ y ∈ ys, y.source = j) : Merge.Across firstRow AuditRow.inOrder xs ys := by
  intro x hx y hy
  have hi := hxs x hx
  have hj := hys y hy
  unfold AuditRow.inOrder firstRow
  rw [decide_eq_true_eq]
  omega

theorem inOrder_trans (x y z : AuditRow) (hxy : x.inOrder y) (hyz : y.inOrder z) : x.inOrder z := by
  unfold AuditRow.inOrder at *
  omega

/-- All events of a window are listed, each once and in the order of the rows. -/
theorem readEvents_trail (db : AuditDatabase) (hlast : window.2.micros < Datetime.microsPerDay) :
    ∃ listed events, readEvents window db = .ok events ∧ Trail db window listed events := by
  obtain ⟨historyRows, history, hhistory⟩ := iterHistoryEvents_yields db hlast
  obtain ⟨viewRows, views, hviews⟩ := iterApplicationViewEvents_yields db hlast
  obtain ⟨reportRows, reports, hreports⟩ := iterReportEvents_yields db hlast
  have hutc : ∀ events ∈ [history, views, reports], ∀ event ∈ events, event.timestamp.offset = some 0 := by
    simp only [List.forall_mem_cons]
    exact ⟨utc_of_shown hhistory.shown, utc_of_shown hviews.shown, utc_of_shown hreports.shown,
      List.forall_mem_nil _⟩
  refine ⟨Merge.mergeAll firstRow [historyRows, viewRows, reportRows], _,
    readEvents_merge hhistory.result hviews.result hreports.result hutc, ?_, ?_, ?_⟩
  · refine (Merge.mergeAll_perm firstRow _).trans ?_
    rw [List.flatten_cons, List.flatten_cons, List.flatten_cons, List.flatten_nil, List.append_nil, rows,
      List.filter_append, List.filter_append]
    exact hhistory.complete.append (hviews.complete.append hreports.complete)
  · refine Merge.mergeAll_pairwise inOrder_trans ?_ ?_
    · simp only [List.forall_mem_cons]
      exact ⟨hhistory.ordered, hviews.ordered, hreports.ordered, List.forall_mem_nil _⟩
    · have hhistoryRows := hhistory.source fun _ => rfl
      have hviewRows := hviews.source fun _ => rfl
      have hreportRows := hreports.source fun _ => rfl
      have hfirst := across_of_source (by decide) hhistoryRows hviewRows
      have hsecond := across_of_source (by decide) hhistoryRows hreportRows
      have hthird := across_of_source (by decide) hviewRows hreportRows
      simp only [List.pairwise_cons, List.mem_cons, List.not_mem_nil, or_false, forall_eq_or_imp, forall_eq]
      exact ⟨⟨hfirst, hsecond⟩, hthird, fun _ h => h.elim, .nil⟩
  · have hkeys : ∀ {listed : List AuditRow} {events : List ZonedEvent},
        List.Forall₂ (Shows db) listed events → List.Forall₂
          (fun row entry => Shows db row entry.2 ∧ entry.1 = entry.2.timestamp)
          listed (withKeys events) := by
      intro listed events h
      exact List.forall₂_map_right_iff.mpr (h.imp fun _ _ hshown => ⟨hshown, rfl⟩)
    refine List.forall₂_map_right_iff.mpr (List.Forall₂.imp (fun _ _ h => h.1)
      (Merge.mergeAll_forall₂ ?_ (.cons (hkeys hhistory.shown)
        (.cons (hkeys hviews.shown) (.cons (hkeys hreports.shown) .nil)))))
    intro a a' b b' ha hb
    unfold firstRow
    rw [ha.2, hb.2, ha.1.instant, hb.1.instant]

end Merged

section File

variable {printing : Printing} {firms : List Firm} {buffer : TextBuffer} {pending : List (List String)}
variable {events : List ZonedEvent} {content : List Char}

/-- The rows of the events, behind what was written before. -/
theorem writeRows_ok (hbuffer : buffer.Holds (Csv.text pending)) :
    (writeRows printing firms buffer events).map (·.content) = .ok content
      ↔ ∃ rows, List.Forall₂ (fun event row => buildRow printing firms event = .ok row) events rows
        ∧ content = Csv.text (pending ++ rows) := by
  induction events generalizing buffer pending with
  | nil =>
      change Except.ok buffer.content = Except.ok content ↔ _
      rw [hbuffer.content]
      constructor
      · intro h
        cases h
        exact ⟨[], .nil, by rw [List.append_nil]⟩
      · rintro ⟨rows, hrows, rfl⟩
        cases hrows
        rw [List.append_nil]
  | cons event events ih =>
      unfold writeRows
      cases hrow : buildRow printing firms event with
      | error e =>
          refine iff_of_false (fun h => nomatch h) ?_
          rintro ⟨rows, hrows, -⟩
          obtain ⟨row, rest, hhead, -, -⟩ := List.forall₂_cons_left_iff.mp hrows
          rw [hrow] at hhead
          cases hhead
      | ok cells =>
          change (writeRows printing firms (writerow buffer cells) events).map (·.content) = _ ↔ _
          rw [ih (writerow_holds hbuffer cells)]
          constructor
          · rintro ⟨rows, hrows, rfl⟩
            exact ⟨cells :: rows, .cons hrow hrows, by rw [List.append_assoc, List.singleton_append]⟩
          · rintro ⟨rows, hrows, rfl⟩
            obtain ⟨row, rest, hhead, hrest, rfl⟩ := List.forall₂_cons_left_iff.mp hrows
            rw [hrow] at hhead
            cases hhead
            exact ⟨rest, hrest, by rw [List.append_assoc, List.singleton_append]⟩

theorem buildCsv_ok :
    buildCsv printing firms events = .ok content
      ↔ ∃ rows, List.Forall₂ (fun event row => buildRow printing firms event = .ok row) events rows
        ∧ content = Csv.text (auditTrailReportHeaders :: rows) := by
  have hheader : (writerow .empty auditTrailReportHeaders).Holds
      (Csv.text ([] ++ [auditTrailReportHeaders])) := writerow_holds Chunks.Buffer.holds_empty _
  exact writeRows_ok hheader

end File

/-- **Every event once, in the order of time.** For any content of the tables and any window, the
events are those of the rows in the window, each once, by time in UTC, and at one time by table and
key; and the file of a range has the header and one row per event, in that order. -/
theorem auditTrail_complete (db : AuditDatabase) (window : Datetime × Datetime)
    (hlast : window.2.micros < Datetime.microsPerDay) :
    ∃ listed events, readEvents window db = .ok events ∧ Trail db window listed events
      ∧ ∀ printing getFirmsByIds fromDate toDate content,
        resolveReportWindow fromDate toDate maxAuditTrailReportRangeDays = .ok window →
        (execute printing getFirmsByIds fromDate toDate db = .ok content
          ↔ ∃ firms rows, buildAuditFirmNameLookup getFirmsByIds (events.map (·.record)) = .ok firms
            ∧ List.Forall₂ (fun event row => buildRow printing firms event = .ok row) events rows
            ∧ content = Csv.text (auditTrailReportHeaders :: rows)) := by
  obtain ⟨listed, events, hread, htrail⟩ := readEvents_trail db hlast
  refine ⟨listed, events, hread, htrail, ?_⟩
  intro printing getFirmsByIds fromDate toDate content hwindow
  unfold execute
  rw [hwindow]
  simp only [bind, Except.bind]
  rw [hread]
  dsimp only
  cases buildAuditFirmNameLookup getFirmsByIds (events.map (·.record)) with
  | error e => exact iff_of_false (fun h => nomatch h) fun ⟨_, _, h, _⟩ => nomatch h
  | ok firms =>
      dsimp only
      rw [buildCsv_ok]
      constructor
      · rintro ⟨rows, hrows⟩
        exact ⟨firms, rows, rfl, hrows⟩
      · rintro ⟨firms', rows, hfirms, hrows⟩
        cases hfirms
        exact ⟨rows, hrows⟩

theorem Sample.hour_valid : ∀ o ∈ some (3600000000 : ℤ), |o| < Datetime.microsPerDay := by
  intro o ho
  cases ho
  decide

theorem Sample.naive_valid : ∀ o ∈ (none : Option ℤ), |o| < Datetime.microsPerDay := fun _ h => nomatch h

theorem Sample.halfPastOne_valid : 5400000000 < Datetime.microsPerDay := by decide

theorem Sample.halfPastMidnight_valid : 1800000000 < Datetime.microsPerDay := by decide

/-- A page viewed at half past one, an hour ahead of UTC, and a report downloaded at that very time by
a timestamp that is naive. -/
def Sample.auditDatabase : AuditDatabase where
  applications := []
  historyEvents := []
  viewApplicationPagesAudit := [⟨⟨1, ⟨Sample.date, 5400000000⟩, "ada@example.com", "INQ-AAAA-CCCC",
    .overview⟩, some 3600000000, Sample.halfPastOne_valid, Sample.hour_valid⟩]
  reportAudit := [⟨⟨1, ⟨Sample.date, 1800000000⟩, "ben@example.com", .decisions⟩, none,
    Sample.halfPastMidnight_valid, Sample.naive_valid⟩]
  applications_keyed := List.nodup_nil
  history_owned := fun _ h => nomatch h

/-- Both are in the window of the first hour of the day. -/
theorem auditTrail_complete_oneTime :
    ∃ listed events,
      readEvents (midnight Sample.date, ⟨Sample.date, 3600000000⟩) Sample.auditDatabase = .ok events
        ∧ Trail Sample.auditDatabase (midnight Sample.date, ⟨Sample.date, 3600000000⟩) listed events
        ∧ events.length = 2 := by
  obtain ⟨listed, events, hread, htrail, -⟩ := auditTrail_complete Sample.auditDatabase
    (midnight Sample.date, ⟨Sample.date, 3600000000⟩) (by decide)
  have hrows : ((rows Sample.auditDatabase).filter fun row =>
      row.timestamp.within (midnight Sample.date, ⟨Sample.date, 3600000000⟩)).length = 2 := by
    decide +kernel
  refine ⟨listed, events, hread, htrail, ?_⟩
  rw [← htrail.shown.length_eq, htrail.complete.length_eq, hrows]

end AuditTrail
end InquestsApi
