import InquestsApi.AuditTrail
import InquestsApi.Calendar
import InquestsApi.Ledger
import InquestsApi.Lib.CsvReader
import InquestsApi.Lib.UnitOfWork
import InquestsApi.Rbac
import InquestsApi.ReadableHistory

/-! Requests for reports and for pages of applications. Each is recorded before its permission is looked
at, and nothing is answered that could not be recorded. -/
namespace InquestsApi

open UnitOfWork

/-- What a request is for. -/
inductive AuditedPage where
  | report (reportType : ReportType)
  | applicationPage (page : ApplicationPageType) (laaReference : String)
  deriving DecidableEq

/-- `possible_permissions` of the route. -/
def AuditedPage.possiblePermissions : AuditedPage → List Permission
  | .report .applicationsBacklog => [.reportsApplicationWorkflowRead]
  | .report .claimsBacklog => [.reportsClaimWorkflowRead]
  | .report .paymentExtract => [.reportsPaymentRead]
  | .report .auditTrail => [.reportsAuditTrailRead]
  | .report .decisions => [.reportsApplicationWorkflowRead, .reportsClaimWorkflowRead]
  | .report .ogdCosts => [.reportsCostsRead]
  | .report .costLimitForecast => [.reportsCostsRead]
  | .applicationPage .overview _ => [.applicationRead]
  | .applicationPage .certificate _ => [.certificateRead]

/-- Query parameters, as a dictionary. -/
abbrev QueryParams := List (String × String)

inductive AuditDetails where
  | report (reportType : ReportType) (parameters : Option QueryParams)
  | view (laaReference : String) (page : ApplicationPageType)
  deriving DecidableEq

/-- An event that is not stored yet. -/
structure BaseAuditEvent where
  timestamp : Timestamp
  userEmailAddress : Option String
  details : AuditDetails

def reportTypesWithParameters : List ReportType :=
  [.paymentExtract, .auditTrail, .decisions, .ogdCosts, .costLimitForecast]

/-- `ReportAuditEventFactory` and `ViewApplicationPagesAuditEventFactory`. -/
def auditEventFactory (now : Timestamp) (userEmailAddress : Option String) (queryParams : QueryParams) :
    AuditedPage → BaseAuditEvent
  | .report reportType =>
    ⟨now, userEmailAddress, .report reportType
      (if reportType ∈ reportTypesWithParameters then some queryParams else none)⟩
  | .applicationPage page laaReference => ⟨now, userEmailAddress, .view laaReference page⟩

/-- A row of `report_audit_event`. -/
structure ReportAuditRow where
  event : Zoned ReportAudit.timestamp
  parameters : Option QueryParams

inductive AuditEntry where
  | view (event : Zoned ViewApplicationPagesAudit.timestamp)
  | report (row : ReportAuditRow)

namespace AuditEntry

def view? : AuditEntry → Option (Zoned ViewApplicationPagesAudit.timestamp)
  | view event => some event
  | report _ => none

def report? : AuditEntry → Option ReportAuditRow
  | view _ => none
  | report row => some row

/-- The row that the audit trail is read from. -/
def row : AuditEntry → AuditTrail.AuditRow
  | view event => .view event
  | report row => .report row.event

end AuditEntry

/-- The two tables of audit events; their keys are primary. -/
structure AuditStore where
  views : List (Zoned ViewApplicationPagesAudit.timestamp)
  reports : List ReportAuditRow
  views_keyed : (views.map (·.record.id)).Nodup
  reports_keyed : (reports.map (·.event.record.id)).Nodup

def AuditStore.empty : AuditStore := ⟨[], [], List.nodup_nil, List.nodup_nil⟩

inductive AuditFailure where
  | auditError (message : String)
  | valueError (message : String)
  | httpException (statusCode : ℕ) (detail : String)
  deriving DecidableEq

/-- How the commit of the session fails: the database refuses it, or no key that is new is found. -/
inductive AuditCommitFault where
  | database
  | uuidCollisions
  deriving DecidableEq

/-- What goes wrong while a request is recorded. -/
structure AuditFaults where
  tokenRejected : Bool
  flush : Option Fault
  refresh : Bool
  commit : Option AuditCommitFault
  rollback : Bool

abbrev AuditSession := Session AuditStore Empty Empty

namespace AuditRepositoryAdapter

abbrev AuditWork (α : Type) := Uow AuditFailure AuditStore Empty Empty α

theorem nodup_append_key {ids : List ℕ} {id : ℕ} (h : ids.Nodup) (hnew : id ∉ ids) :
    (ids ++ [id]).Nodup :=
  List.nodup_append.mpr ⟨h, List.nodup_singleton _, fun a ha b hb => by
    rintro rfl
    exact hnew (List.mem_singleton.mp hb ▸ ha)⟩

def failedWrite : AuditFailure := .auditError "Failed to write audit event"

def reportRow (timestamp : Timestamp) (userEmailAddress : String) (reportType : ReportType)
    (parameters : Option QueryParams) (id : ℕ) : ReportAuditRow :=
  ⟨Zoned.stamped timestamp ⟨id, timestamp.wall, userEmailAddress, reportType⟩ rfl, parameters⟩

def viewRow (timestamp : Timestamp) (userEmailAddress laaReference : String) (page : ApplicationPageType)
    (id : ℕ) : Zoned ViewApplicationPagesAudit.timestamp :=
  Zoned.stamped timestamp ⟨id, timestamp.wall, userEmailAddress, laaReference, page⟩ rfl

/-- The row that an event becomes, with the key that the sequence of its table draws. -/
def entryOf (event : BaseAuditEvent) (userEmailAddress : String) (id : ℕ) : AuditEntry :=
  match event.details with
  | .report reportType parameters =>
    .report (reportRow event.timestamp userEmailAddress reportType parameters id)
  | .view laaReference page => .view (viewRow event.timestamp userEmailAddress laaReference page id)

/-- The `insert`; the database refuses a missing address and a key that is taken. -/
def insert (event : BaseAuditEvent) (id : ℕ) (s : AuditStore) : Except AuditFailure (Unit × AuditStore) :=
  match event.userEmailAddress with
  | none => .error failedWrite
  | some userEmailAddress =>
    match entryOf event userEmailAddress id with
    | .report row =>
      if h : row.event.record.id ∈ s.reports.map (·.event.record.id) then .error failedWrite
      else .ok ((), { s with
        reports := s.reports ++ [row]
        reports_keyed := by
          rw [List.map_append]
          exact nodup_append_key s.reports_keyed h })
    | .view event =>
      if h : event.record.id ∈ s.views.map (·.record.id) then .error failedWrite
      else .ok ((), { s with
        views := s.views ++ [event]
        views_keyed := by
          rw [List.map_append]
          exact nodup_append_key s.views_keyed h })

/-- `add`, `flush` and `refresh`. -/
def auditEvent (faults : AuditFaults) (event : BaseAuditEvent) (id : ℕ) :
    Tx AuditFailure AuditStore Empty Unit := do
  Tx.flush faults.flush failedWrite (insert event id)
  Tx.callOut faults.refresh failedWrite

/-- What `commit` raises: it takes an error of the database for its own, and no other. -/
def commitFailure (faults : AuditFaults) : Option AuditFailure :=
  faults.commit.map fun
    | .database => .auditError "Failed to commit audit event"
    | .uuidCollisions =>
      .httpException 500 "Could not generate a unique UUID after multiple attempts."

def rollback (faults : AuditFaults) : AuditWork Unit :=
  if faults.rollback then throw (.call (.auditError "Failed to roll back audit event"))
  else Uow.rollback

end AuditRepositoryAdapter

namespace RecordAuditEventUseCase

open AuditRepositoryAdapter

/-- What is tried: the event, unless it has no address, and its commit. -/
def record (faults : AuditFaults) (event : BaseAuditEvent) (id : ℕ) : AuditWork Unit :=
  if event.userEmailAddress.all isBlank then
    throw (.call (.valueError "User email address must be provided for audit creation."))
  else Uow.inTransaction (auditEvent faults event id) (commitFailure faults)

/-- The `except` clause: only an `AuditError` is rolled back. -/
def recover (faults : AuditFaults) : Raised AuditFailure → AuditWork Unit
  | .call (.auditError message) => do
    rollback faults
    throw (.call (.auditError message))
  | e => throw e

def execute (faults : AuditFaults) (event : BaseAuditEvent) (id : ℕ) : AuditWork Unit :=
  tryCatch (record faults event id) (recover faults)

end RecordAuditEventUseCase

/-- A request for an audited route: its token, its query, its clock, the key that the sequence draws for
its row, and what goes wrong. -/
structure AuditedRequest where
  credentials : Credentials
  page : AuditedPage
  queryParams : QueryParams
  now : Timestamp
  nextId : ℕ
  faults : AuditFaults

/-- A user without permission is refused alike whether the audit fails or not. -/
def handleFailure (possiblePermissions permissions : List Permission) : HttpError :=
  match permissionChecker possiblePermissions permissions with
  | .error permissionDenied => permissionDenied
  | .ok _ => ⟨500, "Failed to audit report request"⟩

namespace AuditedRequest

variable (r : AuditedRequest) (permissions : List Permission)

/-- The event of a request; a token that is no longer accepted has no address. -/
def auditEvent (token : Option TokenPayload) : BaseAuditEvent :=
  auditEventFactory r.now
    (EntraAuthAdapter.getUserEmailAddress (if r.faults.tokenRejected then none else token))
    r.queryParams r.page

/-- `AuditerPermissionChecker.__call__`. -/
def auditerPermissionChecker : EStateM HttpError AuditSession Unit := fun s =>
  match r.credentials with
  | none => .error (handleFailure r.page.possiblePermissions permissions) s
  | some token =>
    match RecordAuditEventUseCase.execute r.faults (r.auditEvent token) r.nextId s with
    | .error _ s' => .error (handleFailure r.page.possiblePermissions permissions) s'
    | .ok _ s' =>
      match permissionChecker r.page.possiblePermissions permissions with
      | .error permissionDenied => .error permissionDenied s'
      | .ok _ => .ok () s'

end AuditedRequest

/-- What the routes answer once their dependencies have let a request through, from the tables of the
cases and of the audit: they read only. -/
abbrev Handler (ω β : Type) := AuditedPage → QueryParams → ω → AuditStore → Except HttpError β

section Requests

variable {ω β : Type} (allowedScopes : String) (handler : Handler ω β)

def AuditedRequest.answer (r : AuditedRequest) (w : ω) (s : AuditStore) :
    Except HttpError β × AuditStore :=
  match verifyEntraToken allowedScopes r.credentials with
  | .error e => (.error e, s)
  | .ok user =>
    match r.auditerPermissionChecker (getCurrentUserPermissions user) (.start s) with
    | .error e session => (.error e, session.committed)
    | .ok _ session =>
      (handler r.page r.queryParams w session.committed, session.committed)

/-- A request for an audited route, or any other that leaves the cases in another state. -/
inductive AuditedStep (ω : Type) where
  | request (r : AuditedRequest)
  | elsewhere (w : ω)

/-- A request as it was answered, with the tables that it was answered from. -/
structure Visit (ω β : Type) where
  request : AuditedRequest
  cases : ω
  store : AuditStore
  answer : Except HttpError β

def visits : List (AuditedStep ω) → ω → AuditStore → List (Visit ω β)
  | [], _, _ => []
  | .elsewhere w :: rest, _, s => visits rest w s
  | .request r :: rest, w, s =>
    let (answer, s') := r.answer allowedScopes handler w s
    ⟨r, w, s', answer⟩ :: visits rest w s'

/-- The tables of the audit after a run. -/
def auditedBy : List (AuditedStep ω) → ω → AuditStore → AuditStore
  | [], _, s => s
  | .elsewhere w :: rest, _, s => auditedBy rest w s
  | .request r :: rest, w, s => auditedBy rest w (r.answer allowedScopes handler w s).2

end Requests

/-! ### What is recorded -/

/-- The entry, if there is one, comes last in its table, and nothing else changes. -/
structure RowRecorded (s : AuditStore) (entry : Option AuditEntry) (s' : AuditStore) : Prop where
  views : s'.views = s.views ++ (entry.bind AuditEntry.view?).toList
  reports : s'.reports = s.reports ++ (entry.bind AuditEntry.report?).toList

theorem RowRecorded.nothing {s : AuditStore} : RowRecorded s none s :=
  ⟨(List.append_nil _).symm, (List.append_nil _).symm⟩

namespace AuditRepositoryAdapter

variable {faults : AuditFaults} {event : BaseAuditEvent} {id : ℕ} {s : AuditStore} {u : Unit}

theorem insert_ok {s' : AuditStore} (h : insert event id s = .ok (u, s')) :
    ∃ userEmailAddress, event.userEmailAddress = some userEmailAddress
      ∧ RowRecorded s (some (entryOf event userEmailAddress id)) s' := by
  unfold insert at h
  cases hemail : event.userEmailAddress with
  | none =>
      rw [hemail] at h
      cases h
  | some userEmailAddress =>
      rw [hemail] at h
      refine ⟨userEmailAddress, rfl, ?_⟩
      cases hentry : entryOf event userEmailAddress id with
      | report row =>
          simp only [hentry] at h
          by_cases htaken : row.event.record.id ∈ s.reports.map (·.event.record.id)
          · rw [dif_pos htaken] at h
            cases h
          · rw [dif_neg htaken] at h
            cases h
            exact ⟨(List.append_nil _).symm, rfl⟩
      | view row =>
          simp only [hentry] at h
          by_cases htaken : row.record.id ∈ s.views.map (·.record.id)
          · rw [dif_pos htaken] at h
            cases h
          · rw [dif_neg htaken] at h
            cases h
            exact ⟨rfl, (List.append_nil _).symm⟩

theorem auditEvent_ok {t t' : Txn AuditStore Empty} (h : auditEvent faults event id t = .ok u t') :
    ∃ userEmailAddress, event.userEmailAddress = some userEmailAddress
      ∧ RowRecorded t.store (some (entryOf event userEmailAddress id)) t'.store := by
  simp only [auditEvent, bind_ok, Tx.flush_ok, Tx.callOut_ok] at h
  obtain ⟨_, _, ⟨-, s, hinsert, rfl⟩, -, rfl⟩ := h
  exact insert_ok hinsert

theorem rollback_committed (faults : AuditFaults) (s : AuditSession) :
    (endState (rollback faults s)).committed = s.committed := by
  unfold rollback
  by_cases h : faults.rollback = true
  · rw [if_pos h]
    rfl
  · rw [if_neg h]
    rfl

end AuditRepositoryAdapter

namespace RecordAuditEventUseCase

open AuditRepositoryAdapter

variable {faults : AuditFaults} {event : BaseAuditEvent} {id : ℕ}

theorem recover_error (faults : AuditFaults) (e : Raised AuditFailure) (s : AuditSession) :
    ∃ e' s', recover faults e s = .error e' s' ∧ s'.committed = s.committed := by
  match e with
  | .call (.auditError message) =>
      have hcommitted := rollback_committed faults s
      cases hrollback : rollback faults s with
      | ok u s' =>
          rw [hrollback] at hcommitted
          exact ⟨_, s', bind_eq_of_ok hrollback, hcommitted⟩
      | error e' s' =>
          rw [hrollback] at hcommitted
          exact ⟨e', s', bind_eq_of_error hrollback, hcommitted⟩
  | .call (.valueError message) => exact ⟨_, s, rfl, rfl⟩
  | .call (.httpException statusCode detail) => exact ⟨_, s, rfl, rfl⟩
  | .pendingRollback => exact ⟨_, s, rfl, rfl⟩

theorem record_ok {s : AuditStore} {session : AuditSession} {u : Unit}
    (h : record faults event id (.start s) = .ok u session) :
    ∃ userEmailAddress, event.userEmailAddress = some userEmailAddress
      ∧ isBlank userEmailAddress = false
      ∧ RowRecorded s (some (entryOf event userEmailAddress id)) session.committed := by
  unfold record at h
  by_cases hblank : event.userEmailAddress.all isBlank = true
  · rw [if_pos hblank, throw_apply] at h
    cases h
  · rw [if_neg hblank, Uow.inTransaction_ok] at h
    obtain ⟨-, -, t, hbody, rfl⟩ := h
    obtain ⟨userEmailAddress, hemail, hrecorded⟩ := auditEvent_ok hbody
    rw [hemail, Option.all_some, Bool.not_eq_true] at hblank
    exact ⟨userEmailAddress, hemail, hblank, hrecorded⟩

theorem record_error {s : AuditStore} {e : Raised AuditFailure} {session : AuditSession}
    (h : record faults event id (.start s) = .error e session) : session.committed = s := by
  unfold record at h
  by_cases hblank : event.userEmailAddress.all isBlank = true
  · rw [if_pos hblank, throw_apply] at h
    cases h
    rfl
  · rw [if_neg hblank] at h
    exact (Uow.inTransaction_atomic _ _ _ h).1

/-- Either the event is the last row of its table, under an address, or nothing has changed. -/
theorem execute_cases (faults : AuditFaults) (event : BaseAuditEvent) (id : ℕ) (s : AuditStore) :
    (∃ e session, execute faults event id (.start s) = .error e session ∧ session.committed = s)
      ∨ ∃ u session userEmailAddress, execute faults event id (.start s) = .ok u session
        ∧ event.userEmailAddress = some userEmailAddress ∧ isBlank userEmailAddress = false
        ∧ RowRecorded s (some (entryOf event userEmailAddress id)) session.committed := by
  unfold execute
  cases hrecord : record faults event id (.start s) with
  | error e session =>
      obtain ⟨e', s', hfails, hcommitted⟩ := recover_error faults e session
      exact Or.inl ⟨e', s', (tryCatch_eq_of_error hrecord).trans hfails,
        hcommitted.trans (record_error hrecord)⟩
  | ok u session =>
      obtain ⟨userEmailAddress, hrecorded⟩ := record_ok hrecord
      exact Or.inr ⟨u, session, userEmailAddress, tryCatch_eq_of_ok hrecord, hrecorded⟩

end RecordAuditEventUseCase

/-- The row of a request, under an address. -/
def AuditedRequest.entry (r : AuditedRequest) (userEmailAddress : String) : AuditEntry :=
  AuditRepositoryAdapter.entryOf
    (auditEventFactory r.now (some userEmailAddress) r.queryParams r.page) userEmailAddress r.nextId

/-- The entry is the row of the request, under the address of its user. -/
def Records (r : AuditedRequest) (user : AuthenticatedUser) (entry : AuditEntry) : Prop :=
  ∃ userEmailAddress, user.emailAddress = some userEmailAddress ∧ isBlank userEmailAddress = false
    ∧ entry = r.entry userEmailAddress

def Permitted (page : AuditedPage) (user : AuthenticatedUser) : Prop :=
  ∃ permission ∈ page.possiblePermissions, permission ∈ getCurrentUserPermissions user

section Accounts

variable {ω β : Type} {allowedScopes : String} {handler : Handler ω β}

/-- How a request was answered, and what was recorded of it. -/
inductive Accounts (allowedScopes : String) (handler : Handler ω β) (v : Visit ω β) :
    Option AuditEntry → Prop
  | unknown {e : HttpError} (hverified : verifyEntraToken allowedScopes v.request.credentials = .error e)
      (hanswer : v.answer = .error e) : Accounts allowedScopes handler v none
  | denied {user : AuthenticatedUser} {entry : Option AuditEntry}
      (hverified : verifyEntraToken allowedScopes v.request.credentials = .ok user)
      (hdenied : ¬ Permitted v.request.page user) (hentry : ∀ x ∈ entry, Records v.request user x)
      (hanswer : v.answer = .error ⟨403, "Forbidden: Missing required permission"⟩) :
      Accounts allowedScopes handler v entry
  | failed {user : AuthenticatedUser}
      (hverified : verifyEntraToken allowedScopes v.request.credentials = .ok user)
      (hpermitted : Permitted v.request.page user)
      (hanswer : v.answer = .error ⟨500, "Failed to audit report request"⟩) :
      Accounts allowedScopes handler v none
  | answered {user : AuthenticatedUser} {entry : AuditEntry}
      (hverified : verifyEntraToken allowedScopes v.request.credentials = .ok user)
      (hpermitted : Permitted v.request.page user) (hentry : Records v.request user entry)
      (hanswer : v.answer = handler v.request.page v.request.queryParams v.cases v.store) :
      Accounts allowedScopes handler v (some entry)

/-- The requests of a run in turn, each from the tables that the one before has left. -/
inductive AccountedVisits (allowedScopes : String) (handler : Handler ω β) :
    AuditStore → List (Visit ω β) → List (Option AuditEntry) → AuditStore → Prop
  | nil {s : AuditStore} : AccountedVisits allowedScopes handler s [] [] s
  | cons {s s' : AuditStore} {v : Visit ω β} {entry : Option AuditEntry} {vs : List (Visit ω β)}
      {entries : List (Option AuditEntry)} (haccounts : Accounts allowedScopes handler v entry)
      (hrecorded : RowRecorded s entry v.store)
      (hrest : AccountedVisits allowedScopes handler v.store vs entries s') :
      AccountedVisits allowedScopes handler s (v :: vs) (entry :: entries) s'

theorem handleFailure_permitted {page : AuditedPage} {user : AuthenticatedUser} (h : Permitted page user) :
    handleFailure page.possiblePermissions (getCurrentUserPermissions user)
      = ⟨500, "Failed to audit report request"⟩ := by
  unfold handleFailure
  rw [permissionChecker_ok.mpr h]

theorem permissionChecker_denied {page : AuditedPage} {user : AuthenticatedUser}
    (h : ¬ Permitted page user) :
    permissionChecker page.possiblePermissions (getCurrentUserPermissions user)
      = .error ⟨403, "Forbidden: Missing required permission"⟩ :=
  if_neg h

theorem handleFailure_denied {page : AuditedPage} {user : AuthenticatedUser} (h : ¬ Permitted page user) :
    handleFailure page.possiblePermissions (getCurrentUserPermissions user)
      = ⟨403, "Forbidden: Missing required permission"⟩ := by
  unfold handleFailure
  rw [permissionChecker_denied h]

/-- An event that has an address has that of the token. -/
theorem AuditedRequest.auditEvent_some {r : AuditedRequest} {payload : TokenPayload}
    {userEmailAddress : String} (h : (r.auditEvent (some payload)).userEmailAddress = some userEmailAddress) :
    payload.preferredUsername = some userEmailAddress
      ∧ r.auditEvent (some payload)
        = auditEventFactory r.now (some userEmailAddress) r.queryParams r.page := by
  have haddress : (r.auditEvent (some payload)).userEmailAddress
      = EntraAuthAdapter.getUserEmailAddress (if r.faults.tokenRejected then none else some payload) := by
    unfold AuditedRequest.auditEvent auditEventFactory
    cases r.page <;> rfl
  have hfound := haddress.symm.trans h
  constructor
  · by_cases hrejected : r.faults.tokenRejected = true
    · rw [if_pos hrejected] at hfound
      cases hfound
    · rw [if_neg hrejected] at hfound
      exact hfound
  · unfold AuditedRequest.auditEvent
    rw [hfound]

/-- One request: its answer, and what it records. -/
theorem AuditedRequest.answer_accounts (allowedScopes : String) (handler : Handler ω β)
    (r : AuditedRequest) (w : ω) (s : AuditStore) :
    ∃ entry, Accounts allowedScopes handler
        ⟨r, w, (r.answer allowedScopes handler w s).2, (r.answer allowedScopes handler w s).1⟩ entry
      ∧ RowRecorded s entry (r.answer allowedScopes handler w s).2 := by
  unfold AuditedRequest.answer
  cases hverified : verifyEntraToken allowedScopes r.credentials with
  | error e => exact ⟨none, .unknown hverified rfl, .nothing⟩
  | ok user =>
      obtain ⟨payload, hcredentials, rfl, -⟩ := verifyEntraTokenWithScopes_ok hverified
      unfold auditerPermissionChecker
      rw [hcredentials]
      rcases RecordAuditEventUseCase.execute_cases r.faults (r.auditEvent (some payload)) r.nextId s with
        ⟨e, session, hfails, hsame⟩ | ⟨u, session, userEmailAddress, hgoes, hemail, hblank, hrecorded⟩
      · simp only [hfails]
        refine ⟨none, ?_, hsame ▸ .nothing⟩
        by_cases hpermitted : Permitted r.page (EntraAuthAdapter.tokenUser payload)
        · rw [handleFailure_permitted hpermitted]
          exact .failed hverified hpermitted rfl
        · rw [handleFailure_denied hpermitted]
          exact .denied hverified hpermitted (fun _ hnone => nomatch hnone) rfl
      · obtain ⟨hpreferred, hevent⟩ := r.auditEvent_some hemail
        rw [hevent] at hrecorded
        have hentry : Records r (EntraAuthAdapter.tokenUser payload) (r.entry userEmailAddress) :=
          ⟨userEmailAddress, hpreferred, hblank, rfl⟩
        simp only [hgoes]
        by_cases hpermitted : Permitted r.page (EntraAuthAdapter.tokenUser payload)
        · rw [permissionChecker_ok.mpr hpermitted]
          exact ⟨some (r.entry userEmailAddress), .answered hverified hpermitted hentry rfl, hrecorded⟩
        · rw [permissionChecker_denied hpermitted]
          refine ⟨some (r.entry userEmailAddress), .denied hverified hpermitted ?_ rfl, hrecorded⟩
          intro x hx
          cases hx
          exact hentry

/-- A run: every request is accounted for. -/
theorem visits_accounted (allowedScopes : String) (handler : Handler ω β)
    (steps : List (AuditedStep ω)) (w : ω) (s : AuditStore) :
    ∃ entries, AccountedVisits allowedScopes handler s (visits allowedScopes handler steps w s) entries
      (auditedBy allowedScopes handler steps w s) := by
  induction steps generalizing w s with
  | nil => exact ⟨[], .nil⟩
  | cons step rest ih =>
      cases step with
      | elsewhere w' => exact ih w' s
      | request r =>
          obtain ⟨entry, haccounts, hrecorded⟩ := r.answer_accounts allowedScopes handler w s
          obtain ⟨entries, hrest⟩ := ih w (r.answer allowedScopes handler w s).2
          exact ⟨entry :: entries, .cons haccounts hrecorded hrest⟩

theorem toList_append_filterMap {γ δ : Type} (f : γ → Option δ) (a : γ) (rest : List γ) :
    (f a).toList ++ rest.filterMap f = (a :: rest).filterMap f := by
  rw [List.filterMap_cons]
  cases f a <;> rfl

variable {s s' : AuditStore} {vs : List (Visit ω β)} {entries : List (Option AuditEntry)}

theorem AccountedVisits.forall₂ (h : AccountedVisits allowedScopes handler s vs entries s') :
    List.Forall₂ (Accounts allowedScopes handler) vs entries := by
  induction h with
  | nil => exact .nil
  | cons haccounts _ _ ih => exact .cons haccounts ih

theorem AccountedVisits.views (h : AccountedVisits allowedScopes handler s vs entries s') :
    s'.views = s.views ++ entries.filterMap fun entry => entry.bind AuditEntry.view? := by
  induction h with
  | nil => exact (List.append_nil _).symm
  | @cons s s' v entry vs entries _ hrecorded _ ih =>
      rw [ih, hrecorded.views, List.append_assoc]
      exact congrArg _ (toList_append_filterMap (fun entry => entry.bind AuditEntry.view?) entry entries)

theorem AccountedVisits.reports (h : AccountedVisits allowedScopes handler s vs entries s') :
    s'.reports = s.reports ++ entries.filterMap fun entry => entry.bind AuditEntry.report? := by
  induction h with
  | nil => exact (List.append_nil _).symm
  | @cons s s' v entry vs entries _ hrecorded _ ih =>
      rw [ih, hrecorded.reports, List.append_assoc]
      exact congrArg _ (toList_append_filterMap (fun entry => entry.bind AuditEntry.report?) entry entries)

end Accounts

/-- **Recorded first.** Over any requests for reports and pages, whatever their tokens say, whatever other
requests do to the cases meanwhile and whatever fails: what the run adds to the tables of the audit is at
most one row for each request, in their order, under the address of its user; a request is answered from
the tables only with its permission and with its own row in them; and without the permission the answer is
the same whether a row could be written or not. -/
theorem requests_recorded_first {ω β : Type} (allowedScopes : String) (handler : Handler ω β)
    (steps : List (AuditedStep ω)) (w : ω) (s : AuditStore) :
    ∃ entries, List.Forall₂ (Accounts allowedScopes handler) (visits allowedScopes handler steps w s)
        entries
      ∧ (auditedBy allowedScopes handler steps w s).views
        = s.views ++ entries.filterMap (fun entry => entry.bind AuditEntry.view?)
      ∧ (auditedBy allowedScopes handler steps w s).reports
        = s.reports ++ entries.filterMap (fun entry => entry.bind AuditEntry.report?) := by
  obtain ⟨entries, haccounted⟩ := visits_accounted allowedScopes handler steps w s
  exact ⟨entries, haccounted.forall₂, haccounted.views, haccounted.reports⟩

/-! ### The audit trail of a run -/

namespace AuditTrail

open AuditTrailRepositoryAdapter
open GeneratePaymentExtractReportUseCase (Firm firmNameOf)
open GenerateAuditTrailReportUseCase

/-- The history can be described. -/
def Describable (printing : Printing) (db : AuditDatabase) : Prop :=
  ∀ row ∈ db.historyEvents, ∃ described,
    describeEvent printing row.record.eventReference.value row.record.eventData = .ok described

theorem Shows.described {printing : Printing} {db : AuditDatabase} {row : AuditRow} {event : ZonedEvent}
    (h : Shows db row event) (hrow : row ∈ rows db) (hhistory : Describable printing db) :
    ∃ described, describeEvent printing event.record.eventReference event.record.eventData
      = .ok described := by
  cases h with
  | history row application occurredAt _ _ _ =>
      have hmem : row ∈ db.historyEvents := by
        simpa [rows] using hrow
      exact hhistory row hmem
  | view row occurredAt _ =>
      change ∃ described, describeEvent printing
        (AuditTrailRepository.viewEvent { row.record with timestamp := occurredAt.wall }).eventReference
        (AuditTrailRepository.viewEvent { row.record with timestamp := occurredAt.wall }).eventData
          = .ok described
      unfold AuditTrailRepository.viewEvent
      cases row.record.page <;> exact ⟨_, rfl⟩
  | report row occurredAt _ => exact ⟨_, rfl⟩

theorem buildRow_goes {printing : Printing} {firms : List Firm} {event : ZonedEvent}
    (hutc : event.timestamp.offset = some 0)
    (h : ∃ described, describeEvent printing event.record.eventReference event.record.eventData
      = .ok described) : ∃ row, buildRow printing firms event = .ok row := by
  obtain ⟨described, hdescribed⟩ := h
  unfold buildRow buildAuditRow
  rw [hdescribed, asUtc_eq, Timestamp.asUtc_utc hutc]
  exact ⟨_, rfl⟩

theorem buildAuditFirmNameLookup_goes {getFirmsByIds : List String → Except ReportError (List Firm)}
    (hfirms : ∀ codes, ∃ firms, getFirmsByIds codes = .ok firms
      ∧ ∀ code ∈ codes, (firmNameOf firms code).isSome) (events : List AuditTrailEvent) :
    ∃ firms, buildAuditFirmNameLookup getFirmsByIds events = .ok firms := by
  unfold buildAuditFirmNameLookup
  by_cases hnone : firmCodesOf events = []
  · exact ⟨[], if_pos hnone⟩
  · obtain ⟨firms, hgoes, hnamed⟩ := hfirms (firmCodesOf events)
    have hfound : (firmCodesOf events).find? (fun code => (firmNameOf firms code).isNone) = none := by
      apply List.find?_eq_none.mpr
      intro code hcode
      simp [Option.isSome_iff_ne_none.mp (hnamed code hcode)]
    refine ⟨firms, ?_⟩
    simp only [if_neg hnone, hgoes, bind, Except.bind, hfound]

/-- A trail is answered where the history can be described and the firms are known. -/
theorem execute_goes (printing : Printing) (getFirmsByIds : List String → Except ReportError (List Firm))
    (db : AuditDatabase) {fromDate toDate : Date} {window : Datetime × Datetime}
    (hwindow : resolveReportWindow fromDate toDate maxAuditTrailReportRangeDays = .ok window)
    (hhistory : Describable printing db)
    (hfirms : ∀ codes, ∃ firms, getFirmsByIds codes = .ok firms
      ∧ ∀ code ∈ codes, (firmNameOf firms code).isSome) :
    ∃ content, execute printing getFirmsByIds fromDate toDate db = .ok content := by
  obtain ⟨-, dayAfter, -, rfl⟩ := resolveReportWindow_ok hwindow
  have hlast : (midnight fromDate, midnight dayAfter).2.micros < Datetime.microsPerDay :=
    Nat.pos_of_ne_zero (by decide)
  obtain ⟨listed, events, hread, htrail⟩ := readEvents_trail db hlast
  obtain ⟨firms, hlookup⟩ := buildAuditFirmNameLookup_goes hfirms (events.map (·.record))
  have hrows : ∃ cells, events.mapM (buildRow printing firms) = .ok cells := by
    refine Checked.mapM_goes.mpr fun event hevent => ?_
    obtain ⟨row, hrow, hshows⟩ := exists_left_of_forall₂ htrail.shown hevent
    refine buildRow_goes (utc_of_shown htrail.shown event hevent) (hshows.described ?_ hhistory)
    exact List.mem_of_mem_filter (htrail.complete.mem_iff.mp hrow)
  obtain ⟨cells, hcells⟩ := hrows
  refine ⟨Csv.text (auditTrailReportHeaders :: cells), ?_⟩
  unfold execute
  simp only [except_bind_ok]
  exact ⟨_, hwindow, events, hread, firms, hlookup,
    buildCsv_ok.mpr ⟨cells, Checked.mapM_ok.mp hcells, rfl⟩⟩

end AuditTrail

/-- The tables of the cases that the audit trail reads. -/
structure CaseTables where
  applications : List Application
  historyEvents : List (Zoned HistoryEvent.timestamp)
  applications_keyed : (applications.map (·.applicationId)).Nodup
  history_owned : ∀ row ∈ historyEvents, row.record.applicationId ∈ applications.map (·.applicationId)

namespace AuditStore

open AuditTrail (AuditRow)

def database (s : AuditStore) (cases : CaseTables) : AuditDatabase where
  applications := cases.applications
  historyEvents := cases.historyEvents
  viewApplicationPagesAudit := s.views
  reportAudit := s.reports.map (·.event)
  applications_keyed := cases.applications_keyed
  history_owned := cases.history_owned

def rows (s : AuditStore) : List AuditRow :=
  s.views.map .view ++ s.reports.map fun row => .report row.event

theorem mem_rows_database {s : AuditStore} {cases : CaseTables} {row : AuditRow} (h : row ∈ s.rows) :
    row ∈ AuditTrail.rows (s.database cases) := by
  unfold AuditTrail.rows database
  rw [List.map_map]
  exact List.mem_append_right _ h

end AuditStore

/-- The route of the audit trail, after its two dates have been read. -/
def getAuditTrailReport (parseDates : QueryParams → Except HttpError (Date × Date)) (printing : Printing)
    (getFirmsByIds : List String → Except ReportError (List GeneratePaymentExtractReportUseCase.Firm))
    (queryParams : QueryParams) (db : AuditDatabase) : Except HttpError (List Char) := do
  let (fromDate, toDate) ← parseDates queryParams
  match AuditTrail.execute printing getFirmsByIds fromDate toDate db with
  | .ok content => pure content
  | .error (.invalidDateRange message) => throw ⟨422, "Invalid date range: " ++ message⟩
  | .error (.reportGeneration _) => throw ⟨500, "Failed to generate audit trail report"⟩
  | .error _ => throw ⟨500, "Internal Server Error"⟩

/-- The routes, of which that of the audit trail is the one above. -/
def withAuditTrail (parseDates : QueryParams → Except HttpError (Date × Date)) (printing : Printing)
    (getFirmsByIds : List String → Except ReportError (List GeneratePaymentExtractReportUseCase.Firm))
    (others : Handler CaseTables (List Char)) : Handler CaseTables (List Char) :=
  fun page queryParams cases s =>
    if page = .report .auditTrail then
      getAuditTrailReport parseDates printing getFirmsByIds queryParams (s.database cases)
    else others page queryParams cases s

section Visits

open AuditTrail (AuditRow Trail readEvents_trail buildCsv_ok buildRow)
open GeneratePaymentExtractReportUseCase (Firm)
open GenerateAuditTrailReportUseCase (maxAuditTrailReportRangeDays)

variable {ω β : Type} {allowedScopes : String} {handler : Handler ω β}
variable {s s' : AuditStore} {entry : AuditEntry} {entries : List (Option AuditEntry)}
variable {v u : Visit ω β} {vs earlier later : List (Visit ω β)}

theorem RowRecorded.rows_kept {entry : Option AuditEntry} (h : RowRecorded s entry s') :
    ∀ row ∈ s.rows, row ∈ s'.rows := by
  intro row hrow
  unfold AuditStore.rows at *
  rw [h.views, h.reports, List.map_append, List.map_append]
  simp only [List.mem_append] at *
  rcases hrow with hview | hreport
  · exact Or.inl (Or.inl hview)
  · exact Or.inr (Or.inl hreport)

theorem RowRecorded.row_mem (h : RowRecorded s (some entry) s') : entry.row ∈ s'.rows := by
  unfold AuditStore.rows
  rw [h.views, h.reports, List.map_append, List.map_append]
  simp only [List.mem_append]
  cases entry with
  | view event => exact Or.inl (Or.inr (List.mem_singleton_self _))
  | report row => exact Or.inr (Or.inr (List.mem_singleton_self _))

theorem AccountedVisits.rows_kept (h : AccountedVisits allowedScopes handler s vs entries s') :
    ∀ row ∈ s.rows, row ∈ s'.rows := by
  induction h with
  | nil => exact fun _ hrow => hrow
  | cons _ hrecorded _ ih => exact fun row hrow => ih row (hrecorded.rows_kept row hrow)

/-- Every request that is answered with content is its handler's, and has its row in the tables from
then on. -/
theorem AccountedVisits.of_answer (h : AccountedVisits allowedScopes handler s vs entries s') (hu : u ∈ vs)
    {content : β} (hanswer : u.answer = .ok content) :
    u.answer = handler u.request.page u.request.queryParams u.cases u.store
      ∧ ∃ user entry, verifyEntraToken allowedScopes u.request.credentials = .ok user
        ∧ Records u.request user entry ∧ entry.row ∈ s'.rows := by
  induction h with
  | nil => cases hu
  | @cons s s' v entry vs entries haccounts hrecorded hrest ih =>
      rcases List.mem_cons.mp hu with rfl | hu
      · cases haccounts with
        | unknown _ hrefused => cases hrefused.symm.trans hanswer
        | denied _ _ _ hrefused => cases hrefused.symm.trans hanswer
        | failed _ _ hrefused => cases hrefused.symm.trans hanswer
        | @answered user entry hverified _ hentry hhandled =>
            exact ⟨hhandled, user, entry, hverified, hentry, hrest.rows_kept _ hrecorded.row_mem⟩
      · exact ih hu

/-- The run up to one of its requests. -/
theorem AccountedVisits.upTo (h : AccountedVisits allowedScopes handler s (earlier ++ v :: later) entries s') :
    ∃ entries, AccountedVisits allowedScopes handler s (earlier ++ [v]) entries v.store := by
  induction earlier generalizing s entries with
  | nil =>
      cases h with
      | @cons _ _ _ entry _ _ haccounts hrecorded _ => exact ⟨[entry], .cons haccounts hrecorded .nil⟩
  | cons first rest ih =>
      cases h with
      | @cons _ _ _ entry _ _ haccounts hrecorded hrest =>
          obtain ⟨entries, hupto⟩ := ih hrest
          exact ⟨entry :: entries, .cons haccounts hrecorded hupto⟩

theorem AuditedRequest.entry_timestamp (r : AuditedRequest) (userEmailAddress : String) :
    (r.entry userEmailAddress).row.timestamp = r.now := by
  unfold AuditedRequest.entry AuditRepositoryAdapter.entryOf auditEventFactory
  cases r.page <;> exact Zoned.timestamp_stamped (h := rfl)

/-- What the route of the audit trail answers with is the trail of its window. -/
theorem getAuditTrailReport_ok {parseDates : QueryParams → Except HttpError (Date × Date)}
    {printing : Printing} {getFirmsByIds : List String → Except ReportError (List Firm)}
    {queryParams : QueryParams} {db : AuditDatabase} {content : List Char}
    (h : getAuditTrailReport parseDates printing getFirmsByIds queryParams db = .ok content) :
    ∃ fromDate toDate window listed events firms cells,
      parseDates queryParams = .ok (fromDate, toDate)
        ∧ resolveReportWindow fromDate toDate maxAuditTrailReportRangeDays = .ok window
        ∧ Trail db window listed events
        ∧ List.Forall₂ (fun event row => buildRow printing firms event = .ok row) events cells
        ∧ content = Csv.text (AuditTrail.auditTrailReportHeaders :: cells) := by
  unfold getAuditTrailReport at h
  rw [except_bind_ok] at h
  obtain ⟨⟨fromDate, toDate⟩, hdates, h⟩ := h
  dsimp only at h
  cases hexecute : AuditTrail.execute printing getFirmsByIds fromDate toDate db with
  | error e =>
      rw [hexecute] at h
      cases e <;> cases h
  | ok text =>
      rw [hexecute] at h
      cases h
      unfold AuditTrail.execute at hexecute
      simp only [except_bind_ok] at hexecute
      obtain ⟨window, hwindow, events, hread, firms, -, hcsv⟩ := hexecute
      obtain ⟨-, dayAfter, -, rfl⟩ := resolveReportWindow_ok hwindow
      have hlast : (midnight fromDate, midnight dayAfter).2.micros < Datetime.microsPerDay :=
        Nat.pos_of_ne_zero (by decide)
      obtain ⟨listed, events', hread', htrail⟩ := readEvents_trail db hlast
      obtain rfl : events = events' := Except.ok.inj (hread.symm.trans hread')
      obtain ⟨cells, hcells, hcontent⟩ := buildCsv_ok.mp hcsv
      exact ⟨fromDate, toDate, _, listed, events, firms, cells, hdates, hwindow, htrail, hcells, hcontent⟩

/-- **The audit trail shows its own download.** In any run, an audit trail that is answered with content
is read back as the header and one row for each event of its window; among the events are every report and
every page of the window that was answered with content before it, and itself, under the address of its
user. -/
theorem auditTrail_shows_downloads (allowedScopes : String)
    (parseDates : QueryParams → Except HttpError (Date × Date)) (printing : Printing)
    (getFirmsByIds : List String → Except ReportError (List Firm))
    (others : Handler CaseTables (List Char)) (steps : List (AuditedStep CaseTables)) (w : CaseTables)
    (s : AuditStore) {earlier later : List (Visit CaseTables (List Char))}
    {v : Visit CaseTables (List Char)} {content : List Char}
    (hrun : visits allowedScopes (withAuditTrail parseDates printing getFirmsByIds others) steps w s
      = earlier ++ v :: later)
    (hpage : v.request.page = .report .auditTrail) (hanswer : v.answer = .ok content) :
    ∃ fromDate toDate window listed events firms cells,
      parseDates v.request.queryParams = .ok (fromDate, toDate)
        ∧ resolveReportWindow fromDate toDate maxAuditTrailReportRangeDays = .ok window
        ∧ Trail (v.store.database v.cases) window listed events
        ∧ List.Forall₂ (fun event row => buildRow printing firms event = .ok row) events cells
        ∧ Csv.read content = AuditTrail.auditTrailReportHeaders :: cells
        ∧ ∀ u ∈ earlier ++ [v], ∀ shown, u.answer = .ok shown → u.request.now.within window →
          ∃ user entry, verifyEntraToken allowedScopes u.request.credentials = .ok user
            ∧ Records u.request user entry ∧ entry.row ∈ listed := by
  obtain ⟨entries, haccounted⟩ := visits_accounted allowedScopes
    (withAuditTrail parseDates printing getFirmsByIds others) steps w s
  rw [hrun] at haccounted
  obtain ⟨entries, hupto⟩ := haccounted.upTo
  have hhandled := (hupto.of_answer (List.mem_append_right _ (List.mem_singleton_self v)) hanswer).1
  unfold withAuditTrail at hhandled
  rw [hanswer, if_pos hpage] at hhandled
  obtain ⟨fromDate, toDate, window, listed, events, firms, cells, hdates, hwindow, htrail, hfile⟩ :=
    getAuditTrailReport_ok hhandled.symm
  have hread : Csv.read content = AuditTrail.auditTrailReportHeaders :: cells := by
    rw [hfile.2, Csv.read_text]
  refine ⟨fromDate, toDate, window, listed, events, firms, cells, hdates, hwindow, htrail, hfile.1,
    hread, ?_⟩
  intro u hu shown hshown hwithin
  obtain ⟨-, user, entry, hverified, hrecords, hrow⟩ := hupto.of_answer hu hshown
  refine ⟨user, entry, hverified, hrecords, htrail.complete.mem_iff.mpr ?_⟩
  rw [List.mem_filter, decide_eq_true_eq]
  refine ⟨AuditStore.mem_rows_database hrow, ?_⟩
  obtain ⟨userEmailAddress, -, -, rfl⟩ := hrecords
  rw [AuditedRequest.entry_timestamp]
  exact hwithin

end Visits

namespace Sample

def assuranceToken : TokenPayload where
  scp := some "User.Caseworker"
  roles := none
  laaAppRoles := .text "Inquests - Assurance"
  accounts := .items []
  firmCode := none
  name := some "Ada"
  oid := some "assurance-id"
  preferredUsername := some "ada@example.com"

def atNoon : Timestamp :=
  ⟨date, 43200000000, some 0, by decide, by
    intro o ho
    cases ho
    decide⟩

def dayQuery : QueryParams := [("from", "2024-06-03"), ("to", "2024-06-03")]

def download (reportType : ReportType) (nextId : ℕ) : AuditedRequest :=
  ⟨some (some assuranceToken), .report reportType, dayQuery, atNoon, nextId,
    ⟨false, none, false, none, false⟩⟩

theorem noEvents_owned : ∀ row ∈ ([] : List (Zoned HistoryEvent.timestamp)),
    row.record.applicationId ∈ ([] : List Application).map (·.applicationId) :=
  fun _ hnone => absurd hnone List.not_mem_nil

def noCases : CaseTables := ⟨[], [], List.nodup_nil, noEvents_owned⟩

/-- Both dates of a query, which is refused without them. -/
def queryDates (queryParams : QueryParams) : Except HttpError (Date × Date) :=
  match (queryParams.lookup "from").bind Date.fromIsoformat,
    (queryParams.lookup "to").bind Date.fromIsoformat with
  | some fromDate, some toDate => .ok (fromDate, toDate)
  | _, _ => .error ⟨422, "Unprocessable Entity"⟩

theorem queryDates_dayQuery : queryDates dayQuery = .ok (date, date) := by decide +kernel

/-- Every firm is called by its number. -/
def numberedFirms : List String → Except ReportError (List GeneratePaymentExtractReportUseCase.Firm) :=
  fun firmCodes => .ok (firmCodes.map fun firmCode => ⟨firmCode, some firmCode⟩)

theorem numberedFirms_known (codes : List String) : ∃ firms, numberedFirms codes = .ok firms
    ∧ ∀ code ∈ codes, (GeneratePaymentExtractReportUseCase.firmNameOf firms code).isSome := by
  refine ⟨_, rfl, fun code hcode => ?_⟩
  unfold GeneratePaymentExtractReportUseCase.firmNameOf
  cases hfound : (codes.map fun code =>
      (⟨code, some code⟩ : GeneratePaymentExtractReportUseCase.Firm)).reverse.find?
        fun firm => firm.firmNumber = code with
  | none =>
      have hmissing := List.find?_eq_none.mp hfound ⟨code, some code⟩
        (List.mem_reverse.mpr (List.mem_map_of_mem hcode))
      exact absurd (decide_eq_true rfl) hmissing
  | some firm =>
      have hfirm := List.mem_reverse.mp (List.mem_of_find?_eq_some hfound)
      obtain ⟨_, _, rfl⟩ := List.mem_map.mp hfirm
      rfl

/-- A report of decisions is downloaded, and then the audit trail of the day. -/
def downloads : List (Visit CaseTables (List Char)) :=
  visits "User.Caseworker" (withAuditTrail queryDates printing numberedFirms fun _ _ _ _ => .ok [])
    [.request (download .decisions 1), .request (download .auditTrail 2)] noCases .empty

/-- The tables after both downloads. -/
def downloaded : AuditStore :=
  auditedBy "User.Caseworker" (withAuditTrail queryDates printing numberedFirms fun _ _ _ _ => .ok [])
    [.request (download .decisions 1), .request (download .auditTrail 2)] noCases .empty

theorem downloads_answered : ∃ s₁, downloads =
    [⟨download .decisions 1, noCases, s₁, .ok []⟩,
      ⟨download .auditTrail 2, noCases, downloaded,
        getAuditTrailReport queryDates printing numberedFirms dayQuery (downloaded.database noCases)⟩] :=
  ⟨_, rfl⟩

end Sample

/-- The audit trail of the day lists the download of the decisions and its own. -/
theorem auditTrail_shows_downloads_day : ∃ listed : List AuditTrail.AuditRow,
    ∀ u ∈ Sample.downloads, ∃ user entry, Records u.request user entry ∧ entry.row ∈ listed := by
  obtain ⟨s₁, hruns⟩ := Sample.downloads_answered
  have hwindow : resolveReportWindow Sample.date Sample.date
      GenerateAuditTrailReportUseCase.maxAuditTrailReportRangeDays
        = .ok (midnight Sample.date, midnight ⟨2024, 6, 4, by decide, by decide, by decide⟩) := by
    decide +kernel
  obtain ⟨content, hcontent⟩ := AuditTrail.execute_goes Sample.printing Sample.numberedFirms
    (Sample.downloaded.database Sample.noCases) hwindow (fun _ hnone => nomatch hnone)
    Sample.numberedFirms_known
  have hanswer : getAuditTrailReport Sample.queryDates Sample.printing Sample.numberedFirms Sample.dayQuery
      (Sample.downloaded.database Sample.noCases) = .ok content := by
    simp only [getAuditTrailReport, Sample.queryDates_dayQuery, bind, Except.bind, hcontent, pure,
      Except.pure]
  obtain ⟨fromDate, toDate, window, listed, _, _, _, hdates, hresolved, _, _, _, hshown⟩ :=
    auditTrail_shows_downloads "User.Caseworker" Sample.queryDates Sample.printing Sample.numberedFirms
      (fun _ _ _ _ => .ok []) _ Sample.noCases .empty
      (show Sample.downloads = [_] ++ _ :: [] from hruns) rfl hanswer
  cases Sample.queryDates_dayQuery.symm.trans hdates
  obtain rfl := Except.ok.inj (hresolved.symm.trans hwindow)
  refine ⟨listed, fun u hu => ?_⟩
  rw [hruns] at hu
  obtain ⟨shown, hanswered⟩ : ∃ shown, u.answer = .ok shown := by
    rcases List.mem_cons.mp hu with rfl | hlast
    · exact ⟨[], rfl⟩
    · rw [List.mem_singleton.mp hlast]
      exact ⟨content, hanswer⟩
  have hnoon : u.request.now = Sample.atNoon := by
    rcases List.mem_cons.mp hu with rfl | hlast
    · rfl
    · rw [List.mem_singleton.mp hlast]
      rfl
  obtain ⟨user, entry, -, hrecords, hrow⟩ := hshown u hu shown hanswered (by rw [hnoon]; decide)
  exact ⟨user, entry, hrecords, hrow⟩

end InquestsApi
