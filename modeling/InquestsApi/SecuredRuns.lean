import InquestsApi.ReadableHistory
import InquestsApi.Rbac
import InquestsApi.RequestBodies

/-! Runs of requests that come with a token: the dependencies of the writing routes let a request through
or refuse it, and what is committed goes back to users whose roles permit it. -/
namespace InquestsApi

open UnitOfWork HistoryEventRepository

/-- What is asked of the writing routes. The firm and the offices of a claim are those of the token,
whatever the command says. -/
inductive HttpBody where
  | createApplication (request : ApplicationCreate)
  | createClaim (command : CreateClaimCommand)
  | createNote (laaReference noteText : String)
  | payInFullClaim (command : PayInFullClaimCommand)
  | rejectClaim (command : RejectClaimCommand)
  | grantDecision (laaReference : String) (request : GrantApplicationUpdate)
  | updateApplicationPublicBodies (laaReference : String) (publicBodies : List PublicBodyId)
  | refuseDecision (laaReference : String) (request : RefuseApplicationUpdate)

/-- `require_permission_from` of the route. -/
def HttpBody.permission : HttpBody → Permission
  | .createApplication .. => .applicationCreate
  | .createClaim .. => .claimCreate
  | .createNote .. => .caseNoteCreate
  | .payInFullClaim .. => .claimManage
  | .rejectClaim .. => .claimManage
  | .grantDecision .. => .applicationManage
  | .updateApplicationPublicBodies .. => .applicationManage
  | .refuseDecision .. => .applicationManage

/-- The permission of the route that a request comes from, if it is not the job's. -/
def CaseRequest.permission : CaseRequest → Option Permission
  | .createApplication .. => some .applicationCreate
  | .grant .. => some .applicationManage
  | .refuse .. => some .applicationManage
  | .updatePublicBodies .. => some .applicationManage
  | .createNote .. => some .caseNoteCreate
  | .claim (.create _) => some .claimCreate
  | .claim (.payInFull _) => some .claimManage
  | .claim (.reject _) => some .claimManage
  | .sendApprovedEmails _ => none

structure HttpRequest where
  credentials : Credentials
  body : HttpBody
  env : Env
  faults : Faults

/-- `set_entra_user_context`. -/
def AuthenticatedUser.context (user : AuthenticatedUser) : EntraUser :=
  ⟨some user.name, user.entraObjectId, user.emailAddress⟩

section Routes

variable (allowedScopes : String)

def requirePermissionFrom (possiblePermissions : List Permission) (credentials : Credentials) :
    Except HttpError AuthenticatedUser := do
  let user ← verifyEntraToken allowedScopes credentials
  permissionChecker possiblePermissions (getCurrentUserPermissions user)
  pure user

namespace HttpRequest

/-- What the handler is called with, after the dependencies that only some handlers have. -/
def caseRequest (r : HttpRequest) : Except HttpError CaseRequest :=
  match r.body with
  | .createApplication request => do
    let firmCode ← getCurrentProviderFirmCode allowedScopes r.credentials
    let officeCodes ← getCurrentProviderOfficeCodes allowedScopes r.credentials
    pure (.createApplication request firmCode officeCodes)
  | .createClaim command => do
    let firmCode ← getCurrentProviderFirmCode allowedScopes r.credentials
    let officeCodes ← getCurrentProviderOfficeCodes allowedScopes r.credentials
    pure (.claim (.create { command with firmCode := firmCode, officeCodes := officeCodes }))
  | .createNote laaReference noteText => pure (.createNote laaReference noteText)
  | .payInFullClaim command => pure (.claim (.payInFull command))
  | .rejectClaim command => pure (.claim (.reject command))
  | .grantDecision laaReference request => pure (.grant laaReference request)
  | .updateApplicationPublicBodies laaReference publicBodies =>
    pure (.updatePublicBodies laaReference publicBodies)
  | .refuseDecision laaReference request => pure (.refuse laaReference request)

def submission (r : HttpRequest) : Except HttpError CaseSubmission := do
  let user ← requirePermissionFrom allowedScopes [r.body.permission] r.credentials
  let request ← r.caseRequest allowedScopes
  pure ⟨request, { r.env with user := user.context }, r.faults⟩

end HttpRequest

/-- A request, or the job, which needs no token. -/
inductive SecuredStep where
  | http (r : HttpRequest)
  | sendApprovedEmails (env : Env) (faults : Faults) (now : Datetime)

def SecuredStep.submission : SecuredStep → Except HttpError CaseSubmission
  | .http r => r.submission allowedScopes
  | .sendApprovedEmails env faults now => .ok ⟨.sendApprovedEmails now, env, faults⟩

/-- Every database that a run commits. A request that is refused commits nothing. -/
def committedBy : List SecuredStep → Store → List Store
  | [], db => [db]
  | step :: rest, db =>
    match step.submission allowedScopes with
    | .error _ => committedBy rest db
    | .ok r => db :: (r.session db).trail ++ committedBy rest (r.after db)

/-- The committed tables when the step has ended. -/
def SecuredStep.after (step : SecuredStep) (db : Store) : Store :=
  match step.submission allowedScopes with
  | .error _ => db
  | .ok r => r.after db

/-- The committed tables after these steps. -/
def ranTo (steps : List SecuredStep) (db : Store) : Store :=
  steps.foldl (fun db step => step.after allowedScopes db) db

end Routes

/-- A transaction of a run: the run has come to this step, and the step to its transaction. -/
inductive RunCommits (allowedScopes : String) (steps : List SecuredStep) (init : Store)
    (step : SecuredStep) (s s' : Store) : Prop
  | intro {before later : List SecuredStep} {r : CaseSubmission}
      (hsteps : steps = before ++ step :: later) (hsubmission : step.submission allowedScopes = .ok r)
      (hreached : Relation.ReflTransGen (Performs r.env r.faults r.request)
        (ranTo allowedScopes before init) s)
      (hlast : Performs r.env r.faults r.request s s') : RunCommits allowedScopes steps init step s s'

/-- A transaction of the step adds the event to the history. -/
def AddedIn (allowedScopes : String) (steps : List SecuredStep) (init : Store) (step : SecuredStep)
    (row : HistoryEvent) : Prop :=
  ∃ s s', RunCommits allowedScopes steps init step s s' ∧ row ∉ s.historyEvents ∧ row ∈ s'.historyEvents

/-- Whom an event of this kind is written for. -/
def actorTypeFor : HistoryEventReference → ActorType
  | .caseNoteAdded => .caseworker
  | .applicationSubmitted => .provider
  | .applicationAssessmentCompleted => .caseworker
  | .certificateCreated => .caseworker
  | .interestedPartyUpdated => .caseworker
  | .claimSubmitted => .provider
  | .claimAssessmentCompleted => .caseworker
  | _ => .system

/-- What a user must be permitted for a request that writes an event of this kind. -/
def permissionFor : HistoryEventReference → Permission
  | .caseNoteAdded => .caseNoteCreate
  | .applicationSubmitted => .applicationCreate
  | .applicationSubmissionConfirmation => .applicationCreate
  | .applicationAssessmentCompleted => .applicationManage
  | .certificateCreated => .applicationManage
  | .interestedPartyUpdated => .applicationManage
  | .applicationGrantedEmail => .applicationManage
  | .applicationGrantedLetter => .applicationManage
  | .applicationRefused => .applicationManage
  | .claimSubmitted => .claimCreate
  | .claimSubmissionConfirmation => .claimCreate
  | .poaAutoApproved => .claimCreate
  | .poaAutoRejected => .claimCreate
  | .claimAssessmentCompleted => .claimManage
  | .claimApprovedEmail => .claimManage
  | .claimRejectedEmail => .claimManage

/-- The row was written for the user of this request, who has a role that permits it and its route; a
caseworker is named in it, and whoever is not the system can be identified. -/
structure AttributedTo (allowedScopes : String) (r : HttpRequest) (row : HistoryEvent)
    (user : AuthenticatedUser) : Prop where
  verified : verifyEntraToken allowedScopes r.credentials = .ok user
  route : r.body.permission = permissionFor row.eventReference
  permitted : ∃ role : Role, role.value ∈ user.appRoles
    ∧ permissionFor row.eventReference ∈ role.permissions
  actorType : row.actorType = actorTypeFor row.eventReference
  named : row.actorType = .caseworker → row.actor = user.name ∧ isBlank row.actor = false
  identified : row.actorType ≠ .system →
    row.entraUserObjectId = user.entraObjectId ∧ row.actorEmailAddress = user.emailAddress

section Runs

variable {allowedScopes : String} {steps : List SecuredStep} {init s : Store} {r : HttpRequest}
variable {submission : CaseSubmission} {row : HistoryEvent}

theorem RunCommits.cons {step first : SecuredStep} {s s' : Store}
    (h : RunCommits allowedScopes steps (first.after allowedScopes init) step s s') :
    RunCommits allowedScopes (first :: steps) init step s s' := by
  cases h with
  | @intro before later _ hsteps hsubmission hreached hlast =>
      have hsteps : first :: steps = (first :: before) ++ step :: later := congrArg (first :: ·) hsteps
      exact .intro hsteps hsubmission hreached hlast

theorem RunCommits.mem {step : SecuredStep} {s s' : Store}
    (h : RunCommits allowedScopes steps init step s s') : step ∈ steps := by
  cases h with
  | intro hsteps _ _ _ =>
      rw [hsteps]
      exact List.mem_append_right _ List.mem_cons_self

/-- What each transaction of a run preserves holds in every database that the run commits. -/
theorem committedBy_transactions {I : Store → Prop} (hinit : I init)
    (hstep : ∀ step s s', RunCommits allowedScopes steps init step s s' → I s → I s') :
    ∀ s ∈ committedBy allowedScopes steps init, I s := by
  induction steps generalizing init with
  | nil => exact List.forall_mem_singleton.mpr hinit
  | cons step rest ih =>
      have hrest : I (step.after allowedScopes init) →
          ∀ s ∈ committedBy allowedScopes rest (step.after allowedScopes init), I s :=
        fun hdb => ih hdb fun other s s' h => hstep other s s' h.cons
      unfold SecuredStep.after at hrest
      unfold committedBy
      cases hsubmission : step.submission allowedScopes with
      | error e =>
          rw [hsubmission] at hrest
          exact hrest hinit
      | ok r =>
          rw [hsubmission] at hrest
          have hreaches : ∀ {s}, Relation.ReflTransGen (Performs r.env r.faults r.request) init s → I s := by
            intro s hsteps
            induction hsteps with
            | refl => exact hinit
            | tail hreached hlast hprevious =>
                have hsteps : step :: rest = [] ++ step :: rest := rfl
                exact hstep step _ _ (.intro hsteps hsubmission hreached hlast) hprevious
          obtain ⟨hcommitted, htrail⟩ := r.performs init
          intro s hs
          dsimp only at hs
          rw [List.cons_append] at hs
          rcases List.mem_cons.mp hs with rfl | hs
          · exact hinit
          rcases List.mem_append.mp hs with hs | hs
          · rcases htrail s hs with hnone | hsteps
            · exact absurd hnone List.not_mem_nil
            · exact hreaches hsteps
          · exact hrest (hreaches hcommitted) s hs

/-- What every body of a run's requests preserves holds in every database that the run commits. -/
theorem committedBy_invariant {I : Store → Prop} (hinit : I init)
    (hstep : ∀ step ∈ steps, ∀ r, step.submission allowedScopes = .ok r →
      ∀ s s', Performs r.env r.faults r.request s s' → I s → I s') :
    ∀ s ∈ committedBy allowedScopes steps init, I s := by
  refine committedBy_transactions hinit ?_
  intro step s s' hcommits
  have hmem := hcommits.mem
  cases hcommits with
  | intro _ hsubmission _ hlast => exact hstep step hmem _ hsubmission s s' hlast

theorem requirePermissionFrom_ok {possiblePermissions : List Permission} {credentials : Credentials}
    {user : AuthenticatedUser} :
    requirePermissionFrom allowedScopes possiblePermissions credentials = .ok user
      ↔ verifyEntraToken allowedScopes credentials = .ok user
        ∧ ∃ permission ∈ possiblePermissions, permission ∈ getCurrentUserPermissions user := by
  simp only [requirePermissionFrom, except_bind_ok, except_pure_ok, ← permissionChecker_ok]
  constructor
  · rintro ⟨found, hfound, _, hchecked, rfl⟩
    exact ⟨hfound, hchecked⟩
  · rintro ⟨hfound, hchecked⟩
    exact ⟨user, hfound, (), hchecked, rfl⟩

/-- A request that is let through is the token's user's, with the permission of its route. -/
theorem HttpRequest.submission_ok (h : r.submission allowedScopes = .ok submission) :
    ∃ user, verifyEntraToken allowedScopes r.credentials = .ok user
      ∧ (∃ role : Role, role.value ∈ user.appRoles ∧ r.body.permission ∈ role.permissions)
      ∧ r.caseRequest allowedScopes = .ok submission.request
      ∧ submission.env.user = user.context := by
  simp only [HttpRequest.submission, except_bind_ok, except_pure_ok, requirePermissionFrom_ok,
    List.mem_singleton] at h
  obtain ⟨user, ⟨hverified, _, rfl, hpermitted⟩, request, hrequest, rfl⟩ := h
  exact ⟨user, hverified, mem_getCurrentUserPermissions.mp hpermitted, hrequest, rfl⟩

theorem HttpRequest.caseRequest_ok {request : CaseRequest}
    (h : r.caseRequest allowedScopes = .ok request) : request.permission = some r.body.permission := by
  obtain ⟨credentials, body, env, faults⟩ := r
  cases body <;> simp only [HttpRequest.caseRequest, except_bind_ok, except_pure_ok] at h
  case createApplication request =>
    obtain ⟨firmCode, -, officeCodes, -, rfl⟩ := h
    rfl
  case createClaim command =>
    obtain ⟨firmCode, -, officeCodes, -, rfl⟩ := h
    rfl
  all_goals
    subst h
    rfl

/-- The events that a request writes are of the kinds that its permission stands behind. -/
theorem eventKinds_permitted {request : CaseRequest} {permission : Permission}
    (h : request.permission = some permission) : ∀ kind ∈ eventKinds request,
      kind.2 = actorTypeFor kind.1 ∧ permissionFor kind.1 = permission := by
  cases request with
  | claim request =>
      cases request <;>
        · cases h
          simp only [eventKinds]
          decide
  | sendApprovedEmails now => cases h
  | _ =>
      cases h
      simp only [eventKinds]
      decide

/-- What a request that is let through writes is attributed to it. -/
theorem RecordedBy.attributed (hsubmission : r.submission allowedScopes = .ok submission)
    (h : RecordedBy submission.request submission.env.user row) :
    ∃ user, AttributedTo allowedScopes r row user := by
  obtain ⟨user, hverified, ⟨role, hrole, hpermission⟩, hrequest, huser⟩ := r.submission_ok hsubmission
  obtain ⟨htype, hpermitted⟩ := eventKinds_permitted (r.caseRequest_ok hrequest) _ h.kind
  have hnamed := h.named
  have hidentified := h.identified
  rw [huser] at hnamed hidentified
  refine ⟨user, hverified, hpermitted.symm, ⟨role, hrole, hpermitted ▸ hpermission⟩, htype, ?_,
    hidentified⟩
  intro hcaseworker
  obtain ⟨hname, hblank⟩ := hnamed hcaseworker
  exact ⟨(Option.some.inj hname).symm, hblank⟩

/-- Where an event of a run comes from. -/
theorem committedBy_events : ∀ s ∈ committedBy allowedScopes steps init, ∀ row ∈ s.historyEvents,
    row ∈ init.historyEvents
      ∨ (∃ r user, AddedIn allowedScopes steps init (.http r) row ∧ AttributedTo allowedScopes r row user)
      ∨ ∃ env faults now, AddedIn allowedScopes steps init (.sendApprovedEmails env faults now) row
        ∧ row.eventReference = .claimApprovedEmail ∧ row.actorType = .system := by
  refine committedBy_transactions (fun row hrow => Or.inl hrow) ?_
  intro step s s' hcommits hs row hrow
  by_cases hold : row ∈ s.historyEvents
  · exact hs row hold
  have hadded : AddedIn allowedScopes steps init step row := ⟨s, s', hcommits, hold, hrow⟩
  cases hcommits with
  | intro _ hsubmission _ hlast =>
      obtain ⟨rows, happended, hrecorded⟩ := hlast.rows
      rw [happended] at hrow
      have hrow := hrecorded row ((List.mem_append.mp hrow).resolve_left hold)
      cases step with
      | http r =>
          obtain ⟨user, huser⟩ := hrow.attributed hsubmission
          exact Or.inr (Or.inl ⟨r, user, hadded, huser⟩)
      | sendApprovedEmails env faults now =>
          cases hsubmission
          have hkind := List.mem_singleton.mp hrow.kind
          rw [Prod.mk.injEq] at hkind
          exact Or.inr (Or.inr ⟨env, faults, now, hadded, hkind⟩)

/-- **Attribution.** In every database that a run commits, whatever its requests ask for, whatever their
tokens say and whatever fails, each event that was not there before was added by a transaction of a request
of the run: its token has a role that permits the route and the event, a caseworker's event names the user
of the token, and the event of a caseworker or a provider carries the token's object id and address. The
only other events are the job's records of the messages that it sent. -/
theorem history_attributed (allowedScopes : String) (steps : List SecuredStep) (init : Store) :
    ∀ s ∈ committedBy allowedScopes steps init, ∀ row ∈ s.historyEvents,
      row ∈ init.historyEvents
        ∨ (∃ r user, AddedIn allowedScopes steps init (.http r) row
          ∧ AttributedTo allowedScopes r row user)
        ∨ ∃ env faults now, AddedIn allowedScopes steps init (.sendApprovedEmails env faults now) row
          ∧ row.eventReference = .claimApprovedEmail ∧ row.actorType = .system :=
  committedBy_events

end Runs

namespace Sample

def scopes : String := "User.Provider, User.Caseworker"

def providerToken : TokenPayload where
  scp := some "User.Provider"
  roles := none
  laaAppRoles := .text "Inquests - Provider Application User; Inquests - Provider Claims User"
  accounts := .single (some "O1")
  firmCode := some "F1"
  name := some "Pat - [MOJ] Provider"
  oid := some "provider-id"
  preferredUsername := some "provider@example.com"

def caseworkerToken : TokenPayload where
  scp := some "User.Caseworker"
  roles := none
  laaAppRoles := .items [some "Inquests - Applications caseworker", none]
  accounts := .items []
  firmCode := none
  name := some "Case  Worker -[LAA]"
  oid := some "caseworker-id"
  preferredUsername := none

def request (token : TokenPayload) (body : HttpBody) : SecuredStep :=
  .http ⟨some (some token), body, env, noFaults⟩

/-- A provider applies and is not permitted to grant it, a caseworker grants it and the provider claims. -/
def securedSteps : List SecuredStep :=
  [request providerToken (.createApplication (created providerClient)),
    request providerToken (.grantDecision "INQ-AAA-CCC" ⟨date⟩),
    request caseworkerToken (.grantDecision "INQ-AAA-CCC" ⟨date⟩),
    request providerToken (.createClaim
      { poaCommand .profitCost (some 100) (some 120) none with laaReference := "INQ-AAA-CCC" })]

end Sample

theorem history_attributed_granted :
    ∃ s ∈ committedBy Sample.scopes Sample.securedSteps (.initial [] [] []), ∃ row ∈ s.historyEvents,
      row.actor = "Case Worker"
        ∧ ∃ r user, AddedIn Sample.scopes Sample.securedSteps (.initial [] [] []) (.http r) row
          ∧ AttributedTo Sample.scopes r row user := by
  have hgrants : ((committedBy Sample.scopes Sample.securedSteps (.initial [] [] [])).any fun s =>
      s.historyEvents.any fun row => row.actor = "Case Worker" ∧ row.actorType ≠ .system) = true := by
    decide +kernel
  obtain ⟨s, hs, hevents⟩ := List.any_eq_true.mp hgrants
  obtain ⟨row, hrow, hactor⟩ := List.any_eq_true.mp hevents
  obtain ⟨hname, hperson⟩ := of_decide_eq_true hactor
  refine ⟨s, hs, row, hrow, hname, ?_⟩
  rcases history_attributed Sample.scopes Sample.securedSteps _ s hs row hrow with hold | hhttp | hjob
  · exact absurd hold List.not_mem_nil
  · exact hhttp
  · obtain ⟨_, _, _, _, _, hsystem⟩ := hjob
    exact absurd hsystem hperson

end InquestsApi
