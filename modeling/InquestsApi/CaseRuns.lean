import InquestsApi.ApplicationTransactions
import InquestsApi.AutoApprovedEmails
import InquestsApi.CertificateFrame
import InquestsApi.ClaimRuns

/-! Runs of every request that writes about a case, one after another, with any port failing
anywhere: whatever a run commits is reached by the bodies below, so an invariant of the
database is proved once for each of them. -/
namespace InquestsApi

open UnitOfWork HistoryEventRepository

namespace CreateApplicationUseCase

/-- Both bodies of a creation, as one. -/
def createBody (env : Env) (faults : Faults) (request : ApplicationCreate) (firmCode : String)
    (userOfficeCodes : List String) : Transaction Application := do
  let application ← ApplicationRepository.createApplication env faults request firmCode
  submitApplication env faults request application userOfficeCodes
  pure application

end CreateApplicationUseCase

/-- A claim of a request while the request goes on, and the application that it is of. -/
structure Pursued (prepared : PreparedClaim) (claim : Claim) (s : Store) : Prop where
  standing : Standing prepared claim s
  application : prepared.application ∈ s.applications
  claimOf : claim.applicationId = prepared.application.applicationId

/-- What is asked of the requests of a run: of the applications that are created, and of the
applications that are refused. -/
structure CasePermissions where
  creates : ApplicationCreate → Prop
  refuses : Application → Prop

/-- One committed transaction: a body that ends normally, where its request let it run. -/
inductive CaseTransacts (permitted : CasePermissions) : Store → Store → Prop
  | creation {env : Env} {faults : Faults} {request : ApplicationCreate} {firmCode : String}
      {userOfficeCodes : List String} {application : Application} {t t' : Txn Store Notification}
      (hpermitted : permitted.creates request)
      (h : CreateApplicationUseCase.createBody env faults request firmCode userOfficeCodes t
        = .ok application t') : CaseTransacts permitted t.store t'.store
  | grant {env : Env} {faults : Faults} {laaReference : String} {request : GrantApplicationUpdate}
      {application : Application} {u : Unit} {t t' : Txn Store Notification}
      (hfound : findDecidedApplication laaReference t.store = .ok application)
      (h : GrantDecisionUseCase.grantBody env faults request application t = .ok u t') :
      CaseTransacts permitted t.store t'.store
  | refusal {env : Env} {faults : Faults} {laaReference : String}
      {request : RefuseApplicationUpdate} {application : Application} {u : Unit}
      {t t' : Txn Store Notification}
      (hfound : findDecidedApplication laaReference t.store = .ok application)
      (hpermitted : permitted.refuses application)
      (h : RefuseDecisionUseCase.refuseBody env faults request application t = .ok u t') :
      CaseTransacts permitted t.store t'.store
  | publicBodies {env : Env} {faults : Faults} {laaReference : String}
      {publicBodyIds : List PublicBodyId} {application : Application} {u : Unit}
      {t t' : Txn Store Notification}
      (hchecked : UpdatePublicBodiesUseCase.checkUpdate publicBodyIds laaReference t.store
        = .ok application)
      (h : UpdatePublicBodiesUseCase.updatePublicBodies env faults publicBodyIds application t
        = .ok u t') : CaseTransacts permitted t.store t'.store
  | note {env : Env} {faults : Faults} {laaReference noteText : String} {application : Application}
      {u : Unit} {t t' : Txn Store Notification}
      (hfound : findDecidedApplication laaReference t.store = .ok application)
      (h : createHistoryEvent env faults (CreateNoteUseCase.noteEvent env noteText application) t
        = .ok u t') : CaseTransacts permitted t.store t'.store
  | submission {env : Env} {faults : Faults} {command : CreateClaimCommand}
      {prepared : PreparedClaim} {claim : Claim} {t t' : Txn Store Notification}
      (hprepared : CreateClaim.prepare command t.store = .ok prepared)
      (h : CreateClaim.submitClaim env faults command prepared t = .ok claim t') :
      CaseTransacts permitted t.store t'.store
  | confirmation {env : Env} {faults : Faults} {prepared : PreparedClaim} {claim : Claim} {u : Unit}
      {t t' : Txn Store Notification} (hpursued : Pursued prepared claim t.store)
      (h : CreateClaim.confirmSubmission env faults prepared claim t = .ok u t') :
      CaseTransacts permitted t.store t'.store
  | autoRejection {env : Env} {faults : Faults} {prepared : PreparedClaim} {claim : Claim}
      {reasonCodes : List ReasonCode} {u : Unit} {t t' : Txn Store Notification}
      (hpursued : Pursued prepared claim t.store)
      (houtcome : CreateClaim.autoOutcome env prepared = some (.reject reasonCodes))
      (h : CreateClaim.autoRejectClaim env faults prepared claim reasonCodes t = .ok u t') :
      CaseTransacts permitted t.store t'.store
  | autoApproval {env : Env} {faults : Faults} {prepared : PreparedClaim} {claim : Claim} {u : Unit}
      {t t' : Txn Store Notification} (hpursued : Pursued prepared claim t.store)
      (houtcome : CreateClaim.autoOutcome env prepared = some .approve)
      (h : CreateClaim.autoApproveClaim env faults prepared claim t = .ok u t') :
      CaseTransacts permitted t.store t'.store
  | payment {env : Env} {faults : Faults} {command : PayInFullClaimCommand}
      {application : Application} {u : Unit} {t t' : Txn Store Notification}
      (hfound : findDecidedApplication command.laaReference t.store = .ok application)
      (h : PayInFullClaimUseCase.payClaim env faults command application t = .ok u t') :
      CaseTransacts permitted t.store t'.store
  | rejection {env : Env} {faults : Faults} {command : RejectClaimCommand}
      {application : Application} {claim : Claim} {t t' : Txn Store Notification}
      (hfound : findDecidedApplication command.laaReference t.store = .ok application)
      (h : RejectClaimUseCase.rejectClaim env faults command application t = .ok claim t') :
      CaseTransacts permitted t.store t'.store
  | approvedEmail {env : Env} {faults : Faults} {claim : Claim} {application : Application}
      {u : Unit} {t t' : Txn Store Notification}
      (hawaiting : SendAutoApprovedPoaClaimEmailsUseCase.awaitingEmail claim t.store
        = .ok (some application))
      (h : SendAutoApprovedPoaClaimEmailsUseCase.sendApprovedEmail env faults claim application t
        = .ok u t') : CaseTransacts permitted t.store t'.store

inductive CaseRequest where
  | createApplication (request : ApplicationCreate) (firmCode : String)
      (userOfficeCodes : List String)
  | grant (laaReference : String) (request : GrantApplicationUpdate)
  | refuse (laaReference : String) (request : RefuseApplicationUpdate)
  | updatePublicBodies (laaReference : String) (publicBodyIds : List PublicBodyId)
  | createNote (laaReference noteText : String)
  | claim (request : ClaimRequest)
  | sendApprovedEmails (now : Datetime)

/-- A request as it meets its surroundings. -/
structure CaseSubmission where
  request : CaseRequest
  env : Env
  faults : Faults

namespace CaseSubmission

/-- The session of a request against a database, when the request has ended. -/
def session (r : CaseSubmission) (db : Store) : Session Store Notification OrmObject :=
  match r.request with
  | .createApplication request firmCode userOfficeCodes =>
    endState (CreateApplicationUseCase.execute r.env r.faults request firmCode userOfficeCodes
      (.start db))
  | .grant laaReference request =>
    endState (GrantDecisionUseCase.execute r.env r.faults laaReference request (.start db))
  | .refuse laaReference request =>
    endState (RefuseDecisionUseCase.execute r.env r.faults laaReference request (.start db))
  | .updatePublicBodies laaReference publicBodyIds =>
    endState (UpdatePublicBodiesUseCase.execute r.env r.faults publicBodyIds laaReference (.start db))
  | .createNote laaReference noteText =>
    endState (CreateNoteUseCase.execute r.env r.faults noteText laaReference (.start db))
  | .claim request => Submission.session ⟨request, r.env, r.faults⟩ db
  | .sendApprovedEmails now =>
    endState (SendAutoApprovedPoaClaimEmailsUseCase.execute r.env r.faults now (.start db))

/-- What the request leaves in the database. -/
def after (r : CaseSubmission) (db : Store) : Store := (r.session db).committed

/-- What is asked of a creation or a refusal that goes through. -/
def Permitted (permitted : CasePermissions) (db : Store) (r : CaseSubmission) : Prop :=
  match r.request with
  | .createApplication request firmCode userOfficeCodes =>
    ∀ application t t', t.store = db → r.faults (.commit .application) = none →
      CreateApplicationUseCase.createBody r.env r.faults request firmCode userOfficeCodes t
        = .ok application t' → permitted.creates request
  | .refuse laaReference request =>
    ∀ application u t t', t.store = db → r.faults (.commit .decision) = none →
      findDecidedApplication laaReference db = .ok application →
        RefuseDecisionUseCase.refuseBody r.env r.faults request application t = .ok u t' →
          permitted.refuses application
  | _ => True

/-- Nothing is asked of any request. -/
def anyCase : CasePermissions := ⟨fun _ => True, fun _ => True⟩

theorem anyCase_permitted (db : Store) (r : CaseSubmission) : r.Permitted anyCase db := by
  obtain ⟨request, env, faults⟩ := r
  cases request with
  | createApplication request firmCode userOfficeCodes => exact fun _ _ _ _ _ _ => trivial
  | refuse laaReference request => exact fun _ _ _ _ _ _ _ _ => trivial
  | _ => trivial

end CaseSubmission

/-- One transaction that a request commits. -/
inductive Performs (env : Env) (faults : Faults) : CaseRequest → Store → Store → Prop
  | creation {request : ApplicationCreate} {firmCode : String} {userOfficeCodes : List String}
      {application : Application} {t t' : Txn Store Notification}
      (h : CreateApplicationUseCase.createBody env faults request firmCode userOfficeCodes t
        = .ok application t') :
      Performs env faults (.createApplication request firmCode userOfficeCodes) t.store t'.store
  | grant {laaReference : String} {request : GrantApplicationUpdate} {application : Application}
      {u : Unit} {t t' : Txn Store Notification}
      (hfound : findDecidedApplication laaReference t.store = .ok application)
      (h : GrantDecisionUseCase.grantBody env faults request application t = .ok u t') :
      Performs env faults (.grant laaReference request) t.store t'.store
  | refusal {laaReference : String} {request : RefuseApplicationUpdate} {application : Application}
      {u : Unit} {t t' : Txn Store Notification}
      (hfound : findDecidedApplication laaReference t.store = .ok application)
      (h : RefuseDecisionUseCase.refuseBody env faults request application t = .ok u t') :
      Performs env faults (.refuse laaReference request) t.store t'.store
  | publicBodies {laaReference : String} {publicBodyIds : List PublicBodyId} {application : Application}
      {u : Unit} {t t' : Txn Store Notification}
      (hchecked : UpdatePublicBodiesUseCase.checkUpdate publicBodyIds laaReference t.store
        = .ok application)
      (h : UpdatePublicBodiesUseCase.updatePublicBodies env faults publicBodyIds application t
        = .ok u t') : Performs env faults (.updatePublicBodies laaReference publicBodyIds) t.store t'.store
  | note {laaReference noteText : String} {application : Application} {u : Unit}
      {t t' : Txn Store Notification}
      (hfound : findDecidedApplication laaReference t.store = .ok application)
      (h : createHistoryEvent env faults (CreateNoteUseCase.noteEvent env noteText application) t
        = .ok u t') : Performs env faults (.createNote laaReference noteText) t.store t'.store
  | submission {command : CreateClaimCommand} {prepared : PreparedClaim} {claim : Claim}
      {t t' : Txn Store Notification} (hprepared : CreateClaim.prepare command t.store = .ok prepared)
      (h : CreateClaim.submitClaim env faults command prepared t = .ok claim t') :
      Performs env faults (.claim (.create command)) t.store t'.store
  | confirmation {command : CreateClaimCommand} {prepared : PreparedClaim} {claim : Claim} {u : Unit}
      {t t' : Txn Store Notification} (hpursued : Pursued prepared claim t.store)
      (h : CreateClaim.confirmSubmission env faults prepared claim t = .ok u t') :
      Performs env faults (.claim (.create command)) t.store t'.store
  | autoRejection {command : CreateClaimCommand} {prepared : PreparedClaim} {claim : Claim}
      {reasonCodes : List ReasonCode} {u : Unit} {t t' : Txn Store Notification}
      (hpursued : Pursued prepared claim t.store)
      (houtcome : CreateClaim.autoOutcome env prepared = some (.reject reasonCodes))
      (h : CreateClaim.autoRejectClaim env faults prepared claim reasonCodes t = .ok u t') :
      Performs env faults (.claim (.create command)) t.store t'.store
  | autoApproval {command : CreateClaimCommand} {prepared : PreparedClaim} {claim : Claim} {u : Unit}
      {t t' : Txn Store Notification} (hpursued : Pursued prepared claim t.store)
      (houtcome : CreateClaim.autoOutcome env prepared = some .approve)
      (h : CreateClaim.autoApproveClaim env faults prepared claim t = .ok u t') :
      Performs env faults (.claim (.create command)) t.store t'.store
  | payment {command : PayInFullClaimCommand} {application : Application} {u : Unit}
      {t t' : Txn Store Notification}
      (hfound : findDecidedApplication command.laaReference t.store = .ok application)
      (h : PayInFullClaimUseCase.payClaim env faults command application t = .ok u t') :
      Performs env faults (.claim (.payInFull command)) t.store t'.store
  | rejection {command : RejectClaimCommand} {application : Application} {claim : Claim}
      {t t' : Txn Store Notification}
      (hfound : findDecidedApplication command.laaReference t.store = .ok application)
      (h : RejectClaimUseCase.rejectClaim env faults command application t = .ok claim t') :
      Performs env faults (.claim (.reject command)) t.store t'.store
  | approvedEmail {now : Datetime} {index : ℕ} {claim : Claim} {application : Application} {u : Unit}
      {t t' : Txn Store Notification}
      (hawaiting : SendAutoApprovedPoaClaimEmailsUseCase.awaitingEmail claim t.store
        = .ok (some application))
      (h : SendAutoApprovedPoaClaimEmailsUseCase.sendApprovedEmail (env.ofClaim index)
        (faults.ofClaim index) claim application t = .ok u t') :
      Performs env faults (.sendApprovedEmails now) t.store t'.store

/-- A creation and a refusal have one transaction, on the database that the request begins with. -/
def CaseSubmission.Opens (db : Store) (r : CaseSubmission) (s : Store) : Prop :=
  match r.request with
  | .createApplication .. => s = db ∧ r.faults (.commit .application) = none
  | .refuse .. => s = db ∧ r.faults (.commit .decision) = none
  | _ => True

section Requests

variable {env : Env} {faults : Faults} {laaReference : String} {P : Store → Prop}

theorem getApplication_triple {R : Store → Store → Prop} : Uow.Triple R P
    (getApplication laaReference)
    (fun application db => findDecidedApplication laaReference db = .ok application ∧ P db) := by
  refine .bind .check fun application => ?_
  refine .bind .read fun _ => ?_
  exact .pure fun _ h => h

theorem creation_of_body {R : Store → Store → Prop} {request : ApplicationCreate} {firmCode : String}
    {userOfficeCodes : List String}
    (hbody : ∀ application t t', P t.store → faults (.commit .application) = none →
      CreateApplicationUseCase.createBody env faults request firmCode userOfficeCodes t
        = .ok application t' → R t.store t'.store) :
    Uow.Triple R P (CreateApplicationUseCase.execute env faults request firmCode userOfficeCodes)
      (fun _ _ => True) := by
  refine Uow.Triple.staged (K := fun _ _ => True) ?_ ?_ ?_
  · intro t application t₁ u t' hP hcreate hsubmit hnone
    have hcreated : CreateApplicationUseCase.createBody env faults request firmCode userOfficeCodes t
        = .ok application t' :=
      bind_ok.mpr ⟨application, t₁, hcreate, bind_ok.mpr ⟨u, t', hsubmit, rfl⟩⟩
    have hcommits : faults (.commit .application) = none := Option.map_eq_none_iff.mp hnone
    exact ⟨hbody application t t' hP hcommits hcreated, trivial⟩
  · intro application u
    exact .bind .read fun _ => .pure fun _ h => h
  · exact fun _ e => Uow.rollback_then_throw_refuses e

/-- A decision commits its two bodies as one. -/
theorem decision_triple {R : Store → Store → Prop} {first second : Application → Transaction Unit}
    {refusal : ApiError}
    (hbody : ∀ application t u t', findDecidedApplication laaReference t.store = .ok application →
      P t.store → faults (.commit .decision) = none →
      (do first application; second application : Transaction Unit) t = .ok u t' →
        R t.store t'.store) :
    Uow.Triple R P (do
      let application ← getApplication laaReference
      Uow.transact (first application)
      sendDecision faults (second application) refusal) (fun _ _ => True) := by
  refine .bind getApplication_triple fun application => ?_
  refine Uow.Triple.staged (K := fun _ _ => True) ?_ ?_ ?_
  · rintro t v t₁ u t' ⟨hfound, hP⟩ hfirst hsecond hnone
    have hcommits : faults (.commit .decision) = none := Option.map_eq_none_iff.mp hnone
    exact ⟨hbody application t u t' hfound hP hcommits (bind_ok.mpr ⟨v, t₁, hfirst, hsecond⟩), trivial⟩
  · exact fun _ _ => .commit
  · exact fun _ _ => Uow.read_rollback_throw_refuses _ _

theorem publicBodies_of_body {R : Store → Store → Prop} {publicBodyIds : List PublicBodyId}
    (hbody : ∀ application t u t',
      UpdatePublicBodiesUseCase.checkUpdate publicBodyIds laaReference t.store = .ok application →
        UpdatePublicBodiesUseCase.updatePublicBodies env faults publicBodyIds application t = .ok u t' →
          R t.store t'.store) :
    Uow.Triple R P (UpdatePublicBodiesUseCase.execute env faults publicBodyIds laaReference)
      (fun _ _ => True) := by
  refine .bind .check fun application => ?_
  refine .orRollback (.inTransaction ?_)
  rintro t u t' ⟨hchecked, -⟩ h
  exact ⟨hbody application t u t' hchecked h, trivial⟩

theorem note_of_body {R : Store → Store → Prop} {noteText : String}
    (hbody : ∀ application t u t', findDecidedApplication laaReference t.store = .ok application →
      createHistoryEvent env faults (CreateNoteUseCase.noteEvent env noteText application) t = .ok u t' →
        R t.store t'.store) :
    Uow.Triple R P (CreateNoteUseCase.execute env faults noteText laaReference) (fun _ _ => True) := by
  refine .bind getApplication_triple fun application => ?_
  refine Uow.Triple.refuse (.inTransaction ?_) fun e => Uow.read_rollback_throw_refuses _ e
  rintro t u t' ⟨hfound, -⟩ h
  exact ⟨hbody application t u t' hfound h, trivial⟩

end Requests

section ClaimRequests

variable {env : Env} {faults : Faults} {prepared : PreparedClaim} {claim : Claim} {db : Store}

theorem prepare_application {command : CreateClaimCommand} {db : Store}
    (h : CreateClaim.prepare command db = .ok prepared) :
    prepared.application ∈ db.applications := by
  have happlication := (CreateClaim.prepare_ok h).application
  unfold CreateClaim.findApplication at happlication
  split at happlication
  · cases happlication
  · rename_i found hfound
    have hmem : found ∈ db.applications := List.mem_of_find?_eq_some hfound
    split_ifs at happlication
    cases happlication
    exact hmem

theorem submitClaim_pursued {command : CreateClaimCommand} {t t' : Txn Store Notification}
    (hprepared : CreateClaim.prepare command t.store = .ok prepared)
    (h : CreateClaim.submitClaim env faults command prepared t = .ok claim t') :
    Pursued prepared claim t'.store := by
  have hsubmitted := submitClaim_ok h
  refine ⟨hsubmitted.standing (prepare_noActiveFinalBill hprepared), ?_, hsubmitted.stored.applicationId⟩
  rw [hsubmitted.applications]
  exact prepare_application hprepared

theorem Pursued.note {s s' : Store} (h : Pursued prepared claim s) (hn : Noted s s') :
    Pursued prepared claim s' := by
  refine ⟨h.standing.note hn, ?_, h.claimOf⟩
  obtain ⟨events, rfl⟩ := hn
  exact h.application

theorem createClaim_performs {command : CreateClaimCommand} :
    Uow.Triple (Performs env faults (.claim (.create command))) (fun _ => True)
      (CreateClaim.execute env faults command) (fun _ _ => True) := by
  refine .bind .check fun prepared => ?_
  refine .bind (Q := Pursued prepared) (submit_triple ?_) fun claim => ?_
  · rintro t claim t' ⟨hprepared, -⟩ h
    exact ⟨.submission hprepared h, submitClaim_pursued hprepared h⟩
  refine .bind (Q := fun _ => Pursued prepared claim) (confirmation_triple ?_) fun _ => ?_
  · intro t u t' hpursued h
    exact ⟨.confirmation hpursued h, hpursued.note (confirmSubmission_ok h)⟩
  refine decide_of_bodies ?_ ?_ (fun _ _ => trivial) fun _ _ => trivial
  · intro reasonCodes t u t' houtcome hpursued h
    exact ⟨.autoRejection hpursued houtcome h, trivial⟩
  · intro t u t' houtcome hpursued h
    exact ⟨.autoApproval hpursued houtcome h, trivial⟩

open SendAutoApprovedPoaClaimEmailsUseCase in
theorem sendApprovedEmails_performs {now : Datetime} :
    (Session.start db).Extends (Performs env faults (.sendApprovedEmails now))
      (endState (execute env faults now (.start db))) := by
  refine execute_invariant (fun s loaded h => h.trans (.of_same rfl rfl)) ?_ (.of_same rfl rfl)
  intro n claim s s' hprocessed h
  refine h.trans ?_
  cases hprocessed with
  | untouched hcommitted htrail _ => exact .of_same hcommitted htrail
  | unrecorded application hcommitted htrail _ => exact .of_same hcommitted htrail
  | told application t' hawaiting hbody hcommitted htrail _ =>
      have hstep : Performs env faults (.sendApprovedEmails now) s.committed t'.store :=
        .approvedEmail hawaiting hbody
      rw [← hcommitted] at hstep
      refine ⟨.single hstep, ?_⟩
      intro x hx
      rw [htrail, ← hcommitted] at hx
      rcases List.mem_cons.mp hx with rfl | hx
      · exact Or.inr (.single hstep)
      · exact Or.inl hx

end ClaimRequests

/-- The databases between the requests of a run whose requests are all admitted. -/
inductive CaseRun (admitted : Store → CaseSubmission → Prop) (init : Store) : Store → Prop
  | start : CaseRun admitted init init
  | request {db : Store} (r : CaseSubmission) (h : CaseRun admitted init db) (hr : admitted db r) :
      CaseRun admitted init (r.after db)

/-- The states a run commits, between its requests or within one. -/
def CaseCommitted (admitted : Store → CaseSubmission → Prop) (init s : Store) : Prop :=
  ∃ db, CaseRun admitted init db
    ∧ (s = db ∨ ∃ r, admitted db r ∧ s ∈ (r.session db).trail)

section Runs

variable {permitted : CasePermissions} {init s db : Store}
variable {admitted admitted' : Store → CaseSubmission → Prop}

theorem CaseRun.mono (hadmitted : ∀ db r, admitted db r → admitted' db r)
    (h : CaseRun admitted init db) : CaseRun admitted' init db := by
  induction h with
  | start => exact .start
  | request r _ hr ih => exact .request r ih (hadmitted _ r hr)

theorem CaseCommitted.mono (hadmitted : ∀ db r, admitted db r → admitted' db r)
    (h : CaseCommitted admitted init s) : CaseCommitted admitted' init s := by
  obtain ⟨db, hdb, hs⟩ := h
  refine ⟨db, hdb.mono hadmitted, ?_⟩
  rcases hs with hs | ⟨r, hr, hmem⟩
  · exact Or.inl hs
  · exact Or.inr ⟨r, hadmitted db r hr, hmem⟩

/-- Whatever a request commits, between its transactions or at its end, its bodies have done. -/
theorem CaseSubmission.performs_opening (r : CaseSubmission) (db : Store) :
    (Session.start db).Extends (fun s s' => Performs r.env r.faults r.request s s' ∧ r.Opens db s)
      (r.session db) := by
  have hstart : (Session.start db : Session Store Notification OrmObject).Clean := Session.start_clean db
  obtain ⟨request, env, faults⟩ := r
  cases request with
  | createApplication request firmCode userOfficeCodes =>
      refine Uow.Triple.ends (P := (· = db)) (creation_of_body ?_) hstart rfl
      exact fun application t t' hdb hcommits hbody => ⟨.creation hbody, hdb, hcommits⟩
  | grant laaReference request =>
      refine Uow.Triple.ends (P := (· = db)) (decision_triple ?_) hstart rfl
      exact fun application t u t' hfound _ _ hbody => ⟨.grant hfound hbody, trivial⟩
  | refuse laaReference request =>
      refine Uow.Triple.ends (P := (· = db)) (decision_triple ?_) hstart rfl
      exact fun application t u t' hfound hdb hcommits hbody => ⟨.refusal hfound hbody, hdb, hcommits⟩
  | updatePublicBodies laaReference publicBodyIds =>
      refine Uow.Triple.ends (P := (· = db)) (publicBodies_of_body ?_) hstart rfl
      exact fun application t u t' hchecked h => ⟨.publicBodies hchecked h, trivial⟩
  | createNote laaReference noteText =>
      refine Uow.Triple.ends (P := (· = db)) (note_of_body ?_) hstart rfl
      exact fun application t u t' hfound h => ⟨.note hfound h, trivial⟩
  | sendApprovedEmails now => exact sendApprovedEmails_performs.mono fun _ _ h => ⟨h, trivial⟩
  | claim request =>
      cases request with
      | create command =>
          exact (createClaim_performs.ends hstart trivial).mono fun _ _ h => ⟨h, trivial⟩
      | payInFull command =>
          refine Uow.Triple.ends (P := (· = db)) (payment_of_body ?_) hstart rfl
          exact fun application t u t' hfound _ h => ⟨.payment hfound h, trivial⟩
      | reject command =>
          refine Uow.Triple.ends (P := (· = db)) (rejection_of_body ?_) hstart rfl
          exact fun application t claim t' hfound _ h => ⟨.rejection hfound h, trivial⟩

theorem CaseSubmission.performs (r : CaseSubmission) (db : Store) :
    (Session.start db).Extends (Performs r.env r.faults r.request) (r.session db) :=
  (r.performs_opening db).mono fun _ _ h => h.1

theorem Performs.transacts {env : Env} {faults : Faults} {request : CaseRequest} {s' : Store}
    (h : Performs env faults request s s')
    (hcreates : ∀ given firmCode userOfficeCodes application t t',
      request = .createApplication given firmCode userOfficeCodes → t.store = s →
        CreateApplicationUseCase.createBody env faults given firmCode userOfficeCodes t
          = .ok application t' → permitted.creates given)
    (hrefuses : ∀ laaReference given application u t t', request = .refuse laaReference given →
      t.store = s → findDecidedApplication laaReference s = .ok application →
        RefuseDecisionUseCase.refuseBody env faults given application t = .ok u t' →
          permitted.refuses application) : CaseTransacts permitted s s' := by
  cases h with
  | creation h => exact .creation (hcreates _ _ _ _ _ _ rfl rfl h) h
  | grant hfound h => exact .grant hfound h
  | refusal hfound h => exact .refusal hfound (hrefuses _ _ _ _ _ _ rfl rfl hfound h) h
  | publicBodies hchecked h => exact .publicBodies hchecked h
  | note hfound h => exact .note hfound h
  | submission hprepared h => exact .submission hprepared h
  | confirmation hpursued h => exact .confirmation hpursued h
  | autoRejection hpursued houtcome h => exact .autoRejection hpursued houtcome h
  | autoApproval hpursued houtcome h => exact .autoApproval hpursued houtcome h
  | payment hfound h => exact .payment hfound h
  | rejection hfound h => exact .rejection hfound h
  | approvedEmail hawaiting h => exact .approvedEmail hawaiting h

theorem Performs.anyCase {env : Env} {faults : Faults} {request : CaseRequest} {s' : Store}
    (h : Performs env faults request s s') : CaseTransacts CaseSubmission.anyCase s s' :=
  h.transacts (fun _ _ _ _ _ _ _ _ _ => trivial) fun _ _ _ _ _ _ _ _ _ _ => trivial

/-- What a permitted request commits is reached by permitted bodies. -/
theorem CaseSubmission.extends {r : CaseSubmission} (h : r.Permitted permitted db) :
    (Session.start db).Extends (CaseTransacts permitted) (r.session db) := by
  refine (r.performs_opening db).mono ?_
  obtain ⟨request, env, faults⟩ := r
  rintro s s' ⟨hstep, hopens⟩
  refine hstep.transacts ?_ ?_
  · rintro given firmCode userOfficeCodes application t t' rfl rfl hbody
    exact h application t t' hopens.1 hopens.2 hbody
  · rintro laaReference given application u t t' rfl rfl hfound hbody
    exact h application u t t' hopens.1 hopens.2 (hopens.1 ▸ hfound) hbody

theorem CaseRun.transacts (h : CaseRun (fun db r => r.Permitted permitted db) init db) :
    Relation.ReflTransGen (CaseTransacts permitted) init db := by
  induction h with
  | start => exact .refl
  | request r _ hr ih => exact ih.trans (CaseSubmission.extends hr).committed

/-- What one request commits is what a run of it commits. -/
theorem CaseCommitted.of_request {admitted : Store → CaseSubmission → Prop} {r : CaseSubmission}
    (hr : admitted db r) (hs : s = r.after db ∨ s ∈ (r.session db).trail) :
    CaseCommitted admitted db s := by
  rcases hs with rfl | hmem
  · exact ⟨r.after db, .request r .start hr, .inl rfl⟩
  · exact ⟨db, .start, .inr ⟨r, hr, hmem⟩⟩

theorem CaseCommitted.transacts (h : CaseCommitted (fun db r => r.Permitted permitted db) init s) :
    Relation.ReflTransGen (CaseTransacts permitted) init s := by
  obtain ⟨db, hdb, rfl | ⟨r, hr, hmem⟩⟩ := h
  · exact hdb.transacts
  · rcases (CaseSubmission.extends hr).trail s hmem with hnone | hsteps
    · exact absurd hnone List.not_mem_nil
    · exact hdb.transacts.trans hsteps

/-- A run of claim requests is a run. -/
theorem Reachable.caseRun (h : Reachable anyRequest init db) :
    CaseRun (fun _ _ => True) init db := by
  induction h with
  | start => exact .start
  | request r _ _ ih => exact .request ⟨.claim r.request, r.env, r.faults⟩ ih trivial

theorem CommittedState.caseCommitted (h : CommittedState anyRequest init s) :
    CaseCommitted (fun _ _ => True) init s := by
  obtain ⟨db, hdb, hs⟩ := h
  refine ⟨db, hdb.caseRun, ?_⟩
  rcases hs with hs | ⟨r, _, hmem⟩
  · exact .inl hs
  · exact .inr ⟨⟨.claim r.request, r.env, r.faults⟩, trivial, hmem⟩

/-- An invariant of the bodies holds of every state a run commits. -/
theorem CaseCommitted.invariant {I : Store → Prop}
    (h : CaseCommitted (fun db r => r.Permitted permitted db) init s) (hinit : I init)
    (hstep : ∀ s s', CaseTransacts permitted s s' → I s → I s') : I s := by
  replace h := h.transacts
  induction h with
  | refl => exact hinit
  | tail _ hlast ih => exact hstep _ _ hlast ih

end Runs

section Applications

variable {permitted : CasePermissions} {s s' : Store} {a' : Application}

/-- Where an application of the next state comes from. -/
inductive ApplicationStep (permitted : CasePermissions) (s : Store) (a' : Application) : Prop
  | kept (h : a' ∈ s.applications)
  | created (request : ApplicationCreate) (firmCode : String) (publicBodies : List PublicBodyId)
      (source : AddressSource) (laaReference : String) (createdAt : Datetime) (id : ℕ)
      (hpermitted : permitted.creates request)
      (hbodies : request.publicBodies.mapM ApplicationRepository.parsePublicBodyId = .ok publicBodies)
      (h : a' = ApplicationRepository.applicationRow request firmCode publicBodies source laaReference
        createdAt id)
  | granted (a application : Application) (env : Env) (request : GrantApplicationUpdate)
      (client : Client) (ha : a ∈ s.applications) (happlication : application ∈ s.applications)
      (h : a' = { a with
        proceeding := GrantDecisionUseCase.grantedProceeding env request application.proceeding
        client := client })
  | refused (a application : Application) (request : RefuseApplicationUpdate)
      (ha : a ∈ s.applications) (happlication : application ∈ s.applications)
      (hpermitted : permitted.refuses application)
      (h : a' = { a with
        proceeding := RefuseDecisionUseCase.refusedProceeding request application.proceeding })
  | updated (a : Application) (publicBodyIds : List PublicBodyId) (ha : a ∈ s.applications)
      (hgiven : publicBodyIds ≠ [])
      (h : a' = { a with publicBodies := publicBodyIds.map (·.publicBody) })

theorem mem_updateApplication {applicationId : ℕ} {f : Application → Application}
    (h : a' ∈ (s.updateApplication applicationId f).applications) :
    (a' ∈ s.applications ∧ a'.applicationId ≠ applicationId)
      ∨ ∃ a ∈ s.applications, a.applicationId = applicationId ∧ a' = f a := by
  obtain ⟨a, ha, heq⟩ := List.mem_map.mp h
  by_cases hid : a.applicationId = applicationId
  · rw [if_pos hid] at heq
    exact Or.inr ⟨a, ha, hid, heq.symm⟩
  · rw [if_neg hid] at heq
    subst heq
    exact Or.inl ⟨ha, hid⟩

theorem refuseBody_ok {env : Env} {faults : Faults} {request : RefuseApplicationUpdate}
    {application : Application} {u : Unit} {t t' : Txn Store Notification}
    (h : RefuseDecisionUseCase.refuseBody env faults request application t = .ok u t') :
    t'.store.applications = (t.store.updateApplication application.applicationId fun a =>
      { a with proceeding :=
          RefuseDecisionUseCase.refusedProceeding request application.proceeding }).applications := by
  simp only [RefuseDecisionUseCase.refuseBody, RefuseDecisionUseCase.sendRefusal, bind_ok,
    recordDecision_ok, Tx.send_ok, createHistoryEvent_ok] at h
  obtain ⟨_, _, ⟨actor, -, -, -, rfl⟩, _, _, ⟨-, rfl⟩, _, -, -, rfl⟩ := h
  rfl

theorem createBody_ok {env : Env} {faults : Faults} {request : ApplicationCreate} {firmCode : String}
    {userOfficeCodes : List String} {application : Application} {t t' : Txn Store Notification} :
    CreateApplicationUseCase.createBody env faults request firmCode userOfficeCodes t
        = .ok application t' ↔
      ∃ t₁ u, ApplicationRepository.createApplication env faults request firmCode t = .ok application t₁
        ∧ CreateApplicationUseCase.submitApplication env faults request application userOfficeCodes t₁
          = .ok u t' := by
  simp only [CreateApplicationUseCase.createBody, bind_ok, pure_ok]
  constructor
  · rintro ⟨_, t₁, hcreate, u, _, hsubmit, rfl, rfl⟩
    exact ⟨t₁, u, hcreate, hsubmit⟩
  · rintro ⟨t₁, u, hcreate, hsubmit⟩
    exact ⟨application, t₁, hcreate, u, t', hsubmit, rfl, rfl⟩

/-- What a creation that ends normally has committed: both bodies, as one. -/
theorem createApplication_body {env : Env} {faults : Faults} {request : ApplicationCreate}
    {firmCode : String} {userOfficeCodes : List String} {application : Application} {db : Store}
    {session : Session Store Notification OrmObject}
    (h : CreateApplicationUseCase.execute env faults request firmCode userOfficeCodes (.start db)
      = .ok application session) :
    ∃ t', CreateApplicationUseCase.createBody env faults request firmCode userOfficeCodes ⟨db, []⟩
        = .ok application t' ∧ session.committed = t'.store := by
  obtain ⟨a, s₁, hfirst, h⟩ := bind_ok.mp h
  obtain ⟨-, t, hcreate, rfl⟩ := Uow.transact_ok.mp hfirst
  have hrest := (Uow.tryCatch_refuses_ok Uow.rollback_then_throw_refuses).mp h
  obtain ⟨u, s₂, hsecond, hread⟩ := bind_ok.mp hrest
  obtain ⟨-, -, t', hsubmit, rfl⟩ := Uow.inTransaction_ok.mp hsecond
  obtain ⟨u', s₃, hreads, hend⟩ := bind_ok.mp hread
  obtain ⟨rfl, rfl⟩ := pure_ok.mp hend
  exact ⟨t', createBody_ok.mpr ⟨t, u, hcreate, hsubmit⟩, (Uow.read_outcome.1 u' hreads).1⟩

theorem createBody_applications {env : Env} {faults : Faults} {request : ApplicationCreate}
    {firmCode : String} {userOfficeCodes : List String} {application : Application}
    {t t' : Txn Store Notification}
    (h : CreateApplicationUseCase.createBody env faults request firmCode userOfficeCodes t
      = .ok application t') :
    t'.store.applications = t.store.applications ++ [application] := by
  obtain ⟨t₁, u, hcreate, hsubmit⟩ := createBody_ok.mp h
  obtain ⟨_, _, _, -, -, -, -, -, rfl⟩ := createApplication_ok.mp hcreate
  obtain ⟨-, -, -, _, _, _, -, -, -, -, -, -, -, rfl⟩ :=
    CreateApplicationUseCase.submitApplication_ok.mp hsubmit
  rfl

theorem Noted.applications (h : Noted s s') : s'.applications = s.applications := by
  obtain ⟨events, rfl⟩ := h
  rfl

/-- One transaction, seen from an application that it leaves. -/
theorem CaseTransacts.application (h : CaseTransacts permitted s s') (ha' : a' ∈ s'.applications) :
    ApplicationStep permitted s a' := by
  have hkept : s'.applications = s.applications → ApplicationStep permitted s a' :=
    fun hsame => .kept (hsame ▸ ha')
  cases h with
  | creation hpermitted h =>
      rw [createBody_applications h] at ha'
      rcases List.mem_append.mp ha' with hold | hnew
      · exact .kept hold
      · obtain ⟨t₁, u, hcreate, -⟩ := createBody_ok.mp h
        obtain ⟨publicBodies, source, laaReference, hbodies, -, -, -, happlication, -⟩ :=
          createApplication_ok.mp hcreate
        exact .created _ _ publicBodies source laaReference _ _ hpermitted hbodies
          ((List.mem_singleton.mp hnew).trans happlication)
  | grant hfound h =>
      obtain ⟨-, addressed, -, happlications⟩ := GrantDecisionUseCase.grantBody_ok h
      have hmem := findDecidedApplication_mem hfound
      rw [happlications] at ha'
      rcases mem_updateApplication ha' with ⟨hold, -⟩ | ⟨b, hb, hid, rfl⟩
      · rcases mem_updateApplication hold with ⟨hold, -⟩ | ⟨a, ha, -, rfl⟩
        · exact .kept hold
        · exact .granted a _ _ _ a.client ha hmem rfl
      · rcases mem_updateApplication hb with ⟨-, hother⟩ | ⟨a, ha, -, rfl⟩
        · exact absurd hid hother
        · exact .granted a _ _ _ addressed.2 ha hmem rfl
  | refusal hfound hpermitted h =>
      rw [refuseBody_ok h] at ha'
      rcases mem_updateApplication ha' with ⟨hold, -⟩ | ⟨a, ha, -, rfl⟩
      · exact .kept hold
      · exact .refused a _ _ ha (findDecidedApplication_mem hfound) hpermitted rfl
  | publicBodies hchecked h =>
      obtain ⟨actor, -, -, -, rfl⟩ := UpdatePublicBodiesUseCase.updatePublicBodies_ok.mp h
      obtain ⟨-, -, hgiven⟩ := UpdatePublicBodiesUseCase.checkUpdate_ok.mp hchecked
      rcases mem_updateApplication ha' with ⟨hold, -⟩ | ⟨a, ha, -, rfl⟩
      · exact .kept hold
      · exact .updated a _ ha hgiven rfl
  | note hfound h =>
      obtain ⟨actor, -, -, rfl⟩ := createHistoryEvent_ok.mp h
      exact .kept ha'
  | submission hprepared h => exact hkept (submitClaim_ok h).applications
  | confirmation hpursued h => exact hkept (confirmSubmission_ok h).applications
  | autoRejection hpursued houtcome h =>
      obtain ⟨rows, hdecided⟩ := autoRejectClaim_ok h
      exact hkept hdecided.applications
  | autoApproval hpursued houtcome h =>
      obtain ⟨lines, rows, -, hdecided⟩ := autoApproveClaim_ok h
      exact hkept hdecided.applications
  | payment hfound h =>
      obtain ⟨_, _, _, _, -, -, -, hdecided⟩ := payClaim_ok h
      exact hkept hdecided.applications
  | rejection hfound h =>
      obtain ⟨_, _, -, -, hdecided⟩ := rejectClaim_ok h
      exact hkept hdecided.applications
  | approvedEmail hawaiting h =>
      obtain ⟨-, -, -, rfl⟩ := SendAutoApprovedPoaClaimEmailsUseCase.sendApprovedEmail_ok.mp h
      exact .kept ha'

end Applications

end InquestsApi
