import InquestsApi.DecideApplication

/-! When the decision on an application goes through, and what it then commits: everything
its two bodies write, or nothing. -/
namespace InquestsApi

open UnitOfWork HistoryEventRepository CreateCertificateContext

section Committed

variable {faults : Faults} {db : Store} {body : Transaction Unit} {refusal : ApiError}

/-- What a body leaves of a database when it is committed on its own. -/
def Store.committing (db : Store) (body : Transaction Unit) (fault : Option ApiError) : Store :=
  match fault, body ⟨db, []⟩ with
  | none, .ok _ t => t.store
  | _, _ => db

theorem committing_of_error {fault : Option ApiError} {e : Failure ApiError}
    {t : Txn Store Notification} (h : body ⟨db, []⟩ = .error e t) :
    db.committing body fault = db := by
  unfold Store.committing
  rw [h]
  cases fault <;> rfl

theorem committing_of_ok {u : Unit} {t : Txn Store Notification} (h : body ⟨db, []⟩ = .ok u t) :
    db.committing body none = t.store := by
  unfold Store.committing
  rw [h]

/-- A session that has looked an application up and done nothing else. -/
def lookedUp (db : Store) : Session Store Notification OrmObject :=
  { (Session.start db : Session Store Notification OrmObject) with
    loaded := fun o => o = .application ∨ false }

theorem getApplication_start (laaReference : String) (db : Store) :
    getApplication laaReference (.start db) =
      match findDecidedApplication laaReference db with
      | .ok application => .ok application (lookedUp db)
      | .error e => .error (.call e) (.start db) := by
  cases hfound : findDecidedApplication laaReference db with
  | ok application =>
      unfold getApplication
      rw [bind_eq_of_ok (Uow.transact_check_of_ok hfound)]
      rfl
  | error e => exact bind_eq_of_error (Uow.transact_check_of_error hfound)

section Lookup

variable {α : Type} {f : Application → Request α} {laaReference : String} {application : Application}
variable {e : ApiError}

theorem getApplication_bind_of_ok (hfound : findDecidedApplication laaReference db = .ok application) :
    (getApplication laaReference >>= f) (.start db) = f application (lookedUp db) := by
  have hlookup := getApplication_start laaReference db
  rw [hfound] at hlookup
  exact bind_eq_of_ok hlookup

theorem getApplication_bind_of_error (hfound : findDecidedApplication laaReference db = .error e) :
    (getApplication laaReference >>= f) (.start db) = .error (.call e) (.start db) := by
  have hlookup := getApplication_start laaReference db
  rw [hfound] at hlookup
  exact bind_eq_of_error hlookup

end Lookup

/-- What follows the first commit of a decision neither adds to it nor takes from it. -/
theorem sendDecision_committed {s : Session Store Notification OrmObject} :
    (endState (sendDecision faults body refusal s)).committed =
      (endState ((Uow.inTransaction body (commitFault faults .decision)) s)).committed := by
  unfold sendDecision
  cases hbody : (Uow.inTransaction body (commitFault faults .decision)) s with
  | error e s' =>
      rw [tryCatch_eq_of_error (bind_eq_of_error hbody)]
      exact Uow.read_rollback_throw_committed
  | ok u s' =>
      have hpending : s'.working = s'.committed := by
        obtain ⟨-, -, t, -, rfl⟩ := Uow.inTransaction_ok.mp hbody
        rfl
      have hsame : (endState ((Uow.commit (commitFault faults .decisionHistory) :
          Request Unit) s')).committed = s'.committed := Uow.commit_committed hpending
      cases hcommit : (Uow.commit (commitFault faults .decisionHistory) :
          Request Unit) s' with
      | ok v s'' =>
          rw [hcommit] at hsame
          rw [tryCatch_eq_of_ok ((bind_eq_of_ok hbody).trans hcommit)]
          exact hsame
      | error e s'' =>
          rw [hcommit] at hsame
          rw [tryCatch_eq_of_error ((bind_eq_of_ok hbody).trans hcommit)]
          exact Uow.read_rollback_throw_committed.trans hsame

/-- A decision commits all that its two bodies write, or nothing. -/
theorem decision_committed {first second : Application → Transaction Unit} {laaReference : String} :
    (endState ((do
        let application ← getApplication laaReference
        Uow.transact (first application)
        sendDecision faults (second application) refusal) (.start db))).committed =
      match findDecidedApplication laaReference db with
      | .ok application =>
        db.committing (do first application; second application) (commitFault faults .decision)
      | .error _ => db := by
  cases hfound : findDecidedApplication laaReference db with
  | error e =>
      rw [getApplication_bind_of_error hfound]
      rfl
  | ok application =>
      rw [getApplication_bind_of_ok hfound]
      have husable : (lookedUp db).usable = true := rfl
      cases hfirst : first application ⟨db, []⟩ with
      | error e t =>
          have hbody := bind_eq_of_error (f := fun _ => second application) hfirst
          have hcommitted : (endState (Uow.transact (first application) (lookedUp db))).committed
              = db := Uow.transact_committed
          obtain ⟨s, hraised⟩ := Uow.transact_of_error husable hfirst
          rw [hraised] at hcommitted
          rw [bind_eq_of_error hraised]
          exact hcommitted.trans (committing_of_error hbody).symm
      | ok u t =>
          have hbody := bind_eq_of_ok (f := fun _ => second application) hfirst
          let pending : Session Store Notification OrmObject :=
            { lookedUp db with working := t.store, outbox := t.outbox }
          have hpending : Uow.transact (first application) (lookedUp db) = .ok u pending :=
            Uow.transact_ok.mpr ⟨husable, t, hfirst, rfl⟩
          rw [bind_eq_of_ok hpending, sendDecision_committed]
          cases hsecond : second application t with
          | error e t' =>
              rw [Uow.inTransaction_committed_of_failure]
              · exact (committing_of_error (hbody.trans hsecond)).symm
              · intro a t'' hok
                cases hsecond.symm.trans hok
          | ok v t' =>
              cases hfault : commitFault faults .decision with
              | some e =>
                  rw [Uow.inTransaction_committed_of_failure]
                  · rfl
                  · intro _ _ _ hnone
                    cases hnone
              | none =>
                  have hdone : (endState ((Uow.inTransaction (second application) none :
                      Request Unit) pending)).committed = t'.store :=
                    Uow.inTransaction_committed_of_ok husable hsecond
                  rw [hdone]
                  exact (committing_of_ok (hbody.trans hsecond)).symm

/-- A decision ends normally when both its bodies do and both its commits are accepted. -/
theorem decision_goes {first second : Application → Transaction Unit} {laaReference : String} :
    (∃ u s, (do
        let application ← getApplication laaReference
        Uow.transact (first application)
        sendDecision faults (second application) refusal) (.start db) = .ok u s) ↔
      ∃ application, findDecidedApplication laaReference db = .ok application
        ∧ commitFault faults .decision = none ∧ commitFault faults .decisionHistory = none
        ∧ ∃ u t, (do first application; second application : Transaction Unit) ⟨db, []⟩ = .ok u t := by
  cases hfound : findDecidedApplication laaReference db with
  | error e =>
      rw [getApplication_bind_of_error hfound]
      simp
  | ok application =>
      rw [getApplication_bind_of_ok hfound]
      simp only [bind_ok, sendDecision, tryCatch_ok, throw_ok, Uow.transact_ok, Uow.inTransaction_ok,
        Uow.commit_ok, and_false, exists_false, or_false]
      constructor
      · rintro ⟨u, s, _, _, ⟨-, t, hfirst, rfl⟩, _, _, ⟨-, hdecision, t', hsecond, rfl⟩, -, hhistory, rfl⟩
        exact ⟨application, rfl, hdecision, hhistory, u, t', (), t, hfirst, hsecond⟩
      · rintro ⟨_, hsame, hdecision, hhistory, u, t', _, t, hfirst, hsecond⟩
        cases hsame
        exact ⟨(), _, (), _, ⟨rfl, t, hfirst, rfl⟩, (), _, ⟨rfl, hdecision, t', hsecond, rfl⟩, rfl,
          hhistory, rfl⟩

end Committed

section Certificate

variable {env : Env} {application : Application} {address : Option Address}
variable {context : ApplicationCertificate}

theorem required_ok {α : Type} {x : Option α} {a : α} : required x = .ok a ↔ x = some a := by
  cases x <;> simp [required]

/-- The columns that a certificate cannot do without. -/
structure CertificateColumns (application : Application) : Prop where
  certificateType : application.proceeding.proceeding.certificateType.isSome
  status : application.status.isSome
  costLimitation : application.proceeding.proceeding.substantiveCostLimitation.isSome
  proceedingName : application.proceeding.proceeding.proceedingName.isSome
  proceedingDescription : application.proceeding.proceeding.proceedingDescription.isSome
  categoryOfLaw : application.proceeding.proceeding.categoryOfLaw.isSome
  levelOfService : application.proceeding.proceeding.levelOfService.isSome
  scopeLimitationHeading : application.proceeding.proceeding.scopeLimitationHeading.isSome
  scopeDescription : application.proceeding.proceeding.scopeDescription.isSome

/-- A decision changes none of them. -/
theorem CertificateColumns.of_same {decided : Application} (h : CertificateColumns application)
    (hstatus : decided.status = application.status)
    (hrow : decided.proceeding.proceeding = application.proceeding.proceeding) :
    CertificateColumns decided := by
  obtain ⟨htype, hstatus', hlimit, hname, hdescription, hlaw, hlevel, hheading, hscope⟩ := h
  constructor <;> simp only [hstatus, hrow] <;> assumption

theorem certificate_goes (hgranted : application.proceeding.meritsDecision = .granted) :
    (∃ context, certificate env application address = .ok context)
      ↔ CertificateColumns application := by
  have hcost : application.proceeding.substantiveCostLimitation
      = application.proceeding.proceeding.substantiveCostLimitation := by
    unfold ApplicationProceeding.substantiveCostLimitation
    rw [hgranted]
    rfl
  simp only [certificate, except_bind_ok, required_ok, except_pure_ok, hcost]
  constructor
  · rintro ⟨_, _, htype, _, hstatus, _, hlimit, _, hname, _, hdescription, _, hlaw, _, hlevel,
      _, hheading, _, hscope, -⟩
    constructor <;> simp only [*, Option.isSome_some]
  · rintro ⟨htype, hstatus, hlimit, hname, hdescription, hlaw, hlevel, hheading, hscope⟩
    simp only [Option.isSome_iff_exists] at *
    obtain ⟨_, htype⟩ := htype
    obtain ⟨_, hstatus⟩ := hstatus
    obtain ⟨_, hlimit⟩ := hlimit
    obtain ⟨_, hname⟩ := hname
    obtain ⟨_, hdescription⟩ := hdescription
    obtain ⟨_, hlaw⟩ := hlaw
    obtain ⟨_, hlevel⟩ := hlevel
    obtain ⟨_, hheading⟩ := hheading
    obtain ⟨_, hscope⟩ := hscope
    exact ⟨_, _, htype, _, hstatus, _, hlimit, _, hname, _, hdescription, _, hlaw, _, hlevel,
      _, hheading, _, hscope, rfl⟩

theorem certificate_address (h : certificate env application address = .ok context) :
    context.clientAddress = address := by
  simp only [certificate, except_bind_ok, required_ok, except_pure_ok] at h
  obtain ⟨_, -, _, -, _, -, _, -, _, -, _, -, _, -, _, -, _, -, rfl⟩ := h
  rfl

end Certificate

section Addressing

variable {client : Client} {officeAddress : Address} {addressed : Option Address × Client}

/-- Without an address, neither a name can be written into it nor a letter be sent to it. -/
theorem clientAddress_ok :
    clientAddress client officeAddress = .ok addressed ↔
      (client.correspondenceRecipient = none
          ∧ addressed = (client.chosenAddress officeAddress, client))
        ∨ ∃ recipient address, client.correspondenceRecipient = some recipient
            ∧ client.chosenAddress officeAddress = some address
            ∧ addressed = (some (careOf recipient address),
                client.setStoredAddress (careOf recipient address)) := by
  unfold clientAddress
  cases hrecipient : client.correspondenceRecipient with
  | none => simp [eq_comm]
  | some recipient =>
      cases haddress : client.chosenAddress officeAddress with
      | none => simp
      | some address => simp [eq_comm]

theorem clientAddress_isSome (h : clientAddress client officeAddress = .ok addressed) :
    addressed.1.isSome ↔ (client.chosenAddress officeAddress).isSome := by
  rcases clientAddress_ok.mp h with ⟨-, rfl⟩ | ⟨recipient, address, -, haddress, rfl⟩
  · rfl
  · rw [haddress]
    exact ⟨fun _ => rfl, fun _ => rfl⟩

theorem clientAddress_goes (h : (client.chosenAddress officeAddress).isSome) :
    ∃ addressed, clientAddress client officeAddress = .ok addressed := by
  obtain ⟨address, haddress⟩ := Option.isSome_iff_exists.mp h
  cases hrecipient : client.correspondenceRecipient with
  | none => exact ⟨_, clientAddress_ok.mpr (.inl ⟨hrecipient, rfl⟩)⟩
  | some recipient =>
      exact ⟨_, clientAddress_ok.mpr (.inr ⟨recipient, address, hrecipient, haddress, rfl⟩)⟩

end Addressing

section Steps

variable {env : Env} {faults : Faults} {application : Application} {t t' : Txn Store Notification}
variable {u : Unit}

theorem recordDecision_ok {proceeding : ApplicationProceeding} {eventData : List (String × Json)} :
    recordDecision env faults application proceeding eventData t = .ok u t' ↔
      ∃ actor, requireActor env.user.name = .ok actor ∧ faults .updateDecision = none
        ∧ faults (.createHistoryEvent .applicationAssessmentCompleted) = none
        ∧ t' = { t with store :=
            { (t.store.updateApplication application.applicationId fun a =>
                { a with proceeding := proceeding }) with
              historyEvents := t.store.historyEvents
                ++ [(decisionEvent env application eventData).row env actor
                  (nextKey (t.store.historyEvents.map (·.id)))] } } := by
  unfold recordDecision
  exact updateApplication_noted_ok

/-- A certificate looks the provider up, and writes the client that its address leaves. -/
theorem populateCertificateContext_ok {context : ApplicationCertificate} :
    populateCertificateContext env faults application t = .ok context t' ↔
      faults .getFirmName = none ∧ faults .getOfficeAddress = none
        ∧ ∃ addressed,
          clientAddress application.client (env.officeAddress application.provider.officeId)
              = .ok addressed
            ∧ certificate env application addressed.1 = .ok context
            ∧ t' = { t with store := (t.store.updateApplication application.applicationId
                fun a => { a with client := addressed.2 }) } := by
  simp only [populateCertificateContext, bind_ok, Tx.callOut_ok, Tx.check_ok, Tx.touch_ok,
    Option.isSome_eq_false_iff, Option.isNone_iff_eq_none]
  constructor
  · rintro ⟨_, _, ⟨hfirm, rfl⟩, _, _, ⟨hoffice, rfl⟩, addressed, _, ⟨haddressed, rfl⟩, _, _, rfl,
      hcertificate, rfl⟩
    exact ⟨hfirm, hoffice, addressed, haddressed, hcertificate, rfl⟩
  · rintro ⟨hfirm, hoffice, addressed, haddressed, hcertificate, rfl⟩
    exact ⟨(), t, ⟨hfirm, rfl⟩, (), t, ⟨hoffice, rfl⟩, addressed, t, ⟨haddressed, rfl⟩, (), _, rfl,
      hcertificate, rfl⟩

end Steps

namespace GrantDecisionUseCase

variable {env : Env} {faults : Faults} {request : GrantApplicationUpdate}
variable {application : Application} {t t' : Txn Store Notification} {u : Unit} {db : Store}

/-- The calls that a grant makes before its decision is committed. -/
def grantCalls : List Call :=
  [.updateDecision, .createHistoryEvent .applicationAssessmentCompleted, .getFirmName,
    .getOfficeAddress, .generatePdf, .sendNotification, .createHistoryEvent .certificateCreated,
    .createHistoryEvent .applicationGrantedEmail, .generatePrintLetterPdf, .sendLetter,
    .createHistoryEvent .applicationGrantedLetter]

/-- What a grant asks of its surroundings and of the rows of the application. -/
structure GoesThrough (env : Env) (faults : Faults) (application : Application) : Prop where
  calls : ∀ call ∈ grantCalls, faults call = none
  caseworker : ∃ actor, requireActor env.user.name = .ok actor
  columns : CertificateColumns application
  address : (application.client.chosenAddress (env.officeAddress application.provider.officeId)).isSome

theorem letterEvent_ok {context : ApplicationCertificate} {event : NewEvent} :
    letterEvent application context = .ok event ↔ ∃ address, context.clientAddress = some address
      ∧ event = CreateClaim.systemEvent .applicationGrantedLetter application
          [("recipient", dumpAddress address), ("channel", .text NotificationType.letter.value)] := by
  unfold letterEvent
  cases context.clientAddress with
  | none => simp
  | some address => simp [eq_comm]

/-- Both bodies of a grant, as one. -/
def grantBody (env : Env) (faults : Faults) (request : GrantApplicationUpdate)
    (application : Application) : Transaction Unit := do
  recordDecision env faults application (grantedProceeding env request application.proceeding)
    [("merits_decision", .text "Granted")]
  sendGrant env faults
    { application with proceeding := grantedProceeding env request application.proceeding }

theorem execute_committed {laaReference : String} :
    (endState (execute env faults laaReference request (.start db))).committed =
      match findDecidedApplication laaReference db with
      | .ok application =>
        db.committing (grantBody env faults request application) (commitFault faults .decision)
      | .error _ => db :=
  decision_committed

theorem sendGrantEmail_ok {context : ApplicationCertificate} :
    sendGrantEmail faults application context t = .ok u t' ↔
      faults .generatePdf = none ∧ faults .sendNotification = none
        ∧ t' = { t with outbox :=
            .applicationGranted application context application.provider.emailAddress :: t.outbox } := by
  simp only [sendGrantEmail, Tx.callOut_send_ok, Option.isSome_eq_false_iff,
    Option.isNone_iff_eq_none]

theorem sendGrantLetter_ok {context : ApplicationCertificate} :
    sendGrantLetter faults context t = .ok u t' ↔
      faults .generatePrintLetterPdf = none ∧ faults .sendLetter = none
        ∧ t' = { t with outbox := .grantLetter context :: t.outbox } := by
  simp only [sendGrantLetter, Tx.callOut_send_ok, Option.isSome_eq_false_iff,
    Option.isNone_iff_eq_none]

theorem grantBody_ok (h : grantBody env faults request application t = .ok u t') :
    GoesThrough env faults application
      ∧ ∃ addressed,
        clientAddress application.client (env.officeAddress application.provider.officeId) = .ok addressed
          ∧ t'.store.applications =
            ((t.store.updateApplication application.applicationId fun a =>
                { a with proceeding := grantedProceeding env request application.proceeding }).updateApplication
              application.applicationId fun a => { a with client := addressed.2 }).applications := by
  simp only [grantBody, sendGrant, bind_ok, recordDecision_ok, populateCertificateContext_ok,
    sendGrantEmail_ok, sendGrantLetter_ok, createHistoryEvent_ok, Tx.check_ok, letterEvent_ok] at h
  obtain ⟨_, _, ⟨actor, hactor, hupdate, hassessed, rfl⟩, context, _,
    ⟨hfirm, hoffice, addressed, haddressed, hcertificate, rfl⟩, _, _, ⟨hpdf, hmail, rfl⟩,
    _, _, ⟨_, -, hcreated, rfl⟩, _, _, ⟨_, -, hemailed, rfl⟩, _, _, ⟨hletterPdf, hletter, rfl⟩,
    event, _, ⟨⟨address, haddress, rfl⟩, rfl⟩, _, -, hlettered, rfl⟩ := h
  have hcolumns := (certificate_goes rfl).mp ⟨context, hcertificate⟩
  refine ⟨⟨?_, ⟨actor, hactor⟩, ?_, ?_⟩, addressed, haddressed, rfl⟩
  · intro call hcall
    simp only [grantCalls, List.mem_cons, List.not_mem_nil, or_false] at hcall
    rcases hcall with rfl | rfl | rfl | rfl | rfl | rfl | rfl | rfl | rfl | rfl | rfl <;> assumption
  · exact hcolumns.of_same rfl rfl
  · have hsame : addressed.1 = some address := (certificate_address hcertificate).symm.trans haddress
    apply (clientAddress_isSome haddressed).mp
    rw [hsame]
    rfl

theorem grantBody_goes (h : GoesThrough env faults application) :
    ∃ u t', grantBody env faults request application t = .ok u t' := by
  obtain ⟨hcalls, ⟨actor, hactor⟩, hcolumns, haddress⟩ := h
  simp only [grantCalls, List.forall_mem_cons] at hcalls
  obtain ⟨hupdate, hassessed, hfirm, hoffice, hpdf, hmail, hcreated, hemailed, hletterPdf, hletter,
    hlettered, -⟩ := hcalls
  obtain ⟨addressed, haddressed⟩ := clientAddress_goes haddress
  obtain ⟨address, hsome⟩ := Option.isSome_iff_exists.mp ((clientAddress_isSome haddressed).mpr haddress)
  let granted : Application :=
    { application with proceeding := grantedProceeding env request application.proceeding }
  have hgranted : CertificateColumns granted := hcolumns.of_same rfl rfl
  obtain ⟨context, hcontext⟩ : ∃ context, certificate env granted addressed.1 = .ok context :=
    (certificate_goes rfl).mpr hgranted
  have hletterAddress : (prepareContextForDisplay context).clientAddress = some address :=
    (certificate_address hcontext).trans hsome
  simp only [grantBody, sendGrant, bind_ok, recordDecision_ok, populateCertificateContext_ok,
    sendGrantEmail_ok, sendGrantLetter_ok, createHistoryEvent_ok, Tx.check_ok, letterEvent_ok]
  exact ⟨(), _, (), _, ⟨actor, hactor, hupdate, hassessed, rfl⟩, context, _,
    ⟨hfirm, hoffice, addressed, haddressed, hcontext, rfl⟩, (), _, ⟨hpdf, hmail, rfl⟩,
    (), _, ⟨actor, hactor, hcreated, rfl⟩, (), _, ⟨_, rfl, hemailed, rfl⟩,
    (), _, ⟨hletterPdf, hletter, rfl⟩, _, _, ⟨⟨address, hletterAddress, rfl⟩, rfl⟩,
    _, rfl, hlettered, rfl⟩

theorem execute_goes {laaReference : String} :
    (∃ u s, execute env faults laaReference request (.start db) = .ok u s) ↔
      ∃ application, findDecidedApplication laaReference db = .ok application
        ∧ commitFault faults .decision = none ∧ commitFault faults .decisionHistory = none
        ∧ GoesThrough env faults application := by
  have hexecute : (∃ u s, execute env faults laaReference request (.start db) = .ok u s) ↔
      ∃ application, findDecidedApplication laaReference db = .ok application
        ∧ commitFault faults .decision = none ∧ commitFault faults .decisionHistory = none
        ∧ ∃ u t, grantBody env faults request application ⟨db, []⟩ = .ok u t := decision_goes
  refine hexecute.trans ?_
  constructor
  · rintro ⟨application, hfound, hdecision, hhistory, u, t, hbody⟩
    exact ⟨application, hfound, hdecision, hhistory, (grantBody_ok hbody).1⟩
  · rintro ⟨application, hfound, hdecision, hhistory, hgoes⟩
    exact ⟨application, hfound, hdecision, hhistory, grantBody_goes hgoes⟩

end GrantDecisionUseCase

namespace RefuseDecisionUseCase

variable {env : Env} {faults : Faults} {request : RefuseApplicationUpdate} {db : Store}

/-- Both bodies of a refusal, as one. -/
def refuseBody (env : Env) (faults : Faults) (request : RefuseApplicationUpdate)
    (application : Application) : Transaction Unit := do
  recordDecision env faults application (refusedProceeding request application.proceeding)
    [("merits_decision", .text "Refused"), ("refusal_reason", .text request.reasonForRefusal.value),
      ("refusal_justification", .text request.justification)]
  sendRefusal env faults
    { application with proceeding := refusedProceeding request application.proceeding }

theorem execute_committed {laaReference : String} :
    (endState (execute env faults laaReference request (.start db))).committed =
      match findDecidedApplication laaReference db with
      | .ok application =>
        db.committing (refuseBody env faults request application) (commitFault faults .decision)
      | .error _ => db :=
  decision_committed

end RefuseDecisionUseCase

end InquestsApi
