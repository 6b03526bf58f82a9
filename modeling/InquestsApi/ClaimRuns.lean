import InquestsApi.ClaimTransactions

/-! Runs of claim requests one after another, with any port failing anywhere: whatever a
run commits is reached by the transactions below, so an invariant of claims is proved
once for each of them. -/
namespace InquestsApi

open UnitOfWork

/-- What the store says of an application with no live final or nil bill. -/
def NoActiveFinalBill (s : Store) (applicationId : ℕ) : Prop :=
  ∀ c ∈ s.claims, c.applicationId = applicationId → c.isActiveFinalBill = false

/-- One committed transaction of a claim request. `allowed` is what is asked of the store
and the claim when a caseworker pays. -/
inductive Transacts (allowed : Store → Claim → Prop) (s s' : Store) : Prop where
  | submission (claim : DomainClaim) (applicationId : ℕ) (row : Claim)
      (hbill : NoActiveFinalBill s applicationId)
      (h : Submitted claim applicationId row s s')
  | note (h : Noted s s')
  | rejection (claim : Claim) (reasons : List (ReasonCode × Option String)) (rows : DecisionRows)
      (hclaim : claim ∈ s.claims) (hstatus : claim.statusId = .submitted) (hreasons : reasons ≠ [])
      (h : Decided claim.claimId (.reject reasons) rows s s')
  | autoApproval (claim : Claim) (lines : List PaymentExtractLine) (rows : DecisionRows)
      (hclaim : claim ∈ s.claims) (hstatus : claim.statusId = .submitted)
      (htype : claim.claimTypeId = .paymentOnAccount)
      (hbill : NoActiveFinalBill s claim.applicationId)
      (hlines : poaClaimPaymentExtractLines claim (payInFullClaimFromSubmittedPoaClaim claim)
        = some lines)
      (h : Decided claim.claimId (.payInFull lines) rows s s')
  | payment (claim : Claim) (decisionAmounts : PayInFullClaim) (date : Date)
      (lines : List PaymentExtractLine) (rows : DecisionRows)
      (hclaim : claim ∈ s.claims) (hstatus : claim.statusId = .submitted) (hallowed : allowed s claim)
      (hlines : PayInFullClaimUseCase.paymentExtractLines claim decisionAmounts
        claim.applicationId date s = some lines)
      (h : Decided claim.claimId (.payInFull lines) rows s s')

inductive ClaimRequest where
  | create (command : CreateClaimCommand)
  | payInFull (command : PayInFullClaimCommand)
  | reject (command : RejectClaimCommand)

/-- A request as it meets its surroundings. -/
structure Submission where
  request : ClaimRequest
  env : Env
  faults : Faults

namespace Submission

/-- The session of a request against a database, when the request has ended. -/
def session (r : Submission) (db : Store) : Session Store Notification OrmObject :=
  match r.request with
  | .create command => endState (CreateClaim.execute r.env r.faults command (.start db))
  | .payInFull command => endState (PayInFullClaimUseCase.execute r.env r.faults command (.start db))
  | .reject command => endState (RejectClaimUseCase.execute r.env r.faults command (.start db))

/-- What the request leaves in the database. -/
def after (r : Submission) (db : Store) : Store := (r.session db).committed

end Submission

/-- What a list of requests leaves, one after another. -/
def afterAll (db : Store) (requests : List Submission) : Store :=
  requests.foldl (fun db r => r.after db) db

/-- The databases between the requests of a run whose requests are all admitted. -/
inductive Reachable (admitted : Store → Submission → Prop) (init : Store) : Store → Prop
  | start : Reachable admitted init init
  | request {db : Store} (r : Submission) (h : Reachable admitted init db) (hr : admitted db r) :
      Reachable admitted init (r.after db)

/-- The states a run commits, between its requests or within one. -/
def CommittedState (admitted : Store → Submission → Prop) (init s : Store) : Prop :=
  ∃ db, Reachable admitted init db
    ∧ (s = db ∨ ∃ r, admitted db r ∧ s ∈ (r.session db).trail)

def anyRequest : Store → Submission → Prop := fun _ _ => True

section CreateSteps

variable {allowed : Store → Claim → Prop} {env : Env} {faults : Faults}
variable {command : CreateClaimCommand} {prepared : PreparedClaim} {claim : Claim} {db : Store}

/-- The claim of a request while the request goes on: stored, and still to be decided. -/
structure Standing (prepared : PreparedClaim) (claim : Claim) (db : Store) : Prop where
  stored : claim ∈ db.claims
  status : claim.statusId = .submitted
  claimType : claim.claimTypeId = prepared.validatedClaim.claimType
  noBill : claim.claimTypeId = .paymentOnAccount → NoActiveFinalBill db claim.applicationId

theorem prepare_noActiveFinalBill (h : CreateClaim.prepare command db = .ok prepared) :
    NoActiveFinalBill db prepared.application.applicationId := by
  have hprepares := CreateClaim.prepare_ok h
  have hbill := hprepares.noActiveFinalBill
  rw [hprepares.existingSummaries, DomainClaim.validateNoActiveFinalBill, refuseWhen_ok] at hbill
  intro c hc happ
  by_contra hactive
  refine hbill (List.any_eq_true.mpr ⟨c.summary, ?_, ?_⟩)
  · refine List.mem_map.mpr ⟨c, ?_, rfl⟩
    exact List.mem_filter.mpr ⟨hc, decide_eq_true happ⟩
  · exact eq_true_of_ne_false hactive

theorem Submitted.standing {s s' : Store} (hbill : NoActiveFinalBill s prepared.application.applicationId)
    (h : Submitted prepared.validatedClaim prepared.application.applicationId claim s s') :
    Standing prepared claim s' := by
  refine ⟨?_, h.stored.status, h.stored.claimType, ?_⟩
  · rw [h.claims]
    exact List.mem_append_right _ (List.mem_singleton_self claim)
  · intro htype c hc happ
    rw [h.claims] at hc
    rcases List.mem_append.mp hc with hc | hc
    · exact hbill c hc (happ.trans h.stored.applicationId)
    · rw [List.mem_singleton.mp hc, Claim.isActiveFinalBill, htype]
      rfl

theorem Standing.note {s s' : Store} (h : Standing prepared claim s) (hn : Noted s s') :
    Standing prepared claim s' := by
  obtain ⟨events, rfl⟩ := hn
  exact ⟨h.stored, h.status, h.claimType, h.noBill⟩

theorem execute_of_error {e : ApiError} (h : CreateClaim.prepare command db = .error e) :
    CreateClaim.execute env faults command (.start db) = .error (.call e) (.start db) :=
  bind_eq_of_error (Uow.transact_check_of_error h)

theorem execute_of_ok (h : CreateClaim.prepare command db = .ok prepared) :
    CreateClaim.execute env faults command (.start db)
      = (do
          let claim ← CreateClaim.submit env faults command prepared
          CreateClaim.notify env faults prepared claim
          CreateClaim.decide env faults prepared claim : Request CreateClaimResult) (.start db) :=
  bind_eq_of_ok (Uow.transact_check_of_ok h)

/-- A submission commits its first transaction, and then only reads. -/
theorem submit_triple {R : Store → Store → Prop} {P : Store → Prop} {Q : Claim → Store → Prop}
    (hbody : ∀ t claim t', P t.store →
      CreateClaim.submitClaim env faults command prepared t = .ok claim t' →
      R t.store t'.store ∧ Q claim t'.store) :
    Uow.Triple R P (CreateClaim.submit env faults command prepared) Q := by
  refine .orRollback ?_
  refine .bind (Q := Q) (.inTransaction hbody) fun claim => ?_
  refine .bind .read fun _ => ?_
  exact .pure fun _ h => h

theorem submit_standing : Uow.Triple (Transacts allowed)
    (fun db => CreateClaim.prepare command db = .ok prepared)
    (CreateClaim.submit env faults command prepared) (Standing prepared) := by
  refine submit_triple ?_
  intro t claim t' hprepare hbody
  have hbill := prepare_noActiveFinalBill hprepare
  have hsubmitted := submitClaim_ok hbody
  exact ⟨.submission _ _ _ hbill hsubmitted, hsubmitted.standing hbill⟩

/-- A confirmation commits one step, or is given up. -/
theorem confirmation_triple {R : Store → Store → Prop} {P : Store → Prop}
    (hconfirm : ∀ t u t', P t.store →
      CreateClaim.confirmSubmission env faults prepared claim t = .ok u t' →
      R t.store t'.store ∧ P t'.store) :
    Uow.Triple R P (CreateClaim.notify env faults prepared claim) (fun _ db => P db) := by
  have hbody : Uow.Triple R P
      (Uow.inTransaction (CreateClaim.confirmSubmission env faults prepared claim)
        (commitFault faults .confirmation) : Request Unit)
      (fun _ db => P db) := .inTransaction hconfirm
  refine (hbody.recover Uow.inTransaction_atomic
    fun _ => Uow.read_then_rollback_restores .claim).weaken (fun _ h => h) ?_
  rintro _ db (h | ⟨-, h⟩) <;> exact h

/-- The confirmation writes history at most. -/
theorem notify_triple {R : Store → Store → Prop} {P : Store → Prop}
    (hnote : ∀ s s', Noted s s' → P s → R s s' ∧ P s') :
    Uow.Triple R P (CreateClaim.notify env faults prepared claim) (fun _ db => P db) := by
  refine confirmation_triple ?_
  intro t _ t' hP hok
  exact hnote _ _ (confirmSubmission_ok hok) hP

/-- An automatic decision commits one step, or leaves the claim as it stood. -/
theorem autoDecision_triple {R : Store → Store → Prop} {P : Store → Prop}
    {Q : CreateClaimResult → Store → Prop} {body : Transaction Unit} {stage : Stage}
    {decided : CreateClaimResult}
    (hok : ∀ t u t', P t.store → body t = .ok u t' → R t.store t'.store ∧ Q decided t'.store)
    (hfailed : ∀ db, P db → Q ⟨claim.withStatus .submitted, none⟩ db) :
    Uow.Triple R P (CreateClaim.autoDecision faults claim body stage decided) Q := by
  have hbody : Uow.Triple R P
      (do Uow.inTransaction body (commitFault faults stage); pure decided : Request CreateClaimResult)
      Q := by
    refine .bind (Q := fun _ => Q decided) (.inTransaction ?_) fun _ => .pure fun _ h => h
    intro t u t' hP hbody
    exact hok t u t' hP hbody
  refine (hbody.recover Uow.inTransaction_atomic.map
    fun _ => Uow.rollback_then_read_restores .claim _).weaken (fun _ h => h) ?_
  rintro _ db (h | ⟨rfl, h⟩)
  · exact h
  · exact hfailed db h

theorem autoOutcome_reject {reasonCodes : List ReasonCode}
    (h : CreateClaim.autoOutcome env prepared = some (.reject reasonCodes)) : reasonCodes ≠ [] := by
  obtain ⟨rejection, -, hrejection⟩ := Option.map_eq_some_iff.mp h
  split at hrejection
  · rename_i hrejected
    cases hrejection
    intro hempty
    rw [List.map_eq_nil_iff] at hempty
    simp only [ClaimRejection.isRejected, hempty, List.length_nil, lt_self_iff_false,
      decide_false, Bool.false_eq_true] at hrejected
  · split at hrejection <;> cases hrejection

/-- A claim is approved without a caseworker only when no rule rejects or holds it. -/
theorem autoOutcome_approve (h : CreateClaim.autoOutcome env prepared = some .approve) :
    prepared.validatedClaim.shouldAutoReject prepared.application prepared.existingSummaries
        (env.now .readReferenceDate) = some ⟨[]⟩
      ∧ prepared.validatedClaim.requiresManualReview prepared.application
          prepared.existingSummaries = false
      ∧ prepared.validatedClaim.isEligibleForAutoApproval prepared.application = true := by
  obtain ⟨rejection, hreject, hrejection⟩ := Option.map_eq_some_iff.mp h
  split at hrejection
  · cases hrejection
  · rename_i hnot
    split at hrejection
    · rename_i hrules
      have hempty : rejection.reasons = [] := by
        by_contra hne
        exact hnot (decide_eq_true (List.length_pos_iff.mpr hne))
      refine ⟨?_, eq_false_of_ne_true hrules.1, hrules.2⟩
      rw [hreject]
      cases rejection
      simp only at hempty
      rw [hempty]
    · cases hrejection

theorem isEligibleForAutoApproval_claimType {claim : DomainClaim} {application : Application}
    (h : claim.isEligibleForAutoApproval application = true) :
    claim.claimType = .paymentOnAccount := by
  simp only [DomainClaim.isEligibleForAutoApproval, Bool.and_eq_true, decide_eq_true_eq] at h
  exact h.1.1.1.1

/-- What holds of the decision of a request, from its two bodies and from the claim as submitted. -/
theorem decide_of_bodies {R : Store → Store → Prop} {P : Store → Prop}
    {Q : CreateClaimResult → Store → Prop}
    (hreject : ∀ reasonCodes t u t', CreateClaim.autoOutcome env prepared = some (.reject reasonCodes) →
      P t.store → CreateClaim.autoRejectClaim env faults prepared claim reasonCodes t = .ok u t' →
      R t.store t'.store ∧ Q ⟨claim.withStatus .rejected, some reasonCodes⟩ t'.store)
    (happrove : ∀ t u t', CreateClaim.autoOutcome env prepared = some .approve →
      P t.store → CreateClaim.autoApproveClaim env faults prepared claim t = .ok u t' →
      R t.store t'.store ∧ Q ⟨claim.withStatus .payInFull, none⟩ t'.store)
    (hsubmitted : ∀ s, P s → Q ⟨claim.withStatus .submitted, none⟩ s)
    (hheld : ∀ s, P s → Q ⟨claim, none⟩ s) :
    Uow.Triple R P (CreateClaim.decide env faults prepared claim) Q := by
  unfold CreateClaim.decide
  cases houtcome : CreateClaim.autoOutcome env prepared with
  | none => exact .throw
  | some outcome =>
      cases outcome with
      | reject reasonCodes =>
          refine autoDecision_triple ?_ hsubmitted
          intro t u t' hP hok
          exact hreject reasonCodes t u t' houtcome hP hok
      | approve =>
          refine autoDecision_triple ?_ hsubmitted
          intro t u t' hP hok
          exact happrove t u t' houtcome hP hok
      | hold => exact .pure hheld

theorem decide_triple : Uow.Triple (Transacts allowed) (Standing prepared claim)
    (CreateClaim.decide env faults prepared claim) (fun _ _ => True) := by
  refine decide_of_bodies ?_ ?_ (fun _ _ => trivial) fun _ _ => trivial
  · intro reasonCodes t u t' houtcome hstanding hok
    obtain ⟨rows, hdecided⟩ := autoRejectClaim_ok hok
    refine ⟨?_, trivial⟩
    refine .rejection claim _ rows hstanding.stored hstanding.status ?_ hdecided
    exact fun hempty => autoOutcome_reject houtcome (List.map_eq_nil_iff.mp hempty)
  · intro t u t' houtcome hstanding hok
    obtain ⟨lines, rows, hlines, hdecided⟩ := autoApproveClaim_ok hok
    have htype : claim.claimTypeId = .paymentOnAccount := by
      rw [hstanding.claimType]
      exact isEligibleForAutoApproval_claimType (autoOutcome_approve houtcome).2.2
    exact ⟨.autoApproval claim lines rows hstanding.stored hstanding.status htype
      (hstanding.noBill htype) hlines hdecided, trivial⟩

theorem create_triple : Uow.Triple (Transacts allowed) (fun _ => True)
    (CreateClaim.execute env faults command) (fun _ _ => True) := by
  refine .bind .check fun prepared => ?_
  refine .bind (Q := Standing prepared) (submit_standing.weaken (fun _ h => h.1) fun _ _ h => h)
    fun claim => ?_
  refine .bind (notify_triple (P := Standing prepared claim) ?_) fun _ => decide_triple
  intro s s' hnoted hstanding
  exact ⟨.note hnoted, hstanding.note hnoted⟩

end CreateSteps

section DecisionSteps

variable {allowed : Store → Claim → Prop} {env : Env} {faults : Faults}
variable {R : Store → Store → Prop} {P : Store → Prop}

/-- The payments a request asks for are of claims that may be paid. -/
def PaysAllowed (allowed : Store → Claim → Prop) (db : Store) (command : PayInFullClaimCommand) :
    Prop :=
  ∀ application claim, findDecidedApplication command.laaReference db = .ok application →
    claimForAssessment command.claimReference application.applicationId db = .ok claim →
    allowed db claim

/-- A payment commits one body at most. -/
theorem payment_of_body {command : PayInFullClaimCommand}
    (hbody : ∀ application t u t', findDecidedApplication command.laaReference t.store = .ok application →
      P t.store → PayInFullClaimUseCase.payClaim env faults command application t = .ok u t' →
      R t.store t'.store) :
    Uow.Triple R P (PayInFullClaimUseCase.execute env faults command) (fun _ _ => True) := by
  refine .bind .check fun application => ?_
  refine Uow.Triple.refuse (.inTransaction ?_) fun e => Uow.rollback_then_throw_refuses _
  rintro t u t' ⟨hfound, hstart⟩ h
  exact ⟨hbody application t u t' hfound hstart h, trivial⟩

theorem pay_triple {command : PayInFullClaimCommand} :
    Uow.Triple (Transacts allowed) (fun db => PaysAllowed allowed db command)
      (PayInFullClaimUseCase.execute env faults command) (fun _ _ => True) := by
  apply payment_of_body
  intro application t u t' happ hallowed hok
  obtain ⟨claim, lines, rows, date, hclaim, -, hlines, hdecided⟩ := payClaim_ok hok
  obtain ⟨hstored, hof, hstatus⟩ := claimForAssessment_ok hclaim
  refine .payment claim (PayInFullClaimUseCase.decisionAmounts command claim) date lines rows
    hstored hstatus (hallowed _ _ happ hclaim) ?_ hdecided
  rw [hof]
  exact hlines

theorem sendRejectionEmail_writesNothing {command : RejectClaimCommand} {application : Application}
    {claim : Claim} :
    Uow.Tx.WritesNothing
      (RejectClaimUseCase.sendRejectionEmail env faults command application claim) := by
  refine ⟨?_, ?_⟩
  · intro t u t' h
    simp only [RejectClaimUseCase.sendRejectionEmail, bind_ok, Tx.callOut_ok, Tx.send_ok] at h
    obtain ⟨_, _, ⟨-, rfl⟩, -, rfl⟩ := h
    rfl
  · intro t e t' h
    simp only [RejectClaimUseCase.sendRejectionEmail, bind_error, Tx.callOut_error, Tx.callOut_ok,
      Tx.send_error] at h
    rcases h with ⟨-, rfl, rfl⟩ | ⟨_, _, ⟨-, rfl⟩, -, rfl, rfl⟩ <;> exact ⟨rfl, rfl⟩

/-- So does a rejection: its email comes after the commit, and writes nothing. -/
theorem rejection_of_body {command : RejectClaimCommand}
    (hbody : ∀ application t claim t',
      findDecidedApplication command.laaReference t.store = .ok application → P t.store →
      RejectClaimUseCase.rejectClaim env faults command application t = .ok claim t' →
      R t.store t'.store) :
    Uow.Triple R P (RejectClaimUseCase.execute env faults command) (fun _ _ => True) := by
  refine .bind .check fun application => ?_
  refine .bind (Q := fun _ _ => True) (.orRollback (.inTransaction ?_)) fun claim => ?_
  · rintro t claim t' ⟨hfound, hstart⟩ h
    exact ⟨hbody application t claim t' hfound hstart h, trivial⟩
  · exact (Uow.Triple.attempt sendRejectionEmail_writesNothing).weaken (fun _ h => h)
      fun _ _ _ => trivial

theorem reject_triple {command : RejectClaimCommand} :
    Uow.Triple (Transacts allowed) (fun _ => True)
      (RejectClaimUseCase.execute env faults command) (fun _ _ => True) := by
  apply rejection_of_body
  intro application t claim t' _ _ hok
  obtain ⟨c, rows, hclaim, -, hdecided⟩ := rejectClaim_ok hok
  obtain ⟨hstored, -, hstatus⟩ := claimForAssessment_ok hclaim
  exact .rejection c _ rows hstored hstatus (List.cons_ne_nil _ _) hdecided

end DecisionSteps

section Runs

variable {allowed : Store → Claim → Prop} {admitted admitted' : Store → Submission → Prop}
variable {init db s : Store}

/-- The requests whose payments are of claims that may be paid. -/
def PaymentsAllowed (allowed : Store → Claim → Prop) (db : Store) (r : Submission) : Prop :=
  match r.request with
  | .payInFull command => PaysAllowed allowed db command
  | _ => True

theorem session_extends {r : Submission} (h : PaymentsAllowed allowed db r) :
    (Session.start db).Extends (Transacts allowed) (r.session db) := by
  unfold Submission.session
  cases hrequest : r.request with
  | create command => exact create_triple.ends (Session.start_clean db) trivial
  | payInFull command =>
      have hpays : PaysAllowed allowed db command := by
        simpa only [PaymentsAllowed, hrequest] using h
      exact pay_triple.ends (Session.start_clean db) hpays
  | reject command => exact reject_triple.ends (Session.start_clean db) trivial

/-- A list of requests, each admitted where it runs, is a run. -/
theorem reachable_afterAll {requests : List Submission} (h : Reachable admitted init db)
    (hall : ∀ (n : ℕ) (r : Submission), requests[n]? = some r →
      admitted (afterAll db (requests.take n)) r) :
    Reachable admitted init (afterAll db requests) := by
  induction requests generalizing db with
  | nil => exact h
  | cons r rest ih =>
      refine ih (.request r h (hall 0 r rfl)) ?_
      intro n r' hn
      exact hall (n + 1) r' hn

theorem Reachable.mono (h : Reachable admitted init db)
    (hle : ∀ db r, admitted db r → admitted' db r) : Reachable admitted' init db := by
  induction h with
  | start => exact .start
  | request r _ hr ih => exact .request r ih (hle _ r hr)

theorem CommittedState.mono (h : CommittedState admitted init s)
    (hle : ∀ db r, admitted db r → admitted' db r) : CommittedState admitted' init s := by
  obtain ⟨db, hdb, hs⟩ := h
  refine ⟨db, hdb.mono hle, ?_⟩
  rcases hs with hs | ⟨r, hr, hmem⟩
  · exact Or.inl hs
  · exact Or.inr ⟨r, hle db r hr, hmem⟩

theorem Reachable.transacts (h : Reachable (PaymentsAllowed allowed) init db) :
    Relation.ReflTransGen (Transacts allowed) init db := by
  induction h with
  | start => exact .refl
  | request r _ hr ih => exact ih.trans (session_extends hr).committed

/-- Every committed state of a run is reached by the transactions of claims. -/
theorem CommittedState.transacts (h : CommittedState (PaymentsAllowed allowed) init s) :
    Relation.ReflTransGen (Transacts allowed) init s := by
  obtain ⟨db, hdb, rfl | ⟨r, hr, hmem⟩⟩ := h
  · exact hdb.transacts
  · rcases (session_extends hr).trail s hmem with hnone | hsteps
    · exact absurd hnone List.not_mem_nil
    · exact hdb.transacts.trans hsteps

/-- An invariant of the transactions holds of every state a run commits. -/
theorem CommittedState.invariant {I : Store → Prop}
    (h : CommittedState (PaymentsAllowed allowed) init s) (hinit : I init)
    (hstep : ∀ s s', Transacts allowed s s' → I s → I s') : I s := by
  replace h := h.transacts
  induction h with
  | refl => exact hinit
  | tail _ hlast ih => exact hstep _ _ hlast ih

theorem Transacts.applications {s s' : Store} (h : Transacts allowed s s') :
    s'.applications = s.applications := by
  cases h with
  | submission claim applicationId row hbill h => exact h.applications
  | note h =>
      obtain ⟨events, rfl⟩ := h
      rfl
  | rejection claim reasons rows hclaim hstatus hreasons h => exact h.applications
  | autoApproval claim lines rows hclaim hstatus htype hbill hlines h => exact h.applications
  | payment claim decisionAmounts date lines rows hclaim hstatus hallowed hlines h =>
      exact h.applications

theorem anyRequest_paymentsAllowed (db : Store) (r : Submission) (_ : anyRequest db r) :
    PaymentsAllowed (fun _ _ => True) db r := by
  unfold PaymentsAllowed
  split
  · exact fun _ _ _ _ => trivial
  · trivial

/-- The requests of claims leave the applications as they are. -/
theorem Reachable.applications (h : Reachable anyRequest init db) :
    db.applications = init.applications := by
  replace h := (h.mono anyRequest_paymentsAllowed).transacts
  induction h with
  | refl => rfl
  | tail _ hlast ih => exact hlast.applications.trans ih

end Runs

/-! Requests about one granted application, for runs on fixed inputs. -/
namespace Sample

/-- A Payment on account claim with the given totals. -/
def poaCommand (poaType : POAType) (net gross vatZeroTotal : Option Decimal) :
    CreateClaimCommand where
  laaReference := "INQ-AAA-AAA"
  firmCode := "F1"
  officeCodes := ["O1"]
  claimType := .paymentOnAccount
  poaType := some poaType
  net := net
  gross := gross
  vatZeroTotal := vatZeroTotal
  claimantId := some "claimant@example.com"
  claimEvidenceIds := some [1]
  inquestOutcomes := []
  costTemplateFileId := none
  costTemplateFileName := none
  details := .empty

def finalBillCommand : CreateClaimCommand where
  laaReference := "INQ-AAA-AAA"
  firmCode := "F1"
  officeCodes := ["O1"]
  claimType := .finalBill
  poaType := none
  net := none
  gross := some 900
  vatZeroTotal := none
  claimantId := some "claimant@example.com"
  claimEvidenceIds := some [1]
  inquestOutcomes := [.naturalCauses]
  costTemplateFileId := some 7
  costTemplateFileName := some "costs.xlsx"
  details := ⟨some true, some false, some false, some 0, some 0, some 0, some 0, some "Nobody", some .one⟩

def payCommand (claimReference : String) (gross : Option Decimal) : PayInFullClaimCommand where
  laaReference := "INQ-AAA-AAA"
  claimReference := claimReference
  profitCostNet := gross
  profitCostGross := gross
  profitCostVatZero := none
  disbursementNet := gross.map fun _ => 0
  disbursementGross := gross.map fun _ => 0
  disbursementVatZero := none

def rejectCommand (claimReference : String) : RejectClaimCommand where
  laaReference := "INQ-AAA-AAA"
  claimReference := claimReference
  justification := "Not payable"

def create (command : CreateClaimCommand) : Submission := ⟨.create command, env, noFaults⟩
def pay (claimReference : String) (gross : Option Decimal) : Submission :=
  ⟨.payInFull (payCommand claimReference gross), env, noFaults⟩
def reject (claimReference : String) : Submission :=
  ⟨.reject (rejectCommand claimReference), env, noFaults⟩

def firstReference : String := "INQC-AAAA-CCCC"
def secondReference : String := "INQC-AAAA-EFFF"
def thirdReference : String := "INQC-AAAA-EEFF"

/-- A payment on account that a final bill then takes back. -/
def recoupingRun : List Submission :=
  [create (poaCommand .expertCost none (some 120) (some 20)),
    create finalBillCommand,
    pay secondReference (some 900)]

end Sample

end InquestsApi
