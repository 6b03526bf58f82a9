import InquestsApi.CreateOutcome
import InquestsApi.Lib.Window
import InquestsApi.ToldDecisions

/-! How many profit-cost claims of an application stand within a year. A claim is counted against
the year before it when it is created, and may be rejected or paid later. -/
namespace InquestsApi

open UnitOfWork Tx ClaimRepository HistoryEventRepository

/-- The width of the window, in microseconds. -/
def poaWindow : ℤ := 365 * Datetime.microsPerDay

/-- A profit-cost claim of an application that has not been rejected. -/
def Claim.isActivePoa (applicationId : ℕ) (claim : Claim) : Bool :=
  claim.applicationId = applicationId && claim.poaTypeId = some .profitCost
    && claim.statusId ≠ .rejected && claim.statusId ≠ .rejectedWithAmendment

theorem Claim.isActivePoa_iff {applicationId : ℕ} {claim : Claim} :
    claim.isActivePoa applicationId = true ↔ claim.applicationId = applicationId
      ∧ claim.poaTypeId = some .profitCost ∧ claim.statusId ≠ .rejected
      ∧ claim.statusId ≠ .rejectedWithAmendment := by
  simp [Claim.isActivePoa, and_assoc]

/-- The active profit-cost claims submitted between two instants, both included. -/
def Store.activePoasBetween (s : Store) (applicationId : ℕ) (first last : ℤ) : List Claim :=
  s.claims.filter fun c => c.isActivePoa applicationId
    && decide (first ≤ c.submissionDate.instant) && decide (c.submissionDate.instant ≤ last)

/-- Every active claim found fewer than the maximum in the year before it. -/
def PoaLimited (s : Store) : Prop :=
  ∀ applicationId, Window.Sparse (Claim.isActivePoa applicationId)
    (fun c => c.submissionDate.instant) poaWindow maxProfitCostPoaClaimCount s.claims

/-- The calls that record an automatic rejection go through. -/
structure RejectionPersists (faults : Faults) : Prop where
  decision : faults .createClaimDecision = none
  reasons : ∀ index, faults (.createDecisionReason index) = none
  status : faults .updateClaimStatus = none
  event : faults (.createHistoryEvent .poaAutoRejected) = none
  commit : faults (.commit .autoReject) = none

/-- What is promised of a create request: its claim is dated when it is checked, and an automatic
rejection of it is recorded. -/
structure CheckedAsDated (db : Store) (env : Env) (faults : Faults) (command : CreateClaimCommand) :
    Prop where
  date : env.now .createClaim = env.now .readReferenceDate
  persists : ∀ prepared reasonCodes, CreateClaim.prepare command db = .ok prepared →
    CreateClaim.autoOutcome env prepared = some (.reject reasonCodes) → RejectionPersists faults

/-- A claim that is committed over the maximum comes to its check: no flush of the confirmation
fails, and the rule on early claims stays in the calendar. -/
def ReachesCheck (db : Store) (env : Env) (faults : Faults) (command : CreateClaimCommand) : Prop :=
  ∀ prepared, CreateClaim.prepare command db = .ok prepared →
    Submittable env faults command prepared db →
    (prepared.validatedClaim.shouldAutoRejectForMaxPoaCount prepared.existingSummaries
      (env.now .readReferenceDate)).isSome →
    faults (.createHistoryEvent .claimSubmissionConfirmation) ≠ some .flush
      ∧ ¬ LeavesCalendar command prepared.application

/-- A condition on the create requests of a run; other requests meet any surroundings. -/
def onCreate (condition : Store → Env → Faults → CreateClaimCommand → Prop) (db : Store)
    (r : Submission) : Prop :=
  match r.request with
  | .create command => condition db r.env r.faults command
  | _ => True

section Counted

variable {env : Env} {command : CreateClaimCommand} {prepared : PreparedClaim}
variable {db s s' : Store} {claim : Claim} {referenceDate : Datetime}

theorem prepare_existingSummaries (h : CreateClaim.prepare command db = .ok prepared) :
    prepared.existingSummaries
      = (db.getClaimsByApplicationId prepared.application.applicationId).map (·.summary) :=
  (CreateClaim.prepare_ok h).existingSummaries

theorem activePoas_length (applicationId : ℕ) (cutoff : ℤ) :
    (((db.getClaimsByApplicationId applicationId).map (·.summary)).filter fun c =>
        c.poaType = some .profitCost && c.status ≠ .rejected && c.status ≠ .rejectedWithAmendment
          && cutoff ≤ c.submissionDate.instant).length
      = Window.countSince (Claim.isActivePoa applicationId) (fun c => c.submissionDate.instant) cutoff
          db.claims := by
  unfold Window.countSince Store.getClaimsByApplicationId
  rw [← List.countP_eq_length_filter, List.countP_map, List.countP_filter]
  apply List.countP_congr
  intro c _
  simp only [Claim.isActivePoa, Claim.summary, Function.comp_apply, Bool.and_eq_true,
    decide_eq_true_eq]
  tauto

/-- A profit-cost claim is under the maximum when the year before the reference date holds fewer
active ones. -/
theorem maxPoaCount_eq_none (h : CreateClaim.prepare command db = .ok prepared)
    (hpoa : prepared.validatedClaim.poaType = some .profitCost)
    (hunder : prepared.validatedClaim.shouldAutoRejectForMaxPoaCount prepared.existingSummaries
      referenceDate = none) :
    Window.countSince (Claim.isActivePoa prepared.application.applicationId)
      (fun c => c.submissionDate.instant) (referenceDate.instant - poaWindow) db.claims
        < maxProfitCostPoaClaimCount := by
  unfold DomainClaim.shouldAutoRejectForMaxPoaCount at hunder
  rw [if_neg (not_not.mpr hpoa), prepare_existingSummaries h] at hunder
  dsimp only at hunder
  rw [activePoas_length] at hunder
  split_ifs at hunder with hcount
  exact not_le.mp hcount

/-- A decision takes a claim away from the count, or leaves it there. -/
theorem Decided.poaLimited {verdict : Verdict} {rows : DecisionRows}
    (h : Decided claim.claimId verdict rows s s') (hkeys : (s.claims.map (·.claimId)).Nodup)
    (hclaim : claim ∈ s.claims) (hstatus : claim.statusId = .submitted) (hs : PoaLimited s) :
    PoaLimited s' := by
  intro applicationId
  rw [h.claims]
  unfold Store.setClaimStatus
  apply (hs applicationId).map
  · intro c hc hactive
    by_cases hsame : c.claimId = claim.claimId
    · have heq : c = claim := eq_of_claimId hkeys hc hclaim hsame
      rw [if_pos hsame] at hactive
      obtain ⟨happ, hpoa, -⟩ := Claim.isActivePoa_iff.mp hactive
      rw [heq] at happ hpoa ⊢
      refine Claim.isActivePoa_iff.mpr ⟨happ, hpoa, ?_⟩
      rw [hstatus]
      decide
    · rw [if_neg hsame] at hactive
      exact hactive
  · intro c
    by_cases hsame : c.claimId = claim.claimId
    · rw [if_pos hsame]
      rfl
    · rw [if_neg hsame]

end Counted

section Created

variable {env : Env} {faults : Faults} {command : CreateClaimCommand} {prepared : PreparedClaim}
variable {db : Store} {claim : Claim} {t t' : Txn Store Notification} {reasonCodes : List ReasonCode}
variable {s : Session Store Notification OrmObject}

theorem submitClaim_date (h : CreateClaim.submitClaim env faults command prepared t = .ok claim t') :
    claim.submissionDate = env.now .createClaim := by
  simp only [CreateClaim.submitClaim, createClaim, insertClaim, bind_ok, pure_ok, Tx.check_ok,
    portWrite_ok, except_bind_ok] at h
  obtain ⟨row, t₁, ⟨reference, _, -, -, _, hinsert, -⟩, _, _, -, _, _, -, rfl, -⟩ := h
  obtain ⟨_, -, _, -, _, -, _, -, _, -, hinsert⟩ := hinsert
  split at hinsert
  · cases hinsert
  · cases hinsert
    rfl

theorem submit_dated : Uow.Triple (fun _ _ => True) (fun _ => True)
    (CreateClaim.submit env faults command prepared)
    (fun claim _ => claim.submissionDate = env.now .createClaim) := by
  apply submit_triple
  intro t claim t' _ hbody
  exact ⟨trivial, submitClaim_date hbody⟩

/-- The claim of a request on top of the database, whatever has been decided of it. -/
def OnTop (db : Store) (claim : Claim) (s : Store) : Prop :=
  ∃ status, s.claims = db.claims ++ [claim.withStatus status]

theorem Held.onTop {s : Store} (h : Held command db prepared claim s) : OnTop db claim s :=
  ⟨claim.statusId, h.claims⟩

theorem Held.onTop_decided {verdict : Verdict} {rows : DecisionRows} {s s' : Store}
    (h : Held command db prepared claim s) (hdecided : Decided claim.claimId verdict rows s s') :
    OnTop db claim s' :=
  ⟨verdict.status, hdecided.claims.trans (h.setClaimStatus verdict.status)⟩

theorem decide_onTop : Uow.Triple (fun _ s' => OnTop db claim s') (Held command db prepared claim)
    (CreateClaim.decide env faults prepared claim) (fun _ _ => True) := by
  refine decide_of_bodies ?_ ?_ (fun _ _ => trivial) fun _ _ => trivial
  · intro reasonCodes t u t' _ hheld hok
    obtain ⟨rows, hdecided⟩ := autoRejectClaim_ok hok
    exact ⟨hheld.onTop_decided hdecided, trivial⟩
  · intro t u t' _ hheld hok
    obtain ⟨lines, rows, -, hdecided⟩ := autoApproveClaim_ok hok
    exact ⟨hheld.onTop_decided hdecided, trivial⟩

variable (env faults) in
/-- However the request ends after its submission, its claim stays on top. -/
theorem pursued_onTop (hclean : s.Clean) (hheld : Held command db prepared claim s.committed) :
    OnTop db claim (endState ((do
      CreateClaim.notify env faults prepared claim
      CreateClaim.decide env faults prepared claim : Request CreateClaimResult) s)).committed := by
  have htriple : Uow.Triple (fun _ s' => OnTop db claim s') (Held command db prepared claim)
      (do
        CreateClaim.notify env faults prepared claim
        CreateClaim.decide env faults prepared claim) (fun _ _ => True) := by
    refine .bind (notify_triple (P := Held command db prepared claim) ?_) fun _ => decide_onTop
    intro s s' hnoted hheld
    have hheld' := hheld.note hnoted
    exact ⟨hheld'.onTop, hheld'⟩
  exact (htriple.ends hclean hheld).committed_holds hheld.onTop

theorem createDecisionReasons_goes {claimDecisionId index : ℕ}
    (hports : ∀ index, faults (.createDecisionReason index) = none) :
    ∃ u t', CreateClaim.createDecisionReasons faults claimDecisionId index reasonCodes t = .ok u t' := by
  induction reasonCodes generalizing index t with
  | nil => exact ⟨(), t, rfl⟩
  | cons code rest ih =>
      obtain ⟨t₁, hfirst⟩ : ∃ t₁,
          createDecisionReason faults index claimDecisionId code none t = .ok () t₁ :=
        ⟨_, createDecisionReason_ok.mpr ⟨hports index, rfl⟩⟩
      unfold CreateClaim.createDecisionReasons
      exact bind_goes hfirst ih

/-- With its calls going through, the rejection of a stored claim is written. -/
theorem autoRejectClaim_goes (hports : RejectionPersists faults)
    (hclaim : ∃ c ∈ t.store.claims, c.claimId = claim.claimId) :
    ∃ u t', CreateClaim.autoRejectClaim env faults prepared claim reasonCodes t = .ok u t' := by
  unfold CreateClaim.autoRejectClaim
  obtain ⟨t₁, hdecision⟩ : ∃ t₁, createClaimDecision env faults claim.claimId .reject t
      = .ok (decisionRow env claim.claimId .reject t.store) t₁ :=
    ⟨_, createClaimDecision_ok.mpr ⟨hports.decision, rfl, rfl⟩⟩
  refine bind_goes hdecision ?_
  obtain ⟨u, t₂, hreasons⟩ : ∃ u t₂, CreateClaim.createDecisionReasons faults
      (decisionRow env claim.claimId .reject t.store).claimDecisionId 0 reasonCodes t₁ = .ok u t₂ :=
    createDecisionReasons_goes hports.reasons
  refine bind_goes hreasons ?_
  have hstored : ∃ c ∈ t₂.store.claims, c.claimId = claim.claimId := by
    obtain ⟨-, -, rfl⟩ := createClaimDecision_ok.mp hdecision
    obtain ⟨rows, -, -, rfl⟩ := createDecisionReasons_ok hreasons
    exact hclaim
  obtain ⟨t₃, hstatus⟩ : ∃ t₃, updateClaimStatus faults claim.claimId .rejected t₂ = .ok () t₃ :=
    ⟨_, updateClaimStatus_ok.mpr ⟨hstored, hports.status, rfl⟩⟩
  refine bind_goes hstatus ?_
  exact createHistoryEvent_goes _ system_actor hports.event

/-- A rejection that is recorded leaves the claim rejected. -/
theorem decide_rejects (houtcome : CreateClaim.autoOutcome env prepared = some (.reject reasonCodes))
    (hports : RejectionPersists faults) (hclean : s.Clean)
    (hheld : Held command db prepared claim s.committed) :
    ∃ result s', CreateClaim.decide env faults prepared claim s = .ok result s'
      ∧ s'.committed.claims = db.claims ++ [claim.withStatus .rejected] := by
  have hclaim : ∃ c ∈ s.working.claims, c.claimId = claim.claimId := by
    rw [hclean.working, hheld.claims]
    exact ⟨claim, List.mem_append_right _ (List.mem_singleton_self claim), rfl⟩
  obtain ⟨u, t', hbody⟩ : ∃ u t', CreateClaim.autoRejectClaim env faults prepared claim reasonCodes
      ⟨s.working, s.outbox⟩ = .ok u t' := autoRejectClaim_goes hports hclaim
  have hstage : (Uow.inTransaction (CreateClaim.autoRejectClaim env faults prepared claim reasonCodes)
      (commitFault faults .autoReject) : Request Unit) s
      = .ok u ⟨t'.store, t'.store, t'.outbox, true, fun _ => false, t'.store :: s.trail⟩ :=
    Uow.inTransaction_ok.mpr ⟨hclean.usable, commitFault_eq_none.mpr hports.commit, t', hbody, rfl⟩
  have hdecide : CreateClaim.decide env faults prepared claim s
      = .ok ⟨claim.withStatus .rejected, some reasonCodes⟩
        ⟨t'.store, t'.store, t'.outbox, true, fun _ => false, t'.store :: s.trail⟩ := by
    unfold CreateClaim.decide CreateClaim.autoDecision
    rw [houtcome]
    refine tryCatch_eq_of_ok ?_
    rw [bind_eq_of_ok hstage]
    rfl
  refine ⟨_, _, hdecide, ?_⟩
  obtain ⟨rows, hdecided⟩ := autoRejectClaim_ok hbody
  refine hdecided.claims.trans ?_
  rw [hclean.working]
  exact hheld.setClaimStatus .rejected

/-- A claim over the maximum is one to reject, unless the rule on early claims leaves the
calendar. -/
theorem autoOutcome_of_over (hpoa : prepared.validatedClaim.poaType = command.poaType)
    (hcalendar : ¬ LeavesCalendar command prepared.application)
    (hover : (prepared.validatedClaim.shouldAutoRejectForMaxPoaCount prepared.existingSummaries
      (env.now .readReferenceDate)).isSome) :
    ∃ reasonCodes, CreateClaim.autoOutcome env prepared = some (.reject reasonCodes) := by
  cases houtcome : CreateClaim.autoOutcome env prepared with
  | none => exact absurd ((autoOutcome_eq_none_iff hpoa).mp houtcome) hcalendar
  | some outcome =>
      obtain ⟨reason, hreason⟩ := Option.isSome_iff_exists.mp hover
      unfold CreateClaim.autoOutcome DomainClaim.shouldAutoReject at houtcome
      obtain ⟨rejection, hrejection, hsome⟩ := Option.map_eq_some_iff.mp houtcome
      obtain ⟨early, -, rfl⟩ := Option.map_eq_some_iff.mp hrejection
      rw [hreason] at hsome
      rw [if_pos (by simp [ClaimRejection.isRejected])] at hsome
      exact ⟨_, congrArg some hsome.symm⟩

/-- What a create request leaves of the claims: they are as they were, or its own claim is on top,
rejected if the year before it was full. -/
inductive Leaves (env : Env) (command : CreateClaimCommand) (db : Store) (claims : List Claim) : Prop
  | nothing (h : claims = db.claims)
  | claim (prepared : PreparedClaim) (row : Claim) (status : ClaimStatus)
      (hprepare : CreateClaim.prepare command db = .ok prepared)
      (hrow : SubmittedRow prepared.validatedClaim prepared.application.applicationId row db)
      (hdate : row.submissionDate = env.now .createClaim)
      (hclaims : claims = db.claims ++ [row.withStatus status])
      (hunder : status = .rejected
        ∨ prepared.validatedClaim.shouldAutoRejectForMaxPoaCount prepared.existingSummaries
          (env.now .readReferenceDate) = none)

theorem execute_leaves (hchecked : CheckedAsDated db env faults command)
    (hreaches : ReachesCheck db env faults command) :
    Leaves env command db
      (endState (CreateClaim.execute env faults command (.start db))).committed.claims := by
  cases hprepare : CreateClaim.prepare command db with
  | error e =>
      rw [execute_of_error hprepare]
      exact .nothing rfl
  | ok prepared =>
      rw [execute_of_ok hprepare]
      cases hsubmit : CreateClaim.submit env faults command prepared (.start db) with
      | error e s =>
          rw [bind_eq_of_error hsubmit]
          exact .nothing (congrArg Store.claims (submit_error hsubmit))
      | ok claim s =>
          obtain ⟨hsubmittable, hloaded⟩ := submit_ok hsubmit
          obtain ⟨hclean, -, hheld⟩ :=
            (submit_held _ (Session.start_clean db) ⟨hprepare, rfl⟩).1 claim s hsubmit
          have hdate := ((submit_dated _ (Session.start_clean db) trivial).1 claim s hsubmit).2.2
          rw [bind_eq_of_ok hsubmit]
          by_cases hover : (prepared.validatedClaim.shouldAutoRejectForMaxPoaCount
              prepared.existingSummaries (env.now .readReferenceDate)).isSome
          · obtain ⟨hport, hcalendar⟩ := hreaches prepared hprepare hsubmittable hover
            obtain ⟨u, s₁, hnotify⟩ : ∃ u s₁, CreateClaim.notify env faults prepared claim s = .ok u s₁ :=
              (notify_isOk_iff hclean hloaded).mpr hport
            obtain ⟨hclean₁, -, hheld₁⟩ := (notify_held s hclean hheld).1 u s₁ hnotify
            obtain ⟨reasonCodes, houtcome⟩ :=
              autoOutcome_of_over (prepare_poaType hprepare).1 hcalendar hover
            have hports := hchecked.persists prepared reasonCodes hprepare houtcome
            obtain ⟨result, s₂, hdecide, hclaims⟩ := decide_rejects houtcome hports hclean₁ hheld₁
            rw [bind_eq_of_ok hnotify, hdecide]
            exact .claim prepared claim .rejected hprepare hheld.stored hdate hclaims (.inl rfl)
          · obtain ⟨status, hclaims⟩ := pursued_onTop env faults hclean hheld
            exact .claim prepared claim status hprepare hheld.stored hdate hclaims
              (.inr (Option.not_isSome_iff_eq_none.mp hover))

theorem Leaves.poaLimited {s : Store} (h : Leaves env command db s.claims)
    (hdated : env.now .createClaim = env.now .readReferenceDate) (hdb : PoaLimited db) :
    PoaLimited s := by
  intro applicationId
  cases h with
  | nothing h =>
      rw [h]
      exact hdb applicationId
  | claim prepared row status hprepare hrow hdate hclaims hunder =>
      rw [hclaims]
      refine Window.sparse_append_singleton.mpr ⟨hdb applicationId, fun hactive => ?_⟩
      obtain ⟨happ, hpoa, hstatus, -⟩ := Claim.isActivePoa_iff.mp hactive
      rcases hunder with hrejected | hunder
      · exact absurd hrejected hstatus
      · have hkind : prepared.validatedClaim.poaType = some .profitCost := hrow.poaType.symm.trans hpoa
        have hof : prepared.application.applicationId = applicationId := hrow.applicationId.symm.trans happ
        have hfew := maxPoaCount_eq_none hprepare hkind hunder
        rw [hof, ← hdated, ← hdate] at hfew
        exact hfew

end Created

section Runs

variable {db init s : Store}

/-- The conditions under which the year's maximum is kept: those that are promised of a create
request, and that its claim comes to the check. -/
def limitKept : Store → Submission → Prop :=
  onCreate fun db env faults command =>
    CheckedAsDated db env faults command ∧ ReachesCheck db env faults command

theorem poaLimited_after {r : Submission} (hkeys : (db.claims.map (·.claimId)).Nodup)
    (hdb : PoaLimited db) (hr : limitKept db r) : PoaLimited (r.after db) := by
  obtain ⟨request, env, faults⟩ := r
  have hstart : (Session.start db : Session Store Notification OrmObject).Clean := Session.start_clean db
  cases request with
  | create command => exact (execute_leaves hr.1 hr.2).poaLimited hr.1.date hdb
  | payInFull command =>
      have htriple : Uow.Triple (fun _ s' => PoaLimited s') (· = db)
          (PayInFullClaimUseCase.execute env faults command) (fun _ _ => True) := by
        apply payment_of_body
        intro application t u t' _ hsame hok
        obtain ⟨claim, lines, rows, date, hclaim, -, -, hdecided⟩ := payClaim_ok hok
        obtain ⟨hstored, -, hstatus⟩ := claimForAssessment_ok hclaim
        subst hsame
        exact hdecided.poaLimited hkeys hstored hstatus hdb
      exact (htriple.ends hstart rfl).committed_holds hdb
  | reject command =>
      have htriple : Uow.Triple (fun _ s' => PoaLimited s') (· = db)
          (RejectClaimUseCase.execute env faults command) (fun _ _ => True) := by
        apply rejection_of_body
        intro application t claim t' _ hsame hok
        obtain ⟨c, rows, hclaim, -, hdecided⟩ := rejectClaim_ok hok
        obtain ⟨hstored, -, hstatus⟩ := claimForAssessment_ok hclaim
        subst hsame
        exact hdecided.poaLimited hkeys hstored hstatus hdb
      exact (htriple.ends hstart rfl).committed_holds hdb

theorem Reachable.poaLimited (h : Reachable limitKept init db) (hinit : Consistent init)
    (hlimited : PoaLimited init) : PoaLimited db := by
  induction h with
  | start => exact hlimited
  | @request db r h hr ih =>
      have hany : Reachable anyRequest init db := h.mono fun _ _ _ => trivial
      have hconsistent : Consistent db := CommittedState.consistent ⟨db, hany, Or.inl rfl⟩ hinit
      exact poaLimited_after hconsistent.claimKeys ih hr

end Runs

/-- Where every claim over the maximum comes to its check, no year holds more active profit-cost
claims of an application than the maximum, wherever it starts. -/
theorem activePoas_within_year {applications : List Application} {evidence : List ClaimEvidence}
    {events : List HistoryEvent} {s : Store}
    (h : Reachable limitKept (.initial applications evidence events) s) (applicationId : ℕ)
    (first : ℤ) :
    (s.activePoasBetween applicationId first (first + poaWindow)).length
      ≤ maxProfitCostPoaClaimCount := by
  have hlimited : PoaLimited s :=
    h.poaLimited (consistent_initial applications evidence events) fun _ => Window.sparse_nil
  have hwindow := (hlimited applicationId).countWithin_le first
  unfold Window.countWithin at hwindow
  rw [List.countP_eq_length_filter] at hwindow
  exact hwindow

namespace Sample

/-- A profit-cost claim that is approved at once. -/
def profitCost (faults : Faults) : Submission :=
  ⟨.create (poaCommand .profitCost (some 100) (some 120) none), env, faults⟩

/-- Five such claims on one day, the last in its own surroundings. -/
def fiveClaims (faults : Faults) : List Submission :=
  List.replicate 4 (profitCost noFaults) ++ [profitCost faults]

/-- The event of the confirmation fails in its flush. -/
def lostConfirmation : Faults := fun call =>
  if call = .createHistoryEvent .claimSubmissionConfirmation then some .flush else none

theorem rejectionPersists_lostConfirmation : RejectionPersists lostConfirmation :=
  ⟨rfl, fun _ => rfl, rfl, rfl, rfl⟩

theorem checkedAsDated_profitCost {db : Store} {faults : Faults} (hports : RejectionPersists faults) :
    onCreate CheckedAsDated db (profitCost faults) :=
  ⟨rfl, fun _ _ _ _ => hports⟩

/-- Requests of a run come to their checks when nothing fails: the certificate has no start date. -/
theorem limitKept_profitCost {db : Store} (hdb : db.applications = [application]) :
    limitKept db (profitCost noFaults) := by
  refine ⟨⟨rfl, fun _ _ _ _ => ⟨rfl, fun _ => rfl, rfl, rfl, rfl⟩⟩, ?_⟩
  intro prepared hprepare _ _
  refine ⟨(fun hflush => nomatch hflush), ?_⟩
  rintro ⟨-, start, hstart, -⟩
  have hmem := prepare_application hprepare
  rw [hdb, List.mem_singleton] at hmem
  rw [hmem] at hstart
  cases hstart

end Sample

theorem activePoas_within_year_fiveClaims :
    (afterAll Sample.store (Sample.fiveClaims noFaults)).claims.map (·.statusId)
        = [.payInFull, .payInFull, .payInFull, .payInFull, .rejected]
      ∧ ((afterAll Sample.store (Sample.fiveClaims noFaults)).activePoasBetween 1
          (Sample.env.now .createClaim).instant ((Sample.env.now .createClaim).instant + poaWindow)).length
        ≤ maxProfitCostPoaClaimCount := by
  have hreachable : Reachable limitKept (.initial [Sample.application] [] [])
      (afterAll Sample.store (Sample.fiveClaims noFaults)) := by
    apply reachable_afterAll .start
    intro n r hr
    have hbefore : Reachable anyRequest Sample.store
        (afterAll Sample.store ((Sample.fiveClaims noFaults).take n)) :=
      reachable_afterAll .start fun _ _ _ => trivial
    have hsame : r = Sample.profitCost noFaults := by
      rcases List.mem_append.mp (List.mem_of_getElem? hr) with hr | hr
      · exact List.eq_of_mem_replicate hr
      · exact List.mem_singleton.mp hr
    rw [hsame]
    exact Sample.limitKept_profitCost hbefore.applications
  exact ⟨by decide +kernel, activePoas_within_year hreachable 1 _⟩

/-- The confirmation of a fifth claim fails in a flush: the claim is committed and never checked. -/
theorem fifth_claim_unchecked :
    Reachable (onCreate CheckedAsDated) Sample.store
        (afterAll Sample.store (Sample.fiveClaims Sample.lostConfirmation))
      ∧ (∀ call, Sample.env.now call = Sample.env.now .createClaim)
      ∧ ((afterAll Sample.store (Sample.fiveClaims Sample.lostConfirmation)).activePoasBetween 1
          (Sample.env.now .createClaim).instant
          ((Sample.env.now .createClaim).instant + poaWindow)).length = 5 := by
  refine ⟨reachable_afterAll .start ?_, fun _ => rfl, by decide +kernel⟩
  intro n r hr
  rcases List.mem_append.mp (List.mem_of_getElem? hr) with hr | hr
  · rw [List.eq_of_mem_replicate hr]
    exact Sample.checkedAsDated_profitCost ⟨rfl, fun _ => rfl, rfl, rfl, rfl⟩
  · rw [List.mem_singleton.mp hr]
    exact Sample.checkedAsDated_profitCost Sample.rejectionPersists_lostConfirmation

end InquestsApi
