import InquestsApi.CaseRuns
import InquestsApi.Lib.Frame

/-! Which tables each transaction leaves as they were. -/
namespace InquestsApi

open UnitOfWork Tx ClaimRepository HistoryEventRepository ApplicationRepository

variable {γ : Type} {view : Store → γ}

/-- A view that does not read the history. -/
structure IgnoresHistory (view : Store → γ) : Prop where
  history : ∀ (s : Store) events, view { s with historyEvents := events } = view s

/-- A view that reads neither the decisions on claims nor what they write. -/
structure IgnoresDecisions (view : Store → γ) : Prop extends IgnoresHistory view where
  status : ∀ (s : Store) claimId status, view (s.setClaimStatus claimId status) = view s
  decisions : ∀ (s : Store) rows, view { s with claimDecisions := rows } = view s
  reasons : ∀ (s : Store) rows, view { s with decisionReasons := rows } = view s
  amounts : ∀ (s : Store) rows, view { s with claimDecisionAmounts := rows } = view s
  extracts : ∀ (s : Store) rows, view { s with claimPaymentExtracts := rows } = view s

/-- A view that reads nothing about claims. -/
structure IgnoresClaims (view : Store → γ) : Prop extends IgnoresDecisions view where
  claims : ∀ (s : Store) rows, view { s with claims := rows } = view s
  evidence : ∀ (s : Store) rows, view { s with claimEvidence := rows } = view s
  outcomes : ∀ (s : Store) rows, view { s with claimInquestOutcomes := rows } = view s
  templates : ∀ (s : Store) rows, view { s with claimCostTemplates := rows } = view s

/-- A view that does not read what an update of an application writes. -/
structure IgnoresUpdates (view : Store → γ) : Prop extends IgnoresHistory view where
  proceeding : ∀ (s : Store) applicationId (f : Application → ApplicationProceeding),
    view (s.updateApplication applicationId fun a => { a with proceeding := f a }) = view s
  client : ∀ (s : Store) applicationId (f : Application → Client),
    view (s.updateApplication applicationId fun a => { a with client := f a }) = view s
  publicBodies : ∀ (s : Store) applicationId (f : Application → List PublicBody),
    view (s.updateApplication applicationId fun a => { a with publicBodies := f a }) = view s

/-- A view that reads nothing about applications. -/
structure IgnoresApplications (view : Store → γ) : Prop extends IgnoresUpdates view where
  applications : ∀ (s : Store) rows, view { s with applications := rows } = view s
  duplicates : ∀ (s : Store) rows, view { s with duplicateApplicationRecords := rows } = view s

section Calls

variable (env : Env) (faults : Faults)

theorem createHistoryEvent_keeps (hview : IgnoresHistory view) (event : NewEvent) :
    Keeps view (createHistoryEvent env faults event) := by
  refine .bind (.check _) fun actor => .flush ?_
  rintro s u s' h
  cases h
  exact hview.history s _

theorem createClaimDecision_keeps (hview : IgnoresDecisions view) (claimId : ℕ)
    (status : ClaimDecisionStatus) :
    Keeps view (createClaimDecision env faults claimId status) := by
  unfold createClaimDecision
  refine .flush ?_
  intro s d s' h
  cases h
  exact hview.decisions s _

theorem createDecisionReason_keeps (hview : IgnoresDecisions view) (index claimDecisionId : ℕ)
    (reasonCode : ReasonCode) (justification : Option String) :
    Keeps view (createDecisionReason faults index claimDecisionId reasonCode justification) := by
  unfold createDecisionReason
  refine .flush ?_
  intro s u s' h
  cases h
  exact hview.reasons s _

theorem createDecisionReasons_keeps (hview : IgnoresDecisions view) (claimDecisionId index : ℕ)
    (reasonCodes : List ReasonCode) :
    Keeps view (CreateClaim.createDecisionReasons faults claimDecisionId index reasonCodes) := by
  induction reasonCodes generalizing index with
  | nil => exact .pure ()
  | cons reasonCode rest ih =>
      exact .bind (createDecisionReason_keeps faults hview _ _ _ _) fun _ => ih _

theorem createClaimDecisionAmount_keeps (hview : IgnoresDecisions view) (claimDecisionId : ℕ)
    (amounts : PayInFullClaim) :
    Keeps view (createClaimDecisionAmount faults claimDecisionId amounts) := by
  intro t u t' h
  obtain ⟨row, -, rfl⟩ := createClaimDecisionAmount_ok h
  exact hview.amounts t.store _

theorem createPaymentExtract_keeps (hview : IgnoresDecisions view) (claimId index : ℕ)
    (lines : List PaymentExtractLine) :
    Keeps view (createPaymentExtract env faults claimId index lines) := by
  intro t u t' h
  obtain ⟨rows, -, rfl⟩ := createPaymentExtract_ok h
  exact hview.extracts t.store _

theorem updateClaimStatus_keeps (hview : IgnoresDecisions view) (claimId : ℕ)
    (status : ClaimStatus) : Keeps view (updateClaimStatus faults claimId status) := by
  refine .bind (.check _) fun _ => .flush ?_
  intro s u s' h
  cases h
  exact hview.status s claimId status

end Calls

section Claims

variable (env : Env) (faults : Faults) (prepared : PreparedClaim) (claim : Claim)

open CreateClaim

theorem submitClaim_keeps (hview : IgnoresClaims view) (command : CreateClaimCommand) :
    Keeps view (submitClaim env faults command prepared) := by
  refine .bind ?_ fun row => .bind ?_ fun _ => .bind ?_ fun _ => .pure row
  · intro t row t' h
    obtain ⟨-, rfl⟩ := createClaim_ok h
    exact hview.claims t.store _
  · intro t u t' h
    obtain ⟨evidence, outcomes, templates, rfl⟩ := linkAttachments_ok h
    exact (hview.templates _ templates).trans
      ((hview.outcomes _ outcomes).trans (hview.evidence t.store evidence))
  · exact createHistoryEvent_keeps env faults hview.toIgnoresHistory _

theorem confirmSubmission_keeps (hview : IgnoresHistory view) :
    Keeps view (confirmSubmission env faults prepared claim) :=
  .bind (createHistoryEvent_keeps env faults hview _) fun _ =>
    .bind (.callOut _ _) fun _ => .send _ _ _

theorem autoRejectClaim_keeps (hview : IgnoresDecisions view) (reasonCodes : List ReasonCode) :
    Keeps view (autoRejectClaim env faults prepared claim reasonCodes) := by
  refine .bind (createClaimDecision_keeps env faults hview _ _) fun decision => ?_
  refine .bind (createDecisionReasons_keeps faults hview _ _ _) fun _ => ?_
  refine .bind (updateClaimStatus_keeps faults hview _ _) fun _ => ?_
  exact createHistoryEvent_keeps env faults hview.toIgnoresHistory _

theorem autoApproveClaim_keeps (hview : IgnoresDecisions view) :
    Keeps view (autoApproveClaim env faults prepared claim) := by
  refine .bind (createClaimDecision_keeps env faults hview _ _) fun decision => ?_
  refine .bind (createClaimDecisionAmount_keeps faults hview _ _) fun _ => ?_
  refine .bind (.check _) fun lines => ?_
  refine .bind (createPaymentExtract_keeps env faults hview _ _ _) fun _ => ?_
  refine .bind (updateClaimStatus_keeps faults hview _ _) fun _ => ?_
  exact createHistoryEvent_keeps env faults hview.toIgnoresHistory _

theorem payClaim_keeps (hview : IgnoresDecisions view) (command : PayInFullClaimCommand)
    (application : Application) :
    Keeps view (PayInFullClaimUseCase.payClaim env faults command application) := by
  have hhistory := hview.toIgnoresHistory
  refine .bind (.check _) fun claim => .bind (.check _) fun _ => ?_
  refine .bind (createClaimDecision_keeps env faults hview _ _) fun decision => ?_
  refine .bind (createClaimDecisionAmount_keeps faults hview _ _) fun _ => ?_
  refine .bind (updateClaimStatus_keeps faults hview _ _) fun _ => ?_
  refine .bind (.bind (.check _) fun _ => createPaymentExtract_keeps env faults hview _ _ _) fun _ => ?_
  refine .bind (createHistoryEvent_keeps env faults hhistory _) fun _ => ?_
  refine .bind (.callOut _ _) fun _ => .bind (.send _ _ _) fun _ => ?_
  exact createHistoryEvent_keeps env faults hhistory _

theorem rejectClaim_keeps (hview : IgnoresDecisions view) (command : RejectClaimCommand)
    (application : Application) :
    Keeps view (RejectClaimUseCase.rejectClaim env faults command application) := by
  have hhistory := hview.toIgnoresHistory
  refine .bind (.check _) fun claim => ?_
  refine .bind (createClaimDecision_keeps env faults hview _ _) fun decision => ?_
  refine .bind (createDecisionReason_keeps faults hview _ _ _ _) fun _ => ?_
  refine .bind (updateClaimStatus_keeps faults hview _ _) fun _ => ?_
  refine .bind (createHistoryEvent_keeps env faults hhistory _) fun _ => ?_
  exact .bind (createHistoryEvent_keeps env faults hhistory _) fun _ => .pure _

theorem sendApprovedEmail_keeps (hview : IgnoresHistory view) (application : Application) :
    Keeps view (SendAutoApprovedPoaClaimEmailsUseCase.sendApprovedEmail env faults claim
      application) :=
  .bind (.callOut _ _) fun _ => .bind (.send _ _ _) fun _ =>
    createHistoryEvent_keeps env faults hview _

end Claims

section Applications

variable (env : Env) (faults : Faults) (application : Application)

theorem createBody_keeps (hview : IgnoresApplications view) (request : ApplicationCreate)
    (firmCode : String) (userOfficeCodes : List String) :
    Keeps view (CreateApplicationUseCase.createBody env faults request firmCode
      userOfficeCodes) := by
  have hhistory := hview.toIgnoresHistory
  intro t row t' h
  obtain ⟨t₁, u, hcreate, hsubmit⟩ := createBody_ok.mp h
  obtain ⟨_, _, _, -, -, -, -, -, rfl⟩ := createApplication_ok.mp hcreate
  obtain ⟨-, -, -, ids, _, _, -, -, -, -, -, -, -, rfl⟩ :=
    CreateApplicationUseCase.submitApplication_ok.mp hsubmit
  exact (hhistory.history _ _).trans ((hview.duplicates _ _).trans (hview.applications t.store _))

theorem recordDecision_keeps (hview : IgnoresUpdates view) (proceeding : ApplicationProceeding)
    (eventData : List (String × Json)) :
    Keeps view (recordDecision env faults application proceeding eventData) := by
  refine .bind (.flush ?_) fun _ => createHistoryEvent_keeps env faults hview.toIgnoresHistory _
  intro s u s' h
  cases h
  exact hview.proceeding s application.applicationId fun _ => proceeding

theorem grantBody_keeps (hview : IgnoresUpdates view) (request : GrantApplicationUpdate) :
    Keeps view (GrantDecisionUseCase.grantBody env faults request application) := by
  have hhistory := hview.toIgnoresHistory
  refine .bind (recordDecision_keeps env faults application hview _ _) fun _ => ?_
  refine .bind ?_ fun certificate => ?_
  · refine .bind (.callOut _ _) fun _ => .bind (.callOut _ _) fun _ => .bind (.check _) fun addressed => ?_
    exact .bind (.touch fun s => hview.client s _ fun _ => addressed.2) fun _ => .check _
  · refine .bind (.bind (.callOut _ _) fun _ => .send _ _ _) fun _ => ?_
    refine .bind (createHistoryEvent_keeps env faults hhistory _) fun _ => ?_
    refine .bind (createHistoryEvent_keeps env faults hhistory _) fun _ => ?_
    refine .bind (.bind (.callOut _ _) fun _ => .send _ _ _) fun _ => ?_
    exact .bind (.check _) fun event => createHistoryEvent_keeps env faults hhistory _

theorem refuseBody_keeps (hview : IgnoresUpdates view) (request : RefuseApplicationUpdate) :
    Keeps view (RefuseDecisionUseCase.refuseBody env faults request application) := by
  refine .bind (recordDecision_keeps env faults application hview _ _) fun _ => ?_
  exact .bind (.send _ _ _) fun _ => createHistoryEvent_keeps env faults hview.toIgnoresHistory _

theorem updatePublicBodies_keeps (hview : IgnoresUpdates view)
    (publicBodyIds : List PublicBodyId) :
    Keeps view (UpdatePublicBodiesUseCase.updatePublicBodies env faults publicBodyIds
      application) := by
  refine .bind (.flush ?_) fun _ => createHistoryEvent_keeps env faults hview.toIgnoresHistory _
  intro s u s' h
  cases h
  exact hview.publicBodies s application.applicationId fun _ => publicBodyIds.map (·.publicBody)

end Applications

/-- The transaction of a creation. -/
inductive CreatesApplication (permitted : CasePermissions) : Store → Store → Prop
  | body {env : Env} {faults : Faults} {request : ApplicationCreate} {firmCode : String}
      {userOfficeCodes : List String} {application : Application} {t t' : Txn Store Notification}
      (hpermitted : permitted.creates request)
      (h : CreateApplicationUseCase.createBody env faults request firmCode userOfficeCodes t
        = .ok application t') : CreatesApplication permitted t.store t'.store

/-- The transaction that submits a claim. -/
inductive SubmitsClaim : Store → Store → Prop
  | body {env : Env} {faults : Faults} {command : CreateClaimCommand} {prepared : PreparedClaim}
      {claim : Claim} {t t' : Txn Store Notification}
      (hprepared : CreateClaim.prepare command t.store = .ok prepared)
      (h : CreateClaim.submitClaim env faults command prepared t = .ok claim t') :
      SubmitsClaim t.store t'.store

section Transactions

variable {permitted : CasePermissions} {s s' : Store}

/-- All other transactions decide, update or note what is there. -/
theorem CaseTransacts.keeps (hdecisions : IgnoresDecisions view) (hupdates : IgnoresUpdates view)
    (h : CaseTransacts permitted s s') :
    view s' = view s ∨ CreatesApplication permitted s s' ∨ SubmitsClaim s s' := by
  have hhistory := hupdates.toIgnoresHistory
  cases h with
  | creation hpermitted h => exact .inr (.inl (.body hpermitted h))
  | submission hprepared h => exact .inr (.inr (.body hprepared h))
  | grant hfound h => exact .inl (grantBody_keeps _ _ _ hupdates _ _ _ _ h)
  | refusal hfound hpermitted h => exact .inl (refuseBody_keeps _ _ _ hupdates _ _ _ _ h)
  | publicBodies hchecked h => exact .inl (updatePublicBodies_keeps _ _ _ hupdates _ _ _ _ h)
  | note hfound h => exact .inl (createHistoryEvent_keeps _ _ hhistory _ _ _ _ h)
  | confirmation hpursued h => exact .inl (confirmSubmission_keeps _ _ _ _ hhistory _ _ _ h)
  | autoRejection hpursued houtcome h =>
      exact .inl (autoRejectClaim_keeps _ _ _ _ hdecisions _ _ _ _ h)
  | autoApproval hpursued houtcome h =>
      exact .inl (autoApproveClaim_keeps _ _ _ _ hdecisions _ _ _ h)
  | payment hfound h => exact .inl (payClaim_keeps _ _ hdecisions _ _ _ _ _ h)
  | rejection hfound h => exact .inl (rejectClaim_keeps _ _ hdecisions _ _ _ _ _ h)
  | approvedEmail hawaiting h => exact .inl (sendApprovedEmail_keeps _ _ _ hhistory _ _ _ _ h)

/-- A view of the applications alone changes when one is created. -/
theorem CaseTransacts.keeps_applications (hclaims : IgnoresClaims view)
    (hupdates : IgnoresUpdates view) (h : CaseTransacts permitted s s') :
    view s' = view s ∨ CreatesApplication permitted s s' := by
  rcases h.keeps hclaims.toIgnoresDecisions hupdates with hkept | hcreates | hsubmits
  · exact .inl hkept
  · exact .inr hcreates
  · cases hsubmits with
    | body hprepared hbody => exact .inl (submitClaim_keeps _ _ _ hclaims _ _ _ _ hbody)

end Transactions

end InquestsApi
