import InquestsApi.Lib.TwoRuns
import InquestsApi.ProviderAnswers

/-! Two create requests side by side, with one command in one set of surroundings. Once their checks
agree, the rest agrees too: only the keys and references of the two claims may differ. -/
namespace InquestsApi

open UnitOfWork ClaimRepository HistoryEventRepository CreateClaim

/-- The claim has a row. -/
def Filed (c : Claim) (s : Store) : Prop := ∃ row ∈ s.claims, row.claimId = c.claimId

theorem filed_iff {c : Claim} {s : Store} :
    Filed c s ↔ s.claims.any (fun row => row.claimId = c.claimId) = true := by
  simp [Filed]

def BothFiled (c₁ c₂ : Claim) (s₁ s₂ : Store) : Prop := Filed c₁ s₁ ∧ Filed c₂ s₂

/-- Both claims have rows, and no cost template yet. -/
structure BothNew (c₁ c₂ : Claim) (s₁ s₂ : Store) : Prop where
  filed : BothFiled c₁ c₂ s₁ s₂
  template₁ : ∀ template ∈ s₁.claimCostTemplates, template.claimId ≠ c₁.claimId
  template₂ : ∀ template ∈ s₂.claimCostTemplates, template.claimId ≠ c₂.claimId

/-- A claim reference is found in both databases or in neither. -/
def SameDraws (env : Env) (db₁ db₂ : Store) : Prop :=
  (∃ reference, getClaimReference env db₁ = .ok reference)
    ↔ ∃ reference, getClaimReference env db₂ = .ok reference

section Writes

variable {env : Env} {faults : Faults} {P : Store → Store → Prop}

theorem portWrite_alike {α₁ α₂ : Type} {call : Call} {Q : α₁ → α₂ → Store → Store → Prop}
    {write₁ : Store → Except ApiError (α₁ × Store)} {write₂ : Store → Except ApiError (α₂ × Store)}
    (h : ∀ s₁ s₂, P s₁ s₂ → SameCheck (fun p₁ p₂ => Q p₁.1 p₂.1 p₁.2 p₂.2) (write₁ s₁) (write₂ s₂)) :
    Tx.Alike P (portWrite faults call write₁) (portWrite faults call write₂) Q :=
  Tx.Alike.flush h

/-- An event is written to both or to neither, if it names the same actor. -/
theorem createHistoryEvent_alike {event₁ event₂ : NewEvent} (hactor : event₁.actor = event₂.actor)
    (hreference : event₁.eventReference = event₂.eventReference)
    (hkept : ∀ (s₁ s₂ : Store) rows₁ rows₂, P s₁ s₂ →
      P { s₁ with historyEvents := rows₁ } { s₂ with historyEvents := rows₂ }) :
    Tx.Alike P (createHistoryEvent env faults event₁) (createHistoryEvent env faults event₂)
      (fun _ _ => P) := by
  unfold createHistoryEvent
  rw [hactor, hreference]
  refine Tx.Alike.bind (Q := fun _ _ => P) (Tx.Alike.check ?_) fun _ _ => portWrite_alike ?_
  · intro s₁ s₂ hP
    exact SameCheck.refl _ fun _ _ => hP
  · intro s₁ s₂ hP
    exact hkept s₁ s₂ _ _ hP

end Writes

section Submission

variable {env : Env} {faults : Faults} {command : CreateClaimCommand} {prepared : PreparedClaim}
variable {c₁ c₂ : Claim} {db₁ db₂ : Store}

theorem drawReference_error {bannedWords : List String} {generate : ℕ → String} {taken : String → Bool}
    {failure : String} {remaining attempt : ℕ} {e : ApiError}
    (h : drawReference bannedWords generate taken failure remaining attempt = .error e) :
    e = .runtimeError failure := by
  induction remaining generalizing attempt with
  | zero =>
      cases h
      rfl
  | succ remaining ih =>
      unfold drawReference at h
      split at h
      · cases h
      · exact ih h

theorem getClaimReference_alike (h : SameDraws env db₁ db₂) :
    SameCheck (fun reference₁ reference₂ => (∀ c ∈ db₁.claims, c.claimReference ≠ reference₁)
        ∧ ∀ c ∈ db₂.claims, c.claimReference ≠ reference₂)
      (getClaimReference env db₁) (getClaimReference env db₂) := by
  cases h₁ : getClaimReference env db₁ with
  | ok reference₁ =>
      obtain ⟨reference₂, h₂⟩ := h.mp ⟨reference₁, h₁⟩
      rw [h₂]
      exact ⟨(getClaimReference_ok h₁).2, (getClaimReference_ok h₂).2⟩
  | error e₁ =>
      cases h₂ : getClaimReference env db₂ with
      | ok reference₂ =>
          obtain ⟨reference₁, hfound⟩ := h.mpr ⟨reference₂, h₂⟩
          rw [h₁] at hfound
          cases hfound
      | error e₂ => exact (drawReference_error h₁).trans (drawReference_error h₂).symm

/-- What the write of a claim looks at in the database is its keys and references only. -/
theorem insertClaim_alike {applicationId : ℕ} {reference₁ reference₂ : String} {claim : DomainClaim}
    {claimantId : Option String} {funds : Decimal} (hkeys₁ : SchemaKeys db₁) (hkeys₂ : SchemaKeys db₂)
    (hfree₁ : ∀ c ∈ db₁.claims, c.claimReference ≠ reference₁)
    (hfree₂ : ∀ c ∈ db₂.claims, c.claimReference ≠ reference₂) :
    SameCheck (fun p₁ p₂ => BothNew p₁.1 p₂.1 p₁.2 p₂.2)
      (insertClaim env applicationId reference₁ claim claimantId funds db₁)
      (insertClaim env applicationId reference₂ claim claimantId funds db₂) := by
  have hany₁ : ¬ db₁.claims.any (fun c => c.claimReference = reference₁) = true := by
    simpa using hfree₁
  have hany₂ : ¬ db₂.claims.any (fun c => c.claimReference = reference₂) = true := by
    simpa using hfree₂
  unfold insertClaim
  refine (SameCheck.refl (V := fun _ _ => True) _ fun _ _ => trivial).bind fun net₁ net₂ _ => ?_
  refine (SameCheck.refl (V := fun _ _ => True) _ fun _ _ => trivial).bind fun gross₁ gross₂ _ => ?_
  refine (SameCheck.refl (V := fun _ _ => True) _ fun _ _ => trivial).bind fun vatZero₁ vatZero₂ _ => ?_
  refine (SameCheck.refl (V := fun _ _ => True) _ fun _ _ => trivial).bind fun fundsRow₁ fundsRow₂ _ => ?_
  refine (SameCheck.refl (V := fun _ _ => True) _ fun _ _ => trivial).bind fun details₁ details₂ _ => ?_
  dsimp only
  rw [if_neg hany₁, if_neg hany₂]
  refine ⟨⟨⟨_, ?_, rfl⟩, ⟨_, ?_, rfl⟩⟩, ?_, ?_⟩
  · exact List.mem_append_right _ (List.mem_singleton.mpr rfl)
  · exact List.mem_append_right _ (List.mem_singleton.mpr rfl)
  · intro template htemplate
    exact nextKey_ne (hkeys₁.templateOf template htemplate)
  · intro template htemplate
    exact nextKey_ne (hkeys₂.templateOf template htemplate)

theorem createClaim_alike {applicationId : ℕ} {claim : DomainClaim} {claimantId : Option String}
    {funds : Decimal} (hkeys₁ : SchemaKeys db₁) (hkeys₂ : SchemaKeys db₂)
    (hdraws : SameDraws env db₁ db₂) :
    Tx.Alike (fun s₁ s₂ => s₁ = db₁ ∧ s₂ = db₂)
      (createClaim env faults applicationId claim claimantId funds)
      (createClaim env faults applicationId claim claimantId funds) BothNew := by
  unfold createClaim
  refine Tx.Alike.bind (Q := fun reference₁ reference₂ s₁ s₂ => (s₁ = db₁ ∧ s₂ = db₂)
    ∧ (∀ c ∈ db₁.claims, c.claimReference ≠ reference₁)
    ∧ ∀ c ∈ db₂.claims, c.claimReference ≠ reference₂) (Tx.Alike.check ?_) ?_
  · rintro _ _ ⟨rfl, rfl⟩
    exact (getClaimReference_alike hdraws).mono fun _ _ hfree => ⟨⟨rfl, rfl⟩, hfree⟩
  · intro reference₁ reference₂
    apply portWrite_alike
    rintro _ _ ⟨⟨rfl, rfl⟩, hfree₁, hfree₂⟩
    exact insertClaim_alike hkeys₁ hkeys₂ hfree₁ hfree₂

theorem linkEvidence_alike : Tx.Alike (BothNew c₁ c₂) (linkEvidence faults command c₁)
    (linkEvidence faults command c₂) (fun _ _ => BothNew c₁ c₂) := by
  unfold linkEvidence
  cases command.claimEvidenceIds with
  | none => exact Tx.Alike.pure fun _ _ h => h
  | some evidenceIds =>
      apply portWrite_alike
      intro s₁ s₂ h
      exact ⟨h.filed, h.template₁, h.template₂⟩

theorem linkInquestOutcomes_alike {outcomes : List InquestOutcomeCode} :
    Tx.Alike (BothNew c₁ c₂) (linkInquestOutcomesToClaim faults c₁.claimId outcomes)
      (linkInquestOutcomesToClaim faults c₂.claimId outcomes) (fun _ _ => BothNew c₁ c₂) := by
  apply portWrite_alike
  intro s₁ s₂ h
  exact ⟨h.filed, h.template₁, h.template₂⟩

/-- A new claim has no cost template yet, in either database. -/
theorem linkCostTemplate_alike : Tx.Alike (BothNew c₁ c₂) (linkCostTemplate faults command c₁)
    (linkCostTemplate faults command c₂) (fun _ _ => BothFiled c₁ c₂) := by
  unfold linkCostTemplate
  cases command.costTemplateFileId with
  | none => exact Tx.Alike.pure fun _ _ h => h.filed
  | some fileId =>
      cases command.costTemplateFileName with
      | none => exact Tx.Alike.pure fun _ _ h => h.filed
      | some fileName =>
          apply portWrite_alike
          intro s₁ s₂ h
          have hnone₁ : ¬ s₁.claimCostTemplates.any (fun t => t.claimId = c₁.claimId) = true := by
            simpa using h.template₁
          have hnone₂ : ¬ s₂.claimCostTemplates.any (fun t => t.claimId = c₂.claimId) = true := by
            simpa using h.template₂
          rw [if_neg hnone₁, if_neg hnone₂]
          exact h.filed

theorem submitClaim_alike (hkeys₁ : SchemaKeys db₁) (hkeys₂ : SchemaKeys db₂)
    (hdraws : SameDraws env db₁ db₂) :
    Tx.Alike (fun s₁ s₂ => s₁ = db₁ ∧ s₂ = db₂) (submitClaim env faults command prepared)
      (submitClaim env faults command prepared) BothFiled := by
  unfold submitClaim
  refine (createClaim_alike hkeys₁ hkeys₂ hdraws).bind fun c₁ c₂ => ?_
  have hattachments : Tx.Alike (BothNew c₁ c₂) (linkAttachments faults command c₁)
      (linkAttachments faults command c₂) (fun _ _ => BothFiled c₁ c₂) :=
    linkEvidence_alike.bind fun _ _ => linkInquestOutcomes_alike.bind fun _ _ =>
      linkCostTemplate_alike
  refine hattachments.bind fun _ _ => ?_
  have hevent : Tx.Alike (BothFiled c₁ c₂)
      (createHistoryEvent env faults (submittedEvent command prepared c₁))
      (createHistoryEvent env faults (submittedEvent command prepared c₂))
      (fun _ _ => BothFiled c₁ c₂) :=
    createHistoryEvent_alike rfl rfl fun _ _ _ _ h => h
  exact hevent.bind fun _ _ => Tx.Alike.pure fun _ _ h => h

/-- Both claims are submitted, or neither is. -/
theorem submit_alike (hkeys₁ : SchemaKeys db₁) (hkeys₂ : SchemaKeys db₂)
    (hdraws : SameDraws env db₁ db₂) :
    Uow.Alike (fun s₁ s₂ => s₁ = db₁ ∧ s₂ = db₂) (submit env faults command prepared)
      (submit env faults command prepared) BothFiled (fun _ _ => True) := by
  unfold submit
  apply Uow.Alike.orRollback
  have hstage : Uow.Alike (fun s₁ s₂ => s₁ = db₁ ∧ s₂ = db₂)
      (Uow.inTransaction (submitClaim env faults command prepared) (commitFault faults .submission)
        : Request Claim)
      (Uow.inTransaction (submitClaim env faults command prepared) (commitFault faults .submission))
      BothFiled (fun _ _ => True) :=
    (Uow.Alike.inTransaction (submitClaim_alike hkeys₁ hkeys₂ hdraws)).weaken (fun _ _ h => h)
      (fun _ _ _ _ h => h) fun _ _ _ => trivial
  refine hstage.bind fun c₁ c₂ => ?_
  have hread : Uow.Alike (BothFiled c₁ c₂) (Uow.read .claim : Request Unit) (Uow.read .claim)
      (fun _ _ => BothFiled c₁ c₂) (fun _ _ => True) :=
    Uow.Alike.read.weaken (fun _ _ h => h) (fun _ _ _ _ h => h) fun _ _ _ => trivial
  exact hread.bind fun _ _ => Uow.Alike.pure fun _ _ h => h

end Submission

section Decisions

variable {env : Env} {faults : Faults} {prepared : PreparedClaim} {c₁ c₂ : Claim}

theorem confirmSubmission_alike : Tx.Alike (BothFiled c₁ c₂)
    (confirmSubmission env faults prepared c₁) (confirmSubmission env faults prepared c₂)
    (fun _ _ => BothFiled c₁ c₂) := by
  unfold confirmSubmission
  have hevent : Tx.Alike (BothFiled c₁ c₂)
      (createHistoryEvent env faults (emailEvent .claimSubmissionConfirmation prepared.application))
      (createHistoryEvent env faults (emailEvent .claimSubmissionConfirmation prepared.application))
      (fun _ _ => BothFiled c₁ c₂) :=
    createHistoryEvent_alike rfl rfl fun _ _ _ _ h => h
  exact hevent.bind fun _ _ => Tx.Alike.callOut.bind fun _ _ => Tx.Alike.send

/-- A confirmation that fails in one fails in both, and both go on. -/
theorem notify_alike : Uow.Alike (BothFiled c₁ c₂) (notify env faults prepared c₁)
    (notify env faults prepared c₂) (fun _ _ => BothFiled c₁ c₂) (BothFiled c₁ c₂) := by
  unfold notify
  apply (Uow.Alike.inTransaction confirmSubmission_alike).recover
  intro e
  exact Uow.Alike.read_failed.bind fun _ _ => Uow.Alike.rollback_failed

theorem createDecisionReasons_alike {id₁ id₂ index : ℕ} {reasonCodes : List ReasonCode} :
    Tx.Alike (BothFiled c₁ c₂) (createDecisionReasons faults id₁ index reasonCodes)
      (createDecisionReasons faults id₂ index reasonCodes) (fun _ _ => BothFiled c₁ c₂) := by
  induction reasonCodes generalizing index with
  | nil => exact Tx.Alike.pure fun _ _ h => h
  | cons reasonCode rest ih =>
      have hreason : Tx.Alike (BothFiled c₁ c₂)
          (createDecisionReason faults index id₁ reasonCode none)
          (createDecisionReason faults index id₂ reasonCode none) (fun _ _ => BothFiled c₁ c₂) :=
        portWrite_alike fun _ _ h => h
      exact hreason.bind fun _ _ => ih

theorem updateClaimStatus_alike {status : ClaimStatus} : Tx.Alike (BothFiled c₁ c₂)
    (updateClaimStatus faults c₁.claimId status) (updateClaimStatus faults c₂.claimId status)
    (fun _ _ _ _ => True) := by
  unfold updateClaimStatus
  refine Tx.Alike.bind (Q := fun _ _ _ _ => True) (Tx.Alike.check ?_) fun _ _ => ?_
  · intro s₁ s₂ h
    rw [if_pos (filed_iff.mp h.1), if_pos (filed_iff.mp h.2)]
    trivial
  · exact portWrite_alike fun _ _ _ => trivial

theorem autoRejectClaim_alike {reasonCodes : List ReasonCode} : Tx.Alike (BothFiled c₁ c₂)
    (autoRejectClaim env faults prepared c₁ reasonCodes)
    (autoRejectClaim env faults prepared c₂ reasonCodes) (fun _ _ _ _ => True) := by
  unfold autoRejectClaim
  have hdecision : Tx.Alike (BothFiled c₁ c₂) (createClaimDecision env faults c₁.claimId .reject)
      (createClaimDecision env faults c₂.claimId .reject) (fun _ _ => BothFiled c₁ c₂) :=
    portWrite_alike fun _ _ h => h
  refine hdecision.bind fun d₁ d₂ => createDecisionReasons_alike.bind fun _ _ =>
    updateClaimStatus_alike.bind fun _ _ => ?_
  exact createHistoryEvent_alike rfl rfl fun _ _ _ _ h => h

/-- A rejection that is written in one is written in both. -/
theorem autoDecision_alike {body₁ body₂ : Transaction Unit} {stage : Stage}
    {decided₁ decided₂ : CreateClaimResult}
    (hbody : Tx.Alike (BothFiled c₁ c₂) body₁ body₂ (fun _ _ _ _ => True))
    (hreasons : decided₁.rejectionReasons = decided₂.rejectionReasons) :
    Uow.Alike (BothFiled c₁ c₂) (autoDecision faults c₁ body₁ stage decided₁)
      (autoDecision faults c₂ body₂ stage decided₂)
      (fun r₁ r₂ _ _ => r₁.rejectionReasons = r₂.rejectionReasons) (fun _ _ => True) := by
  unfold autoDecision
  have hdecided : Uow.Alike (BothFiled c₁ c₂)
      (Uow.inTransaction body₁ (commitFault faults stage) : Request Unit)
      (Uow.inTransaction body₂ (commitFault faults stage)) (fun _ _ _ _ => True) (BothFiled c₁ c₂) :=
    Uow.Alike.inTransaction hbody
  refine Uow.Alike.recover (hdecided.bind fun _ _ => Uow.Alike.pure fun _ _ _ => hreasons) fun e => ?_
  have hread : Uow.Alike (BothFiled c₁ c₂) (Uow.read .claim : Request Unit) (Uow.read .claim)
      (fun _ _ => BothFiled c₁ c₂) (fun _ _ => True) :=
    Uow.Alike.read.weaken (fun _ _ h => h) (fun _ _ _ _ h => h) fun _ _ _ => trivial
  exact Uow.Alike.rollback_failed.bind fun _ _ => hread.bind fun _ _ => Uow.Alike.pure fun _ _ _ => rfl

/-- An automatic decision that is no rejection answers as one that failed. -/
theorem autoDecision_unreported {claim : Claim} {body : Transaction Unit} {stage : Stage}
    {decided : CreateClaimResult} (hdecided : decided.rejectionReasons = none)
    (s : Session Store Notification OrmObject) :
    ∃ result s', autoDecision faults claim body stage decided s = .ok result s'
      ∧ result.rejectionReasons = none := by
  obtain ⟨result, s', hresult⟩ : ∃ result s',
      autoDecision faults claim body stage decided s = .ok result s' := autoDecision_isOk
  refine ⟨result, s', hresult, ?_⟩
  rcases tryCatch_ok.mp hresult with hdone | ⟨e, s₁, -, hhandler⟩
  · obtain ⟨_, s₁, -, hend⟩ := bind_ok.mp hdone
    obtain ⟨hresult, -⟩ := pure_ok.mp hend
    rw [← hresult]
    exact hdecided
  · obtain ⟨_, s₂, -, hhandler⟩ := bind_ok.mp hhandler
    obtain ⟨_, s₃, -, hend⟩ := bind_ok.mp hhandler
    obtain ⟨hresult, -⟩ := pure_ok.mp hend
    rw [← hresult]

/-- The same reasons are given for a rejection, or the claim is left to a caseworker in both. -/
theorem reject_alike {reasonCodes : List ReasonCode} {decided₁ decided₂ : CreateClaimResult}
    (hreasons : decided₁.rejectionReasons = decided₂.rejectionReasons) :
    UnitOfWork.Alike (Session.InStep (BothFiled c₁ c₂))
      (autoDecision faults c₁ (autoRejectClaim env faults prepared c₁ reasonCodes) .autoReject decided₁)
      (autoDecision faults c₂ (autoRejectClaim env faults prepared c₂ reasonCodes) .autoReject decided₂)
      (fun r₁ r₂ _ _ => r₁.rejectionReasons = r₂.rejectionReasons) (fun e₁ e₂ _ _ => e₁ = e₂) := by
  have hdecided : Uow.Alike (BothFiled c₁ c₂)
      (autoDecision faults c₁ (autoRejectClaim env faults prepared c₁ reasonCodes) .autoReject decided₁)
      (autoDecision faults c₂ (autoRejectClaim env faults prepared c₂ reasonCodes) .autoReject decided₂)
      (fun r₁ r₂ _ _ => r₁.rejectionReasons = r₂.rejectionReasons) (fun _ _ => True) :=
    autoDecision_alike autoRejectClaim_alike hreasons
  exact hdecided.sameError.weaken (fun _ _ h => h) (fun _ _ _ _ h => h.committed) fun _ _ _ _ h => h

/-- Whether a claim was approved or left to a caseworker is not part of the answer. -/
theorem approve_alike {P : Session Store Notification OrmObject → Session Store Notification OrmObject → Prop}
    {body₁ body₂ : Transaction Unit} {stage : Stage} {decided₁ decided₂ : CreateClaimResult}
    (hdecided₁ : decided₁.rejectionReasons = none) (hdecided₂ : decided₂.rejectionReasons = none) :
    UnitOfWork.Alike P (autoDecision faults c₁ body₁ stage decided₁)
      (autoDecision faults c₂ body₂ stage decided₂)
      (fun r₁ r₂ _ _ => r₁.rejectionReasons = r₂.rejectionReasons) (fun e₁ e₂ _ _ => e₁ = e₂) := by
  intro s₁ s₂ _
  obtain ⟨r₁, t₁, h₁, hnone₁⟩ : ∃ r₁ t₁, autoDecision faults c₁ body₁ stage decided₁ s₁ = .ok r₁ t₁
      ∧ r₁.rejectionReasons = none := autoDecision_unreported hdecided₁ s₁
  obtain ⟨r₂, t₂, h₂, hnone₂⟩ : ∃ r₂ t₂, autoDecision faults c₂ body₂ stage decided₂ s₂ = .ok r₂ t₂
      ∧ r₂.rejectionReasons = none := autoDecision_unreported hdecided₂ s₂
  rw [h₁, h₂]
  exact hnone₁.trans hnone₂.symm

theorem decide_alike : UnitOfWork.Alike (Session.InStep (BothFiled c₁ c₂))
    (CreateClaim.decide env faults prepared c₁) (CreateClaim.decide env faults prepared c₂)
    (fun r₁ r₂ _ _ => r₁.rejectionReasons = r₂.rejectionReasons) (fun e₁ e₂ _ _ => e₁ = e₂) := by
  unfold CreateClaim.decide
  cases autoOutcome env prepared with
  | none => exact UnitOfWork.Alike.throw fun _ _ _ => rfl
  | some outcome =>
      cases outcome with
      | reject reasonCodes => exact reject_alike rfl
      | approve => exact approve_alike rfl rfl
      | hold => exact UnitOfWork.Alike.pure fun _ _ _ => rfl

end Decisions

section Answers

variable {env : Env} {faults : Faults} {command : CreateClaimCommand} {db₁ db₂ : Store}

/-- Requests whose checks agree end alike. -/
theorem execute_alike (hprepare : prepare command db₁ = prepare command db₂)
    (hkeys₁ : SchemaKeys db₁) (hkeys₂ : SchemaKeys db₂) (hdraws : SameDraws env db₁ db₂) :
    UnitOfWork.Alike (Session.InStep fun s₁ s₂ => s₁ = db₁ ∧ s₂ = db₂)
      (execute env faults command) (execute env faults command)
      (fun r₁ r₂ _ _ => r₁.rejectionReasons = r₂.rejectionReasons) (fun e₁ e₂ _ _ => e₁ = e₂) := by
  have hchecked : Uow.Alike (fun s₁ s₂ => s₁ = db₁ ∧ s₂ = db₂)
      (Uow.transact (Tx.check (prepare command)) : Request PreparedClaim)
      (Uow.transact (Tx.check (prepare command)))
      (fun p₁ p₂ s₁ s₂ => p₁ = p₂ ∧ s₁ = db₁ ∧ s₂ = db₂) (fun s₁ s₂ => s₁ = db₁ ∧ s₂ = db₂) := by
    apply Uow.Alike.check
    rintro _ _ ⟨rfl, rfl⟩
    rw [hprepare]
    exact SameCheck.refl _ fun _ _ => ⟨rfl, rfl, rfl⟩
  unfold execute
  apply UnitOfWork.Alike.bind hchecked.sameError
  intro prepared prepared₂ s₁ s₂ hstart
  obtain ⟨rfl, hstores⟩ := hstart.committed
  have hsubmit : Uow.Alike (fun s₁ s₂ => s₁ = db₁ ∧ s₂ = db₂) (submit env faults command prepared)
      (submit env faults command prepared) BothFiled (fun _ _ => True) :=
    submit_alike hkeys₁ hkeys₂ hdraws
  have hrest : ∀ c₁ c₂, UnitOfWork.Alike (Session.InStep (BothFiled c₁ c₂))
      (do notify env faults prepared c₁; CreateClaim.decide env faults prepared c₁)
      (do notify env faults prepared c₂; CreateClaim.decide env faults prepared c₂)
      (fun r₁ r₂ _ _ => r₁.rejectionReasons = r₂.rejectionReasons) (fun e₁ e₂ _ _ => e₁ = e₂) := by
    intro c₁ c₂
    have hnotify : Uow.Alike (BothFiled c₁ c₂) (notify env faults prepared c₁)
        (notify env faults prepared c₂) (fun _ _ => BothFiled c₁ c₂) (BothFiled c₁ c₂) := notify_alike
    exact hnotify.sameError.bind fun _ _ => decide_alike
  exact hsubmit.sameError.bind hrest s₁ s₂ ⟨hstart.clean₁, hstart.clean₂, hstart.loaded, hstores⟩

/-- The answers agree, up to the reference of the new claim. -/
theorem answer_alike (hprepare : prepare command db₁ = prepare command db₂)
    (hkeys₁ : SchemaKeys db₁) (hkeys₂ : SchemaKeys db₂) (hdraws : SameDraws env db₁ db₂) :
    (answer (execute env faults command (.start db₁))).map (·.rejectionReasons)
      = (answer (execute env faults command (.start db₂))).map (·.rejectionReasons) := by
  have hends : UnitOfWork.Alike (Session.InStep fun s₁ s₂ => s₁ = db₁ ∧ s₂ = db₂)
      (execute env faults command) (execute env faults command)
      (fun r₁ r₂ _ _ => r₁.rejectionReasons = r₂.rejectionReasons) (fun e₁ e₂ _ _ => e₁ = e₂) :=
    execute_alike hprepare hkeys₁ hkeys₂ hdraws
  rcases hends.cases (Session.inStep_start ⟨rfl, rfl⟩) with
    ⟨r₁, t₁, r₂, t₂, h₁, h₂, hreasons⟩ | ⟨e₁, t₁, e₂, t₂, h₁, h₂, hsame⟩
  · rw [h₁, h₂]
    exact congrArg Except.ok hreasons
  · rw [h₁, h₂]
    exact congrArg Except.error hsame

/-- A request that draws no reference raises before it writes anything. -/
theorem answer_of_no_reference {db : Store} {prepared : PreparedClaim} {e : ApiError}
    (hprepare : prepare command db = .ok prepared) (hnone : getClaimReference env db = .error e) :
    answer (execute env faults command (.start db)) = .error (.call e) := by
  have hdraw : Tx.check (getClaimReference env) (⟨db, []⟩ : Txn Store Notification)
      = .error ⟨e, .raised⟩ ⟨db, []⟩ := by
    unfold Tx.check
    rw [hnone]
  have hbody : submitClaim env faults command prepared ⟨db, []⟩ = .error ⟨e, .raised⟩ ⟨db, []⟩ :=
    bind_eq_of_error (bind_eq_of_error hdraw)
  have hstage : Uow.inTransaction (submitClaim env faults command prepared)
      (commitFault faults .submission) (.start db : Session Store Notification OrmObject)
      = .error (.call e) (.start db) := by
    apply bind_eq_of_error
    exact Uow.transact_of_raised (t := ⟨db, []⟩) rfl hbody
  have hsubmit : submit env faults command prepared (.start db)
      = .error (.call e) (.start db : Session Store Notification OrmObject) :=
    tryCatch_eq_of_error (bind_eq_of_error hstage)
  rw [execute_of_ok hprepare, bind_eq_of_error hsubmit]
  rfl

end Answers

end InquestsApi
