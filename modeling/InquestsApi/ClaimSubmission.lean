import InquestsApi.ClaimTransactions

/-! When a prepared claim is committed as submitted: which amounts, references, names and
ports the first transaction of a create request cannot do without. -/
namespace InquestsApi

open UnitOfWork ClaimRepository HistoryEventRepository

section Submission

variable (env : Env) (faults : Faults) (command : CreateClaimCommand) (prepared : PreparedClaim)
variable (db : Store)

/-- A drawn claim reference that is neither banned nor taken. -/
def ClaimReferenceUsable (attempt : ℕ) : Prop :=
  ReferenceUsable env.bannedWords (fun i => generateClaimReference (env.draws i))
    (fun reference => db.claims.any (·.claimReference = reference)) attempt

/-- Every amount of a claim fits its column. -/
structure ColumnsFit (claim : DomainClaim) (funds : Decimal) : Prop where
  net : (Amount.ofNullable claim.net).isSome
  gross : (Amount.ofNullable claim.gross).isSome
  vatZero : (Amount.ofNullable claim.vatZeroTotal).isSome
  funds : (Amount.ofDecimal funds).isSome
  previousCosts : (Amount.ofNullable
    claim.details.financialRecoveryPreviousPreCertificateCosts).isSome
  cost : (Amount.ofNullable claim.details.financialRecoveryCost).isSome
  damages : (Amount.ofNullable claim.details.financialRecoveryDamages).isSome
  interest : (Amount.ofNullable claim.details.financialRecoveryInterest).isSome

/-- What it takes to commit a prepared claim as submitted: amounts that fit their columns, a
usable reference, a named claimant, and ports that do not fail. -/
structure Submittable : Prop where
  columns : ColumnsFit prepared.validatedClaim prepared.totalFundsRemainingAfterClaim
  reference : ∃ attempt < generateClaimReferenceAttempts, ClaimReferenceUsable env db attempt
  claimant : ∃ name, command.claimantId = some name ∧ isBlank name = false
  createClaim : faults .createClaim = none
  linkEvidence : command.claimEvidenceIds.isSome → faults .linkEvidenceToClaim = none
  linkOutcomes : faults .linkInquestOutcomesToClaim = none
  linkTemplate : command.costTemplateFileId.isSome → command.costTemplateFileName.isSome →
    faults .linkCostTemplateToClaim = none
  event : faults (.createHistoryEvent .claimSubmitted) = none
  commit : faults (.commit .submission) = none

end Submission

section Accepted

variable {env : Env} {faults : Faults} {command : CreateClaimCommand} {prepared : PreparedClaim}
variable {db : Store}

theorem commitFault_eq_none {stage : Stage} :
    commitFault faults stage = none ↔ faults (.commit stage) = none := by
  unfold commitFault
  exact Option.map_eq_none_iff

theorem getClaimReference_isOk_iff : (∃ reference, getClaimReference env db = .ok reference) ↔
    ∃ attempt < generateClaimReferenceAttempts, ClaimReferenceUsable env db attempt := by
  unfold getClaimReference
  rw [drawReference_goes]
  simp only [Nat.zero_add]
  rfl

theorem ofNullable_of_isSome {x : Option Decimal} (h : (Amount.ofNullable x).isSome) :
    ∃ a, toColumn x = .ok a := by
  obtain ⟨a, ha⟩ := Option.isSome_iff_exists.mp h
  exact ⟨a, toColumn_ok.mpr ha⟩

theorem toColumns_isOk_iff {d : BillDetails Decimal} : (∃ details, d.toColumns = .ok details) ↔
    (Amount.ofNullable d.financialRecoveryPreviousPreCertificateCosts).isSome
      ∧ (Amount.ofNullable d.financialRecoveryCost).isSome
      ∧ (Amount.ofNullable d.financialRecoveryDamages).isSome
      ∧ (Amount.ofNullable d.financialRecoveryInterest).isSome := by
  constructor
  · rintro ⟨details, h⟩
    simp only [BillDetails.toColumns, except_bind_ok, toColumn_ok] at h
    obtain ⟨_, hprevious, _, hcost, _, hdamages, _, hinterest, -⟩ := h
    simp only [hprevious, hcost, hdamages, hinterest, Option.isSome_some, and_self]
  · rintro ⟨hprevious, hcost, hdamages, hinterest⟩
    obtain ⟨previous, hprevious⟩ := ofNullable_of_isSome hprevious
    obtain ⟨cost, hcost⟩ := ofNullable_of_isSome hcost
    obtain ⟨damages, hdamages⟩ := ofNullable_of_isSome hdamages
    obtain ⟨interest, hinterest⟩ := ofNullable_of_isSome hinterest
    simp only [BillDetails.toColumns, except_bind_ok]
    exact ⟨_, _, hprevious, _, hcost, _, hdamages, _, hinterest, rfl⟩

theorem insertClaim_isOk_iff {applicationId : ℕ} {reference : String} {claim : DomainClaim}
    {claimantId : Option String} {funds : Decimal}
    (hfree : ∀ c ∈ db.claims, c.claimReference ≠ reference) :
    (∃ result, insertClaim env applicationId reference claim claimantId funds db = .ok result)
      ↔ ColumnsFit claim funds := by
  constructor
  · rintro ⟨result, h⟩
    simp only [insertClaim, except_bind_ok, toColumn_ok, toRequiredColumn_ok] at h
    obtain ⟨_, hnet, _, hgross, _, hvatZero, _, hfunds, details, hdetails, -⟩ := h
    obtain ⟨hprevious, hcost, hdamages, hinterest⟩ := toColumns_isOk_iff.mp ⟨details, hdetails⟩
    exact ⟨by rw [hnet]; rfl, by rw [hgross]; rfl, by rw [hvatZero]; rfl, by rw [hfunds]; rfl,
      hprevious, hcost, hdamages, hinterest⟩
  · intro h
    obtain ⟨net, hnet⟩ := ofNullable_of_isSome h.net
    obtain ⟨gross, hgross⟩ := ofNullable_of_isSome h.gross
    obtain ⟨vatZero, hvatZero⟩ := ofNullable_of_isSome h.vatZero
    obtain ⟨fundsRow, hfunds⟩ : ∃ a, toRequiredColumn funds = .ok a := by
      obtain ⟨a, ha⟩ := Option.isSome_iff_exists.mp h.funds
      exact ⟨a, toRequiredColumn_ok.mpr ha⟩
    obtain ⟨details, hdetails⟩ :=
      toColumns_isOk_iff.mpr ⟨h.previousCosts, h.cost, h.damages, h.interest⟩
    have hnew : ¬ db.claims.any (·.claimReference = reference) = true := by
      intro htaken
      obtain ⟨c, hc, hsame⟩ := List.any_eq_true.mp htaken
      exact hfree c hc (of_decide_eq_true hsame)
    unfold insertClaim
    simp only [hnet, hgross, hvatZero, hfunds, hdetails, bind, Except.bind, if_neg hnew]
    exact ⟨_, rfl⟩

section Bodies

variable {t t' : Txn Store Notification} {claim : Claim}

theorem linkEvidence_isOk_iff :
    (∃ u t', CreateClaim.linkEvidence faults command claim t = .ok u t')
      ↔ (command.claimEvidenceIds.isSome → faults .linkEvidenceToClaim = none) := by
  unfold CreateClaim.linkEvidence
  cases command.claimEvidenceIds with
  | none => exact iff_of_true ⟨(), t, rfl⟩ fun h => nomatch h
  | some evidenceIds =>
      simp only [linkEvidenceToClaim, portWrite_ok, Option.isSome_some, forall_const]
      constructor
      · rintro ⟨u, t', hport, -⟩
        exact hport
      · intro hport
        exact ⟨(), _, hport, _, rfl, rfl⟩

theorem linkCostTemplate_port {u : Unit} (h : CreateClaim.linkCostTemplate faults command claim t = .ok u t')
    (hid : command.costTemplateFileId.isSome) (hname : command.costTemplateFileName.isSome) :
    faults .linkCostTemplateToClaim = none := by
  obtain ⟨fileId, hid⟩ := Option.isSome_iff_exists.mp hid
  obtain ⟨fileName, hname⟩ := Option.isSome_iff_exists.mp hname
  simp only [CreateClaim.linkCostTemplate, hid, hname, linkCostTemplateToClaim, portWrite_ok] at h
  exact h.1

theorem linkCostTemplate_isOk_iff (hnew : ∀ row ∈ t.store.claimCostTemplates, row.claimId ≠ claim.claimId) :
    (∃ u t', CreateClaim.linkCostTemplate faults command claim t = .ok u t')
      ↔ (command.costTemplateFileId.isSome → command.costTemplateFileName.isSome →
          faults .linkCostTemplateToClaim = none) := by
  constructor
  · intro ⟨u, t', h⟩
    exact linkCostTemplate_port h
  · intro hport
    unfold CreateClaim.linkCostTemplate
    cases hid : command.costTemplateFileId with
    | none => exact ⟨(), t, rfl⟩
    | some fileId =>
        cases hname : command.costTemplateFileName with
        | none => exact ⟨(), t, rfl⟩
        | some fileName =>
            have hfree : ¬ t.store.claimCostTemplates.any (·.claimId = claim.claimId) = true := by
              intro htaken
              obtain ⟨row, hrow, hsame⟩ := List.any_eq_true.mp htaken
              exact hnew row hrow (of_decide_eq_true hsame)
            simp only [linkCostTemplateToClaim, portWrite_ok, if_neg hfree]
            exact ⟨(), _, hport (by rw [hid]; rfl) (by rw [hname]; rfl), _, rfl, rfl⟩

theorem createHistoryEvent_isOk_iff {event : NewEvent} :
    (∃ u t', createHistoryEvent env faults event t = .ok u t')
      ↔ (∃ name, event.actor = some name ∧ isBlank name = false)
        ∧ faults (.createHistoryEvent event.eventReference) = none := by
  simp only [createHistoryEvent_ok, ← requireActor_goes]
  constructor
  · rintro ⟨u, t', name, hname, hport, -⟩
    exact ⟨⟨name, hname⟩, hport⟩
  · rintro ⟨⟨name, hname⟩, hport⟩
    exact ⟨(), _, name, hname, hport, rfl⟩

theorem createClaim_isOk_iff {applicationId : ℕ} {domain : DomainClaim}
    {claimantId : Option String} {funds : Decimal} :
    (∃ row t', createClaim env faults applicationId domain claimantId funds t = .ok row t')
      ↔ (∃ attempt < generateClaimReferenceAttempts, ClaimReferenceUsable env t.store attempt)
        ∧ faults .createClaim = none ∧ ColumnsFit domain funds := by
  constructor
  · rintro ⟨row, t', h⟩
    simp only [createClaim, bind_ok, Tx.check_ok, portWrite_ok] at h
    obtain ⟨reference, _, ⟨hreference, rfl⟩, hport, s, hinsert, -⟩ := h
    obtain ⟨attempt, hlt, husable⟩ := getClaimReference_isOk_iff.mp ⟨reference, hreference⟩
    exact ⟨⟨attempt, hlt, husable⟩, hport,
      (insertClaim_isOk_iff (getClaimReference_ok hreference).2).mp ⟨_, hinsert⟩⟩
  · rintro ⟨⟨attempt, hlt, husable⟩, hport, hcolumns⟩
    obtain ⟨reference, hreference⟩ := getClaimReference_isOk_iff.mpr ⟨attempt, hlt, husable⟩
    obtain ⟨⟨row, s⟩, hinsert⟩ :=
      (insertClaim_isOk_iff (getClaimReference_ok hreference).2).mpr hcolumns
    refine ⟨row, { t with store := s }, ?_⟩
    simp only [createClaim, bind_ok, Tx.check_ok, portWrite_ok]
    exact ⟨reference, t, ⟨hreference, rfl⟩, hport, s, hinsert, rfl⟩

theorem linkAttachments_ports {u : Unit}
    (h : CreateClaim.linkAttachments faults command claim t = .ok u t') :
    (command.claimEvidenceIds.isSome → faults .linkEvidenceToClaim = none)
      ∧ faults .linkInquestOutcomesToClaim = none
      ∧ (command.costTemplateFileId.isSome → command.costTemplateFileName.isSome →
        faults .linkCostTemplateToClaim = none) := by
  unfold CreateClaim.linkAttachments at h
  obtain ⟨_, t₁, hevidence, h⟩ := bind_ok.mp h
  obtain ⟨_, t₂, houtcomes, htemplate⟩ := bind_ok.mp h
  obtain ⟨hport, -⟩ := portWrite_ok.mp houtcomes
  exact ⟨linkEvidence_isOk_iff.mp ⟨_, _, hevidence⟩, hport, linkCostTemplate_port htemplate⟩

theorem linkAttachments_isOk_iff
    (hnew : ∀ row ∈ t.store.claimCostTemplates, row.claimId ≠ claim.claimId) :
    (∃ u t', CreateClaim.linkAttachments faults command claim t = .ok u t')
      ↔ (command.claimEvidenceIds.isSome → faults .linkEvidenceToClaim = none)
        ∧ faults .linkInquestOutcomesToClaim = none
        ∧ (command.costTemplateFileId.isSome → command.costTemplateFileName.isSome →
          faults .linkCostTemplateToClaim = none) := by
  constructor
  · intro ⟨u, t', h⟩
    exact linkAttachments_ports h
  · rintro ⟨hevidencePort, houtcomes, htemplatePort⟩
    obtain ⟨_, t₁, hevidence⟩ : ∃ u t₁, CreateClaim.linkEvidence faults command claim t = .ok u t₁ :=
      linkEvidence_isOk_iff.mpr hevidencePort
    have hsame : t₁.store.claimCostTemplates = t.store.claimCostTemplates := by
      obtain ⟨evidence, rfl⟩ := linkEvidence_ok hevidence
      rfl
    let outcomes := outcomeRows claim.claimId command.inquestOutcomes t₁.store.claimInquestOutcomes
    let t₂ : Txn Store Notification :=
      { t₁ with store := { t₁.store with claimInquestOutcomes := outcomes } }
    have houtcome : linkInquestOutcomesToClaim faults claim.claimId command.inquestOutcomes t₁
        = .ok () t₂ := portWrite_ok.mpr ⟨houtcomes, _, rfl, rfl⟩
    obtain ⟨u, t₃, htemplate⟩ :=
      (linkCostTemplate_isOk_iff (t := t₂) (hsame.symm ▸ hnew)).mpr htemplatePort
    refine ⟨u, t₃, ?_⟩
    unfold CreateClaim.linkAttachments
    exact bind_ok.mpr ⟨_, t₁, hevidence, bind_ok.mpr ⟨_, t₂, houtcome, htemplate⟩⟩

end Bodies

/-- What is committed as submitted was submittable, whatever the keys of the database. -/
theorem submittable_of_ok {claim : Claim} {outbox : List Notification} {t : Txn Store Notification}
    (h : CreateClaim.submitClaim env faults command prepared ⟨db, outbox⟩ = .ok claim t)
    (hcommit : faults (.commit .submission) = none) : Submittable env faults command prepared db := by
  unfold CreateClaim.submitClaim at h
  obtain ⟨row, t₁, hcreate, h⟩ := bind_ok.mp h
  obtain ⟨_, t₂, hlink, h⟩ := bind_ok.mp h
  obtain ⟨_, t₃, hevent, -⟩ := bind_ok.mp h
  obtain ⟨hreference, hport, hcolumns⟩ := createClaim_isOk_iff.mp ⟨_, _, hcreate⟩
  obtain ⟨hevidence, houtcomes, htemplate⟩ := linkAttachments_ports hlink
  obtain ⟨hclaimant, heventPort⟩ := createHistoryEvent_isOk_iff.mp ⟨_, _, hevent⟩
  exact ⟨hcolumns, hreference, hclaimant, hport, hevidence, houtcomes, htemplate, heventPort,
    hcommit⟩

/-- The first transaction of a request goes through exactly when the claim is submittable. -/
theorem submitClaim_isOk_iff (hkeys : SchemaKeys db) {outbox : List Notification} :
    ((∃ claim t, CreateClaim.submitClaim env faults command prepared ⟨db, outbox⟩ = .ok claim t)
        ∧ faults (.commit .submission) = none)
      ↔ Submittable env faults command prepared db := by
  have hnewKey : ∀ row : Claim, row.claimId = nextKey (db.claims.map (·.claimId)) →
      ∀ template ∈ db.claimCostTemplates, template.claimId ≠ row.claimId := by
    intro row hrow template htemplate
    rw [hrow]
    exact nextKey_ne (hkeys.templateOf template htemplate)
  constructor
  · rintro ⟨⟨claim, t, h⟩, hcommit⟩
    exact submittable_of_ok h hcommit
  · intro h
    refine ⟨?_, h.commit⟩
    obtain ⟨row, t₁, hcreate⟩ : ∃ row t', createClaim env faults prepared.application.applicationId
        prepared.validatedClaim command.claimantId prepared.totalFundsRemainingAfterClaim ⟨db, outbox⟩
        = .ok row t' :=
      createClaim_isOk_iff.mpr ⟨h.reference, h.createClaim, h.columns⟩
    obtain ⟨hstored, hstore⟩ := createClaim_ok hcreate
    have hnew : ∀ template ∈ t₁.store.claimCostTemplates, template.claimId ≠ row.claimId := by
      rw [hstore]
      exact hnewKey row hstored.claimId
    obtain ⟨_, t₂, hlink⟩ := (linkAttachments_isOk_iff hnew).mpr
      ⟨h.linkEvidence, h.linkOutcomes, h.linkTemplate⟩
    obtain ⟨_, t₃, hevent⟩ : ∃ u t',
        createHistoryEvent env faults (CreateClaim.submittedEvent command prepared row) t₂ = .ok u t' :=
      createHistoryEvent_isOk_iff.mpr ⟨h.claimant, h.event⟩
    refine ⟨row, t₃, ?_⟩
    unfold CreateClaim.submitClaim
    exact bind_ok.mpr ⟨row, t₁, hcreate, bind_ok.mpr ⟨_, t₂, hlink, bind_ok.mpr ⟨_, t₃, hevent, rfl⟩⟩⟩

end Accepted

end InquestsApi
