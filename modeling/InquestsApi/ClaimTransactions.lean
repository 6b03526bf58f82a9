import InquestsApi.DecideClaim
import Mathlib.Logic.Relation

/-! What the committed transactions of the claim requests do to the database: a claim is
submitted, or decided with one verdict, or only history is written. Every later fact
about stored claims is derived from these three. -/
namespace InquestsApi

open UnitOfWork ClaimRepository HistoryEventRepository

/-- What a decision says and pays. -/
inductive Verdict where
  | reject (reasons : List (ReasonCode × Option String))
  | payInFull (lines : List PaymentExtractLine)
  deriving DecidableEq

namespace Verdict

def status : Verdict → ClaimStatus
  | reject _ => .rejected
  | payInFull _ => .payInFull

def decision : Verdict → ClaimDecisionStatus
  | reject _ => .reject
  | payInFull _ => .payInFull

def reasons : Verdict → List (ReasonCode × Option String)
  | reject reasons => reasons
  | payInFull _ => []

def lines : Verdict → List PaymentExtractLine
  | reject _ => []
  | payInFull lines => lines

/-- A payment has one row of amounts, a rejection none. -/
def amountRows : Verdict → ℕ
  | reject _ => 0
  | payInFull _ => 1

end Verdict

/-- The rows that one decision adds. -/
structure DecisionRows where
  decision : ClaimDecision
  reasons : List DecisionReason
  amounts : List ClaimDecisionAmount
  extracts : List ClaimPaymentExtract

/-- The rows say what the verdict says, about that claim, under a new decision key. -/
structure DecisionRows.Record (rows : DecisionRows) (claimId : ℕ) (verdict : Verdict)
    (s : Store) : Prop where
  key : rows.decision.claimDecisionId = nextKey (s.claimDecisions.map (·.claimDecisionId))
  claim : rows.decision.claimId = claimId
  decision : rows.decision.decision = verdict.decision
  reasons : rows.reasons.map (fun r => (r.reasonCode, r.justification)) = verdict.reasons
  reasonsOf : ∀ r ∈ rows.reasons, r.claimDecisionId = rows.decision.claimDecisionId
  amounts : rows.amounts.length = verdict.amountRows
  amountsOf : ∀ a ∈ rows.amounts, a.claimDecisionId = rows.decision.claimDecisionId
  extracts : List.Forall₂ (ExtractRow claimId) verdict.lines rows.extracts

/-- A decision sets the status of its claim and adds its rows. -/
structure Decided (claimId : ℕ) (verdict : Verdict) (rows : DecisionRows) (s s' : Store) : Prop where
  record : rows.Record claimId verdict s
  applications : s'.applications = s.applications
  claims : s'.claims = (s.setClaimStatus claimId verdict.status).claims
  claimDecisions : s'.claimDecisions = s.claimDecisions ++ [rows.decision]
  decisionReasons : s'.decisionReasons = s.decisionReasons ++ rows.reasons
  claimDecisionAmounts : s'.claimDecisionAmounts = s.claimDecisionAmounts ++ rows.amounts
  claimPaymentExtracts : s'.claimPaymentExtracts = s.claimPaymentExtracts ++ rows.extracts

/-- The row a validated claim is stored as. -/
structure SubmittedRow (claim : DomainClaim) (applicationId : ℕ) (row : Claim) (s : Store) :
    Prop where
  claimId : row.claimId = nextKey (s.claims.map (·.claimId))
  applicationId : row.applicationId = applicationId
  reference : ∃ draw, row.claimReference = generateClaimReference draw
  newReference : ∀ c ∈ s.claims, c.claimReference ≠ row.claimReference
  claimType : row.claimTypeId = claim.claimType
  status : row.statusId = .submitted
  poaType : row.poaTypeId = claim.poaType
  net : Amount.ofNullable claim.net = some row.totalProfitCostNet
  gross : Amount.ofNullable claim.gross = some row.totalProfitCostGross
  vatZero : Amount.ofNullable claim.vatZeroTotal = some row.totalProfitCostVatZero

/-- A submission adds its claim; no decision, amount or extract changes. -/
structure Submitted (claim : DomainClaim) (applicationId : ℕ) (row : Claim) (s s' : Store) :
    Prop where
  stored : SubmittedRow claim applicationId row s
  applications : s'.applications = s.applications
  claims : s'.claims = s.claims ++ [row]
  claimDecisions : s'.claimDecisions = s.claimDecisions
  decisionReasons : s'.decisionReasons = s.decisionReasons
  claimDecisionAmounts : s'.claimDecisionAmounts = s.claimDecisionAmounts
  claimPaymentExtracts : s'.claimPaymentExtracts = s.claimPaymentExtracts

/-- Only history differs. -/
def Noted (s s' : Store) : Prop := ∃ events, s' = { s with historyEvents := events }

section References

theorem getClaimReference_ok {env : Env} {s : Store} {reference : String}
    (h : getClaimReference env s = .ok reference) :
    (∃ draw, reference = generateClaimReference draw)
      ∧ ∀ c ∈ s.claims, c.claimReference ≠ reference := by
  obtain ⟨⟨attempt, hdraw⟩, hfree⟩ := drawReference_ok h
  refine ⟨⟨_, hdraw⟩, ?_⟩
  intro c hc heq
  exact List.any_eq_false.mp hfree c hc (decide_eq_true heq)

end References

section Bodies

variable {env : Env} {faults : Faults} {t t' : Txn Store Notification} {u : Unit}
variable {claim : Claim}

theorem insertClaim_ok {applicationId : ℕ} {reference : String} {domain : DomainClaim}
    {claimantId : Option String} {funds : Decimal} {s s' : Store} {row : Claim}
    (href : (∃ draw, reference = generateClaimReference draw)
      ∧ ∀ c ∈ s.claims, c.claimReference ≠ reference)
    (h : insertClaim env applicationId reference domain claimantId funds s = .ok (row, s')) :
    SubmittedRow domain applicationId row s ∧ s' = { s with claims := s.claims ++ [row] } := by
  simp only [insertClaim, except_bind_ok, toColumn_ok] at h
  obtain ⟨net, hnet, gross, hgross, vatZero, hvatZero, fundsRow, -, details, -, h⟩ := h
  split at h
  · cases h
  · cases h
    exact ⟨⟨rfl, rfl, href.1, href.2, rfl, rfl, rfl, hnet, hgross, hvatZero⟩, rfl⟩

theorem createClaim_ok {applicationId : ℕ} {domain : DomainClaim} {claimantId : Option String}
    {funds : Decimal}
    (h : createClaim env faults applicationId domain claimantId funds t = .ok claim t') :
    SubmittedRow domain applicationId claim t.store
      ∧ t' = { t with store := { t.store with claims := t.store.claims ++ [claim] } } := by
  simp only [createClaim, bind_ok, Tx.check_ok, portWrite_ok] at h
  obtain ⟨reference, _, ⟨href, rfl⟩, -, s, hinsert, rfl⟩ := h
  obtain ⟨hrow, rfl⟩ := insertClaim_ok (getClaimReference_ok href) hinsert
  exact ⟨hrow, rfl⟩

theorem linkEvidence_ok {command : CreateClaimCommand}
    (h : CreateClaim.linkEvidence faults command claim t = .ok u t') :
    ∃ evidence, t' = { t with store := { t.store with claimEvidence := evidence } } := by
  unfold CreateClaim.linkEvidence at h
  cases hids : command.claimEvidenceIds with
  | none =>
      rw [hids] at h
      obtain ⟨-, rfl⟩ := pure_ok.mp h
      exact ⟨_, rfl⟩
  | some evidenceIds =>
      simp only [hids, linkEvidenceToClaim, portWrite_ok, Except.ok.injEq, Prod.mk.injEq] at h
      obtain ⟨-, s, ⟨-, rfl⟩, rfl⟩ := h
      exact ⟨_, rfl⟩

theorem linkCostTemplate_ok {command : CreateClaimCommand}
    (h : CreateClaim.linkCostTemplate faults command claim t = .ok u t') :
    ∃ templates, t' = { t with store := { t.store with claimCostTemplates := templates } } := by
  unfold CreateClaim.linkCostTemplate at h
  cases hid : command.costTemplateFileId with
  | none =>
      rw [hid] at h
      obtain ⟨-, rfl⟩ := pure_ok.mp h
      exact ⟨_, rfl⟩
  | some fileId =>
      cases hname : command.costTemplateFileName with
      | none =>
          rw [hid, hname] at h
          obtain ⟨-, rfl⟩ := pure_ok.mp h
          exact ⟨_, rfl⟩
      | some fileName =>
          simp only [hid, hname, linkCostTemplateToClaim, portWrite_ok] at h
          obtain ⟨-, s, hinsert, rfl⟩ := h
          split at hinsert
          · cases hinsert
          · cases hinsert
            exact ⟨_, rfl⟩

/-- Linking evidence, outcomes and a cost template touches those tables only. -/
theorem linkAttachments_ok {command : CreateClaimCommand}
    (h : CreateClaim.linkAttachments faults command claim t = .ok u t') :
    ∃ evidence outcomes templates, t' = { t with store :=
      { t.store with
        claimEvidence := evidence
        claimInquestOutcomes := outcomes
        claimCostTemplates := templates } } := by
  simp only [CreateClaim.linkAttachments, linkInquestOutcomesToClaim, bind_ok, portWrite_ok,
    Except.ok.injEq, Prod.mk.injEq] at h
  obtain ⟨_, _, hevidence, _, _, ⟨-, s, ⟨-, rfl⟩, rfl⟩, htemplate⟩ := h
  obtain ⟨evidence, rfl⟩ := linkEvidence_ok hevidence
  obtain ⟨templates, rfl⟩ := linkCostTemplate_ok htemplate
  exact ⟨evidence, _, templates, rfl⟩

theorem submitClaim_ok {command : CreateClaimCommand} {prepared : PreparedClaim}
    (h : CreateClaim.submitClaim env faults command prepared t = .ok claim t') :
    Submitted prepared.validatedClaim prepared.application.applicationId claim t.store t'.store := by
  simp only [CreateClaim.submitClaim, bind_ok, pure_ok, createHistoryEvent_ok] at h
  obtain ⟨row, t₁, hcreate, _, t₂, hlink, _, t₃, ⟨actor, -, -, rfl⟩, rfl, rfl⟩ := h
  obtain ⟨hrow, rfl⟩ := createClaim_ok hcreate
  obtain ⟨evidence, outcomes, templates, rfl⟩ := linkAttachments_ok hlink
  exact ⟨hrow, rfl, rfl, rfl, rfl, rfl, rfl⟩

theorem confirmSubmission_ok {prepared : PreparedClaim}
    (h : CreateClaim.confirmSubmission env faults prepared claim t = .ok u t') :
    Noted t.store t'.store := by
  simp only [CreateClaim.confirmSubmission, bind_ok, createHistoryEvent_ok, Tx.callOut_ok,
    Tx.send_ok] at h
  obtain ⟨_, t₁, ⟨actor, -, -, rfl⟩, _, t₂, ⟨-, rfl⟩, -, rfl⟩ := h
  exact ⟨_, rfl⟩

theorem createDecisionReasons_ok {claimDecisionId index : ℕ} {reasonCodes : List ReasonCode}
    (h : CreateClaim.createDecisionReasons faults claimDecisionId index reasonCodes t = .ok u t') :
    ∃ rows : List DecisionReason,
      rows.map (fun r => (r.reasonCode, r.justification)) = reasonCodes.map (·, none)
        ∧ (∀ r ∈ rows, r.claimDecisionId = claimDecisionId)
        ∧ t' = { t with store :=
            { t.store with decisionReasons := t.store.decisionReasons ++ rows } } := by
  induction reasonCodes generalizing index t with
  | nil =>
      simp only [CreateClaim.createDecisionReasons, pure_ok] at h
      obtain ⟨-, rfl⟩ := h
      exact ⟨[], rfl, by simp, by simp only [List.append_nil]⟩
  | cons code rest ih =>
      simp only [CreateClaim.createDecisionReasons, bind_ok, createDecisionReason_ok] at h
      obtain ⟨_, _, ⟨-, rfl⟩, hrest⟩ := h
      obtain ⟨rows, hmap, hof, rfl⟩ := ih hrest
      refine ⟨reasonRow claimDecisionId code none t.store :: rows, ?_, ?_, ?_⟩
      · simp only [List.map_cons, hmap, reasonRow]
      · intro r hr
        rcases List.mem_cons.mp hr with rfl | hr
        · rfl
        · exact hof r hr
      · simp only [List.append_assoc, List.singleton_append]

theorem autoRejectClaim_ok {prepared : PreparedClaim} {reasonCodes : List ReasonCode}
    (h : CreateClaim.autoRejectClaim env faults prepared claim reasonCodes t = .ok u t') :
    ∃ rows, Decided claim.claimId (.reject (reasonCodes.map (·, none))) rows t.store t'.store := by
  simp only [CreateClaim.autoRejectClaim, bind_ok, createClaimDecision_ok, updateClaimStatus_ok,
    createHistoryEvent_ok] at h
  obtain ⟨d, _, ⟨-, rfl, rfl⟩, _, _, hreasons, _, _, ⟨-, -, rfl⟩, actor, -, -, rfl⟩ := h
  obtain ⟨rows, hmap, hof, rfl⟩ := createDecisionReasons_ok hreasons
  refine ⟨⟨decisionRow env claim.claimId .reject t.store, rows, [], []⟩, ?_⟩
  exact ⟨⟨rfl, rfl, rfl, hmap, hof, rfl, by simp, .nil⟩, rfl, rfl, rfl, rfl,
    by simp [Store.setClaimStatus], by simp [Store.setClaimStatus]⟩

theorem submittedPoaLines_ok {lines : List PaymentExtractLine} :
    CreateClaim.submittedPoaLines claim = .ok lines ↔
      poaClaimPaymentExtractLines claim (payInFullClaimFromSubmittedPoaClaim claim) = some lines := by
  unfold CreateClaim.submittedPoaLines
  split <;> simp_all

theorem autoApproveClaim_ok {prepared : PreparedClaim}
    (h : CreateClaim.autoApproveClaim env faults prepared claim t = .ok u t') :
    ∃ lines rows,
      poaClaimPaymentExtractLines claim (payInFullClaimFromSubmittedPoaClaim claim) = some lines
        ∧ Decided claim.claimId (.payInFull lines) rows t.store t'.store := by
  simp only [CreateClaim.autoApproveClaim, bind_ok, createClaimDecision_ok, Tx.check_ok,
    submittedPoaLines_ok, updateClaimStatus_ok, createHistoryEvent_ok] at h
  obtain ⟨d, _, ⟨-, rfl, rfl⟩, _, _, hamount, lines, _, ⟨hlines, rfl⟩, _, _, hextract,
    _, _, ⟨-, -, rfl⟩, actor, -, -, rfl⟩ := h
  obtain ⟨amount, hamountOf, rfl⟩ := createClaimDecisionAmount_ok hamount
  obtain ⟨extracts, hextracts, rfl⟩ := createPaymentExtract_ok hextract
  refine ⟨lines, ⟨decisionRow env claim.claimId .payInFull t.store, [], [amount], extracts⟩,
    hlines, ?_⟩
  refine ⟨⟨rfl, rfl, rfl, rfl, by simp, rfl, ?_, hextracts⟩, rfl, rfl, rfl,
    by simp [Store.setClaimStatus], rfl, rfl⟩
  intro a ha
  rw [List.mem_singleton.mp ha]
  exact hamountOf

end Bodies

section Assessment

variable {env : Env} {faults : Faults} {t t' : Txn Store Notification} {u : Unit}
variable {claim : Claim} {application : Application}

theorem claimForAssessment_ok {claimReference : String} {applicationId : ℕ} {s : Store}
    (h : claimForAssessment claimReference applicationId s = .ok claim) :
    claim ∈ s.claims ∧ claim.applicationId = applicationId ∧ claim.statusId = .submitted := by
  unfold claimForAssessment at h
  split at h
  · cases h
  · rename_i c hfound
    split at h
    · cases h
    · split at h
      · cases h
      · rename_i happ hstatus
        cases h
        have hmem : claim ∈ s.claims := List.mem_of_find?_eq_some hfound
        exact ⟨hmem, not_not.mp happ, of_decide_eq_true (not_not.mp hstatus)⟩

/-- Neither the new decision nor the status of the claim at hand shows in what is recouped. -/
theorem recoupablePoaClaims_setClaimStatus (applicationId claimId : ℕ) (status : ClaimStatus)
    (s : Store) :
    PayInFullClaimUseCase.recoupablePoaClaims applicationId claimId (s.setClaimStatus claimId status)
      = PayInFullClaimUseCase.recoupablePoaClaims applicationId claimId s := by
  simp only [PayInFullClaimUseCase.recoupablePoaClaims, Store.getClaimsByApplicationId,
    Store.setClaimStatus]
  induction s.claims with
  | nil => rfl
  | cons c rest ih =>
      by_cases hc : c.claimId = claimId
      · by_cases happ : c.applicationId = applicationId
        · simpa [hc, happ] using ih
        · simpa [hc, happ] using ih
      · simp only [List.map_cons, hc, if_false, List.filter_cons]
        by_cases happ : c.applicationId = applicationId
        · simp only [happ, decide_true, if_true, List.filter_cons, ih]
        · simpa [happ] using ih

theorem rejectAssessedClaim_ok {command : RejectClaimCommand} {claim' : Claim}
    (h : RejectClaimUseCase.rejectAssessedClaim env faults command application claim t
      = .ok claim' t') :
    claim' = claim.withStatus .rejected
      ∧ ∃ rows, Decided claim.claimId (.reject [(.manualRejection, some command.justification)]) rows
          t.store t'.store := by
  simp only [RejectClaimUseCase.rejectAssessedClaim, bind_ok, createClaimDecision_ok,
    createDecisionReason_ok, updateClaimStatus_ok, createHistoryEvent_ok, pure_ok] at h
  obtain ⟨d, _, ⟨-, rfl, rfl⟩, _, _, ⟨-, rfl⟩, _, _, ⟨-, -, rfl⟩,
    _, _, ⟨actor, -, -, rfl⟩, _, _, ⟨actor', -, -, rfl⟩, rfl, rfl⟩ := h
  let decision := decisionRow env claim.claimId .reject t.store
  let reason := reasonRow decision.claimDecisionId .manualRejection (some command.justification)
    t.store
  refine ⟨rfl, ⟨decision, [reason], [], []⟩, ?_⟩
  refine ⟨⟨rfl, rfl, rfl, rfl, ?_, rfl, by simp, .nil⟩, rfl, rfl, rfl, rfl,
    by simp [Store.setClaimStatus], by simp [Store.setClaimStatus]⟩
  intro r hr
  rw [List.mem_singleton.mp hr]
  rfl

theorem rejectClaim_ok {command : RejectClaimCommand}
    (h : RejectClaimUseCase.rejectClaim env faults command application t = .ok claim t') :
    ∃ c rows, claimForAssessment command.claimReference application.applicationId t.store = .ok c
      ∧ claim = c.withStatus .rejected
      ∧ Decided c.claimId (.reject [(.manualRejection, some command.justification)]) rows
          t.store t'.store := by
  obtain ⟨c, t₁, hread, hdecide⟩ := bind_ok.mp h
  obtain ⟨hclaim, rfl⟩ := Tx.check_ok.mp hread
  obtain ⟨hresult, rows, hdecided⟩ := rejectAssessedClaim_ok hdecide
  exact ⟨c, rows, hclaim, hresult, hdecided⟩

/-- The lines of a payment are those of the store the decision was taken on. -/
theorem paymentExtractLines_congr {decisionAmounts : PayInFullClaim} {applicationId : ℕ}
    {date : Date} {s s' : Store} (status : ClaimStatus)
    (hclaims : s'.claims = (s.setClaimStatus claim.claimId status).claims)
    (hextracts : s'.claimPaymentExtracts = s.claimPaymentExtracts) :
    PayInFullClaimUseCase.paymentExtractLines claim decisionAmounts applicationId date s'
      = PayInFullClaimUseCase.paymentExtractLines claim decisionAmounts applicationId date s := by
  have hclaimsOf : PayInFullClaimUseCase.recoupablePoaClaims applicationId claim.claimId s'
      = PayInFullClaimUseCase.recoupablePoaClaims applicationId claim.claimId s := by
    rw [← recoupablePoaClaims_setClaimStatus applicationId claim.claimId status s]
    simp only [PayInFullClaimUseCase.recoupablePoaClaims, Store.getClaimsByApplicationId, hclaims]
  have hlinesOf : ∀ n claims, PayInFullClaimUseCase.recoupmentLinesOf date s' n claims
      = PayInFullClaimUseCase.recoupmentLinesOf date s n claims := by
    intro n claims
    induction claims generalizing n with
    | nil => rfl
    | cons c rest ih =>
        simp only [PayInFullClaimUseCase.recoupmentLinesOf, Store.getPaymentExtractsByClaimId,
          hextracts, ih]
  simp only [PayInFullClaimUseCase.paymentExtractLines, PayInFullClaimUseCase.recoupmentLines,
    hclaimsOf, hlinesOf]

theorem validateAmounts_ok {p : PayInFullClaim} :
    PayInFullClaimUseCase.validateAmounts p = .ok u ↔ p.validate = .ok () := by
  unfold PayInFullClaimUseCase.validateAmounts
  split <;> simp_all

/-- Sending the decision writes history only. -/
theorem sendPayInFullDecisionEmail_ok {firmName : String} {decisionAmounts : PayInFullClaim}
    (h : PayInFullClaimUseCase.sendPayInFullDecisionEmail env faults claim application firmName
      decisionAmounts t = .ok u t') : Noted t.store t'.store := by
  simp only [PayInFullClaimUseCase.sendPayInFullDecisionEmail, bind_ok, Tx.send_ok,
    createHistoryEvent_ok] at h
  obtain ⟨_, _, ⟨-, rfl⟩, actor, -, -, rfl⟩ := h
  exact ⟨_, rfl⟩

theorem payAssessedClaim_ok {command : PayInFullClaimCommand}
    (h : PayInFullClaimUseCase.payAssessedClaim env faults command application claim t = .ok u t') :
    ∃ lines rows date,
      (PayInFullClaimUseCase.decisionAmounts command claim).validate = .ok ()
        ∧ PayInFullClaimUseCase.paymentExtractLines claim
            (PayInFullClaimUseCase.decisionAmounts command claim) application.applicationId date
            t.store = some lines
        ∧ Decided claim.claimId (.payInFull lines) rows t.store t'.store := by
  simp only [PayInFullClaimUseCase.payAssessedClaim,
    PayInFullClaimUseCase.createPaymentExtractLines, bind_ok, Tx.check_ok, createClaimDecision_ok,
    updateClaimStatus_ok, createHistoryEvent_ok, Tx.callOut_ok, validateAmounts_ok] at h
  obtain ⟨_, _, ⟨hvalid, rfl⟩, d, _, ⟨-, rfl, rfl⟩, _, _, hamount,
    _, _, ⟨-, -, rfl⟩, _, _, ⟨lines, _, ⟨hlines, rfl⟩, hextract⟩, _, _, ⟨actor, -, -, rfl⟩,
    _, _, ⟨-, rfl⟩, hsend⟩ := h
  obtain ⟨amount, hamountOf, rfl⟩ := createClaimDecisionAmount_ok hamount
  obtain ⟨extracts, hextracts, rfl⟩ := createPaymentExtract_ok hextract
  obtain ⟨events, hevents⟩ := sendPayInFullDecisionEmail_ok hsend
  split at hlines
  · rename_i found hfound
    cases hlines
    refine ⟨lines, ⟨decisionRow env claim.claimId .payInFull t.store, [], [amount], extracts⟩,
      (decisionRow env claim.claimId .payInFull t.store).createdAt.date, hvalid, ?_, ?_⟩
    · rw [← hfound]
      symm
      apply paymentExtractLines_congr .payInFull
      · rfl
      · rfl
    rw [hevents]
    refine ⟨⟨rfl, rfl, rfl, rfl, by simp, rfl, ?_, hextracts⟩, rfl, rfl, rfl,
      by simp [Store.setClaimStatus], rfl, rfl⟩
    intro a ha
    rw [List.mem_singleton.mp ha]
    exact hamountOf
  · cases hlines

theorem payClaim_ok {command : PayInFullClaimCommand}
    (h : PayInFullClaimUseCase.payClaim env faults command application t = .ok u t') :
    ∃ c lines rows date,
      claimForAssessment command.claimReference application.applicationId t.store = .ok c
        ∧ (PayInFullClaimUseCase.decisionAmounts command c).validate = .ok ()
        ∧ PayInFullClaimUseCase.paymentExtractLines c
            (PayInFullClaimUseCase.decisionAmounts command c) application.applicationId date t.store
            = some lines
        ∧ Decided c.claimId (.payInFull lines) rows t.store t'.store := by
  obtain ⟨c, t₁, hread, hdecide⟩ := bind_ok.mp h
  obtain ⟨hclaim, rfl⟩ := Tx.check_ok.mp hread
  obtain ⟨lines, rows, date, hvalid, hlines, hdecided⟩ := payAssessedClaim_ok hdecide
  exact ⟨c, lines, rows, date, hclaim, hvalid, hlines, hdecided⟩

end Assessment

end InquestsApi
