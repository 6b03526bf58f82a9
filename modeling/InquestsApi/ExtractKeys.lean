import InquestsApi.Ledger

/-! The unique constraints of the payment extract table: in a ledger, no payment is ever
refused by one of them. -/
namespace InquestsApi

open UnitOfWork ClaimRepository HistoryEventRepository PayInFullClaimUseCase

/-- The refusals of `unique(claim_id, sequence_number)` and `unique(invoice_number)`. -/
def IsExtractKeyRefusal (e : ApiError) : Prop :=
  e = .uniqueViolation "claim_payment_extract_claim_id_sequence_number_key"
    ∨ e = .uniqueViolation "claim_payment_extract_invoice_number_key"

section Writes

variable {env : Env} {faults : Faults} {t t' : Txn Store Notification} {e : Failure ApiError}

theorem portWrite_error {α : Type} {call : Call} {write : Store → Except ApiError (α × Store)}
    (h : portWrite faults call write t = .error e t') :
    e.error = .portFailure call ∨ ∃ c, write t.store = .error c ∧ e.error = c := by
  unfold portWrite at h
  obtain ⟨-, ⟨fault, -, rfl⟩ | ⟨-, c, hc, rfl⟩⟩ := Tx.flush_error.mp h
  · exact .inl rfl
  · exact .inr ⟨c, hc, rfl⟩

theorem portFailure_not_refusal (call : Call) : ¬ IsExtractKeyRefusal (.portFailure call) := by
  rintro (h | h) <;> cases h

/-- A write that the store never refuses fails only as its port does. -/
theorem portWrite_not_refusal {α : Type} {call : Call} {write : Store → Except ApiError (α × Store)}
    (hwrite : ∀ s c, write s = .error c → ¬ IsExtractKeyRefusal c)
    (h : portWrite faults call write t = .error e t') : ¬ IsExtractKeyRefusal e.error := by
  rcases portWrite_error h with hport | ⟨c, hc, herror⟩
  · rw [hport]
    exact portFailure_not_refusal call
  · rw [herror]
    exact hwrite _ c hc

theorem createClaimDecision_not_refusal {claimId : ℕ} {status : ClaimDecisionStatus}
    (h : createClaimDecision env faults claimId status t = .error e t') :
    ¬ IsExtractKeyRefusal e.error :=
  portWrite_not_refusal (by rintro s c hc; cases hc) h

theorem toColumn_not_refusal {x : Option Decimal} {c : ApiError} (h : toColumn x = .error c) :
    ¬ IsExtractKeyRefusal c := by
  unfold toColumn at h
  split at h
  · cases h
  · cases h
    rintro (h | h) <;> cases h

theorem createClaimDecisionAmount_not_refusal {claimDecisionId : ℕ} {amounts : PayInFullClaim}
    (h : createClaimDecisionAmount faults claimDecisionId amounts t = .error e t') :
    ¬ IsExtractKeyRefusal e.error := by
  refine portWrite_not_refusal ?_ h
  intro s c hc
  simp only [insertDecisionAmount, except_bind_error] at hc
  rcases hc with hc | ⟨_, -, hc | ⟨_, -, hc | ⟨_, -, hc | ⟨_, -, hc | ⟨_, -, hc | ⟨_, -, hc⟩⟩⟩⟩⟩⟩
  all_goals first
    | exact toColumn_not_refusal hc
    | skip
  split at hc
  · cases hc
    simp [IsExtractKeyRefusal]
  · cases hc

theorem updateClaimStatus_not_refusal {claimId : ℕ} {status : ClaimStatus}
    (h : updateClaimStatus faults claimId status t = .error e t') : ¬ IsExtractKeyRefusal e.error := by
  rcases bind_error.mp h with h | ⟨_, _, -, h⟩
  · obtain ⟨c, hc, rfl, -⟩ := Tx.check_error.mp h
    split at hc
    · cases hc
    · cases hc
      rintro (h | h) <;> cases h
  · exact portWrite_not_refusal (by rintro s c hc; cases hc) h

theorem createHistoryEvent_not_refusal {event : NewEvent}
    (h : createHistoryEvent env faults event t = .error e t') : ¬ IsExtractKeyRefusal e.error := by
  rcases bind_error.mp h with h | ⟨_, _, -, h⟩
  · obtain ⟨c, hc, rfl, -⟩ := Tx.check_error.mp h
    unfold requireActor at hc
    split at hc
    · split at hc <;> cases hc
      rintro (h | h) <;> cases h
    · cases hc
      rintro (h | h) <;> cases h
  · exact portWrite_not_refusal (by rintro s c hc; cases hc) h

theorem insertExtract_not_refusal {createdAt : Datetime} {claimId : ℕ} {line : PaymentExtractLine}
    {s : Store} {c : ApiError} (hnumber : line.invoiceNumber ∉ s.claimPaymentExtracts.map (·.invoiceNumber))
    (hsequence : line.sequenceNumber ∉ (s.extractsOf claimId).map (·.sequenceNumber))
    (h : insertExtract createdAt claimId line s = .error c) : ¬ IsExtractKeyRefusal c := by
  rw [insertExtract, except_bind_error] at h
  rcases h with h | ⟨amount, -, h⟩
  · unfold toRequiredColumn at h
    split at h <;> cases h
    rintro (h | h) <;> cases h
  · split at h
    · rename_i htaken
      obtain ⟨row, hrow, hsame⟩ := List.any_eq_true.mp htaken
      simp only [Bool.and_eq_true, decide_eq_true_eq] at hsame
      exact absurd (List.mem_map.mpr ⟨row, List.mem_filter.mpr ⟨hrow, decide_eq_true hsame.1⟩,
        hsame.2⟩) hsequence
    · split at h
      · rename_i htaken
        obtain ⟨row, hrow, hsame⟩ := List.any_eq_true.mp htaken
        exact absurd (List.mem_map.mpr ⟨row, hrow, of_decide_eq_true hsame⟩) hnumber
      · cases h

/-- Lines with numbers of their own are written without a refusal. -/
theorem createPaymentExtract_not_refusal {claimId index : ℕ} {lines : List PaymentExtractLine}
    (hnumbers : (t.store.claimPaymentExtracts.map (·.invoiceNumber)
      ++ lines.map (·.invoiceNumber)).Nodup)
    (hsequence : ((t.store.extractsOf claimId).map (·.sequenceNumber)
      ++ lines.map (·.sequenceNumber)).Nodup)
    (h : createPaymentExtract env faults claimId index lines t = .error e t') :
    ¬ IsExtractKeyRefusal e.error := by
  induction lines generalizing index t with
  | nil => exact absurd h pure_error
  | cons line rest ih =>
      rcases bind_error.mp h with h | ⟨_, _, hwrite, hrest⟩
      · rcases portWrite_error h with hport | ⟨c, hc, herror⟩
        · rw [hport]
          exact portFailure_not_refusal _
        · rw [herror]
          refine insertExtract_not_refusal ?_ ?_ hc
          · intro hmem
            exact (List.nodup_append.mp hnumbers).2.2 _ hmem _ List.mem_cons_self rfl
          · intro hmem
            exact (List.nodup_append.mp hsequence).2.2 _ hmem _ List.mem_cons_self rfl
      · obtain ⟨-, s, hinsert, rfl⟩ := portWrite_ok.mp hwrite
        obtain ⟨row, hrow, rfl⟩ := insertExtract_ok hinsert
        -- the written line has moved from the list to the table
        refine ih ?_ ?_ hrest
        · rw [List.map_append, List.map_singleton, hrow.invoiceNumber, List.append_assoc]
          exact hnumbers
        · rw [Store.extractsOf, filter_key_append_of_eq ?_, List.map_append,
            List.map_singleton, hrow.sequenceNumber, List.append_assoc]
          · exact hsequence
          · intro x hx
            rw [List.mem_singleton.mp hx, hrow.claimId]

end Writes

section Payments

variable {env : Env} {faults : Faults} {t t' : Txn Store Notification} {e : Failure ApiError}
variable {claim : Claim} {own recouped : List PaymentExtractLine}

/-- The lines of a payment in a ledger are written without a refusal. -/
theorem Ledger.createPaymentExtract_not_refusal {s : Store} {index : ℕ} (hs : Ledger s)
    (hclaim : claim ∈ s.claims) (hstatus : claim.statusId = .submitted)
    (hpaid : PaidLines s claim own recouped)
    (hextracts : t.store.claimPaymentExtracts = s.claimPaymentExtracts)
    (h : createPaymentExtract env faults claim.claimId index (own ++ recouped) t = .error e t') :
    ¬ IsExtractKeyRefusal e.error := by
  refine InquestsApi.createPaymentExtract_not_refusal ?_ ?_ h
  · rw [hextracts]
    exact hs.invoiceNumbers_append hclaim hstatus hpaid
  · rw [Store.extractsOf, hextracts]
    have hnone := hs.consistent.extractsOf_submitted hclaim hstatus
    rw [Store.extractsOf] at hnone
    rw [hnone, List.map_nil, List.nil_append, hpaid.sequence]
    exact List.nodup_range'

theorem claimForAssessment_not_refusal {claimReference : String} {applicationId : ℕ} {s : Store}
    {c : ApiError} (h : claimForAssessment claimReference applicationId s = .error c) :
    ¬ IsExtractKeyRefusal c := by
  unfold claimForAssessment at h
  split at h
  · cases h
    rintro (h | h) <;> cases h
  · split at h
    · cases h
      rintro (h | h) <;> cases h
    · split at h <;> cases h
      rintro (h | h) <;> cases h

theorem validateAmounts_not_refusal {p : PayInFullClaim} {c : ApiError}
    (h : validateAmounts p = .error c) : ¬ IsExtractKeyRefusal c := by
  unfold validateAmounts at h
  split at h <;> cases h
  rintro (h | h) <;> cases h

/-- The lines are made of the store as the decision has left it, which is the ledger but
for the status of the claim. -/
theorem Ledger.createPaymentExtractLines_not_refusal {s : Store} {application : Application}
    {decisionAmounts : PayInFullClaim} {date : Date} (hs : Ledger s) (hclaim : claim ∈ s.claims)
    (hstatus : claim.statusId = .submitted) (hof : application.applicationId = claim.applicationId)
    (hclaims : t.store.claims = (s.setClaimStatus claim.claimId .payInFull).claims)
    (hextracts : t.store.claimPaymentExtracts = s.claimPaymentExtracts)
    (h : createPaymentExtractLines env faults claim application decisionAmounts date t
      = .error e t') : ¬ IsExtractKeyRefusal e.error := by
  rcases bind_error.mp h with h | ⟨lines, t₁, hlines, h⟩
  · obtain ⟨x, hx, rfl, -⟩ := Tx.check_error.mp h
    split at hx <;> cases hx
    rintro (h | h) <;> cases h
  · obtain ⟨hbuilt, rfl⟩ := Tx.check_ok.mp hlines
    split at hbuilt
    · rename_i found hfound
      cases hbuilt
      rw [paymentExtractLines_congr .payInFull hclaims hextracts, hof] at hfound
      obtain ⟨own, recouped, rfl, hpaid⟩ := paymentExtractLines_paidLines hfound
      exact hs.createPaymentExtract_not_refusal hclaim hstatus hpaid hextracts h
    · cases hbuilt

theorem sendPayInFullDecisionEmail_not_refusal {application : Application} {firmName : String}
    {decisionAmounts : PayInFullClaim}
    (h : sendPayInFullDecisionEmail env faults claim application firmName decisionAmounts t
      = .error e t') : ¬ IsExtractKeyRefusal e.error := by
  rcases bind_error.mp h with h | ⟨_, _, -, h⟩
  · obtain ⟨-, rfl, -⟩ := Tx.send_error.mp h
    exact portFailure_not_refusal _
  · exact createHistoryEvent_not_refusal h

/-- A caseworker's payment from a ledger is never refused by a unique constraint of the
payment extracts. -/
theorem Ledger.payClaim_not_refusal {command : PayInFullClaimCommand} {application : Application}
    (hs : Ledger t.store) (h : payClaim env faults command application t = .error e t') :
    ¬ IsExtractKeyRefusal e.error := by
  unfold payClaim at h
  rcases bind_error.mp h with h | ⟨c, t₁, hfound, h⟩
  · obtain ⟨x, hx, rfl, -⟩ := Tx.check_error.mp h
    exact claimForAssessment_not_refusal hx
  obtain ⟨hclaim, rfl⟩ := Tx.check_ok.mp hfound
  rcases bind_error.mp h with h | ⟨_, t₂, hvalid, h⟩
  · obtain ⟨x, hx, rfl, -⟩ := Tx.check_error.mp h
    exact validateAmounts_not_refusal hx
  obtain ⟨-, rfl⟩ := Tx.check_ok.mp hvalid
  rcases bind_error.mp h with h | ⟨d, t₃, hdecision, h⟩
  · exact createClaimDecision_not_refusal h
  obtain ⟨-, -, rfl⟩ := createClaimDecision_ok.mp hdecision
  rcases bind_error.mp h with h | ⟨_, t₄, hamount, h⟩
  · exact createClaimDecisionAmount_not_refusal h
  obtain ⟨amount, -, rfl⟩ := createClaimDecisionAmount_ok hamount
  rcases bind_error.mp h with h | ⟨_, t₅, hupdate, h⟩
  · exact updateClaimStatus_not_refusal h
  obtain ⟨-, -, rfl⟩ := updateClaimStatus_ok.mp hupdate
  rcases bind_error.mp h with h | ⟨_, t₆, -, h⟩
  · obtain ⟨hstored, hof, hstatus⟩ := claimForAssessment_ok hclaim
    refine hs.createPaymentExtractLines_not_refusal hstored hstatus hof.symm ?_ ?_ h
    · rfl
    · rfl
  rcases bind_error.mp h with h | ⟨_, t₇, -, h⟩
  · exact createHistoryEvent_not_refusal h
  rcases bind_error.mp h with h | ⟨_, t₈, -, h⟩
  · obtain ⟨-, rfl, -⟩ := Tx.callOut_error.mp h
    exact portFailure_not_refusal _
  · exact sendPayInFullDecisionEmail_not_refusal h

/-- Nor is an approval without a caseworker. -/
theorem Ledger.autoApproveClaim_not_refusal {prepared : PreparedClaim} (hs : Ledger t.store)
    (hclaim : claim ∈ t.store.claims) (hstatus : claim.statusId = .submitted)
    (htype : claim.claimTypeId = .paymentOnAccount)
    (h : CreateClaim.autoApproveClaim env faults prepared claim t = .error e t') :
    ¬ IsExtractKeyRefusal e.error := by
  unfold CreateClaim.autoApproveClaim at h
  rcases bind_error.mp h with h | ⟨d, t₁, hdecision, h⟩
  · exact createClaimDecision_not_refusal h
  obtain ⟨-, -, rfl⟩ := createClaimDecision_ok.mp hdecision
  rcases bind_error.mp h with h | ⟨_, t₂, hamount, h⟩
  · exact createClaimDecisionAmount_not_refusal h
  obtain ⟨amount, -, rfl⟩ := createClaimDecisionAmount_ok hamount
  rcases bind_error.mp h with h | ⟨lines, t₃, hbuilt, h⟩
  · obtain ⟨x, hx, rfl, -⟩ := Tx.check_error.mp h
    unfold CreateClaim.submittedPoaLines at hx
    split at hx <;> cases hx
    rintro (h | h) <;> cases h
  obtain ⟨hlines, rfl⟩ := Tx.check_ok.mp hbuilt
  rcases bind_error.mp h with h | ⟨_, t₄, -, h⟩
  · have hown := poaClaimPaymentExtractLines_ownLines htype (submittedPoaLines_ok.mp hlines)
    rw [← List.append_nil lines] at h
    refine hs.createPaymentExtract_not_refusal hclaim hstatus (hown.paidLines htype) ?_ h
    rfl
  rcases bind_error.mp h with h | ⟨_, t₅, -, h⟩
  · exact updateClaimStatus_not_refusal h
  · exact createHistoryEvent_not_refusal h

end Payments

/-- A line and what it takes back belong to claims of one application. -/
def SameApplication (s : Store) (e p : ClaimPaymentExtract) : Prop :=
  ∃ c ∈ s.claims, ∃ c' ∈ s.claims, c.claimId = e.claimId ∧ c'.claimId = p.claimId
    ∧ c.applicationId = c'.applicationId

/-- In every state a run commits the payment extracts are a ledger: invoice numbers are
unique, the lines of a claim are numbered from one on, a recoupment takes back exactly one
payment of its application, no payment is taken back twice, and neither unique constraint
ever refuses a payment. -/
theorem payment_extracts_keep_ledger (applications : List Application)
    (evidence : List ClaimEvidence) (events : List HistoryEvent) (s : Store)
    (h : CommittedState anyRequest (.initial applications evidence events) s) :
    (s.claimPaymentExtracts.map (·.invoiceNumber)).Nodup
      ∧ (∀ c ∈ s.claims, (s.extractsOf c.claimId).map (·.sequenceNumber)
          = List.range' 1 (s.extractsOf c.claimId).length)
      ∧ (∀ e ∈ s.claimPaymentExtracts, e.invoiceType = .recouped →
          ∃! p, p ∈ s.claimPaymentExtracts ∧ p.invoiceType = .poa ∧ Reversal p e
            ∧ SameApplication s e p)
      ∧ (∀ p ∈ s.claimPaymentExtracts, ∀ e ∈ s.claimPaymentExtracts, ∀ e' ∈ s.claimPaymentExtracts,
          Reversal p e → Reversal p e' → e = e')
      ∧ (∀ env faults command application outbox e t',
          payClaim env faults command application ⟨s, outbox⟩ = .error e t' →
            ¬ IsExtractKeyRefusal e.error)
      ∧ ∀ env faults prepared, ∀ claim ∈ s.claims, claim.statusId = .submitted →
          claim.claimTypeId = .paymentOnAccount → ∀ outbox e t',
          CreateClaim.autoApproveClaim env faults prepared claim ⟨s, outbox⟩ = .error e t' →
            ¬ IsExtractKeyRefusal e.error := by
  have hs := h.ledger (ledger_initial applications evidence events)
  refine ⟨hs.invoiceNumbers, ?_, ?_, ?_, ?_, ?_⟩
  · intro c hc
    have hsequence := hs.sequence c hc
    rw [NumberedFrom, List.length_map] at hsequence
    exact hsequence
  · intro e he hkind
    obtain ⟨bill, hbill, hkey, -, poa, hpoa, happ, p, hp, hpkey, hptype, hreversal⟩ :=
      hs.recoupments e he hkind
    have hsame : SameApplication s e p := ⟨bill, hbill, poa, hpoa, hkey, hpkey.symm, happ.symm⟩
    refine ⟨p, ⟨hp, hptype, hreversal, hsame⟩, ?_⟩
    rintro q ⟨hq, -, hreversal', -⟩
    refine hs.eq_of_invoiceNumber hq hp (reversal_injective ?_)
    rw [← hreversal'.invoiceNumber, ← hreversal.invoiceNumber]
  · intro p _ e he e' he' hreversal hreversal'
    refine hs.eq_of_invoiceNumber he he' ?_
    rw [hreversal.invoiceNumber, hreversal'.invoiceNumber]
  · intro env faults command application outbox e t' hfail
    exact Ledger.payClaim_not_refusal (t := ⟨s, outbox⟩) hs hfail
  · intro env faults prepared claim hclaim hstatus htype outbox e t' hfail
    exact Ledger.autoApproveClaim_not_refusal (t := ⟨s, outbox⟩) hs hclaim hstatus htype hfail

theorem payment_extracts_keep_ledger_recoupingRun :
    (afterAll Sample.store Sample.recoupingRun).claimPaymentExtracts.map (·.invoiceNumber)
        = ["INQC-AAAA-CCCC_001", "INQC-AAAA-CCCC_002", "INQC-AAAA-EFFF_001",
          "INQC-AAAA-CCCC_001-R", "INQC-AAAA-CCCC_002-R"]
      ∧ ((afterAll Sample.store Sample.recoupingRun).claimPaymentExtracts.map
          (·.invoiceNumber)).Nodup :=
  ⟨by decide +kernel, (payment_extracts_keep_ledger [Sample.application] [] [] _
    ⟨_, reachable_afterAll .start fun _ _ _ => trivial, Or.inl rfl⟩).1⟩

end InquestsApi
