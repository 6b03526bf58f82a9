import InquestsApi.CreatedClaims
import InquestsApi.DecideClaim

/-! Payment of a submitted claim without amounts being entered: the amounts come from the
stored claim, and the rules of a decision are applied to them. -/
namespace InquestsApi

open UnitOfWork PayInFullClaimUseCase

/-- A stored Payment on account claim can be paid as it was submitted: its own amounts pass
the rules of a decision, and are paid by the lines of an approval without a caseworker. -/
structure FastTracks (c : Claim) : Prop where
  validates : (payInFullClaimFromSubmittedPoaClaim c).validate = .ok ()
  decided : ∀ command, hasNoAmounts command = true →
    validateAmounts (decisionAmounts command c) = .ok ()
  paid : ∃ lines, CreateClaim.submittedPoaLines c = .ok lines
    ∧ ∀ command, hasNoAmounts command = true → ∀ applicationId decisionDate s,
      paymentExtractLines c (decisionAmounts command c) applicationId decisionDate s = some lines

/-- The totals of a request that the rules of a decision take as they are stored, in pence:
a profit cost; zero-rated amounts alone; or a gross above the net and the zero-rated amount. -/
def DecidableAsSubmitted (command : CreateClaimCommand) : Prop :=
  let net := storedPence (command.net.getD 0)
  let gross := storedPence ((resolveClaimTotal command.gross command.vatZeroTotal).getD 0)
  let vatZero := storedPence (command.vatZeroTotal.getD 0)
  command.poaType = some .profitCost
    ∨ (net = 0 ∧ (gross = 0 ∨ gross = vatZero))
    ∨ vatZero + net < gross

section Rules

variable (net gross vatZero : Amount)

/-- Stored amounts are compared as their pence are. -/
theorem Amount.value_le_iff (a b : Amount) : a.value ≤ b.value ↔ a.pence ≤ b.pence := by
  rw [Amount.value, Amount.value, div_le_div_iff_of_pos_right (by norm_num)]
  exact Int.cast_le

theorem Amount.value_eq_iff (a b : Amount) : a.value = b.value ↔ a.pence = b.pence := by
  rw [Amount.value, Amount.value, div_left_inj' (by norm_num)]
  exact Int.cast_inj

theorem Amount.value_eq_zero_iff (a : Amount) : a.value = 0 ↔ a.pence = 0 := by
  rw [Amount.value, div_eq_zero_iff, or_iff_left (by norm_num)]
  exact Int.cast_eq_zero

/-- The rule on the gross of a disbursement, in pence. -/
theorem grossNotGreater_iff :
    (¬ PayInFullClaim.hasNoStandardRatedDisbursement net.value gross.value vatZero.value = true
        ∧ gross.value ≤ decimalAdd vatZero.value net.value)
      ↔ ¬ ((net.pence = 0 ∧ (gross.pence = 0 ∨ gross.pence = vatZero.pence))
        ∨ vatZero.pence + net.pence < gross.pence) := by
  have hsum : gross.value ≤ decimalAdd vatZero.value net.value
      ↔ gross.pence ≤ vatZero.pence + net.pence := by
    rw [Amount.decimalAdd_value, Amount.value, Amount.value, Amount.value, ← add_div,
      div_le_div_iff_of_pos_right (by norm_num)]
    exact_mod_cast Iff.rfl
  have hzeroRated :
      PayInFullClaim.hasNoStandardRatedDisbursement net.value gross.value vatZero.value = true
        ↔ net.pence = 0 ∧ (gross.pence = 0 ∨ gross.pence = vatZero.pence) := by
    simp only [PayInFullClaim.hasNoStandardRatedDisbursement, Bool.and_eq_true, Bool.or_eq_true,
      decide_eq_true_eq, Amount.value_eq_zero_iff, Amount.value_eq_iff]
  rw [hsum, hzeroRated, not_or, not_lt]

/-- A disbursement is stored with all three amounts, and only the rule on its gross is left. -/
theorem validate_disbursement_iff {poaType : POAType} (hother : poaType ≠ .profitCost) :
    PayInFullClaim.validate
        ⟨.paymentOnAccount, some poaType, none, none, none, some net.value, some gross.value,
          some vatZero.value⟩ = .ok ()
      ↔ (net.pence = 0 ∧ (gross.pence = 0 ∨ gross.pence = vatZero.pence))
        ∨ vatZero.pence + net.pence < gross.pence := by
  have hprofit : PayInFullClaim.validateProfitCost
      ⟨.paymentOnAccount, some poaType, none, none, none, some net.value, some gross.value,
        some vatZero.value⟩ = .ok () := by
    simp [PayInFullClaim.validateProfitCost, PayInFullClaim.profitCostNotApplicable,
      PayInFullClaim.hasProfitCost, hother]
  have happlicable : PayInFullClaim.disbursementNotApplicable
      ⟨.paymentOnAccount, some poaType, none, none, none, some net.value, some gross.value,
        some vatZero.value⟩ = false := by
    simp [PayInFullClaim.disbursementNotApplicable, hother]
  unfold PayInFullClaim.validate
  rw [hprofit, PayInFullClaim.validateDisbursement, if_neg (by simp), happlicable,
    if_neg Bool.false_ne_true]
  simp only [except_bind_ok, refuseWhen_ok, PayInFullClaim.hasDisbursement, Option.isSome_some,
    Option.getD_some, Option.mem_def, Option.some.injEq, exists_eq_left', grossNotGreater_iff,
    Bool.or_true, not_true_eq_false, and_false, not_false_eq_true, exists_const, true_and, not_not]

theorem validate_zeroRated :
    PayInFullClaim.validate ⟨.paymentOnAccount, some .profitCost, none, none, some vatZero.value,
      none, none, none⟩ = .ok () := by
  simp [PayInFullClaim.validate, PayInFullClaim.validateProfitCost,
    PayInFullClaim.validateDisbursement, PayInFullClaim.profitCostNotApplicable,
    PayInFullClaim.disbursementNotApplicable, PayInFullClaim.hasProfitCost,
    PayInFullClaim.hasDisbursement]

theorem validate_standardRated {net gross : Amount} (hle : net.pence ≤ gross.pence) :
    PayInFullClaim.validate ⟨.paymentOnAccount, some .profitCost, some net.value,
      some gross.value, none, none, none, none⟩ = .ok () := by
  have hvalue : ¬ gross.value < net.value := not_lt.mpr ((Amount.value_le_iff net gross).mpr hle)
  simp [PayInFullClaim.validate, PayInFullClaim.validateProfitCost,
    PayInFullClaim.validateDisbursement, PayInFullClaim.profitCostNotApplicable,
    PayInFullClaim.disbursementNotApplicable, PayInFullClaim.hasProfitCost,
    PayInFullClaim.hasDisbursement, hvalue]

end Rules

section Submitted

variable {command : CreateClaimCommand} {validated : DomainClaim} {applicationId : ℕ} {s : Store}
variable {c : Claim}

/-- A change of status leaves the columns as they were stored. -/
theorem storedPoa_withStatus
    (htotals : PoaTotals command validated.net validated.gross validated.vatZeroTotal)
    (hstored : SubmittedRow validated applicationId (c.withStatus .submitted) s) :
    StoredPoa command validated c.totalProfitCostNet c.totalProfitCostGross
      c.totalProfitCostVatZero := by
  have hcolumns := hstored.storedPoa htotals
  exact hcolumns

/-- A stored claim passes the rules of a decision exactly when its submission could be decided
as it was entered. -/
theorem validate_submitted_iff
    (htotals : PoaTotals command validated.net validated.gross validated.vatZeroTotal)
    (hpoa : validated.poaType = command.poaType)
    (htype : validated.claimType = .paymentOnAccount)
    (hstored : SubmittedRow validated applicationId (c.withStatus .submitted) s) :
    (payInFullClaimFromSubmittedPoaClaim c).validate = .ok () ↔ DecidableAsSubmitted command := by
  have hclaimType : c.claimTypeId = .paymentOnAccount := hstored.claimType.trans htype
  have hpoaType : c.poaTypeId = command.poaType := hstored.poaType.trans hpoa
  unfold payInFullClaimFromSubmittedPoaClaim
  rw [hclaimType, hpoaType]
  cases storedPoa_withStatus htotals hstored with
  | zeroRated z a hprofit _ hnet hgross hzero =>
      rw [hprofit, if_pos rfl, hnet, hgross, hzero]
      exact iff_of_true (validate_zeroRated a) (.inl hprofit)
  | standardRated n g a b hprofit _ _ _ _ hle hnet hgross hzero hnetPence hgrossPence =>
      have hpence : a.pence ≤ b.pence := by
        rw [hnetPence, hgrossPence]
        exact Rounding.halfAway_isNearest.mono (by linarith)
      rw [hprofit, if_pos rfl, hnet, hgross, hzero]
      exact iff_of_true (validate_standardRated hpence) (.inl hprofit)
  | disbursement poaType a b d hkind hother hprofit hnet hgross hzero hnetPence hgrossPence hzeroPence =>
      rw [if_neg hprofit, hkind, hnet, hgross, hzero]
      have hiff := validate_disbursement_iff a b d hother
      rw [hnetPence, hgrossPence, hzeroPence] at hiff
      simp only [DecidableAsSubmitted, hprofit, false_or]
      exact hiff

/-- The lines of a Payment on account claim exist: it has a net or a zero-rated amount. -/
theorem submittedPoaLines_isOk
    (htotals : PoaTotals command validated.net validated.gross validated.vatZeroTotal)
    (hpoa : validated.poaType = command.poaType)
    (hstored : SubmittedRow validated applicationId (c.withStatus .submitted) s) :
    ∃ lines, poaClaimPaymentExtractLines c (payInFullClaimFromSubmittedPoaClaim c) = some lines := by
  have hpoaType : c.poaTypeId = command.poaType := hstored.poaType.trans hpoa
  unfold poaClaimPaymentExtractLines payInFullClaimFromSubmittedPoaClaim
  rw [hpoaType]
  cases storedPoa_withStatus htotals hstored with
  | zeroRated z a hprofit _ _ _ hzero =>
      rw [hprofit, if_pos rfl, hzero]
      exact ⟨_, rfl⟩
  | standardRated n g a b hprofit _ _ _ _ _ hnet _ hzero =>
      rw [hprofit, if_pos rfl, hnet, hzero]
      exact ⟨_, rfl⟩
  | disbursement poaType a b d hkind hother =>
      rw [hkind]
      cases poaType with
      | profitCost => exact absurd rfl hother
      | expertCost => exact ⟨_, rfl⟩
      | nonExpertDisbursement => exact ⟨_, rfl⟩

/-- What the use case decides of a claim and pays for it comes down to the amounts of the
stored claim. -/
theorem fastTracks_iff_validates (htype : c.claimTypeId = .paymentOnAccount)
    (hlines : ∃ lines,
      poaClaimPaymentExtractLines c (payInFullClaimFromSubmittedPoaClaim c) = some lines) :
    FastTracks c ↔ (payInFullClaimFromSubmittedPoaClaim c).validate = .ok () := by
  have hamounts : ∀ command, hasNoAmounts command = true →
      decisionAmounts command c = payInFullClaimFromSubmittedPoaClaim c := by
    intro command hnone
    exact if_pos ⟨htype, hnone⟩
  obtain ⟨lines, hlines⟩ := hlines
  constructor
  · exact fun h => h.validates
  · intro h
    refine ⟨h, ?_, lines, ?_, ?_⟩
    · intro command hnone
      rw [hamounts command hnone, validateAmounts, h]
    · rw [CreateClaim.submittedPoaLines, hlines]
    · intro command hnone applicationId decisionDate s
      rw [hamounts command hnone, paymentExtractLines, if_pos htype]
      exact hlines

end Submitted

/-- A created Payment on account claim can be paid as it was submitted exactly when its
totals, in pence, are those of a profit cost, zero-rated alone, or below the gross. -/
theorem created_fastTracks_iff (env : Env) (faults : Faults) (command : CreateClaimCommand)
    (db : Store) (c : Claim)
    (hc : c ∈ (endState (CreateClaim.execute env faults command (.start db))).committed.claims)
    (hnew : c ∉ db.claims) (htype : c.claimTypeId = .paymentOnAccount) :
    FastTracks c ↔ DecidableAsSubmitted command := by
  rcases execute_created env faults command hc with hold | ⟨prepared, hcreated⟩
  · exact absurd hold hnew
  · have hvalidType : prepared.validatedClaim.claimType = .paymentOnAccount :=
      hcreated.stored.claimType.symm.trans htype
    obtain ⟨hpoa, htotals⟩ := validateClaim_totals (prepare_validateClaim hcreated.prepare) hvalidType
    rw [fastTracks_iff_validates htype (submittedPoaLines_isOk htotals hpoa hcreated.stored)]
    exact validate_submitted_iff htotals hpoa hvalidType hcreated.stored

open Sample in
theorem created_fastTracks_sample :
    ∃ c ∈ ((create (poaCommand .expertCost (some 80) (some 120) (some 20))).after store).claims,
      FastTracks c := by
  have hcreated : ∃ c ∈
      ((create (poaCommand .expertCost (some 80) (some 120) (some 20))).after store).claims,
      c.claimTypeId = .paymentOnAccount := by decide +kernel
  obtain ⟨c, hc, htype⟩ := hcreated
  refine ⟨c, hc, (created_fastTracks_iff env noFaults
    (poaCommand .expertCost (some 80) (some 120) (some 20)) store c hc (fun h => nomatch h)
    htype).mpr ?_⟩
  unfold DecidableAsSubmitted
  decide +kernel

open Sample in
/-- A net of 100.00 in a gross of 100.00 is accepted and even approved without a caseworker,
but by hand it cannot be paid as it was submitted: the decision asks for a gross above the net. -/
theorem equal_net_and_gross_not_fastTracked :
    ∃ c ∈ ((create (poaCommand .expertCost (some 100) (some 100) none)).after store).claims,
      c.claimTypeId = .paymentOnAccount ∧ c.statusId = .payInFull
        ∧ (payInFullClaimFromSubmittedPoaClaim c).validate
          = .error ⟨.disbursementGrossNotGreaterThanTotal, Message.disbGrossNotGreaterThanTotal⟩ := by
  decide +kernel

end InquestsApi
