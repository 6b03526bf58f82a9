import InquestsApi.RemainingFunds

/-! The two figures that a Payment on account claim is held against: the aggregate check of
the unrounded sum, by statuses, and the funds remaining, by decisions and to the penny. -/
namespace InquestsApi

/-- A value is above a bound by more than half of the last of its 28 digits. -/
def ExceedsInContext (bound x : Decimal) : Prop :=
  Rounding.quantum contextPrecision x / 2 < x - bound

/-- The paid claims and a new total are over the limit, but by no more than half a penny. -/
def OverByHalfAPenny (limit : Int32) (paid total : Decimal) : Prop :=
  ExceedsInContext limit.toInt (paid + total)
    ∧ ¬ ExceedsInContext (1 / 200) (paid + total - limit.toInt)

section Figures

variable {limit : Int32} {paid total : Decimal}

theorem lt_decimalAdd_iff :
    (limit.toInt : ℚ) < decimalAdd paid total ↔ ExceedsInContext limit.toInt (paid + total) := by
  have hup := limit.toInt_lt
  have hdown := limit.le_toInt
  have hdigits : |limit.toInt| < 10 ^ 27 := by
    rw [abs_lt]
    omega
  have hiff := Rounding.lt_toPrecision_iff (α := ℚ) (x := paid + total) (m := 0) (by decide) hdigits
  rw [neg_zero, zpow_zero, mul_one] at hiff
  exact hiff

/-- A balance is negative in pence when it is short by more than half a penny. -/
theorem bankersRound_decimalSub_neg_iff :
    bankersRound (decimalSub (limit.toInt - paid) total) < 0
      ↔ ExceedsInContext (1 / 200) (paid + total - limit.toInt) := by
  have hround : bankersRound (decimalSub (limit.toInt - paid) total) < 0
      ↔ Rounding.halfEven (100 * decimalSub (limit.toInt - paid) total) < 0 := by
    rw [bankersRound, div_lt_iff₀ (by norm_num), zero_mul]
    exact Int.cast_lt_zero
  have hopposite : decimalSub (limit.toInt - paid) total
      = -Rounding.toPrecision contextPrecision (paid + total - limit.toInt) := by
    rw [decimalSub, ← Rounding.toPrecision_neg]
    congr 1
    ring
  have hdigits : |(5 : ℤ)| < 10 ^ 27 := by decide
  have hiff := Rounding.lt_toPrecision_iff (α := ℚ) (x := paid + total - limit.toInt) (m := 3)
    (by decide) hdigits
  have hvalue : ((5 : ℤ) : ℚ) * 10 ^ (-(3 : ℤ)) = 1 / 200 := by norm_num
  rw [hvalue] at hiff
  rw [hround, Rounding.halfEven_neg_iff, hopposite, ExceedsInContext, contextPrecision, ← hiff]
  constructor <;> intro h <;> linarith

/-- What is short by more than half a penny is over the limit. -/
theorem exceedsInContext_of_short
    (h : ExceedsInContext (1 / 200) (paid + total - limit.toInt)) :
    ExceedsInContext limit.toInt (paid + total) := by
  rw [← lt_decimalAdd_iff]
  by_contra hwithin
  have hlt := lt_of_decimalAdd_le (not_lt.mp hwithin)
  have hquantum := Rounding.quantum_pos contextPrecision (paid + total - limit.toInt)
  rw [ExceedsInContext] at h
  linarith

end Figures

section Review

variable {s : Store} {application : Application} {validated : DomainClaim} {limit : Int32}

/-- The statuses of an application's claims are those of their latest decisions. -/
def StatusesAgree (s : Store) (applicationId : ℕ) : Prop :=
  ∀ c ∈ s.getClaimsByApplicationId applicationId, c.statusId = .payInFull
    ↔ (c.amountWhen ((s.getClaimDecisionByClaimId c.claimId).map (·.decision))).isApproved = true

/-- Then what the decisions approve is what the statuses pay. -/
theorem StatusesAgree.sum_approved {applicationId : ℕ} (h : StatusesAgree s applicationId) :
    (((CreateClaim.existingClaimAmounts applicationId s).filter (·.isApproved)).map
        (·.paymentAmount)).sum = Claim.paidTotal (s.getClaimsByApplicationId applicationId) := by
  rw [CreateClaim.existingClaimAmounts, List.filter_map, List.map_map, Claim.paidTotal]
  have hsame : ∀ c ∈ s.getClaimsByApplicationId applicationId,
      (c.amountWhen ((s.getClaimDecisionByClaimId c.claimId).map (·.decision))).isApproved
        = decide (c.statusId = .payInFull) := by
    intro c hc
    rw [Bool.eq_iff_iff, decide_eq_true_iff]
    exact (h c hc).symm
  rw [← List.filter_congr hsame]
  rfl

theorem exceedsAggregateCostLimit_iff {total : Decimal}
    (htype : validated.claimType = .paymentOnAccount)
    (hlimit : application.proceeding.substantiveCostLimitation = some limit)
    (htotal : resolveClaimTotal validated.gross validated.vatZeroTotal = some total)
    (claims : List Claim) :
    validated.exceedsAggregateCostLimit application (claims.map (·.summary)) = true
      ↔ ExceedsInContext limit.toInt (Claim.paidTotal claims + total) := by
  unfold DomainClaim.exceedsAggregateCostLimit Application.substantiveCostLimit
  rw [htype, hlimit, htotal, Claim.paidTotal_summary, ← lt_decimalAdd_iff]
  simp

theorem totalFundsRemaining_neg_iff {total : Decimal}
    (hlimit : application.proceeding.substantiveCostLimitation = some limit)
    (htotal : resolveClaimTotal validated.gross validated.vatZeroTotal = some total)
    (hagree : StatusesAgree s application.applicationId) :
    CreateClaim.calculateTotalFundsRemaining application validated s < 0
      ↔ ExceedsInContext (1 / 200)
          (Claim.paidTotal (s.getClaimsByApplicationId application.applicationId) + total
            - limit.toInt) := by
  rw [CreateClaim.calculateTotalFundsRemaining, calculateAvailableFunds, hagree.sum_approved, hlimit,
    ApprovedClaimAmount.paymentAmount, htotal]
  exact bankersRound_decimalSub_neg_iff

end Review

/-- For every accepted Payment on account claim the aggregate check and the funds remaining
agree, unless the claim goes over the limit by half a penny or less. -/
theorem aggregateReview_agrees_iff (s : Store) (application : Application) (limit : Int32)
    (command : CreateClaimCommand) (validated : DomainClaim)
    (hlimit : application.proceeding.substantiveCostLimitation = some limit)
    (hagree : StatusesAgree s application.applicationId)
    (hvalid : CreateClaim.validateClaim command = .ok validated)
    (htype : validated.claimType = .paymentOnAccount) :
    (validated.exceedsAggregateCostLimit application
          ((s.getClaimsByApplicationId application.applicationId).map (·.summary)) = true
        ↔ CreateClaim.calculateTotalFundsRemaining application validated s < 0)
      ↔ ¬ OverByHalfAPenny limit
          (Claim.paidTotal (s.getClaimsByApplicationId application.applicationId))
          ((resolveClaimTotal command.gross command.vatZeroTotal).getD 0) := by
  simp only [CreateClaim.validateClaim, except_bind_ok] at hvalid
  obtain ⟨⟨⟩, hinit, htotals⟩ := hvalid
  have hchecked := validateTotalClaimCost_ok htotals
  obtain ⟨total, htotal⟩ :=
    Option.isSome_iff_exists.mp (DomainClaim.checked_total_isSome hinit htotals)
  rw [← hchecked.total, htotal, Option.getD_some, exceedsAggregateCostLimit_iff htype hlimit htotal,
    totalFundsRemaining_neg_iff hlimit htotal hagree, OverByHalfAPenny]
  constructor
  · intro hiff hover
    exact hover.2 (hiff.mp hover.1)
  · intro hnot
    constructor
    · intro hexceeds
      by_contra hshort
      exact hnot ⟨hexceeds, hshort⟩
    · exact exceedsInContext_of_short

/-- The application with a claim of 120.00 that has been approved. -/
def Sample.paidStore : Store := (create (poaCommand .profitCost (some 100) (some 120) none)).after store

open Sample in
/-- A further 9,990.00 is over the limit of 10,000, and leaves less than nothing. -/
theorem aggregateReview_agrees_overLimit :
    let validated := (CreateClaim.domainClaim
      (poaCommand .expertCost none (some 9990) none)).normalizeNonProfitCostTotals
    Claim.paidTotal (paidStore.getClaimsByApplicationId application.applicationId) = 120
      ∧ (validated.exceedsAggregateCostLimit application
          ((paidStore.getClaimsByApplicationId application.applicationId).map (·.summary)) = true
        ↔ CreateClaim.calculateTotalFundsRemaining application validated paidStore < 0) := by
  have hpaid : Claim.paidTotal (paidStore.getClaimsByApplicationId application.applicationId) = 120 := by
    decide +kernel
  have hagree : StatusesAgree paidStore application.applicationId := by
    unfold StatusesAgree
    decide +kernel
  refine ⟨hpaid, (aggregateReview_agrees_iff paidStore application 10000
    (poaCommand .expertCost none (some 9990) none) _ rfl hagree
    (by decide +kernel) rfl).mpr ?_⟩
  rw [hpaid]
  intro hover
  have hshort : ExceedsInContext (1 / 200) (120 + 9990 - 10000) := by
    unfold ExceedsInContext
    decide +kernel
  exact hover.2 hshort

open Sample in
/-- A disbursement of 10,000.004 on a limit of 10,000 is over the limit, and leaves funds of
0.00. -/
theorem aggregateReview_overByHalfAPenny :
    let command := poaCommand .expertCost none (some (10000004 / 1000)) none
    let validated := (CreateClaim.domainClaim command).normalizeNonProfitCostTotals
    CreateClaim.validateClaim command = .ok validated
      ∧ application.proceeding.substantiveCostLimitation = some 10000
      ∧ StatusesAgree store application.applicationId
      ∧ validated.exceedsAggregateCostLimit application
          ((store.getClaimsByApplicationId application.applicationId).map (·.summary)) = true
      ∧ CreateClaim.calculateTotalFundsRemaining application validated store = 0 := by
  exact ⟨by decide +kernel, rfl, (fun c hc => nomatch hc), by decide +kernel, by decide +kernel⟩

end InquestsApi
