import InquestsApi.AutoApproval
import InquestsApi.PaymentLines

/-! What an approval without a caseworker pays, against the figure that was checked. The
checks see the amounts of the command; the lines are made from the amounts as their
columns keep them. -/
namespace InquestsApi

open UnitOfWork

section Payments

variable {n g z : Decimal} {net gross vatZero : Amount}

/-- A net of at least thirteen pence is paid below itself; a smaller one is paid in full. -/
theorem standardRated_paid_iff (hnet : net.pence = storedPence n) (hnonneg : 0 ≤ n) (hle : n ≤ g) :
    bankersRound (net.value * profitCostPaymentRate * vatMultiplier) ≤ g
      ↔ 13 ≤ storedPence n ∨ (storedPence n : ℚ) ≤ 100 * g := by
  have hamount : 100 * (net.value * profitCostPaymentRate * vatMultiplier)
      = 24 / 25 * (storedPence n : ℚ) := by
    rw [Amount.value, hnet, profitCostPaymentRate, vatMultiplier]
    ring
  have hstored : (storedPence n : ℚ) ≤ 100 * n + 1 / 2 := Rounding.halfAway_isNearest.le_add_half _
  have hpos : 0 ≤ storedPence n := by
    refine Rounding.halfAway_isNearest.le_of_intCast_le ?_
    rw [Int.cast_zero]
    linarith
  have hcast : (0 : ℚ) ≤ storedPence n := by exact_mod_cast hpos
  rw [bankersRound, hamount, div_le_iff₀ (by norm_num)]
  by_cases hlarge : 13 ≤ storedPence n
  · have hlarge' : (13 : ℚ) ≤ storedPence n := by exact_mod_cast hlarge
    have hless : Rounding.halfEven (24 / 25 * (storedPence n : ℚ)) < storedPence n := by
      refine Rounding.halfEven_isNearest.lt_of_lt_sub_half ?_
      linarith
    have hless' : (Rounding.halfEven (24 / 25 * (storedPence n : ℚ)) : ℚ) ≤ storedPence n - 1 := by
      exact_mod_cast Int.le_sub_one_of_lt hless
    refine iff_of_true ?_ (.inl hlarge)
    linarith
  · have hsmall : (storedPence n : ℚ) ≤ 12 := by
      have hlt : storedPence n ≤ 12 := by omega
      exact_mod_cast hlt
    have hexact : Rounding.halfEven (24 / 25 * (storedPence n : ℚ)) = storedPence n := by
      refine Rounding.halfEven_isNearest.eq_of_near ?_ ?_ <;> linarith
    rw [hexact, or_iff_right hlarge, mul_comm]

/-- A zero-rated amount is paid below itself from three pence on, in full around zero, and
above itself when it is negative. -/
theorem zeroRated_paid_iff (hz : vatZero.pence = storedPence z) :
    bankersRound (vatZero.value * profitCostPaymentRate) ≤ z
      ↔ 3 ≤ storedPence z ∨ (-2 ≤ storedPence z ∧ (storedPence z : ℚ) ≤ 100 * z) := by
  have hamount : 100 * (vatZero.value * profitCostPaymentRate) = 4 / 5 * (storedPence z : ℚ) := by
    rw [Amount.value, hz, profitCostPaymentRate]
    ring
  have hup : (storedPence z : ℚ) ≤ 100 * z + 1 / 2 := Rounding.halfAway_isNearest.le_add_half _
  have hdown : 100 * z - 1 / 2 ≤ (storedPence z : ℚ) := Rounding.halfAway_isNearest.sub_half_le _
  rw [bankersRound, hamount, div_le_iff₀ (by norm_num), mul_comm z]
  by_cases hlarge : 3 ≤ storedPence z
  · have hlarge' : (3 : ℚ) ≤ storedPence z := by exact_mod_cast hlarge
    have hless : Rounding.halfEven (4 / 5 * (storedPence z : ℚ)) < storedPence z := by
      refine Rounding.halfEven_isNearest.lt_of_lt_sub_half ?_
      linarith
    have hless' : (Rounding.halfEven (4 / 5 * (storedPence z : ℚ)) : ℚ) ≤ storedPence z - 1 := by
      exact_mod_cast Int.le_sub_one_of_lt hless
    refine iff_of_true ?_ (.inl hlarge)
    linarith
  rw [or_iff_right hlarge]
  by_cases hneg : -2 ≤ storedPence z
  · have hneg' : (-2 : ℚ) ≤ storedPence z := by exact_mod_cast hneg
    have hsmall : (storedPence z : ℚ) ≤ 2 := by
      have hle : storedPence z ≤ 2 := by omega
      exact_mod_cast hle
    have hexact : Rounding.halfEven (4 / 5 * (storedPence z : ℚ)) = storedPence z := by
      refine Rounding.halfEven_isNearest.eq_of_near ?_ ?_ <;> linarith
    rw [hexact, and_iff_right hneg]
  · have hneg' : (storedPence z : ℚ) ≤ -3 := by
      have hle : storedPence z ≤ -3 := by omega
      exact_mod_cast hle
    have hmore : storedPence z < Rounding.halfEven (4 / 5 * (storedPence z : ℚ)) := by
      refine Rounding.halfEven_isNearest.lt_of_add_half_lt ?_
      linarith
    have hmore' : (storedPence z : ℚ) + 1 ≤ Rounding.halfEven (4 / 5 * (storedPence z : ℚ)) := by
      exact_mod_cast hmore
    refine iff_of_false ?_ fun h => hneg h.1
    intro hle
    linarith

/-- A part of a gross is paid when it is positive. -/
theorem sum_disbursementAmounts (gross vatZero : Amount) :
    ((disbursementAmounts (some gross.value) (some vatZero.value)).map (·.1)).sum
      = ((max (gross.pence - vatZero.pence) 0 + max vatZero.pence 0 : ℤ) : ℚ) / 100 := by
  have hparts : vat20PercentAmount (some gross.value) (some vatZero.value)
      = ((gross.pence - vatZero.pence : ℤ) : ℚ) / 100 := by
    rw [vat20PercentAmount, Option.getD_some, Option.getD_some, Amount.decimalSub_value,
      Amount.value, Amount.value]
    push_cast
    ring
  have hpositive : ∀ p : ℤ, (0 : ℚ) < (p : ℚ) / 100 ↔ 0 < p := by
    intro p
    rw [div_pos_iff_of_pos_right (by norm_num), Int.cast_pos]
  have hstandard : ((if 0 < vat20PercentAmount (some gross.value) (some vatZero.value) then
      [(bankersRound (vat20PercentAmount (some gross.value) (some vatZero.value)),
        TaxCode.gbVat20)] else []).map (·.1)).sum
      = ((max (gross.pence - vatZero.pence) 0 : ℤ) : ℚ) / 100 := by
    rw [hparts, WholePence.bankersRound_eq ⟨_, rfl⟩]
    by_cases h : 0 < gross.pence - vatZero.pence
    · rw [if_pos ((hpositive _).mpr h), max_eq_left h.le]
      simp only [List.map_cons, List.map_nil, List.sum_singleton]
    · rw [if_neg fun hlt => h ((hpositive _).mp hlt), max_eq_right (not_lt.mp h)]
      simp only [List.map_nil, List.sum_nil, Int.cast_zero, zero_div]
  have hzero : ((((some vatZero.value).filter (0 < ·)).toList.map
      fun v => (bankersRound v, TaxCode.zeroVat)).map (·.1)).sum
      = ((max vatZero.pence 0 : ℤ) : ℚ) / 100 := by
    rw [Amount.value]
    by_cases h : 0 < vatZero.pence
    · have hkept : (some ((vatZero.pence : ℚ) / 100)).filter (0 < ·)
          = some ((vatZero.pence : ℚ) / 100) :=
        Option.filter_some_pos (decide_eq_true ((hpositive _).mpr h))
      rw [hkept, max_eq_left h.le]
      simp only [Option.toList_some, List.map_cons, List.map_nil, List.sum_singleton]
      exact WholePence.bankersRound_eq ⟨_, rfl⟩
    · have hdropped : (some ((vatZero.pence : ℚ) / 100)).filter (0 < ·) = none :=
        Option.filter_some_neg (decide_eq_false fun hlt => h ((hpositive _).mp hlt))
      rw [hdropped, max_eq_right (not_lt.mp h)]
      simp only [Option.toList_none, List.map_nil, List.sum_nil, Int.cast_zero, zero_div]
  unfold disbursementAmounts
  rw [List.map_append, List.sum_append, hstandard, hzero]
  push_cast
  ring

/-- The parts stay within the gross exactly when the zero-rated part is one of it, and the
gross was not rounded up. -/
theorem disbursement_paid_iff (hg : gross.pence = storedPence g) :
    ((disbursementAmounts (some gross.value) (some vatZero.value)).map (·.1)).sum ≤ g
      ↔ 0 ≤ vatZero.pence ∧ vatZero.pence ≤ gross.pence ∧ (gross.pence : ℚ) ≤ 100 * g := by
  have hdown : 100 * g - 1 / 2 ≤ (gross.pence : ℚ) := by
    rw [hg]
    exact Rounding.halfAway_isNearest.sub_half_le _
  -- a sum above the gross in pence is above it
  have hover : ∀ p : ℤ, gross.pence < p → ¬ (p : ℚ) ≤ 100 * g := by
    intro p hlt hle
    have hlt' : (gross.pence : ℚ) + 1 ≤ p := by exact_mod_cast hlt
    linarith
  rw [sum_disbursementAmounts, div_le_iff₀ (by norm_num), mul_comm g]
  by_cases hneg : 0 ≤ vatZero.pence
  · by_cases hpart : vatZero.pence ≤ gross.pence
    · have hsum : max (gross.pence - vatZero.pence) 0 + max vatZero.pence 0 = gross.pence := by
        omega
      rw [hsum, and_iff_right hneg, and_iff_right hpart]
    · refine iff_of_false (hover _ (by omega)) fun h => hpart h.2.1
  · refine iff_of_false ?_ fun h => hneg h.1
    by_cases hpart : gross.pence ≤ vatZero.pence
    · -- nothing is paid, which is above a negative gross
      have hnone : max (gross.pence - vatZero.pence) 0 + max vatZero.pence 0 = 0 := by omega
      rw [hnone]
      exact hover 0 (by omega)
    · exact hover _ (by omega)

/-- The figure that the limits are checked against: the total of the validated claim. -/
def CreateClaim.checkedTotal (command : CreateClaimCommand) : Option Decimal :=
  match CreateClaim.validateClaim command with
  | .ok claim => resolveClaimTotal claim.gross claim.vatZeroTotal
  | .error _ => none

/-- The payment lines that a request adds. -/
def linesWritten (before after : Store) : List ClaimPaymentExtract :=
  after.claimPaymentExtracts.drop before.claimPaymentExtracts.length

/-- The totals whose payment lines stay within the figure checked, by kind of claim. -/
def PaysWithinChecked (command : CreateClaimCommand) : Prop :=
  if command.poaType = some .profitCost then
    match command.vatZeroTotal with
    | some z => 3 ≤ storedPence z ∨ (-2 ≤ storedPence z ∧ (storedPence z : ℚ) ≤ 100 * z)
    | none => 13 ≤ storedPence (command.net.getD 0)
        ∨ (storedPence (command.net.getD 0) : ℚ) ≤ 100 * command.gross.getD 0
  else
    let gross := (resolveClaimTotal command.gross command.vatZeroTotal).getD 0
    let vatZero := command.vatZeroTotal.getD 0
    0 ≤ storedPence vatZero ∧ storedPence vatZero ≤ storedPence gross
      ∧ (storedPence gross : ℚ) ≤ 100 * gross

variable {command : CreateClaimCommand} {claim : Claim} {validated : DomainClaim}
variable {lines : List PaymentExtractLine}

/-- The lines made of a stored claim, against the total it was validated with. -/
theorem linesTotal_le_iff {applicationId : ℕ} {s : Store}
    (htotals : PoaTotals command validated.net validated.gross validated.vatZeroTotal)
    (hpoa : validated.poaType = command.poaType)
    (hstored : SubmittedRow validated applicationId claim s)
    (hlines : poaClaimPaymentExtractLines claim (payInFullClaimFromSubmittedPoaClaim claim)
      = some lines) :
    ∃ total, resolveClaimTotal validated.gross validated.vatZeroTotal = some total
      ∧ (linesTotal lines ≤ total ↔ PaysWithinChecked command) := by
  have htype : claim.poaTypeId = command.poaType := hstored.poaType.trans hpoa
  cases hstored.storedPoa htotals with
  | zeroRated z a hprofit hvat _ _ hzero hpence htotal =>
      refine ⟨z, htotal, ?_⟩
      simp only [poaClaimPaymentExtractLines, payInFullClaimFromSubmittedPoaClaim, htype, hprofit,
        if_true, hzero, Amount.valueOf, Option.map_some, buildPoaProfitCostExtract,
        Option.some.injEq] at hlines
      rw [← hlines, linesTotal_cons, linesTotal_nil, add_zero, PaysWithinChecked, if_pos hprofit,
        hvat]
      exact zeroRated_paid_iff hpence
  | standardRated n g a b hprofit hcommandNet hcommandGross hvat hnonneg hle hnet _ hzero hpence _ htotal =>
      refine ⟨g, htotal, ?_⟩
      simp only [poaClaimPaymentExtractLines, payInFullClaimFromSubmittedPoaClaim, htype, hprofit,
        if_true, hnet, hzero, Amount.valueOf, Option.map_some, Option.map_none,
        buildPoaProfitCostExtract, Option.some.injEq] at hlines
      rw [← hlines, linesTotal_cons, linesTotal_nil, add_zero, PaysWithinChecked, if_pos hprofit,
        hvat, hcommandNet, hcommandGross]
      exact standardRated_paid_iff hpence hnonneg hle
  | disbursement poaType a b d hkind hother hprofit _ hgross hzero _ hgrossPence hzeroPence htotal =>
      refine ⟨_, htotal, ?_⟩
      have hbuilt : lines = buildPoaDisbursementExtract claim.claimReference claim.submissionDate
          (some b.value) (some d.value) := by
        simp only [poaClaimPaymentExtractLines, payInFullClaimFromSubmittedPoaClaim, htype,
          if_neg hprofit, hgross, hzero, Amount.valueOf, Option.map_some] at hlines
        rw [hkind] at hlines
        cases poaType with
        | profitCost => exact absurd rfl hother
        | expertCost => exact (Option.some.inj hlines).symm
        | nonExpertDisbursement => exact (Option.some.inj hlines).symm
      rw [hbuilt, buildPoaDisbursementExtract, linesTotal_numberedLines,
        disbursement_paid_iff hgrossPence, PaysWithinChecked, if_neg hprofit, hgrossPence, hzeroPence]

/-- What the approval pays is at most the figure checked exactly when the totals of the
claim are of a kind that pays within it. -/
theorem autoApproval_pays_within_checked_iff (env : Env) (faults : Faults)
    (command : CreateClaimCommand) (db : Store) (result : CreateClaimResult)
    (session : Session Store Notification OrmObject)
    (hrun : CreateClaim.execute env faults command (.start db) = .ok result session)
    (happroved : result.claim.statusId = .payInFull) :
    ∃ total, CreateClaim.checkedTotal command = some total
      ∧ (invoiced (linesWritten db session.committed) ≤ total ↔ PaysWithinChecked command) := by
  obtain ⟨prepared, claim, lines, rows, -, happroval⟩ := execute_approval hrun happroved
  have hvalid := (CreateClaim.prepare_ok happroval.prepare).validatedClaim
  have htype := isEligibleForAutoApproval_claimType (autoOutcome_approve happroval.outcome).2.2
  obtain ⟨hpoa, htotals⟩ := validateClaim_totals hvalid htype
  obtain ⟨total, htotal, hiff⟩ := linesTotal_le_iff htotals hpoa happroval.stored happroval.built
  refine ⟨total, ?_, ?_⟩
  · rw [CreateClaim.checkedTotal, hvalid]
    exact htotal
  · have hwritten : linesWritten db session.committed = rows := by
      rw [linesWritten, happroval.extracts, List.drop_left]
    rw [hwritten, invoiced_eq_linesTotal happroval.written
      (poaClaimPaymentExtractLines_wholePence happroval.built)]
    exact hiff

theorem autoApproval_pays_within_checked_sample :
    ∃ total, CreateClaim.checkedTotal (Sample.poaCommand .profitCost (some 100) (some 120) none)
        = some total
      ∧ invoiced (linesWritten Sample.store ((Sample.create
          (Sample.poaCommand .profitCost (some 100) (some 120) none)).after Sample.store)) ≤ total := by
  have hrun : endsOk (CreateClaim.execute Sample.env noFaults
      (Sample.poaCommand .profitCost (some 100) (some 120) none) (.start Sample.store))
      (fun result _ => result.claim.statusId = .payInFull) = true := by decide +kernel
  obtain ⟨result, session, hrun, happroved⟩ := exists_of_endsOk hrun
  obtain ⟨total, htotal, hiff⟩ := autoApproval_pays_within_checked_iff _ _ _ _ _ _ hrun
    (of_decide_eq_true happroved)
  have hcommitted : (Sample.create (Sample.poaCommand .profitCost (some 100) (some 120) none)).after
      Sample.store = session.committed := by
    simp only [Submission.after, Submission.session, Sample.create, hrun, endState]
  refine ⟨total, htotal, ?_⟩
  rw [hcommitted]
  exact hiff.mpr (.inl (by decide +kernel))

/-- A zero-rated total above the gross: the gross is checked, the zero-rated total is paid. -/
theorem autoApproval_overpays_zeroRated :
    ∃ result session total,
      CreateClaim.execute Sample.env noFaults
          (Sample.poaCommand .expertCost none (some 100) (some 60000)) (.start Sample.store)
        = .ok result session
      ∧ result.claim.statusId = .payInFull
      ∧ CreateClaim.checkedTotal (Sample.poaCommand .expertCost none (some 100) (some 60000))
          = some total
      ∧ total < invoiced (linesWritten Sample.store session.committed) := by
  have hrun : endsOk (CreateClaim.execute Sample.env noFaults
      (Sample.poaCommand .expertCost none (some 100) (some 60000)) (.start Sample.store))
      (fun result session => result.claim.statusId = .payInFull
        ∧ invoiced (linesWritten Sample.store session.committed) = 60000) = true := by
    decide +kernel
  obtain ⟨result, session, hrun, htest⟩ := exists_of_endsOk hrun
  obtain ⟨happroved, hpaid⟩ := of_decide_eq_true htest
  refine ⟨result, session, 100, hrun, happroved, by decide +kernel, ?_⟩
  rw [hpaid]
  norm_num

end Payments

end InquestsApi
