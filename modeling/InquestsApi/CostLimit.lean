import InquestsApi.AutoApproval

/-! What an approval without a caseworker leaves of the cost limit. The limit is checked
against unrounded amounts and must hold of the stored ones. -/
namespace InquestsApi

open UnitOfWork

section Limit

variable {command : CreateClaimCommand} {claim : Claim} {validated : DomainClaim}

theorem Claim.total_wholePence (c : Claim) : WholePence (c.total.getD 0) := by
  have hvalue : ∀ a : Option Amount, WholePence ((Amount.valueOf a).getD 0) := by
    intro a
    cases a with
    | none => exact wholePence_zero
    | some a => exact a.value_wholePence
  unfold Claim.total
  rcases resolveClaimTotal_eq_or (Amount.valueOf c.totalProfitCostGross)
    (Amount.valueOf c.totalProfitCostVatZero) with h | h
  · rw [h]
    exact hvalue _
  · rw [h]
    exact hvalue _

theorem Claim.paidTotal_wholePence (claims : List Claim) : WholePence (Claim.paidTotal claims) := by
  unfold Claim.paidTotal
  induction claims.filter fun c => c.statusId = .payInFull with
  | nil => exact wholePence_zero
  | cons c rest ih =>
      rw [List.map_cons, List.sum_cons]
      exact c.total_wholePence.add ih

/-- The 28 digits of a sum cannot hide that it is half a penny over a limit. -/
theorem lt_of_decimalAdd_le {x y : Decimal} {limit : Int32} (h : decimalAdd x y ≤ (limit.toInt : ℚ)) :
    x + y < (limit.toInt : ℚ) + 1 / 200 := by
  by_contra hover
  have hup := limit.toInt_lt
  have hdown := limit.le_toInt
  have hdigits : |1000 * limit.toInt + 5| < 10 ^ contextPrecision := by
    rw [abs_lt, contextPrecision]
    omega
  have hvalue : ((1000 * limit.toInt + 5 : ℤ) : ℚ) * 10 ^ (-(3 : ℤ)) = (limit.toInt : ℚ) + 1 / 200 := by
    rw [zpow_neg]
    push_cast
    ring
  have hkept := Rounding.le_toPrecision (by decide) hdigits (hvalue.trans_le (not_lt.mp hover))
  rw [hvalue] at hkept
  have hsum : decimalAdd x y = Rounding.toPrecision contextPrecision (x + y) := rfl
  linarith

/-- Rounding the new figure to pence keeps it within a limit of whole pounds. -/
theorem add_storedPence_le {paid t : Decimal} {limit : ℤ} (hpaid : WholePence paid)
    (h : paid + t < (limit : ℚ) + 1 / 200) : paid + (storedPence t : ℚ) / 100 ≤ limit := by
  obtain ⟨p, rfl⟩ := hpaid
  have hpence : storedPence t < 100 * limit - p + 1 := by
    refine Rounding.halfAway_isNearest.lt_of_lt_sub_half ?_
    push_cast
    linarith
  have hpence' : (storedPence t : ℚ) ≤ 100 * limit - p := by
    exact_mod_cast Int.le_of_lt_add_one hpence
  linarith

/-- A command keeps the paid claims within a limit, unless its gross rounds to nothing, so
that its zero-rated amount is the stored total, and that amount goes over the limit. -/
def KeepsWithinLimit (command : CreateClaimCommand) (paid : Decimal) (limit : Int32) : Prop :=
  ¬ (command.poaType ≠ some .profitCost
    ∧ ∃ g ∈ command.gross, g ≠ 0 ∧ storedPence g = 0
      ∧ ∃ z ∈ command.vatZeroTotal, (limit.toInt : ℚ) < paid + (storedPence z : ℚ) / 100)

/-- A gross is the total, unless it is zero or absent: then the zero-rated total is. -/
theorem resolveClaimTotal_getD_of_zero {gross vatZeroTotal : Option Decimal}
    (h : ∀ g ∈ gross, g = 0) :
    (resolveClaimTotal gross vatZeroTotal).getD 0 = vatZeroTotal.getD 0 := by
  cases gross with
  | none => rfl
  | some g =>
      obtain rfl := h g rfl
      cases vatZeroTotal <;> simp [resolveClaimTotal]

theorem disbursement_within_iff {paid total : Decimal} {limit : Int32}
    (hpoa : command.poaType ≠ some .profitCost)
    (htotal : (resolveClaimTotal command.gross command.vatZeroTotal).getD 0 = total)
    (hwithin : paid + (storedPence total : ℚ) / 100 ≤ (limit.toInt : ℚ)) :
    paid + (resolveClaimTotal (some ((storedPence total : ℚ) / 100))
        (some ((storedPence (command.vatZeroTotal.getD 0) : ℚ) / 100))).getD 0 ≤ (limit.toInt : ℚ)
      ↔ KeepsWithinLimit command paid limit := by
  have hgross : ∀ g ∈ command.gross, g ≠ 0 → total = g := by
    intro g hg hne
    rw [← htotal, Option.mem_def.mp hg, resolveClaimTotal_of_ne_zero hne, Option.getD_some]
  by_cases hzero : storedPence total = 0
  · have hresolved : resolveClaimTotal (some ((storedPence total : ℚ) / 100))
        (some ((storedPence (command.vatZeroTotal.getD 0) : ℚ) / 100))
        = some ((storedPence (command.vatZeroTotal.getD 0) : ℚ) / 100) := by
      simp [resolveClaimTotal, hzero]
    rw [hresolved, Option.getD_some]
    rw [hzero, Int.cast_zero, zero_div, add_zero] at hwithin
    constructor
    · rintro hle ⟨-, g, hg, hne, -, z, hz, hover⟩
      rw [Option.mem_def.mp hz, Option.getD_some] at hle
      linarith
    · intro hkeeps
      by_contra hover
      rw [not_le] at hover
      -- the zero-rated amount was given, and so was a gross that is not zero
      by_cases hgiven : ∀ g ∈ command.gross, g = 0
      · rw [← resolveClaimTotal_getD_of_zero hgiven, htotal, hzero, Int.cast_zero, zero_div,
          add_zero] at hover
        linarith
      · push Not at hgiven
        obtain ⟨g, hg, hne⟩ := hgiven
        cases hvat : command.vatZeroTotal with
        | none =>
            have hnothing : storedPence 0 = 0 := by decide +kernel
            rw [hvat, Option.getD_none, hnothing, Int.cast_zero, zero_div, add_zero] at hover
            linarith
        | some z =>
            rw [hvat, Option.getD_some] at hover
            refine hkeeps ⟨hpoa, g, hg, hne, ?_, z, hvat, hover⟩
            rw [← hgross g hg hne]
            exact hzero
  · have hvalue : (storedPence total : ℚ) / 100 ≠ 0 := by
      have hcast : (storedPence total : ℚ) ≠ 0 := by exact_mod_cast hzero
      exact div_ne_zero hcast (by norm_num)
    rw [resolveClaimTotal_of_ne_zero hvalue, Option.getD_some]
    refine iff_of_true hwithin ?_
    rintro ⟨-, g, hg, hne, hrounded, -⟩
    rw [← hgross g hg hne] at hrounded
    exact hzero hrounded

theorem storedTotal_le_iff {applicationId : ℕ} {s : Store} {paid total : Decimal} {limit : Int32}
    (htotals : PoaTotals command validated.net validated.gross validated.vatZeroTotal)
    (hstored : SubmittedRow validated applicationId claim s)
    (htotal : resolveClaimTotal validated.gross validated.vatZeroTotal = some total)
    (hpaid : WholePence paid) (hlimit : decimalAdd paid total ≤ (limit.toInt : ℚ)) :
    paid + claim.total.getD 0 ≤ (limit.toInt : ℚ) ↔ KeepsWithinLimit command paid limit := by
  have hwithin := add_storedPence_le hpaid (lt_of_decimalAdd_le hlimit)
  cases hstored.storedPoa htotals with
  | zeroRated z a hprofit _ _ hnone hcolumn hpence hz =>
      obtain rfl : total = z := Option.some.inj (htotal.symm.trans hz)
      have hstoredTotal : claim.total.getD 0 = (storedPence total : ℚ) / 100 := by
        rw [Claim.total, hnone, hcolumn, ← hpence]
        rfl
      rw [hstoredTotal]
      exact iff_of_true hwithin fun h => h.1 hprofit
  | standardRated n g a b hprofit _ _ _ _ _ _ hcolumn hnone _ hpence hg =>
      obtain rfl : total = g := Option.some.inj (htotal.symm.trans hg)
      have hstoredTotal : claim.total.getD 0 = (storedPence total : ℚ) / 100 := by
        rw [Claim.total, hnone, hcolumn, ← hpence]
        simp [resolveClaimTotal, Amount.valueOf, Amount.value]
      rw [hstoredTotal]
      exact iff_of_true hwithin fun h => h.1 hprofit
  | disbursement poaType a b d _ _ hkind' _ hgrossColumn hzeroColumn _ hgrossPence hzeroPence hresolved =>
      rw [hresolved, Option.some.injEq] at htotal
      have hstoredTotal : claim.total
          = resolveClaimTotal (some ((storedPence total : ℚ) / 100))
              (some ((storedPence (command.vatZeroTotal.getD 0) : ℚ) / 100)) := by
        rw [Claim.total, hgrossColumn, hzeroColumn, ← hzeroPence, ← htotal, ← hgrossPence]
        rfl
      rw [hstoredTotal]
      exact disbursement_within_iff hkind' htotal hwithin

/-- A claim that is not held for a caseworker passed the aggregate check. -/
theorem decimalAdd_le_of_not_held {claim : DomainClaim} {application : Application}
    {existing : List ExistingClaimSummary} {total limit : Decimal}
    (h : claim.requiresManualReview application existing = false)
    (htype : claim.claimType = .paymentOnAccount)
    (htotal : resolveClaimTotal claim.gross claim.vatZeroTotal = some total)
    (hlimit : application.substantiveCostLimit = some limit) :
    decimalAdd (paidTotal existing) total ≤ limit := by
  unfold DomainClaim.requiresManualReview at h
  rw [htype, decide_eq_true rfl, Bool.true_and, Bool.or_eq_false_iff] at h
  have haggregate := h.2
  unfold DomainClaim.exceedsAggregateCostLimit at haggregate
  rw [htype, decide_eq_true rfl, Bool.true_and, htotal, hlimit] at haggregate
  exact not_lt.mp (of_decide_eq_false haggregate)

theorem findApplication_ok {s : Store} {application : Application}
    (h : CreateClaim.findApplication command s = .ok application) :
    s.getApplicationByLaaReference command.laaReference = some application
      ∧ application.isGranted = true := by
  unfold CreateClaim.findApplication at h
  split at h
  · cases h
  · rename_i found hfound
    split at h
    · cases h
    · split at h
      · cases h
      · split at h
        · cases h
        · rename_i hgranted
          cases h
          exact ⟨hfound, not_not.mp hgranted⟩

/-- In every run, an approval keeps the paid claims of an application within its cost limit
exactly when its gross does not round away in favour of a zero-rated amount over it. -/
theorem autoApproval_within_limit_iff (init db : Store) (hreach : Reachable anyRequest init db)
    (env : Env) (faults : Faults) (command : CreateClaimCommand) (application : Application)
    (limit : Int32) (result : CreateClaimResult)
    (session : Session Store Notification OrmObject)
    (happlication : init.getApplicationByLaaReference command.laaReference = some application)
    (hlimit : application.proceeding.proceeding.substantiveCostLimitation = some limit)
    (hrun : CreateClaim.execute env faults command (.start db) = .ok result session)
    (happroved : result.claim.statusId = .payInFull) :
    Claim.paidTotal (session.committed.getClaimsByApplicationId application.applicationId)
        ≤ (limit.toInt : ℚ)
      ↔ KeepsWithinLimit command
          (Claim.paidTotal (db.getClaimsByApplicationId application.applicationId)) limit := by
  obtain ⟨prepared, claim, lines, rows, -, happroval⟩ := execute_approval hrun happroved
  have hprepares := CreateClaim.prepare_ok happroval.prepare
  have hvalid := hprepares.validatedClaim
  obtain ⟨hlookup, hgranted⟩ := findApplication_ok hprepares.application
  obtain rfl : prepared.application = application := by
    have hsame : db.getApplicationByLaaReference command.laaReference
        = init.getApplicationByLaaReference command.laaReference := by
      simp only [Store.getApplicationByLaaReference, hreach.applications]
    rw [hsame, happlication] at hlookup
    exact (Option.some.inj hlookup).symm
  obtain ⟨-, hreview, heligible⟩ := autoOutcome_approve happroval.outcome
  rw [hprepares.existingSummaries] at hreview
  have htype := isEligibleForAutoApproval_claimType heligible
  obtain ⟨-, htotals⟩ := validateClaim_totals hvalid htype
  obtain ⟨total, htotal⟩ : ∃ total,
      resolveClaimTotal prepared.validatedClaim.gross prepared.validatedClaim.vatZeroTotal = some total := by
    simp only [DomainClaim.isEligibleForAutoApproval, Bool.and_eq_true] at heligible
    exact Option.isSome_iff_exists.mp heligible.1.1.1.2
  -- what the aggregate check compared
  have hcostLimit : prepared.application.substantiveCostLimit = some (limit.toInt : ℚ) := by
    have hmerits : prepared.application.proceeding.meritsDecision = .granted := of_decide_eq_true hgranted
    rw [Application.substantiveCostLimit, ApplicationProceeding.substantiveCostLimitation,
      if_neg (not_not.mpr hmerits), hlimit, Option.map_some]
  have hchecked : decimalAdd
      (Claim.paidTotal (db.getClaimsByApplicationId prepared.application.applicationId)) total
        ≤ (limit.toInt : ℚ) := by
    rw [← Claim.paidTotal_summary]
    exact decimalAdd_le_of_not_held hreview htype htotal hcostLimit
  -- the paid claims are the earlier ones and the new one
  have hafter : Claim.paidTotal
      (session.committed.getClaimsByApplicationId prepared.application.applicationId)
      = Claim.paidTotal (db.getClaimsByApplicationId prepared.application.applicationId)
        + claim.total.getD 0 := by
    have hof : claim.applicationId = prepared.application.applicationId := happroval.stored.applicationId
    simp [Store.getClaimsByApplicationId, happroval.claims, Claim.paidTotal, hof]
  rw [hafter]
  exact storedTotal_le_iff htotals happroval.stored htotal (Claim.paidTotal_wholePence _) hchecked

theorem autoApproval_within_limit_sample :
    ∃ result session,
      CreateClaim.execute Sample.env noFaults
          (Sample.poaCommand .expertCost (some 100) (some 120) none) (.start Sample.store)
        = .ok result session
      ∧ Claim.paidTotal (session.committed.getClaimsByApplicationId 1) ≤ 10000 := by
  have hrun : endsOk (CreateClaim.execute Sample.env noFaults
      (Sample.poaCommand .expertCost (some 100) (some 120) none) (.start Sample.store))
      (fun result _ => result.claim.statusId = .payInFull) = true := by decide +kernel
  obtain ⟨result, session, hrun, happroved⟩ := exists_of_endsOk hrun
  have hiff := autoApproval_within_limit_iff Sample.store Sample.store .start _ _ _
    Sample.application 10000 _ _ (by decide +kernel) rfl hrun (of_decide_eq_true happroved)
  refine ⟨result, session, hrun, hiff.mpr ?_⟩
  rintro ⟨-, -, -, -, -, z, hz, -⟩
  cases hz

/-- A gross below half a penny is checked as next to nothing and stored as nothing, and the
zero-rated amount is then what the claim costs. -/
theorem autoApproval_exceeds_limit_roundedGross :
    ∃ result session,
      CreateClaim.execute Sample.env noFaults
          (Sample.poaCommand .expertCost none (some (4 / 1000)) (some 60000)) (.start Sample.store)
        = .ok result session
      ∧ result.claim.statusId = .payInFull
      ∧ Sample.store.getApplicationByLaaReference "INQ-AAA-AAA" = some Sample.application
      ∧ Sample.application.proceeding.proceeding.substantiveCostLimitation = some 10000
      ∧ 10000 < Claim.paidTotal (session.committed.getClaimsByApplicationId 1) := by
  have hrun : endsOk (CreateClaim.execute Sample.env noFaults
      (Sample.poaCommand .expertCost none (some (4 / 1000)) (some 60000)) (.start Sample.store))
      (fun result session => result.claim.statusId = .payInFull
        ∧ Claim.paidTotal (session.committed.getClaimsByApplicationId 1) = 60000) = true := by
    decide +kernel
  obtain ⟨result, session, hrun, htest⟩ := exists_of_endsOk hrun
  obtain ⟨happroved, hpaid⟩ := of_decide_eq_true htest
  refine ⟨result, session, hrun, happroved, by decide +kernel, rfl, ?_⟩
  rw [hpaid]
  norm_num

end Limit

end InquestsApi
