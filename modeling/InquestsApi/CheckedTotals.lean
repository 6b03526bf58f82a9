import InquestsApi.AutoApproval

/-! What the totals of a checked claim still are: the claim total of before, a net within
the gross, and a claim that the same check leaves alone. -/
namespace InquestsApi

/-- The check has kept the claim total and ends in a claim that it accepts unchanged. -/
structure TotalsSettled (before after : DomainClaim) : Prop where
  defined : (resolveClaimTotal after.gross after.vatZeroTotal).isSome
  kept : resolveClaimTotal after.gross after.vatZeroTotal
    = resolveClaimTotal before.gross before.vatZeroTotal
  ordered : ∀ n ∈ after.net, ∀ g ∈ after.gross, n ≤ g
  fixed : after.validateTotalClaimCost = .ok after

namespace DomainClaim

variable {claim checked : DomainClaim}

/-- The claims whose totals are normalised: on account of anything but profit costs. -/
def isDisbursement (claim : DomainClaim) : Prop :=
  claim.poaType.isSome ∧ claim.poaType ≠ some .profitCost

theorem validateTotalsConsistency_ok :
    claim.validateTotalsConsistency = .ok ()
      ↔ (∀ n ∈ claim.net, 0 ≤ n) ∧ ∀ n ∈ claim.net, ∀ g ∈ claim.gross, n ≤ g := by
  simp only [validateTotalsConsistency, except_bind_ok, refuseWhen_ok]
  constructor
  · rintro ⟨_, hnonneg, hle⟩
    constructor
    · intro n hn
      by_contra hneg
      exact hnonneg ⟨n, hn, not_le.mp hneg⟩
    · intro n hn g hg
      by_contra hgt
      exact hle ⟨n, hn, g, hg, not_le.mp hgt⟩
  · rintro ⟨hnonneg, hle⟩
    refine ⟨(), ?_, ?_⟩
    · rintro ⟨n, hn, hneg⟩
      exact absurd (hnonneg n hn) (not_le.mpr hneg)
    · rintro ⟨n, hn, g, hg, hgt⟩
      exact absurd (hle n hn g hg) (not_le.mpr hgt)

/-- What is entered for a disbursement has a claim total. -/
theorem resolveClaimTotal_isSome_of_given
    (hgiven : claim.validateNonProfitCostHasAtLeastOneTotal = .ok ())
    (hgross : claim.validateNonProfitCostGrossPresentWhenNetEntered = .ok ()) :
    (resolveClaimTotal claim.gross claim.vatZeroTotal).isSome := by
  simp only [validateNonProfitCostHasAtLeastOneTotal,
    validateNonProfitCostGrossPresentWhenNetEntered, refuseWhen_ok] at hgiven hgross
  cases hg : claim.gross with
  | some g =>
      simp only [resolveClaimTotal]
      split_ifs with hzero
      · exact hzero.2
      · rfl
  | none =>
      have hnet : claim.net = none := by
        by_contra hnet
        exact hgross ⟨Option.isSome_iff_ne_none.mpr hnet, hg⟩
      have hvat : claim.vatZeroTotal ≠ none := fun hvat => hgiven ⟨hnet, hg, hvat⟩
      exact Option.isSome_iff_ne_none.mpr hvat

/-- A net within its gross is within the claim total, as long as that is not negative. -/
theorem net_le_total (hconsistent : claim.validateTotalsConsistency = .ok ())
    (hgross : claim.validateNonProfitCostGrossPresentWhenNetEntered = .ok ()) {total : Decimal}
    (htotal : resolveClaimTotal claim.gross claim.vatZeroTotal = some total) (hpos : 0 ≤ total) :
    claim.net.getD 0 ≤ total := by
  have hle := (validateTotalsConsistency_ok.mp hconsistent).2
  simp only [validateNonProfitCostGrossPresentWhenNetEntered, refuseWhen_ok] at hgross
  cases hn : claim.net with
  | none => exact hpos
  | some n =>
      have hgiven : claim.gross ≠ none := fun hg => hgross ⟨by rw [hn]; rfl, hg⟩
      obtain ⟨g, hg⟩ := Option.ne_none_iff_exists'.mp hgiven
      have hng : n ≤ g := hle n hn g hg
      rw [hg] at htotal
      by_cases hzero : g = 0
      · exact (hng.trans hzero.le).trans hpos
      · rw [resolveClaimTotal_of_ne_zero hzero, Option.some.injEq] at htotal
        exact htotal ▸ hng

theorem normalizeNonProfitCostTotals_fixed :
    claim.normalizeNonProfitCostTotals.normalizeNonProfitCostTotals
      = claim.normalizeNonProfitCostTotals := by
  simp only [normalizeNonProfitCostTotals, resolveClaimTotal_normalised, Option.getD_some]

/-- The second check of a normalised disbursement looks at its order only. -/
theorem validateTotalClaimCost_normalised (hbill : ¬ claim.claimType.isFinalBill = true)
    (hkind : claim.claimType = .paymentOnAccount ∧ claim.poaType.isSome
      ∧ claim.poaType ≠ some .profitCost)
    (hconsistent : claim.normalizeNonProfitCostTotals.validateTotalsConsistency = .ok ()) :
    claim.normalizeNonProfitCostTotals.validateTotalClaimCost
      = .ok claim.normalizeNonProfitCostTotals := by
  have hgiven : claim.normalizeNonProfitCostTotals.validateNonProfitCostHasAtLeastOneTotal
      = .ok () := by
    simp [validateNonProfitCostHasAtLeastOneTotal, normalizeNonProfitCostTotals]
  have hgross : claim.normalizeNonProfitCostTotals.validateNonProfitCostGrossPresentWhenNetEntered
      = .ok () := by
    simp [validateNonProfitCostGrossPresentWhenNetEntered, normalizeNonProfitCostTotals]
  have hbill' : ¬ claim.normalizeNonProfitCostTotals.claimType.isFinalBill = true := hbill
  have hkind' : claim.normalizeNonProfitCostTotals.claimType = .paymentOnAccount
      ∧ claim.normalizeNonProfitCostTotals.poaType.isSome
      ∧ claim.normalizeNonProfitCostTotals.poaType ≠ some .profitCost := hkind
  unfold validateTotalClaimCost
  rw [if_neg hbill', if_pos hkind', hconsistent, hgiven, hgross,
    normalizeNonProfitCostTotals_fixed]
  simp [hkind'.2.2, bind, Except.bind, pure, Except.pure]

/-- A checked disbursement is settled unless its total is negative: its net, which is at
least zero, is then above it. -/
theorem totalsSettled_disbursement (hbill : ¬ claim.claimType.isFinalBill = true)
    (hconsistent : claim.validateTotalsConsistency = .ok ())
    (hkind : claim.claimType = .paymentOnAccount ∧ claim.poaType.isSome
      ∧ claim.poaType ≠ some .profitCost)
    (hgiven : claim.validateNonProfitCostHasAtLeastOneTotal = .ok ())
    (hgross : claim.validateNonProfitCostGrossPresentWhenNetEntered = .ok ()) :
    TotalsSettled claim claim.normalizeNonProfitCostTotals
      ↔ ∀ total ∈ resolveClaimTotal claim.gross claim.vatZeroTotal, 0 ≤ total := by
  obtain ⟨total, htotal⟩ :=
    Option.isSome_iff_exists.mp (resolveClaimTotal_isSome_of_given hgiven hgross)
  have hnonneg : 0 ≤ claim.net.getD 0 := by
    cases hn : claim.net with
    | none => exact le_refl _
    | some n => exact (validateTotalsConsistency_ok.mp hconsistent).1 n hn
  have hafter := resolveClaimTotal_normalised claim.gross claim.vatZeroTotal
  rw [htotal, Option.getD_some] at hafter
  have hresolved : resolveClaimTotal claim.normalizeNonProfitCostTotals.gross
      claim.normalizeNonProfitCostTotals.vatZeroTotal = some total := by
    simpa only [normalizeNonProfitCostTotals, htotal, Option.getD_some] using hafter
  constructor
  · intro h total' htotal'
    rw [htotal] at htotal'
    cases htotal'
    have hle := h.ordered (claim.net.getD 0) rfl total
      (by simp only [normalizeNonProfitCostTotals, htotal, Option.getD_some, Option.mem_def])
    exact hnonneg.trans hle
  · intro h
    have hle := net_le_total hconsistent hgross htotal (h total htotal)
    have hordered : ∀ n ∈ claim.normalizeNonProfitCostTotals.net,
        ∀ g ∈ claim.normalizeNonProfitCostTotals.gross, n ≤ g := by
      intro n hn g hg
      simp only [normalizeNonProfitCostTotals, htotal, Option.getD_some, Option.mem_def,
        Option.some.injEq] at hn hg
      exact hn ▸ hg ▸ hle
    refine ⟨by rw [hresolved]; rfl, by rw [hresolved, htotal], hordered, ?_⟩
    refine validateTotalClaimCost_normalised hbill hkind ?_
    refine validateTotalsConsistency_ok.mpr ⟨fun n hn => ?_, hordered⟩
    simp only [normalizeNonProfitCostTotals, Option.mem_def, Option.some.injEq] at hn
    exact hn ▸ hnonneg

/-- A bill is checked and not changed. -/
theorem totalsSettled_bill (hvalid : claim.validateTotalClaimCost = .ok claim)
    (htotals : claim.validateBillTotals = .ok ()) : TotalsSettled claim claim := by
  simp only [validateBillTotals, except_bind_ok, refuseWhen_ok] at htotals
  obtain ⟨_, hnet, _, hvat, _, hgross, -⟩ := htotals
  obtain ⟨g, hg⟩ := Option.ne_none_iff_exists'.mp hgross
  have hvat' : claim.vatZeroTotal = none := by
    by_contra hgiven
    exact hvat (Option.isSome_iff_ne_none.mpr hgiven)
  refine ⟨?_, rfl, ?_, hvalid⟩
  · rw [hg, hvat']
    simp [resolveClaimTotal]
  · intro n hn
    exact absurd (Option.isSome_iff_exists.mpr ⟨n, hn⟩) hnet

/-- A profit cost is zero-rated alone, or has a gross that its net is within. -/
theorem totalsSettled_profitCost (hvalid : claim.validateTotalClaimCost = .ok claim)
    (hconsistent : claim.validateTotalsConsistency = .ok ())
    (hprofit : claim.validateProfitCost = .ok ()) : TotalsSettled claim claim := by
  refine ⟨?_, rfl, (validateTotalsConsistency_ok.mp hconsistent).2, hvalid⟩
  simp only [validateProfitCost, except_bind_ok, refuseWhen_ok] at hprofit
  obtain ⟨_, hmixed, _, -, hmissing⟩ := hprofit
  cases hvat : claim.vatZeroTotal with
  | some z =>
      simp only [hvat, Option.isSome_some, true_and, not_or, Option.not_isSome_iff_eq_none] at hmixed
      rw [hmixed.2]
      rfl
  | none =>
      simp only [hvat, true_and, not_not] at hmissing
      obtain ⟨g, hg⟩ := Option.isSome_iff_exists.mp hmissing.2
      rw [hg]
      simp [resolveClaimTotal]

/-- What is neither a bill nor a disbursement is a profit cost. -/
theorem poaType_profitCost (hinit : claim.postInit = .ok ())
    (hbill : ¬ claim.claimType.isFinalBill = true)
    (hkind : ¬ (claim.claimType = .paymentOnAccount ∧ claim.poaType.isSome
      ∧ claim.poaType ≠ some .profitCost)) : claim.poaType = some .profitCost := by
  have htype : claim.claimType = .paymentOnAccount := by
    cases ht : claim.claimType with
    | paymentOnAccount => rfl
    | finalBill => exact absurd (by rw [ht]; rfl) hbill
    | nilBill => exact absurd (by rw [ht]; rfl) hbill
  by_contra hother
  have hgiven := Option.isSome_iff_ne_none.mpr (poaType_ne_none hinit htype)
  exact hkind ⟨htype, hgiven, hother⟩

/-- A checked claim has a claim total. -/
theorem checked_total_isSome (hinit : claim.postInit = .ok ())
    (hvalid : claim.validateTotalClaimCost = .ok checked) :
    (resolveClaimTotal checked.gross checked.vatZeroTotal).isSome := by
  have hunchanged := hvalid
  cases validateTotalClaimCost_ok hvalid with
  | bill _ htotals => exact (totalsSettled_bill hunchanged htotals).defined
  | disbursement =>
      have hafter := resolveClaimTotal_normalised claim.gross claim.vatZeroTotal
      simp only [normalizeNonProfitCostTotals, hafter, Option.isSome_some]
  | other hbill hconsistent hkind hprofit =>
      have hvalidated := hprofit (poaType_profitCost hinit hbill hkind)
      exact (totalsSettled_profitCost hunchanged hconsistent hvalidated).defined

end DomainClaim

open DomainClaim

/-- The outcome of the check is settled for every bill and every profit cost, and for a
disbursement exactly when its claim total is not negative. -/
theorem totalsSettled_iff {claim checked : DomainClaim} (hinit : claim.postInit = .ok ())
    (hvalid : claim.validateTotalClaimCost = .ok checked) :
    TotalsSettled claim checked
      ↔ (claim.isDisbursement →
        ∀ total ∈ resolveClaimTotal claim.gross claim.vatZeroTotal, 0 ≤ total) := by
  have hpoaOnly : claim.claimType ≠ .paymentOnAccount → ¬ claim.isDisbursement := by
    intro htype hdisbursement
    simp only [postInit, validateClaimTypePoaCombination, except_bind_ok, refuseWhen_ok] at hinit
    obtain ⟨_, ⟨_, -, hforbidden⟩, -⟩ := hinit
    exact hforbidden ⟨htype, hdisbursement.1⟩
  have hunchanged := hvalid
  cases validateTotalClaimCost_ok hvalid with
  | bill hbill htotals =>
      have htype : claim.claimType ≠ .paymentOnAccount := by
        intro htype
        rw [htype] at hbill
        cases hbill
      exact ⟨fun _ h => absurd h (hpoaOnly htype), fun _ => totalsSettled_bill hunchanged htotals⟩
  | disbursement hbill hconsistent hkind hgiven hgross =>
      rw [totalsSettled_disbursement hbill hconsistent hkind hgiven hgross]
      exact ⟨fun h _ => h, fun h => h hkind.2⟩
  | other hbill hconsistent hkind hprofit =>
      have hpoa := poaType_profitCost hinit hbill hkind
      refine ⟨fun _ h => absurd hpoa h.2, fun _ => ?_⟩
      exact totalsSettled_profitCost hunchanged hconsistent (hprofit hpoa)

/-- Beside a net and a gross of 0.00, the 20.00 zero-rated become the total and its gross. -/
theorem totalsSettled_iff_zeroRated :
    let claim := CreateClaim.domainClaim (Sample.poaCommand .expertCost (some 0) (some 0) (some 20))
    TotalsSettled claim claim.normalizeNonProfitCostTotals := by
  refine (totalsSettled_iff (by decide +kernel) (by decide +kernel)).mpr fun _ total htotal => ?_
  have hresolved : resolveClaimTotal (some 0) (some 20) = some total := htotal
  simp only [resolveClaimTotal, Option.isSome_some, and_self, if_true, Option.some.injEq]
    at hresolved
  rw [← hresolved]
  norm_num

/-- A disbursement with a gross of -5.00 alone is accepted as 0.00 net, -5.00 gross and 0.00
zero-rated, which the same check refuses. -/
theorem negative_gross_not_settled :
    let claim := CreateClaim.domainClaim (Sample.poaCommand .expertCost none (some (-5)) none)
    let checked := claim.normalizeNonProfitCostTotals
    claim.postInit = .ok () ∧ claim.validateTotalClaimCost = .ok checked
      ∧ checked.validateTotalClaimCost
        = .error ⟨.netTotalHigherThanGrossTotal, Message.netGtGross⟩
      ∧ ¬ TotalsSettled claim checked := by
  have hrefused : (CreateClaim.domainClaim
      (Sample.poaCommand .expertCost none (some (-5)) none)).normalizeNonProfitCostTotals.validateTotalClaimCost
      = .error ⟨.netTotalHigherThanGrossTotal, Message.netGtGross⟩ := by decide +kernel
  refine ⟨by decide +kernel, by decide +kernel, hrefused, fun h => ?_⟩
  have hfixed := h.fixed
  rw [hrefused] at hfixed
  cases hfixed

end InquestsApi
