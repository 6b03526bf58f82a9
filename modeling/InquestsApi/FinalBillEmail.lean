import InquestsApi.AmountText
import InquestsApi.FinalBillLines

/-! The email about a paid final bill: the amounts it shows the provider, against the lines
that the same decision is paid by. -/
namespace InquestsApi

open PayInFullClaimUseCase

/-- `CLAIM_TYPE_LABELS`. -/
def claimTypeLabel : ClaimType → String
  | .paymentOnAccount => "Payment on account"
  | .finalBill => "Final bill"
  | .nilBill => "Nil bill"

/-- `%B`. -/
def monthName (month : ℕ) : String :=
  ["January", "February", "March", "April", "May", "June", "July", "August", "September",
    "October", "November", "December"].getD (month - 1) ""

/-- As in 18 June 2026 14:03 UTC. -/
def formatDate (t : Datetime) : String :=
  let minutes := t.micros / 60000000
  Nat.repr t.date.day ++ " " ++ monthName t.date.month ++ " " ++ Nat.repr t.date.year ++ " "
    ++ twoDigits (minutes / 60) ++ ":" ++ twoDigits (minutes % 60) ++ " UTC"

structure FinalBillClaimGrantPersonalisation where
  refNumber : String
  providerName : String
  clientFirstName : String
  clientLastName : String
  dateOfClaim : String
  claimType : String
  claimRef : String
  claimedAmount : String
  netProfitCosts : String
  grossProfitCosts : String
  zeroVatProfitCosts : String
  netDisbursementCosts : String
  grossDisbursementCosts : String
  zeroVatDisbursementCosts : String
  deriving DecidableEq, Repr

/-- The amount that the email counts for a kind of costs: the gross where one is given. -/
def grossOrVatZero (gross vatZero : Option Decimal) : Decimal :=
  (gross.orElse fun _ => vatZero).getD 0

def createFinalBillClaimGrantEmailPersonalisation (claim : Claim) (application : Application)
    (firmName : String) (decisionAmounts : PayInFullClaim) : FinalBillClaimGrantPersonalisation :=
  let profitTotal :=
    grossOrVatZero decisionAmounts.profitCostGross decisionAmounts.profitCostVatZero
  let disbursementTotal :=
    grossOrVatZero decisionAmounts.disbursementGross decisionAmounts.disbursementVatZero
  { refNumber := application.laaReference
    providerName := firmName
    clientFirstName := application.client.clientFirstName
    clientLastName := application.client.clientLastName
    dateOfClaim := formatDate claim.submissionDate
    claimType := claimTypeLabel claim.claimTypeId
    claimRef := claim.claimReference
    claimedAmount := formatAmount (decimalAdd profitTotal disbursementTotal)
    netProfitCosts := formatAmount (decisionAmounts.profitCostNet.getD 0)
    grossProfitCosts := formatAmount (decisionAmounts.profitCostGross.getD 0)
    zeroVatProfitCosts := formatAmount (decisionAmounts.profitCostVatZero.getD 0)
    netDisbursementCosts := formatAmount (decisionAmounts.disbursementNet.getD 0)
    grossDisbursementCosts := formatAmount (decisionAmounts.disbursementGross.getD 0)
    zeroVatDisbursementCosts := formatAmount (decisionAmounts.disbursementVatZero.getD 0) }

/-- The email shows what the lines of its decision add up to. -/
def TellsWhatIsPaid (claim : Claim) (application : Application) (firmName : String)
    (p : PayInFullClaim) : Prop :=
  ∃ lines, builtFinalBillLines claim p = some lines
    ∧ (createFinalBillClaimGrantEmailPersonalisation claim application firmName p).claimedAmount
      = formatAmount (linesTotal lines)

/-- The decisions whose email and lines are of one amount: no zero-rated disbursements stand
beside a gross of 0.00, each part can be rounded, and the two totals can be added. -/
structure ToldAsPaid (p : PayInFullClaim) : Prop where
  gross : p.disbursementGross = some 0 → p.disbursementVatZero.getD 0 = 0
  digits : p.profitCostTotal < quantizeBound ∧ p.disbursementVatZero.getD 0 < quantizeBound
    ∧ p.disbursementGross.getD 0 - p.disbursementVatZero.getD 0 < quantizeBound
  sum : decimalAdd p.profitCostTotal
      (grossOrVatZero p.disbursementGross p.disbursementVatZero)
    = p.profitCostTotal + grossOrVatZero p.disbursementGross p.disbursementVatZero

section Nonnegative

variable {p : PayInFullClaim} {claim : Claim} {x y : Decimal}

/-- No amount of a decision is negative. -/
def PayInFullClaim.Nonneg (p : PayInFullClaim) : Prop := ∀ amount ∈ p.amounts, ∀ x ∈ amount, 0 ≤ x

theorem PayInFullClaim.Nonneg.getD (h : p.Nonneg) {amount : Option Decimal}
    (hmem : amount ∈ p.amounts) : 0 ≤ amount.getD 0 := by
  cases hvalue : amount with
  | none => exact le_refl _
  | some x => exact h amount hmem x hvalue

/-- What the rules of a decision leave of a final bill: a net beside every gross, and under it. -/
structure AcceptedBill (p : PayInFullClaim) : Prop where
  profitNet : ∀ n ∈ p.profitCostNet, ∃ g ∈ p.profitCostGross, n ≤ g
  disbursementNet : ∀ n ∈ p.disbursementNet, ∃ g ∈ p.disbursementGross,
    PayInFullClaim.hasNoStandardRatedDisbursement n g (p.disbursementVatZero.getD 0) = true
      ∨ decimalAdd (p.disbursementVatZero.getD 0) n < g
  disbursementGross : p.disbursementGross.isSome → p.disbursementNet.isSome

theorem acceptedBill_of_validate (htype : p.claimTypeId = .finalBill) (hvalid : p.validate = .ok ()) :
    AcceptedBill p := by
  have hnotNil : ¬ p.claimTypeId = .nilBill := by
    rw [htype]
    decide
  have hprofitApplies : p.profitCostNotApplicable = false := by
    simp [PayInFullClaim.profitCostNotApplicable, htype]
  have hdisbursementApplies : p.disbursementNotApplicable = false := by
    simp [PayInFullClaim.disbursementNotApplicable, htype]
  simp only [PayInFullClaim.validate, except_bind_ok] at hvalid
  obtain ⟨⟨⟩, hprofit, hdisbursement⟩ := hvalid
  unfold PayInFullClaim.validateProfitCost at hprofit
  unfold PayInFullClaim.validateDisbursement at hdisbursement
  rw [if_neg hnotNil, hprofitApplies, if_neg Bool.false_ne_true] at hprofit
  rw [if_neg hnotNil, hdisbursementApplies, if_neg Bool.false_ne_true] at hdisbursement
  simp only [except_bind_ok, refuseWhen_ok] at hprofit hdisbursement
  obtain ⟨_, -, _, -, _, hprofitGross, _, -, hprofitLe⟩ := hprofit
  obtain ⟨_, -, _, hgross, _, hnet, hrule⟩ := hdisbursement
  refine ⟨?_, ?_, ?_⟩
  · intro n hn
    obtain ⟨g, hg⟩ : ∃ g, p.profitCostGross = some g := by
      rw [← Option.isSome_iff_exists]
      by_contra hnone
      exact hprofitGross ⟨Option.isSome_iff_exists.mpr ⟨n, hn⟩, hnone⟩
    refine ⟨g, hg, ?_⟩
    by_contra hlt
    exact hprofitLe ⟨n, hn, g, hg, not_le.mp hlt⟩
  · intro n hn
    obtain ⟨g, hg⟩ : ∃ g, p.disbursementGross = some g := by
      rw [← Option.isSome_iff_exists]
      by_contra hnone
      exact hgross ⟨Option.isSome_iff_exists.mpr ⟨n, hn⟩, hnone⟩
    refine ⟨g, hg, ?_⟩
    by_contra hneither
    rw [not_or, not_lt] at hneither
    exact hrule ⟨n, hn, g, hg, hneither.1, hneither.2⟩
  · intro hgiven
    by_contra hnone
    exact hnet ⟨hgiven, hnone⟩

/-- The digits of the context do not take a sum of two-decimal amounts below one of them. -/
theorem le_decimalAdd (hx : WholePence x) (hlow : 0 ≤ x) (hlt : x < quantizeBound) (hy : 0 ≤ y) :
    x ≤ decimalAdd x y := by
  obtain ⟨n, rfl⟩ := hx
  have hdigits : |n| < 10 ^ contextPrecision := by
    rw [quantizeBound, div_lt_iff₀ (by norm_num)] at hlt
    have hnonneg : (0 : ℚ) ≤ n := by
      have hscaled := mul_nonneg hlow (by norm_num : (0 : ℚ) ≤ 100)
      rwa [div_mul_cancel₀ _ (by norm_num)] at hscaled
    have hnonneg' : 0 ≤ n := by exact_mod_cast hnonneg
    rw [abs_of_nonneg hnonneg', contextPrecision]
    norm_num at hlt
    exact_mod_cast hlt
  have hvalue : (n : ℚ) * 10 ^ (-(2 : ℤ)) = n / 100 := by
    rw [zpow_neg]
    ring
  have hle := Rounding.le_toPrecision (α := ℚ) (m := 2) (x := n / 100 + y) (by decide) hdigits
    (by rw [hvalue]; linarith)
  rwa [hvalue] at hle

/-- An accepted gross is 0.00, or the zero-rated amount is within it. -/
theorem vatZero_within_gross (h : BillAmounts p) (hnonneg : p.Nonneg) (haccepted : AcceptedBill p)
    (hlt : p.disbursementVatZero.getD 0 < quantizeBound) :
    p.disbursementGross.getD 0 = 0
      ∨ p.disbursementVatZero.getD 0 ≤ p.disbursementGross.getD 0 := by
  cases hgiven : p.disbursementGross with
  | none => exact .inl rfl
  | some g =>
      have hnetGiven : p.disbursementNet.isSome :=
        haccepted.disbursementGross (by rw [hgiven]; rfl)
      obtain ⟨n, hn⟩ := Option.isSome_iff_exists.mp hnetGiven
      have hnet : 0 ≤ n := hnonneg _ (by simp [PayInFullClaim.amounts]) n hn
      have hvatZero : 0 ≤ p.disbursementVatZero.getD 0 :=
        hnonneg.getD (by simp [PayInFullClaim.amounts])
      obtain ⟨g', hg', hrule⟩ := haccepted.disbursementNet n hn
      have hsame : g = g' := Option.some.inj (hgiven.symm.trans hg')
      rw [← hsame] at hrule
      rcases hrule with hzeroRated | habove
      · simp only [PayInFullClaim.hasNoStandardRatedDisbursement, Bool.and_eq_true,
          Bool.or_eq_true, decide_eq_true_eq] at hzeroRated
        rcases hzeroRated.2 with hzero | hequal
        · exact .inl hzero
        · exact .inr hequal.ge
      · right
        exact (le_decimalAdd h.disbursementVatZero hvatZero hlt hnet).trans habove.le

/-- Where nothing is to be paid, each net is zero as well. -/
theorem nets_zero (hnonneg : p.Nonneg) (haccepted : AcceptedBill p)
    (hprofitGross : p.profitCostGross.getD 0 = 0) (hgross : p.disbursementGross.getD 0 = 0)
    (hvatZero : p.disbursementVatZero.getD 0 = 0) :
    p.profitCostNet.getD 0 = 0 ∧ p.disbursementNet.getD 0 = 0 := by
  constructor
  · cases hn : p.profitCostNet with
    | none => rfl
    | some n =>
        obtain ⟨g, hg, hle⟩ := haccepted.profitNet n hn
        rw [Option.mem_def.mp hg, Option.getD_some] at hprofitGross
        have hpos : 0 ≤ n := hnonneg _ (by simp [PayInFullClaim.amounts]) n hn
        exact le_antisymm (hle.trans hprofitGross.le) hpos
  · cases hn : p.disbursementNet with
    | none => rfl
    | some n =>
        obtain ⟨g, hg, hrule⟩ := haccepted.disbursementNet n hn
        have hpos : 0 ≤ n := hnonneg _ (by simp [PayInFullClaim.amounts]) n hn
        rw [Option.mem_def.mp hg, Option.getD_some] at hgross
        rw [hgross, hvatZero] at hrule
        rcases hrule with hzeroRated | hlt
        · simp only [PayInFullClaim.hasNoStandardRatedDisbursement, Bool.and_eq_true,
            decide_eq_true_eq] at hzeroRated
          exact hzeroRated.1
        · have hle := le_decimalAdd wholePence_zero le_rfl (by norm_num [quantizeBound]) hpos
          exact absurd (hle.trans_lt hlt) (lt_irrefl 0)

/-- A decision of nothing is that of a nil bill. -/
theorem isNilBill_of_decidedTotal (h : BillAmounts p) (hnonneg : p.Nonneg)
    (haccepted : AcceptedBill p) (htotal : p.decidedTotal = 0) : p.isNilBill = true := by
  have hprofitGross : 0 ≤ p.profitCostGross.getD 0 := hnonneg.getD (by simp [PayInFullClaim.amounts])
  have hprofitVatZero : 0 ≤ p.profitCostVatZero.getD 0 :=
    hnonneg.getD (by simp [PayInFullClaim.amounts])
  have hvatZero : 0 ≤ p.disbursementVatZero.getD 0 := hnonneg.getD (by simp [PayInFullClaim.amounts])
  have hgross : 0 ≤ p.disbursementGross.getD 0 := hnonneg.getD (by simp [PayInFullClaim.amounts])
  rw [PayInFullClaim.decidedTotal, disbursementTotal_eq, profitCostTotal_eq h] at htotal
  have hgrossZero : p.disbursementGross.getD 0 = 0 := by
    by_contra hne
    rw [if_neg hne] at htotal
    exact hne (by linarith)
  rw [if_pos hgrossZero] at htotal
  have hprofitGrossZero : p.profitCostGross.getD 0 = 0 := by linarith
  have hprofitVatZeroZero : p.profitCostVatZero.getD 0 = 0 := by linarith
  have hvatZeroZero : p.disbursementVatZero.getD 0 = 0 := by linarith
  obtain ⟨hprofitNet, hnet⟩ :=
    nets_zero hnonneg haccepted hprofitGrossZero hgrossZero hvatZeroZero
  have hzero : ∀ amount ∈ p.amounts, amount.getD 0 = 0 := by
    simp only [PayInFullClaim.amounts, List.forall_mem_cons, List.not_mem_nil, false_implies,
      implies_true, and_true]
    exact ⟨hprofitNet, hprofitGrossZero, hprofitVatZeroZero, hnet, hgrossZero, hvatZeroZero⟩
  refine List.all_eq_true.mpr fun amount hamount => ?_
  have hamountZero := hzero amount hamount
  cases amount with
  | none => rfl
  | some x =>
      rw [Option.getD_some] at hamountZero
      rw [hamountZero]
      rfl

theorem profitCostTotal_wholePence (h : BillAmounts p) : WholePence p.profitCostTotal := by
  rw [profitCostTotal_eq h]
  exact h.profitCostVatZero.add h.profitCostGross

theorem profitCostTotal_nonneg (h : BillAmounts p) (hnonneg : p.Nonneg) : 0 ≤ p.profitCostTotal := by
  have hgross : 0 ≤ p.profitCostGross.getD 0 := hnonneg.getD (by simp [PayInFullClaim.amounts])
  have hvatZero : 0 ≤ p.profitCostVatZero.getD 0 := hnonneg.getD (by simp [PayInFullClaim.amounts])
  rw [profitCostTotal_eq h]
  exact add_nonneg hvatZero hgross

/-- What is accepted without a negative amount is payable if it can be rounded. -/
theorem payable_of_nonneg (h : BillAmounts p) (hnonneg : p.Nonneg) (haccepted : AcceptedBill p)
    (hdigits : p.profitCostTotal < quantizeBound ∧ p.disbursementVatZero.getD 0 < quantizeBound
      ∧ p.disbursementGross.getD 0 - p.disbursementVatZero.getD 0 < quantizeBound) : Payable p := by
  exact ⟨profitCostTotal_nonneg h hnonneg, hnonneg.getD (by simp [PayInFullClaim.amounts]),
    vatZero_within_gross h hnonneg haccepted hdigits.2.1,
    isNilBill_of_decidedTotal h hnonneg haccepted, hdigits⟩

end Nonnegative

section Told

variable {p : PayInFullClaim} {claim : Claim}

/-- Both ways of choosing between a gross and a zero-rated amount agree, but for a gross of
0.00 beside a zero-rated amount. -/
theorem grossOrVatZero_eq {gross vatZero : Option Decimal} (h : gross = some 0 → vatZero.getD 0 = 0) :
    grossOrVatZero gross vatZero = (resolveClaimTotal gross vatZero).getD 0 := by
  cases gross with
  | none => rfl
  | some g =>
      by_cases hzero : g = 0
      · cases vatZero with
        | none => simp [grossOrVatZero, resolveClaimTotal]
        | some z =>
            have hz : z = 0 := h (by rw [hzero])
            simp [grossOrVatZero, resolveClaimTotal, hz, hzero]
      · rw [resolveClaimTotal_of_ne_zero hzero]
        rfl

theorem linesTotal_eq_payments (lines : List PaymentExtractLine) :
    linesTotal lines = ((lines.map (·.payment)).map (·.1)).sum := by
  rw [List.map_map]
  rfl

/-- Two-decimal amounts add up to two decimals, whatever the digits of the context drop. -/
theorem decimalAdd_wholePence {x y : Decimal} (hx : WholePence x) (hy : WholePence y) :
    WholePence (decimalAdd x y) := by
  have hsum := hx.add hy
  by_cases hlt : |x + y| < 10 ^ 26
  · rw [decimalAdd, hsum.toPrecision_eq hlt]
    exact hsum
  · have hlog : 26 ≤ Int.log 10 |x + y| := by
      rw [← Int.zpow_le_iff_le_log (by norm_num) ?_]
      · exact_mod_cast not_lt.mp hlt
      · exact lt_of_lt_of_le (by norm_num) (not_lt.mp hlt)
    obtain ⟨d, hd⟩ := Int.eq_ofNat_of_zero_le (a := Int.log 10 |x + y| - 25) (by omega)
    have hexp : Int.log 10 |x + y| + 1 - (contextPrecision : ℤ) = d + -2 := by
      rw [contextPrecision]
      push_cast
      omega
    refine ⟨Rounding.halfEven ((x + y) / Rounding.quantum contextPrecision (x + y)) * 10 ^ d, ?_⟩
    rw [decimalAdd, Rounding.toPrecision, Rounding.quantum, hexp, zpow_add₀ (by norm_num), zpow_natCast]
    push_cast
    ring

/-- Lines that are built have parts that can be rounded. -/
theorem digits_of_built (h : BillAmounts p) {lines : List PaymentExtractLine}
    (hbuilt : builtFinalBillLines claim p = some lines) :
    p.profitCostTotal < quantizeBound ∧ p.disbursementVatZero.getD 0 < quantizeBound
      ∧ p.disbursementGross.getD 0 - p.disbursementVatZero.getD 0 < quantizeBound := by
  by_cases hnil : p.isNilBill = true
  · exact (paysAsDecided_nil h hnil).2.digits
  · rw [Bool.not_eq_true] at hnil
    exact ((built_iff h hnil).mp hbuilt).2

theorem decidedTotal_wholePence (h : BillAmounts p) : WholePence p.decidedTotal := by
  have hprofit := profitCostTotal_wholePence h
  rw [PayInFullClaim.decidedTotal, disbursementTotal_eq]
  split_ifs
  · exact hprofit.add h.disbursementVatZero
  · exact hprofit.add h.disbursementGross

/-- What is told of the disbursements is one of the two amounts given. -/
theorem grossOrVatZero_cases (gross vatZero : Option Decimal) :
    grossOrVatZero gross vatZero = gross.getD 0 ∨ grossOrVatZero gross vatZero = vatZero.getD 0 := by
  cases gross with
  | none => exact .inr rfl
  | some g => exact .inl rfl

/-- The total that is told of a bill has two decimals and is not negative, and so is shown as
the decided total only if it is that total. -/
theorem claimedAmount_eq_total (h : BillAmounts p) (hnonneg : p.Nonneg)
    (htext : formatAmount (decimalAdd p.profitCostTotal
        (grossOrVatZero p.disbursementGross p.disbursementVatZero)) = formatAmount p.decidedTotal) :
    decimalAdd p.profitCostTotal (grossOrVatZero p.disbursementGross p.disbursementVatZero)
      = p.decidedTotal := by
  have hgross : 0 ≤ p.disbursementGross.getD 0 := hnonneg.getD (by simp [PayInFullClaim.amounts])
  have hvatZero : 0 ≤ p.disbursementVatZero.getD 0 := hnonneg.getD (by simp [PayInFullClaim.amounts])
  have hprofit := profitCostTotal_nonneg h hnonneg
  have htold : WholePence (grossOrVatZero p.disbursementGross p.disbursementVatZero)
      ∧ 0 ≤ grossOrVatZero p.disbursementGross p.disbursementVatZero := by
    rcases grossOrVatZero_cases p.disbursementGross p.disbursementVatZero with heq | heq
    · rw [heq]
      exact ⟨h.disbursementGross, hgross⟩
    · rw [heq]
      exact ⟨h.disbursementVatZero, hvatZero⟩
  have hsum : WholePence (decimalAdd p.profitCostTotal
      (grossOrVatZero p.disbursementGross p.disbursementVatZero)) :=
    decimalAdd_wholePence (profitCostTotal_wholePence h) htold.1
  have hpos : 0 ≤ decimalAdd p.profitCostTotal
      (grossOrVatZero p.disbursementGross p.disbursementVatZero) := by
    have hle := Rounding.toPrecision_nonpos (p := contextPrecision) (by decide)
      (neg_nonpos.mpr (add_nonneg hprofit htold.2))
    rw [Rounding.toPrecision_neg] at hle
    exact neg_nonpos.mp hle
  have htotal : 0 ≤ p.decidedTotal := by
    rw [PayInFullClaim.decidedTotal, disbursementTotal_eq]
    split_ifs
    · exact add_nonneg hprofit hvatZero
    · exact add_nonneg hprofit hgross
  have hround := (formatAmount_inj hpos htotal).mp htext
  rwa [hsum.bankersRound_eq, (decidedTotal_wholePence h).bankersRound_eq] at hround

end Told

/-- For an accepted final bill of two-decimal amounts, none negative, the email shows what the
lines of the decision add up to exactly when no zero-rated disbursements stand beside a gross
of 0.00 and the amounts are within the digits they are added in. -/
theorem tellsWhatIsPaid_iff (claim : Claim) (application : Application) (firmName : String)
    (p : PayInFullClaim) (htype : p.claimTypeId = .finalBill) (hdecimals : p.TwoDecimals)
    (hnonneg : p.Nonneg) (hvalid : p.validate = .ok ()) :
    TellsWhatIsPaid claim application firmName p ↔ ToldAsPaid p := by
  have hbill : p.claimTypeId ≠ .paymentOnAccount := by
    rw [htype]
    decide
  have h := billAmounts_of_validate hbill hdecimals hvalid
  have haccepted := acceptedBill_of_validate htype hvalid
  have hpaid : p.profitCostTotal < quantizeBound ∧ p.disbursementVatZero.getD 0 < quantizeBound
      ∧ p.disbursementGross.getD 0 - p.disbursementVatZero.getD 0 < quantizeBound →
      ∃ lines, builtFinalBillLines claim p = some lines ∧ linesTotal lines = p.decidedTotal := by
    intro hdigits
    obtain ⟨lines, hbuilt, hpays⟩ := (h.paidAsDecided_iff claim).mpr
      (payable_of_nonneg h hnonneg haccepted hdigits)
    exact ⟨lines, hbuilt, (linesTotal_eq_payments lines).trans hpays.total⟩
  have htotal : p.decidedTotal
      = p.profitCostTotal + (resolveClaimTotal p.disbursementGross p.disbursementVatZero).getD 0 := rfl
  constructor
  · rintro ⟨lines, hbuilt, htext⟩
    have hdigits := digits_of_built h hbuilt
    obtain ⟨lines', hbuilt', hlines⟩ := hpaid hdigits
    rw [Option.some.inj (hbuilt.symm.trans hbuilt'), hlines] at htext
    have hsum := claimedAmount_eq_total h hnonneg htext
    have hgross : p.disbursementGross = some 0 → p.disbursementVatZero.getD 0 = 0 := by
      intro hzero
      have hlt : |p.profitCostTotal| < 10 ^ 26 := by
        rw [abs_of_nonneg (profitCostTotal_nonneg h hnonneg)]
        exact hdigits.1
      have hprofit : decimalAdd p.profitCostTotal 0 = p.profitCostTotal := by
        rw [decimalAdd, add_zero, (profitCostTotal_wholePence h).toPrecision_eq hlt]
      rw [htotal, disbursementTotal_eq, hzero] at hsum
      simp only [grossOrVatZero, Option.orElse_some, Option.getD_some, if_true, hprofit] at hsum
      linarith
    refine ⟨hgross, hdigits, ?_⟩
    rw [hsum, htotal, grossOrVatZero_eq hgross]
  · intro htold
    obtain ⟨lines, hbuilt, hlines⟩ := hpaid htold.digits
    refine ⟨lines, hbuilt, ?_⟩
    rw [hlines, htotal, ← grossOrVatZero_eq htold.gross, ← htold.sum]
    rfl

namespace Sample

/-- Profit costs of 120.00, and 50.00 of zero-rated disbursements beside a net and a gross of
0.00. -/
def zeroRatedBill : PayInFullClaim :=
  { paidBill with
    disbursementNet := some 0
    disbursementGross := some 0
    disbursementVatZero := some 50 }

theorem zeroRatedBill_twoDecimals : zeroRatedBill.TwoDecimals := by
  simp only [PayInFullClaim.TwoDecimals, PayInFullClaim.amounts, zeroRatedBill, paidBill,
    List.forall_mem_cons, List.not_mem_nil, false_implies, implies_true, Option.mem_def,
    Option.some.injEq, forall_eq', reduceCtorEq, and_true, true_and]
  exact ⟨⟨10000, by norm_num⟩, ⟨12000, by norm_num⟩, wholePence_zero, wholePence_zero,
    ⟨5000, by norm_num⟩⟩

end Sample

open Sample in
theorem paidBill_told : TellsWhatIsPaid submittedBill application "Firm" paidBill := by
  have hnonneg : paidBill.Nonneg := by
    unfold PayInFullClaim.Nonneg
    decide +kernel
  refine (tellsWhatIsPaid_iff submittedBill application "Firm" paidBill rfl paidBill_twoDecimals
    hnonneg (by decide +kernel)).mpr ?_
  constructor
  all_goals
    try unfold quantizeBound
    decide +kernel

open Sample in
/-- The provider is told of 120.00 and paid 170.00. -/
theorem zeroRatedBill_told_less :
    zeroRatedBill.validate = .ok () ∧ zeroRatedBill.TwoDecimals ∧ zeroRatedBill.Nonneg
      ∧ (createFinalBillClaimGrantEmailPersonalisation submittedBill application "Firm"
          zeroRatedBill).claimedAmount = "120.00"
      ∧ (builtFinalBillLines submittedBill zeroRatedBill).map linesTotal = some 170
      ∧ ¬ TellsWhatIsPaid submittedBill application "Firm" zeroRatedBill := by
  have htold : (createFinalBillClaimGrantEmailPersonalisation submittedBill application "Firm"
      zeroRatedBill).claimedAmount = "120.00" := by decide +kernel
  have hpaid : (builtFinalBillLines submittedBill zeroRatedBill).map linesTotal = some 170 := by
    decide +kernel
  have hnonneg : zeroRatedBill.Nonneg := by
    unfold PayInFullClaim.Nonneg
    decide +kernel
  refine ⟨by decide +kernel, zeroRatedBill_twoDecimals, hnonneg, htold, hpaid, ?_⟩
  rintro ⟨lines, hbuilt, htext⟩
  rw [hbuilt] at hpaid
  have htotal : linesTotal lines = 170 := Option.some.inj hpaid
  rw [htold, htotal] at htext
  have hdiffers : "120.00" ≠ formatAmount 170 := by decide +kernel
  exact hdiffers htext

end InquestsApi
