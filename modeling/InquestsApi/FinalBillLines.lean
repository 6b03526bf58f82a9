import InquestsApi.DecideClaim
import InquestsApi.PaymentLines

/-! The lines of a final or nil bill against the amounts that were decided: when the bill is
paid, in full, and under the tax codes of its parts. -/
namespace InquestsApi

open PayInFullClaimUseCase

namespace PayInFullClaim

variable (p : PayInFullClaim)

/-- The profit costs: gross, or zero-rated when only that is given. -/
def profitCostTotal : Decimal := (p.profitCostGross.orElse fun _ => p.profitCostVatZero).getD 0

/-- What was decided to be paid. -/
def decidedTotal : Decimal :=
  p.profitCostTotal + (resolveClaimTotal p.disbursementGross p.disbursementVatZero).getD 0

/-- What of it is zero-rated. -/
def zeroRatedTotal : Decimal := p.profitCostVatZero.getD 0 + p.disbursementVatZero.getD 0

/-- Every amount of a decision has two decimals. -/
def TwoDecimals : Prop := ∀ amount ∈ p.amounts, ∀ x ∈ amount, WholePence x

end PayInFullClaim

/-- The lines of a bill, or `none` where rounding one of their amounts raises. -/
def builtFinalBillLines (claim : Claim) (p : PayInFullClaim) : Option (List PaymentExtractLine) :=
  let lines := finalOrNilBillPaymentExtractLines claim p
  if lines.all fun line => |line.invoiceAmount| < quantizeBound then some lines else none

def PaymentExtractLine.payment (line : PaymentExtractLine) : Decimal × TaxCode :=
  (line.invoiceAmount, line.taxCode)

/-- What some payments put under one tax code. -/
def paidUnder (code : TaxCode) (payments : List (Decimal × TaxCode)) : Decimal :=
  ((payments.filter (·.2 = code)).map (·.1)).sum

/-- Payments of a decision in full: what is zero-rated under one code and the rest under the
other, and a single payment of 0.00 when there is nothing to pay. -/
structure PaysAsDecided (p : PayInFullClaim) (payments : List (Decimal × TaxCode)) : Prop where
  nonempty : payments ≠ []
  nonneg : ∀ payment ∈ payments, 0 ≤ payment.1
  total : (payments.map (·.1)).sum = p.decidedTotal
  zeroRated : paidUnder .zeroVat payments = p.zeroRatedTotal
  standardRated : paidUnder .gbVat20 payments = p.decidedTotal - p.zeroRatedTotal
  nil : (∃ code, payments = [(0, code)]) ↔ p.decidedTotal = 0

/-- The lines of a decision are built, and pay it. -/
def PaidAsDecided (claim : Claim) (p : PayInFullClaim) : Prop :=
  ∃ lines, builtFinalBillLines claim p = some lines ∧ PaysAsDecided p (lines.map (·.payment))

/-- The decisions that their lines pay: no part is negative, the zero-rated disbursements are
within the gross, a total of zero is that of a nil bill, and each part can be rounded. -/
structure Payable (p : PayInFullClaim) : Prop where
  profitCost : 0 ≤ p.profitCostTotal
  zeroRated : 0 ≤ p.disbursementVatZero.getD 0
  within : p.disbursementGross.getD 0 = 0
    ∨ p.disbursementVatZero.getD 0 ≤ p.disbursementGross.getD 0
  nothing : p.decidedTotal = 0 → p.isNilBill = true
  digits : p.profitCostTotal < quantizeBound ∧ p.disbursementVatZero.getD 0 < quantizeBound
    ∧ p.disbursementGross.getD 0 - p.disbursementVatZero.getD 0 < quantizeBound

/-- A payment is made of a positive amount only. -/
def positivePayment (amount : Decimal) (code : TaxCode) : List (Decimal × TaxCode) :=
  if 0 < amount then [(amount, code)] else []

section Payments

variable {amount : Decimal} {code : TaxCode}

@[simp] theorem paidUnder_append (code : TaxCode) (payments rest : List (Decimal × TaxCode)) :
    paidUnder code (payments ++ rest) = paidUnder code payments + paidUnder code rest := by
  simp only [paidUnder, List.filter_append, List.map_append, List.sum_append]

theorem positivePayment_of_nonpos (h : amount ≤ 0) : positivePayment amount code = [] :=
  if_neg (not_lt.mpr h)

theorem sum_positivePayment :
    ((positivePayment amount code).map (·.1)).sum = max amount 0 := by
  by_cases h : 0 < amount
  · rw [positivePayment, if_pos h, max_eq_left h.le]
    simp
  · rw [positivePayment, if_neg h, max_eq_right (not_lt.mp h)]
    simp

theorem paidUnder_positivePayment (code' : TaxCode) :
    paidUnder code' (positivePayment amount code) = if code = code' then max amount 0 else 0 := by
  by_cases hcode : code = code'
  · have hkept : (positivePayment amount code).filter (·.2 = code') = positivePayment amount code := by
      rw [List.filter_eq_self]
      intro payment hpayment
      unfold positivePayment at hpayment
      split at hpayment
      · rw [List.mem_singleton.mp hpayment]
        exact decide_eq_true hcode
      · cases hpayment
    rw [paidUnder, hkept, if_pos hcode, sum_positivePayment]
  · have hnone : (positivePayment amount code).filter (·.2 = code') = [] := by
      rw [List.filter_eq_nil_iff]
      intro payment hpayment
      unfold positivePayment at hpayment
      split at hpayment
      · rw [List.mem_singleton.mp hpayment]
        exact fun h => hcode (of_decide_eq_true h)
      · cases hpayment
    rw [paidUnder, hnone, if_neg hcode]
    rfl

theorem pos_of_mem_positivePayment {payment : Decimal × TaxCode}
    (h : payment ∈ positivePayment amount code) : 0 < payment.1 := by
  unfold positivePayment at h
  split at h
  · rename_i hpos
    rw [List.mem_singleton.mp h]
    exact hpos
  · cases h

end Payments

section Lines

variable {p : PayInFullClaim} {claim : Claim}

/-- What a decision other than a nil bill is paid by, part for part. -/
def decidedPayments (p : PayInFullClaim) : List (Decimal × TaxCode) :=
  (positivePayment (p.profitCostVatZero.getD 0) .zeroVat
      ++ positivePayment (p.profitCostGross.getD 0) .gbVat20)
    ++ (positivePayment (p.disbursementGross.getD 0 - p.disbursementVatZero.getD 0) .gbVat20
      ++ positivePayment (p.disbursementVatZero.getD 0) .zeroVat)

theorem map_payment_numberedLines (claimReference : String) (date : Date)
    (invoiceType : InvoiceTypeCode) (sequence : ℕ) (amounts : List (Decimal × TaxCode)) :
    (numberedLines claimReference date invoiceType sequence amounts).map (·.payment) = amounts := by
  induction amounts generalizing sequence with
  | nil => rfl
  | cons amount rest ih =>
      obtain ⟨value, code⟩ := amount
      rw [numberedLines, List.map_cons, ih]
      rfl

/-- The two-decimal amounts of a decision that is accepted for a bill: of its profit costs, the
gross or the zero-rated amount at most. -/
structure BillAmounts (p : PayInFullClaim) : Prop where
  oneProfitCost : p.profitCostGross = none ∨ p.profitCostVatZero = none
  profitCostGross : WholePence (p.profitCostGross.getD 0)
  profitCostVatZero : WholePence (p.profitCostVatZero.getD 0)
  disbursementGross : WholePence (p.disbursementGross.getD 0)
  disbursementVatZero : WholePence (p.disbursementVatZero.getD 0)

theorem PayInFullClaim.TwoDecimals.getD (h : p.TwoDecimals) {amount : Option Decimal}
    (hmem : amount ∈ p.amounts) : WholePence (amount.getD 0) := by
  cases hvalue : amount with
  | none => exact wholePence_zero
  | some x => exact h amount hmem x hvalue

theorem billAmounts_of_validate (htype : p.claimTypeId ≠ .paymentOnAccount) (h : p.TwoDecimals)
    (hvalid : p.validate = .ok ()) : BillAmounts p := by
  refine ⟨?_, h.getD (by simp [PayInFullClaim.amounts]), h.getD (by simp [PayInFullClaim.amounts]),
    h.getD (by simp [PayInFullClaim.amounts]), h.getD (by simp [PayInFullClaim.amounts])⟩
  simp only [PayInFullClaim.validate, except_bind_ok] at hvalid
  obtain ⟨⟨⟩, hprofit, -⟩ := hvalid
  unfold PayInFullClaim.validateProfitCost at hprofit
  split at hprofit
  · rw [refuseWhen_ok] at hprofit
    left
    by_contra hgiven
    exact hprofit (by simp [PayInFullClaim.hasProfitCost, Option.isSome_iff_ne_none.mpr hgiven])
  · have happlicable : p.profitCostNotApplicable = false := by
      simp [PayInFullClaim.profitCostNotApplicable, htype]
    rw [happlicable, if_neg Bool.false_ne_true] at hprofit
    simp only [except_bind_ok, refuseWhen_ok] at hprofit
    obtain ⟨_, -, _, hmixed, -⟩ := hprofit
    by_contra hboth
    rw [not_or] at hboth
    exact hmixed ⟨Option.isSome_iff_ne_none.mpr hboth.2, .inr (Option.isSome_iff_ne_none.mpr hboth.1)⟩

theorem filter_pos_eq_some {x : Option Decimal} (h : 0 < x.getD 0) : x.filter (0 < ·) = some (x.getD 0) := by
  cases x with
  | none => exact absurd h (lt_irrefl _)
  | some v => exact if_pos (decide_eq_true h)

theorem filter_pos_eq_none {x : Option Decimal} (h : ¬ 0 < x.getD 0) : x.filter (0 < ·) = none := by
  cases x with
  | none => rfl
  | some v => exact if_neg fun hpos => h (of_decide_eq_true hpos)

theorem map_payment_fees (h : BillAmounts p) (claimReference : String) (sequence : ℕ) (date : Date) :
    (buildFinalBillFeesExtract claimReference sequence date p.profitCostGross
        p.profitCostVatZero).toList.map (·.payment)
      = positivePayment (p.profitCostVatZero.getD 0) .zeroVat
        ++ positivePayment (p.profitCostGross.getD 0) .gbVat20 := by
  unfold buildFinalBillFeesExtract
  by_cases hvatZero : 0 < p.profitCostVatZero.getD 0
  · have hgross : p.profitCostGross = none := by
      rcases h.oneProfitCost with hnone | hnone
      · exact hnone
      · rw [hnone] at hvatZero
        exact absurd hvatZero (lt_irrefl _)
    rw [filter_pos_eq_some hvatZero, hgross, positivePayment, if_pos hvatZero, Option.getD_none,
      positivePayment_of_nonpos le_rfl]
    simp [PaymentExtractLine.payment, h.profitCostVatZero.bankersRound_eq]
  · rw [filter_pos_eq_none hvatZero, positivePayment_of_nonpos (not_lt.mp hvatZero)]
    by_cases hgross : 0 < p.profitCostGross.getD 0
    · rw [filter_pos_eq_some hgross, positivePayment, if_pos hgross]
      simp [PaymentExtractLine.payment, h.profitCostGross.bankersRound_eq]
    · rw [filter_pos_eq_none hgross, positivePayment_of_nonpos (not_lt.mp hgross)]
      rfl

/-- The standard-rated part of a gross, as the builder of its lines pays it. -/
def standardPayments (p : PayInFullClaim) : List (Decimal × TaxCode) :=
  let standard := vat20PercentAmount p.disbursementGross p.disbursementVatZero
  if 0 < standard then [(bankersRound standard, TaxCode.gbVat20)] else []

theorem disbursementAmounts_eq (h : BillAmounts p) :
    disbursementAmounts p.disbursementGross p.disbursementVatZero
      = standardPayments p ++ positivePayment (p.disbursementVatZero.getD 0) .zeroVat := by
  unfold disbursementAmounts
  by_cases hvatZero : 0 < p.disbursementVatZero.getD 0
  · rw [filter_pos_eq_some hvatZero, positivePayment, if_pos hvatZero]
    simp [standardPayments, h.disbursementVatZero.bankersRound_eq]
  · rw [filter_pos_eq_none hvatZero, positivePayment_of_nonpos (not_lt.mp hvatZero)]
    rfl

theorem map_payment_lines (h : BillAmounts p) (hnil : p.isNilBill = false) :
    (finalOrNilBillPaymentExtractLines claim p).map (·.payment)
      = (positivePayment (p.profitCostVatZero.getD 0) .zeroVat
          ++ positivePayment (p.profitCostGross.getD 0) .gbVat20)
        ++ (standardPayments p ++ positivePayment (p.disbursementVatZero.getD 0) .zeroVat) := by
  unfold finalOrNilBillPaymentExtractLines
  rw [hnil, if_neg Bool.false_ne_true]
  simp only [List.map_append, buildFinalBillDisbursementExtract, map_payment_fees h,
    map_payment_numberedLines, disbursementAmounts_eq h]

/-- A difference that two decimals of the context can hold is paid as it is. -/
theorem standardPayments_of_lt (h : BillAmounts p)
    (hlt : p.disbursementGross.getD 0 - p.disbursementVatZero.getD 0 < quantizeBound) :
    standardPayments p
      = positivePayment (p.disbursementGross.getD 0 - p.disbursementVatZero.getD 0) .gbVat20 := by
  have hpence := h.disbursementGross.sub h.disbursementVatZero
  have hsub : vat20PercentAmount p.disbursementGross p.disbursementVatZero
      = Rounding.toPrecision contextPrecision
        (p.disbursementGross.getD 0 - p.disbursementVatZero.getD 0) := rfl
  by_cases hpos : 0 < p.disbursementGross.getD 0 - p.disbursementVatZero.getD 0
  · have habs : |p.disbursementGross.getD 0 - p.disbursementVatZero.getD 0| < 10 ^ 26 := by
      rw [abs_of_pos hpos]
      exact hlt
    rw [hpence.toPrecision_eq habs] at hsub
    rw [standardPayments, hsub, if_pos hpos, positivePayment, if_pos hpos, hpence.bankersRound_eq]
  · have hle := Rounding.toPrecision_nonpos (p := contextPrecision) (by decide) (not_lt.mp hpos)
    rw [← hsub] at hle
    rw [standardPayments, if_neg (not_lt.mpr hle), positivePayment_of_nonpos (not_lt.mp hpos)]

/-- Any other positive difference cannot be rounded. -/
theorem standardPayments_of_ge
    (hge : quantizeBound ≤ p.disbursementGross.getD 0 - p.disbursementVatZero.getD 0) :
    ∃ amount, standardPayments p = [(amount, .gbVat20)] ∧ quantizeBound ≤ amount := by
  have hdigits : |(10 ^ 26 : ℤ)| < 10 ^ contextPrecision := by decide
  have hdifference : ((10 ^ 26 : ℤ) : ℚ) * 10 ^ (-(0 : ℤ))
      ≤ p.disbursementGross.getD 0 - p.disbursementVatZero.getD 0 := by
    rw [quantizeBound] at hge
    push_cast
    linarith
  have hkept := Rounding.le_toPrecision (by decide) hdigits hdifference
  have hsub : vat20PercentAmount p.disbursementGross p.disbursementVatZero
      = Rounding.toPrecision contextPrecision
        (p.disbursementGross.getD 0 - p.disbursementVatZero.getD 0) := rfl
  rw [← hsub] at hkept
  push_cast at hkept
  have hpos : 0 < vat20PercentAmount p.disbursementGross p.disbursementVatZero := by linarith
  refine ⟨_, if_pos hpos, ?_⟩
  have hround : (10 ^ 28 : ℤ) ≤ Rounding.halfEven
      (100 * vat20PercentAmount p.disbursementGross p.disbursementVatZero) := by
    refine Rounding.halfEven_isNearest.le_of_intCast_le ?_
    push_cast
    linarith
  have hcast : (10 ^ 28 : ℚ) ≤ (Rounding.halfEven
      (100 * vat20PercentAmount p.disbursementGross p.disbursementVatZero) : ℚ) := by
    exact_mod_cast hround
  rw [bankersRound, le_div_iff₀ (by norm_num), quantizeBound]
  linarith

theorem profitCostTotal_eq (h : BillAmounts p) :
    p.profitCostTotal = p.profitCostVatZero.getD 0 + p.profitCostGross.getD 0 := by
  unfold PayInFullClaim.profitCostTotal
  rcases h.oneProfitCost with hnone | hnone
  · rw [hnone]
    simp
  · rw [hnone]
    cases p.profitCostGross <;> simp

theorem positivePayment_roundable {amount : Decimal} {code : TaxCode} :
    (∀ payment ∈ positivePayment amount code, |payment.1| < quantizeBound)
      ↔ amount < quantizeBound := by
  have hbound : (0 : ℚ) < quantizeBound := by norm_num [quantizeBound]
  by_cases hpos : 0 < amount
  · rw [positivePayment, if_pos hpos, List.forall_mem_singleton, abs_of_pos hpos]
  · rw [positivePayment_of_nonpos (not_lt.mp hpos)]
    exact iff_of_true (fun _ hmem => nomatch hmem) ((not_lt.mp hpos).trans_lt hbound)

theorem standardPayments_roundable (h : BillAmounts p) :
    (∀ payment ∈ standardPayments p, |payment.1| < quantizeBound)
      ↔ p.disbursementGross.getD 0 - p.disbursementVatZero.getD 0 < quantizeBound := by
  by_cases hlt : p.disbursementGross.getD 0 - p.disbursementVatZero.getD 0 < quantizeBound
  · rw [standardPayments_of_lt h hlt]
    exact positivePayment_roundable
  · obtain ⟨amount, hpayments, hge⟩ := standardPayments_of_ge (not_lt.mp hlt)
    rw [hpayments, List.forall_mem_singleton]
    refine iff_of_false (not_lt.mpr ?_) hlt
    exact hge.trans (le_abs_self amount)

/-- The lines are built when each part can be rounded, and are then the decided payments. -/
theorem built_iff (h : BillAmounts p) (hnil : p.isNilBill = false)
    {lines : List PaymentExtractLine} :
    builtFinalBillLines claim p = some lines
      ↔ lines = finalOrNilBillPaymentExtractLines claim p
        ∧ p.profitCostTotal < quantizeBound ∧ p.disbursementVatZero.getD 0 < quantizeBound
        ∧ p.disbursementGross.getD 0 - p.disbursementVatZero.getD 0 < quantizeBound := by
  have hbound : (0 : ℚ) < quantizeBound := by norm_num [quantizeBound]
  have hround : ((finalOrNilBillPaymentExtractLines claim p).all
        fun line => |line.invoiceAmount| < quantizeBound) = true
      ↔ ∀ payment ∈ (finalOrNilBillPaymentExtractLines claim p).map (·.payment),
        |payment.1| < quantizeBound := by
    simp [PaymentExtractLine.payment]
  have hprofit : p.profitCostVatZero.getD 0 < quantizeBound ∧ p.profitCostGross.getD 0 < quantizeBound
      ↔ p.profitCostTotal < quantizeBound := by
    rw [profitCostTotal_eq h]
    rcases h.oneProfitCost with hnone | hnone
    · simp [hnone, hbound]
    · simp [hnone, hbound]
  rw [map_payment_lines h hnil] at hround
  simp only [List.forall_mem_append, positivePayment_roundable, standardPayments_roundable h,
    hprofit] at hround
  unfold builtFinalBillLines
  dsimp only
  by_cases hall : ((finalOrNilBillPaymentExtractLines claim p).all
      fun line => |line.invoiceAmount| < quantizeBound) = true
  · rw [if_pos hall, Option.some.injEq, eq_comm]
    obtain ⟨hprofitCost, hstandard, hvatZero⟩ := hround.mp hall
    exact ⟨fun heq => ⟨heq, hprofitCost, hvatZero, hstandard⟩, fun heq => heq.1⟩
  · rw [if_neg hall]
    refine iff_of_false (fun heq => nomatch heq) ?_
    rintro ⟨-, hprofitCost, hvatZero, hstandard⟩
    exact hall (hround.mpr ⟨hprofitCost, hstandard, hvatZero⟩)

theorem map_payment_built (h : BillAmounts p) (hnil : p.isNilBill = false)
    (hlt : p.disbursementGross.getD 0 - p.disbursementVatZero.getD 0 < quantizeBound) :
    (finalOrNilBillPaymentExtractLines claim p).map (·.payment) = decidedPayments p := by
  rw [map_payment_lines h hnil, standardPayments_of_lt h hlt, decidedPayments]

end Lines

section Decided

variable {p : PayInFullClaim}

/-- The claim total of the disbursements is their gross, and their zero-rated part where the
gross is zero or absent. -/
theorem disbursementTotal_eq :
    (resolveClaimTotal p.disbursementGross p.disbursementVatZero).getD 0
      = if p.disbursementGross.getD 0 = 0 then p.disbursementVatZero.getD 0
        else p.disbursementGross.getD 0 := by
  cases hgross : p.disbursementGross with
  | none => simp [resolveClaimTotal]
  | some g =>
      cases hvat : p.disbursementVatZero with
      | none =>
          by_cases hzero : g = 0 <;> simp [resolveClaimTotal, hzero]
      | some z =>
          by_cases hzero : g = 0 <;> simp [resolveClaimTotal, hzero]

theorem sum_decidedPayments :
    ((decidedPayments p).map (·.1)).sum
      = (max (p.profitCostVatZero.getD 0) 0 + max (p.profitCostGross.getD 0) 0)
        + (max (p.disbursementGross.getD 0 - p.disbursementVatZero.getD 0) 0
          + max (p.disbursementVatZero.getD 0) 0) := by
  simp only [decidedPayments, List.map_append, List.sum_append, sum_positivePayment]

theorem zeroVat_decidedPayments :
    paidUnder .zeroVat (decidedPayments p)
      = max (p.profitCostVatZero.getD 0) 0 + max (p.disbursementVatZero.getD 0) 0 := by
  simp [decidedPayments, paidUnder_positivePayment]

theorem gbVat20_decidedPayments :
    paidUnder .gbVat20 (decidedPayments p)
      = max (p.profitCostGross.getD 0) 0
        + max (p.disbursementGross.getD 0 - p.disbursementVatZero.getD 0) 0 := by
  simp [decidedPayments, paidUnder_positivePayment]

theorem pos_of_mem_decidedPayments {payment : Decimal × TaxCode}
    (h : payment ∈ decidedPayments p) : 0 < payment.1 := by
  simp only [decidedPayments, List.mem_append] at h
  rcases h with (h | h) | (h | h) <;> exact pos_of_mem_positivePayment h

theorem decidedPayments_ne_zero (code : TaxCode) : decidedPayments p ≠ [(0, code)] := by
  intro h
  have hmem : (0, code) ∈ decidedPayments p := by
    rw [h]
    exact List.mem_singleton_self _
  exact absurd (pos_of_mem_decidedPayments hmem) (lt_irrefl _)

/-- What a gross holds beyond its zero-rated part, and that part, are never paid below the
disbursements' total, and are paid exactly when the part is within the gross. -/
theorem disbursements_paid (gross vatZero : ℚ) :
    (if gross = 0 then vatZero else gross) ≤ max (gross - vatZero) 0 + max vatZero 0
      ∧ (max (gross - vatZero) 0 + max vatZero 0 = (if gross = 0 then vatZero else gross)
        ↔ 0 ≤ vatZero ∧ (gross = 0 ∨ vatZero ≤ gross)) := by
  rcases le_total 0 vatZero with hvat | hvat
  · rw [max_eq_left hvat]
    rcases le_total vatZero gross with hle | hle
    · rw [max_eq_left (sub_nonneg.mpr hle)]
      by_cases hzero : gross = 0
      · have hvat' : vatZero = 0 := by linarith
        simp [hzero, hvat']
      · rw [if_neg hzero]
        refine ⟨by linarith, iff_of_true (by ring) ⟨hvat, .inr hle⟩⟩
    · rw [max_eq_right (sub_nonpos.mpr hle)]
      by_cases hzero : gross = 0
      · simp [hzero, hvat]
      · rw [if_neg hzero, zero_add]
        refine ⟨hle, fun h => ⟨hvat, .inr h.le⟩, ?_⟩
        rintro ⟨-, h | h⟩
        · exact absurd h hzero
        · exact le_antisymm h hle
  · rw [max_eq_right hvat]
    by_cases hzero : gross = 0
    · rw [if_pos hzero, hzero, zero_sub, max_eq_left (neg_nonneg.mpr hvat)]
      refine ⟨by linarith, fun h => ⟨by linarith, .inl rfl⟩, fun h => by linarith [h.1]⟩
    · rw [if_neg hzero]
      have hstandard := le_max_left (gross - vatZero) 0
      refine ⟨by linarith, ?_, ?_⟩
      · intro h
        have hvat' : vatZero = 0 := by linarith
        rcases le_total 0 gross with hpos | hneg
        · exact ⟨hvat'.ge, .inr (hvat'.le.trans hpos)⟩
        · rw [hvat', sub_zero, max_eq_right hneg] at h
          exact absurd (by linarith) hzero
      · rintro ⟨hpos, h⟩
        have hvat' : vatZero = 0 := le_antisymm hvat hpos
        have hgross : 0 ≤ gross := by
          rcases h with h | h
          · exact absurd h hzero
          · exact hvat' ▸ h
        rw [hvat', sub_zero, max_eq_left hgross, add_zero]

/-- Profit costs are one part: they are paid in full when they are not negative. -/
theorem profitCosts_paid (h : BillAmounts p) :
    p.profitCostTotal ≤ max (p.profitCostVatZero.getD 0) 0 + max (p.profitCostGross.getD 0) 0
      ∧ (0 ≤ p.profitCostTotal → max (p.profitCostVatZero.getD 0) 0 = p.profitCostVatZero.getD 0
        ∧ max (p.profitCostGross.getD 0) 0 = p.profitCostGross.getD 0) := by
  rw [profitCostTotal_eq h]
  refine ⟨add_le_add (le_max_left _ _) (le_max_left _ _), fun hpos => ?_⟩
  rcases h.oneProfitCost with hnone | hnone
  · rw [hnone, Option.getD_none, add_zero] at hpos
    rw [hnone, Option.getD_none, max_self]
    exact ⟨max_eq_left hpos, rfl⟩
  · rw [hnone, Option.getD_none, zero_add] at hpos
    rw [hnone, Option.getD_none, max_self]
    exact ⟨rfl, max_eq_left hpos⟩

theorem paysAsDecided_decided_iff (h : BillAmounts p) :
    PaysAsDecided p (decidedPayments p)
      ↔ 0 ≤ p.profitCostTotal ∧ 0 ≤ p.disbursementVatZero.getD 0
        ∧ (p.disbursementGross.getD 0 = 0
          ∨ p.disbursementVatZero.getD 0 ≤ p.disbursementGross.getD 0)
        ∧ p.decidedTotal ≠ 0 := by
  obtain ⟨hprofitLe, hprofitPaid⟩ := profitCosts_paid h
  obtain ⟨hdisbursementLe, hdisbursementPaid⟩ :=
    disbursements_paid (p.disbursementGross.getD 0) (p.disbursementVatZero.getD 0)
  have hdecided : p.decidedTotal = p.profitCostTotal
      + if p.disbursementGross.getD 0 = 0 then p.disbursementVatZero.getD 0
        else p.disbursementGross.getD 0 := by
    rw [PayInFullClaim.decidedTotal, disbursementTotal_eq]
  have hsum := sum_decidedPayments (p := p)
  constructor
  · intro hpays
    have htotal := hpays.total
    rw [hsum, hdecided] at htotal
    -- neither side can be paid below its total, so both are paid exactly
    have hprofit : p.profitCostTotal
        = max (p.profitCostVatZero.getD 0) 0 + max (p.profitCostGross.getD 0) 0 := by linarith
    obtain ⟨hvatZero, hwithin⟩ := hdisbursementPaid.mp (by linarith)
    refine ⟨?_, hvatZero, hwithin, ?_⟩
    · rw [hprofit]
      exact add_nonneg (le_max_right _ _) (le_max_right _ _)
    · intro hzero
      obtain ⟨code, hsingle⟩ := hpays.nil.mpr hzero
      exact decidedPayments_ne_zero code hsingle
  · rintro ⟨hprofit, hvatZero, hwithin, hne⟩
    obtain ⟨hpaidVatZero, hpaidGross⟩ := hprofitPaid hprofit
    have hpaid := hdisbursementPaid.mpr ⟨hvatZero, hwithin⟩
    have htotal : ((decidedPayments p).map (·.1)).sum = p.decidedTotal := by
      rw [hsum, hdecided, hpaidVatZero, hpaidGross, hpaid, profitCostTotal_eq h]
    have hzeroRated : paidUnder .zeroVat (decidedPayments p) = p.zeroRatedTotal := by
      rw [zeroVat_decidedPayments, hpaidVatZero, max_eq_left hvatZero, PayInFullClaim.zeroRatedTotal]
    refine ⟨?_, fun _ hmem => (pos_of_mem_decidedPayments hmem).le, htotal, hzeroRated, ?_, ?_⟩
    · intro hempty
      rw [hempty] at htotal
      exact hne htotal.symm
    · rw [gbVat20_decidedPayments, hdecided, ← hpaid, PayInFullClaim.zeroRatedTotal, hpaidGross,
        max_eq_left hvatZero, profitCostTotal_eq h]
      ring
    · refine iff_of_false ?_ hne
      rintro ⟨code, hsingle⟩
      exact decidedPayments_ne_zero code hsingle

/-- A nil bill has nothing to pay in any part. -/
theorem isNilBill_amounts (hnil : p.isNilBill = true) :
    ∀ amount ∈ p.amounts, amount.getD 0 = 0 := by
  intro amount hmem
  have hzero := List.all_eq_true.mp hnil amount hmem
  rw [Bool.or_eq_true, decide_eq_true_eq, decide_eq_true_eq] at hzero
  rcases hzero with rfl | rfl <;> rfl

theorem paysAsDecided_nil (h : BillAmounts p) (hnil : p.isNilBill = true) :
    PaysAsDecided p [(0, .zeroVat)] ∧ Payable p := by
  have hzero := isNilBill_amounts hnil
  have hbound : (0 : ℚ) < quantizeBound := by norm_num [quantizeBound]
  have hprofitGross : p.profitCostGross.getD 0 = 0 := hzero _ (by simp [PayInFullClaim.amounts])
  have hprofitVatZero : p.profitCostVatZero.getD 0 = 0 := hzero _ (by simp [PayInFullClaim.amounts])
  have hgross : p.disbursementGross.getD 0 = 0 := hzero _ (by simp [PayInFullClaim.amounts])
  have hvatZero : p.disbursementVatZero.getD 0 = 0 := hzero _ (by simp [PayInFullClaim.amounts])
  have hprofit : p.profitCostTotal = 0 := by
    rw [profitCostTotal_eq h, hprofitGross, hprofitVatZero, add_zero]
  have htotal : p.decidedTotal = 0 := by
    rw [PayInFullClaim.decidedTotal, disbursementTotal_eq, if_pos hgross, hprofit, hvatZero, add_zero]
  have hzeroRated : p.zeroRatedTotal = 0 := by
    rw [PayInFullClaim.zeroRatedTotal, hprofitVatZero, hvatZero, add_zero]
  constructor
  · refine ⟨List.cons_ne_nil _ _, ?_, ?_, ?_, ?_, iff_of_true ⟨_, rfl⟩ htotal⟩
    · intro payment hpayment
      rw [List.mem_singleton.mp hpayment]
    · rw [htotal]
      simp
    · rw [hzeroRated]
      simp [paidUnder]
    · rw [htotal, hzeroRated]
      simp [paidUnder]
  · refine ⟨hprofit.ge, hvatZero.ge, .inl hgross, fun _ => hnil, ?_, ?_, ?_⟩
    · rw [hprofit]
      exact hbound
    · rw [hvatZero]
      exact hbound
    · rw [hgross, hvatZero, sub_zero]
      exact hbound

end Decided

theorem BillAmounts.paidAsDecided_iff {p : PayInFullClaim} (h : BillAmounts p) (claim : Claim) :
    PaidAsDecided claim p ↔ Payable p := by
  by_cases hnil : p.isNilBill = true
  · obtain ⟨hpays, hpayable⟩ := paysAsDecided_nil h hnil
    have hlines : finalOrNilBillPaymentExtractLines claim p
        = [buildFinalBillNilFeesExtract claim.claimReference 1 claim.submissionDate.date] :=
      if_pos hnil
    refine iff_of_true ⟨finalOrNilBillPaymentExtractLines claim p, if_pos ?_, ?_⟩ hpayable
    · rw [hlines]
      simp [buildFinalBillNilFeesExtract, quantizeBound]
    · rw [hlines]
      exact hpays
  · rw [Bool.not_eq_true] at hnil
    constructor
    · rintro ⟨lines, hbuilt, hpays⟩
      obtain ⟨rfl, hprofitCost, hvatZero, hstandard⟩ := (built_iff h hnil).mp hbuilt
      rw [map_payment_built h hnil hstandard, paysAsDecided_decided_iff h] at hpays
      obtain ⟨hprofit, hzeroRated, hwithin, hne⟩ := hpays
      exact ⟨hprofit, hzeroRated, hwithin, fun hzero => absurd hzero hne,
        hprofitCost, hvatZero, hstandard⟩
    · intro hpayable
      have hne : p.decidedTotal ≠ 0 := by
        intro hzero
        rw [hpayable.nothing hzero] at hnil
        cases hnil
      refine ⟨_, (built_iff h hnil).mpr ⟨rfl, hpayable.digits⟩, ?_⟩
      rw [map_payment_built h hnil hpayable.digits.2.2, paysAsDecided_decided_iff h]
      exact ⟨hpayable.profitCost, hpayable.zeroRated, hpayable.within, hne⟩

/-- An accepted decision of two-decimal amounts on a final or nil bill is paid, in full and as
decided, exactly when it is payable: no part is negative, the zero-rated disbursements are
within a gross that is not zero, and it is a nil bill where its total is zero. -/
theorem paidAsDecided_iff_payable (claim : Claim) (p : PayInFullClaim)
    (htype : p.claimTypeId ≠ .paymentOnAccount) (hdecimals : p.TwoDecimals)
    (hvalid : p.validate = .ok ()) : PaidAsDecided claim p ↔ Payable p :=
  (billAmounts_of_validate htype hdecimals hvalid).paidAsDecided_iff claim

namespace Sample

/-- A final bill of 900.00 that awaits its assessment. -/
def submittedBill : Claim where
  claimId := 1
  applicationId := 1
  claimReference := "INQC-AAAA-CCCC"
  claimTypeId := .finalBill
  statusId := .submitted
  submissionDate := ⟨date, 0⟩
  totalProfitCostNet := none
  totalProfitCostGross := some ⟨90000, by decide⟩
  totalProfitCostVatZero := none
  totalFundsRemainingAfterClaim := 0
  claimantId := none
  poaTypeId := none
  details := .empty

/-- A decision to pay profit costs of 100.00 net and 120.00 gross, and disbursements of 50.00
net, 80.00 gross and 20.00 zero-rated. -/
def paidBill : PayInFullClaim where
  claimTypeId := .finalBill
  poaTypeId := none
  profitCostNet := some 100
  profitCostGross := some 120
  profitCostVatZero := none
  disbursementNet := some 50
  disbursementGross := some 80
  disbursementVatZero := some 20

/-- A decision to take 5.00 of zero-rated profit costs back, beside disbursements of 0.00. -/
def negativeBill : PayInFullClaim where
  claimTypeId := .finalBill
  poaTypeId := none
  profitCostNet := none
  profitCostGross := none
  profitCostVatZero := some (-5)
  disbursementNet := none
  disbursementGross := none
  disbursementVatZero := some 0

theorem paidBill_twoDecimals : paidBill.TwoDecimals := by
  simp only [PayInFullClaim.TwoDecimals, PayInFullClaim.amounts, paidBill, List.forall_mem_cons,
    List.not_mem_nil, false_implies, implies_true, Option.mem_def, Option.some.injEq,
    forall_eq', reduceCtorEq, and_true, true_and]
  exact ⟨⟨10000, by norm_num⟩, ⟨12000, by norm_num⟩, ⟨5000, by norm_num⟩, ⟨8000, by norm_num⟩,
    ⟨2000, by norm_num⟩⟩

end Sample

open Sample in
theorem paidBill_paidAsDecided : PaidAsDecided submittedBill paidBill := by
  refine (paidAsDecided_iff_payable submittedBill paidBill (by decide) paidBill_twoDecimals
    (by decide +kernel)).mpr ?_
  constructor
  all_goals
    try unfold quantizeBound
    decide +kernel

open Sample in
/-- It is accepted, it is no nil bill, and nothing at all is paid for it. -/
theorem negativeBill_without_lines :
    negativeBill.validate = .ok () ∧ negativeBill.TwoDecimals ∧ negativeBill.isNilBill = false
      ∧ builtFinalBillLines submittedBill negativeBill = some []
      ∧ ¬ PaidAsDecided submittedBill negativeBill := by
  have hbuilt : builtFinalBillLines submittedBill negativeBill = some [] := by decide +kernel
  refine ⟨by decide +kernel, ?_, by decide +kernel, hbuilt, ?_⟩
  · simp only [PayInFullClaim.TwoDecimals, PayInFullClaim.amounts, negativeBill,
      List.forall_mem_cons, List.not_mem_nil, false_implies, implies_true, Option.mem_def,
      Option.some.injEq, forall_eq', reduceCtorEq, and_true, true_and]
    exact ⟨⟨-500, by norm_num⟩, wholePence_zero⟩
  · rintro ⟨lines, hlines, hpays⟩
    rw [hbuilt] at hlines
    cases hlines
    exact hpays.nonempty rfl

end InquestsApi
