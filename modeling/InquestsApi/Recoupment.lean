import InquestsApi.Ledger
import Mathlib.Tactic.LinearCombination

/-! Recoupment: what is paid on account is taken back when the final or nil bill of the
application is paid, provided no payment on account is made after that. -/
namespace InquestsApi

open UnitOfWork PayInFullClaimUseCase

/-- The recoupments of an application that take back a line of the claim. -/
def Store.reversalsOf (s : Store) (poa : Claim) : List ClaimPaymentExtract :=
  s.claimPaymentExtracts.filter fun e =>
    e.invoiceType = .recouped
      && s.claims.any (fun c => c.claimId = e.claimId && c.applicationId = poa.applicationId)
      && (s.extractsOf poa.claimId).any fun p => e.invoiceNumber = p.invoiceNumber ++ "-R"

/-- A caseworker pays a claim on account only while no bill of the application is paid. -/
def PaysBeforeBill (s : Store) (claim : Claim) : Prop :=
  claim.claimTypeId = .paymentOnAccount → ∀ bill ∈ s.claims,
    bill.applicationId = claim.applicationId → bill.claimTypeId.isFinalBill = true →
    bill.statusId ≠ .payInFull

/-- A line that its application has taken back. -/
def TakenBack (s : Store) (applicationId : ℕ) (p : ClaimPaymentExtract) : Prop :=
  ∃ e ∈ s.claimPaymentExtracts, Reversal p e
    ∧ ∃ c ∈ s.claims, c.claimId = e.claimId ∧ c.applicationId = applicationId

/-- Once a bill is paid, every line of every paid claim on account is taken back. -/
structure Recouped (s : Store) : Prop where
  ledger : Ledger s
  takenBack : ∀ bill ∈ s.claims, bill.claimTypeId.isFinalBill = true → bill.statusId = .payInFull →
    ∀ poa ∈ s.claims, poa.applicationId = bill.applicationId →
      poa.claimTypeId = .paymentOnAccount → poa.statusId = .payInFull →
      ∀ p ∈ s.extractsOf poa.claimId, TakenBack s poa.applicationId p

section Totals

variable {s : Store} {poa : Claim}

/-- Lines and what takes them back cancel. -/
theorem invoiced_reversals {originals rows : List ClaimPaymentExtract}
    (h : List.Forall₂ Reversal originals rows) : invoiced originals + invoiced rows = 0 := by
  induction h with
  | nil => rw [invoiced_nil, add_zero]
  | cons hhead _ ih =>
      rw [invoiced_cons, invoiced_cons, hhead.invoiceAmount]
      linear_combination ih

theorem exists_forall₂ {α β : Type} {R : α → β → Prop} {as : List α}
    (h : ∀ a ∈ as, ∃ b, R a b) : ∃ bs, List.Forall₂ R as bs := by
  induction as with
  | nil => exact ⟨[], .nil⟩
  | cons a rest ih =>
      rw [List.forall_mem_cons] at h
      obtain ⟨b, hb⟩ := h.1
      obtain ⟨bs, hbs⟩ := ih h.2
      exact ⟨b :: bs, .cons hb hbs⟩

theorem invoiced_perm {rows rows' : List ClaimPaymentExtract} (h : rows.Perm rows') :
    invoiced rows = invoiced rows' :=
  (h.map _).sum_eq

theorem reversal_numbers {originals rows : List ClaimPaymentExtract}
    (h : List.Forall₂ Reversal originals rows) :
    rows.map (·.invoiceNumber) = (originals.map (·.invoiceNumber)).map (· ++ "-R") := by
  induction h with
  | nil => rfl
  | cons hhead _ ih => rw [List.map_cons, List.map_cons, List.map_cons, hhead.invoiceNumber, ih]

theorem mem_reversalsOf {e : ClaimPaymentExtract} : e ∈ s.reversalsOf poa ↔
    e ∈ s.claimPaymentExtracts ∧ e.invoiceType = .recouped
      ∧ (∃ c ∈ s.claims, c.claimId = e.claimId ∧ c.applicationId = poa.applicationId)
      ∧ ∃ p ∈ s.extractsOf poa.claimId, e.invoiceNumber = p.invoiceNumber ++ "-R" := by
  simp only [Store.reversalsOf, List.mem_filter, Bool.and_eq_true, List.any_eq_true,
    decide_eq_true_eq, and_assoc]

/-- A claim whose every line is taken back is recouped in full. -/
theorem Ledger.invoiced_takenBack (hs : Ledger s)
    (h : ∀ p ∈ s.extractsOf poa.claimId, TakenBack s poa.applicationId p) :
    invoiced (s.extractsOf poa.claimId) + invoiced (s.reversalsOf poa) = 0 := by
  obtain ⟨rows, hrows⟩ := exists_forall₂ h
  have hreversals : List.Forall₂ Reversal (s.extractsOf poa.claimId) rows :=
    hrows.imp fun _ _ h => h.2.1
  have hnumbers : (rows.map (·.invoiceNumber)).Nodup := by
    rw [reversal_numbers hreversals]
    have hlines : ((s.extractsOf poa.claimId).map (·.invoiceNumber)).Nodup :=
      hs.invoiceNumbers.sublist (List.filter_sublist.map _)
    exact hlines.map fun _ _ h => reversal_injective h
  have hnodup : (s.reversalsOf poa).Nodup := hs.invoiceNumbers.of_map.filter _
  have hperm : rows.Perm (s.reversalsOf poa) := by
    refine (List.perm_ext_iff_of_nodup hnumbers.of_map hnodup).mpr ?_
    intro e
    rw [mem_reversalsOf]
    constructor
    · intro he
      obtain ⟨p, hp, hmem, hreversal, hclaim⟩ := exists_left_of_forall₂ hrows he
      exact ⟨hmem, hreversal.invoiceType, hclaim, p, hp, hreversal.invoiceNumber⟩
    · rintro ⟨he, -, -, p, hp, hnumber⟩
      obtain ⟨e', he', hmem', hreversal, -⟩ := exists_right_of_forall₂ hrows hp
      rw [hs.eq_of_invoiceNumber he hmem' (hnumber.trans hreversal.invoiceNumber.symm)]
      exact he'
  rw [← invoiced_perm hperm]
  exact invoiced_reversals hreversals

end Totals

section Steps

variable {s s' : Store} {claim : Claim} {verdict : Verdict} {rows : DecisionRows}

/-- What is taken back stays taken back. -/
theorem TakenBack.decided {claimId applicationId : ℕ} {p : ClaimPaymentExtract}
    (h : Decided claimId verdict rows s s') (hp : TakenBack s applicationId p) :
    TakenBack s' applicationId p := by
  obtain ⟨e, he, hreversal, c, hc, hkey, happ⟩ := hp
  obtain ⟨status, hc'⟩ := h.exists_withStatus hc
  refine ⟨e, ?_, hreversal, _, hc', hkey, happ⟩
  rw [h.claimPaymentExtracts]
  exact List.mem_append_left _ he

namespace Recouped

variable (hs : Recouped s)

include hs

theorem note (h : Noted s s') : Recouped s' := by
  have hledger := hs.ledger.note h
  obtain ⟨events, rfl⟩ := h
  exact ⟨hledger, hs.takenBack⟩

theorem submit {domain : DomainClaim} {applicationId : ℕ} {row : Claim}
    (h : Submitted domain applicationId row s s') (hledger : Ledger s') : Recouped s' := by
  have hpaid : ∀ c ∈ s'.claims, c.statusId = .payInFull → c ∈ s.claims := by
    intro c hc hstatus
    rw [h.claims] at hc
    rcases List.mem_append.mp hc with hc | hc
    · exact hc
    · rw [List.mem_singleton.mp hc, h.stored.status] at hstatus
      cases hstatus
  refine ⟨hledger, ?_⟩
  intro bill hbill hfinal hbillPaid poa hpoa happ htype hpoaPaid p hp
  rw [Store.extractsOf, h.claimPaymentExtracts] at hp
  obtain ⟨e, he, hreversal, c, hc, hclaim⟩ := hs.takenBack bill (hpaid _ hbill hbillPaid) hfinal
    hbillPaid poa (hpaid _ hpoa hpoaPaid) happ htype hpoaPaid p hp
  refine ⟨e, ?_, hreversal, c, ?_, hclaim⟩
  · rw [h.claimPaymentExtracts]
    exact he
  · rw [h.claims]
    exact List.mem_append_left _ hc

/-- A decision keeps the recoupments, when a paid claim on account finds no paid bill and
a paid bill takes back what is paid on account. -/
theorem decide (hclaim : claim ∈ s.claims) (h : Decided claim.claimId verdict rows s s')
    (hledger : Ledger s')
    (hbefore : verdict.status = .payInFull → PaysBeforeBill s claim)
    (hbill : verdict.status = .payInFull → claim.claimTypeId.isFinalBill = true →
      ∀ poa ∈ s.claims, poa.applicationId = claim.applicationId →
        poa.claimTypeId = .paymentOnAccount → poa.statusId = .payInFull →
        ∀ p ∈ s.extractsOf poa.claimId, TakenBack s' poa.applicationId p) : Recouped s' := by
  have hkeys := hs.ledger.consistent.claimKeys
  refine ⟨hledger, ?_⟩
  intro bill hbillMem hfinal hbillPaid poa hpoaMem happ htype hpoaPaid p hp
  obtain ⟨bill₀, hbill₀, rfl⟩ := h.mem_claims.mp hbillMem
  obtain ⟨poa₀, hpoa₀, rfl⟩ := h.mem_claims.mp hpoaMem
  by_cases hself : poa₀.claimId = claim.claimId
  · -- the claim paid now is on account: no bill of the application is paid
    obtain rfl := eq_of_claimId hkeys hpoa₀ hclaim hself
    rw [if_pos rfl] at happ htype hpoaPaid
    have hother : ¬ bill₀.claimId = poa₀.claimId := by
      intro hkey
      obtain rfl := eq_of_claimId hkeys hbill₀ hpoa₀ hkey
      rw [if_pos rfl, Claim.withStatus_claimTypeId] at hfinal
      rw [Claim.withStatus_claimTypeId] at htype
      rw [htype] at hfinal
      cases hfinal
    rw [if_neg hother] at happ hfinal hbillPaid
    exact absurd hbillPaid (hbefore hpoaPaid htype bill₀ hbill₀ happ.symm hfinal)
  · rw [if_neg hself] at happ htype hpoaPaid hp ⊢
    rw [h.extractsOf_other hself] at hp
    by_cases hkey : bill₀.claimId = claim.claimId
    · obtain rfl := eq_of_claimId hkeys hbill₀ hclaim hkey
      rw [if_pos rfl] at happ hfinal hbillPaid
      exact hbill hbillPaid hfinal poa₀ hpoa₀ happ htype hpoaPaid p hp
    · rw [if_neg hkey] at happ hfinal hbillPaid
      exact (hs.takenBack bill₀ hbill₀ hfinal hbillPaid poa₀ hpoa₀ happ htype hpoaPaid p hp).decided h

/-- Paying a bill takes back every line of the paid claims on account. -/
theorem pay (hclaim : claim ∈ s.claims) {own recouped : List PaymentExtractLine}
    (hstatus : claim.statusId = .submitted) (hpaid : PaidLines s claim own recouped)
    (h : Decided claim.claimId (.payInFull (own ++ recouped)) rows s s') (hledger : Ledger s')
    (hbefore : PaysBeforeBill s claim) : Recouped s' := by
  refine hs.decide hclaim h hledger (fun _ => hbefore) ?_
  intro _ hfinal poa hpoa happ htype hpoaPaid p hp
  obtain ⟨ownRows, recoupedRows, hrows, hpaidRows, hreversals⟩ := hpaid.rows h.record.extracts
  have hother : poa.claimId ≠ claim.claimId := by
    intro hkey
    rw [eq_of_claimId hs.ledger.consistent.claimKeys hpoa hclaim hkey, hstatus] at hpoaPaid
    cases hpoaPaid
  have hsource : p ∈ recoupedExtracts claim s := by
    obtain ⟨hmem, hkey⟩ := List.mem_filter.mp hp
    refine mem_recoupedExtracts.mpr ⟨?_, poa, ?_, hmem, of_decide_eq_true hkey⟩
    · intro hpoaType
      rw [hpoaType] at hfinal
      cases hfinal
    · exact mem_recoupablePoaClaims.mpr ⟨hpoa, happ, hother, htype, hpoaPaid⟩
  obtain ⟨e, he, hreversal⟩ := exists_right_of_forall₂ hreversals hsource
  obtain ⟨status, hclaim'⟩ := h.exists_withStatus hclaim
  refine ⟨e, ?_, hreversal, _, hclaim', ?_, happ.symm⟩
  · rw [h.claimPaymentExtracts, hrows]
    exact List.mem_append_right _ (List.mem_append_right _ he)
  · exact (hpaidRows.claimId e (List.mem_append_right _ he)).symm

end Recouped

end Steps

section Runs

theorem recouped_initial (applications : List Application) (evidence : List ClaimEvidence)
    (events : List HistoryEvent) : Recouped (.initial applications evidence events) :=
  ⟨ledger_initial _ _ _, fun _ h => nomatch h⟩

theorem Transacts.recouped {s s' : Store} (h : Transacts PaysBeforeBill s s') (hs : Recouped s) :
    Recouped s' := by
  have hledger := h.ledger hs.ledger
  cases h with
  | submission claim applicationId row hbill h => exact hs.submit h hledger
  | note h => exact hs.note h
  | rejection claim reasons rows hclaim hstatus hreasons h =>
      exact hs.decide hclaim h hledger (fun hpaid => nomatch hpaid) fun hpaid => nomatch hpaid
  | autoApproval claim lines rows hclaim hstatus htype hbill hlines h =>
      have hown := poaClaimPaymentExtractLines_ownLines htype hlines
      rw [← List.append_nil lines] at h
      refine hs.pay hclaim hstatus (hown.paidLines htype) h hledger ?_
      -- an approved claim was submitted beside no live bill
      intro _ bill hbillMem happ hfinal hpaid
      have hlive := hbill bill hbillMem happ
      rw [Claim.isActiveFinalBill, hfinal, hpaid] at hlive
      cases hlive
  | payment claim decisionAmounts date lines rows hclaim hstatus hallowed hlines h =>
      obtain ⟨own, recouped, rfl, hpaid⟩ := paymentExtractLines_paidLines hlines
      exact hs.pay hclaim hstatus hpaid h hledger hallowed

/-- In every run whose payments on account are made before the bill of their application is
paid, each paid claim on account of an application with a paid bill is recouped in full. -/
theorem paid_poa_fully_recouped (applications : List Application) (evidence : List ClaimEvidence)
    (events : List HistoryEvent) (s : Store)
    (h : CommittedState (PaymentsAllowed PaysBeforeBill)
      (.initial applications evidence events) s) :
    ∀ bill ∈ s.claims, bill.claimTypeId.isFinalBill = true → bill.statusId = .payInFull →
      ∀ poa ∈ s.claims, poa.applicationId = bill.applicationId →
        poa.claimTypeId = .paymentOnAccount → poa.statusId = .payInFull →
        invoiced (s.extractsOf poa.claimId) + invoiced (s.reversalsOf poa) = 0 := by
  have hs := h.invariant (recouped_initial applications evidence events)
    fun _ _ hstep => hstep.recouped
  intro bill hbill hfinal hbillPaid poa hpoa happ htype hpoaPaid
  exact hs.ledger.invoiced_takenBack
    (hs.takenBack bill hbill hfinal hbillPaid poa hpoa happ htype hpoaPaid)

theorem paid_poa_fully_recouped_recoupingRun :
    (afterAll Sample.store Sample.recoupingRun).claims.map (·.statusId) = [.payInFull, .payInFull]
      ∧ ∀ poa ∈ (afterAll Sample.store Sample.recoupingRun).claims,
        poa.claimTypeId = .paymentOnAccount → poa.applicationId = 1 → poa.statusId = .payInFull →
          invoiced ((afterAll Sample.store Sample.recoupingRun).extractsOf poa.claimId)
            + invoiced ((afterAll Sample.store Sample.recoupingRun).reversalsOf poa) = 0 := by
  have hbefore : ∀ bill ∈ (afterAll Sample.store (Sample.recoupingRun.take 2)).claims,
      bill.claimTypeId.isFinalBill = true → bill.statusId ≠ .payInFull := by decide +kernel
  have hadmitted : ∀ (n : ℕ) (r : Submission), Sample.recoupingRun[n]? = some r →
      PaymentsAllowed PaysBeforeBill (afterAll Sample.store (Sample.recoupingRun.take n)) r := by
    intro n r hr
    match n with
    | 0 => cases hr; trivial
    | 1 => cases hr; trivial
    | 2 =>
        cases hr
        exact fun _ _ _ _ _ bill hbill _ hfinal => hbefore bill hbill hfinal
    | n + 3 => cases hr
  have hcommitted : CommittedState (PaymentsAllowed PaysBeforeBill)
      (.initial [Sample.application] [] []) (afterAll Sample.store Sample.recoupingRun) :=
    ⟨_, reachable_afterAll .start hadmitted, Or.inl rfl⟩
  have hbill : ∃ bill ∈ (afterAll Sample.store Sample.recoupingRun).claims,
      bill.claimTypeId.isFinalBill = true ∧ bill.statusId = .payInFull ∧ bill.applicationId = 1 := by
    decide +kernel
  refine ⟨by decide +kernel, ?_⟩
  obtain ⟨bill, hbillMem, hfinal, hpaid, happ⟩ := hbill
  intro poa hpoa htype hpoaApp hpoaPaid
  exact paid_poa_fully_recouped _ _ _ _ hcommitted bill hbillMem hfinal hpaid poa hpoa
    (hpoaApp.trans happ.symm) htype hpoaPaid

/-- A claim on account over the remaining limit waits for a caseworker, who pays it when the
final bill is already paid. -/
def Sample.latePaymentRun : List Submission :=
  [Sample.create (Sample.poaCommand .expertCost none (some 9000) none),
    Sample.create (Sample.poaCommand .expertCost none (some 2000) none),
    Sample.create Sample.finalBillCommand,
    Sample.pay Sample.thirdReference (some 900),
    Sample.pay Sample.secondReference none]

theorem paid_poa_not_recouped_latePaymentRun :
    ∃ s, CommittedState anyRequest (.initial [Sample.application] [] []) s
      ∧ ∃ bill ∈ s.claims, bill.claimTypeId.isFinalBill = true ∧ bill.statusId = .payInFull
      ∧ ∃ poa ∈ s.claims, poa.applicationId = bill.applicationId
        ∧ poa.claimTypeId = .paymentOnAccount ∧ poa.statusId = .payInFull
        ∧ invoiced (s.extractsOf poa.claimId) + invoiced (s.reversalsOf poa) = 2000 := by
  refine ⟨afterAll Sample.store Sample.latePaymentRun,
    ⟨_, reachable_afterAll .start fun _ _ _ => trivial, Or.inl rfl⟩, ?_⟩
  decide +kernel

end Runs

end InquestsApi
