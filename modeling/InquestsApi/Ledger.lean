import InquestsApi.ClaimLifecycle
import InquestsApi.InvoiceNumbers
import InquestsApi.PaymentLines
import Mathlib.Data.List.Nodup

/-! The payment extracts as a ledger: invoice numbers are unique, the lines of a claim are
numbered from one, and a recoupment takes back exactly one payment, once. -/
namespace InquestsApi

open UnitOfWork PayInFullClaimUseCase

/-- A stored line that takes back an earlier one. -/
structure Reversal (original row : ClaimPaymentExtract) : Prop where
  invoiceType : row.invoiceType = .recouped
  invoiceNumber : row.invoiceNumber = original.invoiceNumber ++ "-R"
  invoiceAmount : row.invoiceAmount.value = -original.invoiceAmount.value
  taxCode : row.taxCode = original.taxCode

/-- The rows of a decision: those that pay the claim, then those that take back payments. -/
structure PaidRows (s : Store) (claim : Claim) (own recouped : List ClaimPaymentExtract) : Prop where
  claimId : ∀ e ∈ own ++ recouped, e.claimId = claim.claimId
  sequence : NumberedFrom 1 ((own ++ recouped).map (·.sequenceNumber))
  invoiceNumber : ∀ e ∈ own, e.invoiceNumber = invoiceNumberOf claim.claimReference e.sequenceNumber
  invoiceType : ∀ e ∈ own, e.invoiceType ≠ .recouped
    ∧ (e.invoiceType = .poa ↔ claim.claimTypeId = .paymentOnAccount)
  reversal : ∀ e ∈ recouped, ∃ p ∈ recoupedExtracts claim s, Reversal p e

/-- Claims have references of their own, an application one live bill, a line its number,
its kind, and, when it is a recoupment, the payment it takes back. -/
structure Ledger (s : Store) : Prop where
  consistent : Consistent s
  rendered : ∀ c ∈ s.claims, ∃ draw, c.claimReference = generateClaimReference draw
  references : (s.claims.map (·.claimReference)).Nodup
  oneBill : ∀ c ∈ s.claims, ∀ c' ∈ s.claims, c.applicationId = c'.applicationId →
    c.isActiveFinalBill = true → c'.isActiveFinalBill = true → c.claimId = c'.claimId
  sequence : ∀ c ∈ s.claims, NumberedFrom 1 ((s.extractsOf c.claimId).map (·.sequenceNumber))
  payments : ∀ e ∈ s.claimPaymentExtracts, e.invoiceType ≠ .recouped →
    ∃ c ∈ s.claims, c.claimId = e.claimId
      ∧ e.invoiceNumber = invoiceNumberOf c.claimReference e.sequenceNumber
      ∧ (e.invoiceType = .poa ↔ c.claimTypeId = .paymentOnAccount)
  recoupments : ∀ e ∈ s.claimPaymentExtracts, e.invoiceType = .recouped →
    ∃ bill ∈ s.claims, bill.claimId = e.claimId ∧ bill.claimTypeId.isFinalBill = true
      ∧ ∃ poa ∈ s.claims, poa.applicationId = bill.applicationId
      ∧ ∃ p ∈ s.claimPaymentExtracts, p.claimId = poa.claimId ∧ p.invoiceType = .poa ∧ Reversal p e
  invoiceNumbers : (s.claimPaymentExtracts.map (·.invoiceNumber)).Nodup

theorem ledger_initial (applications : List Application) (evidence : List ClaimEvidence)
    (events : List HistoryEvent) : Ledger (.initial applications evidence events) := by
  refine ⟨consistent_initial _ _ _, ?_, List.nodup_nil, ?_, ?_, ?_, ?_, List.nodup_nil⟩ <;>
    intro x hx <;> cases hx

section Rows

variable {s : Store} {claim : Claim} {claimId : ℕ} {own recouped : List PaymentExtractLine}

/-- What is related element by element comes from somewhere. -/
theorem exists_left_of_forall₂ {α β : Type} {R : α → β → Prop} {as : List α} {bs : List β}
    (h : List.Forall₂ R as bs) {b : β} (hb : b ∈ bs) : ∃ a ∈ as, R a b := by
  induction h with
  | nil => cases hb
  | cons hhead _ ih =>
      rcases List.mem_cons.mp hb with rfl | hb
      · exact ⟨_, List.mem_cons_self, hhead⟩
      · obtain ⟨a, ha, hab⟩ := ih hb
        exact ⟨a, List.mem_cons_of_mem _ ha, hab⟩

theorem exists_right_of_forall₂ {α β : Type} {R : α → β → Prop} {as : List α} {bs : List β}
    (h : List.Forall₂ R as bs) {a : α} (ha : a ∈ as) : ∃ b ∈ bs, R a b :=
  exists_left_of_forall₂ (R := fun b a => R a b) h.flip ha

theorem map_invoiceNumber {lines : List PaymentExtractLine} {rows : List ClaimPaymentExtract}
    (h : List.Forall₂ (ExtractRow claimId) lines rows) :
    rows.map (·.invoiceNumber) = lines.map (·.invoiceNumber) := by
  induction h with
  | nil => rfl
  | cons hhead _ ih => rw [List.map_cons, List.map_cons, hhead.invoiceNumber, ih]

/-- The numbers of what a bill takes back, as they will be. -/
theorem recouped_numbers {originals : List ClaimPaymentExtract} {lines : List PaymentExtractLine}
    (h : List.Forall₂ Reverses originals lines) :
    lines.map (·.invoiceNumber) = originals.map fun p => p.invoiceNumber ++ "-R" := by
  induction h with
  | nil => rfl
  | cons hhead _ ih => rw [List.map_cons, List.map_cons, hhead.invoiceNumber, ih]

theorem map_sequenceNumber {lines : List PaymentExtractLine} {rows : List ClaimPaymentExtract}
    (h : List.Forall₂ (ExtractRow claimId) lines rows) :
    rows.map (·.sequenceNumber) = lines.map (·.sequenceNumber) := by
  induction h with
  | nil => rfl
  | cons hhead _ ih => rw [List.map_cons, List.map_cons, hhead.sequenceNumber, ih]

/-- The row of a line that takes back an earlier one takes it back. -/
theorem Reverses.reversal {original row : ClaimPaymentExtract} {line : PaymentExtractLine}
    (h : Reverses original line) (hrow : ExtractRow claimId line row) : Reversal original row := by
  refine ⟨?_, ?_, ?_, ?_⟩
  · rw [hrow.invoiceType, h.invoiceType]
  · rw [hrow.invoiceNumber, h.invoiceNumber]
  · have hpence : WholePence line.invoiceAmount := by
      rw [h.invoiceAmount, ← Amount.bankersRound_neg_value]
      exact bankersRound_wholePence _
    rw [Amount.value_of_wholePence hpence hrow.invoiceAmount, h.invoiceAmount]
  · rw [hrow.taxCode, h.taxCode]

theorem reversals_of_reverses {originals : List ClaimPaymentExtract}
    {lines : List PaymentExtractLine} {rows : List ClaimPaymentExtract}
    (h : List.Forall₂ Reverses originals lines)
    (hrows : List.Forall₂ (ExtractRow claimId) lines rows) : List.Forall₂ Reversal originals rows := by
  induction h generalizing rows with
  | nil =>
      rw [List.forall₂_nil_left_iff.mp hrows]
      exact .nil
  | cons hhead _ ih =>
      obtain ⟨row, rest, hrow, hrest, rfl⟩ := List.forall₂_cons_left_iff.mp hrows
      exact .cons (hhead.reversal hrow) (ih hrest)

theorem PaidLines.rows {rows : List ClaimPaymentExtract} (h : PaidLines s claim own recouped)
    (hrows : List.Forall₂ (ExtractRow claim.claimId) (own ++ recouped) rows) :
    ∃ ownRows recoupedRows, rows = ownRows ++ recoupedRows
      ∧ PaidRows s claim ownRows recoupedRows
      ∧ List.Forall₂ Reversal (recoupedExtracts claim s) recoupedRows := by
  have hown := List.forall₂_take own.length hrows
  have hrecouped := List.forall₂_drop own.length hrows
  rw [List.take_left] at hown
  rw [List.drop_left] at hrecouped
  have hsplit := List.take_append_drop own.length rows
  have hreversals := reversals_of_reverses h.reverses hrecouped
  refine ⟨rows.take own.length, rows.drop own.length, hsplit.symm, ⟨?_, ?_, ?_, ?_, ?_⟩, hreversals⟩
  · rw [hsplit]
    exact extractRow_claimId hrows
  · rw [hsplit, map_sequenceNumber hrows]
    exact h.sequence
  · intro e he
    obtain ⟨line, hline, hrow⟩ := exists_left_of_forall₂ hown he
    rw [hrow.invoiceNumber, hrow.sequenceNumber]
    exact h.ownLines.invoiceNumber line hline
  · intro e he
    obtain ⟨line, hline, hrow⟩ := exists_left_of_forall₂ hown he
    rw [hrow.invoiceType]
    exact h.ownLines.invoiceType line hline
  · intro e he
    exact exists_left_of_forall₂ hreversals he

end Rows

section Sources

variable {s : Store} {claim : Claim} {e p : ClaimPaymentExtract}

theorem mem_getPaymentExtractsByClaimId {claimId : ℕ} :
    e ∈ s.getPaymentExtractsByClaimId claimId ↔ e ∈ s.claimPaymentExtracts ∧ e.claimId = claimId := by
  rw [Store.getPaymentExtractsByClaimId, List.mem_insertionSort, List.mem_filter, decide_eq_true_iff]

theorem mem_recoupablePoaClaims {applicationId currentClaimId : ℕ} {poa : Claim} :
    poa ∈ recoupablePoaClaims applicationId currentClaimId s ↔
      poa ∈ s.claims ∧ poa.applicationId = applicationId ∧ poa.claimId ≠ currentClaimId
        ∧ poa.claimTypeId = .paymentOnAccount ∧ poa.statusId = .payInFull := by
  simp only [recoupablePoaClaims, Store.getClaimsByApplicationId, List.mem_filter, Bool.and_eq_true,
    decide_eq_true_eq, and_assoc]

/-- What a bill takes back are the lines of the paid claims on account of its application. -/
theorem mem_recoupedExtracts : p ∈ recoupedExtracts claim s ↔
    claim.claimTypeId ≠ .paymentOnAccount
      ∧ ∃ poa ∈ recoupablePoaClaims claim.applicationId claim.claimId s,
        p ∈ s.claimPaymentExtracts ∧ p.claimId = poa.claimId := by
  unfold recoupedExtracts
  by_cases htype : claim.claimTypeId = .paymentOnAccount
  · rw [if_pos htype]
    exact iff_of_false List.not_mem_nil fun h => h.1 htype
  · rw [if_neg htype, List.mem_flatMap]
    simp only [mem_getPaymentExtractsByClaimId, and_iff_right htype]

/-- No line is taken back twice by one bill. -/
theorem recoupedExtracts_nodup (hkeys : (s.claims.map (·.claimId)).Nodup)
    (hextracts : s.claimPaymentExtracts.Nodup) : (recoupedExtracts claim s).Nodup := by
  unfold recoupedExtracts
  split_ifs with htype
  · exact List.nodup_nil
  · have hclaims : ((recoupablePoaClaims claim.applicationId claim.claimId s).map
        (·.claimId)).Nodup := by
      refine hkeys.sublist (List.Sublist.map _ ?_)
      exact List.filter_sublist.trans List.filter_sublist
    refine List.nodup_flatMap.mpr ⟨?_, ?_⟩
    · intro poa _
      rw [Store.getPaymentExtractsByClaimId, (List.perm_insertionSort _ _).nodup_iff]
      exact hextracts.filter _
    · refine (List.pairwise_map.mp hclaims).imp ?_
      intro a b hne
      refine List.disjoint_left.mpr ?_
      intro x ha hb
      rw [mem_getPaymentExtractsByClaimId] at ha hb
      exact hne (ha.2.symm.trans hb.2)

end Sources

namespace Ledger

section Facts

variable {s : Store} {claim c : Claim} {e p : ClaimPaymentExtract} (hs : Ledger s)

include hs

theorem eq_of_invoiceNumber {a b : ClaimPaymentExtract} (ha : a ∈ s.claimPaymentExtracts)
    (hb : b ∈ s.claimPaymentExtracts) (h : a.invoiceNumber = b.invoiceNumber) : a = b :=
  List.inj_on_of_nodup_map hs.invoiceNumbers ha hb h

theorem reference_length (hc : c ∈ s.claims) : c.claimReference.toList.length = 14 := by
  obtain ⟨draw, hdraw⟩ := hs.rendered c hc
  rw [hdraw, generateClaimReference_length]

/-- The lines of a Payment on account claim pay it. -/
theorem poaLine (hc : c ∈ s.claims) (htype : c.claimTypeId = .paymentOnAccount)
    (he : e ∈ s.claimPaymentExtracts) (hkey : e.claimId = c.claimId) : e.invoiceType = .poa := by
  by_cases hrecouped : e.invoiceType = .recouped
  · obtain ⟨bill, hbill, hbillKey, hfinal, -⟩ := hs.recoupments e he hrecouped
    have hsame := eq_of_claimId hs.consistent.claimKeys hbill hc (hbillKey.trans hkey)
    rw [hsame, htype] at hfinal
    cases hfinal
  · obtain ⟨c', hc', hkey', -, hpoa⟩ := hs.payments e he hrecouped
    have hsame := eq_of_claimId hs.consistent.claimKeys hc' hc (hkey'.trans hkey)
    rw [hsame] at hpoa
    exact hpoa.mpr htype

/-- No line has the number of a payment of a claim that awaits assessment. -/
theorem payment_fresh (hclaim : claim ∈ s.claims) (hstatus : claim.statusId = .submitted)
    (he : e ∈ s.claimPaymentExtracts) (sequence : ℕ) :
    e.invoiceNumber ≠ invoiceNumberOf claim.claimReference sequence := by
  intro hnumber
  by_cases hrecouped : e.invoiceType = .recouped
  · obtain ⟨bill, -, -, -, poa, -, -, p, -, -, -, hreversal⟩ := hs.recoupments e he hrecouped
    rw [hreversal.invoiceNumber] at hnumber
    exact reversal_ne_invoiceNumberOf _ _ _ hnumber
  · obtain ⟨c, hc, hkey, hnumber', -⟩ := hs.payments e he hrecouped
    rw [hnumber'] at hnumber
    have hlength := (hs.reference_length hc).trans (hs.reference_length hclaim).symm
    have hreference := (invoiceNumberOf_injective hlength hnumber).1
    have hsame : c = claim := List.inj_on_of_nodup_map hs.references hc hclaim hreference
    have hmem : e ∈ s.extractsOf claim.claimId := by
      rw [← hsame, hkey]
      exact List.mem_filter.mpr ⟨he, decide_eq_true rfl⟩
    rw [hs.consistent.extractsOf_submitted hclaim hstatus] at hmem
    cases hmem

/-- No line takes back yet what a bill that awaits assessment will take back: the
application would have a second live bill. -/
theorem reversal_fresh (hclaim : claim ∈ s.claims) (hstatus : claim.statusId = .submitted)
    (hp : p ∈ recoupedExtracts claim s) (he : e ∈ s.claimPaymentExtracts) :
    e.invoiceNumber ≠ p.invoiceNumber ++ "-R" := by
  intro hnumber
  obtain ⟨htype, poa, hpoa, hpmem, hpkey⟩ := mem_recoupedExtracts.mp hp
  obtain ⟨hpoaMem, happlication, -⟩ := mem_recoupablePoaClaims.mp hpoa
  by_cases hrecouped : e.invoiceType = .recouped
  · obtain ⟨bill, hbill, hbillKey, hfinal, poa', hpoa', happlication', p', hp', hpkey', -,
      hreversal⟩ := hs.recoupments e he hrecouped
    rw [hreversal.invoiceNumber] at hnumber
    obtain rfl := hs.eq_of_invoiceNumber hp' hpmem (reversal_injective hnumber)
    have hsame := eq_of_claimId hs.consistent.claimKeys hpoa' hpoaMem (hpkey'.symm.trans hpkey)
    obtain ⟨paid, hpaid, hpaidKey, hpaidStatus⟩ := hs.consistent.extractOf e he
    obtain rfl := eq_of_claimId hs.consistent.claimKeys hpaid hbill (hpaidKey.trans hbillKey.symm)
    have hbillLive : paid.isActiveFinalBill = true := by
      rw [Claim.isActiveFinalBill, hfinal, hpaidStatus]
      rfl
    have hclaimLive : claim.isActiveFinalBill = true := by
      rw [Claim.isActiveFinalBill, hstatus]
      cases h : claim.claimTypeId with
      | paymentOnAccount => exact absurd h htype
      | finalBill => rfl
      | nilBill => rfl
    have hkey := hs.oneBill paid hbill claim hclaim
      (happlication'.symm.trans (hsame ▸ happlication)) hbillLive hclaimLive
    have hone := eq_of_claimId hs.consistent.claimKeys hbill hclaim hkey
    rw [hone, hstatus] at hpaidStatus
    cases hpaidStatus
  · obtain ⟨c, -, -, hnumber', -⟩ := hs.payments e he hrecouped
    rw [hnumber'] at hnumber
    exact reversal_ne_invoiceNumberOf _ _ _ hnumber.symm

/-- The lines of a payment have invoice numbers of their own. -/
theorem invoiceNumbers_append {own recouped : List PaymentExtractLine} (hclaim : claim ∈ s.claims)
    (hstatus : claim.statusId = .submitted) (h : PaidLines s claim own recouped) :
    (s.claimPaymentExtracts.map (·.invoiceNumber)
      ++ (own ++ recouped).map (·.invoiceNumber)).Nodup := by
  have hown : own.map (·.invoiceNumber)
      = (own.map (·.sequenceNumber)).map (invoiceNumberOf claim.claimReference) := by
    rw [List.map_map]
    exact List.map_congr_left h.ownLines.invoiceNumber
  have hrecouped := recouped_numbers h.reverses
  have hsequence : (own.map (·.sequenceNumber)).Nodup := by
    rw [h.ownLines.sequence]
    exact List.nodup_range'
  have hownNodup : (own.map (·.invoiceNumber)).Nodup := by
    rw [hown]
    refine hsequence.map ?_
    intro m n hmn
    exact (invoiceNumberOf_injective rfl hmn).2
  have hrecoupedNodup : (recouped.map (·.invoiceNumber)).Nodup := by
    rw [hrecouped]
    refine (recoupedExtracts_nodup hs.consistent.claimKeys hs.invoiceNumbers.of_map).map_on ?_
    intro p hp q hq hpq
    obtain ⟨-, -, -, hp', -⟩ := mem_recoupedExtracts.mp hp
    obtain ⟨-, -, -, hq', -⟩ := mem_recoupedExtracts.mp hq
    exact hs.eq_of_invoiceNumber hp' hq' (reversal_injective hpq)
  have hkinds : List.Disjoint (own.map (·.invoiceNumber)) (recouped.map (·.invoiceNumber)) := by
    rw [hrecouped]
    refine List.disjoint_left.mpr ?_
    intro number ho hr
    obtain ⟨line, hline, rfl⟩ := List.mem_map.mp ho
    obtain ⟨p, -, hp⟩ := List.mem_map.mp hr
    rw [h.ownLines.invoiceNumber line hline] at hp
    exact reversal_ne_invoiceNumberOf _ _ _ hp
  rw [List.map_append]
  refine hs.invoiceNumbers.append (hownNodup.append hrecoupedNodup hkinds) ?_
  refine List.disjoint_left.mpr ?_
  intro number hold hnew
  obtain ⟨e, he, rfl⟩ := List.mem_map.mp hold
  rcases List.mem_append.mp hnew with ho | hr
  · obtain ⟨line, hline, hnumber⟩ := List.mem_map.mp ho
    rw [h.ownLines.invoiceNumber line hline] at hnumber
    exact hs.payment_fresh hclaim hstatus he _ hnumber.symm
  · rw [hrecouped] at hr
    obtain ⟨p, hp, hnumber⟩ := List.mem_map.mp hr
    exact hs.reversal_fresh hclaim hstatus hp he hnumber.symm

end Facts

section Steps

variable {s s' : Store} {claim : Claim} (hs : Ledger s)

include hs

theorem note (h : Noted s s') : Ledger s' := by
  have hconsistent := hs.consistent.note h
  obtain ⟨events, rfl⟩ := h
  exact ⟨hconsistent, hs.rendered, hs.references, hs.oneBill, hs.sequence, hs.payments,
    hs.recoupments, hs.invoiceNumbers⟩

theorem submit {domain : DomainClaim} {applicationId : ℕ} {row : Claim}
    (hbill : NoActiveFinalBill s applicationId) (h : Submitted domain applicationId row s s') :
    Ledger s' := by
  have hmem : ∀ {c}, c ∈ s'.claims ↔ c ∈ s.claims ∨ c = row := by
    intro c
    rw [h.claims, List.mem_append, List.mem_singleton]
  -- the new claim is the only live bill of its application, if it is a bill
  have hnone : ∀ c ∈ s.claims, c.applicationId = row.applicationId →
      ¬ c.isActiveFinalBill = true := by
    intro c hc happ
    rw [hbill c hc (happ.trans h.stored.applicationId)]
    exact Bool.false_ne_true
  refine ⟨h.consistent hs.consistent, ?_, ?_, ?_, ?_, ?_, ?_, ?_⟩
  · intro c hc
    rcases hmem.mp hc with hc | rfl
    · exact hs.rendered c hc
    · exact h.stored.reference
  · rw [h.claims, List.map_append]
    refine hs.references.append (List.nodup_singleton _) (List.disjoint_singleton.mpr ?_)
    intro hold
    obtain ⟨c, hc, hreference⟩ := List.mem_map.mp hold
    exact h.stored.newReference c hc hreference
  · intro c hc c' hc' happ hlive hlive'
    rcases hmem.mp hc with hc | rfl <;> rcases hmem.mp hc' with hc' | rfl
    · exact hs.oneBill c hc c' hc' happ hlive hlive'
    · exact absurd hlive (hnone c hc happ)
    · exact absurd hlive' (hnone c' hc' happ.symm)
    · rfl
  · intro c hc
    rcases hmem.mp hc with hc | rfl
    · rw [Store.extractsOf, h.claimPaymentExtracts]
      exact hs.sequence c hc
    · have hempty := (h.consistent hs.consistent).extractsOf_submitted hc h.stored.status
      rw [hempty]
      exact .nil _
  · intro e he hkind
    rw [h.claimPaymentExtracts] at he
    obtain ⟨c, hc, hrest⟩ := hs.payments e he hkind
    exact ⟨c, hmem.mpr (.inl hc), hrest⟩
  · intro e he hkind
    rw [h.claimPaymentExtracts] at he ⊢
    obtain ⟨bill, hbillMem, hkey, hfinal, poa, hpoa, hrest⟩ := hs.recoupments e he hkind
    exact ⟨bill, hmem.mpr (.inl hbillMem), hkey, hfinal, poa, hmem.mpr (.inl hpoa), hrest⟩
  · rw [h.claimPaymentExtracts]
    exact hs.invoiceNumbers

end Steps

section Decisions

variable {s s' : Store} {claim : Claim} {verdict : Verdict} {rows : DecisionRows}

/-- What a decision does not touch of a ledger. -/
theorem decide (hs : Ledger s) (hclaim : claim ∈ s.claims) (hstatus : claim.statusId = .submitted)
    (h : Decided claim.claimId verdict rows s s') (hconsistent : Consistent s')
    {own recouped : List ClaimPaymentExtract} (hrows : rows.extracts = own ++ recouped)
    (hpaid : PaidRows s claim own recouped)
    (hnumbers : (s.claimPaymentExtracts.map (·.invoiceNumber)
      ++ rows.extracts.map (·.invoiceNumber)).Nodup) : Ledger s' := by
  have hlive : ∀ c ∈ s'.claims, c.isActiveFinalBill = true →
      ∃ c₀ ∈ s.claims, c₀.claimId = c.claimId ∧ c₀.applicationId = c.applicationId
        ∧ c₀.isActiveFinalBill = true := by
    intro c hc hbill
    obtain ⟨c₀, hc₀, rfl⟩ := h.mem_claims.mp hc
    by_cases hkey : c₀.claimId = claim.claimId
    · obtain rfl := eq_of_claimId hs.consistent.claimKeys hc₀ hclaim hkey
      rw [if_pos rfl, Claim.isActiveFinalBill, Bool.and_eq_true] at hbill
      refine ⟨c₀, hc₀, by rw [if_pos rfl]; rfl, by rw [if_pos rfl]; rfl, ?_⟩
      rw [Claim.isActiveFinalBill, Bool.and_eq_true, hstatus]
      exact ⟨hbill.1, rfl⟩
    · rw [if_neg hkey] at hbill ⊢
      exact ⟨c₀, hc₀, rfl, rfl, hbill⟩
  refine ⟨hconsistent, ?_, ?_, ?_, ?_, ?_, ?_, ?_⟩
  · intro c hc
    obtain ⟨c₀, hc₀, status, rfl⟩ := h.of_mem_claims hc
    exact hs.rendered c₀ hc₀
  · rw [h.claims, setClaimStatus_map fun _ _ => rfl]
    exact hs.references
  · intro c hc c' hc' happ hbill hbill'
    obtain ⟨c₀, hc₀, hkey, happ₀, hbill₀⟩ := hlive c hc hbill
    obtain ⟨c₁, hc₁, hkey', happ₁, hbill₁⟩ := hlive c' hc' hbill'
    rw [← hkey, ← hkey']
    exact hs.oneBill c₀ hc₀ c₁ hc₁ (happ₀.trans (happ.trans happ₁.symm)) hbill₀ hbill₁
  · intro c hc
    obtain ⟨c₀, hc₀, status, rfl⟩ := h.of_mem_claims hc
    by_cases hkey : c₀.claimId = claim.claimId
    · rw [Claim.withStatus_claimId, hkey, h.extractsOf_self,
        hs.consistent.extractsOf_submitted hclaim hstatus, List.nil_append, hrows]
      exact hpaid.sequence
    · rw [Claim.withStatus_claimId, h.extractsOf_other hkey]
      exact hs.sequence c₀ hc₀
  · intro e he hkind
    rw [h.claimPaymentExtracts, hrows] at he
    rcases List.mem_append.mp he with he | he
    · obtain ⟨c, hc, hrest⟩ := hs.payments e he hkind
      obtain ⟨status, hc'⟩ := h.exists_withStatus hc
      exact ⟨_, hc', hrest⟩
    · have hkey := hpaid.claimId e he
      rcases List.mem_append.mp he with he | he
      · obtain ⟨status, hclaim'⟩ := h.exists_withStatus hclaim
        exact ⟨_, hclaim', hkey.symm, hpaid.invoiceNumber e he, (hpaid.invoiceType e he).2⟩
      · obtain ⟨p, -, hreversal⟩ := hpaid.reversal e he
        exact absurd hreversal.invoiceType hkind
  · intro e he hkind
    have hold : ∀ {p}, p ∈ s.claimPaymentExtracts → p ∈ s'.claimPaymentExtracts := by
      intro p hp
      rw [h.claimPaymentExtracts]
      exact List.mem_append_left _ hp
    rw [h.claimPaymentExtracts, hrows] at he
    rcases List.mem_append.mp he with he | he
    · obtain ⟨bill, hbill, hkey, hfinal, poa, hpoa, happ, p, hp, hrest⟩ := hs.recoupments e he hkind
      obtain ⟨status, hbill'⟩ := h.exists_withStatus hbill
      obtain ⟨status', hpoa'⟩ := h.exists_withStatus hpoa
      exact ⟨_, hbill', hkey, hfinal, _, hpoa', happ, p, hold hp, hrest⟩
    · have hkey := hpaid.claimId e he
      rcases List.mem_append.mp he with he | he
      · exact absurd hkind (hpaid.invoiceType e he).1
      · obtain ⟨p, hp, hreversal⟩ := hpaid.reversal e he
        obtain ⟨htype, poa, hpoa, hpmem, hpkey⟩ := mem_recoupedExtracts.mp hp
        obtain ⟨hpoaMem, happ, -, hpoaType, -⟩ := mem_recoupablePoaClaims.mp hpoa
        have hline := hs.poaLine hpoaMem hpoaType hpmem hpkey
        obtain ⟨status, hclaim'⟩ := h.exists_withStatus hclaim
        obtain ⟨status', hpoa'⟩ := h.exists_withStatus hpoaMem
        have hfinal : claim.claimTypeId.isFinalBill = true := by
          cases hcases : claim.claimTypeId with
          | paymentOnAccount => exact absurd hcases htype
          | finalBill => rfl
          | nilBill => rfl
        exact ⟨_, hclaim', hkey.symm, hfinal, _, hpoa', happ, p, hold hpmem, hpkey, hline, hreversal⟩
  · rw [h.claimPaymentExtracts, List.map_append]
    exact hnumbers

theorem reject (hs : Ledger s) (hclaim : claim ∈ s.claims) (hstatus : claim.statusId = .submitted)
    {reasons : List (ReasonCode × Option String)}
    (h : Decided claim.claimId (.reject reasons) rows s s') (hconsistent : Consistent s') :
    Ledger s' := by
  have hnone : rows.extracts = [] := List.forall₂_nil_left_iff.mp h.record.extracts
  have hempty : PaidRows s claim [] [] :=
    ⟨fun _ he => (nomatch he), .nil _, fun _ he => (nomatch he), fun _ he => (nomatch he),
      fun _ he => (nomatch he)⟩
  refine hs.decide hclaim hstatus h hconsistent hnone hempty ?_
  rw [hnone, List.map_nil, List.append_nil]
  exact hs.invoiceNumbers

theorem pay (hs : Ledger s) (hclaim : claim ∈ s.claims) (hstatus : claim.statusId = .submitted)
    {own recouped : List PaymentExtractLine} (hpaid : PaidLines s claim own recouped)
    (h : Decided claim.claimId (.payInFull (own ++ recouped)) rows s s')
    (hconsistent : Consistent s') : Ledger s' := by
  obtain ⟨ownRows, recoupedRows, hrows, hpaidRows, -⟩ := hpaid.rows h.record.extracts
  refine hs.decide hclaim hstatus h hconsistent hrows hpaidRows ?_
  rw [map_invoiceNumber h.record.extracts]
  exact hs.invoiceNumbers_append hclaim hstatus hpaid

end Decisions

end Ledger

section Runs

variable {allowed : Store → Claim → Prop} {init s s' : Store}

theorem Transacts.ledger (h : Transacts allowed s s') (hs : Ledger s) : Ledger s' := by
  have hconsistent := h.consistent hs.consistent
  cases h with
  | submission claim applicationId row hbill h => exact hs.submit hbill h
  | note h => exact hs.note h
  | rejection claim reasons rows hclaim hstatus hreasons h =>
      exact hs.reject hclaim hstatus h hconsistent
  | autoApproval claim lines rows hclaim hstatus htype hbill hlines h =>
      rw [← List.append_nil lines] at h
      have hown := poaClaimPaymentExtractLines_ownLines htype hlines
      exact hs.pay hclaim hstatus (hown.paidLines htype) h hconsistent
  | payment claim decisionAmounts date lines rows hclaim hstatus hallowed hlines h =>
      obtain ⟨own, recouped, rfl, hpaid⟩ := paymentExtractLines_paidLines hlines
      exact hs.pay hclaim hstatus hpaid h hconsistent

/-- Every state a run commits is a ledger. -/
theorem CommittedState.ledger (h : CommittedState anyRequest init s) (hinit : Ledger init) :
    Ledger s :=
  (h.mono anyRequest_paymentsAllowed).invariant hinit fun _ _ hstep => hstep.ledger

end Runs

end InquestsApi
