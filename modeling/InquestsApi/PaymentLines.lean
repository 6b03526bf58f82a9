import InquestsApi.ClaimTransactions

/-! What the payment extract lines of a claim are: how they are numbered, which lines they
take back, and what they add up to. Every builder rounds to whole pence, so storing a
line loses nothing. -/
namespace InquestsApi

open PayInFullClaimUseCase

/-- The sum of the amounts of some lines. -/
def linesTotal (lines : List PaymentExtractLine) : Decimal :=
  (lines.map (·.invoiceAmount)).sum

/-- The sum of the amounts of some stored lines. -/
def invoiced (rows : List ClaimPaymentExtract) : Decimal :=
  (rows.map (·.invoiceAmount.value)).sum

section Totals

@[simp] theorem linesTotal_nil : linesTotal [] = 0 := rfl

@[simp] theorem linesTotal_cons (line : PaymentExtractLine) (rest : List PaymentExtractLine) :
    linesTotal (line :: rest) = line.invoiceAmount + linesTotal rest := List.sum_cons

@[simp] theorem linesTotal_append (lines rest : List PaymentExtractLine) :
    linesTotal (lines ++ rest) = linesTotal lines + linesTotal rest := by
  simp only [linesTotal, List.map_append, List.sum_append]

@[simp] theorem invoiced_nil : invoiced [] = 0 := rfl

@[simp] theorem invoiced_cons (row : ClaimPaymentExtract) (rest : List ClaimPaymentExtract) :
    invoiced (row :: rest) = row.invoiceAmount.value + invoiced rest := List.sum_cons

@[simp] theorem invoiced_append (rows rest : List ClaimPaymentExtract) :
    invoiced (rows ++ rest) = invoiced rows + invoiced rest := by
  simp only [invoiced, List.map_append, List.sum_append]

/-- Lines of whole pence are stored as they are. -/
theorem invoiced_eq_linesTotal {claimId : ℕ} {lines : List PaymentExtractLine}
    {rows : List ClaimPaymentExtract} (h : List.Forall₂ (ExtractRow claimId) lines rows)
    (hpence : ∀ line ∈ lines, WholePence line.invoiceAmount) : invoiced rows = linesTotal lines := by
  induction h with
  | nil => rfl
  | cons hrow _ ih =>
      rw [List.forall_mem_cons] at hpence
      have hvalue := Amount.value_of_wholePence hpence.1 hrow.invoiceAmount
      rw [invoiced_cons, linesTotal_cons, hvalue, ih hpence.2]

end Totals

section WholePence

variable {claimReference : String} {date : Date} {sequence : ℕ}

theorem disbursementAmounts_wholePence (gross vatZeroAmount : Option Decimal) :
    ∀ amount ∈ disbursementAmounts gross vatZeroAmount, WholePence amount.1 := by
  intro amount hamount
  unfold disbursementAmounts at hamount
  rcases List.mem_append.mp hamount with h | h
  · split at h
    · rw [List.mem_singleton.mp h]
      exact bankersRound_wholePence _
    · cases h
  · obtain ⟨v, -, rfl⟩ := List.mem_map.mp h
    exact bankersRound_wholePence v

theorem numberedLines_wholePence {invoiceType : InvoiceTypeCode} {amounts : List (Decimal × TaxCode)}
    (h : ∀ amount ∈ amounts, WholePence amount.1) :
    ∀ line ∈ numberedLines claimReference date invoiceType sequence amounts,
      WholePence line.invoiceAmount := by
  induction amounts generalizing sequence with
  | nil => exact fun line hline => nomatch hline
  | cons amount rest ih =>
      rw [List.forall_mem_cons] at h
      intro line hline
      rcases List.mem_cons.mp hline with rfl | hline
      · exact h.1
      · exact ih h.2 line hline

theorem linesTotal_numberedLines (invoiceType : InvoiceTypeCode)
    (amounts : List (Decimal × TaxCode)) :
    linesTotal (numberedLines claimReference date invoiceType sequence amounts)
      = (amounts.map (·.1)).sum := by
  induction amounts generalizing sequence with
  | nil => rfl
  | cons amount rest ih =>
      simp only [numberedLines, linesTotal_cons, ih, List.map_cons, List.sum_cons]

theorem poaClaimPaymentExtractLines_wholePence {claim : Claim} {decisionAmounts : PayInFullClaim}
    {lines : List PaymentExtractLine}
    (h : poaClaimPaymentExtractLines claim decisionAmounts = some lines) :
    ∀ line ∈ lines, WholePence line.invoiceAmount := by
  unfold poaClaimPaymentExtractLines at h
  split at h
  · obtain ⟨built, hbuilt, rfl⟩ := Option.map_eq_some_iff.mp h
    intro line hline
    obtain rfl := List.mem_singleton.mp hline
    unfold buildPoaProfitCostExtract at hbuilt
    split at hbuilt <;> cases hbuilt <;> exact bankersRound_wholePence _
  all_goals cases h
  · exact numberedLines_wholePence (disbursementAmounts_wholePence _ _)
  · exact numberedLines_wholePence (disbursementAmounts_wholePence _ _)
  · exact fun line hline => nomatch hline

end WholePence

/-- Consecutive numbers from a first one on. -/
def NumberedFrom (first : ℕ) (numbers : List ℕ) : Prop := numbers = List.range' first numbers.length

/-- The lines that paying a bill takes back: those of the paid Payment on account claims of
its application, claim by claim. -/
def recoupedExtracts (claim : Claim) (s : Store) : List ClaimPaymentExtract :=
  if claim.claimTypeId = .paymentOnAccount then []
  else (recoupablePoaClaims claim.applicationId claim.claimId s).flatMap fun c =>
    s.getPaymentExtractsByClaimId c.claimId

/-- A line that takes back an earlier one. -/
structure Reverses (original : ClaimPaymentExtract) (line : PaymentExtractLine) : Prop where
  invoiceType : line.invoiceType = .recouped
  invoiceNumber : line.invoiceNumber = original.invoiceNumber ++ "-R"
  invoiceAmount : line.invoiceAmount = -original.invoiceAmount.value
  taxCode : line.taxCode = original.taxCode

/-- The lines that pay a claim, before anything is taken back. -/
structure OwnLines (claim : Claim) (own : List PaymentExtractLine) : Prop where
  sequence : NumberedFrom 1 (own.map (·.sequenceNumber))
  invoiceNumber : ∀ line ∈ own,
    line.invoiceNumber = invoiceNumberOf claim.claimReference line.sequenceNumber
  invoiceType : ∀ line ∈ own, line.invoiceType ≠ .recouped
    ∧ (line.invoiceType = .poa ↔ claim.claimTypeId = .paymentOnAccount)

/-- The lines of a payment: first those that pay the claim, then those that take back
earlier payments, numbered from one. -/
structure PaidLines (s : Store) (claim : Claim) (own recouped : List PaymentExtractLine) : Prop where
  ownLines : OwnLines claim own
  sequence : NumberedFrom 1 ((own ++ recouped).map (·.sequenceNumber))
  reverses : List.Forall₂ Reverses (recoupedExtracts claim s) recouped

section Numbering

variable {claimReference : String} {date : Date} {sequence : ℕ} {invoiceType : InvoiceTypeCode}

theorem NumberedFrom.nil (first : ℕ) : NumberedFrom first [] := rfl

theorem NumberedFrom.cons {first : ℕ} {rest : List ℕ} (h : NumberedFrom (first + 1) rest) :
    NumberedFrom first (first :: rest) := by
  unfold NumberedFrom
  rw [List.length_cons, List.range'_succ]
  exact congrArg _ h

/-- Numbering on where a list ends numbers the whole. -/
theorem NumberedFrom.append {first : ℕ} {numbers rest : List ℕ} (h : NumberedFrom first numbers)
    (hrest : NumberedFrom (first + numbers.length) rest) : NumberedFrom first (numbers ++ rest) := by
  unfold NumberedFrom at h hrest ⊢
  rw [List.length_append, ← List.range'_append_1, ← h, ← hrest]

theorem numberedLines_sequence (amounts : List (Decimal × TaxCode)) :
    NumberedFrom sequence ((numberedLines claimReference date invoiceType sequence amounts).map
      (·.sequenceNumber)) := by
  induction amounts generalizing sequence with
  | nil => exact .nil _
  | cons amount rest ih => exact .cons ih

theorem mem_numberedLines {amounts : List (Decimal × TaxCode)} {line : PaymentExtractLine}
    (h : line ∈ numberedLines claimReference date invoiceType sequence amounts) :
    line.invoiceType = invoiceType
      ∧ line.invoiceNumber = invoiceNumberOf claimReference line.sequenceNumber := by
  induction amounts generalizing sequence with
  | nil => cases h
  | cons amount rest ih =>
      rcases List.mem_cons.mp h with rfl | h
      · exact ⟨rfl, rfl⟩
      · exact ih h

theorem buildRecoupmentExtract_sequence (sources : List RecoupmentSourceLine) :
    NumberedFrom sequence ((buildRecoupmentExtract sequence date sources).map (·.sequenceNumber)) := by
  induction sources generalizing sequence with
  | nil => exact .nil _
  | cons original rest ih => exact .cons ih

theorem buildRecoupmentExtract_reverses (originals : List ClaimPaymentExtract) :
    List.Forall₂ Reverses originals
      (buildRecoupmentExtract sequence date (originals.map recoupmentSource)) := by
  induction originals generalizing sequence with
  | nil => exact .nil
  | cons original rest ih =>
      refine .cons ⟨rfl, rfl, ?_, rfl⟩ ih
      exact original.invoiceAmount.bankersRound_neg_value

/-- The recoupments are numbered on from claim to claim. -/
theorem recoupmentLinesOf_sequence (s : Store) (claims : List Claim) :
    NumberedFrom sequence ((recoupmentLinesOf date s sequence claims).map (·.sequenceNumber)) := by
  induction claims generalizing sequence with
  | nil => exact .nil _
  | cons c rest ih =>
      rw [recoupmentLinesOf, List.map_append]
      refine (buildRecoupmentExtract_sequence _).append ?_
      rw [List.length_map]
      exact ih

theorem recoupmentLinesOf_reverses (s : Store) (claims : List Claim) :
    List.Forall₂ Reverses (claims.flatMap fun c => s.getPaymentExtractsByClaimId c.claimId)
      (recoupmentLinesOf date s sequence claims) := by
  induction claims generalizing sequence with
  | nil => exact .nil
  | cons c rest ih =>
      rw [List.flatMap_cons, recoupmentLinesOf]
      exact List.rel_append (buildRecoupmentExtract_reverses _) ih

end Numbering

section Lines

variable {claim : Claim} {decisionAmounts : PayInFullClaim} {lines : List PaymentExtractLine}

theorem poaClaimPaymentExtractLines_ownLines (htype : claim.claimTypeId = .paymentOnAccount)
    (h : poaClaimPaymentExtractLines claim decisionAmounts = some lines) :
    OwnLines claim lines := by
  have hdisbursement : ∀ gross vatZero, OwnLines claim
      (buildPoaDisbursementExtract claim.claimReference claim.submissionDate gross vatZero) := by
    intro gross vatZero
    refine ⟨numberedLines_sequence _, fun line hline => (mem_numberedLines hline).2, ?_⟩
    intro line hline
    rw [(mem_numberedLines hline).1]
    exact ⟨by decide, iff_of_true rfl htype⟩
  unfold poaClaimPaymentExtractLines at h
  split at h
  · obtain ⟨built, hbuilt, rfl⟩ := Option.map_eq_some_iff.mp h
    have hline : built.sequenceNumber = 1 ∧ built.invoiceType = .poa
        ∧ built.invoiceNumber = invoiceNumberOf claim.claimReference 1 := by
      unfold buildPoaProfitCostExtract at hbuilt
      split at hbuilt <;> cases hbuilt <;> exact ⟨rfl, rfl, rfl⟩
    obtain ⟨hsequence, hpoa, hnumber⟩ := hline
    refine ⟨?_, ?_, ?_⟩
    · rw [List.map_singleton, hsequence]
      exact .cons (.nil _)
    · intro line hline
      rw [List.mem_singleton.mp hline, hsequence, hnumber]
    · intro line hline
      rw [List.mem_singleton.mp hline, hpoa]
      exact ⟨by decide, iff_of_true rfl htype⟩
  · cases h
    exact hdisbursement _ _
  · cases h
    exact hdisbursement _ _
  · cases h
    exact ⟨.nil _, fun _ hline => (nomatch hline), fun _ hline => (nomatch hline)⟩

/-- A payment on account takes nothing back. -/
theorem OwnLines.paidLines {s : Store} (h : OwnLines claim lines)
    (htype : claim.claimTypeId = .paymentOnAccount) : PaidLines s claim lines [] := by
  refine ⟨h, ?_, ?_⟩
  · rw [List.append_nil]
    exact h.sequence
  · rw [recoupedExtracts, if_pos htype]
    exact .nil

/-- The one fees line of a bill, when it has one. -/
theorem buildFinalBillFeesExtract_ownLines (htype : claim.claimTypeId ≠ .paymentOnAccount)
    (date : Date) (gross vatZeroAmount : Option Decimal) :
    OwnLines claim (buildFinalBillFeesExtract claim.claimReference 1 date gross vatZeroAmount).toList := by
  have hline : ∀ line, buildFinalBillFeesExtract claim.claimReference 1 date gross vatZeroAmount
      = some line → line.sequenceNumber = 1 ∧ line.invoiceType = .finalBillFees
        ∧ line.invoiceNumber = invoiceNumberOf claim.claimReference 1 := by
    intro line h
    unfold buildFinalBillFeesExtract at h
    split at h <;> cases h <;> exact ⟨rfl, rfl, rfl⟩
  cases hbuilt : buildFinalBillFeesExtract claim.claimReference 1 date gross vatZeroAmount with
  | none => exact ⟨.nil _, fun _ h => (nomatch h), fun _ h => (nomatch h)⟩
  | some line =>
      obtain ⟨hsequence, hfees, hnumber⟩ := hline line hbuilt
      refine ⟨?_, ?_, ?_⟩
      · rw [Option.toList_some, List.map_singleton, hsequence]
        exact .cons (.nil _)
      · intro l hl
        rw [List.mem_singleton.mp hl, hsequence, hnumber]
      · intro l hl
        rw [List.mem_singleton.mp hl, hfees]
        exact ⟨by decide, iff_of_false (by decide) htype⟩

theorem finalOrNilBillPaymentExtractLines_ownLines (htype : claim.claimTypeId ≠ .paymentOnAccount) :
    OwnLines claim (finalOrNilBillPaymentExtractLines claim decisionAmounts) := by
  unfold finalOrNilBillPaymentExtractLines
  split
  · refine ⟨.cons (.nil _), ?_, ?_⟩
    · intro line hline
      rw [List.mem_singleton.mp hline]
      rfl
    · intro line hline
      rw [List.mem_singleton.mp hline]
      change InvoiceTypeCode.finalBillFees ≠ .recouped ∧ (InvoiceTypeCode.finalBillFees = .poa ↔ _)
      exact ⟨by decide, iff_of_false (by decide) htype⟩
  · have hfees := buildFinalBillFeesExtract_ownLines htype claim.submissionDate.date
      decisionAmounts.profitCostGross decisionAmounts.profitCostVatZero
    refine ⟨?_, ?_, ?_⟩
    · rw [List.map_append]
      refine hfees.sequence.append ?_
      rw [List.length_map, Nat.add_comm 1]
      exact numberedLines_sequence _
    · intro line hline
      rcases List.mem_append.mp hline with h | h
      · exact hfees.invoiceNumber line h
      · exact (mem_numberedLines h).2
    · intro line hline
      rcases List.mem_append.mp hline with h | h
      · exact hfees.invoiceType line h
      · rw [(mem_numberedLines h).1]
        exact ⟨by decide, iff_of_false (by decide) htype⟩

theorem paymentExtractLines_paidLines {s : Store} {date : Date}
    (h : paymentExtractLines claim decisionAmounts claim.applicationId date s = some lines) :
    ∃ own recouped, lines = own ++ recouped ∧ PaidLines s claim own recouped := by
  unfold paymentExtractLines at h
  by_cases htype : claim.claimTypeId = .paymentOnAccount
  · rw [if_pos htype] at h
    have hown := poaClaimPaymentExtractLines_ownLines htype h
    exact ⟨lines, [], (List.append_nil lines).symm, hown.paidLines htype⟩
  · rw [if_neg htype] at h
    cases h
    have hown : OwnLines claim (finalOrNilBillPaymentExtractLines claim decisionAmounts) :=
      finalOrNilBillPaymentExtractLines_ownLines htype
    refine ⟨_, _, rfl, hown, ?_, ?_⟩
    · rw [List.map_append]
      refine hown.sequence.append ?_
      rw [List.length_map, Nat.add_comm 1]
      exact recoupmentLinesOf_sequence s _
    · rw [recoupedExtracts, if_neg htype]
      exact recoupmentLinesOf_reverses s _

end Lines

end InquestsApi
