import InquestsApi.PaymentExtractReport
import InquestsApi.ReportedClaims

/-! The payment extract report over the states that claim requests commit: its joins keep
every line of the window once, and every line can be classified. -/
namespace InquestsApi

/-- A row of a recoupment comes with the one line that it takes back, and with its claim. -/
structure TakesBack (s : Store) (row : PaymentExtractJoin) (original : ClaimPaymentExtract)
    (poa : Claim) (poaType : POAType) : Prop where
  originalExtract : row.originalExtract = some original
  originalClaim : row.originalClaim = some poa
  stored : original ∈ s.claimPaymentExtracts
  alone : ∀ other ∈ s.claimPaymentExtracts,
    other.invoiceNumber ++ "-R" = row.extract.invoiceNumber → other = original
  reversal : Reversal original row.extract
  claim : poa ∈ s.claims ∧ original.claimId = poa.claimId
  onAccount : poa.claimTypeId = .paymentOnAccount ∧ poa.applicationId = row.claim.applicationId
  poaType : poa.poaTypeId = some poaType ∧ row.line.lineType.originalPoaType = some poaType

/-- What the report makes of the lines that were created in its window. -/
structure ExtractsReported (s : Store) (createdFrom createdBefore : Datetime) : Prop where
  once : ((paymentExtractRows createdFrom createdBefore s).map (·.extract)).Perm
    (s.claimPaymentExtracts.filter fun e => e.createdAt.within createdFrom createdBefore)
  distinct : ((iterPaymentExtractReportLines createdFrom createdBefore s).map (·.invoiceNumber)).Nodup
  ordered : ((paymentExtractRows createdFrom createdBefore s).map (·.extract)).Pairwise
    ClaimPaymentExtract.inOrder
  classified : ∀ line ∈ iterPaymentExtractReportLines createdFrom createdBefore s,
    ∃ classification, classifyPaymentLine line.lineType = .ok classification
  original : ∀ row ∈ paymentExtractRows createdFrom createdBefore s,
    row.extract.invoiceType = .recouped → ∃ original poa poaType, TakesBack s row original poa poaType

section Rows

variable {s : Store} {e : ClaimPaymentExtract} {createdFrom createdBefore : Datetime}

/-- What the joins find for one line. -/
def reportPartners (s : Store) (e : ClaimPaymentExtract) : List PaymentExtractJoin :=
  (s.claims.filter fun c => e.claimId = c.claimId).flatMap fun c =>
    (s.applications.filter fun a => c.applicationId = a.applicationId).flatMap fun a =>
      (originalsOf s e).map fun original => ⟨e, c, a, original.1, original.2⟩

theorem originalsOf_other (hkind : e.invoiceType ≠ .recouped) : originalsOf s e = [(none, none)] := by
  have hnone : (s.claimPaymentExtracts.filter fun original =>
      e.invoiceType = .recouped ∧ original.invoiceNumber ++ "-R" = e.invoiceNumber) = [] := by
    apply List.filter_eq_nil_iff.mpr
    intro original _ horiginal
    exact hkind (of_decide_eq_true horiginal).1
  rw [originalsOf, hnone]
  simp [Join.outer]

/-- What the joins of the report rest on: keys and invoice numbers are unique, a line has its
claim, and a recoupment the line that it takes back. -/
structure JoinKeys (s : Store) : Prop where
  claimKeys : (s.claims.map (·.claimId)).Nodup
  claimOf : ∀ e ∈ s.claimPaymentExtracts, ∃ c ∈ s.claims, c.claimId = e.claimId
  numbers : (s.claimPaymentExtracts.map (·.invoiceNumber)).Nodup
  originalOf : ∀ e ∈ s.claimPaymentExtracts, e.invoiceType = .recouped →
    ∃ original ∈ s.claimPaymentExtracts, original.invoiceNumber ++ "-R" = e.invoiceNumber

theorem JoinKeys.original_eq (hs : JoinKeys s) {original other : ClaimPaymentExtract}
    (horiginal : original ∈ s.claimPaymentExtracts) (hother : other ∈ s.claimPaymentExtracts)
    (hnumber : original.invoiceNumber ++ "-R" = other.invoiceNumber ++ "-R") : original = other :=
  List.inj_on_of_nodup_map hs.numbers horiginal hother (reversal_injective hnumber)

/-- The line that a recoupment takes back is found, and its claim. -/
theorem JoinKeys.originalsOf_recouped (hs : JoinKeys s) (he : e ∈ s.claimPaymentExtracts)
    (hkind : e.invoiceType = .recouped) :
    ∃ original poa, originalsOf s e = [(some original, some poa)]
      ∧ original ∈ s.claimPaymentExtracts ∧ original.invoiceNumber ++ "-R" = e.invoiceNumber
      ∧ poa ∈ s.claims ∧ original.claimId = poa.claimId := by
  obtain ⟨original, horiginal, hnumber⟩ := hs.originalOf e he hkind
  obtain ⟨poa, hpoa, hkey⟩ := hs.claimOf original horiginal
  have hextracts : (s.claimPaymentExtracts.filter fun other =>
      e.invoiceType = .recouped ∧ other.invoiceNumber ++ "-R" = e.invoiceNumber) = [original] := by
    apply Join.filter_eq_singleton hs.numbers.of_map horiginal
    · exact ⟨hkind, hnumber⟩
    · exact fun other hother hmatch => hs.original_eq hother horiginal (hmatch.2.trans hnumber.symm)
  have hclaims : (s.claims.filter fun c => (some original).map (·.claimId) = some c.claimId) = [poa] := by
    rw [← claims_filter hs.claimKeys hpoa]
    simp only [Option.map_some, Option.some.injEq, hkey]
  refine ⟨original, poa, ?_, horiginal, hnumber, hpoa, hkey.symm⟩
  rw [originalsOf, hextracts]
  simp only [Join.outer, List.map_cons, List.map_nil, List.flatMap_cons, List.flatMap_nil,
    List.append_nil, hclaims]

theorem Ledger.joinKeys (hs : Ledger s) : JoinKeys s where
  claimKeys := hs.consistent.claimKeys
  claimOf := by
    intro e he
    obtain ⟨c, hc, hkey, -⟩ := hs.consistent.extractOf e he
    exact ⟨c, hc, hkey⟩
  numbers := hs.invoiceNumbers
  originalOf := by
    intro e he hkind
    obtain ⟨-, -, -, -, -, -, -, original, horiginal, -, -, hreversal⟩ := hs.recoupments e he hkind
    exact ⟨original, horiginal, hreversal.invoiceNumber.symm⟩

/-- What a recoupment takes back is a payment on account of the same application. -/
theorem Ledger.recouped_original (hs : Ledger s) (he : e ∈ s.claimPaymentExtracts)
    (hkind : e.invoiceType = .recouped) :
    ∃ original poa, originalsOf s e = [(some original, some poa)]
      ∧ original ∈ s.claimPaymentExtracts ∧ Reversal original e
      ∧ poa ∈ s.claims ∧ original.claimId = poa.claimId ∧ poa.claimTypeId = .paymentOnAccount
      ∧ ∃ bill ∈ s.claims, bill.claimId = e.claimId ∧ poa.applicationId = bill.applicationId := by
  obtain ⟨original, poa, horiginals, horiginal, hnumber, hpoa, hkey⟩ :=
    hs.joinKeys.originalsOf_recouped he hkind
  obtain ⟨bill, hbill, hbillKey, -, poa', hpoa', happlication, original', horiginal', hkey', htype,
    hreversal⟩ := hs.recoupments e he hkind
  have hsame : original' = original :=
    hs.joinKeys.original_eq horiginal' horiginal (hreversal.invoiceNumber.symm.trans hnumber.symm)
  subst hsame
  have hclaim : poa' = poa :=
    eq_of_claimId hs.consistent.claimKeys hpoa' hpoa (hkey'.symm.trans hkey)
  subst hclaim
  have honAccount : poa'.claimTypeId = .paymentOnAccount := by
    have hpayment : original'.invoiceType ≠ .recouped := by
      rw [htype]
      decide
    obtain ⟨c, hc, hcKey, -, hpays⟩ := hs.payments original' horiginal hpayment
    have hsame := eq_of_claimId hs.consistent.claimKeys hc hpoa (hcKey.trans hkey)
    exact hsame ▸ hpays.mp htype
  exact ⟨original', poa', horiginals, horiginal, hreversal, hpoa, hkey, honAccount, bill, hbill,
    hbillKey, happlication⟩

theorem classifyPoa_goes {poaType : Option POAType} {lineType : PaymentLineType}
    (h : poaType ≠ none) : ∃ classification, classifyPoa poaType lineType = .ok classification := by
  cases poaType with
  | none => exact absurd rfl h
  | some kind => cases kind <;> exact ⟨_, rfl⟩

/-- The one row of a line: it can be classified, and it knows what it takes back. -/
theorem StoredCases.reportRow (hs : StoredCases s) (he : e ∈ s.claimPaymentExtracts) :
    ∃ row, reportPartners s e = [row] ∧ row.extract = e
      ∧ (∃ classification, classifyPaymentLine row.lineType = .ok classification)
      ∧ (e.invoiceType = .recouped → ∃ original poa poaType, TakesBack s row original poa poaType) := by
  obtain ⟨c, d, a, hrows⟩ := hs.lineRows he
  obtain ⟨hc, hclaim⟩ := hrows.claim_mem
  have hpartners : ∀ {original poa}, originalsOf s e = [(original, poa)] →
      reportPartners s e = [⟨e, c, a, original, poa⟩] := by
    intro original poa horiginals
    rw [reportPartners, hrows.claims, List.flatMap_singleton, hrows.applications,
      List.flatMap_singleton, horiginals, List.map_singleton]
  by_cases hkind : e.invoiceType = .recouped
  · obtain ⟨original, poa, horiginals, hstored, hreversal, hpoa, hkey, honAccount, bill, hbill,
      hbillKey, happlication⟩ := hs.ledger.recouped_original he hkind
    have halone : ∀ other ∈ s.claimPaymentExtracts,
        other.invoiceNumber ++ "-R" = e.invoiceNumber → other = original := by
      intro other hother hnumber
      exact hs.ledger.joinKeys.original_eq hother hstored (hnumber.trans hreversal.invoiceNumber)
    have hsame : bill = c :=
      eq_of_claimId hs.ledger.consistent.claimKeys hbill hc (hbillKey.trans hclaim)
    obtain ⟨poaType, hpoaType⟩ := Option.ne_none_iff_exists'.mp ((hs.onFile poa hpoa).poaType honAccount)
    refine ⟨_, hpartners horiginals, rfl, ?_, fun _ => ⟨original, poa, poaType, ?_⟩⟩
    · simp only [classifyPaymentLine, PaymentExtractJoin.lineType, hkind, Option.bind_some]
      exact classifyPoa_goes (hpoaType ▸ Option.some_ne_none poaType)
    · exact ⟨rfl, rfl, hstored, halone, hreversal, ⟨hpoa, hkey⟩, ⟨honAccount, hsame ▸ happlication⟩,
        hpoaType, hpoaType⟩
  · refine ⟨_, hpartners (originalsOf_other hkind), rfl, ?_, fun hrecouped => absurd hrecouped hkind⟩
    simp only [classifyPaymentLine, PaymentExtractJoin.lineType]
    cases htype : e.invoiceType with
    | finalBillFees => exact ⟨_, rfl⟩
    | finalBillDisbursement => exact ⟨_, rfl⟩
    | recouped => exact absurd htype hkind
    | poa =>
        obtain ⟨c', hc', hkey', -, hpays⟩ := hs.ledger.payments e he hkind
        have hsame := eq_of_claimId hs.ledger.consistent.claimKeys hc' hc (hkey'.trans hclaim)
        exact classifyPoa_goes ((hs.onFile c hc).poaType (hsame ▸ hpays.mp htype))

theorem paymentExtractReportStatement_eq : paymentExtractReportStatement createdFrom createdBefore s
    = (s.claimPaymentExtracts.filter fun e => e.createdAt.within createdFrom createdBefore).flatMap
      (reportPartners s) := rfl

theorem StoredCases.statement_extracts (hs : StoredCases s) :
    (paymentExtractReportStatement createdFrom createdBefore s).map (·.extract)
      = s.claimPaymentExtracts.filter fun e => e.createdAt.within createdFrom createdBefore := by
  rw [paymentExtractReportStatement_eq]
  apply Join.flatMap_eq_self
  intro e he
  obtain ⟨row, hpartners, hextract, -⟩ := hs.reportRow (List.mem_of_mem_filter he)
  exact ⟨row, hpartners, hextract⟩

theorem mem_paymentExtractRows {row : PaymentExtractJoin} :
    row ∈ paymentExtractRows createdFrom createdBefore s ↔
      row ∈ paymentExtractReportStatement createdFrom createdBefore s := List.mem_insertionSort _

/-- A row of the report is the one row of its line. -/
theorem StoredCases.of_mem_rows (hs : StoredCases s) {row : PaymentExtractJoin}
    (h : row ∈ paymentExtractRows createdFrom createdBefore s) :
    (∃ classification, classifyPaymentLine row.lineType = .ok classification)
      ∧ (row.extract.invoiceType = .recouped →
        ∃ original poa poaType, TakesBack s row original poa poaType) := by
  rw [mem_paymentExtractRows, paymentExtractReportStatement_eq, List.mem_flatMap] at h
  obtain ⟨e, he, hrow⟩ := h
  obtain ⟨row', hpartners, rfl, hclassified, horiginal⟩ := hs.reportRow (List.mem_of_mem_filter he)
  rw [hpartners, List.mem_singleton] at hrow
  subst hrow
  exact ⟨hclassified, horiginal⟩

instance : Std.Total fun a b : PaymentExtractJoin => a.extract.inOrder b.extract where
  total a b := by
    unfold ClaimPaymentExtract.inOrder
    omega

instance : IsTrans PaymentExtractJoin fun a b => a.extract.inOrder b.extract where
  trans a b c hab hbc := by
    unfold ClaimPaymentExtract.inOrder at *
    omega

theorem StoredCases.extractsReported (hs : StoredCases s) (createdFrom createdBefore : Datetime) :
    ExtractsReported s createdFrom createdBefore where
  once := by
    rw [← hs.statement_extracts]
    exact (List.perm_insertionSort _ _).map _
  distinct := by
    have hperm : ((iterPaymentExtractReportLines createdFrom createdBefore s).map
        (·.invoiceNumber)).Perm ((s.claimPaymentExtracts.filter fun e =>
          e.createdAt.within createdFrom createdBefore).map (·.invoiceNumber)) := by
      rw [← hs.statement_extracts, iterPaymentExtractReportLines, List.map_map, List.map_map]
      exact (List.perm_insertionSort _ _).map _
    rw [hperm.nodup_iff]
    exact hs.ledger.invoiceNumbers.sublist (List.filter_sublist.map _)
  ordered := by
    rw [List.pairwise_map]
    exact List.pairwise_insertionSort _ _
  classified := by
    intro line hline
    obtain ⟨row, hrow, rfl⟩ := List.mem_map.mp hline
    exact (hs.of_mem_rows hrow).1
  original := fun row hrow => (hs.of_mem_rows hrow).2

end Rows

/-- The payment extract report drops no line, repeats none, and can classify each. -/
theorem extracts_always_reported (applications : List Application) (evidence : List ClaimEvidence)
    (events : List HistoryEvent) {s : Store} (createdFrom createdBefore : Datetime)
    (hkeys : (applications.map (·.applicationId)).Nodup)
    (h : CommittedState anyRequest (.initial applications evidence events) s) :
    ExtractsReported s createdFrom createdBefore :=
  (h.storedCases hkeys).extractsReported createdFrom createdBefore

/-- A payment on account, and the bill that takes it back. -/
theorem extracts_always_reported_recoupingRun :
    (iterPaymentExtractReportLines ⟨Sample.date, 0⟩ ⟨Sample.date, 1⟩
        (afterAll Sample.store Sample.recoupingRun)).map (fun line =>
          (line.invoiceNumber, line.lineType.originalPoaType))
      = [("INQC-AAAA-CCCC_001", none), ("INQC-AAAA-CCCC_002", none), ("INQC-AAAA-EFFF_001", none),
        ("INQC-AAAA-CCCC_001-R", some .expertCost), ("INQC-AAAA-CCCC_002-R", some .expertCost)]
      ∧ ExtractsReported (afterAll Sample.store Sample.recoupingRun) ⟨Sample.date, 0⟩
        ⟨Sample.date, 1⟩ := by
  constructor
  · decide +kernel
  · apply extracts_always_reported [Sample.application] [] [] _ _ (by decide)
    exact ⟨_, reachable_afterAll .start fun _ _ _ => trivial, .inl rfl⟩

end InquestsApi
