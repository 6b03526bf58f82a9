import InquestsApi.Lib.Tiling
import InquestsApi.OgdCostsReport
import InquestsApi.ReportedClaims

/-! OGD costs reports over adjacent windows: a payment line is in one of them, once. -/
namespace InquestsApi

open Tiling

/-- The claim of the line was paid in full within the window. -/
def PaidWithin (s : Store) (decidedFrom decidedBefore : Datetime) (e : ClaimPaymentExtract) : Prop :=
  ∃ d ∈ s.claimDecisions, d.claimId = e.claimId ∧ d.decision = .payInFull
    ∧ d.createdAt.within decidedFrom decidedBefore = true

instance (s : Store) (decidedFrom decidedBefore : Datetime) :
    DecidablePred (PaidWithin s decidedFrom decidedBefore) :=
  fun _ => inferInstanceAs (Decidable (∃ d ∈ s.claimDecisions, _))

/-- A line of the report shows this payment line, under the bill type of its claim. -/
structure ShowsExtract (s : Store) (e : ClaimPaymentExtract) (line : OgdCostsReportSourceLine) :
    Prop where
  invoiceNumber : line.invoiceNumber = e.invoiceNumber
  invoiceAmount : line.invoiceAmount = e.invoiceAmount.value
  taxCode : line.taxCode = e.taxCode
  billType : ∃ c ∈ s.claims, c.claimId = e.claimId ∧ resolveBillType line =
    if e.invoiceType = .recouped then "POA" else billTypeLabel c.claimTypeId

/-- What reports over these windows show of the payment lines between the outer bounds. -/
structure TiledReports (s : Store) (windows : List (Datetime × Datetime))
    (decidedFrom decidedBefore : Datetime) : Prop where
  once : ∀ e ∈ s.claimPaymentExtracts, PaidWithin s decidedFrom decidedBefore e →
    (windows.map fun w => (iterOgdCostsReportLines w.1 w.2 s).countP fun line =>
      line.invoiceNumber = e.invoiceNumber).sum = 1
  shown : ∀ w ∈ windows, ∀ line ∈ iterOgdCostsReportLines w.1 w.2 s,
    ∃ e ∈ s.claimPaymentExtracts, PaidWithin s w.1 w.2 e ∧ ShowsExtract s e line
  amounts : (windows.map fun w => ((iterOgdCostsReportLines w.1 w.2 s).map (·.invoiceAmount)).sum).sum
    = ((s.claimPaymentExtracts.filter (PaidWithin s decidedFrom decidedBefore)).map
        (·.invoiceAmount.value)).sum
  labelled : ∀ w ∈ windows, ∀ line ∈ iterOgdCostsReportLines w.1 w.2 s,
    ∀ publicBodies e, buildOgdCostsRow line publicBodies = .error e →
      e = .invalidOgdCostsRecord "Date of death is not a valid YYYY-MM-DD date"

section Window

variable {s : Store} {e : ClaimPaymentExtract} {c : Claim} {d : ClaimDecision} {a : Application}
variable {decidedFrom decidedBefore : Datetime}

/-- When the claim of a line was decided. -/
def decidedAt (s : Store) (e : ClaimPaymentExtract) : ℤ :=
  match s.decisionsOf e.claimId with
  | [] => 0
  | d :: _ => d.createdAt.instant

theorem LineRows.decidedAt (h : LineRows s e c d a) : decidedAt s e = d.createdAt.instant := by
  have hdecisions : s.decisionsOf e.claimId = [d] := by
    rw [h.claim_mem.2]
    exact h.decisions
  rw [InquestsApi.decidedAt, hdecisions]

theorem within_iff {t : Datetime} : t.within decidedFrom decidedBefore = true ↔
    Within (decidedFrom.instant, decidedBefore.instant) t.instant := by
  simp only [Datetime.within, Within, Bool.and_eq_true, decide_eq_true_eq]

theorem LineRows.paidWithin_iff (h : LineRows s e c d a) :
    PaidWithin s decidedFrom decidedBefore e ↔ d.createdAt.within decidedFrom decidedBefore = true := by
  constructor
  · rintro ⟨d', hd', hclaim, -, hwithin⟩
    have hmem : d' ∈ s.decisionsOf c.claimId := by
      rw [Store.decisionsOf, List.mem_filter, decide_eq_true_eq]
      exact ⟨hd', hclaim.trans h.claim_mem.2⟩
    rw [h.decisions, List.mem_singleton] at hmem
    exact hmem ▸ hwithin
  · intro hwithin
    obtain ⟨hd, hclaim⟩ := h.decision_mem
    exact ⟨d, hd, hclaim.trans h.claim_mem.2.symm, h.decision, hwithin⟩

/-- The decisions that the report finds for a line. -/
theorem LineRows.decisions_filter (h : LineRows s e c d a) :
    (s.claimDecisions.filter fun d' => d'.claimId = c.claimId && d'.decision = .payInFull
        && d'.createdAt.within decidedFrom decidedBefore)
      = if PaidWithin s decidedFrom decidedBefore e then [d] else [] := by
  have hsplit : (s.claimDecisions.filter fun d' => d'.claimId = c.claimId && d'.decision = .payInFull
        && d'.createdAt.within decidedFrom decidedBefore)
      = (s.decisionsOf c.claimId).filter fun d' => d'.decision = .payInFull
        && d'.createdAt.within decidedFrom decidedBefore := by
    rw [Store.decisionsOf, List.filter_filter]
    apply List.filter_congr
    intro d' _
    rw [Bool.and_assoc, Bool.and_comm]
  rw [hsplit, h.decisions, if_congr h.paidWithin_iff rfl rfl]
  simp [List.filter_singleton, h.decision]

/-- A report keeps each line of its window once. -/
theorem ogdCostsStatement_extracts (hs : StoredCases s) :
    (ogdCostsStatement decidedFrom decidedBefore s).map (·.extract)
      = s.claimPaymentExtracts.filter (PaidWithin s decidedFrom decidedBefore) := by
  unfold ogdCostsStatement
  apply Join.flatMap_eq_map_filter
  · intro e he hpaid
    obtain ⟨c, d, a, hrows⟩ := hs.lineRows he
    refine ⟨⟨e, c, d, a⟩, ?_, rfl⟩
    rw [hrows.claims, List.flatMap_singleton, hrows.decisions_filter, if_pos hpaid,
      List.flatMap_singleton, hrows.applications, List.map_singleton]
  · intro e he hpaid
    obtain ⟨c, d, a, hrows⟩ := hs.lineRows he
    rw [hrows.claims, List.flatMap_singleton, hrows.decisions_filter, if_neg hpaid, List.flatMap_nil]

theorem ogdCostsRows_extracts (hs : StoredCases s) :
    ((ogdCostsRows decidedFrom decidedBefore s).map (·.extract)).Perm
      (s.claimPaymentExtracts.filter (PaidWithin s decidedFrom decidedBefore)) := by
  rw [← ogdCostsStatement_extracts hs]
  exact (List.perm_insertionSort _ _).map _

theorem mem_ogdCostsRows {row : OgdCostsJoin} :
    row ∈ ogdCostsRows decidedFrom decidedBefore s ↔ row ∈ ogdCostsStatement decidedFrom decidedBefore s :=
  List.mem_insertionSort _

theorem OgdCostsJoin.line_billType (row : OgdCostsJoin) : resolveBillType row.line =
    if row.extract.invoiceType = .recouped then "POA" else billTypeLabel row.claim.claimTypeId := rfl

end Window

section Windows

variable {s : Store} {decidedFrom decidedBefore : Datetime} {windows : List (Datetime × Datetime)}

/-- The windows of the reports, as instants. -/
def instants (windows : List (Datetime × Datetime)) : List (ℤ × ℤ) :=
  windows.map fun w => (w.1.instant, w.2.instant)

/-- What is paid within a window was decided in it. -/
theorem filter_paidWithin (hs : StoredCases s) (decidedFrom decidedBefore : Datetime) :
    s.claimPaymentExtracts.filter (PaidWithin s decidedFrom decidedBefore)
      = s.claimPaymentExtracts.filter fun e =>
          Within (decidedFrom.instant, decidedBefore.instant) (decidedAt s e) := by
  apply List.filter_congr
  intro e he
  obtain ⟨c, d, a, hrows⟩ := hs.lineRows he
  rw [decide_eq_decide, hrows.paidWithin_iff, within_iff, hrows.decidedAt]

/-- The reports of the windows together show the lines between the outer bounds. -/
theorem tiled_extracts (hs : StoredCases s)
    (hwindows : Tiles decidedFrom.instant (instants windows) decidedBefore.instant) :
    (windows.flatMap fun w => (ogdCostsRows w.1 w.2 s).map (·.extract)).Perm
      (s.claimPaymentExtracts.filter (PaidWithin s decidedFrom decidedBefore)) := by
  rw [filter_paidWithin hs]
  refine List.Perm.trans ?_ (hwindows.perm (decidedAt s) s.claimPaymentExtracts)
  rw [instants, List.flatMap_map]
  apply List.Perm.flatMap_left
  intro w _
  rw [← filter_paidWithin hs]
  exact ogdCostsRows_extracts hs

theorem sum_flatMap {α β : Type} {M : Type} [AddCommMonoid M] (as : List α) (f : α → List β)
    (g : β → M) : (as.map fun a => ((f a).map g).sum).sum = ((as.flatMap f).map g).sum := by
  induction as with
  | nil => rfl
  | cons a rest ih =>
      rw [List.map_cons, List.sum_cons, ih, List.flatMap_cons, List.map_append, List.sum_append]

theorem StoredCases.tiledReports (hs : StoredCases s)
    (hwindows : Tiles decidedFrom.instant (instants windows) decidedBefore.instant) :
    TiledReports s windows decidedFrom decidedBefore where
  once := by
    intro e he hpaid
    have hcount : ∀ w ∈ windows, (iterOgdCostsReportLines w.1 w.2 s).countP (fun line =>
          line.invoiceNumber = e.invoiceNumber)
        = ((ogdCostsRows w.1 w.2 s).map (·.extract)).countP fun e' =>
          e'.invoiceNumber = e.invoiceNumber := by
      intro w _
      rw [iterOgdCostsReportLines, List.countP_map, List.countP_map]
      rfl
    rw [List.map_congr_left hcount]
    have hflat := List.countP_flatMap (p := fun e' : ClaimPaymentExtract =>
      e'.invoiceNumber = e.invoiceNumber) (l := windows)
      (f := fun w => (ogdCostsRows w.1 w.2 s).map (·.extract))
    have hnumbers : ((s.claimPaymentExtracts.filter (PaidWithin s decidedFrom decidedBefore)).map
        (·.invoiceNumber)).Nodup := hs.ledger.invoiceNumbers.sublist (List.filter_sublist.map _)
    have hmem : e ∈ s.claimPaymentExtracts.filter (PaidWithin s decidedFrom decidedBefore) :=
      List.mem_filter.mpr ⟨he, decide_eq_true hpaid⟩
    rw [← Function.comp_def, ← hflat, (tiled_extracts hs hwindows).countP_eq,
      List.countP_eq_length_filter, Join.filter_key_eq_singleton hnumbers hmem, List.length_singleton]
  shown := by
    intro w hw line hline
    obtain ⟨row, hrow, rfl⟩ := List.mem_map.mp hline
    obtain ⟨he, hc, hd, -, hec, hdc, hpaid, hwithin, -⟩ :=
      mem_ogdCostsStatement.mp (mem_ogdCostsRows.mp hrow)
    refine ⟨row.extract, he, ⟨row.decision, hd, hdc.trans hec.symm, hpaid, hwithin⟩, rfl, rfl, rfl, ?_⟩
    exact ⟨row.claim, hc, hec.symm, row.line_billType⟩
  amounts := by
    have hsums : ∀ w ∈ windows, ((iterOgdCostsReportLines w.1 w.2 s).map (·.invoiceAmount)).sum
        = (((ogdCostsRows w.1 w.2 s).map (·.extract)).map (·.invoiceAmount.value)).sum := by
      intro w _
      rw [iterOgdCostsReportLines, List.map_map, List.map_map]
      rfl
    rw [List.map_congr_left hsums, sum_flatMap]
    exact ((tiled_extracts hs hwindows).map _).sum_eq
  labelled := by
    intro w hw line hline publicBodies e herror
    obtain ⟨row, hrow, rfl⟩ := List.mem_map.mp hline
    obtain ⟨-, -, -, -, -, -, hpaid, -⟩ := mem_ogdCostsStatement.mp (mem_ogdCostsRows.mp hrow)
    rcases buildOgdCostsRow_error herror with ⟨hunlabelled, -⟩ | ⟨-, hdate⟩
    · change decisionLabel row.decision.decision = none at hunlabelled
      rw [hpaid] at hunlabelled
      cases hunlabelled
    · exact hdate

end Windows

/-- Adjacent OGD costs reports share nothing and lose nothing. -/
theorem ogd_reports_tile (applications : List Application) (evidence : List ClaimEvidence)
    (events : List HistoryEvent) {s : Store} {windows : List (Datetime × Datetime)}
    {decidedFrom decidedBefore : Datetime}
    (hkeys : (applications.map (·.applicationId)).Nodup)
    (h : CommittedState anyRequest (.initial applications evidence events) s)
    (hwindows : Tiles decidedFrom.instant (instants windows) decidedBefore.instant) :
    TiledReports s windows decidedFrom decidedBefore :=
  (h.storedCases hkeys).tiledReports hwindows

/-- A payment on account, the bill that takes it back, and reports of two adjacent windows. -/
theorem ogd_reports_tile_recoupingRun :
    (iterOgdCostsReportLines ⟨Sample.date, 0⟩ ⟨Sample.date, 1⟩
        (afterAll Sample.store Sample.recoupingRun)).map (fun line =>
          (line.invoiceNumber, resolveBillType line, line.invoiceAmount))
      = [("INQC-AAAA-CCCC_001", "POA", 100), ("INQC-AAAA-CCCC_002", "POA", 20),
        ("INQC-AAAA-EFFF_001", "Final bill", 900), ("INQC-AAAA-CCCC_001-R", "POA", -100),
        ("INQC-AAAA-CCCC_002-R", "POA", -20)]
      ∧ TiledReports (afterAll Sample.store Sample.recoupingRun)
        [(⟨Sample.date, 0⟩, ⟨Sample.date, 1⟩), (⟨Sample.date, 1⟩, ⟨Sample.date, 2⟩)]
        ⟨Sample.date, 0⟩ ⟨Sample.date, 2⟩ := by
  constructor
  · decide +kernel
  · apply ogd_reports_tile [Sample.application] [] [] (by decide)
    · exact ⟨_, reachable_afterAll .start fun _ _ _ => trivial, .inl rfl⟩
    · exact .cons (by decide) (.cons (by decide) (.nil _))

end InquestsApi
