import InquestsApi.AuditTrailReport
import InquestsApi.CaseRuns
import InquestsApi.DecisionRecord
import InquestsApi.OgdCostsReport
import InquestsApi.ReportSnapshots

/-! Free text in the cells of the reports, and what a spreadsheet would take for a formula. -/
namespace InquestsApi

open UnitOfWork

/-- A cell that no spreadsheet evaluates. -/
def FormulaFree (cell : String) : Prop := ∀ c ∈ cell.toList.head?, c ∉ formulaTriggers

instance (cell : String) : Decidable (FormulaFree cell) :=
  inferInstanceAs (Decidable (∀ c ∈ cell.toList.head?, c ∉ formulaTriggers))

/-- A text that begins like a formula is quoted, and any other is left as it is. -/
theorem formulaFree_neutraliseCsvFormula (value : String) :
    FormulaFree (neutraliseCsvFormula value) := by
  unfold neutraliseCsvFormula
  split
  · rename_i hempty
    intro c hc
    rw [hempty] at hc
    cases hc
  · rename_i c rest htext
    by_cases htrigger : c ∈ formulaTriggers
    · rw [if_pos htrigger]
      intro quote hquote
      rw [String.toList_append] at hquote
      obtain rfl : '\'' = quote := Option.some.inj hquote
      decide
    · rw [if_neg htrigger]
      intro first hfirst
      rw [htext] at hfirst
      obtain rfl : c = first := Option.some.inj hfirst
      exact htrigger

/-- A request for the reports on a range of dates: how values print, what names the firms, the
clock, and the tables of the audit. -/
structure ReportRequest where
  printing : Printing
  getFirmsByIds : List String → Except ReportError
    (List GeneratePaymentExtractReportUseCase.Firm)
  now : Datetime
  fromDate : Date
  toDate : Date
  audit : AuditTables

/-- The cells with free text in the rows that the four reports build. -/
inductive FreeTextCell (r : ReportRequest) (s : Store) : String → Prop
  | clientName (stream : GeneratePaymentExtractReportUseCase.ReportStream)
      (line : PaymentExtractReportSourceLine)
      (row : GeneratePaymentExtractReportUseCase.PaymentExtractReportRow)
      (h : GeneratePaymentExtractReportUseCase.execute r.getFirmsByIds r.now r.fromDate r.toDate
        s s s = .ok stream)
      (hline : line ∈ stream.lines)
      (hrow : GeneratePaymentExtractReportUseCase.buildRow stream line = .ok row) :
      FreeTextCell r s row.clientName
  | decision (rows : List DecisionsReportRow) (row : DecisionsReportRow) (cell : String)
      (h : GenerateDecisionsReportUseCase.execute r.printing r.fromDate r.toDate s = .ok rows)
      (hrow : row ∈ rows) (hcell : cell = row.who ∨ cell = row.justification) :
      FreeTextCell r s cell
  | deceased (rows : List OgdCostsRow) (row : OgdCostsRow)
      (h : GenerateOgdCostsReportUseCase.execute r.fromDate r.toDate s = .ok rows)
      (hrow : row ∈ rows) : FreeTextCell r s row.deceased
  | audited (rows : List GenerateAuditTrailReportUseCase.AuditTrailRow)
      (row : GenerateAuditTrailReportUseCase.AuditTrailRow) (cell : String)
      (h : GenerateAuditTrailReportUseCase.execute r.printing r.getFirmsByIds r.fromDate r.toDate
        s r.audit = .ok rows)
      (hrow : row ∈ rows) (hcell : cell ∈ row.texts) : FreeTextCell r s cell

section Rows

variable {printing : Printing} {record : DecisionsReportSourceRecord}

/-- Who decided and why are neutralised whatever was decided. -/
def Neutralised (row : DecisionsReportRow) : Prop :=
  FormulaFree row.who ∧ FormulaFree row.justification

theorem decisionsReportRow_neutralised (submissionType : SubmissionType)
    (claimReference decision refusalReason justification : String) (submittedAt : Datetime) :
    Neutralised (decisionsReportRow record submissionType claimReference decision submittedAt
      refusalReason justification) :=
  ⟨formulaFree_neutraliseCsvFormula _, formulaFree_neutraliseCsvFormula _⟩

theorem applicationDecisionRow_neutralised {row : DecisionsReportRow}
    (h : applicationDecisionRow printing record = .ok row) : Neutralised row := by
  obtain ⟨data, -, h⟩ := except_bind_ok.mp h
  split at h
  · split at h
    · cases h
    · split at h
      · split at h
        · cases h
          exact decisionsReportRow_neutralised _ _ _ _ _ _
        · cases h
      · cases h
        exact decisionsReportRow_neutralised _ _ _ _ _ _
  · cases h

theorem claimDecisionRow_neutralised {decision justification : Option Json}
    {row : DecisionsReportRow}
    (h : claimDecisionRow printing record decision justification = .ok row) : Neutralised row := by
  unfold claimDecisionRow at h
  split at h
  · cases h
  · obtain ⟨data, -, h⟩ := except_bind_ok.mp h
    dsimp only at h
    split at h
    · cases h
    · split at h
      · cases h
      · cases h
        exact decisionsReportRow_neutralised _ _ _ _ _ _

theorem buildDecisionsReportRow_neutralised {row : DecisionsReportRow}
    (h : buildDecisionsReportRow printing record = .ok row) : Neutralised row := by
  unfold buildDecisionsReportRow at h
  split at h
  · exact applicationDecisionRow_neutralised h
  · obtain ⟨data, -, h⟩ := except_bind_ok.mp h
    exact claimDecisionRow_neutralised h
  · exact claimDecisionRow_neutralised h
  · exact claimDecisionRow_neutralised h
  · cases h

theorem reportRow_neutralised {publicBodies : List (ℕ × List PublicBodyId)}
    {line : OgdCostsReportSourceLine} {row : OgdCostsRow}
    (h : GenerateOgdCostsReportUseCase.reportRow publicBodies line = .ok row) :
    FormulaFree row.deceased := by
  unfold GenerateOgdCostsReportUseCase.reportRow at h
  split at h
  · unfold buildOgdCostsRow at h
    split at h
    · cases h
    · obtain ⟨dateOfDeath, -, h⟩ := except_bind_ok.mp h
      cases h
      exact formulaFree_neutraliseCsvFormula _
  · cases h

theorem buildAuditRow_neutralised {firms : List GeneratePaymentExtractReportUseCase.Firm}
    {event : AuditTrailEvent} {row : GenerateAuditTrailReportUseCase.AuditTrailRow}
    (h : GenerateAuditTrailReportUseCase.buildAuditRow printing firms event = .ok row) :
    ∀ cell ∈ row.texts, FormulaFree cell := by
  unfold GenerateAuditTrailReportUseCase.buildAuditRow at h
  split at h
  · cases h
  · cases h
    simp only [GenerateAuditTrailReportUseCase.AuditTrailRow.texts, csvSafe_eq, List.forall_mem_cons,
      formulaFree_neutraliseCsvFormula, List.not_mem_nil, IsEmpty.forall_iff, implies_true, and_self]

end Rows

section Reports

variable {r : ReportRequest} {s : Store}

theorem decisions_neutralised {rows : List DecisionsReportRow}
    (h : GenerateDecisionsReportUseCase.execute r.printing r.fromDate r.toDate s = .ok rows) :
    ∀ row ∈ rows, Neutralised row := by
  obtain ⟨⟨decidedFrom, decidedBefore⟩, -, h⟩ := except_bind_ok.mp h
  dsimp only at h
  split at h
  · rename_i built hbuilt
    cases h
    intro row hrow
    obtain ⟨record, -, hrecord⟩ := (Checked.mem_mapM hbuilt).mp hrow
    exact buildDecisionsReportRow_neutralised hrecord
  · cases h

theorem ogdCosts_neutralised {rows : List OgdCostsRow}
    (h : GenerateOgdCostsReportUseCase.execute r.fromDate r.toDate s = .ok rows) :
    ∀ row ∈ rows, FormulaFree row.deceased := by
  obtain ⟨⟨decidedFrom, decidedBefore⟩, -, h⟩ := except_bind_ok.mp h
  dsimp only at h
  split at h
  · rename_i built hbuilt
    cases h
    intro row hrow
    obtain ⟨line, -, hline⟩ := (Checked.mem_mapM hbuilt).mp hrow
    exact reportRow_neutralised hline
  · cases h

theorem auditTrail_neutralised {rows : List GenerateAuditTrailReportUseCase.AuditTrailRow}
    (h : GenerateAuditTrailReportUseCase.execute r.printing r.getFirmsByIds r.fromDate r.toDate s
      r.audit = .ok rows) : ∀ row ∈ rows, ∀ cell ∈ row.texts, FormulaFree cell := by
  obtain ⟨window, -, h⟩ := except_bind_ok.mp h
  obtain ⟨firms, -, hbuilt⟩ := except_bind_ok.mp h
  intro row hrow
  obtain ⟨event, -, hevent⟩ := (Checked.mem_mapM hbuilt).mp hrow
  exact buildAuditRow_neutralised hevent

/-- The name of a client as the payment extract shows it. -/
def Client.shownName (client : Client) : String :=
  GeneratePaymentExtractReportUseCase.joinNames
    [some client.clientFirstName, some client.clientLastName]

/-- The payment extract is produced, with a line that is paid for this client. -/
def PaidClientShown (r : ReportRequest) (s : Store) (client : Client) : Prop :=
  ∃ createdFrom windowEnd e c a,
    resolveReportWindow r.fromDate r.toDate GeneratePaymentExtractReportUseCase.maxReportRangeDays
        = .ok (createdFrom, windowEnd)
      ∧ (∃ firms, GeneratePaymentExtractReportUseCase.buildFirmNameLookup r.getFirmsByIds createdFrom
        (GeneratePaymentExtractReportUseCase.cutOff windowEnd r.now) s = .ok firms)
      ∧ (∃ classifications, GeneratePaymentExtractReportUseCase.buildClassificationLookup createdFrom
        (GeneratePaymentExtractReportUseCase.cutOff windowEnd r.now) s = .ok classifications)
      ∧ WindowLine createdFrom (GeneratePaymentExtractReportUseCase.cutOff windowEnd r.now) s e c a
      ∧ a.client = client

theorem buildRow_clientName {stream : GeneratePaymentExtractReportUseCase.ReportStream}
    {line : PaymentExtractReportSourceLine}
    {row : GeneratePaymentExtractReportUseCase.PaymentExtractReportRow}
    (h : GeneratePaymentExtractReportUseCase.buildRow stream line = .ok row) :
    row.clientName = GeneratePaymentExtractReportUseCase.joinNames
      [line.clientFirstName, line.clientLastName] := by
  unfold GeneratePaymentExtractReportUseCase.buildRow at h
  split at h
  · cases h
    rfl
  · cases h

/-- The client names that are shown are those of the clients who are paid for. -/
theorem clientName_shown {cell : String} :
    (∃ client, PaidClientShown r s client ∧ cell = client.shownName)
      ↔ ∃ stream line row,
        GeneratePaymentExtractReportUseCase.execute r.getFirmsByIds r.now r.fromDate r.toDate s s s
            = .ok stream
          ∧ line ∈ stream.lines
          ∧ GeneratePaymentExtractReportUseCase.buildRow stream line = .ok row
          ∧ cell = row.clientName := by
  constructor
  · rintro ⟨_, ⟨createdFrom, windowEnd, e, c, a, hwindow, ⟨firms, hfirms⟩,
      ⟨classifications, hclassifications⟩, hline, rfl⟩, rfl⟩
    let createdBefore := GeneratePaymentExtractReportUseCase.cutOff windowEnd r.now
    obtain ⟨original, horiginal⟩ := List.exists_mem_of_ne_nil _ (originalsOf_ne_nil s e)
    let row : PaymentExtractJoin := ⟨e, c, a, original.1, original.2⟩
    have hrow : row ∈ paymentExtractReportStatement createdFrom createdBefore s :=
      mem_paymentExtractReportStatement.mpr ⟨hline, horiginal⟩
    let stream : GeneratePaymentExtractReportUseCase.ReportStream :=
      ⟨iterPaymentExtractReportLines createdFrom createdBefore s, firms, classifications⟩
    have hcode : row.line.firmCode ∈ getPaymentExtractFirmCodes createdFrom createdBefore s :=
      List.mem_dedup.mpr (List.mem_map_of_mem hrow)
    have htype : row.line.lineType ∈ getPaymentExtractLineTypes createdFrom createdBefore s :=
      List.mem_dedup.mpr (List.mem_map_of_mem hrow)
    obtain ⟨built, hbuilt⟩ : ∃ built,
        GeneratePaymentExtractReportUseCase.buildRow stream row.line = .ok built :=
      GeneratePaymentExtractReportUseCase.buildRow_goes.mpr ⟨buildFirmNameLookup_found hfirms hcode,
        (buildClassificationLookup_found hclassifications).mpr htype⟩
    refine ⟨stream, row.line, built, ?_, ?_, hbuilt, (buildRow_clientName hbuilt).symm⟩
    · unfold GeneratePaymentExtractReportUseCase.execute
      simp only [except_bind_ok, except_pure_ok]
      exact ⟨_, hwindow, firms, hfirms, classifications, hclassifications, rfl⟩
    · exact List.mem_map_of_mem (mem_paymentExtractRows.mpr hrow)
  · rintro ⟨stream, line, built, hreport, hline, hbuilt, rfl⟩
    obtain ⟨⟨createdFrom, windowEnd⟩, hwindow, -⟩ := except_bind_ok.mp hreport
    obtain ⟨hfirms, hclassifications, hlines⟩ := execute_ok hwindow hreport
    rw [hlines] at hline
    obtain ⟨row, hrow, rfl⟩ := List.mem_map.mp hline
    obtain ⟨hwindowLine, -⟩ :=
      mem_paymentExtractReportStatement.mp (mem_paymentExtractRows.mp hrow)
    exact ⟨_, ⟨createdFrom, windowEnd, _, _, _, hwindow, ⟨_, hfirms⟩, ⟨_, hclassifications⟩,
      hwindowLine, rfl⟩, buildRow_clientName hbuilt⟩

/-- No report has a formula in a cell with free text exactly where no client whom the payment
extract shows has a name that begins like one. -/
theorem reports_formulaFree_iff (r : ReportRequest) (s : Store) :
    (∀ cell, FreeTextCell r s cell → FormulaFree cell)
      ↔ ∀ client, PaidClientShown r s client → FormulaFree client.shownName := by
  constructor
  · intro h client hclient
    obtain ⟨stream, line, row, hreport, hline, hrow, hname⟩ := clientName_shown.mp ⟨client, hclient, rfl⟩
    rw [hname]
    exact h _ (.clientName stream line row hreport hline hrow)
  · intro h cell hcell
    cases hcell with
    | clientName stream line row hreport hline hrow =>
        obtain ⟨client, hclient, hname⟩ :=
          clientName_shown.mpr ⟨stream, line, row, hreport, hline, hrow, rfl⟩
        rw [hname]
        exact h client hclient
    | decision rows row cell hreport hrow hcell =>
        obtain ⟨hwho, hjustification⟩ := decisions_neutralised hreport row hrow
        rcases hcell with rfl | rfl
        · exact hwho
        · exact hjustification
    | deceased rows row hreport hrow => exact ogdCosts_neutralised hreport row hrow
    | audited rows row cell hreport hrow hcell =>
        exact auditTrail_neutralised hreport row hrow cell hcell

end Reports

namespace Sample

/-- A client with a first name that a spreadsheet would evaluate. -/
def formulaClient : ClientCreate :=
  ⟨⟨"=1+1", "Smith", "1970-01-01", "USE_PROVIDER_ADDRESS", none, none, true, none⟩, birthDate, rfl⟩

def formulaCreation : CaseSubmission :=
  submit (.createApplication (created formulaClient) "F1" ["O1"])

def paidClaim : CaseSubmission :=
  submit (.claim (.create { poaCommand .expertCost none (some 120) none with
    laaReference := "INQ-AAA-CCC" }))

/-- The application is granted and a claim of it is approved. -/
def formulaStore : Store := paidClaim.after (grant.after (formulaCreation.after (.initial [] [] [])))

def reports : ReportRequest := ⟨printing, firmsByIds, ⟨date, 1⟩, date, date, ⟨[], []⟩⟩

def shownNames (r : ReportRequest) (s : Store) : List String :=
  match GeneratePaymentExtractReportUseCase.execute r.getFirmsByIds r.now r.fromDate r.toDate s s s with
  | .ok stream => stream.lines.filterMap fun line =>
      (GeneratePaymentExtractReportUseCase.buildRow stream line).toOption.map (·.clientName)
  | .error _ => []

theorem freeTextCell_of_shownNames {r : ReportRequest} {s : Store} {name : String}
    (h : name ∈ shownNames r s) : FreeTextCell r s name := by
  unfold shownNames at h
  split at h
  · rename_i stream hreport
    obtain ⟨line, hline, hname⟩ := List.mem_filterMap.mp h
    obtain ⟨row, hrow, rfl⟩ := Option.map_eq_some_iff.mp hname
    cases hbuilt : GeneratePaymentExtractReportUseCase.buildRow stream line with
    | error e =>
        rw [hbuilt] at hrow
        cases hrow
    | ok built =>
        rw [hbuilt] at hrow
        obtain rfl : built = row := Option.some.inj hrow
        exact .clientName stream line built hreport hline hbuilt
  · cases h

end Sample

/-- The payment extract shows the name of a client as it was typed. -/
theorem payment_extract_shows_formula :
    ¬ ∀ r s, CaseCommitted (fun _ _ => True) (.initial [] [] []) s →
      ∀ cell, FreeTextCell r s cell → FormulaFree cell := by
  intro h
  have hshown : "=1+1 Smith" ∈ Sample.shownNames Sample.reports Sample.formulaStore := by
    decide +kernel
  have hcommitted : CaseCommitted (fun _ _ => True) (.initial [] [] []) Sample.formulaStore :=
    ⟨_, .request Sample.paidClaim (.request Sample.grant (.request Sample.formulaCreation .start
      trivial) trivial) trivial, .inl rfl⟩
  have hfree := h _ _ hcommitted _ (Sample.freeTextCell_of_shownNames hshown)
  have hformula : ¬ FormulaFree "=1+1 Smith" := by simp [FormulaFree, formulaTriggers]
  exact hformula hfree

end InquestsApi
