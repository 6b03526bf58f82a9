import Mathlib.Data.PNat.Defs
import InquestsApi.Lib.Checked
import InquestsApi.Lib.Chunks
import InquestsApi.Lib.Csv
import InquestsApi.AmountText
import InquestsApi.IsoDates
import InquestsApi.PaymentExtractReport

/-! The stream of the payment extract report: the rows as the text of a CSV file, written through
one buffer and handed over in chunks, and what the chunks are for any size of them. -/
namespace InquestsApi
namespace GeneratePaymentExtractReportUseCase

def paymentExtractReportHeaders : List String :=
  ["Description", "Invoice Amount", "Invoice Date", "Invoice Type", "Invoice Num", "Vendor Name",
    "Vendor Site Code", "Case Reference", "Client Name", "Tax Code", "Model Number",
    "Provider Case Ref No"]

/-- The list that `_build_row` returns. -/
def PaymentExtractReportRow.cells (row : PaymentExtractReportRow) : List String :=
  [row.description, formatFixed row.invoiceAmount, Date.isoformat row.invoiceDate, row.invoiceType.value,
    row.invoiceNumber, row.firmName, row.officeId, row.laaReference, row.clientName, row.taxCode.value,
    row.modelNumber, ""]

abbrev TextBuffer := Chunks.Buffer Char

/-- `writer.writerow`. -/
def writerow (buffer : TextBuffer) (cells : List String) : TextBuffer :=
  buffer.write '\x00' (Csv.row cells)

section Stream

variable (rowsPerChunk : ℕ+) (stream : ReportStream)

/-- The loop of `_stream_csv` and what follows it: the chunks that are yielded, and the count of
rows or the error that ends them. -/
def streamRows (buffer : TextBuffer) (rowCount : ℕ) :
    List PaymentExtractReportSourceLine → List (List Char) × Except ReportError ℕ
  | [] =>
    let (remaining, _) := buffer.drain
    (if remaining.isEmpty then [] else [remaining], .ok rowCount)
  | line :: lines =>
    match buildRow stream line with
    | .error e => ([], .error e)
    | .ok row =>
      let written := writerow buffer row.cells
      if (rowCount + 1) % rowsPerChunk = 0 then
        let (content, drained) := written.drain
        let (chunks, result) := streamRows drained (rowCount + 1) lines
        (content :: chunks, result)
      else streamRows written (rowCount + 1) lines

def streamChunks (lines : List PaymentExtractReportSourceLine) : List (List Char) × Except ReportError ℕ :=
  streamRows rowsPerChunk stream (writerow .empty paymentExtractReportHeaders) 0 lines

end Stream

section PreRead

variable {α : Type}

/-- `next(lines, None)`, and what the iterator has left. -/
def next : List α → Option α × List α
  | [] => (none, [])
  | line :: lines => (some line, lines)

/-- The lines with the first one put back before the rest. -/
def preRead (lines : List α) : List α :=
  match next lines with
  | (none, rest) => rest
  | (some first, rest) => [first] ++ rest

theorem preRead_eq (lines : List α) : preRead lines = lines := by
  cases lines <;> rfl

end PreRead

/-- What is yielded once the first line was read ahead of the rest. -/
def returned (rowsPerChunk : ℕ+) (stream : ReportStream) : List (List Char) × Except ReportError ℕ :=
  streamChunks rowsPerChunk stream (preRead stream.lines)

/-- `execute`, with the stream that it returns consumed. -/
def executeChunks (rowsPerChunk : ℕ+) (getFirmsByIds : List String → Except ReportError (List Firm))
    (now : Datetime) (fromDate toDate : Date) (atFirmCodes atLineTypes atLines : Store) :
    Except ReportError (List (List Char) × Except ReportError ℕ) := do
  let stream ← execute getFirmsByIds now fromDate toDate atFirmCodes atLineTypes atLines
  pure (returned rowsPerChunk stream)

section Chunks

variable {rowsPerChunk : ℕ+} {stream : ReportStream} {line : PaymentExtractReportSourceLine}
variable {lines : List PaymentExtractReportSourceLine} {row : PaymentExtractReportRow}
variable {rows : List PaymentExtractReportRow} {buffer : TextBuffer} {rowCount : ℕ}
variable {pending : List (List String)}

theorem writerow_holds (hbuffer : buffer.Holds (Csv.text pending)) (cells : List String) :
    (writerow buffer cells).Holds (Csv.text (pending ++ [cells])) := by
  rw [Csv.text_append, Csv.text_singleton]
  exact hbuffer.write

theorem streamRows_nil (hbuffer : buffer.Holds (Csv.text pending)) :
    streamRows rowsPerChunk stream buffer rowCount []
      = ((Chunks.groups rowsPerChunk rowCount pending []).map Csv.text, .ok rowCount) := by
  have hcontent : buffer.drain.1 = Csv.text pending := hbuffer.drain.1
  unfold streamRows
  rw [Chunks.groups_nil]
  by_cases hpending : pending = []
  · have hempty : buffer.drain.1 = [] := hcontent.trans (Csv.text_eq_nil.mpr hpending)
    simp [hempty, hpending]
  · have hleft : Csv.text pending ≠ [] := fun h => hpending (Csv.text_eq_nil.mp h)
    simp [hcontent, hleft, hpending]

/-- The loop, for any buffer that holds what is pending. -/
theorem streamRows_groups (hbuffer : buffer.Holds (Csv.text pending))
    (hrows : List.Forall₂ (fun line row => buildRow stream line = .ok row) lines rows) :
    streamRows rowsPerChunk stream buffer rowCount lines
      = ((Chunks.groups rowsPerChunk rowCount pending (rows.map (·.cells))).map Csv.text,
          .ok (rowCount + rows.length)) := by
  induction hrows generalizing buffer rowCount pending with
  | nil => exact streamRows_nil hbuffer
  | @cons line row lines rows hrow _ ih =>
      have hwritten := writerow_holds hbuffer row.cells
      have hcount : rowCount + 1 + rows.length = rowCount + (row :: rows).length := by
        rw [List.length_cons]
        omega
      unfold streamRows
      simp only [hrow]
      rw [List.map_cons, Chunks.groups_cons]
      by_cases hfull : (rowCount + 1) % (rowsPerChunk : ℕ) = 0
      · -- the buffer is handed over and starts again with nothing pending
        have hdrained : (writerow buffer row.cells).drain.2.Holds (Csv.text []) := hwritten.drain.2
        rw [if_pos hfull, if_pos hfull, ih hdrained, hwritten.drain.1, hcount, List.map_cons]
      · rw [if_neg hfull, if_neg hfull, ih hwritten, hcount]

/-- How the stream ends does not depend on its chunks. -/
theorem streamRows_result :
    (streamRows rowsPerChunk stream buffer rowCount lines).2
      = (lines.mapM (buildRow stream)).map (rowCount + ·.length) := by
  induction lines generalizing buffer rowCount with
  | nil => rfl
  | cons line lines ih =>
      unfold streamRows
      cases hrow : buildRow stream line with
      | error e =>
          rw [Checked.mapM_cons_of_error hrow]
          rfl
      | ok row =>
          have hrest : ((lines.mapM (buildRow stream)).map (row :: ·)).map (rowCount + ·.length)
              = (lines.mapM (buildRow stream)).map (rowCount + 1 + ·.length) := by
            cases lines.mapM (buildRow stream) with
            | error e => rfl
            | ok rows =>
                have hcount : rowCount + (rows.length + 1) = rowCount + 1 + rows.length := by omega
                exact congrArg Except.ok hcount
          rw [Checked.mapM_cons_of_ok hrow, hrest]
          dsimp only
          by_cases hfull : (rowCount + 1) % (rowsPerChunk : ℕ) = 0
          · rw [if_pos hfull, ih]
          · rw [if_neg hfull, ih]

theorem returned_result : (returned rowsPerChunk stream).2 = (streamCsv stream).map List.length := by
  unfold returned streamChunks
  rw [preRead_eq, streamRows_result]
  unfold streamCsv
  cases stream.lines.mapM (buildRow stream) with
  | error e => rfl
  | ok rows => exact congrArg Except.ok (Nat.zero_add rows.length)

/-- A report ends as it does when its rows are taken one by one. -/
theorem executeChunks_result (getFirmsByIds : List String → Except ReportError (List Firm))
    (now : Datetime) (fromDate toDate : Date) (atFirmCodes atLineTypes atLines : Store) :
    (executeChunks rowsPerChunk getFirmsByIds now fromDate toDate atFirmCodes atLineTypes atLines).map
        Prod.snd
      = (execute getFirmsByIds now fromDate toDate atFirmCodes atLineTypes atLines).map
        fun stream => (streamCsv stream).map List.length := by
  unfold executeChunks
  cases execute getFirmsByIds now fromDate toDate atFirmCodes atLineTypes atLines with
  | error e => rfl
  | ok stream => exact congrArg Except.ok returned_result

/-- When every line has its row, the chunks are the texts of groups of rows, the header first. -/
theorem returned_groups
    (hrows : List.Forall₂ (fun line row => buildRow stream line = .ok row) stream.lines rows) :
    returned rowsPerChunk stream
      = ((Chunks.groups rowsPerChunk 0 [paymentExtractReportHeaders] (rows.map (·.cells))).map Csv.text,
          .ok rows.length) := by
  have hheader : (writerow .empty paymentExtractReportHeaders).Holds
      (Csv.text ([] ++ [paymentExtractReportHeaders])) := writerow_holds Chunks.Buffer.holds_empty _
  unfold returned streamChunks
  rw [preRead_eq, streamRows_groups hheader hrows, Nat.zero_add, List.nil_append]

/-- Every line whose firm and type the lookups know has its row. -/
theorem rows_of_lookups
    (hlines : ∀ line ∈ stream.lines,
      (∃ firmName, firmNameOf stream.firmNames line.firmCode = some firmName)
        ∧ ∃ classification, stream.classifications.lookup line.lineType = some classification) :
    ∃ rows, List.Forall₂ (fun line row => buildRow stream line = .ok row) stream.lines rows := by
  obtain ⟨rows, hrows⟩ := Checked.mapM_goes.mpr fun line hline => buildRow_goes.mpr (hlines line hline)
  exact ⟨rows, Checked.mapM_ok.mp hrows⟩

/-- **Stream and one text.** Whatever the size of the chunks, the stream of a report whose lines
are all in its lookups is the text of the header and of one row per line, in order; it is handed
over between rows only, and never as an empty chunk. -/
theorem chunks_are_one_csv (stream : ReportStream)
    (hlines : ∀ line ∈ stream.lines,
      (∃ firmName, firmNameOf stream.firmNames line.firmCode = some firmName)
        ∧ ∃ classification, stream.classifications.lookup line.lineType = some classification) :
    ∃ rows, List.Forall₂ (fun line row => buildRow stream line = .ok row) stream.lines rows
      ∧ ∀ rowsPerChunk : ℕ+, ∃ (groups : List (List (List String))) (chunks : List (List Char)),
        returned rowsPerChunk stream = (chunks, .ok rows.length)
          ∧ chunks = groups.map Csv.text
          ∧ groups.flatten = paymentExtractReportHeaders :: rows.map (·.cells)
          ∧ (∀ chunk ∈ chunks, chunk ≠ [])
          ∧ chunks.flatten = Csv.text (paymentExtractReportHeaders :: rows.map (·.cells)) := by
  obtain ⟨rows, hrows⟩ := rows_of_lookups hlines
  refine ⟨rows, hrows, fun rowsPerChunk => ?_⟩
  have hflat := Chunks.flatten_groups rowsPerChunk 0 [paymentExtractReportHeaders] (rows.map (·.cells))
  refine ⟨_, _, returned_groups hrows, rfl, hflat, ?_, ?_⟩
  · intro chunk hchunk hempty
    obtain ⟨group, hgroup, htext⟩ := List.mem_map.mp hchunk
    have hnil : group = [] := Csv.text_eq_nil.mp (htext.trans hempty)
    exact Chunks.ne_nil_of_mem_groups hgroup hnil
  · rw [Csv.flatten_map_text, hflat]
    rfl

end Chunks

def Sample.sourceLine (invoiceNumber : String) : PaymentExtractReportSourceLine where
  invoiceNumber := invoiceNumber
  invoiceAmount := 150
  invoiceDate := Sample.date
  taxCode := .zeroVat
  lineType := ⟨.poa, some .profitCost, none⟩
  firmCode := "1A234B"
  officeId := "Office, London"
  laaReference := "INQ-AAAA-CCCC"
  clientFirstName := some "Ada"
  clientLastName := none

/-- Three lines of one firm, whose office has a comma in its name. -/
def Sample.reportStream : ReportStream where
  lines := ["INQC-AAAA-0001_001", "INQC-AAAA-0002_001", "INQC-AAAA-0003_001"].map Sample.sourceLine
  firmNames := [⟨"1A234B", some "Firm & Co"⟩]
  classifications := [(⟨.poa, some .profitCost, none⟩, poaProfitCosts)]

/-- With chunks of two rows, the header goes with the first two lines. -/
theorem chunks_are_one_csv_threeLines :
    (returned 2 Sample.reportStream).1.length = 2
      ∧ ∃ rows, List.Forall₂ (fun line row => buildRow Sample.reportStream line = .ok row)
          Sample.reportStream.lines rows
        ∧ ∀ rowsPerChunk : ℕ+, ∃ (groups : List (List (List String))) (chunks : List (List Char)),
          returned rowsPerChunk Sample.reportStream = (chunks, .ok rows.length)
            ∧ chunks = groups.map Csv.text
            ∧ groups.flatten = paymentExtractReportHeaders :: rows.map (·.cells)
            ∧ (∀ chunk ∈ chunks, chunk ≠ [])
            ∧ chunks.flatten = Csv.text (paymentExtractReportHeaders :: rows.map (·.cells)) := by
  refine ⟨by decide +kernel, chunks_are_one_csv Sample.reportStream fun line hline => ?_⟩
  have hknown : ∀ line ∈ Sample.reportStream.lines,
      (firmNameOf Sample.reportStream.firmNames line.firmCode).isSome
        ∧ (Sample.reportStream.classifications.lookup line.lineType).isSome := by decide +kernel
  exact (hknown line hline).imp Option.isSome_iff_exists.mp Option.isSome_iff_exists.mp

end GeneratePaymentExtractReportUseCase
end InquestsApi
