import InquestsApi.CsvStream
import InquestsApi.Lib.CsvReader

/-! What a reader of the payment extract finds: the rows that were written, also when the stream ends in
an error or is broken off between two chunks. -/
namespace InquestsApi
namespace GeneratePaymentExtractReportUseCase

section ReadBack

variable {rowsPerChunk : ℕ+} {stream : ReportStream} {lines : List PaymentExtractReportSourceLine}
variable {buffer : TextBuffer} {rowCount : ℕ} {pending : List (List String)}

/-- What the loop hands over: whole rows, of the lines up to one that has none; all of them where there
is no such line. -/
structure Written (stream : ReportStream) (pending : List (List String))
    (lines : List PaymentExtractReportSourceLine) (rows : List PaymentExtractReportRow)
    (groups : List (List (List String))) (result : List (List Char) × Except ReportError ℕ) : Prop where
  built : List.Forall₂ (fun line row => buildRow stream line = .ok row) (lines.take rows.length) rows
  chunks : result.1 = groups.map Csv.text
  whole : groups.flatten <+: pending ++ rows.map (·.cells)
  complete : result.2.isOk = true →
    rows.length = lines.length ∧ groups.flatten = pending ++ rows.map (·.cells)

section Loop

variable {line : PaymentExtractReportSourceLine} {row : PaymentExtractReportRow}
variable {rows : List PaymentExtractReportRow} {groups : List (List (List String))}
variable {result : List (List Char) × Except ReportError ℕ}

theorem append_cells (pending : List (List String)) (row : PaymentExtractReportRow)
    (rows : List PaymentExtractReportRow) :
    pending ++ [row.cells] ++ rows.map (·.cells) = pending ++ (row :: rows).map (·.cells) := by
  rw [List.append_assoc, List.singleton_append, List.map_cons]

/-- A row that stays in the buffer. -/
theorem Written.kept (hrow : buildRow stream line = .ok row)
    (h : Written stream (pending ++ [row.cells]) lines rows groups result) :
    Written stream pending (line :: lines) (row :: rows) groups result where
  built := .cons hrow h.built
  chunks := h.chunks
  whole := append_cells pending row rows ▸ h.whole
  complete := fun hok => by
    obtain ⟨hlength, hflat⟩ := h.complete hok
    refine ⟨?_, hflat.trans (append_cells pending row rows)⟩
    rw [List.length_cons, List.length_cons, hlength]

/-- A row with which the buffer is handed over. -/
theorem Written.handedOver (hrow : buildRow stream line = .ok row)
    (h : Written stream [] lines rows groups result) :
    Written stream pending (line :: lines) (row :: rows) ((pending ++ [row.cells]) :: groups)
      (Csv.text (pending ++ [row.cells]) :: result.1, result.2) where
  built := .cons hrow h.built
  chunks := by rw [List.map_cons, h.chunks]
  whole := by
    rw [List.flatten_cons, ← append_cells]
    exact (List.prefix_append_right_inj _).mpr h.whole
  complete := fun hok => by
    obtain ⟨hlength, hflat⟩ := h.complete hok
    constructor
    · rw [List.length_cons, List.length_cons, hlength]
    · rw [List.flatten_cons, hflat, List.nil_append, append_cells]

end Loop

variable (rowsPerChunk stream lines rowCount) in
theorem streamRows_written (hbuffer : buffer.Holds (Csv.text pending)) :
    ∃ rows groups, Written stream pending lines rows groups
      (streamRows rowsPerChunk stream buffer rowCount lines) := by
  induction lines generalizing buffer rowCount pending with
  | nil =>
      have hflat := Chunks.flatten_groups rowsPerChunk rowCount pending []
      refine ⟨[], Chunks.groups rowsPerChunk rowCount pending [], .nil, ?_, ?_, ?_⟩
      · rw [streamRows_nil hbuffer]
      · rw [hflat]
        exact List.prefix_rfl
      · exact fun _ => ⟨rfl, hflat⟩
  | cons line lines ih =>
      unfold streamRows
      cases hrow : buildRow stream line with
      | error e =>
          refine ⟨[], [], .nil, rfl, List.nil_prefix, ?_⟩
          intro hok
          cases hok
      | ok row =>
          have hwritten := writerow_holds hbuffer row.cells
          dsimp only
          by_cases hfull : (rowCount + 1) % (rowsPerChunk : ℕ) = 0
          · -- the buffer is handed over with the row, and starts again with nothing pending
            have hdrained : (writerow buffer row.cells).drain.2.Holds (Csv.text []) := hwritten.drain.2
            obtain ⟨rows, groups, h⟩ := ih (rowCount + 1) hdrained
            refine ⟨row :: rows, (pending ++ [row.cells]) :: groups, ?_⟩
            rw [if_pos hfull, hwritten.drain.1]
            exact h.handedOver hrow
          · obtain ⟨rows, groups, h⟩ := ih (rowCount + 1) hwritten
            refine ⟨row :: rows, groups, ?_⟩
            rw [if_neg hfull]
            exact h.kept hrow

/-- **What is downloaded can be read.** For any size of chunks, and any lines, also when one of them has
no row: whatever chunks have been handed over when the download ends, a reader finds in them the header
and then rows of the first lines, whole and in order; when the stream ends well, the row of every line. -/
theorem stream_reads_back (rowsPerChunk : ℕ+) (stream : ReportStream) :
    ∃ rows, List.Forall₂ (fun line row => buildRow stream line = .ok row)
        (stream.lines.take rows.length) rows
      ∧ (∀ n, ∃ m, Csv.read ((returned rowsPerChunk stream).1.take n).flatten
        = (paymentExtractReportHeaders :: rows.map (·.cells)).take m)
      ∧ ((returned rowsPerChunk stream).2.isOk = true → rows.length = stream.lines.length
        ∧ Csv.read (returned rowsPerChunk stream).1.flatten
          = paymentExtractReportHeaders :: rows.map (·.cells)) := by
  have hheader : (writerow .empty paymentExtractReportHeaders).Holds
      (Csv.text ([] ++ [paymentExtractReportHeaders])) := writerow_holds Chunks.Buffer.holds_empty _
  unfold returned streamChunks
  rw [preRead_eq]
  obtain ⟨rows, groups, hwritten⟩ := streamRows_written rowsPerChunk stream stream.lines 0 hheader
  refine ⟨rows, hwritten.built, fun n => ?_, fun hok => ?_⟩
  · have hprefix : (groups.take n).flatten <+: paymentExtractReportHeaders :: rows.map (·.cells) := by
      refine List.IsPrefix.trans ⟨(groups.drop n).flatten, ?_⟩ hwritten.whole
      rw [← List.flatten_append, List.take_append_drop]
    refine ⟨(groups.take n).flatten.length, ?_⟩
    rw [hwritten.chunks, ← List.map_take, Csv.flatten_map_text, Csv.read_text]
    exact List.prefix_iff_eq_take.mp hprefix
  · obtain ⟨hlength, hflat⟩ := hwritten.complete hok
    refine ⟨hlength, ?_⟩
    rw [hwritten.chunks, Csv.flatten_map_text, Csv.read_text, hflat]
    rfl

end ReadBack

end GeneratePaymentExtractReportUseCase
end InquestsApi
