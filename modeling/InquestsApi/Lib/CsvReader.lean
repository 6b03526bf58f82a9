import InquestsApi.Lib.Csv
import Mathlib.Logic.Function.Basic

/-! Reading the text of a CSV file, character by character, as `csv.reader` does: what was written row by
row is read back. -/
namespace Csv

inductive Phase where
  | startRecord
  | afterReturn
  | startField
  | inField
  | inQuotedField
  | quoteInQuotedField
  deriving DecidableEq

/-- What has been read: the records, and of the one that has begun its fields and the one that has begun. -/
structure Reader where
  phase : Phase
  field : List Char
  record : List String
  records : List (List String)

namespace Reader

def start : Reader := ⟨.startRecord, [], [], []⟩

def add (r : Reader) (c : Char) : Reader := { r with phase := .inField, field := r.field ++ [c] }

def saveField (r : Reader) : Reader :=
  { r with
    phase := .startField
    field := []
    record := r.record ++ [String.ofList r.field] }

/-- The record ends at a newline; a line feed after a carriage return belongs to it. -/
def endRecord (r : Reader) (c : Char) : Reader :=
  ⟨if c = '\r' then .afterReturn else .startRecord, [], [], r.records ++ [r.record]⟩

def startOfField (r : Reader) (c : Char) : Reader :=
  if c = '"' then { r with phase := .inQuotedField }
  else if c = ',' then r.saveField
  else if c = '\r' ∨ c = '\n' then r.saveField.endRecord c
  else r.add c

/-- An empty line is a record without fields. -/
def startOfRecord (r : Reader) (c : Char) : Reader :=
  if c = '\r' ∨ c = '\n' then r.endRecord c else r.startOfField c

def step (r : Reader) (c : Char) : Reader :=
  match r.phase with
  | .startRecord => r.startOfRecord c
  | .afterReturn => if c = '\n' then { r with phase := .startRecord } else r.startOfRecord c
  | .startField => r.startOfField c
  | .inField =>
    if c = ',' then r.saveField
    else if c = '\r' ∨ c = '\n' then r.saveField.endRecord c
    else r.add c
  | .inQuotedField =>
    if c = '"' then { r with phase := .quoteInQuotedField } else { r with field := r.field ++ [c] }
  | .quoteInQuotedField =>
    if c = '"' then { r with phase := .inQuotedField, field := r.field ++ [c] }
    else if c = ',' then r.saveField
    else if c = '\r' ∨ c = '\n' then r.saveField.endRecord c
    else r.add c

def run (r : Reader) (text : List Char) : Reader := text.foldl step r

/-- At the end of the file a record that has begun is one. -/
def finish (r : Reader) : List (List String) :=
  match r.phase with
  | .startRecord => r.records
  | .afterReturn => r.records
  | _ => r.records ++ [r.saveField.record]

variable {r : Reader} {text : String} {texts : List String} {cs : List Char}

theorem run_nil (r : Reader) : r.run [] = r := rfl

theorem run_cons (r : Reader) (c : Char) (cs : List Char) : r.run (c :: cs) = (r.step c).run cs := rfl

theorem run_append (r : Reader) (cs cs' : List Char) : r.run (cs ++ cs') = (r.run cs).run cs' :=
  List.foldl_append

theorem doubleQuotes_cons (c : Char) (cs : List Char) :
    doubleQuotes (c :: cs) = (if c = '"' then ['"', '"'] else [c]) ++ doubleQuotes cs :=
  List.flatMap_cons

/-- Inside quotes a doubled quote is one, and everything else is itself. -/
theorem run_doubleQuotes (h : r.phase = .inQuotedField) :
    r.run (doubleQuotes cs) = { r with field := r.field ++ cs } := by
  induction cs generalizing r with
  | nil =>
      change r = _
      rw [List.append_nil]
  | cons c cs ih =>
      have hquoted : ({ r with field := r.field ++ [c] } : Reader).phase = .inQuotedField := h
      rw [doubleQuotes_cons, run_append]
      by_cases hquote : c = '"'
      · have hpair : r.run ['"', '"'] = { r with field := r.field ++ [c] } := by
          simp [run, step, h, hquote]
        rw [if_pos hquote, hpair, ih hquoted, List.append_assoc, List.singleton_append]
      · have hplain : r.run [c] = { r with field := r.field ++ [c] } := by
          simp [run, step, h, hquote]
        rw [if_neg hquote, hplain, ih hquoted, List.append_assoc, List.singleton_append]

theorem run_inField (h : r.phase = .inField) (hplain : ∀ c ∈ cs, special c = false) :
    r.run cs = { r with field := r.field ++ cs } := by
  induction cs generalizing r with
  | nil =>
      change r = _
      rw [List.append_nil]
  | cons c cs ih =>
      have hc := hplain c List.mem_cons_self
      have hstep : r.step c = r.add c := by
        simp [special] at hc
        simp [step, h, hc]
      rw [run_cons, hstep, ih rfl fun c' hc' => hplain c' (List.mem_cons_of_mem _ hc')]
      simp [add, h]

/-- A field has begun, and nothing of it has been read. -/
structure AtField (r : Reader) : Prop where
  field : r.field = []
  phase : r.phase = .startRecord ∨ r.phase = .startField

/-- The text of a field has been read since `r`, up to what comes after it. -/
structure HasRead (r : Reader) (text : String) (r' : Reader) : Prop where
  field : r'.field = text.toList
  record : r'.record = r.record
  records : r'.records = r.records
  phase : r'.phase = .inField ∨ r'.phase = .quoteInQuotedField ∨ (r'.phase = r.phase ∧ text = "")

theorem AtField.startOfField (h : r.AtField) {c : Char} (hc : ¬ (c = '\r' ∨ c = '\n')) :
    r.step c = r.startOfField c := by
  rcases h.phase with hphase | hphase
  · simp only [step, hphase, startOfRecord, if_neg hc]
  · simp only [step, hphase]

theorem run_field (h : r.AtField) (text : String) : r.HasRead text (r.run (Csv.field text)) := by
  unfold Csv.field
  by_cases hspecial : text.toList.any special = true
  · have hopen : r.step '"' = { r with phase := .inQuotedField } :=
      h.startOfField (by decide)
    rw [if_pos hspecial, List.cons_append, run_cons, run_append, hopen, run_doubleQuotes rfl, h.field,
      List.nil_append]
    exact ⟨rfl, rfl, rfl, Or.inr (Or.inl rfl)⟩
  · rw [if_neg hspecial]
    have hplain : ∀ c ∈ text.toList, special c = false := by
      intro c hc
      simpa using List.any_eq_false.mp (Bool.not_eq_true _ ▸ hspecial) c hc
    cases hchars : text.toList with
    | nil =>
        have hempty : text = "" := String.toList_eq_nil_iff.mp hchars
        exact ⟨h.field.trans hchars.symm, rfl, rfl, Or.inr (Or.inr ⟨rfl, hempty⟩)⟩
    | cons c cs =>
        rw [hchars] at hplain
        have hc := hplain c List.mem_cons_self
        simp only [special, Bool.or_eq_false_iff, decide_eq_false_iff_not] at hc
        have hadd : r.step c = r.add c := by
          rw [h.startOfField (by simp [hc])]
          simp [Reader.startOfField, hc]
        rw [run_cons, hadd, run_inField rfl fun c' hc' => hplain c' (List.mem_cons_of_mem _ hc')]
        refine ⟨?_, rfl, rfl, Or.inl rfl⟩
        simp [add, h.field, hchars]

/-- A field that has been read is saved at what ends it. -/
theorem HasRead.saved {r' : Reader} (h : r.HasRead text r') :
    r'.saveField = ⟨.startField, [], r.record ++ [text], r.records⟩ := by
  unfold saveField
  rw [h.field, h.record, h.records, String.ofList_toList]

theorem HasRead.comma {r' : Reader} (hr : r.AtField) (h : r.HasRead text r') :
    r'.step ',' = ⟨.startField, [], r.record ++ [text], r.records⟩ := by
  rw [← h.saved]
  rcases h.phase with hphase | hphase | ⟨hphase, -⟩
  · simp [step, hphase]
  · simp [step, hphase]
  · rw [step, hphase]
    rcases hr.phase with hstart | hstart <;> simp [hstart, startOfRecord, startOfField]

/-- At the end of a line, unless the line is empty. -/
theorem HasRead.carriageReturn {r' : Reader} (h : r.HasRead text r')
    (hline : r.phase = .startField ∨ text ≠ "") :
    r'.step '\r' = ⟨.afterReturn, [], [], r.records ++ [r.record ++ [text]]⟩ := by
  have hends : r'.saveField.endRecord '\r' = ⟨.afterReturn, [], [], r.records ++ [r.record ++ [text]]⟩ := by
    rw [h.saved]
    rfl
  rw [← hends]
  rcases h.phase with hphase | hphase | ⟨hphase, hempty⟩
  · simp [step, hphase]
  · simp [step, hphase]
  · have hstart : r.phase = .startField := hline.resolve_right fun hne => hne hempty
    simp [step, hphase, hstart, startOfField]

/-- The fields of a row, up to the end of its line. -/
theorem run_fields (hr : r.AtField) (hnone : texts ≠ []) (hline : r.phase = .startField ∨ texts ≠ [""]) :
    (r.run (fields texts)).step '\r' = ⟨.afterReturn, [], [], r.records ++ [r.record ++ texts]⟩ := by
  induction texts generalizing r with
  | nil => exact absurd rfl hnone
  | cons text rest ih =>
      have hread := run_field hr text
      cases rest with
      | nil =>
          refine hread.carriageReturn (hline.imp_right fun hne hempty => hne ?_)
          rw [hempty]
      | cons next rest =>
          have hnext : AtField ⟨.startField, [], r.record ++ [text], r.records⟩ := ⟨rfl, Or.inr rfl⟩
          change (r.run (Csv.field text ++ ',' :: fields (next :: rest))).step '\r' = _
          rw [run_append, run_cons, hread.comma hr, ih hnext (List.cons_ne_nil _ _) (Or.inl rfl),
            List.append_assoc, List.singleton_append]

/-- One row, read from between two lines. -/
theorem run_row (records : List (List String)) (texts : List String) :
    (⟨.startRecord, [], [], records⟩ : Reader).run (row texts)
      = ⟨.startRecord, [], [], records ++ [texts]⟩ := by
  have hstart : AtField ⟨.startRecord, [], [], records⟩ := ⟨rfl, Or.inl rfl⟩
  unfold row
  rw [run_append]
  change (step (step _ '\r') '\n') = _
  by_cases hempty : texts = [""]
  · rw [if_pos hempty, hempty]
    rfl
  · rw [if_neg hempty]
    by_cases hnone : texts = []
    · rw [hnone]
      rfl
    · rw [run_fields hstart hnone (Or.inr hempty)]
      rfl

end Reader

/-- The records of a text. -/
def read (text : List Char) : List (List String) := (Reader.start.run text).finish

theorem run_text (records rows : List (List String)) :
    (⟨.startRecord, [], [], records⟩ : Reader).run (text rows)
      = ⟨.startRecord, [], [], records ++ rows⟩ := by
  induction rows generalizing records with
  | nil => rw [List.append_nil]; rfl
  | cons texts rest ih =>
      rw [text, List.flatMap_cons, Reader.run_append, Reader.run_row]
      refine (ih _).trans ?_
      rw [List.append_assoc, List.singleton_append]

/-- What is written is read back. -/
theorem read_text (rows : List (List String)) : read (text rows) = rows := by
  unfold read Reader.start
  rw [run_text]
  rfl

end Csv
