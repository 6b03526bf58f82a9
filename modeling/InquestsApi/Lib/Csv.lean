import Mathlib.Data.List.Basic

/-! The text of a CSV row as `csv.writer` writes it: fields are quoted only where they need to be. -/
namespace Csv

def special (c : Char) : Bool := c = ',' || c = '"' || c = '\r' || c = '\n'

def doubleQuotes (field : List Char) : List Char :=
  field.flatMap fun c => if c = '"' then ['"', '"'] else [c]

def field (text : String) : List Char :=
  if text.toList.any special then '"' :: doubleQuotes text.toList ++ ['"'] else text.toList

def fields : List String → List Char
  | [] => []
  | [last] => field last
  | text :: rest => field text ++ ',' :: fields rest

/-- A row of one empty field is quoted, so that it is not an empty line. -/
def row (texts : List String) : List Char :=
  (if texts = [""] then ['"', '"'] else fields texts) ++ ['\r', '\n']

/-- The rows one after another. -/
def text (rows : List (List String)) : List Char := rows.flatMap row

theorem row_ne_nil (texts : List String) : row texts ≠ [] :=
  List.append_ne_nil_of_right_ne_nil _ (List.cons_ne_nil _ _)

theorem text_append (rows rows' : List (List String)) : text (rows ++ rows') = text rows ++ text rows' :=
  List.flatMap_append

theorem text_singleton (texts : List String) : text [texts] = row texts := by
  simp [text]

theorem text_eq_nil {rows : List (List String)} : text rows = [] ↔ rows = [] := by
  constructor
  · intro h
    cases rows with
    | nil => rfl
    | cons texts rest => exact absurd (List.append_eq_nil_iff.mp h).1 (row_ne_nil texts)
  · rintro rfl
    rfl

/-- Groups of rows, written one by one, are the rows. -/
theorem flatten_map_text (groups : List (List (List String))) :
    (groups.map text).flatten = text groups.flatten := by
  induction groups with
  | nil => rfl
  | cons group rest ih => rw [List.map_cons, List.flatten_cons, List.flatten_cons, text_append, ih]

end Csv
