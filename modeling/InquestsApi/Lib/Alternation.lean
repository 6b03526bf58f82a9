import Mathlib.Data.Bool.AllAny
import Mathlib.Data.List.Infix

/-! Regular expressions that are alternatives of escaped words: what a search for one finds. -/
namespace Alternation

/-- The characters that `re.escape` puts a backslash before. -/
def specialCharacters : List Char :=
  "()[]\x7b\x7d?*+-|^$\\.&~# \t\n\r\x0b\x0c".toList

def escapeChar (c : Char) : List Char :=
  if c ∈ specialCharacters then ['\\', c] else [c]

/-- `re.escape`. -/
def escape (word : List Char) : List Char := word.flatMap escapeChar

/-- `"|".join` of the escaped words. -/
def join : List (List Char) → List Char
  | [] => []
  | [word] => escape word
  | word :: words => escape word ++ '|' :: join words

/-- The alternatives a pattern stands for, behind what has been read of the first one.
A pattern with anything in it besides literals and bars has none here. -/
def compile : List Char → List Char → Option (List (List Char))
  | [], read => some [read]
  | '|' :: rest, read => (compile rest []).map (read :: ·)
  | ['\\'], _ => none
  | '\\' :: c :: rest, read => if c.isAlphanum then none else compile rest (read ++ [c])
  | c :: rest, read => if c ∈ specialCharacters then none else compile rest (read ++ [c])

/-- Whether an alternative matches somewhere in the text. -/
def search (alternatives : List (List Char)) (text : List Char) : Bool :=
  text.tails.any fun rest => alternatives.any (·.isPrefixOf rest)

theorem special_not_alphanum : ∀ c ∈ specialCharacters, c.isAlphanum = false :=
  List.all_iff_forall_prop.mp (by decide)

theorem bar_special : '|' ∈ specialCharacters := by decide

theorem backslash_special : '\\' ∈ specialCharacters := by decide

theorem compile_literal {c : Char} (hspecial : c ∉ specialCharacters) (rest read : List Char) :
    compile (c :: rest) read = compile rest (read ++ [c]) := by
  have hbar : c ≠ '|' := fun h => hspecial (h ▸ bar_special)
  have hslash : c ≠ '\\' := fun h => hspecial (h ▸ backslash_special)
  rw [compile.eq_5 read c rest (fun h => hbar h) (fun h _ => hslash h) (fun _ _ h _ => hslash h)]
  exact if_neg hspecial

/-- An escaped character is read back as itself. -/
theorem compile_escapeChar (c : Char) (rest read : List Char) :
    compile (escapeChar c ++ rest) read = compile rest (read ++ [c]) := by
  unfold escapeChar
  by_cases hspecial : c ∈ specialCharacters
  · have halpha := special_not_alphanum c hspecial
    rw [if_pos hspecial]
    simp [compile, halpha]
  · rw [if_neg hspecial]
    exact compile_literal hspecial rest read

theorem compile_escape (word rest read : List Char) :
    compile (escape word ++ rest) read = compile rest (read ++ word) := by
  induction word generalizing read with
  | nil => simp [escape]
  | cons c word ih =>
      have hcons : escape (c :: word) ++ rest = escapeChar c ++ (escape word ++ rest) := by
        simp [escape]
      rw [hcons, compile_escapeChar, ih, List.append_assoc]
      rfl

/-- Compiling the joined words gives the words back. -/
theorem compile_join {words : List (List Char)} (h : words ≠ []) :
    compile (join words) [] = some words := by
  induction words with
  | nil => exact absurd rfl h
  | cons word words ih =>
      cases words with
      | nil =>
          have hone := compile_escape word [] []
          simpa [join, compile] using hone
      | cons next words =>
          have hrest := ih (List.cons_ne_nil next words)
          change compile (escape word ++ '|' :: join (next :: words)) [] = _
          rw [compile_escape]
          change (compile (join (next :: words)) []).map (word :: ·) = _
          rw [hrest]
          rfl

theorem search_iff {alternatives : List (List Char)} {text : List Char} :
    search alternatives text = true ↔ ∃ word ∈ alternatives, word <:+: text := by
  simp only [search, List.any_eq_true, List.mem_tails, List.isPrefixOf_iff_prefix]
  constructor
  · intro h
    obtain ⟨rest, hrest, word, hword, hstart⟩ := h
    exact ⟨word, hword, hstart.isInfix.trans hrest.isInfix⟩
  · intro h
    obtain ⟨word, hword, hinside⟩ := h
    obtain ⟨rest, hstart, hrest⟩ := List.infix_iff_prefix_suffix.mp hinside
    exact ⟨rest, hrest, word, hword, hstart⟩

end Alternation
