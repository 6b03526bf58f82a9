import Mathlib.Data.List.Basic
import Mathlib.Data.Nat.Bitwise

/-! Names of files: the last part of a path with its stem and its suffix, and the text of a random key that
makes a name one of its own. -/

namespace PurePath

/-- The parts between the slashes, without the empty ones and the dots. -/
def parts (path : List Char) : List (List Char) :=
  (path.splitOn '/').filter fun part => part ≠ [] && part ≠ ['.']

def name (path : List Char) : List Char := (parts path).getLast?.getD []

/-- What comes after the last dot, or the whole name if it has none. -/
def extension (name : List Char) : List Char := (name.reverse.takeWhile (· ≠ '.')).reverse

/-- The last dot starts a suffix unless it is the first character of the name, or the last. -/
def suffix (path : List Char) : List Char :=
  let ext := extension (name path)
  if ext ≠ [] ∧ ext.length + 1 < (name path).length then '.' :: ext else []

def stem (path : List Char) : List Char :=
  (name path).take ((name path).length - (suffix path).length)

theorem dot_notMem_extension (name : List Char) : '.' ∉ extension name := by
  intro h
  have hdot := List.all_eq_true.mp List.all_takeWhile '.' (List.mem_reverse.mp h)
  simp at hdot

/-- A suffix is nothing, or a dot and no other. -/
theorem suffix_cases (path : List Char) : suffix path = [] ∨ ∃ ext, suffix path = '.' :: ext ∧ '.' ∉ ext := by
  unfold suffix
  by_cases h : extension (name path) ≠ [] ∧ (extension (name path)).length + 1 < (name path).length
  · exact .inr ⟨_, if_pos h, dot_notMem_extension _⟩
  · exact .inl (if_neg h)

/-- A text without dots can be read off in front of a suffix. -/
theorem takeWhile_append_suffix {text : List Char} (h : '.' ∉ text) (path : List Char) :
    (text ++ suffix path).takeWhile (· ≠ '.') = text := by
  have htext : ∀ c ∈ text, decide (c ≠ '.') = true := by
    intro c hc
    simp only [decide_eq_true_eq]
    rintro rfl
    exact h hc
  rw [List.takeWhile_append_of_pos htext]
  rcases suffix_cases path with hnone | ⟨ext, hext, -⟩
  · rw [hnone, List.takeWhile_nil, List.append_nil]
  · rw [hext, List.takeWhile_cons_of_neg (by simp), List.append_nil]

end PurePath

namespace UuidText

/-- The digits of a key, the highest first. -/
def digits (key : BitVec 128) : List Char :=
  (List.range 32).map fun i => Nat.digitChar (key.toNat >>> (4 * (31 - i)) % 16)

/-- The thirty-two digits with four hyphens between them. -/
def text (key : BitVec 128) : List Char :=
  (digits key).take 8 ++ '-' :: ((digits key).drop 8).take 4 ++ '-' :: ((digits key).drop 12).take 4
    ++ '-' :: ((digits key).drop 16).take 4 ++ '-' :: (digits key).drop 20

theorem digitChar_mem (n : Fin 16) : n.val.digitChar ∈ "0123456789abcdef".toList := by
  revert n
  decide

theorem digitChar_inj {m n : Fin 16} (h : m.val.digitChar = n.val.digitChar) : m = n := by
  revert m n
  decide

theorem mem_digits {key : BitVec 128} {c : Char} (h : c ∈ digits key) : c ∈ "0123456789abcdef".toList := by
  obtain ⟨i, -, rfl⟩ := List.mem_map.mp h
  exact digitChar_mem ⟨_, Nat.mod_lt _ (by decide)⟩

theorem length_text (key : BitVec 128) : (text key).length = 36 := by
  simp [text, digits]

theorem mem_text {key : BitVec 128} {c : Char} (h : c ∈ text key) : c = '-' ∨ c ∈ digits key := by
  simp only [text, List.mem_append, List.mem_cons] at h
  rcases h with (((h | rfl | h) | rfl | h) | rfl | h) | rfl | h
  · exact .inr (List.mem_of_mem_take h)
  · exact .inl rfl
  · exact .inr (List.mem_of_mem_drop (List.mem_of_mem_take h))
  · exact .inl rfl
  · exact .inr (List.mem_of_mem_drop (List.mem_of_mem_take h))
  · exact .inl rfl
  · exact .inr (List.mem_of_mem_drop (List.mem_of_mem_take h))
  · exact .inl rfl
  · exact .inr (List.mem_of_mem_drop h)

theorem dot_notMem_text (key : BitVec 128) : '.' ∉ text key := by
  intro h
  rcases mem_text h with hhyphen | hdigit
  · exact absurd hhyphen (by decide)
  · exact absurd (mem_digits hdigit) (by decide)

theorem digits_inj {x y : BitVec 128} (h : digits x = digits y) : x = y := by
  apply BitVec.eq_of_getLsbD_eq
  intro i hi
  have hdigit : Nat.digitChar (x.toNat >>> (4 * (31 - (31 - i / 4))) % 16)
      = Nat.digitChar (y.toNat >>> (4 * (31 - (31 - i / 4))) % 16) :=
    List.map_inj_left.mp h (31 - i / 4) (List.mem_range.mpr (by omega))
  have hsame := congrArg Fin.val (digitChar_inj (m := ⟨_, Nat.mod_lt _ (by decide)⟩)
    (n := ⟨_, Nat.mod_lt _ (by decide)⟩) hdigit)
  have hbit : (x.toNat >>> (4 * (31 - (31 - i / 4))) % 16).testBit (i % 4)
      = (y.toNat >>> (4 * (31 - (31 - i / 4))) % 16).testBit (i % 4) := congrArg (·.testBit (i % 4)) hsame
  have hplace : 4 * (31 - (31 - i / 4)) + i % 4 = i := by omega
  have hlow : i % 4 < 4 := Nat.mod_lt _ (by decide)
  rw [show 16 = 2 ^ 4 from rfl, Nat.testBit_mod_two_pow, Nat.testBit_mod_two_pow, Nat.testBit_shiftRight,
    Nat.testBit_shiftRight, hplace] at hbit
  simpa only [hlow, decide_true, Bool.true_and, BitVec.testBit_toNat] using hbit

/-- Without its hyphens, the text is the digits. -/
theorem filter_text (key : BitVec 128) : (text key).filter (· ≠ '-') = digits key := by
  have hdigits : ∀ l : List Char, (∀ c ∈ l, c ∈ digits key) → l.filter (· ≠ '-') = l := by
    intro l hl
    apply List.filter_eq_self.mpr
    intro c hc
    simp only [decide_eq_true_eq]
    rintro rfl
    exact absurd (mem_digits (hl _ hc)) (by decide)
  have hsplit : digits key = (digits key).take 8 ++ (((digits key).drop 8).take 4
      ++ (((digits key).drop 12).take 4 ++ (((digits key).drop 16).take 4 ++ (digits key).drop 20))) := by
    have h16 := List.take_append_drop 4 ((digits key).drop 16)
    have h12 := List.take_append_drop 4 ((digits key).drop 12)
    have h8 := List.take_append_drop 4 ((digits key).drop 8)
    rw [List.drop_drop] at h16 h12 h8
    rw [h16, h12, h8, List.take_append_drop]
  conv_rhs => rw [hsplit]
  simp only [text, List.filter_append, List.filter_cons, List.append_assoc]
  rw [hdigits _ fun c hc => List.mem_of_mem_take hc,
    hdigits _ fun c hc => List.mem_of_mem_drop (List.mem_of_mem_take hc),
    hdigits _ fun c hc => List.mem_of_mem_drop (List.mem_of_mem_take hc),
    hdigits _ fun c hc => List.mem_of_mem_drop (List.mem_of_mem_take hc),
    hdigits _ fun c hc => List.mem_of_mem_drop hc]
  simp

theorem text_inj {x y : BitVec 128} (h : text x = text y) : x = y := by
  apply digits_inj
  rw [← filter_text x, h, filter_text]

end UuidText
