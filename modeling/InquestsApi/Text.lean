import Mathlib.Data.List.Basic
import Mathlib.Data.Rat.Defs

/-! The string operations of the source that the model needs: blank tests after
`strip`, zero-padded numbers and substring search. -/
namespace InquestsApi

/-- The characters that `str.strip` removes. -/
def isStripped (c : Char) : Bool :=
  c.toNat ∈ [0x20, 0x85, 0xA0, 0x1680, 0x2028, 0x2029, 0x202F, 0x205F, 0x3000]
    || (0x09 ≤ c.toNat && c.toNat ≤ 0x0D)
    || (0x1C ≤ c.toNat && c.toNat ≤ 0x1F)
    || (0x2000 ≤ c.toNat && c.toNat ≤ 0x200A)

def isBlank (text : String) : Bool := text.toList.all isStripped

/-- Whether a word occurs in a text. -/
def contains (word text : String) : Bool :=
  text.toList.tails.any fun rest => word.toList.isPrefixOf rest

/-- A number written with at least three digits, as `{n:03d}` does. -/
def threeDigits (n : ℕ) : String :=
  String.ofList (List.replicate (3 - (Nat.repr n).length) '0') ++ Nat.repr n

/-- `str.upper` of one character, exact wherever the result has an ASCII letter in it:
no other character can occur in an upper-cased reference. -/
def upperChar (c : Char) : List Char :=
  match c.toNat with
  | 0xDF => ['S', 'S']
  | 0x131 => ['I']
  | 0x149 => ['\u02BC', 'N']
  | 0x17F => ['S']
  | 0x1F0 => ['J', '\u030C']
  | 0x1E96 => ['H', '\u0331']
  | 0x1E97 => ['T', '\u0308']
  | 0x1E98 => ['W', '\u030A']
  | 0x1E99 => ['Y', '\u030A']
  | 0x1E9A => ['A', '\u02BE']
  | 0xFB00 => ['F', 'F']
  | 0xFB01 => ['F', 'I']
  | 0xFB02 => ['F', 'L']
  | 0xFB03 => ['F', 'F', 'I']
  | 0xFB04 => ['F', 'F', 'L']
  | 0xFB05 => ['S', 'T']
  | 0xFB06 => ['S', 'T']
  | _ => [c.toUpper]

/-- `str.strip`. -/
def strip (text : String) : String :=
  String.ofList ((text.toList.dropWhile isStripped).reverse.dropWhile isStripped).reverse

/-- The `trim` of the database, which removes spaces only. -/
def trim (text : String) : String :=
  String.ofList ((text.toList.dropWhile (· = ' ')).reverse.dropWhile (· = ' ')).reverse

def isAscii (text : String) : Bool := text.toList.all fun c => c.toNat < 0x80

/-- The lower case of ASCII text. -/
def asciiLower (text : String) : String := String.ofList (text.toList.map Char.toLower)

/-- `str.lower` and the `lower` of the database, which agree on ASCII text at least. -/
structure Lowering where
  python : String → String
  sql : String → String
  python_ascii : ∀ text, isAscii text → python text = asciiLower text
  sql_ascii : ∀ text, isAscii text → sql text = asciiLower text

/-- The spelling a reference is looked up under: `strip().upper()`. -/
def normaliseReference (text : String) : String :=
  let stripped := ((text.toList.dropWhile isStripped).reverse.dropWhile isStripped).reverse
  String.ofList (stripped.flatMap upperChar)

/-- `str.capitalize`, exact on ASCII text. -/
def capitalize (text : String) : String :=
  match text.toList with
  | [] => ""
  | c :: rest => String.ofList (c.toUpper :: rest.map Char.toLower)

/-- `text.replace("_", " ")`. -/
def spaceOut (text : String) : String :=
  String.ofList (text.toList.map fun c => if c = '_' then ' ' else c)

/-- A value of the event data: nothing, text, a list of texts, a decimal written as text, or
the fields of a dumped address. -/
inductive Json where
  | null
  | text (s : String)
  | texts (items : List String)
  | amount (x : ℚ)
  | fields (entries : List (String × Option String))
  deriving DecidableEq, Repr

def Json.ofNullable : Option String → Json
  | none => .null
  | some s => .text s

end InquestsApi
