import InquestsApi.Lib.Alternation
import InquestsApi.ApplicationTransactions
import InquestsApi.ClaimRuns

/-! The banned words of generated references: what the filter over them keeps, and when the
words that are left find every banned word of a reference. -/
namespace InquestsApi

def ambiguousCharacters : List Char := "B8G6I10OQDS5Z2".toList

theorem allowedCharacters_eq : allowedCharacters
    = "ABCDEFGHIJKLMNOPQRSTUVWXYZ0123456789".toList.filter (· ∉ ambiguousCharacters) := by
  decide

/-- `str.upper` of a word. -/
def upper (word : String) : String := String.ofList (word.toList.flatMap upperChar)

/-- `[^…]` over the ambiguous characters. -/
def isClear (c : Char) : Bool := c ∉ ambiguousCharacters

/-- The filter up to its end: a `Q` and up to eight clear characters, or one to nine of them. -/
def matchesBody : List Char → Bool
  | [] => false
  | c :: rest => (c = 'Q' || isClear c) && rest.all isClear && rest.length ≤ 8

/-- The filter over banned words. Its `$` also matches before a last line break. -/
def matchesFilter (word : List Char) : Bool :=
  matchesBody word || (word.getLast? = some '\n' && matchesBody word.dropLast)

structure ReferenceRules where
  bannedWords : List String
  bannedWordsPattern : List (List Char)
  deriving DecidableEq, Repr

/-- The words that the rules keep. -/
def keptBannedWords (words : List String) : List String :=
  (words.map upper).filter fun word => matchesFilter word.toList

/-- `ReferenceRules.__init__`, with no result where the pattern does not compile. -/
def ReferenceRules.init (words : List String) : Option ReferenceRules :=
  (Alternation.compile (Alternation.join ((keptBannedWords words).map String.toList)) []).map
    fun pattern => { bannedWords := keptBannedWords words, bannedWordsPattern := pattern }

/-- `ReferenceRules.contains_banned_word`. -/
def ReferenceRules.containsBannedWord (rules : ReferenceRules) (text : String) : Bool :=
  if rules.bannedWords.isEmpty then false
  else Alternation.search rules.bannedWordsPattern text.toList

/-- The two kinds of generated references. -/
inductive ReferenceKind where
  | laa
  | claim
  deriving DecidableEq, Repr

/-- The fixed start of a reference without its dashes. -/
def ReferenceKind.stem : ReferenceKind → List Char
  | .laa => ['I', 'N', 'Q']
  | .claim => ['I', 'N', 'Q', 'C']

/-- How many characters are drawn. -/
def ReferenceKind.drawn : ReferenceKind → ℕ
  | .laa => 6
  | .claim => 8

/-- A reference of the kind, its dashes removed: the stem and characters that were drawn. -/
def ReferenceText (kind : ReferenceKind) (text : String) : Prop :=
  ∃ tail, text.toList = kind.stem ++ tail ∧ tail.length = kind.drawn ∧ ∀ c ∈ tail, c ∈ allowedCharacters

/-- `text.replace("-", "")`. -/
def undashed (text : String) : String := String.ofList (text.toList.filter (· ≠ '-'))

section Words

variable (kind : ReferenceKind) (words : List String) (text word : String)

/-- The word is in the text, and not in the stem. -/
def Occurs : Prop := ¬ word.toList <:+: kind.stem ∧ word.toList <:+: text.toList

/-- Words with the start of a stem in them that the filter takes for impossible: it lets a `Q`
come first only, and then with eight characters at most behind it. -/
def Overlooked : Prop :=
  ['N', 'Q'] <+: word.toList ∨ ['I', 'N', 'Q'] <+: word.toList
    ∨ (['Q', 'C'] <+: word.toList ∧ word.toList.length = 10)

/-- Words of the stem that the filter keeps. -/
def Shadowing : Prop := word.toList <:+: kind.stem ∧ word ∈ ["N", "Q", "C", "QC"]

/-- A banned word occurs that the filter keeps. -/
def Found : Prop := ∃ word ∈ words, Occurs kind text (upper word) ∧ ¬ Overlooked (upper word)

/-- A banned word occurs that the filter drops. -/
def Missed : Prop := ∃ word ∈ words, Occurs kind text (upper word) ∧ Overlooked (upper word)

/-- A banned word of the stem is kept, so that every reference has it. -/
def Shadowed : Prop := ∃ word ∈ words, Shadowing kind (upper word)

instance : Decidable (Occurs kind text word) := inferInstanceAs (Decidable (_ ∧ _))

instance : Decidable (Overlooked word) := inferInstanceAs (Decidable (_ ∨ _))

instance : Decidable (Shadowing kind word) := inferInstanceAs (Decidable (_ ∧ _))

instance : Decidable (Found kind words text) := inferInstanceAs (Decidable (∃ word ∈ words, _))

instance : Decidable (Missed kind words text) := inferInstanceAs (Decidable (∃ word ∈ words, _))

instance : Decidable (Shadowed kind words) := inferInstanceAs (Decidable (∃ word ∈ words, _))

end Words

section Filter

variable {kind : ReferenceKind} {word tail : List Char}

theorem clear_of_allowed : ∀ c ∈ allowedCharacters, isClear c = true ∧ c ≠ 'Q' ∧ c ≠ '\n' :=
  List.all_iff_forall_prop.mp (by decide)

theorem matchesFilter_of_one_line (h : '\n' ∉ word) : matchesFilter word = matchesBody word := by
  have hlast : word.getLast? ≠ some '\n' := fun hlast => h (List.mem_of_getLast? hlast)
  simp [matchesFilter, hlast]

theorem matchesBody_cons {c : Char} {rest : List Char} : matchesBody (c :: rest) = true ↔
    (c = 'Q' ∨ isClear c = true) ∧ (∀ d ∈ rest, isClear d = true) ∧ rest.length ≤ 8 := by
  simp [matchesBody, and_assoc]

/-- The words of a stem: the filter keeps four of them. -/
theorem matchesFilter_of_stem (h : word <:+: kind.stem) :
    matchesFilter word = true ↔ word ∈ [['N'], ['Q'], ['C'], ['Q', 'C']] := by
  have hall : ∀ w ∈ kind.stem.tails.flatMap List.inits,
      (matchesFilter w = true ↔ w ∈ [['N'], ['Q'], ['C'], ['Q', 'C']]) := by
    cases kind <;> decide +kernel
  obtain ⟨rest, hstart, hrest⟩ := List.infix_iff_prefix_suffix.mp h
  apply hall
  exact List.mem_flatMap.mpr ⟨rest, (List.mem_tails _ _).mpr hrest, (List.mem_inits _ _).mpr hstart⟩

theorem matchesBody_of_clear {c : Char} {rest : List Char} (hclear : ∀ d ∈ rest, isClear d = true) :
    matchesBody (c :: rest) = true ↔ (c = 'Q' ∨ isClear c = true) ∧ rest.length ≤ 8 := by
  rw [matchesBody_cons]
  constructor
  · intro h
    exact ⟨h.1, h.2.2⟩
  · intro h
    exact ⟨h.1, hclear, h.2⟩

/-- A `Q` after the first character is never matched. -/
theorem not_matchesBody_of_inner {c : Char} {rest : List Char} (h : 'Q' ∈ rest) :
    ¬ matchesBody (c :: rest) = true := by
  intro hbody
  have hq := (matchesBody_cons.mp hbody).2.1 'Q' h
  exact absurd hq (by decide)

theorem mem_of_overlooked {word : String} (h : Overlooked word) : 'Q' ∈ word.toList := by
  rcases h with h | h | h
  · exact h.subset (by decide)
  · exact h.subset (by decide)
  · exact h.1.subset (by decide)

/-- The words that reach from the stem into the drawn characters. -/
theorem matchesBody_across {word : String} {stemmed drawn : List Char} (hstem : stemmed <:+ kind.stem)
    (hne : stemmed ≠ []) (hword : word.toList = stemmed ++ drawn) (hlength : drawn.length ≤ kind.drawn)
    (hclear : ∀ c ∈ drawn, isClear c = true) :
    matchesBody word.toList = true ↔ ¬ Overlooked word := by
  have hinner : ∀ c rest, stemmed ++ drawn = c :: rest → 'Q' ∈ rest → Overlooked word →
      (matchesBody word.toList = true ↔ ¬ Overlooked word) := by
    intro c rest hcons hq hoverlooked
    rw [hword, hcons]
    exact iff_of_false (not_matchesBody_of_inner hq) (not_not_intro hoverlooked)
  have hmem : stemmed ∈ kind.stem.tails := (List.mem_tails _ _).mpr hstem
  cases kind with
  | laa =>
      have hcases : stemmed ∈ [['I', 'N', 'Q'], ['N', 'Q'], ['Q'], []] := hmem
      simp only [List.mem_cons, List.not_mem_nil, or_false] at hcases
      change drawn.length ≤ 6 at hlength
      rcases hcases with rfl | rfl | rfl | rfl
      · exact hinner 'I' ('N' :: 'Q' :: drawn) rfl (by simp) (by simp [Overlooked, hword])
      · exact hinner 'N' ('Q' :: drawn) rfl (by simp) (by simp [Overlooked, hword])
      · rw [hword, List.singleton_append, matchesBody_of_clear hclear]
        simp [Overlooked, hword]
        omega
      · exact absurd rfl hne
  | claim =>
      have hcases : stemmed ∈ [['I', 'N', 'Q', 'C'], ['N', 'Q', 'C'], ['Q', 'C'], ['C'], []] := hmem
      simp only [List.mem_cons, List.not_mem_nil, or_false] at hcases
      change drawn.length ≤ 8 at hlength
      rcases hcases with rfl | rfl | rfl | rfl | rfl
      · exact hinner 'I' ('N' :: 'Q' :: 'C' :: drawn) rfl (by simp) (by simp [Overlooked, hword])
      · exact hinner 'N' ('Q' :: 'C' :: drawn) rfl (by simp) (by simp [Overlooked, hword])
      · have hclear' : ∀ c ∈ 'C' :: drawn, isClear c = true := List.forall_mem_cons.mpr ⟨rfl, hclear⟩
        have hcons : ['Q', 'C'] ++ drawn = 'Q' :: 'C' :: drawn := rfl
        rw [hword, hcons, matchesBody_of_clear hclear']
        simp [Overlooked, hword]
        omega
      · have hc : isClear 'C' = true := rfl
        rw [hword, List.singleton_append, matchesBody_of_clear hclear]
        simp [Overlooked, hword, hc]
        omega
      · exact absurd rfl hne

/-- The words of the drawn characters. -/
theorem matchesBody_drawn {word : List Char} (hne : word ≠ []) (hlength : word.length ≤ 8)
    (hclear : ∀ d ∈ word, isClear d = true) : matchesBody word = true := by
  cases word with
  | nil => exact absurd rfl hne
  | cons c rest =>
      rw [List.length_cons] at hlength
      have hrest : ∀ d ∈ rest, isClear d = true := fun d hd => hclear d (List.mem_cons_of_mem c hd)
      rw [matchesBody_of_clear hrest]
      constructor
      · exact Or.inr (hclear c List.mem_cons_self)
      · omega

/-- The filter keeps the words of a text but for the overlooked ones. -/
theorem matchesFilter_of_occurs {text word : String} (htext : ReferenceText kind text)
    (h : Occurs kind text word) : matchesFilter word.toList = true ↔ ¬ Overlooked word := by
  obtain ⟨tail, htail, hlength, hallowed⟩ := htext
  obtain ⟨hstem, hinside⟩ := h
  rw [htail] at hinside
  have hline : '\n' ∉ word.toList := by
    intro hmem
    rcases List.mem_append.mp (hinside.subset hmem) with h | h
    · cases kind <;> exact absurd h (by decide)
    · exact (clear_of_allowed _ (hallowed _ h)).2.2 rfl
  rw [matchesFilter_of_one_line hline]
  rcases List.infix_append_iff_ne_nil.mp hinside with h | h | h
  · exact absurd h hstem
  · -- drawn characters only: none of them is a Q, and there are at most eight
    have hnot : ¬ Overlooked word := by
      intro hoverlooked
      have hq := hallowed _ (h.subset (mem_of_overlooked hoverlooked))
      exact (clear_of_allowed _ hq).2.1 rfl
    have hclear : ∀ d ∈ word.toList, isClear d = true := fun d hd =>
      (clear_of_allowed d (hallowed d (h.subset hd))).1
    have hshort : word.toList.length ≤ 8 := by
      have hle := h.length_le
      have hdrawn : kind.drawn ≤ 8 := by cases kind <;> decide
      omega
    have hne : word.toList ≠ [] := fun hempty => hstem (hempty ▸ List.nil_infix)
    exact iff_of_true (matchesBody_drawn hne hshort hclear) hnot
  · obtain ⟨stemmed, drawn, hne, -, hword, hsuffix, hstart⟩ := h
    have hle := hstart.length_le
    refine matchesBody_across hsuffix hne hword (hlength ▸ hle) ?_
    intro c hc
    exact (clear_of_allowed c (hallowed c (hstart.subset hc))).1

end Filter

section Search

variable {kind : ReferenceKind} {words : List String} {text : String}

theorem contains_iff {word : String} : contains word text = true ↔ word.toList <:+: text.toList := by
  simp only [contains, List.any_eq_true, List.mem_tails, List.isPrefixOf_iff_prefix]
  rw [List.infix_iff_prefix_suffix]
  constructor
  · intro h
    obtain ⟨rest, hrest, hstart⟩ := h
    exact ⟨rest, hstart, hrest⟩
  · intro h
    obtain ⟨rest, hstart, hrest⟩ := h
    exact ⟨rest, hrest, hstart⟩

/-- The pattern always compiles. -/
theorem init_ok (words : List String) : ∃ rules, ReferenceRules.init words = some rules
    ∧ rules.bannedWords = keptBannedWords words
    ∧ ∀ text, rules.containsBannedWord text = containsBannedWord rules.bannedWords text := by
  unfold ReferenceRules.init
  by_cases hkept : keptBannedWords words = []
  · have hcompile : Alternation.compile (Alternation.join ((keptBannedWords words).map String.toList)) []
        = some [[]] := by rw [hkept]; rfl
    refine ⟨⟨keptBannedWords words, [[]]⟩, ?_, rfl, ?_⟩
    · exact congrArg (Option.map _) hcompile
    · intro text
      simp [ReferenceRules.containsBannedWord, containsBannedWord, hkept]
  · have hmapped : (keptBannedWords words).map String.toList ≠ [] := fun h =>
      hkept (List.map_eq_nil_iff.mp h)
    have hcompile := Alternation.compile_join hmapped
    refine ⟨⟨keptBannedWords words, (keptBannedWords words).map String.toList⟩, ?_, rfl, ?_⟩
    · exact congrArg (Option.map _) hcompile
    · intro text
      rw [Bool.eq_iff_iff]
      simp [ReferenceRules.containsBannedWord, containsBannedWord, hkept, Alternation.search_iff, contains_iff]

/-- A kept word in a text is one that the stem does not have, or every reference has it. -/
theorem containsBannedWord_iff (htext : ReferenceText kind text) :
    containsBannedWord (keptBannedWords words) text = true
      ↔ Found kind words text ∨ Shadowed kind words := by
  obtain ⟨tail, htail, -, -⟩ := id htext
  simp only [containsBannedWord, List.any_eq_true, contains_iff, keptBannedWords, List.mem_filter,
    List.mem_map]
  constructor
  · rintro ⟨_, ⟨⟨word, hword, rfl⟩, hkept⟩, hinside⟩
    by_cases hstem : (upper word).toList <:+: kind.stem
    · refine Or.inr ⟨word, hword, hstem, ?_⟩
      have hfour := (matchesFilter_of_stem hstem).mp hkept
      simpa [← String.toList_inj] using hfour
    · have hoccurs : Occurs kind text (upper word) := ⟨hstem, hinside⟩
      exact Or.inl ⟨word, hword, hoccurs, (matchesFilter_of_occurs htext hoccurs).mp hkept⟩
  · rintro (⟨word, hword, hoccurs, hnot⟩ | ⟨word, hword, hstem, hfour⟩)
    · have hkept := (matchesFilter_of_occurs htext hoccurs).mpr hnot
      exact ⟨_, ⟨⟨word, hword, rfl⟩, hkept⟩, hoccurs.2⟩
    · refine ⟨_, ⟨⟨word, hword, rfl⟩, (matchesFilter_of_stem hstem).mpr ?_⟩, ?_⟩
      · simpa [← String.toList_inj] using hfour
      · rw [htail]
        exact List.infix_append_of_infix_left hstem

theorem occurs_iff : (∃ word ∈ words, Occurs kind text (upper word))
    ↔ Found kind words text ∨ Missed kind words text := by
  unfold Found Missed
  constructor
  · rintro ⟨word, hword, hoccurs⟩
    by_cases h : Overlooked (upper word)
    · exact Or.inr ⟨word, hword, hoccurs, h⟩
    · exact Or.inl ⟨word, hword, hoccurs, h⟩
  · rintro (⟨word, hword, hoccurs, -⟩ | ⟨word, hword, hoccurs, -⟩) <;> exact ⟨word, hword, hoccurs⟩

end Search

section Drawn

variable {kind : ReferenceKind} {words : List String} {length : ℕ} {generate : ReferenceDraw length → String}
variable {taken : String → Bool} {failure : String} {remaining : ℕ}

theorem undashed_render (draw : ReferenceDraw length) (stem : String) :
    ∃ tail, (undashed (draw.render stem)).toList = stem.toList.filter (· ≠ '-') ++ tail
      ∧ tail.length = length + length ∧ ∀ c ∈ tail, c ∈ allowedCharacters := by
  have hdash : ∀ c ∈ allowedCharacters, c ≠ '-' := List.all_iff_forall_prop.mp (by decide)
  have hkept : ∀ group : Fin length → ReferenceCharacter,
      ((List.ofFn group).map (·.val)).filter (· ≠ '-') = (List.ofFn group).map (·.val) := by
    intro group
    apply List.filter_eq_self.mpr
    intro c hc
    obtain ⟨d, -, rfl⟩ := List.mem_map.mp hc
    exact decide_eq_true (hdash d.val d.property)
  refine ⟨(List.ofFn draw.first).map (·.val) ++ (List.ofFn draw.second).map (·.val), ?_, ?_, ?_⟩
  · have hbar : "-".toList.filter (· ≠ '-') = [] := rfl
    simp only [undashed, ReferenceDraw.render, String.toList_append, String.toList_ofList,
      List.filter_append, hkept, hbar, List.nil_append, List.append_assoc]
  · simp
  · intro c hc
    rcases List.mem_append.mp hc with h | h
    · obtain ⟨d, -, rfl⟩ := List.mem_map.mp h
      exact d.property
    · obtain ⟨d, -, rfl⟩ := List.mem_map.mp h
      exact d.property

theorem referenceText_laa (draw : ReferenceDraw 3) :
    ReferenceText .laa (undashed (generateLaaReference draw)) := undashed_render draw "INQ-"

theorem referenceText_claim (draw : ReferenceDraw 4) :
    ReferenceText .claim (undashed (generateClaimReference draw)) := undashed_render draw "INQC-"

/-- Drawing never gives a taken reference. It never gives one with a banned word in it just when
whatever has an overlooked word in it is rejected for something else. -/
theorem drawReference_clean_iff (hform : ∀ draw, ReferenceText kind (undashed (generate draw))) :
    (∀ (draws : ℕ → ReferenceDraw length) (reference : String),
      drawReference (keptBannedWords words) (fun i => generate (draws i)) taken failure (remaining + 1) 0
          = .ok reference →
        taken reference = false ∧ ∀ word ∈ words, ¬ Occurs kind (undashed reference) (upper word))
      ↔ ∀ draw, Missed kind words (undashed (generate draw)) →
          Found kind words (undashed (generate draw)) ∨ Shadowed kind words
            ∨ taken (generate draw) = true := by
  constructor
  · intro hclean draw hmissed
    by_contra hnot
    have husable : ReferenceUsable (keptBannedWords words) (fun _ => generate draw) taken 0 := by
      rintro (hbanned | htaken)
      · rcases (containsBannedWord_iff (hform draw)).mp hbanned with h | h
        · exact hnot (Or.inl h)
        · exact hnot (Or.inr (Or.inl h))
      · exact hnot (Or.inr (Or.inr htaken))
    obtain ⟨word, hword, hoccurs, -⟩ := hmissed
    exact (hclean (fun _ => draw) _ (drawReference_now husable)).2 word hword hoccurs
  · intro hrejected draws reference hdraw
    obtain ⟨i, rfl, husable⟩ := drawReference_usable hdraw
    have hfree : taken (generate (draws i)) = false := eq_false_of_ne_true fun h => husable (Or.inr h)
    have hkept : ¬ (Found kind words (undashed (generate (draws i))) ∨ Shadowed kind words) := fun h =>
      husable (Or.inl ((containsBannedWord_iff (hform (draws i))).mpr h))
    refine ⟨hfree, ?_⟩
    intro word hword hoccurs
    rcases occurs_iff.mp ⟨word, hword, hoccurs⟩ with h | h
    · exact hkept (Or.inl h)
    · rcases hrejected _ h with h' | h' | h'
      · exact hkept (Or.inl h')
      · exact hkept (Or.inr h')
      · exact absurd h' (by simp [hfree])

end Drawn

/-- A search finds just the banned words of a reference if a kept one is in it, or if a kept word
of the stem stands for an overlooked one. No generated reference is in use; none has a banned word
in it just when those with an overlooked word are rejected for something else. -/
theorem bannedWords_found_iff (words : List String) : ∃ rules, ReferenceRules.init words = some rules
    ∧ (∀ kind text, ReferenceText kind text →
        ((rules.containsBannedWord text = true ↔ ∃ word ∈ words, Occurs kind text (upper word))
          ↔ Found kind words text ∨ (Shadowed kind words ↔ Missed kind words text)))
    ∧ ∀ (env : Env) (s : Store),
        ((∀ draws reference,
            getLaaReference { env with bannedWords := rules.bannedWords, applicationDraws := draws } s
                = .ok reference →
              s.applications.any (·.laaReference = reference) = false
                ∧ ∀ word ∈ words, ¬ Occurs .laa (undashed reference) (upper word))
          ↔ ∀ draw, Missed .laa words (undashed (generateLaaReference draw)) →
              Found .laa words (undashed (generateLaaReference draw)) ∨ Shadowed .laa words
                ∨ s.applications.any (·.laaReference = generateLaaReference draw) = true)
        ∧ ((∀ draws reference,
            getClaimReference { env with bannedWords := rules.bannedWords, draws := draws } s
                = .ok reference →
              s.claims.any (·.claimReference = reference) = false
                ∧ ∀ word ∈ words, ¬ Occurs .claim (undashed reference) (upper word))
          ↔ ∀ draw, Missed .claim words (undashed (generateClaimReference draw)) →
              Found .claim words (undashed (generateClaimReference draw)) ∨ Shadowed .claim words
                ∨ s.claims.any (·.claimReference = generateClaimReference draw) = true) := by
  obtain ⟨rules, hinit, hkept, hcontains⟩ := init_ok words
  refine ⟨rules, hinit, ?_, ?_⟩
  · intro kind text htext
    rw [hcontains, hkept, containsBannedWord_iff htext, occurs_iff]
    tauto
  · intro env s
    rw [hkept]
    exact ⟨drawReference_clean_iff referenceText_laa, drawReference_clean_iff referenceText_claim⟩

theorem bannedWords_found_fake : ∃ rules, ReferenceRules.init ["FAKE"] = some rules
    ∧ (rules.containsBannedWord "INQAFAKEA" = true
        ↔ ∃ word ∈ ["FAKE"], Occurs .laa "INQAFAKEA" (upper word))
    ∧ ∀ draws reference,
        getLaaReference { Sample.env with bannedWords := rules.bannedWords, applicationDraws := draws }
            Sample.store = .ok reference →
          Sample.store.applications.any (·.laaReference = reference) = false
            ∧ ∀ word ∈ ["FAKE"], ¬ Occurs .laa (undashed reference) (upper word) := by
  obtain ⟨rules, hinit, htexts, hdrawn⟩ := bannedWords_found_iff ["FAKE"]
  have htail : ∀ c ∈ "AFAKEA".toList, c ∈ allowedCharacters := List.all_iff_forall_prop.mp (by decide)
  have htext : ReferenceText .laa "INQAFAKEA" := ⟨"AFAKEA".toList, rfl, rfl, htail⟩
  refine ⟨rules, hinit, (htexts .laa _ htext).mpr (Or.inl (by decide +kernel)), ?_⟩
  refine (hdrawn Sample.env Sample.store).1.mpr ?_
  intro draw hmissed
  have hnone : ∀ word ∈ ["FAKE"], ¬ Overlooked (upper word) := by decide +kernel
  obtain ⟨word, hword, -, hoverlooked⟩ := hmissed
  exact absurd hoverlooked (hnone word hword)

/-- A banned word with the end of the stem in it is dropped, and the reference it occurs in is
handed out. -/
theorem bannedWords_missed_nqa : ∃ rules, ReferenceRules.init ["NQA"] = some rules
    ∧ ReferenceText .laa "INQACEFHJ" ∧ Occurs .laa "INQACEFHJ" (upper "NQA")
    ∧ rules.containsBannedWord "INQACEFHJ" = false
    ∧ ∃ draws, getLaaReference
        { Sample.env with bannedWords := rules.bannedWords, applicationDraws := draws } Sample.store
          = .ok "INQ-ACE-FHJ" := by
  let draw : ReferenceDraw 3 :=
    { first := fun i => [⟨'A', by decide⟩, ⟨'C', by decide⟩, ⟨'E', by decide⟩][i]
      second := fun i => [⟨'F', by decide⟩, ⟨'H', by decide⟩, ⟨'J', by decide⟩][i] }
  have htail : ∀ c ∈ "ACEFHJ".toList, c ∈ allowedCharacters := List.all_iff_forall_prop.mp (by decide)
  refine ⟨⟨[], [[]]⟩, by decide +kernel, ⟨"ACEFHJ".toList, rfl, rfl, htail⟩, by decide +kernel, rfl, ?_⟩
  exact ⟨fun _ => draw, by decide +kernel⟩

end InquestsApi
