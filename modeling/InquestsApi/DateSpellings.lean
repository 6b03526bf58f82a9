import InquestsApi.IsoDates
import InquestsApi.Duplicates
import InquestsApi.OgdCostsReport

/-! The spellings of a date that the validators accept: what a text says apart from the form it is
in, and when the dates of two applications are counted as the same. -/
namespace InquestsApi

open UnitOfWork Date ApplicationRepository

/-- What follows the year: a month and a day, a week, or a week and a day. -/
inductive IsoKind where
  | calendar
  | week
  | weekDay
  deriving DecidableEq, Repr

/-- A date text taken apart, with what follows the date. -/
structure IsoFields where
  dashed : Bool
  kind : IsoKind
  year : ℕ
  part : ℕ
  day : ℕ
  trailing : List Char
  deriving DecidableEq, Repr

def isoFields (text : String) : Option IsoFields := do
  if text.utf8ByteSize ∉ [7, 8, 10] then none
  else
    let (year, rest) ← parseDigits 4 0 text.toList
    let dashed := rest.head? = some '-'
    match if dashed then rest.tail else rest with
    | 'W' :: rest =>
      let (week, rest) ← parseDigits 2 0 rest
      if rest = [] then some ⟨dashed, .week, year, week, 1, []⟩
      else
        let rest ← parseDash dashed rest
        let (day, rest) ← parseDigits 1 0 rest
        some ⟨dashed, .weekDay, year, week, day, rest⟩
    | rest =>
      let (month, rest) ← parseDigits 2 0 rest
      let rest ← parseDash dashed rest
      let (day, rest) ← parseDigits 2 0 rest
      some ⟨dashed, .calendar, year, month, day, rest⟩

def IsoFields.toDate (f : IsoFields) : Option Date :=
  match f.kind with
  | .calendar => make f.year f.part f.day
  | .week => ofIsoWeek f.year f.part f.day
  | .weekDay => ofIsoWeek f.year f.part f.day

/-- The form of a text: with dashes or without, what follows the year, and what follows the date. -/
def isoForm (text : String) : Option (Bool × IsoKind × List Char) :=
  (isoFields text).map fun f => (f.dashed, f.kind, f.trailing)

section Parsing

variable {text : String} {f : IsoFields}

theorem fromIsoformat_eq (text : String) : fromIsoformat text = (isoFields text).bind (·.toDate) := by
  unfold fromIsoformat isoFields
  by_cases hlength : text.utf8ByteSize ∉ [7, 8, 10]
  · rw [if_pos hlength, if_pos hlength]
    rfl
  rw [if_neg hlength, if_neg hlength]
  cases parseDigits 4 0 text.toList with
  | none => rfl
  | some yearAndRest =>
      obtain ⟨year, rest⟩ := yearAndRest
      simp only [Option.bind_eq_bind, Option.bind_some]
      generalize (if rest.head? = some '-' then rest.tail else rest) = tail
      generalize decide (rest.head? = some '-') = dashed
      by_cases hweek : ∃ week, tail = 'W' :: week
      · obtain ⟨week, rfl⟩ := hweek
        change (parseDigits 2 0 week).bind _ = ((parseDigits 2 0 week).bind _).bind _
        cases parseDigits 2 0 week with
        | none => rfl
        | some weekAndRest =>
            simp only [Option.bind_some]
            by_cases hrest : weekAndRest.2 = []
            · rw [if_pos hrest, if_pos hrest]
              rfl
            · rw [if_neg hrest, if_neg hrest]
              cases parseDash dashed weekAndRest.2 with
              | none => rfl
              | some dayText =>
                  simp only [Option.bind_some]
                  cases parseDigits 1 0 dayText <;> rfl
      · have hother : ∀ week, tail = 'W' :: week → False := fun week h => hweek ⟨week, h⟩
        simp only
        cases parseDigits 2 0 tail with
        | none => rfl
        | some monthAndRest =>
            simp only [Option.bind_some]
            cases parseDash dashed monthAndRest.2 with
            | none => rfl
            | some dayText =>
                simp only [Option.bind_some]
                cases parseDigits 2 0 dayText <;> rfl

def dash (dashed : Bool) : List Char := if dashed then ['-'] else []

/-- The text that has these parts. -/
def IsoFields.spelling (f : IsoFields) : List Char :=
  digitsOf 4 f.year ++ dash f.dashed ++
    match f.kind with
    | .calendar => digitsOf 2 f.part ++ dash f.dashed ++ digitsOf 2 f.day
    | .week => 'W' :: digitsOf 2 f.part
    | .weekDay => 'W' :: digitsOf 2 f.part ++ dash f.dashed ++ digitsOf 1 f.day

theorem parseDash_eq {dashed : Bool} {chars rest : List Char} (h : parseDash dashed chars = some rest) :
    chars = dash dashed ++ rest := by
  unfold parseDash at h
  split at h
  · cases h
    rfl
  · cases h
    rfl
  · cases h

theorem dash_tail (rest : List Char) : rest = dash (decide (rest.head? = some '-'))
    ++ if rest.head? = some '-' then rest.tail else rest := by
  cases rest with
  | nil => rfl
  | cons c rest =>
      by_cases h : c = '-'
      · subst h
        rfl
      · simp [dash, h]

/-- A text is what its parts say. -/
theorem isoFields_text (h : isoFields text = some f) :
    text.utf8ByteSize ∈ [7, 8, 10] ∧ text.toList = f.spelling ++ f.trailing
      ∧ (f.kind = .week → f.day = 1 ∧ f.trailing = []) := by
  unfold isoFields at h
  by_cases hlength : text.utf8ByteSize ∉ [7, 8, 10]
  · rw [if_pos hlength] at h
    cases h
  rw [if_neg hlength] at h
  refine ⟨not_not.mp hlength, ?_⟩
  obtain ⟨⟨year, rest⟩, hyear, h⟩ := Option.bind_eq_some_iff.mp h
  have hrest := dash_tail rest
  dsimp only at h
  generalize (if rest.head? = some '-' then rest.tail else rest) = tail at h hrest
  generalize decide (rest.head? = some '-') = dashed at h hrest
  have hstart : text.toList = digitsOf 4 year ++ dash dashed ++ tail := by
    rw [(parseDigits_digits hyear).1, hrest, List.append_assoc]
  split at h
  · rename_i afterW
    obtain ⟨⟨week, rest⟩, hweek, h⟩ := Option.bind_eq_some_iff.mp h
    have hweekText := (parseDigits_digits hweek).1
    dsimp only at h
    by_cases hend : rest = []
    · rw [if_pos hend] at h
      cases h
      refine ⟨?_, fun _ => ⟨rfl, rfl⟩⟩
      rw [hstart, hweekText, hend]
      simp [IsoFields.spelling]
    · rw [if_neg hend] at h
      obtain ⟨dayText, hdash, h⟩ := Option.bind_eq_some_iff.mp h
      obtain ⟨⟨day, rest'⟩, hday, h⟩ := Option.bind_eq_some_iff.mp h
      cases h
      refine ⟨?_, fun hkind => nomatch hkind⟩
      rw [hstart, hweekText, parseDash_eq hdash, (parseDigits_digits hday).1]
      simp [IsoFields.spelling]
  · obtain ⟨⟨month, rest⟩, hmonth, h⟩ := Option.bind_eq_some_iff.mp h
    obtain ⟨dayText, hdash, h⟩ := Option.bind_eq_some_iff.mp h
    obtain ⟨⟨day, rest'⟩, hday, h⟩ := Option.bind_eq_some_iff.mp h
    cases h
    dsimp only at hdash
    refine ⟨?_, fun hkind => nomatch hkind⟩
    rw [hstart, (parseDigits_digits hmonth).1, parseDash_eq hdash, (parseDigits_digits hday).1]
    simp [IsoFields.spelling]

theorem utf8ByteSize_digitsOf (count n : ℕ) : (String.ofList (digitsOf count n)).utf8ByteSize = count := by
  have hdigits : ∀ digit < 10, (Char.ofNat ('0'.toNat + digit)).utf8Size = 1 := by decide
  induction count with
  | zero => rfl
  | succ count ih =>
      have hsize := hdigits _ (Nat.mod_lt (n / 10 ^ count) (Nat.succ_pos 9))
      rw [digitsOf, String.ofList_cons, String.utf8ByteSize_append, String.utf8ByteSize_singleton, hsize, ih,
        Nat.add_comm]

/-- A date takes seven bytes at least: eight with a day, and one for each dash. -/
theorem IsoFields.utf8ByteSize_spelling (f : IsoFields) : (String.ofList f.spelling).utf8ByteSize
    = if f.kind = .week then 7 + f.dashed.toNat else 8 + 2 * f.dashed.toNat := by
  obtain ⟨dashed, kind, year, part, day, trailing⟩ := f
  have hdash : ∀ dashed, (String.ofList (dash dashed)).utf8ByteSize = dashed.toNat := by decide
  have hletter : Char.utf8Size 'W' = 1 := rfl
  cases kind with
  | calendar =>
      rw [if_neg IsoKind.noConfusion]
      simp only [IsoFields.spelling, String.ofList_append, String.utf8ByteSize_append, hdash,
        utf8ByteSize_digitsOf]
      omega
  | week =>
      rw [if_pos rfl]
      simp only [IsoFields.spelling, String.ofList_append, String.ofList_cons, String.utf8ByteSize_append,
        String.utf8ByteSize_singleton, hdash, hletter, utf8ByteSize_digitsOf]
      omega
  | weekDay =>
      rw [if_neg IsoKind.noConfusion]
      simp only [IsoFields.spelling, List.cons_append, String.ofList_append, String.ofList_cons,
        String.utf8ByteSize_append, String.utf8ByteSize_singleton, hdash, hletter, utf8ByteSize_digitsOf]
      omega

/-- Nothing follows a date with dashes, and two bytes may follow one without. -/
theorem isoFields_trailing (h : isoFields text = some f) :
    f.trailing = [] ∨ f.dashed = false ∧ (String.ofList f.trailing).utf8ByteSize = 2 := by
  obtain ⟨hlength, htext, hweek⟩ := isoFields_text h
  have hbytes : text.utf8ByteSize
      = (String.ofList f.spelling).utf8ByteSize + (String.ofList f.trailing).utf8ByteSize := by
    rw [← String.utf8ByteSize_append, ← String.ofList_append, ← htext, String.ofList_toList]
  rw [f.utf8ByteSize_spelling] at hbytes
  by_cases hkind : f.kind = .week
  · exact Or.inl (hweek hkind).2
  rw [if_neg hkind] at hbytes
  simp only [List.mem_cons, List.not_mem_nil, or_false] at hlength
  by_cases hzero : (String.ofList f.trailing).utf8ByteSize = 0
  · exact Or.inl (String.ofList_eq_empty_iff.mp (String.utf8ByteSize_eq_zero_iff.mp hzero))
  · cases hdashed : f.dashed with
    | false =>
        rw [hdashed, Bool.toNat_false] at hbytes
        exact Or.inr ⟨rfl, by omega⟩
    | true =>
        rw [hdashed, Bool.toNat_true] at hbytes
        omega

/-- Two accepted texts of one form that denote one day are the same text. -/
theorem spelling_eq {a b : String} (ha : (fromIsoformat a).isSome)
    (hday : fromIsoformat a = fromIsoformat b) (hform : isoForm a = isoForm b) : a = b := by
  obtain ⟨d, hd⟩ := Option.isSome_iff_exists.mp ha
  rw [hd] at hday
  obtain ⟨f, hf, hfd⟩ := Option.bind_eq_some_iff.mp ((fromIsoformat_eq a).symm.trans hd)
  obtain ⟨g, hg, hgd⟩ := Option.bind_eq_some_iff.mp ((fromIsoformat_eq b).symm.trans hday.symm)
  obtain ⟨-, hatext, -⟩ := isoFields_text hf
  obtain ⟨-, hbtext, -⟩ := isoFields_text hg
  unfold isoForm at hform
  rw [hf, hg] at hform
  simp only [Option.map_some, Option.some.injEq, Prod.mk.injEq] at hform
  obtain ⟨hdashed, hkind, htrailing⟩ := hform
  have hparts : f.year = g.year ∧ f.part = g.part ∧ f.day = g.day := by
    unfold IsoFields.toDate at hfd hgd
    rw [← hkind] at hgd
    cases hf' : f.kind with
    | calendar =>
        rw [hf'] at hfd hgd
        obtain ⟨hy, hm, hd⟩ := make_some hfd
        obtain ⟨hy', hm', hd'⟩ := make_some hgd
        exact ⟨hy.symm.trans hy', hm.symm.trans hm', hd.symm.trans hd'⟩
    | week =>
        rw [hf'] at hfd hgd
        exact ofIsoWeek_injective hfd hgd
    | weekDay =>
        rw [hf'] at hfd hgd
        exact ofIsoWeek_injective hfd hgd
  have hsame : f = g := by
    obtain ⟨hy, hp, hd⟩ := hparts
    cases f
    cases g
    simp_all
  apply String.toList_inj.mp
  rw [hatext, hbtext, hsame]

end Parsing

section Counted

/-- Both texts denote one day. -/
def SameDay (a b : String) : Prop := fromIsoformat a = fromIsoformat b

instance (a b : String) : Decidable (SameDay a b) := inferInstanceAs (Decidable (_ = _))

/-- An accepted day is counted as the same if it is written in the same form. -/
theorem sameText_iff {a b : String} (ha : (fromIsoformat a).isSome) :
    (SameDay a b → decide (a = b) = true) ↔ (SameDay a b → isoForm a = isoForm b) := by
  refine imp_congr_right fun hday => ?_
  rw [decide_eq_true_eq]
  constructor
  · rintro rfl
    rfl
  · exact spelling_eq ha hday

example : SameDay "2024W01300" "2024W01399" ∧ isoForm "2024W01300" ≠ isoForm "2024W01399" := by
  decide +kernel

/-- The report of costs sees the day behind the text. -/
theorem dateOfDeath_congr {a b : String} (ha : (fromIsoformat a).isSome) (hb : (fromIsoformat b).isSome) :
    SameDay a b ↔ dateOfDeath a = dateOfDeath b := by
  obtain ⟨d, hd⟩ := Option.isSome_iff_exists.mp ha
  obtain ⟨d', hd'⟩ := Option.isSome_iff_exists.mp hb
  unfold SameDay dateOfDeath
  rw [hd, hd', Option.some.injEq, Except.ok.injEq]

end Counted

/-- The same date of birth or death is counted just when both requests write it in one form, with the
same text behind it, whereas the report of costs takes it for the same in any form. -/
theorem dates_counted_iff (a b : DeceasedCreate) :
    ((SameDay a.deceasedDateOfBirth b.deceasedDateOfBirth →
        sameDateOfBirth (deceasedRow a) (deceasedRow b) = true)
      ↔ (SameDay a.deceasedDateOfBirth b.deceasedDateOfBirth →
        isoForm a.deceasedDateOfBirth = isoForm b.deceasedDateOfBirth))
    ∧ ((SameDay a.deceasedDateOfDeath b.deceasedDateOfDeath →
        sameDateOfDeath (deceasedRow a) (deceasedRow b) = true)
      ↔ (SameDay a.deceasedDateOfDeath b.deceasedDateOfDeath →
        isoForm a.deceasedDateOfDeath = isoForm b.deceasedDateOfDeath))
    ∧ (SameDay a.deceasedDateOfDeath b.deceasedDateOfDeath
      ↔ dateOfDeath (deceasedRow a).deceasedDateOfDeath = dateOfDeath (deceasedRow b).deceasedDateOfDeath)
    ∧ ∀ lowering requests trace s, SubmittedInOrder lowering requests trace s →
      ∀ x ∈ trace, ∀ y ∈ trace, (requests.get x.1).deceased = a → (requests.get y.1).deceased = b →
        ∃ ids, identifyDuplicates lowering y.2.applicationId s = .ok ids
          ∧ (x.2.applicationId ∈ ids ↔ x.2.applicationId ≠ y.2.applicationId
            ∧ duplicateMatchThreshold ≤ matchCount lowering (deceasedRow a) (deceasedRow b)) := by
  refine ⟨sameText_iff a.dateOfBirth, sameText_iff a.dateOfDeath,
    dateOfDeath_congr a.dateOfDeath b.dateOfDeath, ?_⟩
  rintro lowering requests trace s hsubmitted x hx y hy rfl rfl
  obtain ⟨hs, happlications, hdeceased⟩ := hsubmitted.recorded
  have hstored : ∀ z ∈ trace, z.2 ∈ s.applications := fun z hz => by
    rw [happlications]
    exact List.mem_map_of_mem hz
  obtain ⟨ids, hids, hmem⟩ := identifyDuplicates_ok lowering hs.keys hs.submitted (hstored y hy)
  refine ⟨ids, hids, ?_⟩
  rw [hmem]
  have hx' : x.2.deceased = deceasedRow (requests.get x.1).deceased := hdeceased x hx
  have hy' : y.2.deceased = deceasedRow (requests.get y.1).deceased := hdeceased y hy
  rw [← hx', ← hy']
  constructor
  · rintro ⟨z, hz, hne, hduplicate, hid⟩
    have hsame : z = x.2 := List.inj_on_of_nodup_map hs.keys hz (hstored x hx) hid
    subst hsame
    exact ⟨hne, hduplicate⟩
  · rintro ⟨hne, hcount⟩
    exact ⟨x.2, hstored x hx, hne, hcount, rfl⟩

namespace Sample

/-- Two different names and references, with one date of birth and one date of death. -/
def deceasedBorn (firstName coronersReference dateOfBirth dateOfDeath : String)
    (hbirth : (fromIsoformat dateOfBirth).isSome) (hdeath : (fromIsoformat dateOfDeath).isSome) :
    DeceasedCreate :=
  ⟨⟨firstName, "Smith", dateOfBirth, dateOfDeath, coronersReference⟩, hbirth, hdeath⟩

theorem dashedBirth : (fromIsoformat "1950-01-01").isSome := by decide +kernel

theorem dashedDeath : (fromIsoformat "2024-01-01").isSome := by decide +kernel

theorem otherBirth : (fromIsoformat "19500101").isSome := by decide +kernel

theorem otherDeath : (fromIsoformat "2024-W01").isSome := by decide +kernel

def dashedDates : DeceasedCreate :=
  deceasedBorn "John" "REF-1" "1950-01-01" "2024-01-01" dashedBirth dashedDeath

def otherDashedDates : DeceasedCreate :=
  deceasedBorn "Jon" "REF-2" "1950-01-01" "2024-01-01" dashedBirth dashedDeath

def otherForms : DeceasedCreate :=
  deceasedBorn "Jon" "REF-2" "19500101" "2024-W01" otherBirth otherDeath

def respelled : List ApplicationCreate :=
  [{ created providerClient with deceased := dashedDates },
    { created providerClient with deceased := otherForms }]

end Sample

theorem dates_counted_iff_dashed :
    sameDateOfBirth (deceasedRow Sample.dashedDates) (deceasedRow Sample.otherDashedDates) = true
      ∧ sameDateOfDeath (deceasedRow Sample.dashedDates) (deceasedRow Sample.otherDashedDates) = true := by
  obtain ⟨hbirth, hdeath, -⟩ := dates_counted_iff Sample.dashedDates Sample.otherDashedDates
  exact ⟨hbirth.mpr (fun _ => rfl) rfl, hdeath.mpr (fun _ => rfl) rfl⟩

/-- Born and died on one day each, in other spellings: neither date is counted, and no duplicate
is found. -/
theorem dates_not_counted_respelled :
    SameDay Sample.dashedDates.deceasedDateOfBirth Sample.otherForms.deceasedDateOfBirth
      ∧ SameDay Sample.dashedDates.deceasedDateOfDeath Sample.otherForms.deceasedDateOfDeath
      ∧ sameDateOfBirth (deceasedRow Sample.dashedDates) (deceasedRow Sample.otherForms) = false
      ∧ sameDateOfDeath (deceasedRow Sample.dashedDates) (deceasedRow Sample.otherForms) = false
      ∧ ∃ x y s, SubmittedInOrder Sample.env.lowering Sample.respelled
          [((0 : Fin 2), x), ((1 : Fin 2), y)] s
        ∧ identifyDuplicates Sample.env.lowering y.applicationId s = .ok [] := by
  refine ⟨by decide +kernel, by decide +kernel, by decide +kernel, by decide +kernel, ?_⟩
  have hgoes : endsOk (CreateApplicationUseCase.execute Sample.env noFaults
      (Sample.respelled.get (0 : Fin 2)) "F1" ["O1"] (.start (.initial [] [] []))) (fun _ session =>
        endsOk (CreateApplicationUseCase.execute Sample.laterEnv noFaults
          (Sample.respelled.get (1 : Fin 2)) "F1" ["O1"] (.start session.committed)) fun y session' =>
            decide (identifyDuplicates Sample.env.lowering y.applicationId session'.committed = .ok []))
      = true := by decide +kernel
  obtain ⟨x, session, hfirst, hthen⟩ := exists_of_endsOk hgoes
  obtain ⟨y, session', hsecond, hnone⟩ := exists_of_endsOk hthen
  have hone : SubmittedInOrder Sample.env.lowering Sample.respelled [((0 : Fin 2), x)] session.committed :=
    SubmittedInOrder.next (.none [] []) rfl hfirst
  have htwo : SubmittedInOrder Sample.env.lowering Sample.respelled
      [((0 : Fin 2), x), ((1 : Fin 2), y)] session'.committed :=
    SubmittedInOrder.next hone (show Sample.laterEnv.lowering = Sample.env.lowering from rfl) hsecond
  exact ⟨x, y, session'.committed, htwo, of_decide_eq_true hnone⟩

end InquestsApi
