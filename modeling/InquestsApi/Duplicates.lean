import InquestsApi.CaseRuns
import InquestsApi.GrantCreated
import InquestsApi.Lib.Arrivals
import InquestsApi.Lib.Join

/-! Duplicates among applications that are created one after another. The database normalises
the stored name and Python the new one, so it can matter which of two was stored first. -/
namespace InquestsApi

open UnitOfWork ApplicationRepository Arrivals

/-- The two applications of each record, the one that was new first. -/
def existingPairs (s : Store) : List (ℕ × ℕ) :=
  s.duplicateApplicationRecords.map fun r => (r.applicationId, r.duplicateApplicationId)

section Backfill

variable (lowering : Lowering)

def newDuplicateIds (existing : List (ℕ × ℕ)) (applicationId : ℕ) (potentialDuplicates : List ℕ) :
    List ℕ :=
  potentialDuplicates.filter fun duplicateId =>
    (applicationId, duplicateId) ∉ existing && (duplicateId, applicationId) ∉ existing

def backfillFrom : List ℕ → List (ℕ × ℕ) → Store → Except ApiError Store
  | [], _, s => .ok s
  | applicationId :: rest, existing, s => do
    let potentialDuplicates ← identifyDuplicates lowering applicationId s
    let duplicateIds := newDuplicateIds existing applicationId potentialDuplicates
    backfillFrom rest (existing ++ duplicateIds.map fun duplicateId => (applicationId, duplicateId))
      (insertDuplicateRecords applicationId duplicateIds s)

def allApplicationIds (s : Store) : List ℕ :=
  (s.applications.insertionSort fun a b => a.createdAt.instant ≤ b.createdAt.instant).map
    (·.applicationId)

/-- `backfill_duplicate_applications`: create missing duplicate records for every application. -/
def backfillDuplicateApplications (s : Store) : Except ApiError Store :=
  backfillFrom lowering (allApplicationIds s) (existingPairs s) s

end Backfill

/-- What two applications agree on besides the name; no order matters to it. -/
def agreements (a b : Deceased) : ℕ :=
  (sameDateOfBirth a b).toNat + (sameDateOfDeath a b).toNat + (sameCoronersReference a b).toNat

def IsDuplicate (lowering : Lowering) (stored new : Deceased) : Prop :=
  duplicateMatchThreshold ≤ matchCount lowering stored new

section Matching

variable {lowering : Lowering} {a b : Deceased}

theorem agreements_comm : agreements a b = agreements b a := by
  have hbirth : sameDateOfBirth a b = sameDateOfBirth b a := by
    simp only [sameDateOfBirth, eq_comm]
  have hdeath : sameDateOfDeath a b = sameDateOfDeath b a := by
    simp only [sameDateOfDeath, eq_comm]
  have hreference : sameCoronersReference a b = sameCoronersReference b a := by
    unfold sameCoronersReference
    by_cases hsame : a.coronersReference = b.coronersReference
    · rw [hsame]
    · have hback : b.coronersReference ≠ a.coronersReference := Ne.symm hsame
      simp [hsame, hback]
  rw [agreements, agreements, hbirth, hdeath, hreference]

theorem isDuplicate_iff :
    IsDuplicate lowering a b ↔ 2 ≤ agreements a b + (sameName lowering a b).toNat := .rfl

/-- Only where the name decides can it matter which of the two was stored. -/
theorem isDuplicate_symm_iff :
    ((IsDuplicate lowering a b → IsDuplicate lowering b a)
        ∧ (IsDuplicate lowering b a → IsDuplicate lowering a b))
      ↔ (agreements a b = 1 → sameName lowering a b = sameName lowering b a) := by
  rw [isDuplicate_iff, isDuplicate_iff, agreements_comm (a := b)]
  cases sameName lowering a b <;> cases sameName lowering b a <;> simp <;> omega

/-- A name of ASCII text whose outer white space is spaces. -/
structure PlainName (d : Deceased) : Prop where
  first : isAscii d.deceasedFirstName ∧ strip d.deceasedFirstName = trim d.deceasedFirstName
  last : isAscii d.deceasedLastName ∧ strip d.deceasedLastName = trim d.deceasedLastName

theorem isAscii_trim {text : String} (h : isAscii text) : isAscii (trim text) := by
  unfold isAscii trim at *
  rw [List.all_eq_true] at *
  intro c hc
  rw [String.toList_ofList, List.mem_reverse] at hc
  have hdropped := (List.dropWhile_suffix _).subset hc
  exact h c ((List.dropWhile_suffix _).subset (List.mem_reverse.mp hdropped))

/-- Plain names compare alike both ways. -/
theorem sameName_comm (ha : PlainName a) (hb : PlainName b) :
    sameName lowering a b = sameName lowering b a := by
  have hlower : ∀ text, isAscii text → strip text = trim text →
      lowering.python (strip text) = lowering.sql (trim text) := by
    intro text hascii hsame
    rw [hsame, lowering.python_ascii _ (isAscii_trim hascii), lowering.sql_ascii _ (isAscii_trim hascii)]
  unfold sameName
  rw [hlower _ ha.first.1 ha.first.2, hlower _ ha.last.1 ha.last.2, hlower _ hb.first.1 hb.first.2,
    hlower _ hb.last.1 hb.last.2]
  simp only [eq_comm]

end Matching

theorem existingPairs_insert (applicationId : ℕ) (duplicateIds : List ℕ) (s : Store) :
    existingPairs (insertDuplicateRecords applicationId duplicateIds s)
      = existingPairs s ++ duplicateIds.map fun duplicateId => (applicationId, duplicateId) := by
  have hrows : ∀ rows, (duplicateRows applicationId duplicateIds rows).map
      (fun r => (r.applicationId, r.duplicateApplicationId))
        = rows.map (fun r => (r.applicationId, r.duplicateApplicationId))
          ++ duplicateIds.map fun duplicateId => (applicationId, duplicateId) := by
    induction duplicateIds with
    | nil =>
        intro rows
        simp only [duplicateRows, List.map_nil, List.append_nil]
    | cons duplicateId rest ih =>
        intro rows
        rw [duplicateRows, ih]
        simp only [List.map_append, List.map_cons, List.map_nil, List.append_assoc,
          List.singleton_append]
  exact hrows _

/-- Applications that have only been created, with a record for each duplicate among them: of
the one that came later, against the one that was there. -/
structure DuplicatesRecorded (lowering : Lowering) (s : Store) : Prop where
  keys : (s.applications.map (·.applicationId)).Nodup
  submitted : ∀ a ∈ s.applications, a.proceeding.meritsDecision = .submitted
  recorded : ∀ newId storedId, (newId, storedId) ∈ existingPairs s ↔
    ∃ stored new, Precedes s.applications stored new
      ∧ IsDuplicate lowering stored.deceased new.deceased
      ∧ newId = new.applicationId ∧ storedId = stored.applicationId

section Search

variable {lowering : Lowering} {s : Store} {application : Application}

/-- The search finds every other application that is alike. -/
theorem identifyDuplicates_ok (lowering : Lowering)
    (hkeys : (s.applications.map (·.applicationId)).Nodup)
    (hsubmitted : ∀ a ∈ s.applications, a.proceeding.meritsDecision = .submitted)
    (hmem : application ∈ s.applications) :
    ∃ ids, identifyDuplicates lowering application.applicationId s = .ok ids
      ∧ ∀ id, id ∈ ids ↔ ∃ stored ∈ s.applications, stored.applicationId ≠ application.applicationId
        ∧ IsDuplicate lowering stored.deceased application.deceased ∧ stored.applicationId = id := by
  have hfound : s.applications.find? (fun a => a.applicationId = application.applicationId)
      = some application := (Join.find?_key_iff hkeys).mpr ⟨hmem, rfl⟩
  unfold identifyDuplicates
  rw [hfound]
  refine ⟨_, rfl, ?_⟩
  intro id
  simp only [List.mem_map, List.mem_filter, Bool.and_eq_true, decide_eq_true_eq, IsDuplicate]
  constructor
  · rintro ⟨stored, ⟨hstored, ⟨hother, -⟩, hcount⟩, hid⟩
    exact ⟨stored, hstored, hother, hcount, hid⟩
  · rintro ⟨stored, hstored, hother, hcount, hid⟩
    refine ⟨stored, ⟨hstored, ⟨hother, ?_⟩, hcount⟩, hid⟩
    rw [hsubmitted stored hstored]
    decide

/-- Where a record stands for each duplicate, one way round or the other, none is added. -/
theorem backfill_adds_nothing (hkeys : (s.applications.map (·.applicationId)).Nodup)
    (hsubmitted : ∀ a ∈ s.applications, a.proceeding.meritsDecision = .submitted)
    (hrecorded : ∀ stored ∈ s.applications, ∀ new ∈ s.applications,
      stored.applicationId ≠ new.applicationId → IsDuplicate lowering stored.deceased new.deceased →
        (new.applicationId, stored.applicationId) ∈ existingPairs s
          ∨ (stored.applicationId, new.applicationId) ∈ existingPairs s) :
    backfillDuplicateApplications lowering s = .ok s := by
  have hids : ∀ id ∈ allApplicationIds s, ∃ a ∈ s.applications, a.applicationId = id := by
    intro id hid
    obtain ⟨a, ha, hsame⟩ := List.mem_map.mp hid
    exact ⟨a, (List.mem_insertionSort _).mp ha, hsame⟩
  unfold backfillDuplicateApplications
  generalize allApplicationIds s = ids at hids
  induction ids with
  | nil => rfl
  | cons id rest ih =>
      obtain ⟨a, ha, rfl⟩ := hids id List.mem_cons_self
      obtain ⟨found, hfound, hmem⟩ := identifyDuplicates_ok lowering hkeys hsubmitted ha
      have hnone : newDuplicateIds (existingPairs s) a.applicationId found = [] := by
        apply List.filter_eq_nil_iff.mpr
        intro duplicateId hduplicate
        obtain ⟨stored, hstored, hother, hsame, rfl⟩ := (hmem duplicateId).mp hduplicate
        rcases hrecorded stored hstored a ha hother hsame with h | h <;> simp [h]
      have hrest := ih fun id hid => hids id (List.mem_cons_of_mem _ hid)
      refine except_bind_ok.mpr ⟨found, hfound, ?_⟩
      simp only [hnone, List.map_nil, List.append_nil]
      exact hrest

end Search

section Creation

variable {env : Env} {faults : Faults} {request : ApplicationCreate} {firmCode : String}
variable {userOfficeCodes : List String} {application : Application} {s : Store}
variable {session : Session Store Notification OrmObject}

/-- A creation after others records its own duplicates. -/
theorem DuplicatesRecorded.creation (hs : DuplicatesRecorded env.lowering s)
    (hgoes : CreateApplicationUseCase.execute env faults request firmCode userOfficeCodes (.start s)
      = .ok application session) :
    DuplicatesRecorded env.lowering session.committed
      ∧ session.committed.applications = s.applications ++ [application]
      ∧ application.deceased = deceasedRow request.deceased := by
  obtain ⟨t', hbody, hcommitted⟩ := createApplication_body hgoes
  obtain ⟨t₁, u, hcreate, hsubmit⟩ := createBody_ok.mp hbody
  obtain ⟨_, _, _, -, -, -, -, hrow, rfl⟩ := createApplication_ok.mp hcreate
  obtain ⟨-, -, -, ids, _, _, hidentified, -, -, -, -, -, -, rfl⟩ :=
    CreateApplicationUseCase.submitApplication_ok.mp hsubmit
  have hid : application.applicationId = nextKey (s.applications.map (·.applicationId)) := by
    rw [hrow]
    rfl
  have hnew : ∀ a ∈ s.applications, a.applicationId ≠ application.applicationId := by
    intro a ha
    rw [hid]
    exact nextKey_ne (List.mem_map_of_mem ha)
  let inserted : Store := { s with applications := s.applications ++ [application] }
  have hkeys : (inserted.applications.map (·.applicationId)).Nodup := by
    rw [List.map_append, List.map_singleton]
    refine List.nodup_append.mpr ⟨hs.keys, List.nodup_singleton _, ?_⟩
    intro id hold id' hlast
    obtain ⟨a, ha, rfl⟩ := List.mem_map.mp hold
    rw [List.mem_singleton.mp hlast]
    exact hnew a ha
  have hsubmitted : ∀ a ∈ inserted.applications, a.proceeding.meritsDecision = .submitted := by
    intro a ha
    rcases List.mem_append.mp ha with hold | hlast
    · exact hs.submitted a hold
    · rw [List.mem_singleton.mp hlast, hrow]
      rfl
  obtain ⟨found, hfound, hmem⟩ := identifyDuplicates_ok env.lowering hkeys hsubmitted
    (List.mem_append_right s.applications (List.mem_singleton_self application))
  have hsame : found = ids := Except.ok.inj (hfound.symm.trans hidentified)
  refine ⟨?_, by rw [hcommitted]; rfl, by rw [hrow]; rfl⟩
  have happlications : session.committed.applications = inserted.applications := by
    rw [hcommitted]
    rfl
  have hpairs : existingPairs session.committed
      = existingPairs s ++ ids.map fun duplicateId => (application.applicationId, duplicateId) := by
    rw [hcommitted]
    exact existingPairs_insert application.applicationId ids inserted
  refine ⟨happlications ▸ hkeys, happlications ▸ hsubmitted, ?_⟩
  intro newId storedId
  rw [hpairs, happlications, List.mem_append, hs.recorded, ← hsame]
  simp only [inserted, precedes_append_singleton, List.mem_map, hmem, Prod.mk.injEq]
  constructor
  · rintro (⟨stored, new, hprecedes, h⟩ | ⟨_, ⟨stored, hstored, hother, hduplicate, rfl⟩, rfl, rfl⟩)
    · exact ⟨stored, new, .inl hprecedes, h⟩
    · have hold : stored ∈ s.applications := by
        refine (List.mem_append.mp hstored).resolve_right fun hlast => ?_
        exact hother (by rw [List.mem_singleton.mp hlast])
      exact ⟨stored, application, .inr ⟨hold, rfl⟩, hduplicate, rfl, rfl⟩
  · rintro ⟨stored, new, hprecedes | ⟨hold, rfl⟩, hduplicate, rfl, rfl⟩
    · exact .inl ⟨stored, new, hprecedes, hduplicate, rfl, rfl⟩
    · exact .inr ⟨_, ⟨stored, List.mem_append_left _ hold, hnew stored hold, hduplicate, rfl⟩, rfl, rfl⟩

end Creation

/-- Applications created one after another in an empty database, each under a label and under
whatever surroundings let it go through; the trace pairs labels with what was stored. -/
inductive SubmittedInOrder (lowering : Lowering) (requests : List ApplicationCreate) :
    List (Fin requests.length × Application) → Store → Prop
  | none (evidence : List ClaimEvidence) (events : List HistoryEvent) :
      SubmittedInOrder lowering requests [] (.initial [] evidence events)
  | next {trace : List (Fin requests.length × Application)} {s : Store} {i : Fin requests.length}
      {env : Env} {faults : Faults} {firmCode : String} {userOfficeCodes : List String}
      {application : Application} {session : Session Store Notification OrmObject}
      (h : SubmittedInOrder lowering requests trace s) (hlowering : env.lowering = lowering)
      (hgoes : CreateApplicationUseCase.execute env faults (requests.get i) firmCode userOfficeCodes
        (.start s) = .ok application session) :
      SubmittedInOrder lowering requests (trace ++ [(i, application)]) session.committed

section Orders

variable {lowering : Lowering} {requests : List ApplicationCreate}
variable {trace : List (Fin requests.length × Application)} {s : Store}

/-- The unordered pairs of labels that are recorded. -/
def recordedPairs (trace : List (Fin requests.length × Application)) (s : Store) :
    Set (Sym2 (Fin requests.length)) :=
  {p | ∃ x ∈ trace, ∃ y ∈ trace,
    (x.2.applicationId, y.2.applicationId) ∈ existingPairs s ∧ p = s(x.1, y.1)}

/-- Every request has been submitted, in some order. -/
def AllSubmitted (lowering : Lowering) (requests : List ApplicationCreate)
    (trace : List (Fin requests.length × Application)) (s : Store) : Prop :=
  SubmittedInOrder lowering requests trace s
    ∧ (trace.map Prod.fst).Perm (List.finRange requests.length)

/-- Whichever order the requests come in, each of them can go through. -/
def GoThroughInAnyOrder (lowering : Lowering) (requests : List ApplicationCreate) : Prop :=
  ∀ order, order.Perm (List.finRange requests.length) →
    ∃ trace s, SubmittedInOrder lowering requests trace s ∧ trace.map Prod.fst = order

/-- Every order records the same pairs, and the backfill finds nothing to add to any. -/
structure OrderDoesNotMatter (lowering : Lowering) (requests : List ApplicationCreate) : Prop where
  samePairs : ∀ trace₁ s₁ trace₂ s₂, AllSubmitted lowering requests trace₁ s₁ →
    AllSubmitted lowering requests trace₂ s₂ → recordedPairs trace₁ s₁ = recordedPairs trace₂ s₂
  backfill : ∀ trace s, AllSubmitted lowering requests trace s →
    backfillDuplicateApplications lowering s = .ok s

def storedDeceased (requests : List ApplicationCreate) (i : Fin requests.length) : Deceased :=
  deceasedRow (requests.get i).deceased

/-- Wherever the name of two applications decides, it compares alike whichever is stored. -/
def NamesCompareAlike (lowering : Lowering) (requests : List ApplicationCreate) : Prop :=
  ∀ i j, agreements (storedDeceased requests i) (storedDeceased requests j) = 1 →
    sameName lowering (storedDeceased requests i) (storedDeceased requests j)
      = sameName lowering (storedDeceased requests j) (storedDeceased requests i)

/-- Two labels that are found to be duplicates when they are submitted in this order. -/
def DuplicateLabels (lowering : Lowering) (requests : List ApplicationCreate)
    (i j : Fin requests.length) : Prop :=
  IsDuplicate lowering (storedDeceased requests i) (storedDeceased requests j)

theorem duplicateLabels_symm_iff :
    (∀ i j, i ≠ j → DuplicateLabels lowering requests i j → DuplicateLabels lowering requests j i)
      ↔ NamesCompareAlike lowering requests := by
  constructor
  · intro hsymm i j
    apply isDuplicate_symm_iff.mp
    by_cases hsame : i = j
    · rw [hsame]
      exact ⟨id, id⟩
    · exact ⟨hsymm i j hsame, hsymm j i (Ne.symm hsame)⟩
  · intro halike i j _
    exact (isDuplicate_symm_iff.mpr (halike i j)).1

/-- The step and the run: what is stored is the trace, with the duplicates recorded in it. -/
theorem SubmittedInOrder.recorded (h : SubmittedInOrder lowering requests trace s) :
    DuplicatesRecorded lowering s ∧ s.applications = trace.map Prod.snd
      ∧ ∀ x ∈ trace, x.2.deceased = storedDeceased requests x.1 := by
  induction h with
  | none evidence events =>
      refine ⟨⟨List.nodup_nil, fun _ hnone => (nomatch hnone), ?_⟩, rfl, fun _ hnone => (nomatch hnone)⟩
      intro newId storedId
      constructor
      · intro hnone
        cases hnone
      · rintro ⟨stored, new, hprecedes, -⟩
        exact absurd hprecedes not_precedes_nil
  | @next trace s i env faults firmCode userOfficeCodes application session h hlowering hgoes ih =>
      obtain ⟨hs, happlications, hdeceased⟩ := ih
      subst hlowering
      obtain ⟨hs', happlications', hdeceased'⟩ := hs.creation hgoes
      refine ⟨hs', ?_, ?_⟩
      · rw [happlications', happlications, List.map_append, List.map_singleton]
      · intro x hx
        rcases List.mem_append.mp hx with hold | hlast
        · exact hdeceased x hold
        · rw [List.mem_singleton.mp hlast]
          exact hdeceased'

/-- The recorded pairs are those that the comparisons find in the order of the trace. -/
theorem recordedPairs_eq (h : SubmittedInOrder lowering requests trace s) :
    recordedPairs trace s
      = foundPairs (DuplicateLabels lowering requests) (trace.map Prod.fst) := by
  obtain ⟨hs, happlications, hdeceased⟩ := h.recorded
  have hkeys : (trace.map fun x => x.2.applicationId).Nodup := by
    have hnodup := hs.keys
    rw [happlications, List.map_map] at hnodup
    exact hnodup
  apply Set.ext
  intro p
  constructor
  · rintro ⟨x, hx, y, hy, hpair, rfl⟩
    obtain ⟨stored, new, hprecedes, hduplicate, hnew, hstored⟩ := (hs.recorded _ _).mp hpair
    rw [happlications] at hprecedes
    obtain ⟨v, u, hvu, rfl, rfl⟩ := precedes_map.mp hprecedes
    obtain ⟨hv, hu⟩ := hvu.mem
    obtain rfl := List.inj_on_of_nodup_map hkeys hx hu hnew
    obtain rfl := List.inj_on_of_nodup_map hkeys hy hv hstored
    rw [hdeceased y hy, hdeceased x hx] at hduplicate
    exact ⟨y.1, x.1, precedes_map.mpr ⟨y, x, hvu, rfl, rfl⟩, hduplicate, Sym2.eq_swap⟩
  · rintro ⟨i, j, hprecedes, hduplicate, rfl⟩
    obtain ⟨y, x, hyx, rfl, rfl⟩ := precedes_map.mp hprecedes
    obtain ⟨hy, hx⟩ := hyx.mem
    refine ⟨x, hx, y, hy, (hs.recorded _ _).mpr ⟨y.2, x.2, ?_, ?_, rfl, rfl⟩, Sym2.eq_swap⟩
    · rw [happlications]
      exact precedes_map.mpr ⟨y, x, hyx, rfl, rfl⟩
    · rw [hdeceased y hy, hdeceased x hx]
      exact hduplicate

/-- Where matching is symmetric, the backfill adds no record. -/
theorem SubmittedInOrder.backfill (h : SubmittedInOrder lowering requests trace s)
    (hsymm : ∀ i j, i ≠ j → DuplicateLabels lowering requests i j →
      DuplicateLabels lowering requests j i) :
    backfillDuplicateApplications lowering s = .ok s := by
  obtain ⟨hs, happlications, hdeceased⟩ := h.recorded
  refine backfill_adds_nothing hs.keys hs.submitted ?_
  intro stored hstored new hnew hother hduplicate
  have hne : stored ≠ new := by
    rintro rfl
    exact hother rfl
  rcases precedes_total hstored hnew hne with hprecedes | hprecedes
  · exact .inl ((hs.recorded _ _).mpr ⟨stored, new, hprecedes, hduplicate, rfl, rfl⟩)
  · refine .inr ((hs.recorded _ _).mpr ⟨new, stored, hprecedes, ?_, rfl, rfl⟩)
    rw [happlications] at hstored hnew
    obtain ⟨x, hx, rfl⟩ := List.mem_map.mp hstored
    obtain ⟨y, hy, rfl⟩ := List.mem_map.mp hnew
    rw [hdeceased x hx, hdeceased y hy] at hduplicate ⊢
    by_cases hsame : x.1 = y.1
    · rw [← hsame] at hduplicate ⊢
      exact hduplicate
    · exact hsymm x.1 y.1 hsame hduplicate

theorem OrderDoesNotMatter.symm (h : OrderDoesNotMatter lowering requests)
    (hruns : GoThroughInAnyOrder lowering requests)
    (i j : Fin requests.length) (hne : i ≠ j) (hduplicate : DuplicateLabels lowering requests i j) :
    DuplicateLabels lowering requests j i := by
  refine (foundPairs_perm_iff (List.nodup_finRange requests.length)).mp ?_ i (List.mem_finRange i) j
    (List.mem_finRange j) hne hduplicate
  intro o₁ o₂ h₁ h₂
  obtain ⟨trace₁, s₁, hsubmitted₁, rfl⟩ := hruns o₁ h₁
  obtain ⟨trace₂, s₂, hsubmitted₂, rfl⟩ := hruns o₂ h₂
  rw [← recordedPairs_eq hsubmitted₁, ← recordedPairs_eq hsubmitted₂]
  exact h.samePairs trace₁ s₁ trace₂ s₂ ⟨hsubmitted₁, h₁⟩ ⟨hsubmitted₂, h₂⟩

/-- Requests that go through in every order: which order they come in does not matter exactly
where names compare alike both ways. -/
theorem duplicates_orderDoesNotMatter_iff
    (hruns : ∀ order, order.Perm (List.finRange requests.length) →
      ∃ trace s, SubmittedInOrder lowering requests trace s ∧ trace.map Prod.fst = order) :
    OrderDoesNotMatter lowering requests ↔ NamesCompareAlike lowering requests := by
  rw [← duplicateLabels_symm_iff]
  constructor
  · intro h
    exact h.symm hruns
  · intro hsymm
    constructor
    · rintro trace₁ s₁ trace₂ s₂ ⟨hsubmitted₁, h₁⟩ ⟨hsubmitted₂, h₂⟩
      rw [recordedPairs_eq hsubmitted₁, recordedPairs_eq hsubmitted₂]
      exact (foundPairs_perm_iff (List.nodup_finRange requests.length)).mpr
        (fun i _ j _ hne => hsymm i j hne) _ _ h₁ h₂
    · rintro trace s ⟨hsubmitted, -⟩
      exact hsubmitted.backfill hsymm

end Orders

namespace Sample

def deceasedNamed (firstName coronersReference : String) (dateOfDeath : String)
    (hdate : (Date.fromIsoformat dateOfDeath).isSome) : DeceasedCreate :=
  ⟨⟨firstName, "Smith", "1950-01-01", dateOfDeath, coronersReference⟩,
    (by decide +kernel : (Date.fromIsoformat "1950-01-01").isSome), hdate⟩

/-- Two applications that agree on the date of birth, and on the name up to its outer spaces. -/
def alike (firstName : String) : List ApplicationCreate :=
  [{ created providerClient with
      deceased := deceasedNamed firstName "REF-1" "2024-01-01" (by decide +kernel) },
    { created providerClient with
      deceased := deceasedNamed "John" "REF-2" "2024-02-01" (by decide +kernel) }]

/-- Surroundings whose first draw of a reference is not the first of the others. -/
def laterEnv : Env :=
  let draw := fun i : Fin 3 => (env.draws 4).second i.castSucc
  { env with applicationDraws := fun _ => ⟨draw, draw⟩ }

def bothGoThrough (firstName : String) (i j : Fin 2) : Bool :=
  endsOk (CreateApplicationUseCase.execute env noFaults ((alike firstName).get i) "F1" ["O1"]
    (.start (.initial [] [] []))) fun _ session =>
      endsOk (CreateApplicationUseCase.execute laterEnv noFaults ((alike firstName).get j) "F1" ["O1"]
        (.start session.committed)) fun _ _ => true

theorem alike_submitted {firstName : String}
    (h : ∀ i j : Fin 2, bothGoThrough firstName i j = true) :
    GoThroughInAnyOrder env.lowering (alike firstName) := by
  intro order hperm
  obtain ⟨i, j, rfl⟩ := List.length_eq_two.mp hperm.length_eq
  obtain ⟨a, session, hfirst, hthen⟩ := exists_of_endsOk (h i j)
  obtain ⟨b, session', hsecond, -⟩ := exists_of_endsOk hthen
  have hone : SubmittedInOrder env.lowering (alike firstName) [(i, a)] session.committed :=
    SubmittedInOrder.next (.none [] []) rfl hfirst
  have htwo : SubmittedInOrder env.lowering (alike firstName) [(i, a), (j, b)] session'.committed :=
    SubmittedInOrder.next hone (show laterEnv.lowering = env.lowering from rfl) hsecond
  exact ⟨_, _, htwo, rfl⟩

end Sample

theorem duplicates_orderDoesNotMatter_iff_spaces :
    OrderDoesNotMatter Sample.env.lowering (Sample.alike " john ") := by
  have hplain : ∀ i, PlainName (storedDeceased (Sample.alike " john ") i) := by
    intro i
    constructor
    · revert i
      decide +kernel
    · revert i
      decide +kernel
  have hruns : GoThroughInAnyOrder Sample.env.lowering (Sample.alike " john ") :=
    Sample.alike_submitted (by decide +kernel)
  exact (duplicates_orderDoesNotMatter_iff hruns).mpr
    fun i j _ => sameName_comm (hplain i) (hplain j)

/-- A name that begins with a tab is found to match only while the other one is stored. -/
theorem duplicates_order_matters_tab :
    ¬ ∀ lowering requests, GoThroughInAnyOrder lowering requests →
      OrderDoesNotMatter lowering requests := by
  intro h
  have hruns : GoThroughInAnyOrder Sample.env.lowering (Sample.alike "\tJohn") :=
    Sample.alike_submitted (by decide +kernel)
  have hsymm := (h Sample.env.lowering (Sample.alike "\tJohn") hruns).symm hruns
  have hstored : matchCount Sample.env.lowering (storedDeceased (Sample.alike "\tJohn") (1 : Fin 2))
      (storedDeceased (Sample.alike "\tJohn") (0 : Fin 2)) = 2 := by decide +kernel
  have hnew : matchCount Sample.env.lowering (storedDeceased (Sample.alike "\tJohn") (0 : Fin 2))
      (storedDeceased (Sample.alike "\tJohn") (1 : Fin 2)) = 1 := by decide +kernel
  have hback : 2 ≤ 1 := by
    rw [← hnew]
    exact hsymm (1 : Fin 2) (0 : Fin 2) (by intro hsame; cases hsame) hstored.ge
  exact absurd hback (by decide)

end InquestsApi
