import InquestsApi.Duplicates
import InquestsApi.Lib.Sweep

/-! What the backfill of duplicate records adds to any store: the pairs that are reported and not
recorded, each of them once. -/
namespace InquestsApi

open ApplicationRepository Sweep UnitOfWork

def recordPair (record : DuplicateApplicationRecord) : ℕ × ℕ :=
  (record.applicationId, record.duplicateApplicationId)

/-- The store has gained records of these pairs, and nothing else has changed. -/
def AddsRecords (pairs : List (ℕ × ℕ)) (s s' : Store) : Prop :=
  ∃ added, s' = { s with duplicateApplicationRecords := s.duplicateApplicationRecords ++ added }
    ∧ added.map recordPair = pairs

namespace AddsRecords

variable {pairs pairs' : List (ℕ × ℕ)} {s s' s'' : Store}

theorem refl (s : Store) : AddsRecords [] s s :=
  ⟨[], by rw [List.append_nil], rfl⟩

theorem trans (h : AddsRecords pairs s s') (h' : AddsRecords pairs' s' s'') :
    AddsRecords (pairs ++ pairs') s s'' := by
  obtain ⟨added, rfl, rfl⟩ := h
  obtain ⟨added', rfl, rfl⟩ := h'
  refine ⟨added ++ added', ?_, List.map_append⟩
  simp only [List.append_assoc]

theorem applications (h : AddsRecords pairs s s') : s'.applications = s.applications := by
  obtain ⟨added, rfl, -⟩ := h
  rfl

theorem existingPairs (h : AddsRecords pairs s s') :
    InquestsApi.existingPairs s' = InquestsApi.existingPairs s ++ pairs := by
  obtain ⟨added, rfl, rfl⟩ := h
  exact List.map_append

theorem eq_of_nil (h : AddsRecords [] s s') : s' = s := by
  obtain ⟨added, rfl, hadded⟩ := h
  rw [List.map_eq_nil_iff.mp hadded, List.append_nil]

end AddsRecords

/-- The rows of one application's duplicates come after those that are there. -/
theorem duplicateRows_append (applicationId : ℕ) (duplicateIds : List ℕ)
    (rows : List DuplicateApplicationRecord) :
    ∃ added, duplicateRows applicationId duplicateIds rows = rows ++ added
      ∧ added.map recordPair = duplicateIds.map fun duplicateId => (applicationId, duplicateId) := by
  induction duplicateIds generalizing rows with
  | nil => exact ⟨[], (List.append_nil rows).symm, rfl⟩
  | cons duplicateId rest ih =>
      let row : DuplicateApplicationRecord := ⟨nextKey (rows.map (·.id)), applicationId, duplicateId⟩
      obtain ⟨added, hadded, hpairs⟩ := ih (rows ++ [row])
      refine ⟨row :: added, ?_, ?_⟩
      · rw [duplicateRows, hadded, List.append_assoc, List.singleton_append]
      · rw [List.map_cons, List.map_cons, hpairs]
        rfl

theorem insertDuplicateRecords_adds (applicationId : ℕ) (duplicateIds : List ℕ) (s : Store) :
    AddsRecords (duplicateIds.map fun duplicateId => (applicationId, duplicateId)) s
      (insertDuplicateRecords applicationId duplicateIds s) := by
  obtain ⟨added, hadded, hpairs⟩ :=
    duplicateRows_append applicationId duplicateIds s.duplicateApplicationRecords
  refine ⟨added, ?_, hpairs⟩
  rw [insertDuplicateRecords, hadded]

section Reports

variable {lowering : Lowering} {s s' : Store} {applicationId : ℕ}

/-- What the search reports of an application. -/
def reportedDuplicates (lowering : Lowering) (s : Store) (applicationId : ℕ) : List ℕ :=
  match identifyDuplicates lowering applicationId s with
  | .ok ids => ids
  | .error _ => []

/-- The search does not look at the records. -/
theorem identifyDuplicates_congr (h : s'.applications = s.applications) :
    identifyDuplicates lowering applicationId s' = identifyDuplicates lowering applicationId s := by
  unfold identifyDuplicates
  rw [h]

theorem reportedDuplicates_congr (h : s'.applications = s.applications) :
    reportedDuplicates lowering s' = reportedDuplicates lowering s := by
  funext applicationId
  unfold reportedDuplicates
  rw [identifyDuplicates_congr h]

variable (lowering) in
/-- The search goes through for every application that is stored. -/
theorem identifyDuplicates_reported (h : applicationId ∈ s.applications.map (·.applicationId)) :
    identifyDuplicates lowering applicationId s
      = .ok (reportedDuplicates lowering s applicationId) := by
  obtain ⟨found, hfound⟩ : ∃ found, s.applications.find?
      (fun a => a.applicationId = applicationId) = some found := by
    obtain ⟨a, ha, hid⟩ := List.mem_map.mp h
    rw [← Option.isSome_iff_exists, List.find?_isSome]
    exact ⟨a, ha, decide_eq_true hid⟩
  unfold reportedDuplicates identifyDuplicates
  rw [hfound]

/-- An application is reported once, and never as a duplicate of itself. -/
theorem identifyDuplicates_spec {ids : List ℕ}
    (hkeys : (s.applications.map (·.applicationId)).Nodup)
    (h : identifyDuplicates lowering applicationId s = .ok ids) :
    ids.Nodup ∧ applicationId ∉ ids := by
  unfold identifyDuplicates at h
  split at h
  · cases h
  · cases h
    constructor
    · exact (List.filter_sublist.map _).nodup hkeys
    · intro hself
      obtain ⟨a, ha, hid⟩ := List.mem_map.mp hself
      simp [hid] at ha

/-- What is reported is stored. -/
theorem identifyDuplicates_stored {ids : List ℕ}
    (h : identifyDuplicates lowering applicationId s = .ok ids) :
    ids ⊆ s.applications.map (·.applicationId) := by
  unfold identifyDuplicates at h
  split at h
  · cases h
  · cases h
    exact List.map_subset _ (List.filter_subset_self _)

theorem reportedDuplicates_spec (hkeys : (s.applications.map (·.applicationId)).Nodup)
    (applicationId : ℕ) :
    (reportedDuplicates lowering s applicationId).Nodup
      ∧ applicationId ∉ reportedDuplicates lowering s applicationId := by
  unfold reportedDuplicates
  split
  next ids h => exact identifyDuplicates_spec hkeys h
  next => exact ⟨List.nodup_nil, List.not_mem_nil⟩

end Reports

section Backfill

variable {lowering : Lowering} {s s' : Store} {order : List ℕ} {existing : List (ℕ × ℕ)}

variable (lowering existing) in
/-- The loop of the backfill is a sweep over what the search reports. -/
theorem backfillFrom_sweep (horder : order ⊆ s.applications.map (·.applicationId)) :
    ∃ s', backfillFrom lowering order existing s = .ok s'
      ∧ AddsRecords (sweep (reportedDuplicates lowering s) order existing) s s' := by
  induction order generalizing existing s with
  | nil => exact ⟨s, rfl, .refl s⟩
  | cons applicationId rest ih =>
      obtain ⟨hhere, hrest⟩ := List.cons_subset.mp horder
      have hsearch := identifyDuplicates_reported lowering hhere
      have hstep := insertDuplicateRecords_adds applicationId
        (newDuplicateIds existing applicationId (reportedDuplicates lowering s applicationId)) s
      have hsame := hstep.applications
      rw [← hsame] at hrest
      obtain ⟨s', hgoes, hadds⟩ := ih (existing ++ (newDuplicateIds existing applicationId
        (reportedDuplicates lowering s applicationId)).map fun id => (applicationId, id)) hrest
      rw [reportedDuplicates_congr hsame] at hadds
      refine ⟨s', ?_, hstep.trans hadds⟩
      rw [backfillFrom, hsearch]
      exact hgoes

theorem allApplicationIds_perm (s : Store) :
    (allApplicationIds s).Perm (s.applications.map (·.applicationId)) :=
  (List.perm_insertionSort _ _).map _

/-- One application is reported as a duplicate of the other. -/
def Identifies (lowering : Lowering) (s : Store) (applicationId duplicateId : ℕ) : Prop :=
  ∃ ids, identifyDuplicates lowering applicationId s = .ok ids ∧ duplicateId ∈ ids

/-- The pairs of distinct applications that are reported in one direction at least and recorded
in neither. -/
def missingPairs (lowering : Lowering) (s : Store) : Set (Sym2 ℕ) :=
  {p | ∃ a b, p = s(a, b) ∧ a ≠ b ∧ (Identifies lowering s a b ∨ Identifies lowering s b a)
    ∧ (a, b) ∉ existingPairs s ∧ (b, a) ∉ existingPairs s}

/-- What the backfill does to a store. -/
structure BackfillExact (lowering : Lowering) (s : Store) : Prop where
  /-- The records that are there stay, and each missing pair gets one record. -/
  adds : ∃ added, backfillDuplicateApplications lowering s
      = .ok { s with duplicateApplicationRecords := s.duplicateApplicationRecords ++ added }
    ∧ (unordered (added.map recordPair)).Nodup
    ∧ ∀ p, p ∈ unordered (added.map recordPair) ↔ p ∈ missingPairs lowering s
  again : ∀ s', backfillDuplicateApplications lowering s = .ok s' →
    backfillDuplicateApplications lowering s' = .ok s'
  anyOrder : ∀ order, order.Perm (allApplicationIds s) →
    ∃ s₁ s₂, backfillDuplicateApplications lowering s = .ok s₁
      ∧ backfillFrom lowering order (existingPairs s) s = .ok s₂
      ∧ (unordered (existingPairs s₁)).Perm (unordered (existingPairs s₂))

/-- A report is about an application that is stored. -/
theorem identifies_iff {a b : ℕ} :
    Identifies lowering s a b
      ↔ a ∈ s.applications.map (·.applicationId) ∧ b ∈ reportedDuplicates lowering s a := by
  constructor
  · rintro ⟨ids, hids, hb⟩
    have hstored : a ∈ s.applications.map (·.applicationId) := by
      unfold identifyDuplicates at hids
      split at hids
      · cases hids
      next application hfound =>
        exact List.mem_map.mpr
          ⟨application, List.mem_of_find?_eq_some hfound, by simpa using List.find?_some hfound⟩
    rw [identifyDuplicates_reported lowering hstored] at hids
    exact ⟨hstored, Except.ok.inj hids ▸ hb⟩
  · rintro ⟨hstored, hb⟩
    exact ⟨_, identifyDuplicates_reported lowering hstored, hb⟩

/-- A sweep over all applications adds the missing pairs. -/
theorem mem_sweep_iff_missing {p : Sym2 ℕ} (hkeys : (s.applications.map (·.applicationId)).Nodup)
    (horder : order.Perm (s.applications.map (·.applicationId))) :
    p ∈ unordered (sweep (reportedDuplicates lowering s) order (existingPairs s))
      ↔ p ∈ missingPairs lowering s := by
  rw [mem_sweep]
  constructor
  · rintro ⟨hunseen, a, ha, b, hb, rfl⟩
    rw [mem_unordered, not_or] at hunseen
    refine ⟨a, b, rfl, ?_, .inl (identifies_iff.mpr ⟨horder.mem_iff.mp ha, hb⟩), hunseen⟩
    rintro rfl
    exact (reportedDuplicates_spec hkeys a).2 hb
  · rintro ⟨a, b, rfl, -, hreported, hab, hba⟩
    refine ⟨?_, ?_⟩
    · rw [mem_unordered, not_or]
      exact ⟨hab, hba⟩
    · rcases hreported with h | h
      · obtain ⟨ha, hb⟩ := identifies_iff.mp h
        exact ⟨a, horder.mem_iff.mpr ha, b, hb, rfl⟩
      · obtain ⟨hb, ha⟩ := identifies_iff.mp h
        exact ⟨b, horder.mem_iff.mpr hb, a, ha, Sym2.eq_swap⟩

/-- Over any store whose applications have their keys, the backfill is exact. -/
theorem backfillDuplicateApplications_exact (hkeys : (s.applications.map (·.applicationId)).Nodup) :
    BackfillExact lowering s := by
  have hall := allApplicationIds_perm s
  have hreports : ∀ a ∈ allApplicationIds s, (reportedDuplicates lowering s a).Nodup :=
    fun a _ => (reportedDuplicates_spec hkeys a).1
  obtain ⟨s₁, hgoes, hadds⟩ := backfillFrom_sweep lowering (existingPairs s) hall.subset
  constructor
  · obtain ⟨added, rfl, hadded⟩ := hadds
    refine ⟨added, hgoes, ?_, ?_⟩
    · rw [hadded]
      exact nodup_sweep hreports
    · intro p
      rw [hadded]
      exact mem_sweep_iff_missing hkeys hall
  · intro s' hfirst
    obtain rfl : s₁ = s' := Except.ok.inj (hgoes.symm.trans hfirst)
    have hsame := hadds.applications
    have hids : allApplicationIds s₁ = allApplicationIds s := by
      rw [allApplicationIds, allApplicationIds, hsame]
    obtain ⟨s₂, hagain, hadds'⟩ := backfillFrom_sweep lowering (existingPairs s₁)
      (allApplicationIds_perm s₁).subset
    have hnone : sweep (reportedDuplicates lowering s₁) (allApplicationIds s₁) (existingPairs s₁)
        = [] := by
      rw [reportedDuplicates_congr hsame, hids, hadds.existingPairs]
      exact sweep_again (List.Subset.refl _)
    rw [hnone] at hadds'
    rw [hadds'.eq_of_nil] at hagain
    exact hagain
  · intro order horder
    obtain ⟨s₂, hother, hadds'⟩ := backfillFrom_sweep lowering (existingPairs s)
      (horder.trans hall).subset
    refine ⟨s₁, s₂, hgoes, hother, ?_⟩
    rw [hadds.existingPairs, hadds'.existingPairs, unordered_append, unordered_append]
    exact (sweep_perm hreports horder).symm.append_left _

end Backfill

theorem backfillDuplicateApplications_exact_pair :
    BackfillExact Sample.env.lowering
      (.initial [Sample.application, { Sample.application with applicationId := 2 }] [] []) :=
  backfillDuplicateApplications_exact (by decide)

end InquestsApi
