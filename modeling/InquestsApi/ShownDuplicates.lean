import InquestsApi.BackfillDuplicates
import InquestsApi.Frames
import InquestsApi.Lib.Checked

/-! The duplicates that are shown: on the report of the applications that wait for a decision,
and on the page of one of them. Two queries over one table, which is read in both directions. -/
namespace InquestsApi

open UnitOfWork

namespace ApplicationRepository

structure ApplicationBacklogRecord where
  laaReference : String
  meritsDecision : MeritsDecision
  createdAt : Datetime
  firmCode : String
  officeId : String
  proceedingDescription : Option String
  matterType : Option String
  potentialDuplicateApplications : List String
  deriving DecidableEq

def getPendingApplications (s : Store) : List Application :=
  (s.applications.filter fun a => a.proceeding.meritsDecision = .submitted).insertionSort
    fun a b => a.createdAt.instant ≤ b.createdAt.instant

/-- The recorded pairs of two pending applications, both ways round. -/
def pendingDuplicatePairs (pendingApplicationIds : List ℕ) (s : Store) : List (ℕ × ℕ) :=
  let relationships := (s.duplicateApplicationRecords.filter fun r =>
    r.applicationId ∈ pendingApplicationIds && r.duplicateApplicationId ∈ pendingApplicationIds
      && r.applicationId ≠ r.duplicateApplicationId).map recordPair
  (relationships ++ relationships.map Prod.swap).dedup

/-- The references of what one application is paired with; a key that the dictionary lacks is
an error. -/
def duplicateLaaReferences (laaReferencesByApplicationId : List (ℕ × String))
    (pairs : List (ℕ × ℕ)) (applicationId : ℕ) : Except ApiError (List String) :=
  (pairs.filter fun p => p.1 = applicationId).mapM fun p =>
    match laaReferencesByApplicationId.lookup p.2 with
    | some laaReference => .ok laaReference
    | none => .error (.lookupError (Nat.repr p.2))

/-- A row of the report; what was collected in a set comes sorted. -/
def backlogRecord (laaReferencesByApplicationId : List (ℕ × String)) (pairs : List (ℕ × ℕ))
    (application : Application) : Except ApiError ApplicationBacklogRecord := do
  let references ←
    duplicateLaaReferences laaReferencesByApplicationId pairs application.applicationId
  pure
    { laaReference := application.laaReference
      meritsDecision := application.proceeding.meritsDecision
      createdAt := application.createdAt
      firmCode := application.provider.firmCode
      officeId := application.provider.officeId
      proceedingDescription := application.proceeding.proceeding.proceedingDescription
      matterType := application.proceeding.proceeding.matterType
      potentialDuplicateApplications := references.dedup.insertionSort (· ≤ ·) }

def getApplicationBacklogRecords (s : Store) : Except ApiError (List ApplicationBacklogRecord) :=
  let applications := getPendingApplications s
  if applications.isEmpty then .ok []
  else
    let laaReferencesByApplicationId := applications.map fun a => (a.applicationId, a.laaReference)
    let pairs := pendingDuplicatePairs (applications.map (·.applicationId)) s
    applications.mapM (backlogRecord laaReferencesByApplicationId pairs)

/-- The join with the proceeding of an application. -/
def hasMeritsDecision (decisions : List MeritsDecision) (applicationId : ℕ) (s : Store) : Bool :=
  s.applications.any fun a =>
    a.applicationId = applicationId && a.proceeding.meritsDecision ∈ decisions

def duplicatesOfApplication (applicationId : ℕ) (s : Store) : List ℕ :=
  (s.duplicateApplicationRecords.filter fun r =>
    r.applicationId = applicationId && hasMeritsDecision [.submitted] r.applicationId s
      && hasMeritsDecision eligibleDuplicateStatus r.duplicateApplicationId s).map
    (·.duplicateApplicationId)

def applicationsItDuplicates (applicationId : ℕ) (s : Store) : List ℕ :=
  (s.duplicateApplicationRecords.filter fun r =>
    r.duplicateApplicationId = applicationId
      && hasMeritsDecision [.submitted] r.duplicateApplicationId s
      && hasMeritsDecision eligibleDuplicateStatus r.applicationId s).map (·.applicationId)

def getPotentialDuplicateApplicationIds (applicationId : ℕ) (s : Store) : List ℕ :=
  (duplicatesOfApplication applicationId s ++ applicationsItDuplicates applicationId s).dedup

def getDuplicateApplicationsByIds (applicationIds : List ℕ) (s : Store) :
    Except ApiError (List Application) :=
  if applicationIds.isEmpty then .ok []
  else
    let result := (s.applications.filter fun a => a.applicationId ∈ applicationIds).insertionSort
      fun a b => a.applicationId ≤ b.applicationId
    if result.length ≠ applicationIds.length then
      .error (.lookupError
        "Some application IDs for duplicate applications could not be found in the database")
    else .ok result

end ApplicationRepository

open ApplicationRepository Sweep

/-- One of the two is recorded against the other. -/
def Recorded (s : Store) (a b : ℕ) : Prop := (a, b) ∈ existingPairs s ∨ (b, a) ∈ existingPairs s

theorem Recorded.symm {s : Store} {a b : ℕ} (h : Recorded s a b) : Recorded s b a := Or.symm h

/-- The keys and references of the applications, and the duplicate records. -/
def Store.caseKeys (s : Store) : List (ℕ × String) × List DuplicateApplicationRecord :=
  (s.applications.map fun a => (a.applicationId, a.laaReference), s.duplicateApplicationRecords)

/-- The keys of applications are theirs alone, and each record is of two of them. -/
structure DuplicatesKeyed (s : Store) : Prop where
  keys : (s.applications.map (·.applicationId)).Nodup
  references : (s.applications.map (·.laaReference)).Nodup
  records : ∀ p ∈ existingPairs s, p.1 ≠ p.2 ∧ p.1 ∈ s.applications.map (·.applicationId)
    ∧ p.2 ∈ s.applications.map (·.applicationId)

section Invariant

variable {s s' : Store}

theorem DuplicatesKeyed.congr (hs : DuplicatesKeyed s) (h : s'.caseKeys = s.caseKeys) :
    DuplicatesKeyed s' := by
  have hboth := congrArg Prod.fst h
  have hids : s'.applications.map (·.applicationId) = s.applications.map (·.applicationId) := by
    simpa [Store.caseKeys, Function.comp_def] using congrArg (List.map Prod.fst) hboth
  have hreferences : s'.applications.map (·.laaReference) = s.applications.map (·.laaReference) := by
    simpa [Store.caseKeys, Function.comp_def] using congrArg (List.map Prod.snd) hboth
  have hrecords : s'.duplicateApplicationRecords = s.duplicateApplicationRecords := congrArg Prod.snd h
  have hpairs : existingPairs s' = existingPairs s := by rw [existingPairs, existingPairs, hrecords]
  constructor
  · rw [hids]
    exact hs.keys
  · rw [hreferences]
    exact hs.references
  · rw [hpairs, hids]
    exact hs.records

theorem DuplicatesKeyed.adds {pairs : List (ℕ × ℕ)} (hs : DuplicatesKeyed s)
    (h : AddsRecords pairs s s')
    (hpairs : ∀ p ∈ pairs, p.1 ≠ p.2 ∧ p.1 ∈ s.applications.map (·.applicationId)
      ∧ p.2 ∈ s.applications.map (·.applicationId)) : DuplicatesKeyed s' := by
  have hsame := h.applications
  constructor
  · rw [hsame]
    exact hs.keys
  · rw [hsame]
    exact hs.references
  · rw [h.existingPairs, hsame]
    intro p hp
    rcases List.mem_append.mp hp with hold | hnew
    · exact hs.records p hold
    · exact hpairs p hnew

/-- A new application under a new key and a new reference. -/
theorem DuplicatesKeyed.inserted {application : Application} (hs : DuplicatesKeyed s)
    (hkey : ∀ a ∈ s.applications, a.applicationId ≠ application.applicationId)
    (hreference : ∀ a ∈ s.applications, a.laaReference ≠ application.laaReference) :
    DuplicatesKeyed { s with applications := s.applications ++ [application] } := by
  have hnodup : ∀ {β : Type} (key : Application → β), (s.applications.map key).Nodup →
      (∀ a ∈ s.applications, key a ≠ key application) →
      ((s.applications ++ [application]).map key).Nodup := by
    intro β key hold hnew
    rw [List.map_append, List.map_singleton]
    refine List.nodup_append.mpr ⟨hold, List.nodup_singleton _, ?_⟩
    intro k hk k' hk'
    obtain ⟨a, ha, rfl⟩ := List.mem_map.mp hk
    rw [List.mem_singleton.mp hk']
    exact hnew a ha
  refine ⟨hnodup _ hs.keys hkey, hnodup _ hs.references hreference, ?_⟩
  intro p hp
  obtain ⟨hne, hfirst, hsecond⟩ := hs.records p hp
  have hsub : s.applications.map (·.applicationId)
      ⊆ (s.applications ++ [application]).map (·.applicationId) :=
    List.map_subset _ (List.subset_append_left _ _)
  exact ⟨hne, hsub hfirst, hsub hsecond⟩

theorem DuplicatesKeyed.creates {permitted : CasePermissions} (hs : DuplicatesKeyed s)
    (h : CreatesApplication permitted s s') : DuplicatesKeyed s' := by
  cases h with
  | @body env faults request firmCode userOfficeCodes application t t' hpermitted h =>
      obtain ⟨t₁, u, hcreate, hsubmit⟩ := createBody_ok.mp h
      obtain ⟨_, _, laaReference, -, -, hreference, -, hrow, rfl⟩ := createApplication_ok.mp hcreate
      obtain ⟨-, -, -, ids, _, _, hidentified, -, -, -, -, -, -, rfl⟩ :=
        CreateApplicationUseCase.submitApplication_ok.mp hsubmit
      have hinserted : DuplicatesKeyed
          { t.store with applications := t.store.applications ++ [application] } := by
        apply hs.inserted
        · intro a ha
          rw [hrow]
          exact nextKey_ne (List.mem_map_of_mem ha)
        · intro a ha
          rw [hrow]
          exact (getLaaReference_ok hreference).2 a ha
      have hrecorded := hinserted.adds (insertDuplicateRecords_adds application.applicationId ids _) (by
        intro p hp
        obtain ⟨duplicateId, hduplicate, rfl⟩ := List.mem_map.mp hp
        have hself := (identifyDuplicates_spec hinserted.keys hidentified).2
        refine ⟨?_, ?_, identifyDuplicates_stored hidentified hduplicate⟩
        · intro hsame
          have hsame : application.applicationId = duplicateId := hsame
          rw [hsame] at hself
          exact hself hduplicate
        · exact List.mem_map_of_mem (List.mem_append_right _ (List.mem_singleton_self _)))
      exact hrecorded.congr rfl

theorem ignoresClaims_caseKeys : IgnoresClaims Store.caseKeys where
  history := fun _ _ => rfl
  status := fun _ _ _ => rfl
  decisions := fun _ _ => rfl
  reasons := fun _ _ => rfl
  amounts := fun _ _ => rfl
  extracts := fun _ _ => rfl
  claims := fun _ _ => rfl
  evidence := fun _ _ => rfl
  outcomes := fun _ _ => rfl
  templates := fun _ _ => rfl

/-- An update that leaves an application its key and its reference. -/
theorem caseKeys_updateApplication {applicationId : ℕ} {f : Application → Application}
    (hf : ∀ a, (f a).applicationId = a.applicationId ∧ (f a).laaReference = a.laaReference) :
    (s.updateApplication applicationId f).caseKeys = s.caseKeys := by
  unfold Store.caseKeys Store.updateApplication
  rw [List.map_map]
  congr 1
  apply List.map_congr_left
  intro a _
  by_cases hid : a.applicationId = applicationId
  · simp [hid, hf a]
  · simp [hid]

theorem ignoresUpdates_caseKeys : IgnoresUpdates Store.caseKeys where
  history := fun _ _ => rfl
  proceeding := fun _ _ _ => caseKeys_updateApplication fun _ => ⟨rfl, rfl⟩
  client := fun _ _ _ => caseKeys_updateApplication fun _ => ⟨rfl, rfl⟩
  publicBodies := fun _ _ _ => caseKeys_updateApplication fun _ => ⟨rfl, rfl⟩

/-- The step: every transaction keeps the invariant. -/
theorem DuplicatesKeyed.transacts {permitted : CasePermissions} (hs : DuplicatesKeyed s)
    (h : CaseTransacts permitted s s') : DuplicatesKeyed s' := by
  rcases h.keeps_applications ignoresClaims_caseKeys ignoresUpdates_caseKeys with hkept | hcreates
  · exact hs.congr hkept
  · exact hs.creates hcreates

theorem DuplicatesKeyed.backfill {lowering : Lowering} (hs : DuplicatesKeyed s)
    (h : backfillDuplicateApplications lowering s = .ok s') : DuplicatesKeyed s' := by
  obtain ⟨s₁, hgoes, hadds⟩ := backfillFrom_sweep lowering (existingPairs s)
    (allApplicationIds_perm s).subset
  obtain rfl : s₁ = s' := Except.ok.inj (hgoes.symm.trans h)
  apply hs.adds hadds
  rintro ⟨a, b⟩ hp
  obtain ⟨ha, hb⟩ := reported_of_mem_sweep hp
  have hstored := (allApplicationIds_perm s).subset ha
  have hsearch := identifyDuplicates_reported lowering hstored
  refine ⟨?_, hstored, identifyDuplicates_stored hsearch hb⟩
  intro hsame
  have hsame : a = b := hsame
  rw [← hsame] at hb
  exact (reportedDuplicates_spec hs.keys a).2 hb

end Invariant

/-- Databases that the requests of cases and the backfill lead to, from one that holds
applications, evidence and history under the keys of the schema. -/
inductive DuplicatesReachable : Store → Prop
  | initial (applications : List Application) (evidence : List ClaimEvidence)
      (events : List HistoryEvent) (hkeys : (applications.map (·.applicationId)).Nodup)
      (hreferences : (applications.map (·.laaReference)).Nodup) :
      DuplicatesReachable (.initial applications evidence events)
  | request {db s : Store} (r : CaseSubmission) (h : DuplicatesReachable db)
      (hs : s = r.after db ∨ s ∈ (r.session db).trail) : DuplicatesReachable s
  | backfill {s s' : Store} {lowering : Lowering} (h : DuplicatesReachable s)
      (hs : backfillDuplicateApplications lowering s = .ok s') : DuplicatesReachable s'

theorem DuplicatesReachable.keyed {s : Store} (h : DuplicatesReachable s) : DuplicatesKeyed s := by
  induction h with
  | initial applications evidence events hkeys hreferences =>
      exact ⟨hkeys, hreferences, fun _ hnone => (nomatch hnone)⟩
  | backfill h hs ih => exact ih.backfill hs
  | @request db s r h hs ih =>
      refine (CaseCommitted.of_request (r.anyCase_permitted db) hs).invariant ih ?_
      exact fun s s' hstep hkeyed => hkeyed.transacts hstep

section Queries

variable {s : Store} {a b : Application} {applicationId : ℕ}

theorem DuplicatesKeyed.not_recorded_self (hs : DuplicatesKeyed s) (applicationId : ℕ) :
    ¬ Recorded s applicationId applicationId := by
  rintro (h | h) <;> exact (hs.records _ h).1 rfl

theorem mem_getPendingApplications :
    a ∈ getPendingApplications s
      ↔ a ∈ s.applications ∧ a.proceeding.meritsDecision = .submitted := by
  simp [getPendingApplications, List.mem_insertionSort]

theorem hasMeritsDecision_iff {decisions : List MeritsDecision} :
    hasMeritsDecision decisions applicationId s = true
      ↔ ∃ a ∈ s.applications, a.applicationId = applicationId
        ∧ a.proceeding.meritsDecision ∈ decisions := by
  simp [hasMeritsDecision, List.any_eq_true]

/-- The query for one application. -/
theorem mem_getPotentialDuplicateApplicationIds {duplicateId : ℕ} :
    duplicateId ∈ getPotentialDuplicateApplicationIds applicationId s
      ↔ Recorded s applicationId duplicateId
        ∧ hasMeritsDecision [.submitted] applicationId s = true
        ∧ hasMeritsDecision eligibleDuplicateStatus duplicateId s = true := by
  unfold getPotentialDuplicateApplicationIds duplicatesOfApplication applicationsItDuplicates
  rw [List.mem_dedup, List.mem_append]
  simp only [List.mem_map, List.mem_filter, Bool.and_eq_true, decide_eq_true_eq, Recorded,
    existingPairs, Prod.mk.injEq]
  constructor
  · rintro (⟨r, ⟨hr, ⟨hid, hpending⟩, heligible⟩, rfl⟩ | ⟨r, ⟨hr, ⟨hid, hpending⟩, heligible⟩, rfl⟩)
    · exact ⟨.inl ⟨r, hr, hid, rfl⟩, hid ▸ hpending, heligible⟩
    · exact ⟨.inr ⟨r, hr, rfl, hid⟩, hid ▸ hpending, heligible⟩
  · rintro ⟨⟨r, hr, rfl, rfl⟩ | ⟨r, hr, rfl, rfl⟩, hpending, heligible⟩
    · exact .inl ⟨r, ⟨hr, ⟨rfl, hpending⟩, heligible⟩, rfl⟩
    · exact .inr ⟨r, ⟨hr, ⟨rfl, hpending⟩, heligible⟩, rfl⟩

/-- The query for all that are pending. -/
theorem mem_pendingDuplicatePairs {ids : List ℕ} {x y : ℕ} :
    (x, y) ∈ pendingDuplicatePairs ids s ↔ Recorded s x y ∧ x ∈ ids ∧ y ∈ ids ∧ x ≠ y := by
  unfold pendingDuplicatePairs
  simp only [List.mem_dedup, List.mem_append, List.mem_map, List.mem_filter, Bool.and_eq_true,
    decide_eq_true_eq, Recorded, existingPairs, recordPair, Prod.mk.injEq]
  constructor
  · rintro (⟨r, ⟨hr, ⟨hx, hy⟩, hne⟩, rfl, rfl⟩ | ⟨_, ⟨r, ⟨hr, ⟨hx, hy⟩, hne⟩, rfl⟩, hswap⟩)
    · exact ⟨.inl ⟨r, hr, rfl, rfl⟩, hx, hy, hne⟩
    · obtain ⟨rfl, rfl⟩ := Prod.mk.inj hswap
      exact ⟨.inr ⟨r, hr, rfl, rfl⟩, hy, hx, Ne.symm hne⟩
  · rintro ⟨⟨r, hr, rfl, rfl⟩ | ⟨r, hr, rfl, rfl⟩, hx, hy, hne⟩
    · exact .inl ⟨r, ⟨hr, ⟨hx, hy⟩, hne⟩, rfl, rfl⟩
    · exact .inr ⟨_, ⟨r, ⟨hr, ⟨hy, hx⟩, Ne.symm hne⟩, rfl⟩, rfl⟩

/-- The entry of one of the listed applications in a dictionary by key. -/
theorem lookup_laaReference {applications : List Application}
    (hkeys : (applications.map (·.applicationId)).Nodup) (ha : a ∈ applications) :
    (applications.map fun a => (a.applicationId, a.laaReference)).lookup a.applicationId
      = some a.laaReference := by
  induction applications with
  | nil => cases ha
  | cons x rest ih =>
      rw [List.map_cons, List.nodup_cons] at hkeys
      rw [List.map_cons]
      rcases List.mem_cons.mp ha with rfl | hrest
      · exact List.lookup_cons_self
      · have hne : a.applicationId ≠ x.applicationId := by
          intro hsame
          exact hkeys.1 (hsame ▸ List.mem_map_of_mem hrest)
        rw [List.lookup_cons, beq_eq_false_iff_ne.mpr hne]
        exact ih hkeys.2 hrest

/-- The references that are collected for one of the pending applications. -/
def pendingReferences (s : Store) (a : Application) : Except ApiError (List String) :=
  duplicateLaaReferences ((getPendingApplications s).map fun a => (a.applicationId, a.laaReference))
    (pendingDuplicatePairs ((getPendingApplications s).map (·.applicationId)) s) a.applicationId

theorem pendingReferences_ok (hs : DuplicatesKeyed s) (ha : a ∈ getPendingApplications s) :
    ∃ references, pendingReferences s a = .ok references
      ∧ ∀ reference, reference ∈ references ↔ ∃ b ∈ getPendingApplications s,
        Recorded s a.applicationId b.applicationId ∧ b.laaReference = reference := by
  have hkeys : ((getPendingApplications s).map (·.applicationId)).Nodup := by
    have hperm := List.perm_insertionSort (fun a b : Application => a.createdAt.instant ≤ b.createdAt.instant)
      (s.applications.filter fun a => a.proceeding.meritsDecision = .submitted)
    exact (hperm.map _).nodup_iff.mpr ((List.filter_sublist.map _).nodup hs.keys)
  obtain ⟨references, hreferences⟩ : ∃ references, pendingReferences s a = .ok references := by
    apply Checked.mapM_goes.mpr
    rintro ⟨x, y⟩ hp
    obtain ⟨-, -, hy, -⟩ := mem_pendingDuplicatePairs.mp (List.mem_filter.mp hp).1
    obtain ⟨b, hb, rfl⟩ := List.mem_map.mp hy
    refine ⟨b.laaReference, ?_⟩
    simp only [lookup_laaReference hkeys hb]
  refine ⟨references, hreferences, ?_⟩
  intro reference
  rw [Checked.mem_mapM hreferences]
  constructor
  · rintro ⟨⟨x, y⟩, hp, hfound⟩
    obtain ⟨hpair, hx⟩ := List.mem_filter.mp hp
    obtain ⟨hrecorded, -, hy, -⟩ := mem_pendingDuplicatePairs.mp hpair
    obtain ⟨b, hb, rfl⟩ := List.mem_map.mp hy
    obtain rfl : x = a.applicationId := of_decide_eq_true hx
    simp only [lookup_laaReference hkeys hb, Except.ok.injEq] at hfound
    exact ⟨b, hb, hrecorded, hfound⟩
  · rintro ⟨b, hb, hrecorded, rfl⟩
    refine ⟨(a.applicationId, b.applicationId), List.mem_filter.mpr ⟨?_, decide_eq_true rfl⟩, ?_⟩
    · refine mem_pendingDuplicatePairs.mpr
        ⟨hrecorded, List.mem_map_of_mem ha, List.mem_map_of_mem hb, ?_⟩
      intro hsame
      rw [hsame] at hrecorded
      exact hs.not_recorded_self _ hrecorded
    · simp only [lookup_laaReference hkeys hb]

/-- A row of the report, for the application it is about. -/
structure BacklogRow (s : Store) (a : Application) (record : ApplicationBacklogRecord) : Prop where
  reference : record.laaReference = a.laaReference
  duplicates : ∀ reference, reference ∈ record.potentialDuplicateApplications ↔
    ∃ b ∈ getPendingApplications s,
      Recorded s a.applicationId b.applicationId ∧ b.laaReference = reference

theorem getApplicationBacklogRecords_ok (hs : DuplicatesKeyed s) :
    ∃ records, getApplicationBacklogRecords s = .ok records
      ∧ List.Forall₂ (BacklogRow s) (getPendingApplications s) records := by
  unfold getApplicationBacklogRecords
  by_cases hnone : (getPendingApplications s).isEmpty = true
  · refine ⟨[], if_pos hnone, ?_⟩
    rw [List.isEmpty_iff.mp hnone]
    exact .nil
  · rw [if_neg hnone]
    have hrow : ∀ a ∈ getPendingApplications s, ∃ record, backlogRecord
        ((getPendingApplications s).map fun a => (a.applicationId, a.laaReference))
        (pendingDuplicatePairs ((getPendingApplications s).map (·.applicationId)) s) a = .ok record := by
      intro a ha
      obtain ⟨references, hreferences, -⟩ := pendingReferences_ok hs ha
      unfold backlogRecord
      exact ⟨_, except_bind_ok.mpr ⟨references, hreferences, rfl⟩⟩
    obtain ⟨records, hrecords⟩ := Checked.mapM_goes.mpr hrow
    refine ⟨records, hrecords, ?_⟩
    have hall := Checked.mapM_ok.mp hrecords
    refine List.Forall₂.imp ?_ ((List.forall₂_and_left _ _).mpr ⟨fun a ha => ha, hall⟩)
    rintro a record ⟨ha, hrow⟩
    obtain ⟨references, hreferences, hmem⟩ := pendingReferences_ok hs ha
    obtain ⟨found, hfound, hrecord⟩ := except_bind_ok.mp hrow
    obtain rfl : references = found := Except.ok.inj (hreferences.symm.trans hfound)
    cases hrecord
    refine ⟨rfl, ?_⟩
    intro reference
    rw [← hmem]
    simp only [List.mem_insertionSort, List.mem_dedup]

/-- Ids without repetition that are all stored are found. -/
theorem getDuplicateApplicationsByIds_ok {ids : List ℕ} (hs : DuplicatesKeyed s) (hids : ids.Nodup)
    (hstored : ids ⊆ s.applications.map (·.applicationId)) :
    ∃ applications, getDuplicateApplicationsByIds ids s = .ok applications := by
  unfold getDuplicateApplicationsByIds
  by_cases hnone : ids.isEmpty = true
  · exact ⟨[], if_pos hnone⟩
  · rw [if_neg hnone]
    have hperm : ((s.applications.filter fun a => a.applicationId ∈ ids).map (·.applicationId)).Perm
        ids := by
      refine (List.perm_ext_iff_of_nodup ((List.filter_sublist.map _).nodup hs.keys) hids).mpr ?_
      intro id
      simp only [List.mem_map, List.mem_filter, decide_eq_true_eq]
      constructor
      · rintro ⟨a, ⟨-, ha⟩, rfl⟩
        exact ha
      · intro hid
        obtain ⟨a, ha, rfl⟩ := List.mem_map.mp (hstored hid)
        exact ⟨a, ⟨ha, hid⟩, rfl⟩
    have hlength : ((s.applications.filter fun a => a.applicationId ∈ ids).insertionSort
        fun a b => a.applicationId ≤ b.applicationId).length = ids.length := by
      rw [List.length_insertionSort, ← hperm.length_eq, List.length_map]
    exact ⟨_, if_neg (not_not.mpr hlength)⟩

end Queries

/-- What the two queries show of a database. -/
structure DuplicatesAgree (s : Store) : Prop where
  /-- Each pending application has its row, with the references of its pending duplicates. -/
  shown : ∃ records, getApplicationBacklogRecords s = .ok records
    ∧ List.Forall₂ (fun a record => record.laaReference = a.laaReference
      ∧ ∀ reference, reference ∈ record.potentialDuplicateApplications ↔
        ∃ b ∈ s.applications, b.applicationId ∈ getPotentialDuplicateApplicationIds a.applicationId s
          ∧ b.proceeding.meritsDecision = .submitted ∧ b.laaReference = reference)
      (getPendingApplications s) records
  symmetric : ∀ a ∈ s.applications, ∀ b ∈ s.applications,
    a.proceeding.meritsDecision = .submitted → b.proceeding.meritsDecision = .submitted →
      b.applicationId ∈ getPotentialDuplicateApplicationIds a.applicationId s →
        a.applicationId ∈ getPotentialDuplicateApplicationIds b.applicationId s
  irreflexive : ∀ applicationId,
    applicationId ∉ getPotentialDuplicateApplicationIds applicationId s
  found : ∀ applicationId, ∃ applications, getDuplicateApplicationsByIds
    (getPotentialDuplicateApplicationIds applicationId s) s = .ok applications

section Agreement

variable {s : Store}

/-- Among pending applications, what one shows is what is recorded in either direction. -/
theorem mem_potential_iff_recorded {a b : Application} (ha : a ∈ getPendingApplications s)
    (hb : b ∈ getPendingApplications s) :
    b.applicationId ∈ getPotentialDuplicateApplicationIds a.applicationId s
      ↔ Recorded s a.applicationId b.applicationId := by
  obtain ⟨ha, hpending⟩ := mem_getPendingApplications.mp ha
  obtain ⟨hb, hduplicate⟩ := mem_getPendingApplications.mp hb
  have hfirst : hasMeritsDecision [.submitted] a.applicationId s = true :=
    hasMeritsDecision_iff.mpr ⟨a, ha, rfl, by rw [hpending]; decide⟩
  have hsecond : hasMeritsDecision eligibleDuplicateStatus b.applicationId s = true :=
    hasMeritsDecision_iff.mpr ⟨b, hb, rfl, by rw [hduplicate]; decide⟩
  rw [mem_getPotentialDuplicateApplicationIds]
  constructor
  · intro h
    exact h.1
  · intro h
    exact ⟨h, hfirst, hsecond⟩

theorem DuplicatesKeyed.agree (hs : DuplicatesKeyed s) : DuplicatesAgree s := by
  constructor
  · obtain ⟨records, hrecords, hall⟩ := getApplicationBacklogRecords_ok hs
    refine ⟨records, hrecords, ?_⟩
    refine List.Forall₂.imp ?_ ((List.forall₂_and_left _ _).mpr ⟨fun a ha => ha, hall⟩)
    rintro a record ⟨ha, hrow⟩
    refine ⟨hrow.reference, ?_⟩
    intro reference
    rw [hrow.duplicates]
    constructor
    · rintro ⟨b, hb, hrecorded, hreference⟩
      obtain ⟨hstored, hpending⟩ := mem_getPendingApplications.mp hb
      exact ⟨b, hstored, (mem_potential_iff_recorded ha hb).mpr hrecorded, hpending, hreference⟩
    · rintro ⟨b, hstored, hpotential, hpending, hreference⟩
      have hb := mem_getPendingApplications.mpr ⟨hstored, hpending⟩
      exact ⟨b, hb, (mem_potential_iff_recorded ha hb).mp hpotential, hreference⟩
  · intro a ha b hb hpending hduplicate h
    have ha := mem_getPendingApplications.mpr ⟨ha, hpending⟩
    have hb := mem_getPendingApplications.mpr ⟨hb, hduplicate⟩
    rw [mem_potential_iff_recorded ha hb] at h
    rw [mem_potential_iff_recorded hb ha]
    exact h.symm
  · intro applicationId h
    exact hs.not_recorded_self applicationId (mem_getPotentialDuplicateApplicationIds.mp h).1
  · intro applicationId
    refine getDuplicateApplicationsByIds_ok hs (List.nodup_dedup _) ?_
    intro id hid
    rcases (mem_getPotentialDuplicateApplicationIds.mp hid).1 with h | h
    · exact (hs.records _ h).2.2
    · exact (hs.records _ h).2.1

end Agreement

namespace Sample

end Sample

end InquestsApi
