import InquestsApi.Lib.Grouping
import InquestsApi.BackfillReferences

/-! `idds_867_backfill_hist_ref` over the tables as they were: decisions without a creation date,
events without data and any JSON in event data. What one run settles, in any order of the rows,
and what a second run finds to do. -/
namespace InquestsApi
namespace Migration

inductive JsonValue where
  | null
  | bool (value : Bool)
  | number (x : ℚ)
  | string (s : String)
  | array (items : List JsonValue)
  | object (entries : List (String × JsonValue))

def JsonValue.truthy : JsonValue → Bool
  | .null => false
  | .bool value => value
  | .number x => x ≠ 0
  | .string s => s ≠ ""
  | .array items => !items.isEmpty
  | .object entries => !entries.isEmpty

/-- What a value is found under in a dictionary, where `True` is `1`. -/
inductive Key where
  | null
  | number (x : ℚ)
  | text (s : String)
  deriving DecidableEq, Repr

/-- `hash(value)`: a list or a dictionary has none. -/
def JsonValue.key : JsonValue → Option Key
  | .null => some .null
  | .bool value => some (.number (if value then 1 else 0))
  | .number x => some (.number x)
  | .string s => some (.text s)
  | .array _ => none
  | .object _ => none

structure DecisionRow where
  claimId : ℕ
  decision : ClaimDecisionStatus
  createdAt : Option Datetime
  deriving DecidableEq

structure EventRow where
  id : ℕ
  eventReference : HistoryEventReference
  timestamp : Datetime
  eventData : Option (List (String × JsonValue))
  applicationId : ℕ

structure Tables where
  claims : List Claim
  decisions : List DecisionRow
  events : List EventRow

inductive MigrationError where
  | typeError
  deriving DecidableEq, Repr

/-- `hash(value)`, or the error of a value without one. -/
def hashed (value : JsonValue) : Except MigrationError Key :=
  match value.key with
  | some key => .ok key
  | none => .error .typeError

/-- `data.get(key)`: a null is as good as a missing key. -/
def given (data : List (String × JsonValue)) (key : String) : Option JsonValue :=
  match data.lookup key with
  | some .null => none
  | value => value

def normalizeKey : Key → Key
  | .text s => .text ((decisionStatusAliases.lookup s).getD s)
  | key => key

abbrev Candidates := List (String × Datetime)

def buildSubmittedIndex (claims : List Claim) : List ((ℕ × Key) × Candidates) :=
  Grouping.group (claims.map fun c =>
    ((c.applicationId, .text c.claimTypeId.value), (c.claimReference, c.submissionDate)))

/-- `claims_by_id`, in which the last claim of a key stands. -/
def claimsById (claims : List Claim) (claimId : ℕ) : Option Claim :=
  claims.reverse.find? fun c => c.claimId = claimId

def assessmentEntry (claims : List Claim) (decision : DecisionRow) :
    Option ((ℕ × Key × Key) × (String × Datetime)) := do
  let claim ← claimsById claims decision.claimId
  let createdAt ← decision.createdAt
  pure ((claim.applicationId, .text claim.claimTypeId.value,
    normalizeKey (.text decision.decision.value)), (claim.claimReference, createdAt))

def buildAssessmentIndex (claims : List Claim) (decisions : List DecisionRow) :
    List ((ℕ × Key × Key) × Candidates) :=
  Grouping.group (decisions.filterMap (assessmentEntry claims))

section Run

variable (clock : TotalSeconds) (t : Tables) (event : EventRow)

/-- The candidates of an event's data, if it says enough. -/
def lookupCandidates (data : List (String × JsonValue)) : Except MigrationError Candidates :=
  match given data "claim_type" with
  | none => .ok []
  | some claimType =>
    if event.eventReference = .claimSubmitted then do
      let typeKey ← hashed claimType
      pure (Grouping.get (event.applicationId, typeKey) (buildSubmittedIndex t.claims))
    else
      match given data "claim_decision" with
      | none => .ok []
      | some decisionStatus => do
        let statusKey ← hashed decisionStatus
        let typeKey ← hashed claimType
        pure (Grouping.get (event.applicationId, typeKey, normalizeKey statusKey)
          (buildAssessmentIndex t.claims t.decisions))

/-- Whether the data has a reference already. -/
def referenced (data : List (String × JsonValue)) : Bool :=
  match data.lookup "claim_reference" with
  | none => false
  | some value => value.truthy

/-- What becomes of an event, and whether that counts as an update. -/
def settleEvent : Except MigrationError (EventRow × Bool) :=
  if event.eventReference ∉ backfilledEventReferences then .ok (event, false)
  else
    match event.eventData with
    | none => .ok (event, false)
    | some data =>
      if data.isEmpty || referenced data then .ok (event, false)
      else do
        let candidates ← lookupCandidates t event data
        match pickNearest clock candidates event.timestamp with
        | none => pure (event, false)
        | some claimReference =>
          pure ({ event with
            eventData := some (EventData.put data "claim_reference" (.string claimReference)) }, true)

/-- `backfill_history_claim_references`. -/
def backfill : Except MigrationError (ℕ × Tables) := do
  let settled ← t.events.mapM (settleEvent clock t)
  pure ((settled.filter (·.2)).length, { t with events := settled.map (·.1) })

end Run

section Specification

variable (clock : TotalSeconds) (t : Tables) (event event' : EventRow)

def EventRow.get (key : String) : Option JsonValue := event.eventData.bind (·.lookup key)

/-- The two spellings of a rejection are one decision. -/
def SameDecision (status : String) (decision : ClaimDecisionStatus) : Prop :=
  status = decision.value ∨ (status = "REJECTED" ∧ decision = .reject)

/-- A claim that the event can be about, at the time it was submitted or decided. -/
inductive Candidate : String × Datetime → Prop where
  | submitted {c : Claim} (kind : event.eventReference = .claimSubmitted) (stored : c ∈ t.claims)
      (application : c.applicationId = event.applicationId)
      (claimType : event.get "claim_type" = some (.string c.claimTypeId.value)) :
      Candidate (c.claimReference, c.submissionDate)
  | assessed {c : Claim} {d : DecisionRow} {createdAt : Datetime} {status : String}
      (kind : event.eventReference = .claimAssessmentCompleted) (stored : c ∈ t.claims)
      (application : c.applicationId = event.applicationId)
      (claimType : event.get "claim_type" = some (.string c.claimTypeId.value))
      (decided : d ∈ t.decisions) (claim : d.claimId = c.claimId)
      (created : d.createdAt = some createdAt)
      (told : event.get "claim_decision" = some (.string status))
      (decision : SameDecision status d.decision) :
      Candidate (c.claimReference, createdAt)

/-- No candidate is nearer in time. -/
def NearestInTime : String × Datetime → Prop :=
  Nearest.IsNearest (fun candidate : String × Datetime => timeBetween candidate.2 event.timestamp)
    (Candidate t event)

/-- The candidates that are nearest by the seconds have one reference. -/
def NearestBySeconds (claimReference : String) : Prop :=
  (∃ candidate, Nearest.IsNearest (distance clock event.timestamp) (Candidate t event) candidate)
    ∧ ∀ candidate, Nearest.IsNearest (distance clock event.timestamp) (Candidate t event) candidate →
      candidate.1 = claimReference

/-- The event has a reference that counts as one. -/
def EventRow.Referenced : Prop := ∃ data, event.eventData = some data ∧ referenced data = true

def EventRow.withReference (claimReference : String) : EventRow :=
  { event with eventData := event.eventData.map fun data =>
      EventData.put data "claim_reference" (.string claimReference) }

/-- The values that the event is looked up under can be hashed, if it is looked up at all. -/
def EventRow.Hashable : Prop :=
  event.eventReference ∈ backfilledEventReferences → ¬ event.Referenced →
    ∀ claimType, event.eventData.bind (given · "claim_type") = some claimType →
      (event.eventReference = .claimSubmitted → claimType.key.isSome)
        ∧ (event.eventReference ≠ .claimSubmitted →
          ∀ status, event.eventData.bind (given · "claim_decision") = some status →
            claimType.key.isSome ∧ status.key.isSome)

/-- An event as it is left, and whether it counts as updated. -/
inductive Outcome : EventRow × Bool → Prop where
  | kept (left : event.Referenced ∨ ∀ claimReference, ¬ NearestBySeconds clock t event claimReference) :
      Outcome (event, false)
  | found {claimReference : String} (unreferenced : ¬ event.Referenced)
      (nearest : NearestBySeconds clock t event claimReference) :
      Outcome (event.withReference claimReference, true)

/-- What a run makes of an event. -/
structure Settled : Prop where
  frame : ∃ data, event' = { event with eventData := data }
  others : ∀ key ≠ "claim_reference", event'.get key = event.get key
  referenced : event.Referenced → event' = event
  unmatched : (∀ candidate, ¬ Candidate t event candidate) → event' = event
  ambiguous : ∀ a b, NearestInTime t event a → NearestInTime t event b → a.1 ≠ b.1 → event' = event
  added : event' ≠ event → ∃ candidate, NearestInTime t event candidate
    ∧ event'.get "claim_reference" = some (.string candidate.1)
    ∧ ∀ other, NearestInTime t event other → other.1 = candidate.1
  found : ∀ claimReference, ¬ event.Referenced → NearestBySeconds clock t event claimReference →
    event' = event.withReference claimReference

end Specification

section Lookups

variable {t u : Tables} {event : EventRow} {data : List (String × JsonValue)} {candidates : Candidates}

theorem hashed_ok {value : JsonValue} {key : Key} : hashed value = .ok key ↔ value.key = some key := by
  unfold hashed
  cases value.key with
  | none => simp
  | some found => simp

theorem key_text {value : JsonValue} {s : String} : value.key = some (.text s) ↔ value = .string s := by
  cases value <;> simp [JsonValue.key]

theorem normalizeKey_eq {key : Key} {decision : ClaimDecisionStatus} :
    normalizeKey key = normalizeKey (.text decision.value)
      ↔ ∃ status, key = .text status ∧ SameDecision status decision := by
  have hdecision : normalizeKey (.text decision.value) = .text decision.value := by
    cases decision <;> rfl
  rw [hdecision]
  cases key with
  | null => simp [normalizeKey]
  | number x => simp [normalizeKey]
  | text s =>
      by_cases hs : s = "REJECTED"
      · subst hs
        cases decision <;> simp [normalizeKey, decisionStatusAliases, SameDecision, ClaimDecisionStatus.value]
      · have hnone : decisionStatusAliases.lookup s = none := by
          simp [decisionStatusAliases, hs]
        simp [normalizeKey, hnone, SameDecision, hs]

theorem claimsById_iff (hkeys : (t.claims.map (·.claimId)).Nodup) {c : Claim} {claimId : ℕ} :
    claimsById t.claims claimId = some c ↔ c ∈ t.claims ∧ c.claimId = claimId := by
  have hreverse : (t.claims.reverse.map (·.claimId)).Nodup := by
    rw [List.map_reverse]
    exact List.nodup_reverse.mpr hkeys
  unfold claimsById
  rw [Join.find?_key_iff hreverse, List.mem_reverse]

theorem mem_submitted {key : ℕ × Key} {candidate : String × Datetime} :
    candidate ∈ Grouping.get key (buildSubmittedIndex t.claims) ↔
      ∃ c ∈ t.claims, key = (c.applicationId, .text c.claimTypeId.value)
        ∧ candidate = (c.claimReference, c.submissionDate) := by
  unfold buildSubmittedIndex
  rw [Grouping.mem_get_group, List.mem_map]
  constructor
  · intro h
    obtain ⟨c, hc, heq⟩ := h
    cases heq
    exact ⟨c, hc, rfl, rfl⟩
  · intro h
    obtain ⟨c, hc, rfl, rfl⟩ := h
    exact ⟨c, hc, rfl⟩

theorem mem_assessment (hkeys : (t.claims.map (·.claimId)).Nodup) {key : ℕ × Key × Key}
    {candidate : String × Datetime} :
    candidate ∈ Grouping.get key (buildAssessmentIndex t.claims t.decisions) ↔
      ∃ d ∈ t.decisions, ∃ c ∈ t.claims, ∃ createdAt, c.claimId = d.claimId
        ∧ d.createdAt = some createdAt
        ∧ key = (c.applicationId, .text c.claimTypeId.value, normalizeKey (.text d.decision.value))
        ∧ candidate = (c.claimReference, createdAt) := by
  unfold buildAssessmentIndex
  rw [Grouping.mem_get_group, List.mem_filterMap]
  unfold assessmentEntry
  constructor
  · intro h
    obtain ⟨d, hd, hentry⟩ := h
    obtain ⟨c, hfound, hentry⟩ := Option.bind_eq_some_iff.mp hentry
    obtain ⟨createdAt, hcreated, hentry⟩ := Option.bind_eq_some_iff.mp hentry
    obtain ⟨hc, hid⟩ := (claimsById_iff hkeys).mp hfound
    cases hentry
    exact ⟨d, hd, c, hc, createdAt, hid, hcreated, rfl, rfl⟩
  · intro h
    obtain ⟨d, hd, c, hc, createdAt, hid, hcreated, rfl, rfl⟩ := h
    refine ⟨d, hd, ?_⟩
    rw [(claimsById_iff hkeys).mpr ⟨hc, hid⟩, hcreated]
    rfl

theorem given_some {key : String} {value : JsonValue} (h : given data key = some value) :
    value ≠ .null ∧ data.lookup key = some value := by
  unfold given at h
  split at h
  · cases h
  · rename_i hvalue
    refine ⟨?_, h⟩
    rintro rfl
    exact hvalue h

theorem given_text {key s : String} (h : data.lookup key = some (.string s)) :
    given data key = some (.string s) := by
  unfold given
  rw [h]

theorem Candidate.claimType {candidate : String × Datetime} (h : Candidate t event candidate) :
    ∃ s, event.get "claim_type" = some (.string s) := by
  cases h with
  | submitted _ _ _ htype => exact ⟨_, htype⟩
  | assessed _ _ _ htype => exact ⟨_, htype⟩

theorem Candidate.kind {candidate : String × Datetime} (h : Candidate t event candidate) :
    event.eventReference ∈ backfilledEventReferences := by
  cases h with
  | submitted hkind => exact hkind ▸ List.mem_cons_self
  | assessed hkind => exact hkind ▸ List.mem_cons_of_mem _ List.mem_cons_self

theorem submitted_mem {claimType : JsonValue} {typeKey : Key} {candidate : String × Datetime}
    (hkind : event.eventReference = .claimSubmitted) (htype : event.get "claim_type" = some claimType)
    (hkey : claimType.key = some typeKey) :
    candidate ∈ Grouping.get (event.applicationId, typeKey) (buildSubmittedIndex t.claims)
      ↔ Candidate t event candidate := by
  rw [mem_submitted]
  constructor
  · intro h
    obtain ⟨c, hc, hsame, rfl⟩ := h
    obtain ⟨happlication, rfl⟩ := Prod.mk.inj hsame
    rw [key_text.mp hkey] at htype
    exact .submitted hkind hc happlication.symm htype
  · intro h
    cases h with
    | assessed hassessed => rw [hkind] at hassessed; cases hassessed
    | @submitted c _ hc happlication htold =>
        have hvalue : claimType = .string c.claimTypeId.value := Option.some.inj (htype.symm.trans htold)
        have hsame : some typeKey = some (Key.text c.claimTypeId.value) := by
          rw [← hkey, hvalue]
          rfl
        exact ⟨c, hc, by rw [happlication, Option.some.inj hsame], rfl⟩

theorem assessed_mem (hkeys : (t.claims.map (·.claimId)).Nodup) {claimType status : JsonValue}
    {typeKey statusKey : Key} {candidate : String × Datetime}
    (hkind : event.eventReference = .claimAssessmentCompleted)
    (htype : event.get "claim_type" = some claimType) (hkey : claimType.key = some typeKey)
    (hstatus : event.get "claim_decision" = some status) (hstatusKey : status.key = some statusKey) :
    candidate ∈ Grouping.get (event.applicationId, typeKey, normalizeKey statusKey)
        (buildAssessmentIndex t.claims t.decisions)
      ↔ Candidate t event candidate := by
  rw [mem_assessment hkeys]
  constructor
  · intro h
    obtain ⟨d, hd, c, hc, createdAt, hid, hcreated, hsame, rfl⟩ := h
    obtain ⟨happlication, hrest⟩ := Prod.mk.inj hsame
    obtain ⟨rfl, hnormal⟩ := Prod.mk.inj hrest
    obtain ⟨told, rfl, hdecision⟩ := normalizeKey_eq.mp hnormal
    rw [key_text.mp hkey] at htype
    rw [key_text.mp hstatusKey] at hstatus
    exact .assessed hkind hc happlication.symm htype hd hid.symm hcreated hstatus hdecision
  · intro h
    cases h with
    | submitted hsubmitted => rw [hkind] at hsubmitted; cases hsubmitted
    | @assessed c d createdAt told _ hc happlication htold hd hclaim hcreated htoldStatus hdecision =>
        have hvalue : claimType = .string c.claimTypeId.value := Option.some.inj (htype.symm.trans htold)
        have hstatusValue : status = .string told := Option.some.inj (hstatus.symm.trans htoldStatus)
        have hsameType : typeKey = .text c.claimTypeId.value := by
          rw [hvalue] at hkey
          exact (Option.some.inj hkey).symm
        have hsameStatus : statusKey = .text told := by
          rw [hstatusValue] at hstatusKey
          exact (Option.some.inj hstatusKey).symm
        have hnormal := normalizeKey_eq.mpr ⟨told, hsameStatus, hdecision⟩
        exact ⟨d, hd, c, hc, createdAt, hclaim.symm, hcreated,
          by rw [happlication, hsameType, hnormal], rfl⟩

/-- What is looked up are the candidates. -/
theorem lookupCandidates_mem (hkeys : (t.claims.map (·.claimId)).Nodup)
    (hkind : event.eventReference ∈ backfilledEventReferences) (hdata : event.eventData = some data)
    (h : lookupCandidates t event data = .ok candidates) (candidate : String × Datetime) :
    candidate ∈ candidates ↔ Candidate t event candidate := by
  have hget : ∀ key, event.get key = data.lookup key := fun key => by
    rw [EventRow.get, hdata, Option.bind_some]
  unfold lookupCandidates at h
  cases htype : given data "claim_type" with
  | none =>
      rw [htype] at h
      cases h
      refine iff_of_false List.not_mem_nil ?_
      intro hcandidate
      obtain ⟨s, hs⟩ := hcandidate.claimType
      rw [given_text ((hget _).symm.trans hs)] at htype
      cases htype
  | some claimType =>
      have htold : event.get "claim_type" = some claimType := (hget _).trans (given_some htype).2
      rw [htype] at h
      dsimp only at h
      by_cases hsubmitted : event.eventReference = .claimSubmitted
      · rw [if_pos hsubmitted] at h
        obtain ⟨typeKey, hkey, hrest⟩ := except_bind_ok.mp h
        cases hrest
        exact submitted_mem hsubmitted htold (hashed_ok.mp hkey)
      · rw [if_neg hsubmitted] at h
        have hassessed : event.eventReference = .claimAssessmentCompleted := by
          simpa [backfilledEventReferences, hsubmitted] using hkind
        cases hstatus : given data "claim_decision" with
        | none =>
            rw [hstatus] at h
            cases h
            refine iff_of_false List.not_mem_nil ?_
            intro hcandidate
            cases hcandidate with
            | submitted hkind' => exact hsubmitted hkind'
            | assessed _ _ _ _ _ _ _ htoldStatus =>
                rw [given_text ((hget _).symm.trans htoldStatus)] at hstatus
                cases hstatus
        | some status =>
            rw [hstatus] at h
            obtain ⟨statusKey, hstatusKey, hrest⟩ := except_bind_ok.mp h
            obtain ⟨typeKey, hkey, hlast⟩ := except_bind_ok.mp hrest
            cases hlast
            exact assessed_mem hkeys hassessed htold (hashed_ok.mp hkey)
              ((hget _).trans (given_some hstatus).2) (hashed_ok.mp hstatusKey)

end Lookups

section Settling

variable {clock : TotalSeconds} {t u : Tables} {event event' : EventRow} {updated : Bool}
variable {data : List (String × JsonValue)} {claimReference : String}

theorem hashed_goes {value : JsonValue} : (∃ key, hashed value = .ok key) ↔ value.key.isSome = true := by
  rw [Option.isSome_iff_exists]
  exact exists_congr fun key => hashed_ok

theorem lookupCandidates_goes : (∃ candidates, lookupCandidates t event data = .ok candidates) ↔
    ∀ claimType, given data "claim_type" = some claimType →
      (event.eventReference = .claimSubmitted → claimType.key.isSome)
        ∧ (event.eventReference ≠ .claimSubmitted →
          ∀ status, given data "claim_decision" = some status →
            claimType.key.isSome ∧ status.key.isSome) := by
  unfold lookupCandidates
  cases htype : given data "claim_type" with
  | none => simp
  | some claimType =>
      by_cases hsubmitted : event.eventReference = .claimSubmitted
      · cases hkey : hashed claimType <;> simp [hsubmitted, ← hashed_goes, hkey]
      · cases hstatus : given data "claim_decision" with
        | none => simp [hsubmitted]
        | some status =>
            cases hkey : hashed claimType <;> cases hstatusKey : hashed status <;>
              simp [hsubmitted, ← hashed_goes, hkey, hstatusKey]

theorem settleEvent_other (h : event.eventReference ∉ backfilledEventReferences) :
    settleEvent clock t event = .ok (event, false) := if_pos h

theorem settleEvent_referenced (h : event.Referenced) : settleEvent clock t event = .ok (event, false) := by
  obtain ⟨data, hdata, hreferenced⟩ := h
  unfold settleEvent
  by_cases hkind : event.eventReference ∈ backfilledEventReferences
  · rw [if_neg (not_not_intro hkind), hdata]
    exact if_pos (by rw [hreferenced, Bool.or_true])
  · exact if_pos hkind

theorem settleEvent_dataless (h : event.eventData = none ∨ event.eventData = some []) :
    settleEvent clock t event = .ok (event, false) := by
  unfold settleEvent
  by_cases hkind : event.eventReference ∈ backfilledEventReferences
  · rw [if_neg (not_not_intro hkind)]
    rcases h with h | h
    · rw [h]
    · rw [h]
      rfl
  · exact if_pos hkind

/-- An event that is looked up. -/
theorem settleEvent_lookup (hkind : event.eventReference ∈ backfilledEventReferences)
    (hdata : event.eventData = some data) (hne : data ≠ []) (hreferenced : ¬ referenced data = true) :
    settleEvent clock t event = (lookupCandidates t event data).map fun candidates =>
      match pickNearest clock candidates event.timestamp with
      | none => (event, false)
      | some claimReference => (event.withReference claimReference, true) := by
  unfold settleEvent EventRow.withReference
  rw [if_neg (not_not_intro hkind), hdata]
  dsimp only
  rw [if_neg (by simp [hne, hreferenced])]
  cases lookupCandidates t event data with
  | error e => rfl
  | ok candidates =>
      change (match pickNearest clock candidates event.timestamp with | none => _ | some _ => _) = _
      cases hpick : pickNearest clock candidates event.timestamp with
      | none => simp [Except.map, hpick]
      | some claimReference => simp [Except.map, hpick, Option.map]

theorem Candidate.hasData {candidate : String × Datetime} (h : Candidate t event candidate) :
    ∃ data, event.eventData = some data ∧ data ≠ [] := by
  obtain ⟨s, hs⟩ := h.claimType
  cases hdata : event.eventData with
  | none =>
      rw [EventRow.get, hdata] at hs
      cases hs
  | some data =>
      refine ⟨data, rfl, ?_⟩
      rintro rfl
      rw [EventRow.get, hdata] at hs
      cases hs

theorem NearestBySeconds.candidate (h : NearestBySeconds clock t event claimReference) :
    ∃ candidate, Candidate t event candidate ∧ candidate.1 = claimReference := by
  obtain ⟨⟨candidate, hnearest⟩, hall⟩ := h
  exact ⟨candidate, hnearest.among, hall candidate hnearest⟩

theorem NearestBySeconds.unique {other : String} (h : NearestBySeconds clock t event claimReference)
    (hother : NearestBySeconds clock t event other) : claimReference = other := by
  obtain ⟨⟨candidate, hnearest⟩, hall⟩ := h
  rw [← hall candidate hnearest, hother.2 candidate hnearest]

/-- The step of the loop. -/
theorem settleEvent_outcome (hkeys : (t.claims.map (·.claimId)).Nodup) {result : EventRow × Bool}
    (h : settleEvent clock t event = .ok result) : Outcome clock t event result := by
  have hkept : ∀ hresult : (.ok (event, false) : Except MigrationError _) = .ok result,
      (event.Referenced ∨ ∀ claimReference, ¬ NearestBySeconds clock t event claimReference) →
        Outcome clock t event result := by
    intro hresult hleft
    cases hresult
    exact .kept hleft
  by_cases hreferenced : event.Referenced
  · exact hkept ((settleEvent_referenced hreferenced).symm.trans h) (.inl hreferenced)
  by_cases hkind : event.eventReference ∈ backfilledEventReferences
  · cases hdata : event.eventData with
    | none =>
        refine hkept ((settleEvent_dataless (.inl hdata)).symm.trans h) (.inr ?_)
        intro claimReference hnearest
        obtain ⟨candidate, hcandidate, -⟩ := hnearest.candidate
        obtain ⟨data, hsome, -⟩ := hcandidate.hasData
        rw [hdata] at hsome
        cases hsome
    | some data =>
        by_cases hne : data = []
        · subst hne
          refine hkept ((settleEvent_dataless (.inr hdata)).symm.trans h) (.inr ?_)
          intro claimReference hnearest
          obtain ⟨candidate, hcandidate, -⟩ := hnearest.candidate
          obtain ⟨data, hsome, hne⟩ := hcandidate.hasData
          rw [hdata] at hsome
          cases hsome
          exact hne rfl
        · have hunreferenced : ¬ referenced data = true := fun hyes => hreferenced ⟨data, hdata, hyes⟩
          rw [settleEvent_lookup hkind hdata hne hunreferenced] at h
          cases hlookup : lookupCandidates t event data with
          | error e => rw [hlookup] at h; cases h
          | ok candidates =>
              have hmem := lookupCandidates_mem hkeys hkind hdata hlookup
              rw [hlookup] at h
              cases hpick : pickNearest clock candidates event.timestamp with
              | none =>
                  simp only [Except.map, hpick] at h
                  refine hkept h (.inr ?_)
                  intro claimReference hnearest
                  have hsome := (Nearest.pick_eq_some hmem).mpr hnearest
                  rw [pickNearest, hsome] at hpick
                  cases hpick
              | some claimReference =>
                  simp only [Except.map, hpick] at h
                  cases h
                  exact .found hreferenced ((Nearest.pick_eq_some hmem).mp hpick)
  · refine hkept ((settleEvent_other hkind).symm.trans h) (.inr ?_)
    intro claimReference hnearest
    obtain ⟨candidate, hcandidate, -⟩ := hnearest.candidate
    exact hkind hcandidate.kind

theorem settleEvent_goes : (∃ result, settleEvent clock t event = .ok result) ↔ event.Hashable := by
  have hmap : ∀ {α β : Type} {x : Except MigrationError α} {f : α → β},
      (∃ b, x.map f = .ok b) ↔ ∃ a, x = .ok a := by
    intro α β x f
    cases x <;> simp [Except.map]
  by_cases hkind : event.eventReference ∈ backfilledEventReferences
  · by_cases hreferenced : event.Referenced
    · exact iff_of_true ⟨_, settleEvent_referenced hreferenced⟩ fun _ hnot => absurd hreferenced hnot
    · cases hdata : event.eventData with
      | none =>
          refine iff_of_true ⟨_, settleEvent_dataless (.inl hdata)⟩ ?_
          intro _ _ claimType htype
          rw [hdata] at htype
          cases htype
      | some data =>
          by_cases hne : data = []
          · subst hne
            refine iff_of_true ⟨_, settleEvent_dataless (.inr hdata)⟩ ?_
            intro _ _ claimType htype
            rw [hdata] at htype
            cases htype
          · have hunreferenced : ¬ referenced data = true := fun hyes => hreferenced ⟨data, hdata, hyes⟩
            rw [settleEvent_lookup hkind hdata hne hunreferenced, hmap, lookupCandidates_goes]
            unfold EventRow.Hashable
            simp only [hdata, Option.bind_some]
            exact ⟨fun h _ _ => h, fun h => h hkind hreferenced⟩
  · exact iff_of_true ⟨_, settleEvent_other hkind⟩ fun h => absurd h hkind

theorem Outcome.unique {a b : EventRow × Bool} (ha : Outcome clock t event a)
    (hb : Outcome clock t event b) : a = b := by
  cases ha with
  | kept hleft =>
      cases hb with
      | kept => rfl
      | found hunreferenced hnearest =>
          rcases hleft with h | h
          · exact absurd h hunreferenced
          · exact absurd hnearest (h _)
  | found hunreferenced hnearest =>
      cases hb with
      | kept hleft =>
          rcases hleft with h | h
          · exact absurd h hunreferenced
          · exact absurd hnearest (h _)
      | found _ hnearest' => rw [hnearest.unique hnearest']

theorem NearestBySeconds.congr {other : EventRow} (htime : other.timestamp = event.timestamp)
    (h : ∀ candidate, Candidate t event candidate ↔ Candidate u other candidate) :
    NearestBySeconds clock t event claimReference ↔ NearestBySeconds clock u other claimReference := by
  have hsame : Candidate t event = Candidate u other := by
    funext candidate
    exact propext (h candidate)
  unfold NearestBySeconds
  rw [hsame, htime]

/-- Tables with the same candidates for an event settle it alike. -/
theorem settleEvent_congr (ht : (t.claims.map (·.claimId)).Nodup) (hu : (u.claims.map (·.claimId)).Nodup)
    (h : ∀ candidate, Candidate t event candidate ↔ Candidate u event candidate) :
    settleEvent clock t event = settleEvent clock u event := by
  have hgoes : (∃ result, settleEvent clock t event = .ok result)
      ↔ ∃ result, settleEvent clock u event = .ok result := settleEvent_goes.trans settleEvent_goes.symm
  cases hleft : settleEvent clock t event with
  | error e =>
      cases hright : settleEvent clock u event with
      | error e' =>
          cases e
          cases e'
          rfl
      | ok result =>
          obtain ⟨result', hresult⟩ := hgoes.mpr ⟨result, hright⟩
          rw [hleft] at hresult
          cases hresult
  | ok result =>
      obtain ⟨result', hresult⟩ := hgoes.mp ⟨result, hleft⟩
      have houtcome : Outcome clock u event result := by
        cases settleEvent_outcome ht hleft with
        | kept hkept =>
            refine .kept (hkept.imp_right fun hnone claimReference hnearest => ?_)
            exact hnone claimReference ((NearestBySeconds.congr rfl h).mpr hnearest)
        | found hunreferenced hnearest =>
            exact .found hunreferenced ((NearestBySeconds.congr rfl h).mp hnearest)
      rw [hresult, houtcome.unique (settleEvent_outcome hu hresult)]

theorem Candidate.mono (hclaims : ∀ c ∈ t.claims, c ∈ u.claims) (hdecisions : ∀ d ∈ t.decisions, d ∈ u.decisions)
    {candidate : String × Datetime} (h : Candidate t event candidate) : Candidate u event candidate := by
  cases h with
  | submitted hkind hc happlication htype => exact .submitted hkind (hclaims _ hc) happlication htype
  | assessed hkind hc happlication htype hd hclaim hcreated htold hdecision =>
      exact .assessed hkind (hclaims _ hc) happlication htype (hdecisions _ hd) hclaim hcreated htold
        hdecision

/-- The order of the rows does not matter. -/
theorem settleEvent_perm (hkeys : (t.claims.map (·.claimId)).Nodup) (hclaims : t.claims.Perm u.claims)
    (hdecisions : t.decisions.Perm u.decisions) : settleEvent clock t = settleEvent clock u := by
  funext event
  refine settleEvent_congr hkeys ((hclaims.map _).nodup_iff.mp hkeys) fun candidate => ⟨?_, ?_⟩
  · exact .mono (fun c hc => hclaims.mem_iff.mp hc) fun d hd => hdecisions.mem_iff.mp hd
  · exact .mono (fun c hc => hclaims.mem_iff.mpr hc) fun d hd => hdecisions.mem_iff.mpr hd

end Settling

section Settled

variable {clock : TotalSeconds} {t : Tables} {event : EventRow} {updated : Bool}
variable {claimReference : String}

theorem withReference_get_other {key : String} (h : key ≠ "claim_reference") :
    (event.withReference claimReference).get key = event.get key := by
  unfold EventRow.get EventRow.withReference
  cases event.eventData with
  | none => rfl
  | some data => exact EventData.put_lookup_other h

theorem withReference_get (h : ∃ data, event.eventData = some data) :
    (event.withReference claimReference).get "claim_reference" = some (.string claimReference) := by
  obtain ⟨data, hdata⟩ := h
  unfold EventRow.get EventRow.withReference
  rw [hdata]
  exact EventData.put_lookup_self

theorem withReference_withReference :
    (event.withReference claimReference).withReference claimReference
      = event.withReference claimReference := by
  unfold EventRow.withReference
  cases event.eventData with
  | none => rfl
  | some data =>
      simp only [Option.map_some]
      rw [EventData.put_put]

/-- Candidates nearest in time are nearest by the seconds too. -/
theorem NearestInTime.bySeconds {candidate : String × Datetime} (h : NearestInTime t event candidate) :
    Nearest.IsNearest (distance clock event.timestamp) (Candidate t event) candidate :=
  Nearest.IsNearest.of_monotone clock.mono h

theorem Outcome.settled (h : Outcome clock t event (event', updated)) : Settled clock t event event' := by
  cases h with
  | kept hleft =>
      refine ⟨⟨_, rfl⟩, fun _ _ => rfl, fun _ => rfl, fun _ => rfl, fun _ _ _ _ _ => rfl,
        fun h => absurd rfl h, ?_⟩
      intro claimReference hunreferenced hnearest
      rcases hleft with h | h
      · exact absurd h hunreferenced
      · exact absurd hnearest (h claimReference)
  | @found claimReference hunreferenced hnearest =>
      obtain ⟨candidate, hcandidate, -⟩ := hnearest.candidate
      have hagree : ∀ c, NearestInTime t event c → c.1 = claimReference := fun c hc =>
        hnearest.2 c hc.bySeconds
      refine ⟨⟨_, rfl⟩, fun key hkey => withReference_get_other hkey, fun h => absurd h hunreferenced,
        fun h => absurd hcandidate (h candidate), ?_, ?_, ?_⟩
      · intro a b ha hb hdiffer
        exact absurd ((hagree a ha).trans (hagree b hb).symm) hdiffer
      · intro _
        obtain ⟨nearest, hinTime⟩ : ∃ nearest, NearestInTime t event nearest :=
          Nearest.exists_isNearest_of_wellFounded ⟨candidate, hcandidate⟩
        obtain ⟨data, hdata, -⟩ := hcandidate.hasData
        refine ⟨nearest, hinTime, ?_, fun other hother => ?_⟩
        · rw [hagree nearest hinTime]
          exact withReference_get ⟨data, hdata⟩
        · rw [hagree nearest hinTime, hagree other hother]
      · intro other _ hother
        rw [hnearest.unique hother]

theorem withReference_given {key : String} (h : key ≠ "claim_reference") :
    (event.withReference claimReference).eventData.bind (given · key)
      = event.eventData.bind (given · key) := by
  unfold EventRow.withReference
  cases event.eventData with
  | none => rfl
  | some data =>
      change given (EventData.put data "claim_reference" (.string claimReference)) key = given data key
      unfold given
      rw [EventData.put_lookup_other h]

theorem withReference_hashable (hunreferenced : ¬ event.Referenced) (h : event.Hashable) :
    (event.withReference claimReference).Hashable := by
  intro hkind _ claimType htype
  rw [withReference_given (by decide)] at htype ⊢
  exact h hkind hunreferenced claimType htype

theorem withReference_candidate {candidate : String × Datetime} :
    Candidate t event candidate ↔ Candidate t (event.withReference claimReference) candidate := by
  have htype : (event.withReference claimReference).get "claim_type" = event.get "claim_type" :=
    withReference_get_other (by decide)
  have hdecision : (event.withReference claimReference).get "claim_decision" = event.get "claim_decision" :=
    withReference_get_other (by decide)
  constructor
  · intro h
    cases h with
    | submitted hkind hc happlication htold => exact .submitted hkind hc happlication (htype.trans htold)
    | assessed hkind hc happlication htold hd hclaim hcreated hstatus hsame =>
        exact .assessed hkind hc happlication (htype.trans htold) hd hclaim hcreated
          (hdecision.trans hstatus) hsame
  · intro h
    cases h with
    | submitted hkind hc happlication htold => exact .submitted hkind hc happlication (htype.symm.trans htold)
    | assessed hkind hc happlication htold hd hclaim hcreated hstatus hsame =>
        exact .assessed hkind hc happlication (htype.symm.trans htold) hd hclaim hcreated
          (hdecision.symm.trans hstatus) hsame

/-- A claim reference that does not count as one is empty. -/
theorem empty_of_unreferenced (hdata : ∃ data, event.eventData = some data)
    (h : ¬ (event.withReference claimReference).Referenced) : claimReference = "" := by
  obtain ⟨data, hdata⟩ := hdata
  by_contra hne
  refine h ⟨EventData.put data "claim_reference" (.string claimReference), ?_, ?_⟩
  · rw [EventRow.withReference, hdata]
    rfl
  · rw [referenced, EventData.put_lookup_self]
    simpa [JsonValue.truthy] using hne

theorem Candidate.ofClaim {candidate : String × Datetime} (h : Candidate t event candidate) :
    ∃ c ∈ t.claims, c.claimReference = candidate.1 := by
  cases h with
  | submitted _ hc => exact ⟨_, hc, rfl⟩
  | assessed _ hc => exact ⟨_, hc, rfl⟩

/-- A settled event is settled again as it is, and counts again only for an empty reference. -/
theorem Outcome.again (hkeys : (t.claims.map (·.claimId)).Nodup) (hhashable : event.Hashable)
    (h : Outcome clock t event (event', updated)) :
    ∃ again, settleEvent clock t event' = .ok (event', again)
      ∧ (again = true → ∃ c ∈ t.claims, c.claimReference = "") := by
  cases h with
  | kept hleft =>
      obtain ⟨result, hresult⟩ := settleEvent_goes.mpr hhashable
      have hsame := (settleEvent_outcome hkeys hresult).unique (.kept hleft)
      rw [hsame] at hresult
      exact ⟨false, hresult, fun h => absurd h Bool.false_ne_true⟩
  | @found claimReference hunreferenced hnearest =>
      obtain ⟨candidate, hcandidate, hreference⟩ := hnearest.candidate
      obtain ⟨data, hdata, -⟩ := hcandidate.hasData
      obtain ⟨result, hresult⟩ := settleEvent_goes.mpr (withReference_hashable hunreferenced hhashable)
      cases settleEvent_outcome hkeys hresult with
      | kept => exact ⟨false, hresult, fun h => absurd h Bool.false_ne_true⟩
      | @found other hagain hnearest' =>
          have hcongr : NearestBySeconds clock t event other
              ↔ NearestBySeconds clock t (event.withReference claimReference) other :=
            NearestBySeconds.congr rfl fun _ => withReference_candidate
          have hother : claimReference = other := hnearest.unique (hcongr.mpr hnearest')
          rw [← hother, withReference_withReference] at hresult
          refine ⟨true, hresult, fun _ => ?_⟩
          obtain ⟨c, hc, hsame⟩ := hcandidate.ofClaim
          exact ⟨c, hc, hsame.trans (hreference.trans (empty_of_unreferenced ⟨data, hdata⟩ hagain))⟩

end Settled

section Run

variable {clock : TotalSeconds} {t t' : Tables} {n : ℕ}

/-- What becomes of an event that can be looked up. -/
def settled (clock : TotalSeconds) (t : Tables) (event : EventRow) : EventRow × Bool :=
  match settleEvent clock t event with
  | .ok result => result
  | .error _ => (event, false)

theorem settleEvent_eq {event : EventRow} {result : EventRow × Bool} :
    settleEvent clock t event = .ok result ↔ event.Hashable ∧ result = settled clock t event := by
  unfold settled
  constructor
  · intro h
    rw [h]
    exact ⟨settleEvent_goes.mp ⟨result, h⟩, rfl⟩
  · rintro ⟨hhashable, rfl⟩
    obtain ⟨result, h⟩ := settleEvent_goes.mpr hhashable
    rw [h]

theorem settled_ok {event : EventRow} (h : event.Hashable) :
    settleEvent clock t event = .ok (settled clock t event) := settleEvent_eq.mpr ⟨h, rfl⟩

theorem settled_outcome (hkeys : (t.claims.map (·.claimId)).Nodup) {event : EventRow}
    (h : event.Hashable) : Outcome clock t event (settled clock t event) :=
  settleEvent_outcome hkeys (settled_ok h)

theorem backfill_ok : backfill clock t = .ok (n, t') ↔
    (∀ event ∈ t.events, event.Hashable)
      ∧ n = ((t.events.map (settled clock t)).filter (·.2)).length
      ∧ t' = { t with events := t.events.map fun event => (settled clock t event).1 } := by
  unfold backfill
  rw [except_bind_ok]
  simp only [Checked.mapM_eq_map fun event result => settleEvent_eq, except_pure_ok, Prod.mk.injEq]
  constructor
  · rintro ⟨_, ⟨hall, rfl⟩, rfl, rfl⟩
    exact ⟨hall, rfl, by rw [List.map_map]; rfl⟩
  · rintro ⟨hall, rfl, rfl⟩
    exact ⟨_, ⟨hall, rfl⟩, rfl, by rw [List.map_map]; rfl⟩

/-- A second run leaves every event as the first one did. -/
theorem backfill_again (hkeys : (t.claims.map (·.claimId)).Nodup) (h : backfill clock t = .ok (n, t')) :
    ∃ m, backfill clock t' = .ok (m, t') ∧ ((∀ c ∈ t.claims, c.claimReference ≠ "") → m = 0) := by
  obtain ⟨hall, -, rfl⟩ := backfill_ok.mp h
  have hagain : ∀ event ∈ t.events, ∃ again,
      settleEvent clock t (settled clock t event).1 = .ok ((settled clock t event).1, again)
        ∧ (again = true → ∃ c ∈ t.claims, c.claimReference = "") := fun event hevent =>
    (settled_outcome hkeys (hall event hevent)).again hkeys (hall event hevent)
  have hsettled : ∀ event ∈ t.events, (settled clock t event).1.Hashable
      ∧ (settled clock t (settled clock t event).1).1 = (settled clock t event).1
      ∧ ((settled clock t (settled clock t event).1).2 = true → ∃ c ∈ t.claims, c.claimReference = "") := by
    intro event hevent
    obtain ⟨again, hok, hempty⟩ := hagain event hevent
    obtain ⟨hhashable, hsame⟩ := settleEvent_eq.mp hok
    rw [← hsame]
    exact ⟨hhashable, rfl, hempty⟩
  refine ⟨_, backfill_ok.mpr ⟨?_, rfl, ?_⟩, ?_⟩
  · intro event hevent
    obtain ⟨old, hold, rfl⟩ := List.mem_map.mp hevent
    exact (hsettled old hold).1
  · refine congrArg (Tables.mk t.claims t.decisions) ?_
    rw [List.map_map]
    exact List.map_congr_left fun event hevent => (hsettled event hevent).2.1.symm
  · intro hreferences
    rw [List.length_eq_zero_iff, List.filter_eq_nil_iff]
    intro result hresult hcounts
    obtain ⟨event, hevent, rfl⟩ := List.mem_map.mp hresult
    obtain ⟨old, hold, rfl⟩ := List.mem_map.mp hevent
    obtain ⟨c, hc, hempty⟩ := (hsettled old hold).2.2 hcounts
    exact hreferences c hc hempty

end Run

section Store

/-- The JSON that is stored of a value, decimals as their texts. -/
def stored (printed : ℚ → String) : Json → JsonValue
  | .null => .null
  | .text s => .string s
  | .texts items => .array (items.map .string)
  | .amount x => .string (printed x)
  | .fields entries => .object (entries.map fun entry =>
      (entry.1, match entry.2 with
        | none => .null
        | some s => .string s))

def storedData (printed : ℚ → String) (data : EventData) : List (String × JsonValue) :=
  data.map fun entry => (entry.1, stored printed entry.2)

def EventRow.ofEvent (printed : ℚ → String) (event : HistoryEvent) : EventRow where
  id := event.id
  eventReference := event.eventReference
  timestamp := event.timestamp
  eventData := some (storedData printed event.eventData)
  applicationId := event.applicationId

def DecisionRow.ofDecision (d : ClaimDecision) : DecisionRow where
  claimId := d.claimId
  decision := d.decision
  createdAt := some d.createdAt

/-- The tables of a store. -/
def Tables.ofStore (printed : ℚ → String) (s : Store) : Tables where
  claims := s.claims
  decisions := s.claimDecisions.map .ofDecision
  events := s.historyEvents.map (.ofEvent printed)

variable {printed : ℚ → String} {s : Store} {event : HistoryEvent}

theorem storedData_lookup (data : EventData) (key : String) :
    (storedData printed data).lookup key = (data.lookup key).map (stored printed) := by
  induction data with
  | nil => rfl
  | cons entry rest ih =>
      obtain ⟨k, value⟩ := entry
      change List.lookup key ((k, stored printed value) :: storedData printed rest) = _
      by_cases h : k = key
      · rw [h, List.lookup_cons_self, List.lookup_cons_self, Option.map_some]
      · rw [lookup_cons_other h, lookup_cons_other h, ih]

theorem storedData_put (data : EventData) (key text : String) :
    storedData printed (EventData.put data key (.text text))
      = EventData.put (storedData printed data) key (.string text) := by
  unfold EventData.put
  rw [storedData_lookup, Option.isSome_map]
  by_cases h : (data.lookup key).isSome = true
  · rw [if_pos h, if_pos h]
    unfold storedData
    rw [List.map_map, List.map_map]
    apply List.map_congr_left
    intro entry _
    by_cases hkey : entry.1 = key <;> simp [hkey, stored]
  · rw [if_neg h, if_neg h]
    simp [storedData, stored]

theorem storedData_referenced (hprinted : ∀ x, printed x ≠ "") (data : EventData) :
    referenced (storedData printed data) = Json.truthy (data.lookup "claim_reference") := by
  unfold referenced
  rw [storedData_lookup]
  cases data.lookup "claim_reference" with
  | none => rfl
  | some value =>
      cases value with
      | null => rfl
      | text s => rfl
      | texts items => cases items <;> rfl
      | amount x => simp [stored, JsonValue.truthy, Json.truthy, hprinted]
      | fields entries => cases entries <;> rfl

theorem storedData_given (data : EventData) (key : String) :
    given (storedData printed data) key = (EventData.get data key).map (stored printed) := by
  unfold given EventData.get
  rw [storedData_lookup]
  cases data.lookup key with
  | none => rfl
  | some value => cases value <;> rfl

/-- The lookups of an event are in texts, as the use cases write them. -/
structure LooksUpTexts (event : HistoryEvent) : Prop where
  claimType : ∀ value, EventData.get event.eventData "claim_type" = some value → ∃ s, value = .text s
  decision : ∀ value, EventData.get event.eventData "claim_decision" = some value → ∃ s, value = .text s

theorem mem_submitted_ofStore {applicationId : ℕ} {told : String} {candidate : String × Datetime} :
    candidate ∈ Grouping.get (applicationId, .text told) (buildSubmittedIndex (Tables.ofStore printed s).claims)
      ↔ candidate ∈ submittedIndex s.claims (applicationId, .text told) := by
  rw [mem_submitted, submittedIndex]
  simp only [List.mem_map, List.mem_filter, decide_eq_true_eq, Prod.mk.injEq, Key.text.injEq, Json.text.injEq]
  constructor
  · rintro ⟨c, hc, ⟨rfl, rfl⟩, rfl⟩
    exact ⟨c, ⟨hc, rfl, rfl⟩, rfl⟩
  · rintro ⟨c, ⟨hc, rfl, rfl⟩, rfl⟩
    exact ⟨c, hc, ⟨rfl, rfl⟩, rfl⟩

theorem mem_assessmentIndex (hkeys : (s.claims.map (·.claimId)).Nodup) {key : ℕ × Json × Json}
    {candidate : String × Datetime} :
    candidate ∈ assessmentIndex s.claims s.claimDecisions key ↔
      ∃ d ∈ s.claimDecisions, ∃ c ∈ s.claims, c.claimId = d.claimId
        ∧ (c.applicationId, .text c.claimTypeId.value,
            normalizeDecisionStatus (.text d.decision.value)) = key
        ∧ candidate = (c.claimReference, d.createdAt) := by
  rw [assessmentIndex, List.mem_filterMap]
  refine exists_congr fun d => and_congr_right fun _ => ?_
  constructor
  · intro hrow
    cases hfound : s.claims.find? fun c => c.claimId = d.claimId with
    | none =>
        rw [hfound] at hrow
        cases hrow
    | some c =>
        obtain ⟨hc, hid⟩ := (Join.find?_key_iff hkeys).mp hfound
        rw [hfound] at hrow
        dsimp only at hrow
        split_ifs at hrow with hkey
        cases hrow
        exact ⟨c, hc, hid, hkey, rfl⟩
  · rintro ⟨c, hc, hid, hkey, rfl⟩
    rw [(Join.find?_key_iff hkeys).mpr ⟨hc, hid⟩]
    exact if_pos hkey

theorem mem_assessment_ofStore (hkeys : (s.claims.map (·.claimId)).Nodup) {applicationId : ℕ}
    {told status : String} {candidate : String × Datetime} :
    candidate ∈ Grouping.get (applicationId, .text told, normalizeKey (.text status))
        (buildAssessmentIndex (Tables.ofStore printed s).claims (Tables.ofStore printed s).decisions)
      ↔ candidate ∈ assessmentIndex s.claims s.claimDecisions
          (applicationId, .text told, normalizeDecisionStatus (.text status)) := by
  have hkeys' : ((Tables.ofStore printed s).claims.map (·.claimId)).Nodup := hkeys
  rw [mem_assessment hkeys', mem_assessmentIndex hkeys]
  simp only [Prod.mk.injEq, normalizeKey, normalizeDecisionStatus, Key.text.injEq, Json.text.injEq]
  constructor
  · rintro ⟨_, hd', c, hc, createdAt, hid, hcreated, ⟨happlication, htold, hstatus⟩, rfl⟩
    obtain ⟨d, hd, rfl⟩ := List.mem_map.mp hd'
    cases hcreated
    exact ⟨d, hd, c, hc, hid, ⟨happlication.symm, htold.symm, hstatus.symm⟩, rfl⟩
  · rintro ⟨d, hd, c, hc, hid, ⟨happlication, htold, hstatus⟩, rfl⟩
    exact ⟨.ofDecision d, List.mem_map_of_mem hd, c, hc, d.createdAt, hid, rfl,
      ⟨happlication.symm, htold.symm, hstatus.symm⟩, rfl⟩

/-- What is looked up for an event of the store is what its tables have. -/
theorem lookupCandidates_ofStore (hkeys : (s.claims.map (·.claimId)).Nodup) (htexts : LooksUpTexts event) :
    ∃ candidates, lookupCandidates (Tables.ofStore printed s) (.ofEvent printed event)
        (storedData printed event.eventData) = .ok candidates
      ∧ ∀ candidate, candidate ∈ candidates ↔ candidate ∈ (referenceCandidates s event).getD [] := by
  unfold lookupCandidates referenceCandidates
  rw [storedData_given, storedData_given]
  cases htype : EventData.get event.eventData "claim_type" with
  | none => exact ⟨[], rfl, fun _ => Iff.rfl⟩
  | some claimType =>
      obtain ⟨told, rfl⟩ := htexts.claimType claimType htype
      by_cases hsubmitted : event.eventReference = .claimSubmitted
      · have hkind : (EventRow.ofEvent printed event).eventReference = .claimSubmitted := hsubmitted
        simp only [Option.map_some, if_pos hkind, Option.bind_eq_bind, Option.bind_some, if_pos hsubmitted]
        exact ⟨_, rfl, fun candidate => mem_submitted_ofStore⟩
      · have hkind : (EventRow.ofEvent printed event).eventReference ≠ .claimSubmitted := hsubmitted
        simp only [Option.map_some, if_neg hkind, Option.bind_eq_bind, Option.bind_some, if_neg hsubmitted]
        cases hstatus : EventData.get event.eventData "claim_decision" with
        | none => exact ⟨[], rfl, fun _ => Iff.rfl⟩
        | some status =>
            obtain ⟨spelling, rfl⟩ := htexts.decision status hstatus
            exact ⟨_, rfl, fun candidate => mem_assessment_ofStore hkeys⟩

theorem updatedEvent_eq (clock : TotalSeconds) (hkind : event.eventReference ∈ backfilledEventReferences)
    (hlacks : ¬ (event.eventData = [] ∨ Json.truthy (event.data "claim_reference"))) :
    updatedEvent clock s event
      = (pickNearest clock ((referenceCandidates s event).getD []) event.timestamp).map
          fun claimReference => { event with
            eventData := EventData.put event.eventData "claim_reference" (.text claimReference) } := by
  unfold updatedEvent
  rw [if_neg (not_not_intro hkind), if_neg hlacks]
  cases referenceCandidates s event with
  | none => rfl
  | some candidates =>
      rw [Option.map_eq_bind]
      rfl

/-- Over the tables of a store, a run makes of each event what the store's own backfill does. -/
theorem settleEvent_ofStore (clock : TotalSeconds) (hprinted : ∀ x, printed x ≠ "")
    (hkeys : (s.claims.map (·.claimId)).Nodup)
    (htexts : LooksUpTexts event) :
    settleEvent clock (Tables.ofStore printed s) (.ofEvent printed event)
      = .ok (.ofEvent printed (backfilledEvent clock s event), (updatedEvent clock s event).isSome) := by
  have hreferenced := storedData_referenced hprinted event.eventData
  have hnothing : updatedEvent clock s event = none →
      (Except.ok (EventRow.ofEvent printed (backfilledEvent clock s event),
        (updatedEvent clock s event).isSome)
        : Except MigrationError _) = .ok (.ofEvent printed event, false) := by
    intro hnone
    rw [backfilledEvent, hnone]
    rfl
  by_cases hkind : event.eventReference ∈ backfilledEventReferences
  · by_cases hlacks : event.eventData = [] ∨ Json.truthy (event.data "claim_reference")
    · have hnone : updatedEvent clock s event = none := by
        unfold updatedEvent
        rw [if_neg (not_not_intro hkind), if_pos hlacks]
      rw [hnothing hnone]
      rcases hlacks with hempty | htruthy
      · refine settleEvent_dataless (.inr ?_)
        rw [EventRow.ofEvent, hempty]
        rfl
      · exact settleEvent_referenced ⟨_, rfl, hreferenced.trans htruthy⟩
    · have hne : storedData printed event.eventData ≠ [] := fun h =>
        hlacks (.inl (List.map_eq_nil_iff.mp h))
      have hunreferenced : ¬ referenced (storedData printed event.eventData) = true := fun h =>
        hlacks (.inr (hreferenced.symm.trans h))
      obtain ⟨candidates, hlookup, hmem⟩ := lookupCandidates_ofStore hkeys htexts
      have hrow : settleEvent clock (Tables.ofStore printed s) (.ofEvent printed event) = _ :=
        settleEvent_lookup hkind rfl hne hunreferenced
      have hpick : pickNearest clock candidates event.timestamp
          = pickNearest clock ((referenceCandidates s event).getD []) event.timestamp :=
        Nearest.pick_congr hmem
      have hupdated := updatedEvent_eq (s := s) clock hkind hlacks
      rw [← hpick] at hupdated
      rw [hrow, hlookup]
      change Except.ok (match pickNearest clock candidates event.timestamp with
        | none => (EventRow.ofEvent printed event, false)
        | some claimReference => ((EventRow.ofEvent printed event).withReference claimReference, true)) = _
      cases hfound : pickNearest clock candidates event.timestamp with
      | none =>
          rw [hfound] at hupdated
          rw [hnothing hupdated]
      | some claimReference =>
          rw [hfound] at hupdated
          rw [backfilledEvent, hupdated]
          simp only [Option.map_some, Option.getD_some, Option.isSome_some, EventRow.ofEvent,
            EventRow.withReference, storedData_put]
  · have hnone : updatedEvent clock s event = none := by
      unfold updatedEvent
      rw [if_pos hkind]
    rw [hnothing hnone]
    exact settleEvent_other hkind

/-- The store's own backfill is the run over its tables. -/
theorem backfill_ofStore (clock : TotalSeconds) (hprinted : ∀ x, printed x ≠ "")
    (hkeys : (s.claims.map (·.claimId)).Nodup)
    (htexts : ∀ event ∈ s.historyEvents, LooksUpTexts event) :
    backfill clock (Tables.ofStore printed s)
      = .ok ((backfillHistoryClaimReferences clock s).1,
          Tables.ofStore printed (backfillHistoryClaimReferences clock s).2) := by
  have hsettled : ∀ event ∈ s.historyEvents,
      settled clock (Tables.ofStore printed s) (.ofEvent printed event)
        = (.ofEvent printed (backfilledEvent clock s event), (updatedEvent clock s event).isSome) := by
    intro event hevent
    have hok := settleEvent_ofStore clock hprinted hkeys (htexts event hevent)
    exact (settleEvent_eq.mp hok).2.symm
  have hmapped : (Tables.ofStore printed s).events.map (settled clock (Tables.ofStore printed s))
      = s.historyEvents.map fun event =>
          (EventRow.ofEvent printed (backfilledEvent clock s event), (updatedEvent clock s event).isSome) := by
    change (s.historyEvents.map (EventRow.ofEvent printed)).map _ = _
    rw [List.map_map]
    exact List.map_congr_left hsettled
  refine backfill_ok.mpr ⟨?_, ?_, ?_⟩
  · intro row hrow
    obtain ⟨event, hevent, rfl⟩ := List.mem_map.mp hrow
    exact settleEvent_goes.mp ⟨_, settleEvent_ofStore clock hprinted hkeys (htexts event hevent)⟩
  · rw [hmapped, List.filter_map, List.length_map, ← List.countP_eq_length_filter]
    exact List.length_filterMap_eq_countP
  · refine congrArg (Tables.mk _ _) ?_
    have hfirst := congrArg (List.map Prod.fst) hmapped
    rw [List.map_map, List.map_map] at hfirst
    exact (List.map_map).trans hfirst.symm

end Store

/-- One run of the migration: which events change and how, in any order of the rows, and what a
second run does. -/
theorem backfill_settles (clock : TotalSeconds) (t : Tables) (hkeys : (t.claims.map (·.claimId)).Nodup) :
    ((∃ result, backfill clock t = .ok result) ↔ ∀ event ∈ t.events, event.Hashable)
      ∧ ∀ n t', backfill clock t = .ok (n, t') →
        ∃ settle : EventRow → EventRow, t' = { t with events := t.events.map settle }
          ∧ (∀ event ∈ t.events, Settled clock t event (settle event))
          ∧ (∀ u : Tables, t.claims.Perm u.claims → t.decisions.Perm u.decisions →
              t.events.Perm u.events →
                backfill clock u = .ok (n, { u with events := u.events.map settle }))
          ∧ ∃ m, backfill clock t' = .ok (m, t')
            ∧ ((∀ c ∈ t.claims, c.claimReference ≠ "") → m = 0) := by
  refine ⟨?_, ?_⟩
  · constructor
    · rintro ⟨⟨n, t'⟩, h⟩
      exact (backfill_ok.mp h).1
    · intro hall
      exact ⟨_, backfill_ok.mpr ⟨hall, rfl, rfl⟩⟩
  · intro n t' h
    obtain ⟨hall, hcount, rfl⟩ := backfill_ok.mp h
    refine ⟨fun event => (settled clock t event).1, rfl, ?_, ?_, backfill_again hkeys h⟩
    · intro event hevent
      exact (settled_outcome hkeys (hall event hevent)).settled
    · intro u hclaims hdecisions hevents
      have hsettled : settled clock t = settled clock u := by
        funext event
        rw [settled, settled, settleEvent_perm hkeys hclaims hdecisions]
      rw [hsettled] at hcount ⊢
      refine backfill_ok.mpr ⟨fun event hevent => hall event (hevents.mem_iff.mpr hevent), ?_, rfl⟩
      rw [hcount]
      exact ((hevents.map _).filter _).length_eq

namespace Sample

open InquestsApi.Sample

def nextDay : Env := { env with now := fun _ => ⟨date.next.getD date, 0⟩ }

/-- A second claim on the application, a day after the first and over its limit. -/
def laterClaim : CaseSubmission :=
  ⟨.claim (.create { poaCommand .expertCost none (some 9990) none with laaReference := "INQ-AAA-CCC" }),
    nextDay, noFaults⟩

def laterRejection : CaseSubmission :=
  ⟨.claim (.reject { rejectCommand secondReference with laaReference := "INQ-AAA-CCC" }), nextDay, noFaults⟩

/-- Two claims of one type at two times, the second of them rejected, recorded without their references. -/
def historicTables : Tables :=
  .ofStore (fun _ => "0.00") (laterRejection.after (laterClaim.after oneClaim)).withoutClaimReferences

def references (t : Tables) : List String :=
  t.events.filterMap fun event =>
    match (event.eventData.getD []).lookup "claim_reference" with
    | some (.string text) => some text
    | _ => none

end Sample

open InquestsApi.Sample in
/-- Each submission is told of the claim that is nearer to it, and the rejection of the one it is of. -/
theorem backfill_settles_twoClaims : ∃ t', backfill exactSeconds Sample.historicTables = .ok (3, t')
    ∧ Sample.references Sample.historicTables = [firstReference]
    ∧ Sample.references t' = [firstReference, firstReference, secondReference, secondReference]
    ∧ (∃ settle : EventRow → EventRow,
        t' = { Sample.historicTables with events := Sample.historicTables.events.map settle }
          ∧ ∀ event ∈ Sample.historicTables.events,
            Settled exactSeconds Sample.historicTables event (settle event))
    ∧ backfill exactSeconds t' = .ok (0, t') := by
  have hkeys : (Sample.historicTables.claims.map (·.claimId)).Nodup := by decide +kernel
  have hreferences : ∀ c ∈ Sample.historicTables.claims, c.claimReference ≠ "" := by decide +kernel
  have hfound : (backfill exactSeconds Sample.historicTables).toOption.map
      (fun result => (result.1, Sample.references result.2))
      = some (3, [firstReference, firstReference, secondReference, secondReference]) := by
    decide +kernel
  obtain ⟨-, hruns⟩ := backfill_settles exactSeconds Sample.historicTables hkeys
  cases h : backfill exactSeconds Sample.historicTables with
  | error e =>
      rw [h] at hfound
      cases hfound
  | ok result =>
      obtain ⟨n, t'⟩ := result
      rw [h] at hfound
      obtain ⟨rfl, hafter⟩ := Prod.mk.inj (Option.some.inj hfound)
      obtain ⟨settle, heq, hsettled, -, m, hagain, hzero⟩ := hruns _ t' h
      rw [hzero hreferences] at hagain
      exact ⟨t', rfl, by decide +kernel, hafter, ⟨settle, heq, hsettled⟩, hagain⟩

end Migration
end InquestsApi
