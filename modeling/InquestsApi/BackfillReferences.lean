import InquestsApi.Lib.Join
import InquestsApi.Lib.Nearest
import InquestsApi.ReadableHistory

/-! `idds_867_backfill_hist_ref`: the claim references that are put into event data written
before it had any, and what the readers make of it afterwards. -/
namespace InquestsApi

/-- The truth of a value that a lookup gives. A decimal is a text that is never empty. -/
def Json.truthy : Option Json → Bool
  | none => false
  | some .null => false
  | some (.text s) => s ≠ ""
  | some (.texts items) => items ≠ []
  | some (.amount _) => true
  | some (.fields entries) => entries ≠ []

/-- `data.get(key)`: a null is as good as a missing key. -/
def EventData.get (data : EventData) (key : String) : Option Json :=
  match data.lookup key with
  | some .null => none
  | value => value

/-- `{**data, key: value}`. -/
def EventData.put {ν : Type} (data : List (String × ν)) (key : String) (value : ν) :
    List (String × ν) :=
  if (data.lookup key).isSome then
    data.map fun entry => if entry.1 = key then (key, value) else entry
  else data ++ [(key, value)]

section EventData

variable {ν : Type} {data : List (String × ν)} {key other : String} {value : ν}

theorem EventData.get_eq_some {data : EventData} {value : Json} (h : data.lookup key = some value)
    (hgiven : value ≠ .null) : EventData.get data key = some value := by
  unfold EventData.get
  rw [h]
  cases value with
  | null => exact absurd rfl hgiven
  | _ => rfl

theorem lookup_cons_other {entry : String × ν} {rest : List (String × ν)} (h : entry.1 ≠ other) :
    List.lookup other (entry :: rest) = List.lookup other rest := by
  rw [List.lookup_cons, beq_false_of_ne h.symm]

theorem lookup_map_self :
    (data.map fun entry => if entry.1 = key then (key, value) else entry).lookup key
      = (data.lookup key).map fun _ => value := by
  induction data with
  | nil => rfl
  | cons entry rest ih =>
      rw [List.map_cons]
      by_cases hkey : entry.1 = key
      · rw [if_pos hkey, ← hkey, List.lookup_cons_self, List.lookup_cons_self, Option.map_some]
      · rw [if_neg hkey, lookup_cons_other hkey, lookup_cons_other hkey, ih]

theorem lookup_map_other (h : other ≠ key) :
    (data.map fun entry => if entry.1 = key then (key, value) else entry).lookup other
      = data.lookup other := by
  induction data with
  | nil => rfl
  | cons entry rest ih =>
      rw [List.map_cons]
      by_cases hkey : entry.1 = key
      · rw [if_pos hkey, lookup_cons_other h.symm, lookup_cons_other (hkey ▸ h.symm), ih]
      · rw [if_neg hkey, List.lookup_cons, List.lookup_cons, ih]

theorem EventData.put_lookup_self : (EventData.put data key value).lookup key = some value := by
  unfold EventData.put
  cases hold : data.lookup key with
  | none => simp [List.lookup_append, hold]
  | some old => simp [lookup_map_self, hold]

theorem EventData.put_lookup_other (h : other ≠ key) :
    (EventData.put data key value).lookup other = data.lookup other := by
  unfold EventData.put
  split_ifs
  · exact lookup_map_other h
  · rw [List.lookup_append, lookup_cons_other h.symm, List.lookup_nil, Option.or_none]

theorem EventData.mem_put {entry : String × ν} (h : entry ∈ EventData.put data key value)
    (hkey : entry.1 = key) : entry = (key, value) := by
  unfold EventData.put at h
  by_cases hgiven : (data.lookup key).isSome = true
  · rw [if_pos hgiven] at h
    obtain ⟨old, -, rfl⟩ := List.mem_map.mp h
    by_cases hold : old.1 = key
    · rw [if_pos hold]
    · rw [if_neg hold] at hkey
      exact absurd hkey hold
  · rw [if_neg hgiven, List.mem_append, List.mem_singleton] at h
    rcases h with h | h
    · have hnone := List.lookup_eq_none_iff.mp (Option.not_isSome_iff_eq_none.mp hgiven)
      exact absurd hkey.symm (bne_iff_ne.mp (hnone entry h))
    · exact h

/-- What is put twice is put once. -/
theorem EventData.put_put : EventData.put (EventData.put data key value) key value
    = EventData.put data key value := by
  have hgiven : ((EventData.put data key value).lookup key).isSome = true := by
    rw [EventData.put_lookup_self]
    rfl
  rw [EventData.put, if_pos hgiven]
  conv_rhs => rw [← List.map_id (EventData.put data key value)]
  apply List.map_congr_left
  intro entry hentry
  by_cases hkey : entry.1 = key
  · rw [if_pos hkey]
    exact (EventData.mem_put hentry hkey).symm
  · rw [if_neg hkey]
    rfl

theorem lookup_filter_self : (data.filter fun entry => entry.1 ≠ key).lookup key = none := by
  rw [List.lookup_eq_none_iff]
  intro entry hentry
  have hkey := (List.mem_filter.mp hentry).2
  rw [decide_eq_true_eq] at hkey
  exact bne_iff_ne.mpr hkey.symm

theorem lookup_filter_other (h : other ≠ key) :
    (data.filter fun entry => entry.1 ≠ key).lookup other = data.lookup other := by
  induction data with
  | nil => rfl
  | cons entry rest ih =>
      by_cases hkey : entry.1 = key
      · rw [List.filter_cons_of_neg (by simpa using hkey), lookup_cons_other (hkey ▸ h.symm), ih]
      · rw [List.filter_cons_of_pos (by simpa using hkey), List.lookup_cons, List.lookup_cons, ih]

end EventData

section Backfill

def decisionStatusAliases : List (String × String) := [("REJECTED", "REJECT")]

def normalizeDecisionStatus : Json → Json
  | .text value => .text ((decisionStatusAliases.lookup value).getD value)
  | value => value

def timeBetween (timestamp eventTime : Datetime) : ℕ := (timestamp.instant - eventTime.instant).natAbs

/-- `timedelta.total_seconds` as a function of the microseconds: a float, of which only the order
is relied on. -/
structure TotalSeconds where
  ofMicroseconds : ℕ → ℚ
  mono : Monotone ofMicroseconds

/-- Seconds without rounding. -/
def exactSeconds : TotalSeconds where
  ofMicroseconds := fun n => n / 1000000
  mono := fun m n h => by
    have hcast : (m : ℚ) ≤ n := by exact_mod_cast h
    linarith

def distance (clock : TotalSeconds) (eventTime : Datetime) (candidate : String × Datetime) : ℚ :=
  clock.ofMicroseconds (timeBetween candidate.2 eventTime)

def pickNearest (clock : TotalSeconds) (candidates : List (String × Datetime)) (eventTime : Datetime) :
    Option String :=
  Nearest.pick (distance clock eventTime) (·.1) candidates

def submittedIndex (claims : List Claim) (key : ℕ × Json) : List (String × Datetime) :=
  (claims.filter fun c => (c.applicationId, .text c.claimTypeId.value) = key).map fun c =>
    (c.claimReference, c.submissionDate)

def assessmentIndex (claims : List Claim) (decisions : List ClaimDecision) (key : ℕ × Json × Json) :
    List (String × Datetime) :=
  decisions.filterMap fun d =>
    match claims.find? fun c => c.claimId = d.claimId with
    | none => none
    | some c =>
      if (c.applicationId, .text c.claimTypeId.value,
          normalizeDecisionStatus (.text d.decision.value)) = key then
        some (c.claimReference, d.createdAt)
      else none

def backfilledEventReferences : List HistoryEventReference :=
  [.claimSubmitted, .claimAssessmentCompleted]

variable (clock : TotalSeconds) (s : Store) (event : HistoryEvent)

/-- What an event can be about, if its data says enough. -/
def referenceCandidates : Option (List (String × Datetime)) := do
  let claimType ← EventData.get event.eventData "claim_type"
  if event.eventReference = .claimSubmitted then
    pure (submittedIndex s.claims (event.applicationId, claimType))
  else
    let decisionStatus ← EventData.get event.eventData "claim_decision"
    pure (assessmentIndex s.claims s.claimDecisions
      (event.applicationId, claimType, normalizeDecisionStatus decisionStatus))

/-- The event with its claim reference, where it has none and one is found. -/
def updatedEvent : Option HistoryEvent := do
  if event.eventReference ∉ backfilledEventReferences then none
  else if event.eventData = [] ∨ Json.truthy (event.data "claim_reference") then none
  else
    let candidates ← referenceCandidates s event
    let claimReference ← pickNearest clock candidates event.timestamp
    pure { event with
      eventData := EventData.put event.eventData "claim_reference" (.text claimReference) }

def backfilledEvent : HistoryEvent := (updatedEvent clock s event).getD event

/-- How many events are updated, and the store with them. -/
def backfillHistoryClaimReferences : ℕ × Store :=
  ((s.historyEvents.filterMap (updatedEvent clock s)).length,
    { s with historyEvents := s.historyEvents.map (backfilledEvent clock s) })

end Backfill

section Historic

/-- Event data as it was before it told the claim's reference. -/
def HistoryEvent.withoutClaimReference (event : HistoryEvent) : HistoryEvent :=
  if event.eventReference ∈ backfilledEventReferences then
    { event with eventData := event.eventData.filter fun entry => entry.1 ≠ "claim_reference" }
  else event

def Store.withoutClaimReferences (s : Store) : Store :=
  { s with historyEvents := s.historyEvents.map (·.withoutClaimReference) }

/-- A claim that the event can be about, at the time it was submitted or decided. -/
inductive EventCandidate (s : Store) (event : HistoryEvent) : String × Datetime → Prop where
  | submitted {c : Claim} (kind : event.eventReference = .claimSubmitted) (stored : c ∈ s.claims)
      (application : c.applicationId = event.applicationId) (told : TellsType event.eventData c) :
      EventCandidate s event (c.claimReference, c.submissionDate)
  | assessed {c : Claim} {d : ClaimDecision} (kind : event.eventReference = .claimAssessmentCompleted)
      (stored : c ∈ s.claims) (application : c.applicationId = event.applicationId)
      (told : TellsType event.eventData c) (decided : d ∈ s.claimDecisions)
      (claim : d.claimId = c.claimId) (decision : TellsDecision event.eventData d) :
      EventCandidate s event (c.claimReference, d.createdAt)

/-- The candidates nearest in time to the event are of one claim reference. -/
def NearestAgree (clock : TotalSeconds) (s : Store) (event : HistoryEvent) : Prop :=
  Nearest.Agree (distance clock event.timestamp) (·.1) (EventCandidate s event)

/-- An assessment that is described without the claim's reference. -/
def ShowsRejection (event : HistoryEvent) : Prop :=
  event.eventReference = .claimAssessmentCompleted
    ∧ event.data "claim_decision" = some (.text "REJECTED")
    ∧ (shownJustification event.eventData).isSome

/-- What the readers make of a history that was backfilled. -/
structure ReadableAfterBackfill (clock : TotalSeconds) (printing : Printing) (old : Store) : Prop where
  untouched : ∀ event ∈ old.historyEvents, event.eventReference ∈ backfilledEventReferences →
    ¬ NearestAgree clock old event → backfilledEvent clock old event = event
  described : ∀ event ∈ old.historyEvents, event.eventReference ∈ backfilledEventReferences →
    ((∃ description, describeEvent printing event.eventReference.value
        (backfilledEvent clock old event).eventData = .ok description) ↔
      NearestAgree clock old event ∨ ShowsRejection event)
  rows : ∀ decidedFrom decidedBefore, ∀ event ∈ old.historyEvents,
    event.eventReference = .claimAssessmentCompleted →
      event.timestamp.within decidedFrom decidedBefore = true →
        ∃ record ∈ getDecisionsReportRecords decidedFrom decidedBefore
            (backfillHistoryClaimReferences clock old).2,
          record.eventReference = event.eventReference
            ∧ record.eventData = (backfilledEvent clock old event).eventData
            ∧ ((∃ row, buildDecisionsReportRow printing record = .ok row) ↔ NearestAgree clock old event)
  report : ∀ decidedFrom decidedBefore,
    (∃ rows, (getDecisionsReportRecords decidedFrom decidedBefore
        (backfillHistoryClaimReferences clock old).2).mapM (buildDecisionsReportRow printing) = .ok rows) ↔
      ∀ event ∈ old.historyEvents, event.eventReference = .claimAssessmentCompleted →
        event.timestamp.within decidedFrom decidedBefore = true → NearestAgree clock old event

end Historic

section Candidates

variable {clock : TotalSeconds} {s : Store} {event : HistoryEvent}

/-- Event data of an old history: it tells a claim that the store has, without its reference. -/
structure OldEvent (s : Store) (event : HistoryEvent) : Prop where
  application : event.applicationId ∈ applicationIds s
  unreferenced : event.data "claim_reference" = none
  about : ∃ candidate, EventCandidate s event candidate

theorem normalizeDecisionStatus_eq {decision : ClaimDecisionStatus} {verdict : Verdict} :
    normalizeDecisionStatus (.text decision.value) = normalizeDecisionStatus (.text verdict.status.value)
      ↔ decision = verdict.decision := by
  cases verdict <;> cases decision <;>
    simp [normalizeDecisionStatus, decisionStatusAliases, ClaimDecisionStatus.value, Verdict.status,
      Verdict.decision, ClaimStatus.value, List.lookup_cons]

theorem tellsDecision_iff {data : EventData} {verdict : Verdict} {d : ClaimDecision}
    (htold : data.lookup "claim_decision" = some (.text verdict.status.value)) :
    TellsDecision data d ↔ d.decision = verdict.decision := by
  constructor
  · rintro ⟨told, hdecision, hlookup⟩
    have hstatus : Json.text told.status.value = .text verdict.status.value :=
      Option.some.inj (hlookup.symm.trans htold)
    rw [← normalizeDecisionStatus_eq, ← hstatus, normalizeDecisionStatus_eq]
    exact hdecision
  · intro hdecision
    exact ⟨verdict, hdecision, htold⟩

theorem tellsType_iff {data : EventData} {c c' : Claim} (htold : TellsType data c) :
    TellsType data c' ↔ c'.claimTypeId = c.claimTypeId := by
  unfold TellsType at htold ⊢
  rw [htold, Option.some.injEq, Json.text.injEq, ClaimType.value_injective.eq_iff, eq_comm]

theorem find?_claimId (hkeys : (s.claims.map (·.claimId)).Nodup) {c : Claim} {claimId : ℕ} :
    (s.claims.find? fun c => c.claimId = claimId) = some c ↔ c ∈ s.claims ∧ c.claimId = claimId :=
  Join.find?_key_iff hkeys

/-- The candidates that are looked up are the claims that the event can be about. -/
theorem referenceCandidates_mem (hkeys : (s.claims.map (·.claimId)).Nodup)
    (habout : ∃ candidate, EventCandidate s event candidate) :
    ∃ candidates, referenceCandidates s event = some candidates
      ∧ ∀ candidate, candidate ∈ candidates ↔ EventCandidate s event candidate := by
  obtain ⟨_, hcandidate⟩ := habout
  cases hcandidate with
  | @submitted c hkind hc happlication htold =>
      have htype := EventData.get_eq_some htold (fun h => by cases h)
      refine ⟨submittedIndex s.claims (event.applicationId, .text c.claimTypeId.value), ?_, ?_⟩
      · simp [referenceCandidates, htype, hkind]
      · intro candidate
        simp only [submittedIndex, List.mem_map, List.mem_filter, decide_eq_true_eq, Prod.mk.injEq,
          Json.text.injEq, ClaimType.value_injective.eq_iff, ← tellsType_iff htold]
        constructor
        · rintro ⟨c', ⟨hc', happlication', htold'⟩, rfl⟩
          exact .submitted hkind hc' happlication' htold'
        · intro hcandidate
          cases hcandidate with
          | submitted _ hc' happlication' htold' => exact ⟨_, ⟨hc', happlication', htold'⟩, rfl⟩
          | assessed hkind' => rw [hkind] at hkind'; cases hkind'
  | @assessed c d hkind hc happlication htold hd hclaim hdecision =>
      obtain ⟨verdict, hverdict, hlookup⟩ := hdecision
      have htype := EventData.get_eq_some htold (fun h => by cases h)
      have hstatus := EventData.get_eq_some hlookup (fun h => by cases h)
      refine ⟨assessmentIndex s.claims s.claimDecisions (event.applicationId,
        .text c.claimTypeId.value, normalizeDecisionStatus (.text verdict.status.value)), ?_, ?_⟩
      · simp [referenceCandidates, htype, hstatus, hkind]
      · intro candidate
        rw [assessmentIndex, List.mem_filterMap]
        constructor
        · rintro ⟨d', hd', hrow⟩
          split at hrow
          · cases hrow
          · rename_i c' hfound
            obtain ⟨hc', hid⟩ := (find?_claimId hkeys).mp hfound
            split_ifs at hrow with hkey
            cases hrow
            simp only [Prod.mk.injEq, Json.text.injEq, ClaimType.value_injective.eq_iff] at hkey
            obtain ⟨happlication', htype', hdecision'⟩ := hkey
            exact .assessed hkind hc' happlication' ((tellsType_iff htold).mpr htype') hd' hid.symm
              ((tellsDecision_iff hlookup).mpr (normalizeDecisionStatus_eq.mp hdecision'))
        · intro hcandidate
          cases hcandidate with
          | submitted hkind' => rw [hkind] at hkind'; cases hkind'
          | @assessed c' d' _ hc' happlication' htold' hd' hclaim' hdecision' =>
              refine ⟨d', hd', ?_⟩
              have hfound := (find?_claimId hkeys).mpr ⟨hc', hclaim'.symm⟩
              have hsame := normalizeDecisionStatus_eq.mpr ((tellsDecision_iff hlookup).mp hdecision')
              simp [hfound, happlication', (tellsType_iff htold).mp htold', hsame]

theorem EventCandidate.kind {candidate : String × Datetime} (h : EventCandidate s event candidate) :
    event.eventReference ∈ backfilledEventReferences := by
  cases h with
  | submitted hkind => exact hkind ▸ List.mem_cons_self
  | assessed hkind => exact hkind ▸ List.mem_cons_of_mem _ List.mem_cons_self

theorem EventCandidate.data_ne {candidate : String × Datetime}
    (h : EventCandidate s event candidate) : event.eventData ≠ [] := by
  intro hempty
  cases h with
  | submitted _ _ _ htold =>
      rw [TellsType, hempty] at htold
      cases htold
  | assessed _ _ _ htold =>
      rw [TellsType, hempty] at htold
      cases htold

/-- An old event is updated with what the nearest of its candidates agree on. -/
theorem OldEvent.updatedEvent (hkeys : (s.claims.map (·.claimId)).Nodup) (h : OldEvent s event) :
    ∃ candidates, (∀ candidate, candidate ∈ candidates ↔ EventCandidate s event candidate)
      ∧ updatedEvent clock s event = (pickNearest clock candidates event.timestamp).map fun claimReference =>
        { event with
          eventData := EventData.put event.eventData "claim_reference" (.text claimReference) } := by
  obtain ⟨candidates, hcandidates, hmem⟩ := referenceCandidates_mem hkeys h.about
  obtain ⟨candidate, hcandidate⟩ := h.about
  have hlacks : ¬ (event.eventData = [] ∨ Json.truthy (event.data "claim_reference")) := by
    rw [h.unreferenced]
    simp [hcandidate.data_ne, Json.truthy]
  refine ⟨candidates, hmem, ?_⟩
  rw [InquestsApi.updatedEvent, if_neg (not_not_intro hcandidate.kind), if_neg hlacks, hcandidates]
  rw [Option.map_eq_bind]
  rfl

theorem OldEvent.backfilled (hkeys : (s.claims.map (·.claimId)).Nodup) (h : OldEvent s event)
    (hagree : NearestAgree clock s event) :
    ∃ candidate, EventCandidate s event candidate ∧ backfilledEvent clock s event = { event with
      eventData := EventData.put event.eventData "claim_reference" (.text candidate.1) } := by
  obtain ⟨candidates, hmem, hupdated⟩ := h.updatedEvent hkeys
  have hpicked := (Nearest.pick_isSome hmem h.about).mpr hagree
  obtain ⟨claimReference, hpick⟩ := Option.isSome_iff_exists.mp hpicked
  obtain ⟨⟨candidate, hnearest⟩, hall⟩ := (Nearest.pick_eq_some hmem).mp hpick
  refine ⟨candidate, hnearest.among, ?_⟩
  have hpick' : pickNearest clock candidates event.timestamp = some candidate.1 := by
    rw [hall candidate hnearest]
    exact hpick
  rw [backfilledEvent, hupdated, hpick']
  rfl

theorem OldEvent.untouched (hkeys : (s.claims.map (·.claimId)).Nodup) (h : OldEvent s event)
    (hagree : ¬ NearestAgree clock s event) : backfilledEvent clock s event = event := by
  obtain ⟨candidates, hmem, hupdated⟩ := h.updatedEvent hkeys
  have hunpicked : pickNearest clock candidates event.timestamp = none := by
    rw [← Option.not_isSome_iff_eq_none]
    intro hpicked
    exact hagree ((Nearest.pick_isSome hmem h.about).mp hpicked)
  rw [backfilledEvent, hupdated, hunpicked]
  rfl

theorem updatedEvent_kept {updated : HistoryEvent} (h : updatedEvent clock s event = some updated) :
    ∃ data, updated = { event with eventData := data } := by
  unfold InquestsApi.updatedEvent at h
  split_ifs at h
  simp only [Option.bind_eq_bind, Option.bind_eq_some_iff, Option.pure_def, Option.some.injEq] at h
  obtain ⟨_, -, _, -, rfl⟩ := h
  exact ⟨_, rfl⟩

theorem backfilledEvent_kept (clock : TotalSeconds) (s : Store) (event : HistoryEvent) :
    ∃ data, backfilledEvent clock s event = { event with eventData := data } := by
  unfold backfilledEvent
  cases hupdated : InquestsApi.updatedEvent clock s event with
  | none => exact ⟨event.eventData, rfl⟩
  | some updated => exact updatedEvent_kept hupdated

theorem backfilledEvent_other (hkind : event.eventReference ∉ backfilledEventReferences) :
    backfilledEvent clock s event = event := by
  rw [backfilledEvent, InquestsApi.updatedEvent, if_pos hkind]
  rfl

/-- With the reference of a candidate, an event is as well recorded as one that was written with it. -/
theorem EventCandidate.wellRecorded {candidate : String × Datetime}
    (h : EventCandidate s event candidate) (happlication : event.applicationId ∈ applicationIds s) :
    WellRecorded s { event with
      eventData := EventData.put event.eventData "claim_reference" (.text candidate.1) } := by
  refine ⟨happlication, ?_⟩
  have hother : "claim_type" ≠ "claim_reference" := by decide
  have hdecided : "claim_decision" ≠ "claim_reference" := by decide
  cases h with
  | @submitted c hkind hc hid htold =>
      rw [hkind]
      exact ⟨c, hc, ⟨hid, EventData.put_lookup_self⟩, (EventData.put_lookup_other hother).trans htold⟩
  | @assessed c d hkind hc hid htold hd hclaim hdecision =>
      rw [hkind]
      obtain ⟨verdict, hverdict, hlookup⟩ := hdecision
      refine ⟨c, hc, ⟨hid, EventData.put_lookup_self⟩, (EventData.put_lookup_other hother).trans htold,
        d, hd, hclaim, verdict, hverdict, (EventData.put_lookup_other hdecided).trans hlookup⟩

end Candidates

section Readers

variable {clock : TotalSeconds} {printing : Printing} {s : Store} {event : HistoryEvent}

/-- What is known of a history that was written before event data told a reference. -/
structure OldHistory (s : Store) : Prop where
  keys : (s.claims.map (·.claimId)).Nodup
  references : ∀ c ∈ s.claims, c.claimReference ≠ ""
  old : ∀ event ∈ s.historyEvents, event.eventReference ∈ backfilledEventReferences → OldEvent s event
  recorded : ∀ event ∈ s.historyEvents, event.eventReference ∉ backfilledEventReferences →
    WellRecorded s event

theorem OldHistory.wellRecorded (hs : OldHistory s) (hevent : event ∈ s.historyEvents)
    (hagree : event.eventReference ∈ backfilledEventReferences → NearestAgree clock s event) :
    WellRecorded (backfillHistoryClaimReferences clock s).2 (backfilledEvent clock s event) := by
  by_cases hkind : event.eventReference ∈ backfilledEventReferences
  · have hold := hs.old event hevent hkind
    obtain ⟨candidate, hcandidate, hbackfilled⟩ := hold.backfilled hs.keys (hagree hkind)
    rw [hbackfilled]
    obtain ⟨happlication, hdata⟩ := hcandidate.wellRecorded hold.application
    exact ⟨happlication, hdata.mono (.of_same rfl rfl)⟩
  · rw [backfilledEvent_other hkind]
    obtain ⟨happlication, hdata⟩ := hs.recorded event hevent hkind
    exact ⟨happlication, hdata.mono (.of_same rfl rfl)⟩

/-- Without a reference, only a rejection that tells why is described. -/
theorem OldEvent.described_iff (h : OldEvent s event) :
    (∃ description, describeEvent printing event.eventReference.value event.eventData
        = .ok description) ↔ ShowsRejection event := by
  have hunreferenced : event.eventData.lookup "claim_reference" = none := h.unreferenced
  rw [describeEvent_goes]
  obtain ⟨_, hcandidate⟩ := h.about
  cases hcandidate with
  | submitted hkind =>
      simp [-List.lookup_isSome_iff, -List.lookup_eq_none_iff, hkind, describedKeys, hunreferenced,
        ShowsRejection]
  | @assessed c d hkind hc hid htold hd hclaim hdecision =>
      have htype := htold.isSome
      obtain ⟨verdict, -, hlookup⟩ := hdecision
      have hpaid : asciiLower (formatEnum "PAY_IN_FULL") ≠ "rejected" := by decide
      have hrejected : asciiLower (formatEnum "REJECTED") = "rejected" := by decide
      cases verdict with
      | reject reasons =>
          have htold' : event.eventData.lookup "claim_decision" = some (.text "REJECTED") := hlookup
          by_cases hshown : (shownJustification event.eventData).isSome
          · simp [-List.lookup_isSome_iff, hkind, describedKeys, ShowsRejection, htold',
              printing.str_text, hrejected, hshown, htype, HistoryEvent.data]
          · simp [-List.lookup_isSome_iff, hkind, describedKeys, hunreferenced, ShowsRejection, htold',
              hshown]
      | payInFull lines =>
          have htold' : event.eventData.lookup "claim_decision" = some (.text "PAY_IN_FULL") := hlookup
          simp [-List.lookup_isSome_iff, hkind, describedKeys, hunreferenced, ShowsRejection, htold',
            printing.str_text, hpaid, HistoryEvent.data]

/-- Without a reference, a decision of a claim has no row. -/
theorem unreferenced_row {record : DecisionsReportSourceRecord}
    (hkind : record.eventReference = .claimAssessmentCompleted)
    (hunreferenced : record.eventData.lookup "claim_reference" = none) :
    ¬ ∃ row, buildDecisionsReportRow printing record = .ok row := by
  rw [buildDecisionsReportRow_assessment_goes hkind, hunreferenced]
  rintro ⟨-, hnamed, -⟩
  exact hnamed rfl

theorem assessment_mem : HistoryEventReference.claimAssessmentCompleted ∈ backfilledEventReferences :=
  List.mem_cons_of_mem _ List.mem_cons_self

theorem mem_backfilled_decisionEvents (clock : TotalSeconds)
    {decidedFrom decidedBefore : Datetime} {application : Application}
    (hevent : event ∈ s.historyEvents) (happlication : application ∈ s.applications)
    (hid : application.applicationId = event.applicationId)
    (hdecision : event.eventReference ∈ decisionEventReferences)
    (hwithin : event.timestamp.within decidedFrom decidedBefore = true) :
    (backfilledEvent clock s event, application)
      ∈ decisionEvents decidedFrom decidedBefore (backfillHistoryClaimReferences clock s).2 := by
  obtain ⟨data, hkept⟩ := backfilledEvent_kept clock s event
  have hmem : backfilledEvent clock s event ∈ (backfillHistoryClaimReferences clock s).2.historyEvents :=
    List.mem_map_of_mem hevent
  rw [hkept] at hmem ⊢
  exact mem_decisionEvents.mpr ⟨hmem, happlication, hid, hdecision, hwithin⟩

theorem of_mem_backfilled_decisionEvents {decidedFrom decidedBefore : Datetime}
    {backfilled : HistoryEvent} {application : Application}
    (h : (backfilled, application)
      ∈ decisionEvents decidedFrom decidedBefore (backfillHistoryClaimReferences clock s).2) :
    ∃ event ∈ s.historyEvents, backfilled = backfilledEvent clock s event
      ∧ event.eventReference ∈ decisionEventReferences
      ∧ event.timestamp.within decidedFrom decidedBefore = true := by
  obtain ⟨hmem, -, -, hdecision, hwithin⟩ := mem_decisionEvents.mp h
  obtain ⟨event, hevent, rfl⟩ := List.mem_map.mp hmem
  obtain ⟨data, hkept⟩ := backfilledEvent_kept clock s event
  refine ⟨event, hevent, rfl, ?_, ?_⟩
  · rw [hkept] at hdecision
    exact hdecision
  · rw [hkept] at hwithin
    exact hwithin

/-- A decision of the report has its row where its nearest candidates agree. -/
theorem OldHistory.row (hs : OldHistory s) {decidedFrom decidedBefore : Datetime}
    {application : Application} (hevent : event ∈ s.historyEvents)
    (hagree : event.eventReference ∈ backfilledEventReferences → NearestAgree clock s event)
    (hrow : (backfilledEvent clock s event, application)
      ∈ decisionEvents decidedFrom decidedBefore (backfillHistoryClaimReferences clock s).2) :
    ∃ row, buildDecisionsReportRow printing (sourceRecord (getClaimSubmissionDates
      ((decisionEvents decidedFrom decidedBefore (backfillHistoryClaimReferences clock s).2).filterMap
        fun row => claimReferenceOf row.1) (backfillHistoryClaimReferences clock s).2)
      (backfilledEvent clock s event) application) = .ok row := by
  obtain ⟨-, -, -, hdecision, -⟩ := mem_decisionEvents.mp hrow
  have hreferences : ∀ c ∈ (backfillHistoryClaimReferences clock s).2.claims, c.claimReference ≠ "" :=
    hs.references
  refine WellRecorded.row hreferences (hs.wellRecorded hevent hagree) hdecision ?_ application
  intro claimReference hnamed
  exact List.mem_filterMap.mpr ⟨_, hrow, hnamed⟩

theorem OldHistory.rows (clock : TotalSeconds) (printing : Printing) (hs : OldHistory s)
    (decidedFrom decidedBefore : Datetime)
    (hevent : event ∈ s.historyEvents) (hkind : event.eventReference = .claimAssessmentCompleted)
    (hwithin : event.timestamp.within decidedFrom decidedBefore = true) :
    ∃ record ∈ getDecisionsReportRecords decidedFrom decidedBefore
        (backfillHistoryClaimReferences clock s).2,
      record.eventReference = event.eventReference
        ∧ record.eventData = (backfilledEvent clock s event).eventData
        ∧ ((∃ row, buildDecisionsReportRow printing record = .ok row) ↔ NearestAgree clock s event) := by
  have hold := hs.old event hevent (hkind ▸ assessment_mem)
  obtain ⟨a, ha, hid⟩ := List.mem_map.mp hold.application
  have hdecision : event.eventReference ∈ decisionEventReferences := by
    rw [hkind]
    decide
  have hrow := mem_backfilled_decisionEvents clock hevent ha hid hdecision hwithin
  obtain ⟨data, hkept⟩ := backfilledEvent_kept clock s event
  refine ⟨_, List.mem_map_of_mem hrow, ?_, rfl, ?_⟩
  · simp only [sourceRecord, hkept]
  · constructor
    · intro hgoes
      by_contra hagree
      refine unreferenced_row ?_ ?_ hgoes
      · simp only [sourceRecord, hkept, hkind]
      · simp only [sourceRecord, hold.untouched hs.keys hagree]
        exact hold.unreferenced
    · intro hagree
      exact hs.row hevent (fun _ => hagree) hrow

theorem OldHistory.readable (clock : TotalSeconds) (printing : Printing) (hs : OldHistory s) :
    ReadableAfterBackfill clock printing s where
  untouched := fun event hevent hkind hagree => (hs.old event hevent hkind).untouched hs.keys hagree
  described := by
    intro event hevent hkind
    have hold := hs.old event hevent hkind
    by_cases hagree : NearestAgree clock s event
    · obtain ⟨data, hkept⟩ := backfilledEvent_kept clock s event
      have hrecorded := hs.wellRecorded hevent fun _ => hagree
      rw [hkept] at hrecorded ⊢
      exact iff_of_true (describeEvent_goes.mpr hrecorded.data.described) (.inl hagree)
    · rw [hold.untouched hs.keys hagree, hold.described_iff, or_iff_right hagree]
  rows := fun decidedFrom decidedBefore event hevent hkind hwithin =>
    hs.rows clock printing decidedFrom decidedBefore hevent hkind hwithin
  report := by
    intro decidedFrom decidedBefore
    rw [Checked.mapM_goes]
    constructor
    · intro hall event hevent hkind hwithin
      obtain ⟨record, hrecord, -, -, hgoes⟩ :=
        hs.rows clock printing decidedFrom decidedBefore hevent hkind hwithin
      exact hgoes.mp (hall record hrecord)
    · intro hagree record hrecord
      obtain ⟨⟨backfilled, application⟩, hrow, rfl⟩ := List.mem_map.mp hrecord
      obtain ⟨event, hevent, rfl, hdecision, hwithin⟩ := of_mem_backfilled_decisionEvents hrow
      refine hs.row hevent ?_ hrow
      intro hkind
      -- a submission is no decision, so of the events that are backfilled it is an assessment
      simp only [backfilledEventReferences, List.mem_cons, List.not_mem_nil, or_false] at hkind
      rcases hkind with hkind | hkind
      · rw [hkind] at hdecision
        exact absurd hdecision (by decide)
      · exact hagree event hevent hkind hwithin

/-- What is recorded of an event stays known when its reference is dropped. -/
theorem WellRecorded.old (h : WellRecorded s event)
    (hkind : event.eventReference ∈ backfilledEventReferences) :
    OldEvent s.withoutClaimReferences event.withoutClaimReference := by
  have hother : "claim_type" ≠ "claim_reference" := by decide
  have hdecided : "claim_decision" ≠ "claim_reference" := by decide
  have hdata := h.data
  rw [HistoryEvent.withoutClaimReference, if_pos hkind]
  refine ⟨h.application, lookup_filter_self, ?_⟩
  simp only [backfilledEventReferences, List.mem_cons, List.not_mem_nil, or_false] at hkind
  rcases hkind with hkind | hkind
  · rw [hkind] at hdata
    obtain ⟨c, hc, hnamed, htype⟩ := hdata
    exact ⟨_, .submitted hkind hc hnamed.application ((lookup_filter_other hother).trans htype)⟩
  · rw [hkind] at hdata
    obtain ⟨c, hc, hnamed, htype, d, hd, hclaim, verdict, hverdict, hlookup⟩ := hdata
    exact ⟨_, .assessed hkind hc hnamed.application ((lookup_filter_other hother).trans htype) hd
      hclaim ⟨verdict, hverdict, (lookup_filter_other hdecided).trans hlookup⟩⟩

theorem withoutClaimReference_eventReference :
    event.withoutClaimReference.eventReference = event.eventReference := by
  unfold HistoryEvent.withoutClaimReference
  split_ifs <;> rfl

theorem WellRecordedHistory.old (hs : WellRecordedHistory s) : OldHistory s.withoutClaimReferences where
  keys := hs.keys
  references := hs.references
  old := by
    intro old hold hkind
    obtain ⟨event, hevent, rfl⟩ := List.mem_map.mp hold
    rw [withoutClaimReference_eventReference] at hkind
    exact (hs.events event hevent).old hkind
  recorded := by
    intro old hold hkind
    obtain ⟨event, hevent, rfl⟩ := List.mem_map.mp hold
    rw [withoutClaimReference_eventReference] at hkind
    rw [HistoryEvent.withoutClaimReference, if_neg hkind]
    obtain ⟨happlication, hdata⟩ := hs.events event hevent
    exact ⟨happlication, hdata.mono (.of_same rfl rfl)⟩

end Readers

/-- After the backfill, old events can be read but for those whose nearest candidates differ. -/
theorem backfill_readable {evidence : List ClaimEvidence} {s : Store} (clock : TotalSeconds)
    (printing : Printing) (h : CaseCommitted (fun _ _ => True) (.initial [] evidence []) s) :
    ReadableAfterBackfill clock printing s.withoutClaimReferences :=
  h.wellRecorded.old.readable clock printing

namespace Sample

def expertClaim : CaseSubmission :=
  submit (.claim (.create { poaCommand .expertCost none (some 120) (some 20) with
    laaReference := "INQ-AAA-CCC" }))

def oneClaim : Store := expertClaim.after (grant.after createdStore)

/-- Two claims of one type, submitted at one instant. -/
def twoClaimsAtOnce : Store := expertClaim.after oneClaim

theorem oneClaim_run : CaseRun (fun _ _ => True) (.initial [] [] []) oneClaim :=
  .request expertClaim (.request grant (.request creation .start trivial) trivial) trivial

end Sample

theorem backfill_readable_oneClaim :
    ReadableAfterBackfill exactSeconds Sample.printing Sample.oneClaim.withoutClaimReferences :=
  backfill_readable exactSeconds Sample.printing ⟨_, Sample.oneClaim_run, .inl rfl⟩

/-- Of two claims submitted at once, neither submission can be described. -/
theorem twoClaimsAtOnce_undescribed :
    ¬ ∀ s, CaseCommitted (fun _ _ => True) (.initial [] [] []) s →
      ∀ event ∈ s.withoutClaimReferences.historyEvents,
        event.eventReference ∈ backfilledEventReferences →
          ∃ description, describeEvent Sample.printing event.eventReference.value
            (backfilledEvent exactSeconds s.withoutClaimReferences event).eventData = .ok description := by
  intro h
  have hcommitted : CaseCommitted (fun _ _ => True) (.initial [] [] []) Sample.twoClaimsAtOnce :=
    ⟨_, .request Sample.expertClaim Sample.oneClaim_run trivial, .inl rfl⟩
  have hfails : Sample.twoClaimsAtOnce.withoutClaimReferences.historyEvents.any (fun event =>
      decide (event.eventReference ∈ backfilledEventReferences)
        && !(describeEvent Sample.printing event.eventReference.value (backfilledEvent exactSeconds
          Sample.twoClaimsAtOnce.withoutClaimReferences event).eventData).toBool) = true := by
    decide +kernel
  obtain ⟨event, hevent, hfailed⟩ := List.any_eq_true.mp hfails
  rw [Bool.and_eq_true, decide_eq_true_eq] at hfailed
  obtain ⟨description, hdescribed⟩ := h _ hcommitted event hevent hfailed.1
  rw [hdescribed] at hfailed
  cases hfailed.2

end InquestsApi
