import InquestsApi.AutoApproval
import InquestsApi.ClaimLifecycle
import InquestsApi.DecisionRecord
import InquestsApi.DecisionsReport
import InquestsApi.HistoryRecords
import InquestsApi.InvoiceNumbers

/-! Writers and readers of event data: whatever a run writes into the history can be described
and, where it is a decision, shown in the decisions report. -/
namespace InquestsApi

open UnitOfWork HistoryEventRepository

def applicationIds (s : Store) : List ℕ := s.applications.map (·.applicationId)

/-- The event data names this claim, of this application. -/
structure NamesClaim (applicationId : ℕ) (data : EventData) (c : Claim) : Prop where
  application : c.applicationId = applicationId
  reference : data.lookup "claim_reference" = some (.text c.claimReference)

/-- The event data tells the type of this claim. -/
def TellsType (data : EventData) (c : Claim) : Prop :=
  data.lookup "claim_type" = some (.text c.claimTypeId.value)

/-- The event data tells the decision that this row records. -/
def TellsDecision (data : EventData) (d : ClaimDecision) : Prop :=
  ∃ verdict : Verdict, d.decision = verdict.decision
    ∧ data.lookup "claim_decision" = some (.text verdict.status.value)

/-- What the readers ask of the event data, by kind of event. -/
def HasEventData (s : Store) (applicationId : ℕ) (data : EventData) : HistoryEventReference → Prop
  | .caseNoteAdded => (data.lookup "note_text").isSome
  | .applicationAssessmentCompleted =>
    data.lookup "merits_decision" = some (.text "Granted")
      ∨ data.lookup "merits_decision" = some (.text "Refused")
        ∧ (∃ reason : ReasonForRefusal, data.lookup "refusal_reason" = some (.text reason.value))
        ∧ ∃ justification, data.lookup "refusal_justification" = some (.text justification)
  | .interestedPartyUpdated =>
    (data.lookup "old_public_bodies").isSome ∧ (data.lookup "new_public_bodies").isSome
  | .claimSubmitted => ∃ c ∈ s.claims, NamesClaim applicationId data c ∧ TellsType data c
  | .claimAssessmentCompleted => ∃ c ∈ s.claims, NamesClaim applicationId data c ∧ TellsType data c
      ∧ ∃ d ∈ s.claimDecisions, d.claimId = c.claimId ∧ TellsDecision data d
  | .poaAutoApproved => ∃ c ∈ s.claims, NamesClaim applicationId data c
  | .poaAutoRejected => ∃ c ∈ s.claims, NamesClaim applicationId data c
  | _ => True

structure WellRecorded (s : Store) (event : HistoryEvent) : Prop where
  application : event.applicationId ∈ applicationIds s
  data : HasEventData s event.applicationId event.eventData event.eventReference

structure WellRecordedHistory (s : Store) : Prop where
  keys : (s.claims.map (·.claimId)).Nodup
  references : ∀ c ∈ s.claims, c.claimReference ≠ ""
  events : ∀ event ∈ s.historyEvents, WellRecorded s event

/-- Claims stay but for their status, and decisions stay. -/
structure ClaimsKept (s s' : Store) : Prop where
  claims : ∀ c ∈ s.claims, ∃ status, c.withStatus status ∈ s'.claims
  decisions : s.claimDecisions ⊆ s'.claimDecisions

/-- The claim is of a stored application, has a reference, and a kind if it is on account. -/
structure ClaimOnFile (s : Store) (c : Claim) : Prop where
  application : c.applicationId ∈ applicationIds s
  reference : c.claimReference ≠ ""
  poaType : c.claimTypeId = .paymentOnAccount → c.poaTypeId ≠ none

/-- One transaction: nothing that an event may name goes away, and what is new is well recorded. -/
structure HistoryStep (s s' : Store) (rows : List HistoryEvent) : Prop where
  kept : ClaimsKept s s'
  keys : (s.claims.map (·.claimId)).Nodup → (s'.claims.map (·.claimId)).Nodup
  filed : ∀ c' ∈ s'.claims, (∃ c ∈ s.claims, ∃ status, c' = c.withStatus status) ∨ ClaimOnFile s c'
  applications : applicationIds s ⊆ applicationIds s'
  appended : s'.historyEvents = s.historyEvents ++ rows
  recorded : ∀ event ∈ rows, WellRecorded s' event

section Steps

variable {s s' : Store} {rows : List HistoryEvent} {event : HistoryEvent}
variable {applicationId : ℕ} {data : EventData}

theorem HasEventData.mono {reference : HistoryEventReference}
    (h : HasEventData s applicationId data reference) (hkept : ClaimsKept s s') :
    HasEventData s' applicationId data reference := by
  -- a claim keeps whatever an event tells of it when its status changes
  have hclaim : (∃ c ∈ s.claims, NamesClaim applicationId data c) →
      ∃ c ∈ s'.claims, NamesClaim applicationId data c := by
    rintro ⟨c, hc, hnamed⟩
    obtain ⟨status, hc'⟩ := hkept.claims c hc
    exact ⟨_, hc', hnamed.application, hnamed.reference⟩
  cases reference with
  | claimSubmitted =>
      obtain ⟨c, hc, hnamed, htype⟩ := h
      obtain ⟨status, hc'⟩ := hkept.claims c hc
      exact ⟨_, hc', ⟨hnamed.application, hnamed.reference⟩, htype⟩
  | claimAssessmentCompleted =>
      obtain ⟨c, hc, hnamed, htype, d, hd, hdecision⟩ := h
      obtain ⟨status, hc'⟩ := hkept.claims c hc
      exact ⟨_, hc', ⟨hnamed.application, hnamed.reference⟩, htype, d, hkept.decisions hd, hdecision⟩
  | poaAutoApproved => exact hclaim h
  | poaAutoRejected => exact hclaim h
  | _ => exact h

theorem WellRecordedHistory.step (hs : WellRecordedHistory s) (h : HistoryStep s s' rows) :
    WellRecordedHistory s' := by
  refine ⟨h.keys hs.keys, ?_, ?_⟩
  · intro c' hc'
    rcases h.filed c' hc' with ⟨c, hc, status, rfl⟩ | hnew
    · exact hs.references c hc
    · exact hnew.reference
  · intro event hevent
    rw [h.appended] at hevent
    rcases List.mem_append.mp hevent with hold | hnew
    · have hrecorded := hs.events event hold
      exact ⟨h.applications hrecorded.application, hrecorded.data.mono h.kept⟩
    · exact h.recorded event hnew

theorem HistoryStep.onFile (h : HistoryStep s s' rows) (hs : ∀ c ∈ s.claims, ClaimOnFile s c) :
    ∀ c ∈ s'.claims, ClaimOnFile s' c := by
  intro c' hc'
  rcases h.filed c' hc' with ⟨c, hc, status, rfl⟩ | hnew
  · have hold := hs c hc
    exact ⟨h.applications hold.application, hold.reference, hold.poaType⟩
  · exact ⟨h.applications hnew.application, hnew.reference, hnew.poaType⟩

/-- A row is well recorded where the event it was written as is. -/
theorem WellRecorded.of_writtenAs {event : NewEvent} {env : Env} {row : HistoryEvent}
    (hwritten : event.WrittenAs env row) (happlication : event.applicationId ∈ applicationIds s)
    (hdata : HasEventData s event.applicationId event.eventData event.eventReference) :
    WellRecorded s row := by
  obtain ⟨actor, id, -, rfl⟩ := hwritten
  exact ⟨happlication, hdata⟩

theorem ClaimsKept.of_same (hclaims : s'.claims = s.claims)
    (hdecisions : s'.claimDecisions = s.claimDecisions) : ClaimsKept s s' where
  claims := fun c hc => ⟨c.statusId, hclaims ▸ hc⟩
  decisions := fun _ hd => hdecisions ▸ hd

/-- A transaction that leaves the claims as they are. -/
theorem HistoryStep.of_same (hclaims : s'.claims = s.claims)
    (hdecisions : s'.claimDecisions = s.claimDecisions)
    (happlications : applicationIds s ⊆ applicationIds s')
    (hrows : s'.historyEvents = s.historyEvents ++ rows)
    (hrecorded : ∀ event ∈ rows, WellRecorded s' event) : HistoryStep s s' rows where
  kept := .of_same hclaims hdecisions
  keys := fun hkeys => hclaims ▸ hkeys
  filed := fun c' hc' => .inl ⟨c', hclaims ▸ hc', c'.statusId, rfl⟩
  applications := happlications
  appended := hrows
  recorded := hrecorded

theorem applicationIds_congr (h : s'.applications = s.applications) :
    applicationIds s' = applicationIds s := by
  rw [applicationIds, h, applicationIds]

theorem applicationIds_updateApplication {f : Application → Application} (applicationId : ℕ)
    (hf : ∀ a, (f a).applicationId = a.applicationId) :
    applicationIds (s.updateApplication applicationId f) = applicationIds s := by
  simp only [applicationIds, Store.updateApplication, List.map_map]
  apply List.map_congr_left
  intro a _
  simp only [Function.comp]
  split_ifs
  · exact hf a
  · rfl

theorem Decided.claimsKept {claimId : ℕ} {verdict : Verdict} {decisionRows : DecisionRows}
    (h : Decided claimId verdict decisionRows s s') : ClaimsKept s s' where
  claims := fun _ hc => h.exists_withStatus hc
  decisions := by
    intro d hd
    rw [h.claimDecisions]
    exact List.mem_append_left _ hd

theorem Decided.decision_mem {claimId : ℕ} {verdict : Verdict} {decisionRows : DecisionRows}
    (h : Decided claimId verdict decisionRows s s') : decisionRows.decision ∈ s'.claimDecisions := by
  rw [h.claimDecisions]
  exact List.mem_append_right _ (List.mem_singleton_self _)

theorem generateClaimReference_ne (draw : ReferenceDraw 4) : generateClaimReference draw ≠ "" := by
  intro hempty
  have hlength := generateClaimReference_length draw
  rw [hempty] at hlength
  cases hlength

end Steps

section Bodies

variable {env : Env} {faults : Faults} {t t' : Txn Store Notification} {u : Unit}
variable {application : Application}

theorem mem_applicationIds {s : Store} (h : application ∈ s.applications) :
    application.applicationId ∈ applicationIds s := List.mem_map_of_mem h

open CreateApplicationUseCase in
theorem createBody_historyStep {request : ApplicationCreate} {firmCode : String}
    {userOfficeCodes : List String}
    (h : createBody env faults request firmCode userOfficeCodes t = .ok application t') :
    ∃ rows, HistoryStep t.store t'.store rows := by
  obtain ⟨submitted, confirmed, hsubmitted, hconfirmed, happends⟩ := createBody_appends h
  have happlications := createBody_applications h
  have hclaims : t'.store.claims = t.store.claims
      ∧ t'.store.claimDecisions = t.store.claimDecisions := by
    obtain ⟨t₁, u, hcreate, hsubmit⟩ := createBody_ok.mp h
    obtain ⟨_, _, _, -, -, -, -, -, rfl⟩ := createApplication_ok.mp hcreate
    obtain ⟨-, -, -, _, _, _, -, -, -, -, -, -, -, rfl⟩ := submitApplication_ok.mp hsubmit
    exact ⟨rfl, rfl⟩
  have hmem : application.applicationId ∈ applicationIds t'.store :=
    mem_applicationIds (happlications ▸ List.mem_append_right _ (List.mem_singleton_self _))
  refine ⟨_, .of_same hclaims.1 hclaims.2 ?_ happends.rows ?_⟩
  · intro id hid
    unfold applicationIds
    rw [happlications, List.map_append]
    exact List.mem_append_left _ hid
  · simp only [List.forall_mem_cons, List.not_mem_nil, IsEmpty.forall_iff, implies_true, and_true]
    exact ⟨.of_writtenAs hsubmitted hmem trivial, .of_writtenAs hconfirmed hmem trivial⟩

/-- A transaction that changes applications in place and writes well recorded events. -/
theorem historyStep_of_updated {rows : List HistoryEvent} {sent : List Notification}
    (hclaims : t'.store.claims = t.store.claims)
    (hdecisions : t'.store.claimDecisions = t.store.claimDecisions)
    (happlications : applicationIds t'.store = applicationIds t.store)
    (happends : Appends rows sent t t')
    (hrecorded : ∀ event ∈ rows, WellRecorded t.store event) :
    HistoryStep t.store t'.store rows := by
  refine .of_same hclaims hdecisions (fun _ hid => happlications ▸ hid) happends.rows ?_
  intro event hevent
  obtain ⟨happlication, hdata⟩ := hrecorded event hevent
  exact ⟨happlications ▸ happlication, hdata.mono (.of_same hclaims hdecisions)⟩

open GrantDecisionUseCase in
theorem grantBody_historyStep {request : GrantApplicationUpdate}
    (hmem : application ∈ t.store.applications)
    (h : grantBody env faults request application t = .ok u t') :
    ∃ rows, HistoryStep t.store t'.store rows := by
  obtain ⟨granted, context, event, assessed, certified, emailed, lettered, rfl, hevent, hassessed,
    hcertified, hemailed, hlettered, happends⟩ := grantBody_appends h
  obtain ⟨-, addressed, -, happlications⟩ := grantBody_ok h
  have hclaims : t'.store.claims = t.store.claims
      ∧ t'.store.claimDecisions = t.store.claimDecisions := by
    simp only [grantBody, sendGrant, bind_ok, recordDecision_ok, populateCertificateContext_ok,
      sendGrantEmail_ok, sendGrantLetter_ok, createHistoryEvent_ok, Tx.check_ok] at h
    obtain ⟨_, _, ⟨_, -, -, -, rfl⟩, _, _, ⟨-, -, _, -, -, rfl⟩, _, _, ⟨-, -, rfl⟩, _, _,
      ⟨_, -, -, rfl⟩, _, _, ⟨_, -, -, rfl⟩, _, _, ⟨-, -, rfl⟩, _, _, ⟨-, rfl⟩, _, -, -, rfl⟩ := h
    exact ⟨rfl, rfl⟩
  have hids : applicationIds t'.store = applicationIds t.store := by
    rw [applicationIds_congr happlications, applicationIds_updateApplication,
      applicationIds_updateApplication]
    · exact fun _ => rfl
    · exact fun _ => rfl
  obtain ⟨address, -, rfl⟩ := letterEvent_ok.mp hevent
  have hid : application.applicationId ∈ applicationIds t.store := mem_applicationIds hmem
  refine ⟨_, historyStep_of_updated hclaims.1 hclaims.2 hids happends ?_⟩
  simp only [List.forall_mem_cons, List.not_mem_nil, IsEmpty.forall_iff, implies_true, and_true]
  exact ⟨.of_writtenAs hassessed hid (.inl rfl), .of_writtenAs hcertified hid trivial,
    .of_writtenAs hemailed hid trivial, .of_writtenAs hlettered hid trivial⟩

open RefuseDecisionUseCase in
theorem refuseBody_historyStep {request : RefuseApplicationUpdate}
    (hmem : application ∈ t.store.applications)
    (h : refuseBody env faults request application t = .ok u t') :
    ∃ rows, HistoryStep t.store t'.store rows := by
  obtain ⟨refused, assessed, emailed, rfl, hassessed, hemailed, happends⟩ := refuseBody_appends h
  have hclaims : t'.store.claims = t.store.claims
      ∧ t'.store.claimDecisions = t.store.claimDecisions := by
    simp only [refuseBody, sendRefusal, bind_ok, recordDecision_ok, Tx.send_ok,
      createHistoryEvent_ok] at h
    obtain ⟨_, _, ⟨_, -, -, -, rfl⟩, _, _, ⟨-, rfl⟩, _, -, -, rfl⟩ := h
    exact ⟨rfl, rfl⟩
  have hids : applicationIds t'.store = applicationIds t.store := by
    rw [applicationIds_congr (refuseBody_ok h), applicationIds_updateApplication]
    exact fun _ => rfl
  have hid : application.applicationId ∈ applicationIds t.store := mem_applicationIds hmem
  refine ⟨_, historyStep_of_updated hclaims.1 hclaims.2 hids happends ?_⟩
  simp only [List.forall_mem_cons, List.not_mem_nil, IsEmpty.forall_iff, implies_true, and_true]
  exact ⟨.of_writtenAs hassessed hid (.inr ⟨rfl, ⟨_, rfl⟩, ⟨_, rfl⟩⟩),
    .of_writtenAs hemailed hid trivial⟩

open UpdatePublicBodiesUseCase in
theorem updatePublicBodies_historyStep {publicBodyIds : List PublicBodyId}
    (hmem : application ∈ t.store.applications)
    (h : updatePublicBodies env faults publicBodyIds application t = .ok u t') :
    ∃ rows, HistoryStep t.store t'.store rows := by
  obtain ⟨row, hwritten, happends⟩ := updatePublicBodies_appends h
  obtain ⟨_, -, -, -, rfl⟩ := updatePublicBodies_ok.mp h
  refine ⟨_, historyStep_of_updated rfl rfl (applicationIds_updateApplication _ fun _ => rfl) happends
    ?_⟩
  rw [List.forall_mem_singleton]
  exact .of_writtenAs hwritten (mem_applicationIds hmem) ⟨rfl, rfl⟩

/-- A transaction that only writes one event. -/
theorem noted_historyStep {event : NewEvent} {row : HistoryEvent} {sent : List Notification}
    (hnoted : Noted t.store t'.store) (hwritten : event.WrittenAs env row)
    (happends : Appends [row] sent t t') (happlication : event.applicationId ∈ applicationIds t.store)
    (hdata : HasEventData t.store event.applicationId event.eventData event.eventReference) :
    HistoryStep t.store t'.store [row] := by
  obtain ⟨events, hstore⟩ := hnoted
  refine historyStep_of_updated ?_ ?_ ?_ happends ?_
  · rw [hstore]
  · rw [hstore]
  · rw [hstore]
    rfl
  · rw [List.forall_mem_singleton]
    exact .of_writtenAs hwritten happlication hdata

/-- A transaction that decides a claim and writes well recorded events. -/
theorem decided_historyStep {claimId : ℕ} {verdict : Verdict} {decisionRows : DecisionRows}
    {rows : List HistoryEvent} {sent : List Notification}
    (hdecided : Decided claimId verdict decisionRows t.store t'.store)
    (happends : Appends rows sent t t') (hrecorded : ∀ event ∈ rows, WellRecorded t'.store event) :
    HistoryStep t.store t'.store rows where
  kept := hdecided.claimsKept
  keys := by
    intro hkeys
    rw [hdecided.claims, setClaimStatus_map fun _ _ => rfl]
    exact hkeys
  filed := fun c' hc' => .inl (hdecided.of_mem_claims hc')
  applications := fun _ hid => applicationIds_congr hdecided.applications ▸ hid
  appended := happends.rows
  recorded := hrecorded

/-- The assessment of a claim tells its decision. -/
theorem decided_assessment {c : Claim} {verdict : Verdict} {decisionRows : DecisionRows}
    {details : List (String × Json)} {row : HistoryEvent}
    (hdecided : Decided c.claimId verdict decisionRows t.store t'.store)
    (hmem : application ∈ t.store.applications) (hc : c ∈ t.store.claims)
    (happlication : c.applicationId = application.applicationId)
    (hwritten : (assessmentEvent env application c verdict.status details).WrittenAs env row) :
    WellRecorded t'.store row := by
  have hid : application.applicationId ∈ applicationIds t'.store :=
    applicationIds_congr hdecided.applications ▸ mem_applicationIds hmem
  obtain ⟨status, hc'⟩ := hdecided.claimsKept.claims c hc
  refine .of_writtenAs hwritten hid ⟨_, hc', ⟨happlication, rfl⟩, rfl, _, hdecided.decision_mem, ?_⟩
  exact ⟨hdecided.record.claim, verdict, hdecided.record.decision, rfl⟩

/-- The event of an automatic decision names its claim. -/
theorem pursued_recorded {prepared : PreparedClaim} {claim : Claim} {verdict : Verdict}
    {decisionRows : DecisionRows} {event : NewEvent} {row : HistoryEvent}
    (hdecided : Decided claim.claimId verdict decisionRows t.store t'.store)
    (hpursued : Pursued prepared claim t.store) (hwritten : event.WrittenAs env row)
    (happlication : event.applicationId = prepared.application.applicationId)
    (hkind : event.eventReference = .poaAutoApproved ∨ event.eventReference = .poaAutoRejected)
    (hdata : event.eventData = [("claim_reference", .text claim.claimReference)]) :
    WellRecorded t'.store row := by
  have hid : event.applicationId ∈ applicationIds t'.store := by
    rw [happlication, applicationIds_congr hdecided.applications]
    exact mem_applicationIds hpursued.application
  obtain ⟨status, hc'⟩ := hdecided.claimsKept.claims claim hpursued.standing.stored
  have hnamed : NamesClaim event.applicationId event.eventData (claim.withStatus status) := by
    refine ⟨hpursued.claimOf.trans happlication.symm, ?_⟩
    rw [hdata]
    rfl
  refine .of_writtenAs hwritten hid ?_
  rcases hkind with hkind | hkind
  · rw [hkind]
    exact ⟨_, hc', hnamed⟩
  · rw [hkind]
    exact ⟨_, hc', hnamed⟩

theorem prepare_poaType_ne_none {command : CreateClaimCommand} {prepared : PreparedClaim} {s : Store}
    (h : CreateClaim.prepare command s = .ok prepared)
    (htype : prepared.validatedClaim.claimType = .paymentOnAccount) :
    prepared.validatedClaim.poaType ≠ none := by
  have hvalid := (CreateClaim.prepare_ok h).validatedClaim
  generalize prepared.validatedClaim = validated at hvalid htype ⊢
  simp only [CreateClaim.validateClaim, except_bind_ok] at hvalid
  obtain ⟨⟨⟩, hinit, hvalidated⟩ := hvalid
  have hgiven : (CreateClaim.domainClaim command).claimType = .paymentOnAccount →
      (CreateClaim.domainClaim command).poaType ≠ none := poaType_ne_none hinit
  cases validateTotalClaimCost_ok hvalidated <;> exact hgiven htype

theorem prepare_claimType {command : CreateClaimCommand} {prepared : PreparedClaim} {s : Store}
    (h : CreateClaim.prepare command s = .ok prepared) :
    prepared.validatedClaim.claimType = command.claimType := by
  have hvalid := (CreateClaim.prepare_ok h).validatedClaim
  generalize prepared.validatedClaim = validated at hvalid ⊢
  simp only [CreateClaim.validateClaim, except_bind_ok] at hvalid
  obtain ⟨⟨⟩, -, hvalidated⟩ := hvalid
  cases validateTotalClaimCost_ok hvalidated <;> rfl

theorem SubmittedRow.onFile {command : CreateClaimCommand} {prepared : PreparedClaim} {claim : Claim}
    {s : Store} (hprepared : CreateClaim.prepare command s = .ok prepared)
    (h : SubmittedRow prepared.validatedClaim prepared.application.applicationId claim s) :
    ClaimOnFile s claim where
  application := h.applicationId ▸ mem_applicationIds (prepare_application hprepared)
  reference := by
    obtain ⟨draw, hdraw⟩ := h.reference
    rw [hdraw]
    exact generateClaimReference_ne draw
  poaType := by
    intro htype
    rw [h.poaType]
    exact prepare_poaType_ne_none hprepared (h.claimType.symm.trans htype)

theorem submitClaim_historyStep {command : CreateClaimCommand} {prepared : PreparedClaim}
    {claim : Claim} (hprepared : CreateClaim.prepare command t.store = .ok prepared)
    (h : CreateClaim.submitClaim env faults command prepared t = .ok claim t') :
    ∃ rows, HistoryStep t.store t'.store rows := by
  obtain ⟨row, hwritten, happends⟩ := submitClaim_appends h
  have hsubmitted := submitClaim_ok h
  have hids : applicationIds t'.store = applicationIds t.store :=
    applicationIds_congr hsubmitted.applications
  have hnew : claim ∈ t'.store.claims := by
    rw [hsubmitted.claims]
    exact List.mem_append_right _ (List.mem_singleton_self _)
  refine ⟨[row], ⟨?_, ?_⟩, ?_, ?_, fun _ hold => hids ▸ hold, happends.rows, ?_⟩
  · intro c hc
    rw [hsubmitted.claims]
    exact ⟨c.statusId, List.mem_append_left _ hc⟩
  · rw [hsubmitted.claimDecisions]
    exact fun _ hd => hd
  · intro hkeys
    rw [hsubmitted.claims, List.map_append, List.map_singleton, hsubmitted.stored.claimId]
    refine List.nodup_append.mpr ⟨hkeys, List.nodup_singleton _, ?_⟩
    intro key hold key' hlast
    rw [List.mem_singleton.mp hlast]
    exact nextKey_ne hold
  · intro c' hc'
    rw [hsubmitted.claims] at hc'
    rcases List.mem_append.mp hc' with hold | hlast
    · exact .inl ⟨c', hold, c'.statusId, rfl⟩
    · rw [List.mem_singleton.mp hlast]
      exact .inr (hsubmitted.stored.onFile hprepared)
  · rw [List.forall_mem_singleton]
    have hid := mem_applicationIds (prepare_application hprepared)
    refine .of_writtenAs hwritten (hids ▸ hid) ⟨claim, hnew, ⟨hsubmitted.stored.applicationId, rfl⟩, ?_⟩
    rw [TellsType, hsubmitted.stored.claimType, prepare_claimType hprepared]
    rfl

theorem awaitingEmail_mem {claim : Claim} {s : Store}
    (h : SendAutoApprovedPoaClaimEmailsUseCase.awaitingEmail claim s = .ok (some application)) :
    application ∈ s.applications := by
  unfold SendAutoApprovedPoaClaimEmailsUseCase.awaitingEmail at h
  split at h
  · cases h
  · rename_i found hfound
    dsimp only at h
    split at h
    · cases h
    · split at h
      · cases h
      · cases h
        exact List.mem_of_find?_eq_some hfound

end Bodies

section Transactions

variable {permitted : CasePermissions} {s s' : Store}

/-- What each transaction writes, the readers can read. -/
theorem CaseTransacts.historyStep (h : CaseTransacts permitted s s') :
    ∃ rows, HistoryStep s s' rows := by
  cases h with
  | creation _ h => exact createBody_historyStep h
  | grant hfound h => exact grantBody_historyStep (findDecidedApplication_mem hfound) h
  | refusal hfound _ h => exact refuseBody_historyStep (findDecidedApplication_mem hfound) h
  | publicBodies hchecked h =>
      have hfound := (UpdatePublicBodiesUseCase.checkUpdate_ok.mp hchecked).1
      exact updatePublicBodies_historyStep (findDecidedApplication_mem hfound) h
  | note hfound h =>
      obtain ⟨row, hwritten, happends⟩ := createHistoryEvent_appends h
      obtain ⟨_, -, -, rfl⟩ := createHistoryEvent_ok.mp h
      exact ⟨_, noted_historyStep ⟨_, rfl⟩ hwritten happends
        (mem_applicationIds (findDecidedApplication_mem hfound)) rfl⟩
  | submission hprepared h => exact submitClaim_historyStep hprepared h
  | confirmation hpursued h =>
      obtain ⟨row, hwritten, happends⟩ := confirmSubmission_appends h
      exact ⟨_, noted_historyStep (confirmSubmission_ok h) hwritten happends
        (mem_applicationIds hpursued.application) trivial⟩
  | autoRejection hpursued _ h =>
      obtain ⟨row, hwritten, happends⟩ := autoRejectClaim_appends h
      obtain ⟨_, hdecided⟩ := autoRejectClaim_ok h
      refine ⟨_, decided_historyStep hdecided happends ?_⟩
      rw [List.forall_mem_singleton]
      exact pursued_recorded hdecided hpursued hwritten rfl (.inr rfl) rfl
  | autoApproval hpursued _ h =>
      obtain ⟨row, hwritten, happends⟩ := autoApproveClaim_appends h
      obtain ⟨_, _, -, hdecided⟩ := autoApproveClaim_ok h
      refine ⟨_, decided_historyStep hdecided happends ?_⟩
      rw [List.forall_mem_singleton]
      exact pursued_recorded hdecided hpursued hwritten rfl (.inl rfl) rfl
  | payment hfound h =>
      obtain ⟨_, _, _, _, _, ⟨hstored, happlication, -⟩, hdecided, hassessed, hemailed, happends⟩ :=
        payClaim_assesses h
      have hmem := findDecidedApplication_mem hfound
      refine ⟨_, decided_historyStep hdecided happends ?_⟩
      simp only [List.forall_mem_cons, List.not_mem_nil, IsEmpty.forall_iff, implies_true, and_true]
      exact ⟨decided_assessment hdecided hmem hstored happlication hassessed, .of_writtenAs hemailed
        (applicationIds_congr hdecided.applications ▸ mem_applicationIds hmem) trivial⟩
  | rejection hfound h =>
      obtain ⟨_, _, _, _, ⟨hstored, happlication, -⟩, hdecided, hassessed, hemailed, happends⟩ :=
        rejectClaim_assesses h
      have hmem := findDecidedApplication_mem hfound
      refine ⟨_, decided_historyStep hdecided happends ?_⟩
      simp only [List.forall_mem_cons, List.not_mem_nil, IsEmpty.forall_iff, implies_true, and_true]
      exact ⟨decided_assessment hdecided hmem hstored happlication hassessed, .of_writtenAs hemailed
        (applicationIds_congr hdecided.applications ▸ mem_applicationIds hmem) trivial⟩
  | approvedEmail hawaiting h =>
      obtain ⟨row, hwritten, happends⟩ := sendApprovedEmail_appends h
      obtain ⟨-, -, -, rfl⟩ := SendAutoApprovedPoaClaimEmailsUseCase.sendApprovedEmail_ok.mp h
      exact ⟨_, noted_historyStep ⟨_, rfl⟩ hwritten happends
        (mem_applicationIds (awaitingEmail_mem hawaiting)) trivial⟩

end Transactions

section Readers

variable {printing : Printing} {s : Store} {data : EventData}

theorem NamesClaim.isSome {applicationId : ℕ} {c : Claim} (h : NamesClaim applicationId data c) :
    (data.lookup "claim_reference").isSome := by
  rw [h.reference]
  rfl

theorem TellsType.isSome {c : Claim} (h : TellsType data c) : (data.lookup "claim_type").isSome := by
  rw [h]
  rfl

theorem TellsDecision.isSome {d : ClaimDecision} (h : TellsDecision data d) :
    (data.lookup "claim_decision").isSome := by
  obtain ⟨verdict, -, hlookup⟩ := h
  rw [hlookup]
  rfl

/-- The event data that the readers ask for is what the description is built from. -/
theorem HasEventData.described {applicationId : ℕ} {reference : HistoryEventReference}
    (h : HasEventData s applicationId data reference) :
    ∀ key ∈ describedKeys printing data reference, (data.lookup key).isSome := by
  have hnames : (∃ c ∈ s.claims, NamesClaim applicationId data c) →
      (data.lookup "claim_reference").isSome := by
    rintro ⟨c, -, hnamed⟩
    exact hnamed.isSome
  cases reference with
  | caseNoteAdded => exact List.forall_mem_singleton.mpr h
  | applicationAssessmentCompleted =>
      rcases h with hgranted | ⟨hrefused, ⟨reason, hreason⟩, justification, hjustification⟩
      · have hother : asciiLower "Granted" ≠ "refused" := by decide
        simp [-List.lookup_isSome_iff, describedKeys, hgranted, printing.str_text, hother]
      · simp only [describedKeys]
        split_ifs <;>
          simp [-List.lookup_isSome_iff, hrefused, hreason, hjustification]
  | interestedPartyUpdated => exact List.forall_mem_cons.mpr ⟨h.1, List.forall_mem_singleton.mpr h.2⟩
  | claimSubmitted =>
      obtain ⟨c, -, hnamed, htype⟩ := h
      exact List.forall_mem_cons.mpr ⟨htype.isSome, List.forall_mem_singleton.mpr hnamed.isSome⟩
  | claimAssessmentCompleted =>
      obtain ⟨c, -, hnamed, htype, d, -, -, hdecision⟩ := h
      simp only [describedKeys]
      split_ifs <;>
        simp [-List.lookup_isSome_iff, htype.isSome, hdecision.isSome, hnamed.isSome]
  | poaAutoApproved => exact List.forall_mem_singleton.mpr (hnames h)
  | poaAutoRejected => exact List.forall_mem_singleton.mpr (hnames h)
  | _ => exact fun _ hnone => absurd hnone List.not_mem_nil

/-- A decision that is told has a label in the report. -/
theorem TellsDecision.label {d : ClaimDecision} (h : TellsDecision data d) :
    (labelOf claimDecisionLabels (data.lookup "claim_decision")).isSome := by
  obtain ⟨verdict, -, hlookup⟩ := h
  rw [hlookup]
  cases verdict <;> rfl

section Rows

variable {event : HistoryEvent} {asked : List String} {c : Claim}

/-- A claim that is named and asked for is found, with its submission date. -/
theorem NamesClaim.found (hreferences : ∀ c ∈ s.claims, c.claimReference ≠ "") (hc : c ∈ s.claims)
    (h : NamesClaim event.applicationId event.eventData c)
    (hasked : ∀ claimReference, claimReferenceOf event = some claimReference → claimReference ∈ asked)
    (application : Application) :
    let record := sourceRecord (getClaimSubmissionDates asked s) event application
    textOrEmpty (record.eventData.lookup "claim_reference") ≠ "" ∧ record.claimSubmittedAt.isSome := by
  have hne := hreferences c hc
  have hof : claimReferenceOf event = some c.claimReference := by
    simp only [claimReferenceOf, HistoryEvent.data, h.reference, textOrEmpty, if_neg hne]
  constructor
  · simp only [sourceRecord, h.reference, textOrEmpty]
    exact hne
  · simp only [sourceRecord, hof, Option.bind_some]
    exact getClaimSubmissionDates_lookup (hasked _ hof) (List.mem_map_of_mem hc)

/-- A decision that is well recorded has a row, once its claim is looked up. -/
theorem WellRecorded.row (hreferences : ∀ c ∈ s.claims, c.claimReference ≠ "")
    (h : WellRecorded s event)
    (hdecision : event.eventReference ∈ decisionEventReferences)
    (hasked : ∀ claimReference, claimReferenceOf event = some claimReference → claimReference ∈ asked)
    (application : Application) :
    ∃ row, buildDecisionsReportRow printing
      (sourceRecord (getClaimSubmissionDates asked s) event application) = .ok row := by
  have hdata := h.data
  set record := sourceRecord (getClaimSubmissionDates asked s) event application with hrecord
  have hautomatic : (∃ c ∈ s.claims, NamesClaim event.applicationId event.eventData c) →
      ∀ status : String, (labelOf claimDecisionLabels (some (.text status))).isSome →
        ∃ row, claimDecisionRow printing record (some (.text status)) none = .ok row := by
    rintro ⟨c, hc, hnamed⟩ status hlabel
    exact (claimDecisionRow_goes printing none).mpr
      ⟨hlabel, hnamed.found hreferences hc hasked application⟩
  have hreference : record.eventReference = event.eventReference := rfl
  simp only [decisionEventReferences, List.mem_cons, List.not_mem_nil, or_false] at hdecision
  rcases hdecision with hkind | hkind | hkind | hkind
  · rw [hkind] at hdata hreference
    unfold buildDecisionsReportRow
    rw [hreference]
    rcases hdata with hgranted | ⟨hrefused, ⟨reason, hreason⟩, -⟩
    · exact applicationDecisionRow_granted hgranted
    · exact applicationDecisionRow_refused hrefused hreason
  · rw [hkind] at hdata hreference
    obtain ⟨c, hc, hnamed, -, d, -, -, htold⟩ := hdata
    exact (buildDecisionsReportRow_assessment_goes hreference).mpr
      ⟨htold.label, hnamed.found hreferences hc hasked application⟩
  · rw [hkind] at hdata hreference
    unfold buildDecisionsReportRow
    rw [hreference]
    exact hautomatic hdata _ rfl
  · rw [hkind] at hdata hreference
    unfold buildDecisionsReportRow
    rw [hreference]
    exact hautomatic hdata _ rfl

end Rows

/-- Everything the history of a store is read for. -/
structure ReadableHistory (printing : Printing) (s : Store) : Prop where
  described : ∀ event ∈ s.historyEvents, ∃ description,
    describeEvent printing event.eventReference.value event.eventData = .ok description
  named : ∀ event ∈ s.historyEvents,
    event.eventReference ∈ [.claimAssessmentCompleted, .poaAutoApproved, .poaAutoRejected] →
      ∃ c ∈ s.claims, event.data "claim_reference" = some (.text c.claimReference)
  reported : ∀ decidedFrom decidedBefore, ∀ event ∈ s.historyEvents,
    event.eventReference ∈ decisionEventReferences →
      event.timestamp.within decidedFrom decidedBefore = true →
        ∃ record ∈ getDecisionsReportRecords decidedFrom decidedBefore s,
          record.eventReference = event.eventReference ∧ record.eventData = event.eventData
  rows : ∀ decidedFrom decidedBefore,
    ∀ record ∈ getDecisionsReportRecords decidedFrom decidedBefore s,
      ∃ row, buildDecisionsReportRow printing record = .ok row

theorem WellRecordedHistory.readable (printing : Printing) (hs : WellRecordedHistory s) :
    ReadableHistory printing s where
  described := fun event hevent => describeEvent_goes.mpr (hs.events event hevent).data.described
  named := by
    intro event hevent hkind
    have hdata := (hs.events event hevent).data
    simp only [List.mem_cons, List.not_mem_nil, or_false] at hkind
    rcases hkind with hkind | hkind | hkind
    · rw [hkind] at hdata
      obtain ⟨c, hc, hnamed, -⟩ := hdata
      exact ⟨c, hc, hnamed.reference⟩
    · rw [hkind] at hdata
      obtain ⟨c, hc, hnamed⟩ := hdata
      exact ⟨c, hc, hnamed.reference⟩
    · rw [hkind] at hdata
      obtain ⟨c, hc, hnamed⟩ := hdata
      exact ⟨c, hc, hnamed.reference⟩
  reported := by
    intro decidedFrom decidedBefore event hevent hdecision hwithin
    obtain ⟨a, ha, hid⟩ := List.mem_map.mp (hs.events event hevent).application
    exact ⟨_, List.mem_map_of_mem (mem_decisionEvents.mpr ⟨hevent, ha, hid, hdecision, hwithin⟩),
      rfl, rfl⟩
  rows := by
    intro decidedFrom decidedBefore record hrecord
    obtain ⟨⟨event, application⟩, hrow, rfl⟩ := List.mem_map.mp hrecord
    obtain ⟨hevent, -, -, hdecision, -⟩ := mem_decisionEvents.mp hrow
    refine WellRecorded.row hs.references (hs.events event hevent) hdecision ?_ application
    intro claimReference hnamed
    exact List.mem_filterMap.mpr ⟨_, hrow, hnamed⟩

/-- The decisions report of such a history fails only for the dates it is asked for. -/
theorem ReadableHistory.decisionsReport (hs : ReadableHistory printing s) {fromDate toDate : Date}
    {e : ReportError}
    (h : GenerateDecisionsReportUseCase.execute printing fromDate toDate s = .error e) :
    resolveReportWindow fromDate toDate GenerateDecisionsReportUseCase.maxReportRangeDays
      = .error e := by
  simp only [GenerateDecisionsReportUseCase.execute, except_bind_error] at h
  rcases h with hwindow | ⟨⟨decidedFrom, decidedBefore⟩, -, hreport⟩
  · exact hwindow
  · split at hreport
    · cases hreport
    · rename_i e' hmapM
      obtain ⟨record, hrecord, herror⟩ := Checked.mapM_error hmapM
      obtain ⟨row, hrow⟩ := hs.rows decidedFrom decidedBefore record hrecord
      rw [hrow] at herror
      cases herror

end Readers

theorem CaseCommitted.wellRecorded {evidence : List ClaimEvidence} {s : Store}
    (h : CaseCommitted (fun _ _ => True) (.initial [] evidence []) s) : WellRecordedHistory s := by
  refine (h.mono fun db r _ => CaseSubmission.anyCase_permitted db r).invariant ?_ ?_
  · exact ⟨List.nodup_nil, fun _ hnone => absurd hnone List.not_mem_nil,
      fun _ hnone => absurd hnone List.not_mem_nil⟩
  · intro s s' hstep hs
    obtain ⟨rows, hrows⟩ := hstep.historyStep
    exact hs.step hrows

theorem CaseCommitted.onFile {admitted : Store → CaseSubmission → Prop} {init s : Store}
    (h : CaseCommitted admitted init s) (hinit : ∀ c ∈ init.claims, ClaimOnFile init c) :
    ∀ c ∈ s.claims, ClaimOnFile s c := by
  have hinvariant := (h.mono fun db r _ => CaseSubmission.anyCase_permitted db r).invariant
    (I := fun s => ∀ c ∈ s.claims, ClaimOnFile s c)
  refine hinvariant hinit ?_
  intro s s' hstep hs
  obtain ⟨rows, hrows⟩ := hstep.historyStep
  exact hrows.onFile hs

/-- Whatever is committed, every event can be described and every decision shown. -/
theorem history_stays_readable {evidence : List ClaimEvidence} {s : Store} (printing : Printing)
    (h : CaseCommitted (fun _ _ => True) (.initial [] evidence []) s) :
    ReadableHistory printing s := h.wellRecorded.readable printing

namespace Sample

def printing : Printing where
  str := fun value => match value with
    | .text text => text
    | _ => ""
  str_text := fun _ => rfl

def note : CaseSubmission := submit (.createNote "INQ-AAA-CCC" "=1+1")

end Sample

theorem history_stays_readable_grantThenNote :
    ReadableHistory Sample.printing (Sample.note.after (Sample.grant.after Sample.createdStore)) := by
  have hcreated : CaseRun (fun _ _ => True) (.initial [] [] []) Sample.createdStore :=
    .request Sample.creation .start trivial
  exact history_stays_readable Sample.printing
    ⟨_, .request Sample.note (.request Sample.grant hcreated trivial) trivial, .inl rfl⟩

end InquestsApi
