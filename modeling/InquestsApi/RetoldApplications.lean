import InquestsApi.BackloggedApplications
import InquestsApi.Lib.Replay
import InquestsApi.OwnedCases

/-! An application is what was submitted, and what its history tells since: its events are played over the
row that its request was stored as. -/
namespace InquestsApi

open UnitOfWork HistoryEventRepository
open ApplicationRepository (applicationRow parsePublicBodyId)
open Replay (Replays)

namespace Retelling

section Data

variable (data : EventData)

def textAt (key : String) : Option String :=
  match data.lookup key with
  | some (.text s) => some s
  | _ => none

def textsAt (key : String) : List String :=
  match data.lookup key with
  | some (.texts items) => items
  | _ => []

/-- What `model_dump` makes of an address, read back. -/
def addressAt (key : String) : Option Address :=
  match data.lookup key with
  | some (.fields entries) => do
    let addressLine1 ← (entries.lookup "address_line_1").join
    let townOrCity ← (entries.lookup "town_or_city").join
    let postcode ← (entries.lookup "postcode").join
    pure ⟨addressLine1, (entries.lookup "address_line_2").join, townOrCity, (entries.lookup "county").join,
      postcode⟩
  | _ => none

end Data

def retoldDecision (data : EventData) (proceeding : ApplicationProceeding) : ApplicationProceeding :=
  if textAt data "merits_decision" = some "Granted" then
    { proceeding with meritsDecision := .granted, reasonForRefusal := none, justification := none }
  else
    { proceeding with
      meritsDecision := .refused
      reasonForRefusal := textAt data "refusal_reason"
      justification := textAt data "refusal_justification" }

/-- A letter is addressed in the row that it was sent from. -/
def lettered (data : EventData) (client : Client) : Client :=
  match addressAt data "recipient" with
  | some address => client.setStoredAddress address
  | none => client

def listed (data : EventData) (key : String) : List PublicBody :=
  ((textsAt data key).filterMap PublicBodyId.ofValue).map (·.publicBody)

/-- What an event of its history says of an application. -/
def retold (a : Application) (event : HistoryEvent) : Application :=
  match event.eventReference with
  | .applicationAssessmentCompleted => { a with proceeding := retoldDecision event.eventData a.proceeding }
  | .applicationGrantedLetter => { a with client := lettered event.eventData a.client }
  | .interestedPartyUpdated => { a with publicBodies := listed event.eventData "new_public_bodies" }
  | _ => a

/-- An update of the public bodies names those that it replaces. -/
def Fits (a : Application) (event : HistoryEvent) : Prop :=
  event.eventReference = .interestedPartyUpdated →
    a.publicBodies.map (·.publicBodyId.value) = textsAt event.eventData "old_public_bodies"

def retellingReferences : List HistoryEventReference :=
  [.applicationAssessmentCompleted, .applicationGrantedLetter, .interestedPartyUpdated]

end Retelling

open Retelling

/-- An application without the dates of its certificate, which no event tells. -/
def Application.told (a : Application) : Application :=
  { a with proceeding :=
      { a.proceeding with
        substantiveCostLimitationEffectiveDate := none
        certificateIssueDate := none
        certificateStartDate := none } }

def isAbout (applicationId : ℕ) (event : HistoryEvent) : Bool := event.applicationId = applicationId

abbrev Retells : Application → List HistoryEvent → Application → Prop := Replays retold Fits

section Data

variable {client : Client} {address officeAddress : Address} {addressed : Option Address × Client}

theorem PublicBodyId.ofValue_value (publicBodyId : PublicBodyId) :
    PublicBodyId.ofValue publicBodyId.value = some publicBodyId := by
  cases publicBodyId <;> decide

theorem filterMap_ofValue (publicBodyIds : List PublicBodyId) :
    (publicBodyIds.map (·.value)).filterMap PublicBodyId.ofValue = publicBodyIds := by
  induction publicBodyIds with
  | nil => rfl
  | cons publicBodyId rest ih =>
      rw [List.map_cons, List.filterMap_cons, PublicBodyId.ofValue_value, ih]

theorem addressAt_dumpAddress {data : EventData} {key : String}
    (h : data.lookup key = some (GrantDecisionUseCase.dumpAddress address)) :
    addressAt data key = some address := by
  unfold addressAt
  rw [h]
  rfl

/-- Writing the address that is there changes nothing, nor does writing where there is no row. -/
theorem setStoredAddress_chosen (h : client.chosenAddress officeAddress = some address) :
    client.setStoredAddress address = client := by
  obtain ⟨_, _, _, _, source, _, _, _, _⟩ := client
  unfold Client.chosenAddress Client.storedAddress at h
  cases source with
  | useProviderAddress => rfl
  | useSpecifiedAddress =>
      have hstored := (if_neg (nofun : AddressSource.useSpecifiedAddress ≠ .useProviderAddress)).symm.trans h
      simp only [Client.setStoredAddress, ← hstored]
  | useClientHomeAddress =>
      have hstored := (if_neg (nofun : AddressSource.useClientHomeAddress ≠ .useProviderAddress)).symm.trans h
      simp only [Client.setStoredAddress, ← hstored]

/-- The row of the client holds the address that the letter went to, whoever it is for. -/
theorem clientAddress_sets
    (h : CreateCertificateContext.clientAddress client officeAddress = .ok addressed)
    (haddress : addressed.1 = some address) : addressed.2 = client.setStoredAddress address := by
  rcases clientAddress_ok.mp h with ⟨-, rfl⟩ | ⟨recipient, chosen, -, -, rfl⟩
  · exact (setStoredAddress_chosen haddress).symm
  · cases haddress
    rfl

end Data

section Events

variable {a : Application} {event : HistoryEvent} {rows : List HistoryEvent}

theorem retold_of_other (h : event.eventReference ∉ retellingReferences) : retold a event = a := by
  unfold retold
  cases hkind : event.eventReference <;> first
    | rfl
    | exact absurd (hkind ▸ (by decide)) h

theorem fits_of_ne (h : event.eventReference ≠ .interestedPartyUpdated) : Fits a event :=
  fun hkind => absurd hkind h

/-- Events that tell nothing of applications tell nothing of any. -/
theorem retells_of_other (about : HistoryEvent → Bool)
    (h : ∀ row ∈ rows, row.eventReference ∉ retellingReferences) : Retells a (rows.filter about) a := by
  apply Replays.of_ignored
  intro row hrow
  have hother := h row (List.mem_of_mem_filter hrow)
  refine ⟨fits_of_ne ?_, retold_of_other hother⟩
  intro hkind
  rw [hkind] at hother
  exact hother (by decide)

end Events

section Steps

variable {env : Env} {faults : Faults} {t t' : Txn Store Notification} {u : Unit}
variable {application : Application}

open GrantDecisionUseCase in
/-- What a grant writes, with the address that its letter went to. -/
theorem grantBody_lettered {request : GrantApplicationUpdate}
    (h : grantBody env faults request application t = .ok u t') :
    ∃ addressed address assessed certified emailed lettered,
      CreateCertificateContext.clientAddress application.client
          (env.officeAddress application.provider.officeId) = .ok addressed
        ∧ addressed.1 = some address
        ∧ (decisionEvent env application [("merits_decision", .text "Granted")]).WrittenAs env assessed
        ∧ (certificateEvent env application).WrittenAs env certified
        ∧ (CreateClaim.emailEvent .applicationGrantedEmail application).WrittenAs env emailed
        ∧ (CreateClaim.systemEvent .applicationGrantedLetter application
            [("recipient", dumpAddress address), ("channel", .text NotificationType.letter.value)]).WrittenAs
              env lettered
        ∧ t'.store.historyEvents = t.store.historyEvents ++ [assessed, certified, emailed, lettered] := by
  obtain ⟨_, t₁, hrecord, hsend⟩ := bind_ok.mp h
  simp only [sendGrant, bind_ok, populateCertificateContext_ok, sendGrantEmail_ok, sendGrantLetter_ok,
    Tx.check_ok, letterEvent_ok] at hsend
  obtain ⟨context, _, ⟨-, -, addressed, haddressed, hcertificate, hloaded⟩, _, _, ⟨-, -, hmailed⟩,
    _, _, hcertified, _, _, hemailed, _, _, ⟨-, -, hprinted⟩, event, _, ⟨⟨address, haddress, rfl⟩, rfl⟩,
    hlettered⟩ := hsend
  have hsame : addressed.1 = some address := (certificate_address hcertificate).symm.trans haddress
  obtain ⟨assessed, hassessed, hfirst⟩ := recordDecision_appends hrecord
  obtain ⟨certified, hcertifies, hsecond⟩ := createHistoryEvent_appends hcertified
  obtain ⟨emailed, hemails, hthird⟩ := createHistoryEvent_appends hemailed
  obtain ⟨lettered, hletters, hfourth⟩ := createHistoryEvent_appends hlettered
  refine ⟨addressed, address, assessed, certified, emailed, lettered, haddressed, hsame, hassessed,
    hcertifies, hemails, hletters, ?_⟩
  rw [hfourth.rows, hprinted, hthird.rows, hsecond.rows, hmailed, hloaded]
  change ((t₁.store.historyEvents ++ [certified]) ++ [emailed]) ++ [lettered] = _
  rw [hfirst.rows]
  simp only [List.append_assoc]
  rfl

/-- What a transaction makes of an application that it leaves behind: what its new events tell, or a new
application as its request has it. -/
inductive Continues (env : Env) (request : CaseRequest) (s : Store) (rows : List HistoryEvent)
    (a : Application) : Prop
  | retold (a₀ : Application) (hmem : a₀ ∈ s.applications) (hid : a₀.applicationId = a.applicationId)
      (h : Retells a₀.told (rows.filter (isAbout a.applicationId)) a.told)
  | submitted {body : ApplicationCreate} {firmCode : String} {userOfficeCodes : List String}
      {publicBodies : List PublicBodyId} {source : AddressSource}
      (hrequest : request = .createApplication body firmCode userOfficeCodes)
      (hbodies : body.publicBodies.mapM parsePublicBodyId = .ok publicBodies)
      (hsource : AddressSource.ofValue body.client.correspondenceAddressSource = some source)
      (hrow : a = applicationRow body firmCode publicBodies source a.laaReference
        (env.now .createApplication) a.applicationId)
      (hid : a.applicationId ∉ applicationIds s)
      (h : Retells a.told (rows.filter (isAbout a.applicationId)) a.told)

variable {request : CaseRequest} {s s' : Store} {rows : List HistoryEvent} {a : Application}

theorem Continues.of_same (hrows : ∀ row ∈ rows, row.eventReference ∉ retellingReferences)
    (hsame : s'.applications = s.applications) : ∀ a ∈ s'.applications, Continues env request s rows a :=
  fun a ha => .retold a (hsame ▸ ha) rfl (retells_of_other _ hrows)

theorem filter_isAbout {applicationId : ℕ} (h : ∀ row ∈ rows, row.applicationId = applicationId) :
    rows.filter (isAbout applicationId) = rows := by
  apply List.filter_eq_self.mpr
  intro row hrow
  simp [isAbout, h row hrow]

theorem filter_isAbout_of_ne {applicationId other : ℕ} (h : ∀ row ∈ rows, row.applicationId = applicationId)
    (hne : other ≠ applicationId) : rows.filter (isAbout other) = [] := by
  apply List.filter_eq_nil_iff.mpr
  intro row hrow hother
  exact hne ((of_decide_eq_true hother).symm.trans (h row hrow))

/-- One application is written, and the events are about it. -/
theorem Continues.of_update {f : Application → Application}
    (hkeys : (s.applications.map (·.applicationId)).Nodup) (hmem : application ∈ s.applications)
    (ha : a ∈ (s.updateApplication application.applicationId f).applications)
    (hrows : ∀ row ∈ rows, row.applicationId = application.applicationId)
    (hid : (f application).applicationId = application.applicationId)
    (h : Retells application.told rows (f application).told) : Continues env request s rows a := by
  rcases mem_updateApplication ha with ⟨hold, hother⟩ | ⟨b, hb, hkey, rfl⟩
  · refine .retold a hold rfl ?_
    rw [filter_isAbout_of_ne hrows hother]
    exact .nil _
  · obtain rfl : b = application := List.inj_on_of_nodup_map hkeys hb hmem hkey
    refine .retold b hb hid.symm ?_
    rw [hid, filter_isAbout hrows]
    exact h

theorem eventKinds_untelling (h : request.decidesApplication = false)
    (hbodies : ∀ laaReference publicBodyIds, request ≠ .updatePublicBodies laaReference publicBodyIds) :
    ∀ kind ∈ eventKinds request, kind.1 ∉ retellingReferences := by
  cases request with
  | grant laaReference r => cases h
  | refuse laaReference r => cases h
  | updatePublicBodies laaReference publicBodyIds => exact absurd rfl (hbodies laaReference publicBodyIds)
  | claim r =>
      cases r <;>
        · simp only [eventKinds]
          decide
  | _ =>
      simp only [eventKinds]
      decide

theorem retoldDecision_refused {data : EventData} {proceeding : ApplicationProceeding}
    (h : textAt data "merits_decision" = some "Refused") :
    retoldDecision data proceeding
      = { proceeding with
          meritsDecision := .refused
          reasonForRefusal := textAt data "refusal_reason"
          justification := textAt data "refusal_justification" } := by
  unfold retoldDecision
  rw [h]
  exact if_neg (by decide)

/-- A grant is told by its first event and its last. -/
theorem retells_granted {request : GrantApplicationUpdate} {client : Client} {address : Address}
    {assessment certified emailed letter : HistoryEvent}
    (hassessed : (decisionEvent env application [("merits_decision", .text "Granted")]).WrittenAs env assessment)
    (hcertified : (GrantDecisionUseCase.certificateEvent env application).WrittenAs env certified)
    (hemailed : (CreateClaim.emailEvent .applicationGrantedEmail application).WrittenAs env emailed)
    (hlettered : (CreateClaim.systemEvent .applicationGrantedLetter application
      [("recipient", GrantDecisionUseCase.dumpAddress address),
        ("channel", .text NotificationType.letter.value)]).WrittenAs env letter)
    (hclient : client = application.client.setStoredAddress address) :
    Retells application.told [assessment, certified, emailed, letter]
      { application with
        proceeding := GrantDecisionUseCase.grantedProceeding env request application.proceeding
        client := client }.told := by
  obtain ⟨_, _, -, rfl⟩ := hassessed
  obtain ⟨_, _, -, rfl⟩ := hcertified
  obtain ⟨_, _, -, rfl⟩ := hemailed
  obtain ⟨_, _, -, rfl⟩ := hlettered
  refine .cons nofun (.cons nofun (.cons nofun (.single nofun ?_)))
  have hdecision : ∀ proceeding, retoldDecision [("merits_decision", .text "Granted")] proceeding
      = { proceeding with meritsDecision := .granted, reasonForRefusal := none, justification := none } :=
    fun _ => if_pos rfl
  have haddress : lettered [("recipient", GrantDecisionUseCase.dumpAddress address),
      ("channel", .text NotificationType.letter.value)] application.client = client := by
    unfold lettered
    rw [addressAt_dumpAddress rfl]
    exact hclient.symm
  simp only [retold, NewEvent.row, decisionEvent, GrantDecisionUseCase.certificateEvent,
    CreateClaim.emailEvent, CreateClaim.systemEvent, hdecision]
  rw [← haddress]
  rfl

theorem retells_refused {request : RefuseApplicationUpdate} {assessment emailed : HistoryEvent}
    {refused : Application}
    (hassessed : (decisionEvent env application [("merits_decision", .text "Refused"),
      ("refusal_reason", .text request.reasonForRefusal.value),
      ("refusal_justification", .text request.justification)]).WrittenAs env assessment)
    (hemailed : (CreateClaim.emailEvent .applicationRefused refused).WrittenAs env emailed) :
    Retells application.told [assessment, emailed]
      { application with
        proceeding := RefuseDecisionUseCase.refusedProceeding request application.proceeding }.told := by
  obtain ⟨_, _, -, rfl⟩ := hassessed
  obtain ⟨_, _, -, rfl⟩ := hemailed
  refine .cons nofun (.single nofun ?_)
  simp only [retold, NewEvent.row, decisionEvent, CreateClaim.emailEvent, CreateClaim.systemEvent]
  rw [retoldDecision_refused rfl]
  rfl

theorem retells_publicBodies {publicBodyIds : List PublicBodyId} {updated : HistoryEvent}
    (hupdated : (UpdatePublicBodiesUseCase.updatedEvent env publicBodyIds application).WrittenAs env updated) :
    Retells application.told [updated]
      { application with publicBodies := publicBodyIds.map PublicBodyId.publicBody }.told := by
  obtain ⟨_, _, -, rfl⟩ := hupdated
  have hlisted : listed (UpdatePublicBodiesUseCase.updatedEvent env publicBodyIds application).eventData
      "new_public_bodies" = publicBodyIds.map (·.publicBody) :=
    congrArg (List.map PublicBodyId.publicBody) (filterMap_ofValue publicBodyIds)
  refine .single (fun _ => rfl) ?_
  simp only [retold, NewEvent.row, hlisted]
  rfl

theorem Performs.continues (h : Performs env faults request s s')
    (hkeys : (s.applications.map (·.applicationId)).Nodup) :
    ∃ rows, s'.historyEvents = s.historyEvents ++ rows
      ∧ ∀ a ∈ s'.applications, Continues env request s rows a := by
  have hhistory := ignoresDecisions_applications.toIgnoresHistory
  obtain ⟨rows, hgrows, hrecorded⟩ := h.rows
  have hother : request.decidesApplication = false →
      (∀ laaReference publicBodyIds, request ≠ .updatePublicBodies laaReference publicBodyIds) →
      ∀ row ∈ rows, row.eventReference ∉ retellingReferences :=
    fun hrequest hbodies row hrow => eventKinds_untelling hrequest hbodies _ (hrecorded row hrow).kind
  have hsame : request.decidesApplication = false →
      (∀ laaReference publicBodyIds, request ≠ .updatePublicBodies laaReference publicBodyIds) →
      s'.applications = s.applications → ∃ rows, s'.historyEvents = s.historyEvents ++ rows
        ∧ ∀ a ∈ s'.applications, Continues env request s rows a :=
    fun hrequest hbodies happlications =>
      ⟨rows, hgrows, Continues.of_same (hother hrequest hbodies) happlications⟩
  cases h with
  | @grant _ body application _ _ _ hfound h =>
      obtain ⟨addressed, address, _, _, _, _, haddressed, haddress, hassessed, hcertified, hemailed,
        hlettered, hgrown⟩ := grantBody_lettered h
      obtain ⟨-, addressed', haddressed', happlications⟩ := GrantDecisionUseCase.grantBody_ok h
      obtain rfl : addressed = addressed' := Except.ok.inj (haddressed.symm.trans haddressed')
      have hclient := clientAddress_sets haddressed haddress
      refine ⟨_, hgrown, ?_⟩
      intro a ha
      rw [happlications] at ha
      replace ha := mem_updateApplication_twice ha fun _ => rfl
      refine Continues.of_update hkeys (findDecidedApplication_mem hfound) ha ?_ rfl
        (retells_granted hassessed hcertified hemailed hlettered hclient)
      obtain ⟨_, _, -, rfl⟩ := hassessed
      obtain ⟨_, _, -, rfl⟩ := hcertified
      obtain ⟨_, _, -, rfl⟩ := hemailed
      obtain ⟨_, _, -, rfl⟩ := hlettered
      exact List.forall_mem_cons.mpr ⟨rfl, List.forall_mem_cons.mpr ⟨rfl,
        List.forall_mem_cons.mpr ⟨rfl, List.forall_mem_singleton.mpr rfl⟩⟩⟩
  | @refusal _ body application _ _ _ hfound h =>
      obtain ⟨_, assessment, emailed, rfl, hassessed, hemailed, happends⟩ := refuseBody_appends h
      refine ⟨_, happends.rows, ?_⟩
      intro a ha
      rw [refuseBody_ok h] at ha
      refine Continues.of_update hkeys (findDecidedApplication_mem hfound) ha ?_ rfl
        (retells_refused hassessed hemailed)
      obtain ⟨_, _, -, rfl⟩ := hassessed
      obtain ⟨_, _, -, rfl⟩ := hemailed
      exact List.forall_mem_cons.mpr ⟨rfl, List.forall_mem_singleton.mpr rfl⟩
  | publicBodies hchecked h =>
      obtain ⟨updated, hupdated, happends⟩ := updatePublicBodies_appends h
      have hmem := findDecidedApplication_mem (UpdatePublicBodiesUseCase.checkUpdate_ok.mp hchecked).1
      obtain ⟨_, -, -, -, rfl⟩ := UpdatePublicBodiesUseCase.updatePublicBodies_ok.mp h
      refine ⟨_, happends.rows, ?_⟩
      intro a ha
      refine Continues.of_update hkeys hmem ha ?_ rfl (retells_publicBodies hupdated)
      obtain ⟨_, _, -, rfl⟩ := hupdated
      exact List.forall_mem_singleton.mpr rfl
  | creation h =>
      refine ⟨rows, hgrows, ?_⟩
      have hrows := hother rfl nofun
      intro a ha
      rw [createBody_applications h] at ha
      rcases List.mem_append.mp ha with hold | hnew
      · exact .retold a hold rfl (retells_of_other _ hrows)
      · obtain ⟨t₁, u, hcreate, -⟩ := createBody_ok.mp h
        obtain ⟨_, _, _, hbodies, hsource, -, -, hrow, -⟩ := createApplication_ok.mp hcreate
        rw [List.mem_singleton.mp hnew]
        have hid : _ = nextKey _ := congrArg Application.applicationId hrow
        refine .submitted rfl hbodies hsource ?_ ?_ (retells_of_other _ hrows)
        · rw [hrow]
          rfl
        · rw [hid]
          exact nextKey_notMem _
  | note _ h => exact hsame rfl nofun (createHistoryEvent_keeps _ _ hhistory _ _ _ _ h)
  | submission _ h => exact hsame rfl nofun (submitClaim_keeps _ _ _ ignoresClaims_applications _ _ _ _ h)
  | confirmation _ h => exact hsame rfl nofun (confirmSubmission_keeps _ _ _ _ hhistory _ _ _ h)
  | autoRejection _ _ h =>
      exact hsame rfl nofun (autoRejectClaim_keeps _ _ _ _ ignoresDecisions_applications _ _ _ _ h)
  | autoApproval _ _ h =>
      exact hsame rfl nofun (autoApproveClaim_keeps _ _ _ _ ignoresDecisions_applications _ _ _ h)
  | payment _ h => exact hsame rfl nofun (payClaim_keeps _ _ ignoresDecisions_applications _ _ _ _ _ h)
  | rejection _ h => exact hsame rfl nofun (rejectClaim_keeps _ _ ignoresDecisions_applications _ _ _ _ _ h)
  | approvedEmail _ h => exact hsame rfl nofun (sendApprovedEmail_keeps _ _ _ hhistory _ _ _ _ h)

end Steps

/-- The row that a request of the run was stored as, for the firm of its token. -/
inductive SubmittedAs (allowedScopes : String) (steps : List SecuredStep) (row : Application) : Prop
  | intro {r : HttpRequest} {body : ApplicationCreate} {firmCode : String}
      {publicBodies : List PublicBodyId} {source : AddressSource} (hmem : .http r ∈ steps)
      (hbody : r.body = .createApplication body)
      (hfirm : getCurrentProviderFirmCode allowedScopes r.credentials = .ok firmCode)
      (hbodies : body.publicBodies.mapM parsePublicBodyId = .ok publicBodies)
      (hsource : AddressSource.ofValue body.client.correspondenceAddressSource = some source)
      (hrow : row = applicationRow body firmCode publicBodies source row.laaReference
        (r.env.now .createApplication) row.applicationId) :
      SubmittedAs allowedScopes steps row

/-- The events about the application lead from what was submitted to what is stored. -/
def RetoldFrom (allowedScopes : String) (steps : List SecuredStep) (s : Store) (a : Application) : Prop :=
  ∃ submitted, SubmittedAs allowedScopes steps submitted
    ∧ Retells submitted (s.historyEvents.filter (isAbout a.applicationId)) a.told

structure ApplicationsRetold (allowedScopes : String) (steps : List SecuredStep) (s : Store) : Prop extends
    JoinedCases s where
  retold : ∀ a ∈ s.applications, RetoldFrom allowedScopes steps s a

section Runs

variable {allowedScopes : String} {steps : List SecuredStep} {evidence : List ClaimEvidence} {s s' : Store}

theorem JoinedCases.filter_isAbout_of_new {applicationId : ℕ} (hs : JoinedCases s)
    (h : applicationId ∉ applicationIds s) : s.historyEvents.filter (isAbout applicationId) = [] := by
  apply List.filter_eq_nil_iff.mpr
  intro event hevent habout
  exact h (of_decide_eq_true habout ▸ (hs.recorded.events event hevent).application)

theorem HttpRequest.submission_now {r : HttpRequest} {submission : CaseSubmission}
    (h : r.submission allowedScopes = .ok submission) : submission.env.now = r.env.now := by
  simp only [HttpRequest.submission, except_bind_ok, except_pure_ok] at h
  obtain ⟨user, -, request, -, rfl⟩ := h
  rfl

/-- A creation comes from a request of the run. -/
def Files (allowedScopes : String) (steps : List SecuredStep) (env : Env) (request : CaseRequest) : Prop :=
  ∀ body firmCode userOfficeCodes, request = .createApplication body firmCode userOfficeCodes →
    ∃ r, .http r ∈ steps ∧ r.body = .createApplication body
      ∧ getCurrentProviderFirmCode allowedScopes r.credentials = .ok firmCode ∧ env.now = r.env.now

theorem ApplicationsRetold.step {env : Env} {faults : Faults} {request : CaseRequest}
    (hs : ApplicationsRetold allowedScopes steps s) (hfiles : Files allowedScopes steps env request)
    (h : Performs env faults request s s') : ApplicationsRetold allowedScopes steps s' := by
  obtain ⟨rows, hgrows, hcontinues⟩ := h.continues hs.keyed.keys
  refine ⟨hs.toJoinedCases.step h.anyCase, ?_⟩
  intro a ha
  unfold RetoldFrom
  rw [hgrows]
  cases hcontinues a ha with
  | retold a₀ hold hid h =>
      obtain ⟨submitted, hsubmitted, hbefore⟩ := hs.retold a₀ hold
      rw [hid] at hbefore
      exact ⟨submitted, hsubmitted, hbefore.grow h⟩
  | submitted hrequest hbodies hsource hrow hid h =>
      obtain ⟨r, hmem, hbody, hfirm, hnow⟩ := hfiles _ _ _ hrequest
      rw [hnow] at hrow
      have htold : a.told = a := by
        rw [hrow]
        rfl
      refine ⟨a, .intro hmem hbody hfirm hbodies hsource hrow, ?_⟩
      rw [List.filter_append, hs.filter_isAbout_of_new hid, List.nil_append]
      rw [htold] at h ⊢
      exact h

theorem HttpRequest.files {r : HttpRequest} {submission : CaseSubmission} (hmem : .http r ∈ steps)
    (h : r.submission allowedScopes = .ok submission) :
    Files allowedScopes steps submission.env submission.request := by
  intro body firmCode userOfficeCodes hrequest
  obtain ⟨user, -, -, hasked, -⟩ := r.submission_ok h
  rw [hrequest] at hasked
  obtain ⟨hbody, hfirm, -⟩ := r.caseRequest_creates hasked
  exact ⟨r, hmem, hbody, hfirm, r.submission_now h⟩

theorem committedBy_applicationsRetold
    (hs : s ∈ committedBy allowedScopes steps (.initial [] evidence [])) :
    ApplicationsRetold allowedScopes steps s := by
  have hinitial : ApplicationsRetold allowedScopes steps (.initial [] evidence []) :=
    ⟨(claimsAccounted_initial evidence).toJoinedCases, fun _ hnone => absurd hnone List.not_mem_nil⟩
  refine committedBy_invariant hinitial ?_ s hs
  intro step hmem submission hsubmission s s' hperforms hs
  cases step with
  | http r => exact hs.step (r.files hmem hsubmission) hperforms
  | sendApprovedEmails env faults now =>
      cases hsubmission
      refine hs.step ?_ hperforms
      intro _ _ _ hrequest
      cases hrequest

/-- **The history tells the application.** In every database that a run from an empty one commits, whatever
its requests and whatever fails: each application is the row that a request of the run was stored as, for
the firm of its token, with the events about it played over it in turn; but for the dates of its
certificate nothing else has changed it, and each update of its public bodies names those it replaced. -/
theorem applications_retold (allowedScopes : String) (steps : List SecuredStep)
    (evidence : List ClaimEvidence) :
    ∀ s ∈ committedBy allowedScopes steps (.initial [] evidence []), ∀ a ∈ s.applications,
      RetoldFrom allowedScopes steps s a :=
  fun _ hs a ha => (committedBy_applicationsRetold hs).retold a ha

end Runs

/-- An application that is granted, and so told by four events after its submission. -/
theorem applications_retold_granted :
    ∃ s ∈ committedBy Sample.scopes Sample.securedSteps (.initial [] [] []), ∃ a ∈ s.applications,
      a.proceeding.meritsDecision = .granted ∧ RetoldFrom Sample.scopes Sample.securedSteps s a := by
  have happlications : ((committedBy Sample.scopes Sample.securedSteps (.initial [] [] [])).any fun s =>
      s.applications.any fun a => a.proceeding.meritsDecision = .granted) = true := by
    decide +kernel
  obtain ⟨s, hs, happlication⟩ := List.any_eq_true.mp happlications
  obtain ⟨a, ha, hgranted⟩ := List.any_eq_true.mp happlication
  exact ⟨s, hs, a, ha, of_decide_eq_true hgranted,
    applications_retold Sample.scopes Sample.securedSteps [] s hs a ha⟩

end InquestsApi
