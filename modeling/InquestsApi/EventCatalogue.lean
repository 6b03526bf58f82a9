import InquestsApi.ClaimModels

/-! `audit_event_catalogue`: the title and the description that a report shows of an event,
built from the event's untyped data. -/
namespace InquestsApi

/-- `str` of a value of the event data: of a text, the text itself. -/
structure Printing where
  str : Json → String
  str_text : ∀ text, str (.text text) = text

abbrev EventData := List (String × Json)

inductive AuditEventReference where
  | applicationViewed
  | certificateViewed
  | reportDownloaded
  deriving DecidableEq, Repr

def AuditEventReference.value : AuditEventReference → String
  | applicationViewed => "EVT-AUD-001"
  | certificateViewed => "EVT-AUD-002"
  | reportDownloaded => "EVT-AUD-003"

def HistoryEventReference.value : HistoryEventReference → String
  | caseNoteAdded => "EVT-BUS-X-001"
  | applicationSubmitted => "EVT-BUS-APP-001"
  | applicationAssessmentCompleted => "EVT-BUS-APP-002"
  | certificateCreated => "EVT-BUS-APP-003"
  | interestedPartyUpdated => "EVT-BUS-APP-004"
  | claimSubmitted => "EVT-BUS-CLM-001"
  | claimAssessmentCompleted => "EVT-BUS-CLM-002"
  | poaAutoApproved => "EVT-BUS-CLM-003"
  | poaAutoRejected => "EVT-BUS-CLM-004"
  | applicationSubmissionConfirmation => "EVT-COM-APP-001"
  | applicationGrantedEmail => "EVT-COM-APP-002"
  | applicationGrantedLetter => "EVT-COM-APP-003"
  | applicationRefused => "EVT-COM-APP-004"
  | claimSubmissionConfirmation => "EVT-COM-CLM-001"
  | claimApprovedEmail => "EVT-COM-CLM-002"
  | claimRejectedEmail => "EVT-COM-CLM-003"

inductive EventDescriptionError where
  | unknownEventReference (eventReference message : String)
  | invalidEventData (eventReference message : String)
  deriving DecidableEq, Repr

structure EventDescription where
  title : String
  description : String
  deriving DecidableEq, Repr

/-- A builder fails with the key that it does not find. -/
abbrev DescriptionBuilder := EventData → Except String String

/-- `value.replace("_", " ").lower().capitalize()`, exact on ASCII text. -/
def formatEnum (value : String) : String := capitalize (asciiLower (spaceOut value))

section Builders

variable (printing : Printing)

def textOf (eventData : EventData) (key : String) : Except String String :=
  match eventData.lookup key with
  | some value => .ok (printing.str value)
  | none => .error key

def joinValues (eventData : EventData) (key : String) : Except String String :=
  match eventData.lookup key with
  | some (.texts items) => .ok (", ".intercalate items)
  | some value => .ok (printing.str value)
  | none => .error key

def applicationAssessment : DescriptionBuilder := fun eventData => do
  let decision := asciiLower (← textOf printing eventData "merits_decision")
  let heading := "Application " ++ decision
  if decision ≠ "refused" then pure heading
  else
    let reason := formatEnum (← textOf printing eventData "refusal_reason")
    let justification ← textOf printing eventData "refusal_justification"
    pure (heading ++ "\n" ++ reason ++ "\n" ++ justification)

/-- The justification that is shown of a rejection: one that is a text and not blank. -/
def shownJustification (eventData : EventData) : Option String :=
  match eventData.lookup "decision_justification" with
  | some (.text justification) => if isBlank justification then none else some justification
  | _ => none

def claimAssessment : DescriptionBuilder := fun eventData => do
  let claimType := formatEnum (← textOf printing eventData "claim_type")
  let decision := asciiLower (formatEnum (← textOf printing eventData "claim_decision"))
  match shownJustification eventData with
  | some justification =>
    if decision = "rejected" then
      pure (claimType ++ " claim " ++ decision ++ "\n" ++ justification)
    else
      let claimReference ← textOf printing eventData "claim_reference"
      pure (claimType ++ " claim " ++ decision ++ ": " ++ claimReference)
  | none =>
    let claimReference ← textOf printing eventData "claim_reference"
    pure (claimType ++ " claim " ++ decision ++ ": " ++ claimReference)

def interestedParties : DescriptionBuilder := fun eventData => do
  let old ← joinValues printing eventData "old_public_bodies"
  let new ← joinValues printing eventData "new_public_bodies"
  pure ("Interested parties updated from " ++ old ++ " to " ++ new)

def claimReceived : DescriptionBuilder := fun eventData => do
  let claimType := formatEnum (← textOf printing eventData "claim_type")
  let claimReference ← textOf printing eventData "claim_reference"
  pure (claimType ++ " claim received: " ++ claimReference)

/-- A description that is one value of the event data between two texts. -/
def aroundText (before key after : String) : DescriptionBuilder := fun eventData => do
  let text ← textOf printing eventData key
  pure (before ++ text ++ after)

def dynamicEvents : List (String × String × DescriptionBuilder) :=
  [("EVT-BUS-X-001", "Case note added", aroundText printing "Caseworker note added\n" "note_text" ""),
    ("EVT-BUS-APP-002", "Application assessment complete", applicationAssessment printing),
    ("EVT-BUS-APP-004", "Interested party updated", interestedParties printing),
    ("EVT-BUS-CLM-001", "Claim submitted", claimReceived printing),
    ("EVT-BUS-CLM-002", "Claim assessment complete", claimAssessment printing),
    ("EVT-BUS-CLM-003", "POA auto-approved",
      aroundText printing "POA claim " "claim_reference" " auto-approved"),
    ("EVT-BUS-CLM-004", "POA auto-rejected",
      aroundText printing "POA claim " "claim_reference" " auto-rejected"),
    (AuditEventReference.reportDownloaded.value, "Report downloaded",
      aroundText printing "" "report_name" " downloaded")]

def staticEvents : List (String × EventDescription) :=
  [("EVT-BUS-APP-001", ⟨"Application submitted", "Application received"⟩),
    ("EVT-BUS-APP-003", ⟨"Certificate created", "Certificate created"⟩),
    ("EVT-COM-APP-001",
      ⟨"Application submission confirmation", "Application submission confirmation sent"⟩),
    ("EVT-COM-APP-002", ⟨"Application granted (Email)", "Application granted email sent"⟩),
    ("EVT-COM-APP-003", ⟨"Application granted (Letter)", "Application granted letter sent"⟩),
    ("EVT-COM-APP-004", ⟨"Application refused", "Application refused email sent"⟩),
    ("EVT-COM-CLM-001", ⟨"Claim submission confirmation", "Claim submission confirmation sent"⟩),
    ("EVT-COM-CLM-002", ⟨"Claim approved", "Claim approved email sent"⟩),
    ("EVT-COM-CLM-003", ⟨"Claim Rejected", "Claim rejection email sent"⟩),
    (AuditEventReference.applicationViewed.value, ⟨"Application viewed", "Application viewed"⟩),
    (AuditEventReference.certificateViewed.value, ⟨"Certificate viewed", "Certificate viewed"⟩)]

def describeEvent (eventReference : String) (eventData : EventData) :
    Except EventDescriptionError EventDescription :=
  match (dynamicEvents printing).lookup eventReference with
  | some (title, buildDescription) =>
    match buildDescription eventData with
    | .ok description => .ok ⟨title, description⟩
    | .error key => .error (.invalidEventData eventReference
        ("Event " ++ eventReference ++ " is missing event data '" ++ key ++ "'"))
  | none =>
    match staticEvents.lookup eventReference with
    | some description => .ok description
    | none => .error (.unknownEventReference eventReference
        ("Unknown event reference " ++ eventReference))

end Builders

section Descriptions

variable {printing : Printing} {data : EventData}

/-- The event data that the description of an event is built from. -/
def describedKeys (printing : Printing) (data : EventData) : HistoryEventReference → List String
  | .caseNoteAdded => ["note_text"]
  | .applicationAssessmentCompleted => "merits_decision" ::
      if (data.lookup "merits_decision").map (asciiLower ∘ printing.str) = some "refused" then
        ["refusal_reason", "refusal_justification"] else []
  | .interestedPartyUpdated => ["old_public_bodies", "new_public_bodies"]
  | .claimSubmitted => ["claim_type", "claim_reference"]
  | .claimAssessmentCompleted => ["claim_type", "claim_decision"] ++
      if (shownJustification data).isSome ∧ (data.lookup "claim_decision").map
          (asciiLower ∘ formatEnum ∘ printing.str) = some "rejected" then [] else ["claim_reference"]
  | .poaAutoApproved => ["claim_reference"]
  | .poaAutoRejected => ["claim_reference"]
  | _ => []

theorem textOf_ok {key text : String} :
    textOf printing data key = .ok text ↔ ∃ value, data.lookup key = some value
      ∧ printing.str value = text := by
  unfold textOf
  cases data.lookup key <;> simp

theorem joinValues_goes (printing : Printing) {key : String} :
    (∃ text, joinValues printing data key = .ok text) ↔ (data.lookup key).isSome := by
  unfold joinValues
  cases data.lookup key with
  | none => simp
  | some value => cases value <;> simp

theorem aroundText_goes {before key after : String} :
    (∃ text, aroundText printing before key after data = .ok text) ↔ (data.lookup key).isSome := by
  simp only [aroundText, except_bind_ok, except_pure_ok, textOf_ok, Option.isSome_iff_exists]
  constructor
  · rintro ⟨_, _, ⟨value, hvalue, -⟩, -⟩
    exact ⟨value, hvalue⟩
  · rintro ⟨value, hvalue⟩
    exact ⟨_, _, ⟨value, hvalue, rfl⟩, rfl⟩

theorem applicationAssessment_goes :
    (∃ text, applicationAssessment printing data = .ok text) ↔
      ∀ key ∈ describedKeys printing data .applicationAssessmentCompleted, (data.lookup key).isSome := by
  cases hdecision : data.lookup "merits_decision" with
  | none => simp [-List.lookup_isSome_iff, applicationAssessment, textOf, describedKeys, hdecision]
  | some value =>
      by_cases hrefused : asciiLower (printing.str value) = "refused"
      · cases hreason : data.lookup "refusal_reason" <;>
          cases hjustification : data.lookup "refusal_justification" <;>
          simp [-List.lookup_isSome_iff, applicationAssessment, textOf, describedKeys, hdecision,
            hrefused, hreason, hjustification]
      · simp [-List.lookup_isSome_iff, applicationAssessment, textOf, describedKeys, hdecision, hrefused]

theorem claimAssessment_goes :
    (∃ text, claimAssessment printing data = .ok text) ↔
      ∀ key ∈ describedKeys printing data .claimAssessmentCompleted, (data.lookup key).isSome := by
  cases htype : data.lookup "claim_type" with
  | none => simp [-List.lookup_isSome_iff, claimAssessment, textOf, describedKeys, htype]
  | some claimType =>
    cases hdecision : data.lookup "claim_decision" with
    | none => simp [-List.lookup_isSome_iff, claimAssessment, textOf, describedKeys, htype, hdecision]
    | some decision =>
      by_cases hrejected : asciiLower (formatEnum (printing.str decision)) = "rejected"
      · cases hshown : shownJustification data <;>
          cases hreference : data.lookup "claim_reference" <;>
          simp [-List.lookup_isSome_iff, claimAssessment, textOf, describedKeys, htype, hdecision,
            hrejected, hshown, hreference]
      · cases hshown : shownJustification data <;>
          cases hreference : data.lookup "claim_reference" <;>
          simp [-List.lookup_isSome_iff, claimAssessment, textOf, describedKeys, htype, hdecision,
            hrejected, hshown, hreference]

theorem interestedParties_goes :
    (∃ text, interestedParties printing data = .ok text) ↔
      ∀ key ∈ describedKeys printing data .interestedPartyUpdated, (data.lookup key).isSome := by
  simp only [describedKeys, List.forall_mem_cons, List.not_mem_nil, IsEmpty.forall_iff, implies_true,
    and_true]
  rw [← joinValues_goes printing, ← joinValues_goes printing]
  simp only [interestedParties, except_bind_ok, except_pure_ok]
  constructor
  · rintro ⟨_, old, hold, new, hnew, -⟩
    exact ⟨⟨old, hold⟩, ⟨new, hnew⟩⟩
  · rintro ⟨⟨old, hold⟩, ⟨new, hnew⟩⟩
    exact ⟨_, old, hold, new, hnew, rfl⟩

theorem claimReceived_goes :
    (∃ text, claimReceived printing data = .ok text) ↔
      ∀ key ∈ describedKeys printing data .claimSubmitted, (data.lookup key).isSome := by
  simp only [describedKeys, List.forall_mem_cons, List.not_mem_nil, IsEmpty.forall_iff, implies_true,
    and_true, claimReceived, except_bind_ok, except_pure_ok, textOf_ok, Option.isSome_iff_exists]
  constructor
  · rintro ⟨_, _, ⟨claimType, htype, -⟩, _, ⟨reference, hreference, -⟩, -⟩
    exact ⟨⟨claimType, htype⟩, ⟨reference, hreference⟩⟩
  · rintro ⟨⟨claimType, htype⟩, ⟨reference, hreference⟩⟩
    exact ⟨_, _, ⟨claimType, htype, rfl⟩, _, ⟨reference, hreference, rfl⟩, rfl⟩

theorem describeEvent_dynamic {eventReference title : String} {build : DescriptionBuilder}
    (hlookup : (dynamicEvents printing).lookup eventReference = some (title, build)) :
    (∃ description, describeEvent printing eventReference data = .ok description) ↔
      ∃ text, build data = .ok text := by
  unfold describeEvent
  rw [hlookup]
  cases hbuild : build data <;> simp [hbuild]

/-- An event whose description does not depend on its data is always described. -/
theorem describeEvent_static {reference : HistoryEventReference} {description : EventDescription}
    (hdynamic : (dynamicEvents printing).lookup reference.value = none)
    (hstatic : staticEvents.lookup reference.value = some description)
    (hkeys : describedKeys printing data reference = []) :
    (∃ description, describeEvent printing reference.value data = .ok description) ↔
      ∀ key ∈ describedKeys printing data reference, (data.lookup key).isSome := by
  unfold describeEvent
  rw [hdynamic, hstatic, hkeys]
  exact iff_of_true ⟨description, rfl⟩ fun _ h => absurd h List.not_mem_nil

/-- An event of the history is described exactly where its data has what is described. -/
theorem describeEvent_goes {reference : HistoryEventReference} :
    (∃ description, describeEvent printing reference.value data = .ok description) ↔
      ∀ key ∈ describedKeys printing data reference, (data.lookup key).isSome := by
  cases reference with
  | caseNoteAdded =>
      rw [describeEvent_dynamic rfl, aroundText_goes]
      simp [describedKeys]
  | applicationAssessmentCompleted =>
      rw [describeEvent_dynamic rfl, applicationAssessment_goes]
  | interestedPartyUpdated => rw [describeEvent_dynamic rfl, interestedParties_goes]
  | claimSubmitted => rw [describeEvent_dynamic rfl, claimReceived_goes]
  | claimAssessmentCompleted => rw [describeEvent_dynamic rfl, claimAssessment_goes]
  | poaAutoApproved =>
      rw [describeEvent_dynamic rfl, aroundText_goes]
      simp [describedKeys]
  | poaAutoRejected =>
      rw [describeEvent_dynamic rfl, aroundText_goes]
      simp [describedKeys]
  | applicationSubmitted => exact describeEvent_static rfl rfl rfl
  | certificateCreated => exact describeEvent_static rfl rfl rfl
  | applicationSubmissionConfirmation => exact describeEvent_static rfl rfl rfl
  | applicationGrantedEmail => exact describeEvent_static rfl rfl rfl
  | applicationGrantedLetter => exact describeEvent_static rfl rfl rfl
  | applicationRefused => exact describeEvent_static rfl rfl rfl
  | claimSubmissionConfirmation => exact describeEvent_static rfl rfl rfl
  | claimApprovedEmail => exact describeEvent_static rfl rfl rfl
  | claimRejectedEmail => exact describeEvent_static rfl rfl rfl

end Descriptions

end InquestsApi
