import InquestsApi.CreateClaim

/-! `ApplicationCreate`, `ApplicationRepositoryAdapter.create_application` and
`CreateApplicationUseCase`: what a new application must say, the rows that it is stored as,
and the one transaction that stores it, compares it with the others and confirms it. -/
namespace InquestsApi

open UnitOfWork HistoryEventRepository

structure AddressCreate where
  addressLine1 : String
  addressLine2 : Option String
  townOrCity : String
  county : Option String
  postcode : String
  deriving DecidableEq, Repr

/-- The fields of a client in the body of a request. -/
structure ClientFields where
  clientFirstName : String
  clientLastName : String
  dateOfBirth : String
  correspondenceAddressSource : String
  correspondenceAddress : Option AddressCreate
  homeAddress : Option AddressCreate
  hasNoFixedAbode : Bool
  correspondenceRecipient : Option CorrespondenceRecipient
  deriving DecidableEq, Repr

/-- A client that the validators accept: the date of birth is a date, and a home address is given
unless there is none. -/
structure ClientCreate extends ClientFields where
  birthDate : (Date.fromIsoformat dateOfBirth).isSome
  fixedAbode : hasNoFixedAbode = homeAddress.isNone

def ClientFields.validateHomeAddressAgainstFixedAbode (client : ClientFields)
    (hdate : (Date.fromIsoformat client.dateOfBirth).isSome) : Except ApiError ClientCreate :=
  if h : client.hasNoFixedAbode = client.homeAddress.isNone then .ok ⟨client, hdate, h⟩
  else if client.hasNoFixedAbode then
    .error (.valueError "home_address must not be provided when has_no_fixed_abode is true")
  else .error (.valueError "home_address is required when has_no_fixed_abode is false")

/-- The validator of the date comes before that of the whole client. -/
def ClientFields.validateDateOfBirthFormat (client : ClientFields) : Except ApiError ClientCreate :=
  if hdate : (Date.fromIsoformat client.dateOfBirth).isSome then
    client.validateHomeAddressAgainstFixedAbode hdate
  else .error (.valueError "date_of_birth must be in YYYY-MM-DD format")

/-- The fields of the deceased in the body of a request. -/
structure DeceasedFields where
  deceasedFirstName : String
  deceasedLastName : String
  deceasedDateOfBirth : String
  deceasedDateOfDeath : String
  coronersReference : String
  deriving DecidableEq, Repr

/-- A deceased that the validators accept: both dates are dates. -/
structure DeceasedCreate extends DeceasedFields where
  dateOfBirth : (Date.fromIsoformat deceasedDateOfBirth).isSome
  dateOfDeath : (Date.fromIsoformat deceasedDateOfDeath).isSome

def DeceasedFields.validateDateFormat (deceased : DeceasedFields) : Except ApiError DeceasedCreate :=
  if h : (Date.fromIsoformat deceased.deceasedDateOfBirth).isSome
      ∧ (Date.fromIsoformat deceased.deceasedDateOfDeath).isSome then
    .ok ⟨deceased, h.1, h.2⟩
  else .error (.valueError "date must be in YYYY-MM-DD format")

structure ProviderCreate where
  officeId : String
  emailAddress : String
  deriving DecidableEq, Repr

structure ApplicationCreate where
  client : ClientCreate
  deceased : DeceasedCreate
  publicBodies : List String
  proceedingId : ProceedingId
  provider : ProviderCreate

section ReferenceData

def ProceedingId.proceedingName : ProceedingId → String
  | iq011 => "An individual has died in police custody"
  | iq012 => "An individual has died during police pursuit"
  | iq013 => "An individual has died following a police shooting"
  | iq014 => "An individual has died in prison"
  | iq015 => "An individual has died following release from custody / prison"
  | iq016 => "An individual has died in a young offender’s institution"
  | iq017 => "An individual has died in detention under the Mental Health Act 1983"
  | iq018 => "An individual has died during or following medical care or treatment"
  | iq019 => "An individual has died following failure, or alleged failure, to provide medical treatment"
  | iq020 => "An individual has died while receiving mental health care in the community"
  | iq021 => "An individual has died while receiving care in the community (non-mental health)"
  | iq022 => "An individual has died while in supported living"
  | iq023 => "An individual has died following failure, or alleged failure, to provide care services"
  | iq024 => "An individual has died from alleged safeguarding failures"
  | iq025 => "A child has died that was subject to a care or interim care order"
  | iq026 => "A child has died following from failure, or alleged failure, to take a child into care"
  | iq027 => "A child has died from alleged deliberate abuse of a child in care"
  | iq028 => "A child has died by alleged suicide"
  | iq029 => "A child has died that was subject to safeguarding concerns"
  | iq030 => "A child has died that was referred to social services"
  | iq031 => "A child has died with Special Educational Needs and Disabilities (SEND)"
  | iq032 => "An individual has died in an educational setting"
  | iq033 => "An individual has died from failures, or alleged failures, of an educational institution"
  | iq034 => "An individual has died in immigration detention"
  | iq035 => "An individual has died that was seeking asylum in the country"
  | iq036 => "An individual has died from alleged issues with the condition of housing"
  | iq037 => "An individual has died in connection with their lack of housing"
  | iq038 => "An individual has died following the termination of disability benefits"
  | iq039 => "An individual has died following alleged mental health issues while in the military"
  | iq040 => "An individual has died from a road traffic collision"
  | iq041 => "An individual has died in an incident involving public transport"
  | iq042 => "A family member has died (Other)"

/-- The rows that the migrations leave in the proceeding table. -/
def ProceedingId.proceeding (proceedingId : ProceedingId) : Proceeding where
  proceedingName := some proceedingId.proceedingName
  proceedingDescription := some proceedingId.proceedingName
  categoryOfLaw := some "INQUESTS"
  certificateType := some "SUBSTANTIVE"
  levelOfService := some "FULL_REPRESENTATION"
  matterType := some "INQUESTS"
  scopeLimitationHeading := some "FINAL_HEARING"
  scopeDescription := some "This is the scope description"
  substantiveCostLimitation := some 10000

def PublicBodyId.publicBody (publicBodyId : PublicBodyId) : PublicBody where
  publicBodyId := publicBodyId
  publicBodyDescription := publicBodyId.value

end ReferenceData

namespace ApplicationRepository

/-- The `ValueError` of a text that is no member of an enumeration. -/
def notAMember (text enumeration : String) : ApiError :=
  .valueError ("'" ++ text ++ "' is not a valid " ++ enumeration)

def parsePublicBodyId (text : String) : Except ApiError PublicBodyId :=
  match PublicBodyId.ofValue text with
  | some publicBodyId => .ok publicBodyId
  | none => .error (notAMember text "PublicBodyId")

def parseAddressSource (text : String) : Except ApiError AddressSource :=
  match AddressSource.ofValue text with
  | some source => .ok source
  | none => .error (notAMember text "AddressSource")

def addressRow (address : AddressCreate) : Address where
  addressLine1 := address.addressLine1
  addressLine2 := address.addressLine2
  townOrCity := address.townOrCity
  county := address.county
  postcode := address.postcode

def clientRow (client : ClientCreate) (source : AddressSource) : Client where
  clientFirstName := client.clientFirstName
  clientLastName := client.clientLastName
  dateOfBirth := client.dateOfBirth
  hasNoFixedAbode := client.hasNoFixedAbode
  correspondenceAddressSource := source
  correspondenceAddress := client.correspondenceAddress.map addressRow
  homeAddress := client.homeAddress.map addressRow
  correspondenceRecipientType := client.correspondenceRecipient.map (·.recipientType)
  correspondenceRecipientName := client.correspondenceRecipient.map (·.recipientName)

def deceasedRow (deceased : DeceasedCreate) : Deceased where
  deceasedFirstName := deceased.deceasedFirstName
  deceasedLastName := deceased.deceasedLastName
  deceasedDateOfBirth := deceased.deceasedDateOfBirth
  deceasedDateOfDeath := deceased.deceasedDateOfDeath
  coronersReference := deceased.coronersReference

def applicationRow (request : ApplicationCreate) (firmCode : String)
    (publicBodies : List PublicBodyId) (source : AddressSource) (laaReference : String)
    (createdAt : Datetime) (id : ℕ) : Application where
  applicationId := id
  laaReference := laaReference
  createdAt := createdAt
  status := some "LIVE"
  client := clientRow request.client source
  deceased := deceasedRow request.deceased
  provider := ⟨firmCode, request.provider.officeId, request.provider.emailAddress⟩
  proceeding :=
    { meritsDecision := .submitted
      reasonForRefusal := none
      justification := none
      proceeding := request.proceedingId.proceeding
      substantiveCostLimitationEffectiveDate := none
      certificateIssueDate := none
      certificateStartDate := none
      certificateEndDate := none }
  publicBodies := publicBodies.map (·.publicBody)

def insertApplication (application : Application) (s : Store) :
    Except ApiError (Application × Store) :=
  if s.applications.any (·.laaReference = application.laaReference) then
    .error (.uniqueViolation "application_laa_reference_key")
  else .ok (application, { s with applications := s.applications ++ [application] })

def createApplication (env : Env) (faults : Faults) (request : ApplicationCreate)
    (firmCode : String) : Transaction Application := do
  let publicBodies ← Tx.check fun _ => request.publicBodies.mapM parsePublicBodyId
  let source ← Tx.check fun _ => parseAddressSource request.client.correspondenceAddressSource
  let laaReference ← Tx.check (getLaaReference env)
  portWrite faults .createApplication fun s => insertApplication
    (applicationRow request firmCode publicBodies source laaReference (env.now .createApplication)
      (nextKey (s.applications.map (·.applicationId)))) s

section Duplicates

variable (lowering : Lowering)

/-- The database normalises the stored name, Python the new one. -/
def sameName (stored new : Deceased) : Bool :=
  lowering.sql (trim stored.deceasedFirstName) = lowering.python (strip new.deceasedFirstName)
    && lowering.sql (trim stored.deceasedLastName) = lowering.python (strip new.deceasedLastName)

def sameDateOfBirth (stored new : Deceased) : Bool :=
  stored.deceasedDateOfBirth = new.deceasedDateOfBirth

def sameDateOfDeath (stored new : Deceased) : Bool :=
  stored.deceasedDateOfDeath = new.deceasedDateOfDeath

/-- An application without a reference is like no other in that. -/
def sameCoronersReference (stored new : Deceased) : Bool :=
  new.coronersReference ≠ "" && stored.coronersReference = new.coronersReference

def matchCount (stored new : Deceased) : ℕ :=
  (sameDateOfBirth stored new).toNat + (sameDateOfDeath stored new).toNat
    + (sameCoronersReference stored new).toNat + (sameName lowering stored new).toNat

def duplicateMatchThreshold : ℕ := 2

def eligibleDuplicateStatus : List MeritsDecision := [.granted, .refused, .submitted]

def identifyDuplicates (applicationId : ℕ) (s : Store) : Except ApiError (List ℕ) :=
  match s.applications.find? fun a => a.applicationId = applicationId with
  | none =>
    .error (.lookupError ("Application with id " ++ Nat.repr applicationId ++ " does not exist"))
  | some application =>
    .ok ((s.applications.filter fun a =>
      a.applicationId ≠ applicationId
        && a.proceeding.meritsDecision ∈ eligibleDuplicateStatus
        && duplicateMatchThreshold ≤ matchCount lowering a.deceased application.deceased).map
      (·.applicationId))

end Duplicates

def duplicateRows (applicationId : ℕ) : List ℕ → List DuplicateApplicationRecord →
    List DuplicateApplicationRecord
  | [], rows => rows
  | duplicateApplicationId :: rest, rows =>
    duplicateRows applicationId rest
      (rows ++ [⟨nextKey (rows.map (·.id)), applicationId, duplicateApplicationId⟩])

def insertDuplicateRecords (applicationId : ℕ) (duplicateApplicationIds : List ℕ) (s : Store) :
    Store :=
  { s with duplicateApplicationRecords :=
      duplicateRows applicationId duplicateApplicationIds s.duplicateApplicationRecords }

def createDuplicateRecords (faults : Faults) (applicationId : ℕ)
    (duplicateApplicationIds : List ℕ) : Transaction Unit :=
  if duplicateApplicationIds = [] then pure ()
  else portWrite faults .createDuplicateRecords fun s =>
    .ok ((), insertDuplicateRecords applicationId duplicateApplicationIds s)

end ApplicationRepository

namespace IdentifyDuplicateApplicationsUseCase

open ApplicationRepository

def execute (env : Env) (faults : Faults) (applicationId : ℕ) : Transaction Unit := do
  let duplicateApplicationIds ← Tx.check (identifyDuplicates env.lowering applicationId)
  createDuplicateRecords faults applicationId duplicateApplicationIds

end IdentifyDuplicateApplicationsUseCase

namespace CreateApplicationUseCase

open ApplicationRepository

variable (env : Env) (faults : Faults) (request : ApplicationCreate) (application : Application)

def checkOffice (userOfficeCodes : List String) : Transaction Unit := do
  let officeId := application.provider.officeId
  Tx.check fun _ =>
    if officeId ∈ userOfficeCodes then .ok ()
    else .error (.providerOfficeMismatch
      ("Office id " ++ officeId ++ " is not in the user's office codes"))
  Tx.callOut (faults .doesOfficeExist).isSome (.portFailure .doesOfficeExist)
  Tx.check fun _ =>
    if env.officeExists officeId then .ok ()
    else .error (.providerDetailsRetrieval
      ("Office id " ++ officeId ++ " does not exist in provider details API"))

def submittedEvent : NewEvent where
  eventReference := .applicationSubmitted
  actor := some request.provider.emailAddress
  actorType := .provider
  applicationId := application.applicationId
  eventData := []

def confirmationEvent : NewEvent :=
  CreateClaim.systemEvent .applicationSubmissionConfirmation application
    [("recipient", .text request.provider.emailAddress),
      ("channel", .text NotificationType.email.value)]

/-- What follows the first flush of the application, under the handler that rolls back. -/
def submitApplication (userOfficeCodes : List String) : Transaction Unit := do
  checkOffice env faults application userOfficeCodes
  IdentifyDuplicateApplicationsUseCase.execute env faults application.applicationId
  createHistoryEvent env faults (submittedEvent request application)
  Tx.send (faults .sendNotification).isSome (.portFailure .sendNotification)
    (.applicationSubmitted application request.provider.emailAddress)
  createHistoryEvent env faults (confirmationEvent request application)

/-- The log names the new application, which loads it again after the commit. -/
def execute (firmCode : String) (userOfficeCodes : List String) : Request Application := do
  let application ← Uow.transact (createApplication env faults request firmCode)
  Uow.orRollback do
    Uow.inTransaction (submitApplication env faults request application userOfficeCodes)
      (commitFault faults .application)
    Uow.read .application
    pure application

end CreateApplicationUseCase

end InquestsApi
