import InquestsApi.Store

/-! `CreateCertificateContextUseCase`: the certificate of an application, made from its rows.
Two of the three addresses a client can choose are rows of the client itself, and the
name of a recipient is written into the address that is chosen. -/
namespace InquestsApi

open UnitOfWork

namespace Client

variable (client : Client)

/-- The row of the client that holds the chosen address; the provider's address is no such row. -/
def storedAddress : Option Address :=
  match client.correspondenceAddressSource with
  | .useProviderAddress => none
  | .useSpecifiedAddress => client.correspondenceAddress
  | .useClientHomeAddress => client.homeAddress

def setStoredAddress (address : Address) : Client :=
  match client.correspondenceAddressSource with
  | .useProviderAddress => client
  | .useSpecifiedAddress => { client with correspondenceAddress := some address }
  | .useClientHomeAddress => { client with homeAddress := some address }

/-- The address that letters to the client go to. -/
def chosenAddress (officeAddress : Address) : Option Address :=
  if client.correspondenceAddressSource = .useProviderAddress then some officeAddress
  else client.storedAddress

end Client

namespace CreateCertificateContext

def careOf (recipient : CorrespondenceRecipient) (address : Address) : Address :=
  { address with
    addressLine1 := "c/o " ++ recipient.recipientName ++ " " ++ address.addressLine1 }

/-- The client's address on the certificate, and the client as the session then holds it:
the first line is set on the row itself, or on the copy of the provider's address. -/
def clientAddress (client : Client) (officeAddress : Address) :
    Except ApiError (Option Address × Client) :=
  match client.correspondenceRecipient with
  | none => .ok (client.chosenAddress officeAddress, client)
  | some recipient =>
    match client.chosenAddress officeAddress with
    | none => .error (.attributeError "address_line_1")
    | some address =>
      .ok (some (careOf recipient address), client.setStoredAddress (careOf recipient address))

/-- A field of the certificate that must be given. -/
def required {α : Type} : Option α → Except ApiError α
  | some a => .ok a
  | none => .error (.valueError "Input should be a valid value")

section Certificate

variable (env : Env) (faults : Faults) (application : Application)

def closedStatuses : List (Option String) := [some "CLOSED", some "WITHDRAWN"]

/-- The certificate of an application whose client has that address. -/
def certificate (clientAddress : Option Address) : Except ApiError ApplicationCertificate := do
  let proceeding := application.proceeding
  let startOr (index : ℕ) : Date :=
    proceeding.certificateStartDate.getD (env.now (.readCertificateDate index)).date
  let certificateType ← required proceeding.proceeding.certificateType
  let status ← required application.status
  let costLimitation ← required proceeding.substantiveCostLimitation
  let proceedingName ← required proceeding.proceeding.proceedingName
  let proceedingDescription ← required proceeding.proceeding.proceedingDescription
  let categoryOfLaw ← required proceeding.proceeding.categoryOfLaw
  let levelOfService ← required proceeding.proceeding.levelOfService
  let scopeLimitationHeading ← required proceeding.proceeding.scopeLimitationHeading
  let scopeLimitationDescription ← required proceeding.proceeding.scopeDescription
  pure
    { laaReference := application.laaReference
      dateCreated :=
        proceeding.certificateIssueDate.getD (env.now (.readCertificateDate 3)).date
      clientName := application.client.clientFirstName ++ " " ++ application.client.clientLastName
      clientAddress := clientAddress
      firmName := env.firmName application.provider.firmCode
      officeAddress := some (env.officeAddress application.provider.officeId)
      opponentDetails :=
        if application.publicBodies = [] then none
        else some (application.publicBodies.map (·.publicBodyDescription))
      certificateType := certificateType
      status := status
      effectiveDate := startOr 0
      endDate := proceeding.certificateEndDate
      costLimitation := costLimitation
      costLimitationEffectiveDate := proceeding.substantiveCostLimitationEffectiveDate
      proceedingName := proceedingName
      proceedingDescription := proceedingDescription
      categoryOfLaw := categoryOfLaw
      currentProceedingStatus := if application.status ∈ closedStatuses then "CLOSED" else "LIVE"
      dateWorkCanCommence := startOr 1
      levelOfService := levelOfService
      dateCurrentLevelOfServiceEffective := startOr 2
      scopeLimitationHeading := scopeLimitationHeading
      scopeLimitationDescription := scopeLimitationDescription }

def populateCertificateContext : Transaction ApplicationCertificate := do
  Tx.callOut (faults .getFirmName).isSome (.portFailure .getFirmName)
  Tx.callOut (faults .getOfficeAddress).isSome (.portFailure .getOfficeAddress)
  let addressed ← Tx.check fun _ =>
    clientAddress application.client (env.officeAddress application.provider.officeId)
  Tx.touch fun s => s.updateApplication application.applicationId
    fun a => { a with client := addressed.2 }
  Tx.check fun _ => certificate env application addressed.1

def prepareContextForDisplay (context : ApplicationCertificate) : ApplicationCertificate :=
  { context with
    certificateType := capitalize context.certificateType
    status := capitalize context.status
    categoryOfLaw := capitalize context.categoryOfLaw
    currentProceedingStatus := capitalize context.currentProceedingStatus
    levelOfService := capitalize (spaceOut context.levelOfService)
    scopeLimitationHeading := capitalize (spaceOut context.scopeLimitationHeading) }

end Certificate

end CreateCertificateContext

end InquestsApi
