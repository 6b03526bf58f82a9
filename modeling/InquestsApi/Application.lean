import InquestsApi.Calendar
import InquestsApi.Enums
import InquestsApi.Text

/-! Applications as the use cases read them: an application with its own client, deceased,
provider and proceeding rows. -/
namespace InquestsApi

structure Address where
  addressLine1 : String
  addressLine2 : Option String
  townOrCity : String
  county : Option String
  postcode : String
  deriving DecidableEq, Repr

structure Client where
  clientFirstName : String
  clientLastName : String
  dateOfBirth : String
  hasNoFixedAbode : Bool
  correspondenceAddressSource : AddressSource
  correspondenceAddress : Option Address
  homeAddress : Option Address
  correspondenceRecipientType : Option CorrespondenceRecipientType
  correspondenceRecipientName : Option String
  deriving DecidableEq, Repr

structure CorrespondenceRecipient where
  recipientType : CorrespondenceRecipientType
  recipientName : String
  deriving DecidableEq, Repr

/-- The recipient is known only when both its columns are set. -/
def Client.correspondenceRecipient (client : Client) : Option CorrespondenceRecipient :=
  match client.correspondenceRecipientType, client.correspondenceRecipientName with
  | some type, some name => some ⟨type, name⟩
  | _, _ => none

structure Deceased where
  deceasedFirstName : String
  deceasedLastName : String
  deceasedDateOfBirth : String
  deceasedDateOfDeath : String
  coronersReference : String
  deriving DecidableEq, Repr

structure Provider where
  firmCode : String
  officeId : String
  emailAddress : String
  deriving DecidableEq, Repr

/-- A row of the proceeding reference table. -/
structure Proceeding where
  proceedingName : Option String
  proceedingDescription : Option String
  categoryOfLaw : Option String
  certificateType : Option String
  levelOfService : Option String
  matterType : Option String
  scopeLimitationHeading : Option String
  scopeDescription : Option String
  substantiveCostLimitation : Option Int32
  deriving DecidableEq

def ungrantedSubstantiveCostLimitation : Int32 := 0

structure ApplicationProceeding where
  meritsDecision : MeritsDecision
  reasonForRefusal : Option String
  justification : Option String
  proceeding : Proceeding
  substantiveCostLimitationEffectiveDate : Option Date
  certificateIssueDate : Option Date
  certificateStartDate : Option Date
  certificateEndDate : Option Date
  deriving DecidableEq

def ApplicationProceeding.substantiveCostLimitation (p : ApplicationProceeding) : Option Int32 :=
  if p.meritsDecision ≠ .granted then some ungrantedSubstantiveCostLimitation
  else p.proceeding.substantiveCostLimitation

structure PublicBody where
  publicBodyId : PublicBodyId
  publicBodyDescription : String
  deriving DecidableEq, Repr

structure Application where
  applicationId : ℕ
  laaReference : String
  createdAt : Datetime
  status : Option String
  client : Client
  deceased : Deceased
  provider : Provider
  proceeding : ApplicationProceeding
  publicBodies : List PublicBody
  deriving DecidableEq

/-- Two applications that may be about one death. -/
structure DuplicateApplicationRecord where
  id : ℕ
  applicationId : ℕ
  duplicateApplicationId : ℕ
  deriving DecidableEq, Repr

namespace Application

def overallDecision (application : Application) : MeritsDecision :=
  application.proceeding.meritsDecision

/-- `ApplicationDomain.is_granted`. -/
def isGranted (application : Application) : Bool :=
  application.overallDecision = .granted

end Application

/-- What the certificate and the grant letter are made from. -/
structure ApplicationCertificate where
  laaReference : String
  dateCreated : Date
  clientName : String
  clientAddress : Option Address
  firmName : String
  officeAddress : Option Address
  opponentDetails : Option (List String)
  certificateType : String
  status : String
  effectiveDate : Date
  endDate : Option Date
  costLimitation : Int32
  costLimitationEffectiveDate : Option Date
  proceedingName : String
  proceedingDescription : String
  categoryOfLaw : String
  currentProceedingStatus : String
  dateWorkCanCommence : Date
  levelOfService : String
  dateCurrentLevelOfServiceEffective : Date
  scopeLimitationHeading : String
  scopeLimitationDescription : String
  deriving DecidableEq

end InquestsApi
