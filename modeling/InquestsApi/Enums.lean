import Mathlib.Logic.Basic

/-! The enumerations of the claim, application, history and notification models.
`value` is what the source serialises an enumeration to. -/
namespace InquestsApi

inductive ClaimType where
  | paymentOnAccount
  | finalBill
  | nilBill
  deriving DecidableEq, Repr

def ClaimType.value : ClaimType → String
  | paymentOnAccount => "PAYMENT_ON_ACCOUNT"
  | finalBill => "FINAL_BILL"
  | nilBill => "NIL_BILL"

theorem ClaimType.value_injective : Function.Injective ClaimType.value := by
  intro a b h
  cases a <;> cases b <;> simp_all [ClaimType.value]

inductive ClaimStatus where
  | submitted
  | accepted
  | payInFull
  | rejected
  | rejectedWithAmendment
  deriving DecidableEq, Repr

def ClaimStatus.value : ClaimStatus → String
  | submitted => "SUBMITTED"
  | accepted => "ACCEPTED"
  | payInFull => "PAY_IN_FULL"
  | rejected => "REJECTED"
  | rejectedWithAmendment => "REJECTED_WITH_AMENDMENT"

inductive POAType where
  | profitCost
  | expertCost
  | nonExpertDisbursement
  deriving DecidableEq, Repr

inductive NumberOfCounselInstructed where
  | zero
  | one
  | two
  | three
  | four
  | five
  | six
  | moreThan6
  deriving DecidableEq, Repr

inductive ClaimDecisionStatus where
  | reject
  | grant
  | payInFull
  | pending
  deriving DecidableEq, Repr

def ClaimDecisionStatus.value : ClaimDecisionStatus → String
  | reject => "REJECT"
  | grant => "GRANT"
  | payInFull => "PAY_IN_FULL"
  | pending => "PENDING"

inductive ReasonCode where
  | maxPoaClaimsExceeded
  | claimExceedsSubstantiveCostLimit
  | applicationClaimsExceedCostLimit
  | profitCostPoaClaimSubmittedTooEarly
  | manualRejection
  deriving DecidableEq, Repr

inductive InvoiceTypeCode where
  | finalBillFees
  | finalBillDisbursement
  | poa
  | recouped
  deriving DecidableEq, Repr

def InvoiceTypeCode.value : InvoiceTypeCode → String
  | finalBillFees => "Inq Final Bill (Fees)"
  | finalBillDisbursement => "Inq Final Bill (Disb)"
  | poa => "Inq POA"
  | recouped => "Inq Recouped POA"

inductive TaxCode where
  | gbVat20
  | zeroVat
  deriving DecidableEq, Repr

def TaxCode.value : TaxCode → String
  | gbVat20 => "GB VAT 20%"
  | zeroVat => "ZERO VAT"

inductive InquestOutcomeCode where
  | accidentOrMisadventure
  | alcoholOrDrugsRelated
  | industrialDisease
  | narrativeConclusion
  | naturalCauses
  | openConclusion
  | roadTrafficCollision
  | stillbirth
  | suicide
  | unlawfulOrLawfulKilling
  deriving DecidableEq, Repr

inductive MeritsDecision where
  | submitted
  | refused
  | granted
  deriving DecidableEq, Repr

inductive ReasonForRefusal where
  | notInScope
  | insufficientInformation
  | duplicateCase
  deriving DecidableEq, Repr

def ReasonForRefusal.value : ReasonForRefusal → String
  | notInScope => "NOT_IN_SCOPE"
  | insufficientInformation => "INSUFFICIENT_INFORMATION"
  | duplicateCase => "DUPLICATE_CASE"

inductive AddressSource where
  | useClientHomeAddress
  | useProviderAddress
  | useSpecifiedAddress
  deriving DecidableEq, Repr

def AddressSource.value : AddressSource → String
  | useClientHomeAddress => "USE_CLIENT_HOME_ADDRESS"
  | useProviderAddress => "USE_PROVIDER_ADDRESS"
  | useSpecifiedAddress => "USE_SPECIFIED_ADDRESS"

/-- `AddressSource(value)`. -/
def AddressSource.ofValue (text : String) : Option AddressSource :=
  [useClientHomeAddress, useProviderAddress, useSpecifiedAddress].find? (·.value = text)

inductive CorrespondenceRecipientType where
  | person
  | organisation
  deriving DecidableEq, Repr

inductive PublicBodyId where
  | attorneyGeneral
  | cabinetOffice
  | departmentDevolvedToWales
  | departmentForBusinessAndTrade
  | departmentForCultureMediaAndSport
  | departmentForEducation
  | departmentForEnergySecurityAndNetZero
  | departmentForEnvironmentFoodAndRuralAffairs
  | departmentForHousingCommunitiesAndLocalGovernment
  | departmentForScienceInnovationAndTechnology
  | departmentForTransport
  | departmentForWorkAndPensions
  | departmentOfHealthAndSocialCare
  | foreignCommonwealthAndDevelopmentOffice
  | hmTreasury
  | homeOffice
  | ministryOfDefence
  | ministryOfJustice
  deriving DecidableEq, Repr

def PublicBodyId.value : PublicBodyId → String
  | attorneyGeneral => "Attorney General's Office"
  | cabinetOffice => "Cabinet Office"
  | departmentDevolvedToWales => "Department Devolved to Wales"
  | departmentForBusinessAndTrade => "Department for Business and Trade"
  | departmentForCultureMediaAndSport => "Department for Culture, Media and Sport"
  | departmentForEducation => "Department for Education"
  | departmentForEnergySecurityAndNetZero => "Department for Energy Security and Net Zero"
  | departmentForEnvironmentFoodAndRuralAffairs => "Department for Environment, Food and Rural Affairs"
  | departmentForHousingCommunitiesAndLocalGovernment => "Department for Housing, Communities and Local Government"
  | departmentForScienceInnovationAndTechnology => "Department for Science, Innovation and Technology"
  | departmentForTransport => "Department for Transport"
  | departmentForWorkAndPensions => "Department for Work and Pensions"
  | departmentOfHealthAndSocialCare => "Department of Health and Social Care"
  | foreignCommonwealthAndDevelopmentOffice => "Foreign, Commonwealth and Development Office"
  | hmTreasury => "HM Treasury"
  | homeOffice => "Home Office"
  | ministryOfDefence => "Ministry of Defence"
  | ministryOfJustice => "Ministry of Justice"

def PublicBodyId.all : List PublicBodyId :=
  [attorneyGeneral, cabinetOffice, departmentDevolvedToWales,
    departmentForBusinessAndTrade, departmentForCultureMediaAndSport, departmentForEducation,
    departmentForEnergySecurityAndNetZero, departmentForEnvironmentFoodAndRuralAffairs, departmentForHousingCommunitiesAndLocalGovernment,
    departmentForScienceInnovationAndTechnology, departmentForTransport, departmentForWorkAndPensions,
    departmentOfHealthAndSocialCare, foreignCommonwealthAndDevelopmentOffice, hmTreasury,
    homeOffice, ministryOfDefence, ministryOfJustice]

/-- `PublicBodyId(value)`. -/
def PublicBodyId.ofValue (text : String) : Option PublicBodyId := all.find? (·.value = text)

inductive ProceedingId where
  | iq011
  | iq012
  | iq013
  | iq014
  | iq015
  | iq016
  | iq017
  | iq018
  | iq019
  | iq020
  | iq021
  | iq022
  | iq023
  | iq024
  | iq025
  | iq026
  | iq027
  | iq028
  | iq029
  | iq030
  | iq031
  | iq032
  | iq033
  | iq034
  | iq035
  | iq036
  | iq037
  | iq038
  | iq039
  | iq040
  | iq041
  | iq042
  deriving DecidableEq, Repr

inductive ActorType where
  | system
  | caseworker
  | provider
  deriving DecidableEq, Repr

def ActorType.value : ActorType → String
  | system => "System"
  | caseworker => "Caseworker"
  | provider => "Provider"

inductive NotificationType where
  | email
  | sms
  | letter
  deriving DecidableEq, Repr

def NotificationType.value : NotificationType → String
  | email => "email"
  | sms => "sms"
  | letter => "letter"

/-- The event references. Two names of the source carry one value there, so
`claimFinalBillPaidEmail` is `claimApprovedEmail` under its other name. -/
inductive HistoryEventReference where
  | caseNoteAdded
  | applicationSubmitted
  | applicationAssessmentCompleted
  | certificateCreated
  | interestedPartyUpdated
  | claimSubmitted
  | claimAssessmentCompleted
  | poaAutoApproved
  | poaAutoRejected
  | applicationSubmissionConfirmation
  | applicationGrantedEmail
  | applicationGrantedLetter
  | applicationRefused
  | claimSubmissionConfirmation
  | claimApprovedEmail
  | claimRejectedEmail
  deriving DecidableEq, Repr

def HistoryEventReference.claimFinalBillPaidEmail : HistoryEventReference := claimApprovedEmail

end InquestsApi
