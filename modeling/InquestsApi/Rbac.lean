import InquestsApi.Text
import Mathlib.Logic.Function.Basic

/-! Who a token is of and what its roles permit: the Entra adapter, the token dependencies of the routes
and the permissions of the roles. A token is what its signature, audience and issuer have been checked to
say. -/
namespace InquestsApi

inductive Permission where
  | applicationCreate
  | applicationRead
  | applicationManage
  | applicationSearch
  | claimCreate
  | claimRead
  | claimManage
  | claimDelete
  | caseNoteCreate
  | historyRead
  | certificateRead
  | providerOfficesRead
  | reportsAuditTrailRead
  | reportsCostsRead
  | reportsPaymentRead
  | reportsApplicationWorkflowRead
  | reportsClaimWorkflowRead
  deriving DecidableEq, Repr

inductive Role where
  | providerApplicationUser
  | providerClaimsUser
  | applicationsCaseworker
  | claimsCaseworker
  | customerServiceAgent
  | assurance
  | applicationWorkflowReporting
  | claimWorkflowReporting
  | policy
  | finance
  deriving DecidableEq, Repr

namespace Role

def value : Role → String
  | providerApplicationUser => "Inquests - Provider Application User"
  | providerClaimsUser => "Inquests - Provider Claims User"
  | applicationsCaseworker => "Inquests - Applications caseworker"
  | claimsCaseworker => "Inquests - Claims caseworker"
  | customerServiceAgent => "Inquests - Customer service agent"
  | assurance => "Inquests - Assurance"
  | applicationWorkflowReporting => "Inquests - Application workflow reporting"
  | claimWorkflowReporting => "Inquests - Claim workflow reporting"
  | policy => "Inquests - Policy"
  | finance => "Inquests - Finance"

def all : List Role :=
  [providerApplicationUser, providerClaimsUser, applicationsCaseworker, claimsCaseworker,
    customerServiceAgent, assurance, applicationWorkflowReporting, claimWorkflowReporting, policy, finance]

theorem mem_all (role : Role) : role ∈ all := by
  cases role <;> decide

/-- `ROLE_PERMISSIONS_MAP`. -/
def permissions : Role → List Permission
  | providerApplicationUser => [.applicationCreate, .providerOfficesRead]
  | providerClaimsUser =>
    [.applicationSearch, .claimCreate, .claimDelete, .claimRead, .providerOfficesRead]
  | applicationsCaseworker =>
    [.applicationRead, .applicationManage, .certificateRead, .historyRead, .caseNoteCreate]
  | claimsCaseworker =>
    [.applicationRead, .claimRead, .claimManage, .certificateRead, .historyRead, .caseNoteCreate]
  | customerServiceAgent =>
    [.applicationRead, .claimRead, .certificateRead, .caseNoteCreate, .historyRead]
  | assurance =>
    [.applicationRead, .claimRead, .certificateRead, .caseNoteCreate, .historyRead,
      .reportsAuditTrailRead, .reportsPaymentRead, .reportsApplicationWorkflowRead,
      .reportsClaimWorkflowRead]
  | applicationWorkflowReporting => [.reportsApplicationWorkflowRead]
  | claimWorkflowReporting => [.reportsClaimWorkflowRead]
  | policy => [.reportsCostsRead]
  | finance =>
    [.reportsCostsRead, .reportsPaymentRead, .reportsApplicationWorkflowRead, .reportsClaimWorkflowRead]

end Role

/-- `str.split` without a separator. -/
def words (text : String) : List String :=
  ((text.toList.splitOnP isStripped).filter (· ≠ [])).map String.ofList

/-- The parts between separators, stripped, without those that are then empty. -/
def strippedParts (separators : List Char) (text : String) : List String :=
  ((text.toList.splitOnP fun c => c ∈ separators).map fun part => strip (String.ofList part)).filter
    (· ≠ "")

/-- The claim `LAA_APP_ROLES`: text, a list whose items may be something else than text, or neither. -/
inductive AppRolesClaim where
  | absent
  | text (roles : String)
  | items (roles : List (Option String))
  | other
  deriving DecidableEq, Repr

/-- The claim `ACCOUNTS`: a list, or one value that may be missing. -/
inductive AccountsClaim where
  | items (officeCodes : List String)
  | single (officeCode : Option String)
  deriving DecidableEq, Repr

structure TokenPayload where
  scp : Option String
  roles : Option (List String)
  laaAppRoles : AppRolesClaim
  accounts : AccountsClaim
  firmCode : Option String
  name : Option String
  oid : Option String
  preferredUsername : Option String
  deriving DecidableEq, Repr

structure AuthenticatedUser where
  firmCode : Option String
  scopes : List String
  name : String
  entraObjectId : Option String
  emailAddress : Option String
  appRoles : List String
  officeCodes : List (Option String)
  deriving DecidableEq, Repr

structure HttpError where
  statusCode : ℕ
  detail : String
  deriving DecidableEq, Repr

namespace EntraAuthAdapter

/-- `\[.*?\]` is dropped: a bracket that is not closed on its line stays. The argument is what has been
read since an open bracket, the last character first. -/
def dropBrackets : Option (List Char) → List Char → List Char
  | none, [] => []
  | some opened, [] => opened.reverse
  | none, c :: rest => if c = '[' then dropBrackets (some ['[']) rest else c :: dropBrackets none rest
  | some opened, c :: rest =>
    if c = ']' then dropBrackets none rest
    else if c = '\n' then opened.reverse ++ c :: dropBrackets none rest
    else dropBrackets (some (c :: opened)) rest

/-- `\s*-\s*(?=\s|$)` becomes a space: a dash at the end of a word. -/
def spaceDashes : List Char → List Char
  | [] => []
  | c :: rest => (if c = '-' ∧ rest.head?.all isStripped then ' ' else c) :: spaceDashes rest

def formatName (name : Option String) : String :=
  match name with
  | none => ""
  | some name =>
    " ".intercalate (words (String.ofList (spaceDashes (dropBrackets none name.toList))))

def parseAppRoles : AppRolesClaim → List String
  | .absent => []
  | .text roles => strippedParts [';', ','] roles
  | .items roles => (roles.filterMap id).map strip |>.filter (· ≠ "")
  | .other => []

def tokenScopes (payload : TokenPayload) : List String :=
  words (payload.scp.getD "") ++ payload.roles.getD []

def validateScopesOrRoles (payload : TokenPayload) (requiredScopes : List String) :
    Except HttpError Unit :=
  if requiredScopes = [] then .ok ()
  else if ∃ scope ∈ requiredScopes, scope ∈ tokenScopes payload then .ok ()
  else .error ⟨403, "Insufficient permissions"⟩

/-- Whom a token is of. -/
def tokenUser (payload : TokenPayload) : AuthenticatedUser where
  firmCode := payload.firmCode
  scopes := tokenScopes payload
  name := formatName payload.name
  entraObjectId := payload.oid
  emailAddress := payload.preferredUsername
  appRoles := parseAppRoles payload.laaAppRoles
  officeCodes :=
    match payload.accounts with
    | .items officeCodes => officeCodes.map some
    | .single officeCode => [officeCode]

/-- A token that could not be validated says nothing. -/
def verifyToken (defaultScopes requiredScopes : List String) (token : Option TokenPayload) :
    Except HttpError AuthenticatedUser :=
  match token with
  | none => .error ⟨401, "Could not validate credentials"⟩
  | some payload => do
    validateScopesOrRoles payload (if requiredScopes = [] then defaultScopes else requiredScopes)
    pure (tokenUser payload)

def getUserEmailAddress (token : Option TokenPayload) : Option String :=
  token.bind (·.preferredUsername)

end EntraAuthAdapter

open EntraAuthAdapter

/-- What a request carries in its authorization header, if it has one. -/
abbrev Credentials := Option (Option TokenPayload)

section Dependencies

variable (allowedScopes : String) (credentials : Credentials)

def configuredEntraScopes : List String := strippedParts [','] allowedScopes

def verifyEntraTokenWithScopes (requiredScopes : List String) : Except HttpError AuthenticatedUser :=
  match credentials with
  | none => .error ⟨401, "Not authenticated"⟩
  | some token => verifyToken (configuredEntraScopes allowedScopes) requiredScopes token

def verifyEntraToken : Except HttpError AuthenticatedUser :=
  verifyEntraTokenWithScopes allowedScopes credentials (configuredEntraScopes allowedScopes)

def verifyEntraProviderToken : Except HttpError AuthenticatedUser :=
  verifyEntraTokenWithScopes allowedScopes credentials ["User.Provider"]

def getCurrentProviderFirmCode : Except HttpError String := do
  let user ← verifyEntraProviderToken allowedScopes credentials
  match user.firmCode with
  | none => .error ⟨403, "Provider firm code missing from token"⟩
  | some firmCode =>
    if firmCode = "" then .error ⟨403, "Provider firm code missing from token"⟩ else .ok firmCode

/-- A missing account is an office code that no office has. -/
def getCurrentProviderOfficeCodes : Except HttpError (List String) := do
  let user ← verifyEntraProviderToken allowedScopes credentials
  if user.officeCodes = [] then .error ⟨403, "Provider office codes missing from token"⟩
  else .ok (user.officeCodes.filterMap id)

end Dependencies

/-- `ROLE_PERMISSIONS_MAP.get(role, set())`. -/
def permissionsOf (role : String) : List Permission :=
  match Role.all.find? (·.value = role) with
  | some role => role.permissions
  | none => []

def getCurrentUserPermissions (user : AuthenticatedUser) : List Permission :=
  user.appRoles.flatMap permissionsOf

def permissionChecker (possiblePermissions permissions : List Permission) : Except HttpError Unit :=
  if ∃ permission ∈ possiblePermissions, permission ∈ permissions then .ok ()
  else .error ⟨403, "Forbidden: Missing required permission"⟩

section Facts

variable {user : AuthenticatedUser} {permission : Permission} {role : String}
variable {allowedScopes : String} {requiredScopes : List String} {credentials : Credentials}

/-- A token that is let through is of its user, and has one of the scopes. -/
theorem verifyEntraTokenWithScopes_ok
    (h : verifyEntraTokenWithScopes allowedScopes credentials requiredScopes = .ok user) :
    ∃ payload, credentials = some (some payload) ∧ user = tokenUser payload
      ∧ (requiredScopes ≠ [] → ∃ scope ∈ requiredScopes, scope ∈ user.scopes) := by
  unfold verifyEntraTokenWithScopes verifyToken at h
  match credentials with
  | none => cases h
  | some none => cases h
  | some (some payload) =>
      cases hvalid : validateScopesOrRoles payload
          (if requiredScopes = [] then configuredEntraScopes allowedScopes else requiredScopes) with
      | error e =>
          simp only [hvalid, bind, Except.bind] at h
          cases h
      | ok u =>
          simp only [hvalid, bind, Except.bind] at h
          cases h
          refine ⟨payload, rfl, rfl, fun hrequired => ?_⟩
          unfold validateScopesOrRoles at hvalid
          rw [if_neg hrequired, if_neg hrequired] at hvalid
          by_cases hscope : ∃ scope ∈ requiredScopes, scope ∈ tokenScopes payload
          · exact hscope
          · rw [if_neg hscope] at hvalid
            cases hvalid

/-- What a provider's request is let through for: the firm of the token and one of its accounts. -/
theorem getCurrentProviderFirmCode_ok {firmCode : String}
    (h : getCurrentProviderFirmCode allowedScopes credentials = .ok firmCode) :
    ∃ user, verifyEntraProviderToken allowedScopes credentials = .ok user
      ∧ user.firmCode = some firmCode ∧ firmCode ≠ "" := by
  unfold getCurrentProviderFirmCode at h
  cases hverified : verifyEntraProviderToken allowedScopes credentials with
  | error e =>
      simp only [hverified, bind, Except.bind] at h
      cases h
  | ok user =>
      simp only [hverified, bind, Except.bind] at h
      cases hfirm : user.firmCode with
      | none =>
          rw [hfirm] at h
          cases h
      | some found =>
          rw [hfirm] at h
          by_cases hempty : found = ""
          · simp only [hempty, if_true] at h
            cases h
          · simp only [if_neg hempty, Except.ok.injEq] at h
            exact ⟨user, rfl, hfirm.trans (congrArg some h), h ▸ hempty⟩

theorem getCurrentProviderOfficeCodes_ok {officeCodes : List String}
    (h : getCurrentProviderOfficeCodes allowedScopes credentials = .ok officeCodes) :
    ∃ user, verifyEntraProviderToken allowedScopes credentials = .ok user
      ∧ officeCodes = user.officeCodes.filterMap id := by
  unfold getCurrentProviderOfficeCodes at h
  cases hverified : verifyEntraProviderToken allowedScopes credentials with
  | error e =>
      simp only [hverified, bind, Except.bind] at h
      cases h
  | ok user =>
      simp only [hverified, bind, Except.bind] at h
      by_cases hnone : user.officeCodes = []
      · rw [if_pos hnone] at h
        cases h
      · rw [if_neg hnone] at h
        cases h
        exact ⟨user, rfl, rfl⟩

theorem Role.value_injective : Function.Injective Role.value := by
  intro role other h
  cases role <;> cases other <;> first | rfl | exact absurd h (by decide)

theorem mem_permissionsOf :
    permission ∈ permissionsOf role ↔ ∃ r : Role, r.value = role ∧ permission ∈ r.permissions := by
  unfold permissionsOf
  cases hfound : Role.all.find? (·.value = role) with
  | none =>
      have hnone := List.find?_eq_none.mp hfound
      constructor
      · exact fun h => absurd h List.not_mem_nil
      · rintro ⟨r, hr, _⟩
        exact absurd (decide_eq_true hr) (hnone r r.mem_all)
  | some found =>
      have hsome := List.find?_some hfound
      have hvalue : found.value = role := of_decide_eq_true hsome
      constructor
      · exact fun h => ⟨found, hvalue, h⟩
      · rintro ⟨r, hr, h⟩
        rwa [Role.value_injective (hvalue.trans hr.symm)]

/-- A user is permitted what one of the roles of the token is. -/
theorem mem_getCurrentUserPermissions : permission ∈ getCurrentUserPermissions user ↔
    ∃ r : Role, r.value ∈ user.appRoles ∧ permission ∈ r.permissions := by
  unfold getCurrentUserPermissions
  rw [List.mem_flatMap]
  constructor
  · rintro ⟨role, hrole, h⟩
    obtain ⟨r, rfl, hr⟩ := mem_permissionsOf.mp h
    exact ⟨r, hrole, hr⟩
  · rintro ⟨r, hrole, hr⟩
    exact ⟨r.value, hrole, mem_permissionsOf.mpr ⟨r, rfl, hr⟩⟩

theorem permissionChecker_ok {possiblePermissions permissions : List Permission} :
    permissionChecker possiblePermissions permissions = .ok ()
      ↔ ∃ permission ∈ possiblePermissions, permission ∈ permissions := by
  unfold permissionChecker
  by_cases h : ∃ permission ∈ possiblePermissions, permission ∈ permissions
  · simp [h]
  · simp [h]

end Facts

end InquestsApi
