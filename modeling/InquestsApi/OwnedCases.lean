import InquestsApi.AttributedDecisions
import InquestsApi.CostLimit
import InquestsApi.OwnCases

/-! Whose an application and its claims are: over runs of requests that come with a token, each goes back
to a provider's token of the same firm, with the application's office among its accounts. -/
namespace InquestsApi

open UnitOfWork
open ApplicationRepository (isOwn)

/-- What says whose an application is. -/
structure CaseOwner where
  applicationId : ℕ
  laaReference : String
  provider : Provider

def Application.owner (a : Application) : CaseOwner := ⟨a.applicationId, a.laaReference, a.provider⟩

def Store.owners (s : Store) : List CaseOwner := s.applications.map (·.owner)

/-- Each claim with the application that it is on. -/
def Store.claimedIds (s : Store) : List (ℕ × ℕ) := s.claims.map fun c => (c.claimId, c.applicationId)

theorem Store.owners_updateApplication {s : Store} {applicationId : ℕ} {f : Application → Application}
    (h : ∀ a, (f a).owner = a.owner) : (s.updateApplication applicationId f).owners = s.owners := by
  unfold Store.owners Store.updateApplication
  rw [List.map_map]
  apply List.map_congr_left
  intro a _
  by_cases hid : a.applicationId = applicationId
  · simp only [Function.comp_apply, if_pos hid, h]
  · simp only [Function.comp_apply, if_neg hid]

theorem Store.claimedIds_setClaimStatus {s : Store} {claimId : ℕ} {status : ClaimStatus} :
    (s.setClaimStatus claimId status).claimedIds = s.claimedIds := by
  unfold Store.claimedIds Store.setClaimStatus
  rw [List.map_map]
  apply List.map_congr_left
  intro c _
  by_cases hid : c.claimId = claimId
  · simp only [Function.comp_apply, if_pos hid, Claim.withStatus]
  · simp only [Function.comp_apply, if_neg hid]

theorem ignoresUpdates_owners : IgnoresUpdates Store.owners where
  history := fun _ _ => rfl
  proceeding := fun _ _ _ => Store.owners_updateApplication fun _ => rfl
  client := fun _ _ _ => Store.owners_updateApplication fun _ => rfl
  publicBodies := fun _ _ _ => Store.owners_updateApplication fun _ => rfl

theorem ignoresClaims_owners : IgnoresClaims Store.owners where
  history := fun _ _ => rfl
  status := fun _ _ _ => rfl
  decisions := fun _ _ => rfl
  reasons := fun _ _ => rfl
  amounts := fun _ _ => rfl
  extracts := fun _ _ => rfl
  claims := fun _ _ => rfl
  evidence := fun _ _ => rfl
  outcomes := fun _ _ => rfl
  templates := fun _ _ => rfl

theorem ignoresApplications_claimedIds : IgnoresApplications Store.claimedIds where
  history := fun _ _ => rfl
  proceeding := fun _ _ _ => rfl
  client := fun _ _ _ => rfl
  publicBodies := fun _ _ _ => rfl
  applications := fun _ _ => rfl
  duplicates := fun _ _ => rfl

theorem ignoresDecisions_claimedIds : IgnoresDecisions Store.claimedIds where
  history := fun _ _ => rfl
  status := fun _ _ _ => Store.claimedIds_setClaimStatus
  decisions := fun _ _ => rfl
  reasons := fun _ _ => rfl
  amounts := fun _ _ => rfl
  extracts := fun _ _ => rfl

/-- What one transaction does to the owners: nothing, or a new application of the request's firm and one
of its offices, or a new claim on an application of theirs. -/
inductive Owns : CaseRequest → Store → Store → Prop
  | kept {request : CaseRequest} {s s' : Store} (howners : s'.owners = s.owners)
      (hclaims : s'.claimedIds = s.claimedIds) : Owns request s s'
  | created {request : ApplicationCreate} {firmCode : String} {userOfficeCodes : List String}
      {owner : CaseOwner} {s s' : Store} (hfirm : owner.provider.firmCode = firmCode)
      (hoffice : owner.provider.officeId ∈ userOfficeCodes) (howners : s'.owners = s.owners ++ [owner])
      (hclaims : s'.claimedIds = s.claimedIds) :
      Owns (.createApplication request firmCode userOfficeCodes) s s'
  | claimed {command : CreateClaimCommand} {owner : CaseOwner} {claimId : ℕ} {s s' : Store}
      (hmem : owner ∈ s.owners)
      (hreference : owner.laaReference = normaliseReference command.laaReference)
      (hfirm : owner.provider.firmCode = command.firmCode)
      (hoffice : owner.provider.officeId ∈ command.officeCodes) (howners : s'.owners = s.owners)
      (hclaims : s'.claimedIds = s.claimedIds ++ [(claimId, owner.applicationId)]) :
      Owns (.claim (.create command)) s s'

section Steps

variable {env : Env} {faults : Faults} {request : CaseRequest} {s s' : Store}

theorem createBody_owns {request : ApplicationCreate} {firmCode : String} {userOfficeCodes : List String}
    {application : Application} {t t' : Txn Store Notification}
    (h : CreateApplicationUseCase.createBody env faults request firmCode userOfficeCodes t
      = .ok application t') :
    Owns (.createApplication request firmCode userOfficeCodes) t.store t'.store := by
  have hclaims := createBody_keeps _ _ ignoresApplications_claimedIds _ _ _ _ _ _ h
  have happlications := createBody_applications h
  obtain ⟨t₁, u, hcreate, hsubmit⟩ := createBody_ok.mp h
  obtain ⟨_, _, _, -, -, -, -, hrow, -⟩ := createApplication_ok.mp hcreate
  have hoffice : application.provider.officeId ∈ userOfficeCodes := by
    simp only [CreateApplicationUseCase.submitApplication, CreateApplicationUseCase.checkOffice, bind_ok,
      Tx.check_ok] at hsubmit
    obtain ⟨_, _, ⟨_, _, ⟨hchecked, -⟩, -⟩, -⟩ := hsubmit
    by_cases hmem : application.provider.officeId ∈ userOfficeCodes
    · exact hmem
    · rw [if_neg hmem] at hchecked
      cases hchecked
  have hfirm : application.owner.provider.firmCode = firmCode := by
    rw [hrow]
    rfl
  have howners : t'.store.owners = t.store.owners ++ [application.owner] := by
    unfold Store.owners
    rw [happlications, List.map_append, List.map_singleton]
  exact .created hfirm hoffice howners hclaims

/-- A claim that is prepared is on an application of the command's firm and one of its offices. -/
theorem prepare_owner {command : CreateClaimCommand} {prepared : PreparedClaim}
    (h : CreateClaim.prepare command s = .ok prepared) :
    prepared.application ∈ s.applications
      ∧ prepared.application.laaReference = normaliseReference command.laaReference
      ∧ isOwn command.firmCode command.officeCodes prepared.application = true := by
  have happlication := (CreateClaim.prepare_ok h).application
  obtain ⟨hmem, hown⟩ := findApplication_own happlication
  have hfound := List.find?_some (findApplication_ok happlication).1
  exact ⟨hmem, of_decide_eq_true hfound, hown⟩

theorem submitClaim_owns {command : CreateClaimCommand} {prepared : PreparedClaim} {claim : Claim}
    {t t' : Txn Store Notification} (hprepared : CreateClaim.prepare command t.store = .ok prepared)
    (h : CreateClaim.submitClaim env faults command prepared t = .ok claim t') :
    Owns (.claim (.create command)) t.store t'.store := by
  have hsubmitted := submitClaim_ok h
  obtain ⟨hmem, hreference, hown⟩ := prepare_owner hprepared
  unfold isOwn at hown
  rw [Bool.and_eq_true, decide_eq_true_eq, decide_eq_true_eq] at hown
  have howner : prepared.application.owner ∈ t.store.owners := List.mem_map_of_mem hmem
  have howners : t'.store.owners = t.store.owners := by
    unfold Store.owners
    rw [hsubmitted.applications]
  have hclaims : t'.store.claimedIds
      = t.store.claimedIds ++ [(claim.claimId, prepared.application.owner.applicationId)] := by
    unfold Store.claimedIds
    rw [hsubmitted.claims, List.map_append, List.map_singleton, hsubmitted.stored.applicationId]
    rfl
  exact .claimed howner hreference hown.1 hown.2 howners hclaims

theorem Performs.owns (h : Performs env faults request s s') : Owns request s s' := by
  have hcreation : PerformsCreation env faults request s s' → Owns request s s' := by
    rintro ⟨hbody⟩
    exact createBody_owns hbody
  have hsubmission : PerformsSubmission env faults request s s' → Owns request s s' := by
    rintro ⟨hprepared, hbody⟩
    exact submitClaim_owns hprepared hbody
  rcases h.keeps ignoresClaims_owners.toIgnoresDecisions ignoresUpdates_owners with
    howners | hcreates | hsubmits
  · rcases h.keeps ignoresDecisions_claimedIds ignoresApplications_claimedIds.toIgnoresUpdates with
      hclaims | hcreates | hsubmits
    · exact .kept howners hclaims
    · exact hcreation hcreates
    · exact hsubmission hsubmits
  · exact hcreation hcreates
  · exact hsubmission hsubmits

end Steps

/-- A request came with a token of the provider's firm, with the office among its accounts, and with a
role. -/
structure ActsFor (allowedScopes : String) (r : HttpRequest) (role : Role) (provider : Provider) : Prop where
  user : ∃ user, verifyEntraProviderToken allowedScopes r.credentials = .ok user
    ∧ "User.Provider" ∈ user.scopes ∧ role.value ∈ user.appRoles
    ∧ user.firmCode = some provider.firmCode ∧ some provider.officeId ∈ user.officeCodes
  firm : provider.firmCode ≠ ""

section Runs

variable {allowedScopes : String} {steps : List SecuredStep} {init s : Store}
variable {r : HttpRequest} {submission : CaseSubmission}

theorem Role.of_applicationCreate {role : Role} (h : .applicationCreate ∈ role.permissions) :
    role = .providerApplicationUser := by
  cases role <;> first | rfl | exact absurd h (by decide)

/-- The firm and the offices that a provider's request is let through with are those of its token. -/
theorem ActsFor.of_codes {user : AuthenticatedUser} {role : Role} {firmCode : String}
    {officeCodes : List String} {provider : Provider}
    (hverified : verifyEntraToken allowedScopes r.credentials = .ok user)
    (hrole : role.value ∈ user.appRoles)
    (hfirmCode : getCurrentProviderFirmCode allowedScopes r.credentials = .ok firmCode)
    (hofficeCodes : getCurrentProviderOfficeCodes allowedScopes r.credentials = .ok officeCodes)
    (hfirm : provider.firmCode = firmCode) (hoffice : provider.officeId ∈ officeCodes) :
    ActsFor allowedScopes r role provider := by
  obtain ⟨found, hfound, hcode, hnamed⟩ := getCurrentProviderFirmCode_ok hfirmCode
  obtain ⟨other, hother, rfl⟩ := getCurrentProviderOfficeCodes_ok hofficeCodes
  obtain rfl : found = other := Except.ok.inj (hfound.symm.trans hother)
  obtain ⟨payload, hpayload, rfl, -⟩ := verifyEntraTokenWithScopes_ok hverified
  obtain ⟨payload', hpayload', rfl, hscope⟩ := verifyEntraTokenWithScopes_ok hfound
  obtain rfl : payload = payload' := Option.some.inj (Option.some.inj (hpayload.symm.trans hpayload'))
  obtain ⟨scope, hrequired, hhas⟩ := hscope (List.cons_ne_nil _ _)
  rw [List.mem_singleton.mp hrequired] at hhas
  obtain ⟨office, hlisted, hsome⟩ := List.mem_filterMap.mp hoffice
  have hlisted : some provider.officeId ∈ (EntraAuthAdapter.tokenUser payload).officeCodes := by
    rw [id] at hsome
    exact hsome ▸ hlisted
  exact ⟨⟨_, hfound, hhas, hrole, hcode.trans (congrArg some hfirm.symm), hlisted⟩, hfirm ▸ hnamed⟩

/-- The request that creates the application acts for its provider. -/
def CreatedFor (allowedScopes : String) (steps : List SecuredStep) (init : Store) (owner : CaseOwner) :
    Prop :=
  ∃ r request s s', RunCommits allowedScopes steps init (.http r) s s'
    ∧ owner ∉ s.owners ∧ owner ∈ s'.owners ∧ r.body = .createApplication request
    ∧ ActsFor allowedScopes r .providerApplicationUser owner.provider

/-- The request that stores the claim names the application and acts for its provider. -/
def ClaimedFor (allowedScopes : String) (steps : List SecuredStep) (init : Store) (owner : CaseOwner)
    (claimId : ℕ) : Prop :=
  ∃ r command s s', RunCommits allowedScopes steps init (.http r) s s'
    ∧ (claimId, owner.applicationId) ∉ s.claimedIds ∧ (claimId, owner.applicationId) ∈ s'.claimedIds
    ∧ r.body = .createClaim command ∧ owner.laaReference = normaliseReference command.laaReference
    ∧ ActsFor allowedScopes r .providerClaimsUser owner.provider

structure OwnersAct (allowedScopes : String) (steps : List SecuredStep) (init s : Store) : Prop where
  created : ∀ owner ∈ s.owners, CreatedFor allowedScopes steps init owner
  claimed : ∀ c ∈ s.claimedIds, ∃ owner ∈ s.owners, owner.applicationId = c.2
    ∧ ClaimedFor allowedScopes steps init owner c.1

theorem HttpRequest.caseRequest_creates {request : ApplicationCreate} {firmCode : String}
    {officeCodes : List String}
    (h : r.caseRequest allowedScopes = .ok (.createApplication request firmCode officeCodes)) :
    r.body = .createApplication request
      ∧ getCurrentProviderFirmCode allowedScopes r.credentials = .ok firmCode
      ∧ getCurrentProviderOfficeCodes allowedScopes r.credentials = .ok officeCodes := by
  unfold HttpRequest.caseRequest at h
  cases hbody : r.body <;> rw [hbody] at h <;> simp only [except_bind_ok, except_pure_ok] at h
  case createApplication given =>
    obtain ⟨_, hfirm, _, hoffices, hrequest⟩ := h
    cases hrequest
    exact ⟨rfl, hfirm, hoffices⟩
  case createClaim command =>
    obtain ⟨_, -, _, -, hrequest⟩ := h
    cases hrequest
  all_goals cases h

theorem HttpRequest.caseRequest_claims {command : CreateClaimCommand}
    (h : r.caseRequest allowedScopes = .ok (.claim (.create command))) :
    ∃ given, r.body = .createClaim given ∧ given.laaReference = command.laaReference
      ∧ getCurrentProviderFirmCode allowedScopes r.credentials = .ok command.firmCode
      ∧ getCurrentProviderOfficeCodes allowedScopes r.credentials = .ok command.officeCodes := by
  unfold HttpRequest.caseRequest at h
  cases hbody : r.body <;> rw [hbody] at h <;> simp only [except_bind_ok, except_pure_ok] at h
  case createApplication given =>
    obtain ⟨_, -, _, -, hrequest⟩ := h
    cases hrequest
  case createClaim given =>
    obtain ⟨_, hfirm, _, hoffices, hrequest⟩ := h
    cases hrequest
    exact ⟨given, rfl, rfl, hfirm, hoffices⟩
  all_goals cases h

theorem OwnersAct.of_same {s' : Store} (hs : OwnersAct allowedScopes steps init s)
    (howners : s'.owners = s.owners) (hclaims : s'.claimedIds = s.claimedIds) :
    OwnersAct allowedScopes steps init s' where
  created := howners.symm ▸ hs.created
  claimed := by
    rw [howners, hclaims]
    exact hs.claimed

/-- A request that is let through acts for the owner of what it creates. -/
theorem Owns.ownersAct {s' : Store} {request : CaseRequest} (howns : Owns request s s')
    (hcommits : RunCommits allowedScopes steps init (.http r) s s')
    (hsubmission : r.submission allowedScopes = .ok submission) (hrequest : submission.request = request)
    (hs : OwnersAct allowedScopes steps init s) : OwnersAct allowedScopes steps init s' := by
  obtain ⟨user, hverified, ⟨role, hrole, hpermission⟩, hasked, -⟩ := r.submission_ok hsubmission
  rw [hrequest] at hasked
  cases howns with
  | kept howners hclaims => exact hs.of_same howners hclaims
  | @created _ firmCode officeCodes owner _ _ hfirm hoffice howners hclaims =>
      obtain ⟨hbody, hfirmCode, hofficeCodes⟩ := r.caseRequest_creates hasked
      rw [hbody] at hpermission
      obtain rfl := Role.of_applicationCreate hpermission
      have hacts := ActsFor.of_codes hverified hrole hfirmCode hofficeCodes hfirm hoffice
      refine ⟨?_, ?_⟩
      · intro other hother
        by_cases hold : other ∈ s.owners
        · exact hs.created other hold
        · have hnew := hother
          rw [howners] at hnew
          obtain rfl := List.mem_singleton.mp ((List.mem_append.mp hnew).resolve_left hold)
          exact ⟨r, _, s, s', hcommits, hold, hother, hbody, hacts⟩
      · intro c hc
        rw [hclaims] at hc
        obtain ⟨other, hother, hclaimed⟩ := hs.claimed c hc
        exact ⟨other, howners ▸ List.mem_append_left _ hother, hclaimed⟩
  | @claimed _ owner _ _ _ howner hreference hfirm hoffice howners hclaims =>
      obtain ⟨given, hbody, hsame, hfirmCode, hofficeCodes⟩ := r.caseRequest_claims hasked
      rw [hbody] at hpermission
      obtain rfl := Role.of_claimCreate hpermission
      have hacts := ActsFor.of_codes hverified hrole hfirmCode hofficeCodes hfirm hoffice
      refine ⟨howners.symm ▸ hs.created, ?_⟩
      intro c hc
      rw [howners]
      by_cases hold : c ∈ s.claimedIds
      · exact hs.claimed c hold
      · have hnew := hc
        rw [hclaims] at hnew
        obtain rfl := List.mem_singleton.mp ((List.mem_append.mp hnew).resolve_left hold)
        exact ⟨owner, howner, rfl, r, given, s, s', hcommits, hold, hc, hbody, hsame ▸ hreference, hacts⟩

theorem committedBy_ownersAct {evidence : List ClaimEvidence} :
    ∀ s ∈ committedBy allowedScopes steps (.initial [] evidence []),
      OwnersAct allowedScopes steps (.initial [] evidence []) s := by
  refine committedBy_transactions ⟨?_, ?_⟩ ?_
  · exact fun _ hnone => absurd hnone List.not_mem_nil
  · exact fun _ hnone => absurd hnone List.not_mem_nil
  · intro step s s' hcommits hs
    have hstep := hcommits
    cases hstep with
    | intro _ hsubmission _ hlast =>
        cases step with
        | http r => exact hlast.owns.ownersAct hcommits hsubmission rfl hs
        | sendApprovedEmails env faults now =>
            cases hsubmission
            cases hlast.owns with
            | kept howners hclaims => exact hs.of_same howners hclaims

/-- **Whose cases these are.** In every database that a run from an empty one commits, whatever the tokens
and the requests say and whatever fails: each application was stored by a request with a provider's token
of its firm, with its office among the accounts; each claim is on an application that is stored, and was
stored by a request that named that application, with a provider's token of its firm and its office. -/
theorem cases_owned (allowedScopes : String) (steps : List SecuredStep) (evidence : List ClaimEvidence) :
    ∀ s ∈ committedBy allowedScopes steps (.initial [] evidence []),
      (∀ a ∈ s.applications, CreatedFor allowedScopes steps (.initial [] evidence []) a.owner)
        ∧ ∀ c ∈ s.claims, ∃ a ∈ s.applications, a.applicationId = c.applicationId
          ∧ ClaimedFor allowedScopes steps (.initial [] evidence []) a.owner c.claimId := by
  intro s hs
  have hacts := committedBy_ownersAct s hs
  refine ⟨fun a ha => hacts.created _ (List.mem_map_of_mem ha), fun c hc => ?_⟩
  obtain ⟨owner, howner, hid, hclaimed⟩ := hacts.claimed _ (List.mem_map_of_mem hc)
  obtain ⟨a, ha, rfl⟩ := List.mem_map.mp howner
  exact ⟨a, ha, hid, hclaimed⟩

end Runs

/-- The claim of the run is on the provider's own application. -/
theorem cases_owned_claimed :
    ∃ s ∈ committedBy Sample.scopes Sample.securedSteps (.initial [] [] []), ∃ c ∈ s.claims,
      ∃ a ∈ s.applications, a.applicationId = c.applicationId
        ∧ CreatedFor Sample.scopes Sample.securedSteps (.initial [] [] []) a.owner
        ∧ ClaimedFor Sample.scopes Sample.securedSteps (.initial [] [] []) a.owner c.claimId := by
  have hclaims : ((committedBy Sample.scopes Sample.securedSteps (.initial [] [] [])).any fun s =>
      s.claims.any fun c => c.statusId = .rejected) = true := by
    decide +kernel
  obtain ⟨s, hs, hclaim⟩ := List.any_eq_true.mp hclaims
  obtain ⟨c, hc, -⟩ := List.any_eq_true.mp hclaim
  obtain ⟨hcreated, hclaimed⟩ := cases_owned Sample.scopes Sample.securedSteps [] s hs
  obtain ⟨a, ha, hid, hacts⟩ := hclaimed c hc
  exact ⟨s, hs, c, hc, a, ha, hid, hcreated a ha, hacts⟩

end InquestsApi
