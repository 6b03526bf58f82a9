import InquestsApi.AlikeRequests
import InquestsApi.Lib.Join

/-! What a provider's answers depend on. Two databases that agree on the cases of the user's firm
and offices are compared, answer by answer. -/
namespace InquestsApi

open UnitOfWork ApplicationRepository

/-- Evidence that is linked to none but the given claims. -/
def unlinked (claimIds : List ℕ) (e : ClaimEvidence) : ClaimEvidence :=
  { e with claimId := e.claimId.filter fun id => id ∈ claimIds }

namespace Store

variable (s : Store) (firmCode : String) (officeCodes : List String)

def ownApplications : List Application := s.applications.filter (isOwn firmCode officeCodes)

def ownApplicationIds : List ℕ := (s.ownApplications firmCode officeCodes).map (·.applicationId)

def ownClaims : List Claim :=
  s.claims.filter fun c => c.applicationId ∈ s.ownApplicationIds firmCode officeCodes

def ownClaimIds : List ℕ := (s.ownClaims firmCode officeCodes).map (·.claimId)

def ownDecisions : List ClaimDecision :=
  s.claimDecisions.filter fun d => d.claimId ∈ s.ownClaimIds firmCode officeCodes

def ownDecisionIds : List ℕ := (s.ownDecisions firmCode officeCodes).map (·.claimDecisionId)

/-- Evidence without its links to the claims of others. -/
def ownEvidence : List ClaimEvidence :=
  s.claimEvidence.map (unlinked (s.ownClaimIds firmCode officeCodes))

end Store

/-- Two databases that are equal except for the applications of other firms and offices, and the
claims and decisions on them. -/
structure SameExceptOthers (firmCode : String) (officeCodes : List String) (s₁ s₂ : Store) : Prop where
  applications : s₁.ownApplications firmCode officeCodes = s₂.ownApplications firmCode officeCodes
  claims : s₁.ownClaims firmCode officeCodes = s₂.ownClaims firmCode officeCodes
  decisions : s₁.ownDecisions firmCode officeCodes = s₂.ownDecisions firmCode officeCodes
  reasons : s₁.decisionReasons.filter (fun r =>
      r.claimDecisionId ∈ s₁.ownDecisionIds firmCode officeCodes)
    = s₂.decisionReasons.filter (fun r => r.claimDecisionId ∈ s₂.ownDecisionIds firmCode officeCodes)
  amounts : s₁.claimDecisionAmounts.filter (fun a =>
      a.claimDecisionId ∈ s₁.ownDecisionIds firmCode officeCodes)
    = s₂.claimDecisionAmounts.filter (fun a =>
      a.claimDecisionId ∈ s₂.ownDecisionIds firmCode officeCodes)
  outcomes : s₁.claimInquestOutcomes.filter (fun o => o.claimId ∈ s₁.ownClaimIds firmCode officeCodes)
    = s₂.claimInquestOutcomes.filter (fun o => o.claimId ∈ s₂.ownClaimIds firmCode officeCodes)
  templates : s₁.claimCostTemplates.filter (fun t => t.claimId ∈ s₁.ownClaimIds firmCode officeCodes)
    = s₂.claimCostTemplates.filter (fun t => t.claimId ∈ s₂.ownClaimIds firmCode officeCodes)
  evidence : s₁.ownEvidence firmCode officeCodes = s₂.ownEvidence firmCode officeCodes

/-- What the schema promises of references and keys. -/
structure SchemaReferences (s : Store) : Prop where
  laaReferences : (s.applications.map (·.laaReference)).Nodup
  claimReferences : (s.claims.map (·.claimReference)).Nodup
  keys : SchemaKeys s

/-- A reference names an application of the user's firm, at another office. -/
def NamesOtherOffice (firmCode : String) (officeCodes : List String) (laaReference : String)
    (s : Store) : Prop :=
  ∃ a, s.getApplicationByLaaReference laaReference = some a ∧ a.provider.firmCode = firmCode
    ∧ a.provider.officeId ∉ officeCodes

/-- A reference names no application but the user's own. -/
def NamesNoOther (firmCode : String) (officeCodes : List String) (laaReference : String)
    (s : Store) : Prop :=
  ∀ a, s.getApplicationByLaaReference laaReference = some a → isOwn firmCode officeCodes a = true

section Reads

variable {firmCode laaReference claimReference : String} {officeCodes : List String} {s s₁ s₂ : Store}
variable {a : Application} {c : Claim}

namespace SameExceptOthers

theorem symm (h : SameExceptOthers firmCode officeCodes s₁ s₂) :
    SameExceptOthers firmCode officeCodes s₂ s₁ :=
  ⟨h.applications.symm, h.claims.symm, h.decisions.symm, h.reasons.symm, h.amounts.symm,
    h.outcomes.symm, h.templates.symm, h.evidence.symm⟩

theorem applicationIds (h : SameExceptOthers firmCode officeCodes s₁ s₂) :
    s₁.ownApplicationIds firmCode officeCodes = s₂.ownApplicationIds firmCode officeCodes :=
  congrArg (List.map Application.applicationId) h.applications

theorem claimIds (h : SameExceptOthers firmCode officeCodes s₁ s₂) :
    s₁.ownClaimIds firmCode officeCodes = s₂.ownClaimIds firmCode officeCodes :=
  congrArg (List.map Claim.claimId) h.claims

theorem decisionIds (h : SameExceptOthers firmCode officeCodes s₁ s₂) :
    s₁.ownDecisionIds firmCode officeCodes = s₂.ownDecisionIds firmCode officeCodes :=
  congrArg (List.map ClaimDecision.claimDecisionId) h.decisions

theorem claimsOf (h : SameExceptOthers firmCode officeCodes s₁ s₂)
    (ha : a.applicationId ∈ s₁.ownApplicationIds firmCode officeCodes) :
    s₁.getClaimsByApplicationId a.applicationId = s₂.getClaimsByApplicationId a.applicationId := by
  have hclaims := h.claims
  unfold Store.ownClaims at hclaims
  rw [← h.applicationIds] at hclaims
  exact Join.filter_key_congr hclaims ha

theorem decisionOf (h : SameExceptOthers firmCode officeCodes s₁ s₂)
    (hc : c.claimId ∈ s₁.ownClaimIds firmCode officeCodes) :
    s₁.getClaimDecisionByClaimId c.claimId = s₂.getClaimDecisionByClaimId c.claimId := by
  have hdecisions := h.decisions
  unfold Store.ownDecisions at hdecisions
  rw [← h.claimIds] at hdecisions
  unfold Store.getClaimDecisionByClaimId
  rw [Join.filter_key_congr hdecisions hc]

end SameExceptOthers

/-- The claims of an own application are own claims. -/
theorem mem_ownClaimIds (hc : c ∈ s.claims)
    (ha : c.applicationId ∈ s.ownApplicationIds firmCode officeCodes) :
    c.claimId ∈ s.ownClaimIds firmCode officeCodes := by
  unfold Store.ownClaimIds Store.ownClaims
  apply List.mem_map_of_mem
  exact List.mem_filter.mpr ⟨hc, decide_eq_true ha⟩

theorem mem_ownApplicationIds (ha : a ∈ s.applications) (hown : isOwn firmCode officeCodes a = true) :
    a.applicationId ∈ s.ownApplicationIds firmCode officeCodes := by
  unfold Store.ownApplicationIds Store.ownApplications
  apply List.mem_map_of_mem
  exact List.mem_filter.mpr ⟨ha, hown⟩

theorem lookup_eq_some_iff (hs : SchemaReferences s) :
    s.getApplicationByLaaReference laaReference = some a
      ↔ a ∈ s.applications ∧ a.laaReference = normaliseReference laaReference :=
  Join.find?_key_iff hs.laaReferences

theorem unlinked_claimId {claimIds : List ℕ} {claimId : ℕ} (hid : claimId ∈ claimIds)
    (e : ClaimEvidence) : (unlinked claimIds e).claimId = some claimId ↔ e.claimId = some claimId := by
  unfold unlinked
  rw [Option.filter_eq_some_iff]
  constructor
  · exact fun h => h.1
  · exact fun h => ⟨h, decide_eq_true hid⟩

theorem unlinked_of_claimId {claimIds : List ℕ} {claimId : ℕ} (hid : claimId ∈ claimIds)
    {e : ClaimEvidence} (he : e.claimId = some claimId) : unlinked claimIds e = e := by
  unfold unlinked
  rw [he, Option.filter_some, if_pos (decide_eq_true hid), ← he]

theorem ownEvidence_filter {claimId : ℕ} (hid : claimId ∈ s.ownClaimIds firmCode officeCodes) :
    (s.ownEvidence firmCode officeCodes).filter (fun e => e.claimId = some claimId)
      = s.claimEvidence.filter fun e => e.claimId = some claimId := by
  unfold Store.ownEvidence
  rw [List.filter_map]
  have hkept : s.claimEvidence.filter ((fun e : ClaimEvidence => decide (e.claimId = some claimId))
        ∘ unlinked (s.ownClaimIds firmCode officeCodes))
      = s.claimEvidence.filter fun e => e.claimId = some claimId := by
    apply List.filter_congr
    intro e _
    exact decide_eq_decide.mpr (unlinked_claimId hid e)
  rw [hkept]
  refine (List.map_congr_left fun e he => ?_).trans (List.map_id _)
  exact unlinked_of_claimId hid (of_decide_eq_true (List.mem_filter.mp he).2)

theorem ownEvidence_size (claimEvidenceId : Uuid) :
    ((s.ownEvidence firmCode officeCodes).find? fun e => e.claimEvidenceId = claimEvidenceId).bind
        (·.fileSize)
      = (s.getClaimEvidenceById claimEvidenceId).bind (·.fileSize) := by
  unfold Store.ownEvidence Store.getClaimEvidenceById
  rw [List.find?_map, Option.bind_map]
  rfl

theorem claimLookup_eq_some_iff (hs : SchemaReferences s) :
    s.getClaimByReference claimReference = some c
      ↔ c ∈ s.claims ∧ c.claimReference = claimReference :=
  Join.find?_key_iff hs.claimReferences

/-- A search goes through the user's own applications only. -/
theorem searchApplications_own (meritsDecision : Option MeritsDecision) :
    searchApplications laaReference firmCode officeCodes meritsDecision s
      = (s.ownApplications firmCode officeCodes).filter fun a =>
        a.laaReference = normaliseReference laaReference
          && meritsDecision.all fun decision => a.proceeding.meritsDecision = decision := by
  unfold searchApplications Store.ownApplications
  rw [List.filter_filter]
  apply List.filter_congr
  intro a _
  exact Bool.and_comm _ _

theorem getClaimDecisionByClaimId_own {d : ClaimDecision}
    (hid : c.claimId ∈ s.ownClaimIds firmCode officeCodes)
    (hd : s.getClaimDecisionByClaimId c.claimId = some d) :
    d ∈ s.ownDecisions firmCode officeCodes := by
  have hmem := List.mem_of_head? hd
  rw [List.mem_insertionSort, List.mem_filter, decide_eq_true_eq] at hmem
  refine List.mem_filter.mpr ⟨hmem.1, decide_eq_true ?_⟩
  rw [hmem.2]
  exact hid

theorem getClaim_notFound (ha : s.getApplicationByLaaReference laaReference = some a)
    (hother : ∀ c, s.getClaimByReference claimReference = some c → c.applicationId ≠ a.applicationId) :
    GetClaimUseCase.execute laaReference claimReference s = .error (.claimNotFound claimReference) := by
  unfold GetClaimUseCase.execute
  rw [ha]
  cases hfound : s.getClaimByReference claimReference with
  | none => rfl
  | some c => exact if_pos (hother c hfound)

theorem getClaim_found (ha : s.getApplicationByLaaReference laaReference = some a)
    (hfound : s.getClaimByReference claimReference = some c)
    (hof : c.applicationId = a.applicationId) :
    GetClaimUseCase.execute laaReference claimReference s = .ok (GetClaimUseCase.response s a c) := by
  unfold GetClaimUseCase.execute
  rw [ha, hfound]
  exact if_neg (not_not.mpr hof)

namespace SameExceptOthers

theorem lookup (h : SameExceptOthers firmCode officeCodes s₁ s₂) (hs₁ : SchemaReferences s₁)
    (hs₂ : SchemaReferences s₂) (hfound : s₁.getApplicationByLaaReference laaReference = some a)
    (hown : isOwn firmCode officeCodes a = true) :
    s₂.getApplicationByLaaReference laaReference = some a := by
  obtain ⟨ha, hreference⟩ := (lookup_eq_some_iff hs₁).mp hfound
  refine (lookup_eq_some_iff hs₂).mpr ⟨?_, hreference⟩
  have hmem : a ∈ s₁.ownApplications firmCode officeCodes := List.mem_filter.mpr ⟨ha, hown⟩
  rw [h.applications] at hmem
  exact (List.mem_filter.mp hmem).1

/-- A reference that names no case of others names the same in both. -/
theorem lookup_eq (h : SameExceptOthers firmCode officeCodes s₁ s₂) (hs₁ : SchemaReferences s₁)
    (hs₂ : SchemaReferences s₂) (hown₁ : NamesNoOther firmCode officeCodes laaReference s₁)
    (hown₂ : NamesNoOther firmCode officeCodes laaReference s₂) :
    s₁.getApplicationByLaaReference laaReference = s₂.getApplicationByLaaReference laaReference := by
  cases hfound₁ : s₁.getApplicationByLaaReference laaReference with
  | some a => exact (h.lookup hs₁ hs₂ hfound₁ (hown₁ a hfound₁)).symm
  | none =>
      cases hfound₂ : s₂.getApplicationByLaaReference laaReference with
      | none => rfl
      | some a =>
          have hfound := h.symm.lookup hs₂ hs₁ hfound₂ (hown₂ a hfound₂)
          rw [hfound₁] at hfound
          cases hfound

theorem search (h : SameExceptOthers firmCode officeCodes s₁ s₂) (env : Env) (faults : Faults)
    (meritsDecision : Option MeritsDecision) :
    SearchApplicationUseCase.execute env faults laaReference firmCode officeCodes meritsDecision s₁
      = SearchApplicationUseCase.execute env faults laaReference firmCode officeCodes meritsDecision
        s₂ := by
  unfold SearchApplicationUseCase.execute
  rw [searchApplications_own, searchApplications_own, h.applications]

theorem summary (h : SameExceptOthers firmCode officeCodes s₁ s₂)
    (hc : c.claimId ∈ s₁.ownClaimIds firmCode officeCodes) :
    ListApplicationClaimsUseCase.summary s₁ c = ListApplicationClaimsUseCase.summary s₂ c := by
  unfold ListApplicationClaimsUseCase.summary
  rw [h.decisionOf hc]

theorem listClaims (h : SameExceptOthers firmCode officeCodes s₁ s₂) (hs₁ : SchemaReferences s₁)
    (hs₂ : SchemaReferences s₂) (hown₁ : NamesNoOther firmCode officeCodes laaReference s₁)
    (hown₂ : NamesNoOther firmCode officeCodes laaReference s₂) (assessed : Bool) :
    ListApplicationClaimsUseCase.execute laaReference assessed s₁
      = ListApplicationClaimsUseCase.execute laaReference assessed s₂ := by
  unfold ListApplicationClaimsUseCase.execute
  rw [← h.lookup_eq hs₁ hs₂ hown₁ hown₂]
  cases hfound : s₁.getApplicationByLaaReference laaReference with
  | none => rfl
  | some a =>
      have ha := mem_ownApplicationIds ((lookup_eq_some_iff hs₁).mp hfound).1 (hown₁ a hfound)
      dsimp only
      rw [← h.claimsOf ha]
      refine congrArg Except.ok (List.map_congr_left fun c hc => ?_)
      obtain ⟨hstored, happ⟩ := List.mem_filter.mp (List.mem_filter.mp hc).1
      apply h.summary
      apply mem_ownClaimIds hstored
      rw [of_decide_eq_true happ]
      exact ha

theorem decisionResponse (h : SameExceptOthers firmCode officeCodes s₁ s₂) {d : ClaimDecision}
    (hd : d ∈ s₁.ownDecisions firmCode officeCodes) :
    GetClaimUseCase.decisionResponse s₁ d = GetClaimUseCase.decisionResponse s₂ d := by
  have hid : d.claimDecisionId ∈ s₁.ownDecisionIds firmCode officeCodes := List.mem_map_of_mem hd
  have hreasons := h.reasons
  have hamounts := h.amounts
  rw [← h.decisionIds] at hreasons hamounts
  unfold GetClaimUseCase.decisionResponse
  rw [Join.filter_key_congr hreasons hid, Join.find?_key_congr hamounts hid]

theorem response (h : SameExceptOthers firmCode officeCodes s₁ s₂) (hc : c ∈ s₁.claims)
    (ha : c.applicationId ∈ s₁.ownApplicationIds firmCode officeCodes) :
    GetClaimUseCase.response s₁ a c = GetClaimUseCase.response s₂ a c := by
  have hid := mem_ownClaimIds hc ha
  have hevidence : s₁.claimEvidence.filter (fun e => e.claimId = some c.claimId)
      = s₂.claimEvidence.filter fun e => e.claimId = some c.claimId := by
    rw [← ownEvidence_filter hid, h.evidence, ownEvidence_filter (h.claimIds ▸ hid)]
  have hsize : ∀ id, (s₁.getClaimEvidenceById id).bind (·.fileSize)
      = (s₂.getClaimEvidenceById id).bind (·.fileSize) := by
    intro id
    rw [← ownEvidence_size, h.evidence, ownEvidence_size]
  have htemplate : GetClaimUseCase.templateResponse s₁ = GetClaimUseCase.templateResponse s₂ := by
    funext template
    unfold GetClaimUseCase.templateResponse
    rw [hsize]
  have houtcomes := h.outcomes
  have htemplates := h.templates
  rw [← h.claimIds] at houtcomes htemplates
  have hdecision : (s₁.getClaimDecisionByClaimId c.claimId).map (GetClaimUseCase.decisionResponse s₁)
      = (s₂.getClaimDecisionByClaimId c.claimId).map (GetClaimUseCase.decisionResponse s₂) := by
    rw [← h.decisionOf hid]
    exact Option.map_congr fun d hd => h.decisionResponse (getClaimDecisionByClaimId_own hid hd)
  unfold GetClaimUseCase.response
  rw [hevidence, hdecision, Join.filter_key_congr houtcomes hid, Join.find?_key_congr htemplates hid,
    htemplate]

theorem claimLookup (h : SameExceptOthers firmCode officeCodes s₁ s₂) (hs₁ : SchemaReferences s₁)
    (hs₂ : SchemaReferences s₂) (hfound : s₁.getClaimByReference claimReference = some c)
    (ha : c.applicationId ∈ s₁.ownApplicationIds firmCode officeCodes) :
    s₂.getClaimByReference claimReference = some c := by
  obtain ⟨hc, hreference⟩ := (claimLookup_eq_some_iff hs₁).mp hfound
  refine (claimLookup_eq_some_iff hs₂).mpr ⟨?_, hreference⟩
  have hmem : c ∈ s₁.ownClaims firmCode officeCodes := List.mem_filter.mpr ⟨hc, decide_eq_true ha⟩
  rw [h.claims] at hmem
  exact (List.mem_filter.mp hmem).1

theorem getClaim (h : SameExceptOthers firmCode officeCodes s₁ s₂) (hs₁ : SchemaReferences s₁)
    (hs₂ : SchemaReferences s₂) (hown₁ : NamesNoOther firmCode officeCodes laaReference s₁)
    (hown₂ : NamesNoOther firmCode officeCodes laaReference s₂) :
    GetClaimUseCase.execute laaReference claimReference s₁
      = GetClaimUseCase.execute laaReference claimReference s₂ := by
  cases hfound₁ : s₁.getApplicationByLaaReference laaReference with
  | none =>
      have hfound₂ := (h.lookup_eq hs₁ hs₂ hown₁ hown₂).symm.trans hfound₁
      unfold GetClaimUseCase.execute
      rw [hfound₁, hfound₂]
  | some a =>
      have hfound₂ := (h.lookup_eq hs₁ hs₂ hown₁ hown₂).symm.trans hfound₁
      have ha₁ := mem_ownApplicationIds ((lookup_eq_some_iff hs₁).mp hfound₁).1 (hown₁ a hfound₁)
      by_cases hclaim : ∃ c, s₁.getClaimByReference claimReference = some c
          ∧ c.applicationId = a.applicationId
      · obtain ⟨c, hc₁, hof⟩ := hclaim
        have hown : c.applicationId ∈ s₁.ownApplicationIds firmCode officeCodes := hof ▸ ha₁
        have hc₂ := h.claimLookup hs₁ hs₂ hc₁ hown
        rw [getClaim_found hfound₁ hc₁ hof, getClaim_found hfound₂ hc₂ hof,
          h.response ((claimLookup_eq_some_iff hs₁).mp hc₁).1 hown]
      · have hother₁ : ∀ c, s₁.getClaimByReference claimReference = some c →
            c.applicationId ≠ a.applicationId := by
          intro c hc hof
          exact hclaim ⟨c, hc, hof⟩
        have hother₂ : ∀ c, s₂.getClaimByReference claimReference = some c →
            c.applicationId ≠ a.applicationId := by
          intro c hc hof
          have hown : c.applicationId ∈ s₂.ownApplicationIds firmCode officeCodes := by
            rw [hof, ← h.applicationIds]
            exact ha₁
          exact hclaim ⟨c, h.symm.claimLookup hs₂ hs₁ hc hown, hof⟩
        rw [getClaim_notFound hfound₁ hother₁, getClaim_notFound hfound₂ hother₂]

end SameExceptOthers

end Reads

section Preparation

variable {command : CreateClaimCommand} {s s₁ s₂ : Store} {a : Application}

theorem findApplication_own (h : CreateClaim.findApplication command s = .ok a) :
    a ∈ s.applications ∧ isOwn command.firmCode command.officeCodes a = true := by
  unfold CreateClaim.findApplication at h
  cases hfound : s.getApplicationByLaaReference command.laaReference with
  | none =>
      rw [hfound] at h
      cases h
  | some found =>
      rw [hfound] at h
      dsimp only at h
      split_ifs at h with hfirm hoffice
      cases h
      refine ⟨List.mem_of_find?_eq_some hfound, ?_⟩
      exact Bool.and_eq_true_iff.mpr ⟨decide_eq_true (not_not.mp hfirm),
        decide_eq_true hoffice⟩

/-- An application that is not the user's own is refused for its office, or not found. -/
theorem findApplication_other
    (hother : ∀ a, s.getApplicationByLaaReference command.laaReference = some a →
      ¬ isOwn command.firmCode command.officeCodes a = true) :
    (NamesOtherOffice command.firmCode command.officeCodes command.laaReference s
        ∧ CreateClaim.findApplication command s = .error (.providerOfficeMismatch command.laaReference))
      ∨ ¬ NamesOtherOffice command.firmCode command.officeCodes command.laaReference s
        ∧ CreateClaim.findApplication command s = .error (.applicationNotFound command.laaReference) := by
  unfold CreateClaim.findApplication
  cases hfound : s.getApplicationByLaaReference command.laaReference with
  | none =>
      refine Or.inr ⟨?_, rfl⟩
      intro ⟨a, ha, _⟩
      rw [hfound] at ha
      cases ha
  | some a =>
      by_cases hfirm : a.provider.firmCode = command.firmCode
      · have hoffice : a.provider.officeId ∉ command.officeCodes := by
          intro hoffice
          refine hother a hfound (Bool.and_eq_true_iff.mpr ⟨?_, ?_⟩)
          · exact decide_eq_true hfirm
          · exact decide_eq_true hoffice
        refine Or.inl ⟨⟨a, hfound, hfirm, hoffice⟩, ?_⟩
        dsimp only
        rw [if_neg (not_not.mpr hfirm), if_pos hoffice]
      · refine Or.inr ⟨?_, if_pos hfirm⟩
        intro ⟨b, hb, hsame, _⟩
        rw [hfound] at hb
        cases hb
        exact hfirm hsame

namespace SameExceptOthers

variable (h : SameExceptOthers command.firmCode command.officeCodes s₁ s₂)
  (hs₁ : SchemaReferences s₁) (hs₂ : SchemaReferences s₂)

include h hs₁ hs₂ in
theorem findApplication
    (hoffice : NamesOtherOffice command.firmCode command.officeCodes command.laaReference s₁
      ↔ NamesOtherOffice command.firmCode command.officeCodes command.laaReference s₂) :
    CreateClaim.findApplication command s₁ = CreateClaim.findApplication command s₂ := by
  by_cases hown : ∃ a, s₁.getApplicationByLaaReference command.laaReference = some a
      ∧ isOwn command.firmCode command.officeCodes a = true
  · obtain ⟨a, hfound, hown⟩ := hown
    unfold CreateClaim.findApplication
    rw [hfound, h.lookup hs₁ hs₂ hfound hown]
  · have hother₁ : ∀ a, s₁.getApplicationByLaaReference command.laaReference = some a →
        ¬ isOwn command.firmCode command.officeCodes a = true := by
      intro a hfound hisOwn
      exact hown ⟨a, hfound, hisOwn⟩
    have hother₂ : ∀ a, s₂.getApplicationByLaaReference command.laaReference = some a →
        ¬ isOwn command.firmCode command.officeCodes a = true := by
      intro a hfound hisOwn
      exact hown ⟨a, h.symm.lookup hs₂ hs₁ hfound hisOwn, hisOwn⟩
    rcases findApplication_other hother₁ with ⟨hoffice₁, hfind₁⟩ | ⟨hoffice₁, hfind₁⟩
    · rcases findApplication_other hother₂ with ⟨_, hfind₂⟩ | ⟨hoffice₂, _⟩
      · rw [hfind₁, hfind₂]
      · exact absurd (hoffice.mp hoffice₁) hoffice₂
    · rcases findApplication_other hother₂ with ⟨hoffice₂, _⟩ | ⟨_, hfind₂⟩
      · exact absurd (hoffice.mpr hoffice₂) hoffice₁
      · rw [hfind₁, hfind₂]

include h in
theorem totalFundsRemaining {validatedClaim : DomainClaim}
    (ha : a.applicationId ∈ s₁.ownApplicationIds command.firmCode command.officeCodes) :
    CreateClaim.calculateTotalFundsRemaining a validatedClaim s₁
      = CreateClaim.calculateTotalFundsRemaining a validatedClaim s₂ := by
  have hamounts : CreateClaim.existingClaimAmounts a.applicationId s₁
      = CreateClaim.existingClaimAmounts a.applicationId s₂ := by
    unfold CreateClaim.existingClaimAmounts
    rw [← h.claimsOf ha]
    apply List.map_congr_left
    intro c hc
    obtain ⟨hstored, happ⟩ := List.mem_filter.mp hc
    have hid : c.claimId ∈ s₁.ownClaimIds command.firmCode command.officeCodes := by
      apply mem_ownClaimIds hstored
      rw [of_decide_eq_true happ]
      exact ha
    rw [h.decisionOf hid]
  unfold CreateClaim.calculateTotalFundsRemaining
  rw [hamounts]

include h hs₁ hs₂ in
/-- What a request checks before its first write is the same in both. -/
theorem prepare
    (hoffice : NamesOtherOffice command.firmCode command.officeCodes command.laaReference s₁
      ↔ NamesOtherOffice command.firmCode command.officeCodes command.laaReference s₂) :
    CreateClaim.prepare command s₁ = CreateClaim.prepare command s₂ := by
  unfold CreateClaim.prepare
  rw [← h.findApplication hs₁ hs₂ hoffice]
  cases hfind : CreateClaim.findApplication command s₁ with
  | error e => rfl
  | ok a =>
      obtain ⟨hmem, hown⟩ := findApplication_own hfind
      have ha := mem_ownApplicationIds hmem hown
      have hfunds : ∀ claim, CreateClaim.calculateTotalFundsRemaining a claim s₁
          = CreateClaim.calculateTotalFundsRemaining a claim s₂ := fun _ => h.totalFundsRemaining ha
      simp only [bind, Except.bind, h.claimsOf ha, hfunds]

end SameExceptOthers

end Preparation

/-- The answers agree, up to the reference of a new claim. -/
def AgreeUpToReference (a₁ a₂ : Except (Raised ApiError) ClaimResponse) : Prop :=
  a₁.map (·.rejectionReasons) = a₂.map (·.rejectionReasons)

/-- Only in the first database does the reference name an application of the user's firm at another
office; there the request is refused for the office, in the other nothing is found. -/
structure RefusedForOffice (command : CreateClaimCommand) (s₁ s₂ : Store)
    (a₁ a₂ : Except (Raised ApiError) ClaimResponse) : Prop where
  named : NamesOtherOffice command.firmCode command.officeCodes command.laaReference s₁
  unnamed : ¬ NamesOtherOffice command.firmCode command.officeCodes command.laaReference s₂
  refused : a₁ = .error (.call (.providerOfficeMismatch command.laaReference))
  notFound : a₂ = .error (.call (.applicationNotFound command.laaReference))

/-- Only in the first database are all the references taken that the request draws. -/
structure OutOfReferences (env : Env) (s₁ s₂ : Store)
    (a₁ : Except (Raised ApiError) ClaimResponse) : Prop where
  raised : ∃ e, getClaimReference env s₁ = .error e ∧ a₁ = .error (.call e)
  drawn : ∃ reference, getClaimReference env s₂ = .ok reference

/-- The answers to one create request, in the same surroundings. -/
def SameCreateAnswers (env : Env) (command : CreateClaimCommand) (s₁ s₂ : Store)
    (a₁ a₂ : Except (Raised ApiError) ClaimResponse) : Prop :=
  AgreeUpToReference a₁ a₂
    ∨ (RefusedForOffice command s₁ s₂ a₁ a₂ ∨ RefusedForOffice command s₂ s₁ a₂ a₁)
    ∨ OutOfReferences env s₁ s₂ a₁ ∨ OutOfReferences env s₂ s₁ a₂

section Creation

open CreateClaim

variable {env : Env} {faults : Faults} {command : CreateClaimCommand} {s s₁ s₂ : Store}

theorem answer_of_error {e : ApiError} (h : CreateClaim.prepare command s = .error e) :
    answer (CreateClaim.execute env faults command (.start s)) = .error (.call e) := by
  rw [execute_of_error h]
  rfl

/-- Before the application is looked up, only the evidence of the command is checked. -/
theorem prepare_of_findApplication {e : ApiError} (hevidence : checkEvidence command = .ok ())
    (hfind : CreateClaim.findApplication command s = .error e) :
    CreateClaim.prepare command s = .error e := by
  unfold CreateClaim.prepare
  rw [hevidence, hfind]
  rfl

theorem prepare_of_checkEvidence {e : ApiError} (hevidence : checkEvidence command = .error e) :
    CreateClaim.prepare command s = .error e := by
  unfold CreateClaim.prepare
  rw [hevidence]
  rfl

/-- Requests whose checks agree answer alike, unless one of them alone draws no reference. -/
theorem createPrepared (hs₁ : SchemaReferences s₁) (hs₂ : SchemaReferences s₂)
    (hprepare : CreateClaim.prepare command s₁ = CreateClaim.prepare command s₂) :
    SameCreateAnswers env command s₁ s₂
      (answer (CreateClaim.execute env faults command (.start s₁)))
      (answer (CreateClaim.execute env faults command (.start s₂))) := by
  cases hprepared : CreateClaim.prepare command s₁ with
  | error e =>
      left
      unfold AgreeUpToReference
      rw [answer_of_error hprepared, answer_of_error (hprepare.symm.trans hprepared)]
  | ok prepared =>
      have hprepared₂ := hprepare.symm.trans hprepared
      cases hdraw₁ : getClaimReference env s₁ with
      | error e₁ =>
          cases hdraw₂ : getClaimReference env s₂ with
          | error e₂ =>
              left
              have hdraws : SameDraws env s₁ s₂ := by
                unfold SameDraws
                rw [hdraw₁, hdraw₂]
                simp
              exact answer_alike hprepare hs₁.keys hs₂.keys hdraws
          | ok reference =>
              refine Or.inr (Or.inr (Or.inl ⟨⟨e₁, hdraw₁, ?_⟩, ⟨reference, hdraw₂⟩⟩))
              exact answer_of_no_reference hprepared hdraw₁
      | ok reference₁ =>
          cases hdraw₂ : getClaimReference env s₂ with
          | error e₂ =>
              refine Or.inr (Or.inr (Or.inr ⟨⟨e₂, hdraw₂, ?_⟩, ⟨reference₁, hdraw₁⟩⟩))
              exact answer_of_no_reference hprepared₂ hdraw₂
          | ok reference₂ =>
              left
              have hdraws : SameDraws env s₁ s₂ := iff_of_true ⟨reference₁, hdraw₁⟩ ⟨reference₂, hdraw₂⟩
              exact answer_alike hprepare hs₁.keys hs₂.keys hdraws

namespace SameExceptOthers

variable (h : SameExceptOthers command.firmCode command.officeCodes s₁ s₂)
  (hs₁ : SchemaReferences s₁) (hs₂ : SchemaReferences s₂)

include h hs₁ hs₂ in
/-- An application at another office of the firm is told from none at all. -/
theorem refusedForOffice (hevidence : checkEvidence command = .ok ())
    (hnamed : NamesOtherOffice command.firmCode command.officeCodes command.laaReference s₁)
    (hunnamed : ¬ NamesOtherOffice command.firmCode command.officeCodes command.laaReference s₂) :
    RefusedForOffice command s₁ s₂ (answer (CreateClaim.execute env faults command (.start s₁)))
      (answer (CreateClaim.execute env faults command (.start s₂))) := by
  obtain ⟨a, hfound, hfirm, hoffice⟩ := hnamed
  have hforeign : ¬ isOwn command.firmCode command.officeCodes a = true := by
    intro hown
    exact hoffice (of_decide_eq_true (Bool.and_eq_true_iff.mp hown).2)
  have hother₁ : ∀ b, s₁.getApplicationByLaaReference command.laaReference = some b →
      ¬ isOwn command.firmCode command.officeCodes b = true := by
    intro b hb
    rw [hfound] at hb
    cases hb
    exact hforeign
  have hother₂ : ∀ b, s₂.getApplicationByLaaReference command.laaReference = some b →
      ¬ isOwn command.firmCode command.officeCodes b = true := by
    intro b hb hown
    exact hother₁ b (h.symm.lookup hs₂ hs₁ hb hown) hown
  have hrefused := (findApplication_other hother₁).resolve_right fun hnot =>
    hnot.1 ⟨a, hfound, hfirm, hoffice⟩
  have hmissing := (findApplication_other hother₂).resolve_left fun hnames => hunnamed hnames.1
  exact ⟨hrefused.1, hunnamed, answer_of_error (prepare_of_findApplication hevidence hrefused.2),
    answer_of_error (prepare_of_findApplication hevidence hmissing.2)⟩

include h hs₁ hs₂ in
theorem create : SameCreateAnswers env command s₁ s₂
    (answer (CreateClaim.execute env faults command (.start s₁)))
    (answer (CreateClaim.execute env faults command (.start s₂))) := by
  cases hevidence : checkEvidence command with
  | error e =>
      left
      unfold AgreeUpToReference
      rw [answer_of_error (prepare_of_checkEvidence hevidence),
        answer_of_error (prepare_of_checkEvidence hevidence)]
  | ok _ =>
      by_cases hnamed₁ : NamesOtherOffice command.firmCode command.officeCodes command.laaReference s₁
      · by_cases hnamed₂ : NamesOtherOffice command.firmCode command.officeCodes command.laaReference s₂
        · exact createPrepared hs₁ hs₂ (h.prepare hs₁ hs₂ (iff_of_true hnamed₁ hnamed₂))
        · exact Or.inr (Or.inl (Or.inl (h.refusedForOffice hs₁ hs₂ hevidence hnamed₁ hnamed₂)))
      · by_cases hnamed₂ : NamesOtherOffice command.firmCode command.officeCodes command.laaReference s₂
        · exact Or.inr (Or.inl (Or.inr (h.symm.refusedForOffice hs₂ hs₁ hevidence hnamed₂ hnamed₁)))
        · exact createPrepared hs₁ hs₂ (h.prepare hs₁ hs₂ (iff_of_false hnamed₁ hnamed₂))

end SameExceptOthers

end Creation

/-- What the user of a firm and its offices is answered, whatever the request. Lists and claims are
compared where the user does not ask for an application of others. -/
structure SameAnswers (firmCode : String) (officeCodes : List String) (s₁ s₂ : Store) : Prop where
  search : ∀ (env : Env) (faults : Faults) (laaReference : String)
      (meritsDecision : Option MeritsDecision),
    SearchApplicationUseCase.execute env faults laaReference firmCode officeCodes meritsDecision s₁
      = SearchApplicationUseCase.execute env faults laaReference firmCode officeCodes meritsDecision s₂
  create : ∀ (env : Env) (faults : Faults) (command : CreateClaimCommand),
    command.firmCode = firmCode → command.officeCodes = officeCodes →
    SameCreateAnswers env command s₁ s₂
      (CreateClaim.answer (CreateClaim.execute env faults command (.start s₁)))
      (CreateClaim.answer (CreateClaim.execute env faults command (.start s₂)))
  listClaims : ∀ (laaReference : String) (assessed : Bool),
    NamesNoOther firmCode officeCodes laaReference s₁ →
    NamesNoOther firmCode officeCodes laaReference s₂ →
    ListApplicationClaimsUseCase.execute laaReference assessed s₁
      = ListApplicationClaimsUseCase.execute laaReference assessed s₂
  getClaim : ∀ (laaReference claimReference : String),
    NamesNoOther firmCode officeCodes laaReference s₁ →
    NamesNoOther firmCode officeCodes laaReference s₂ →
    GetClaimUseCase.execute laaReference claimReference s₁
      = GetClaimUseCase.execute laaReference claimReference s₂

theorem provider_answers_own {firmCode : String} {officeCodes : List String} {s₁ s₂ : Store}
    (h : SameExceptOthers firmCode officeCodes s₁ s₂) (hs₁ : SchemaReferences s₁)
    (hs₂ : SchemaReferences s₂) : SameAnswers firmCode officeCodes s₁ s₂ where
  search := fun env faults _ meritsDecision => h.search env faults meritsDecision
  create := by
    intro env faults command hfirm hoffices
    subst hfirm hoffices
    exact h.create hs₁ hs₂
  listClaims := fun _ assessed hown₁ hown₂ => h.listClaims hs₁ hs₂ hown₁ hown₂ assessed
  getClaim := fun _ _ hown₁ hown₂ => h.getClaim hs₁ hs₂ hown₁ hown₂

namespace Sample

/-- An application of the same firm at another office, and one of another firm. -/
def otherOffice : Application :=
  { application with
    applicationId := 2
    laaReference := "INQ-CCC-CCC"
    provider := ⟨"F1", "O2", "second@example.com"⟩ }

def otherFirm : Application :=
  { application with
    applicationId := 3
    laaReference := "INQ-EEE-EEE"
    provider := ⟨"F2", "O1", "other@example.com"⟩ }

def otherClaim : Claim where
  claimId := 1
  applicationId := 3
  claimReference := "INQC-AAAA-CCCC"
  claimTypeId := .finalBill
  statusId := .submitted
  submissionDate := ⟨date, 0⟩
  totalProfitCostNet := none
  totalProfitCostGross := none
  totalProfitCostVatZero := none
  totalFundsRemainingAfterClaim := 0
  claimantId := none
  poaTypeId := none
  details := .empty

def othersStore : Store :=
  { store with
    applications := [otherOffice, application, otherFirm]
    claims := [otherClaim] }

/-- Surroundings that draw the reference of the other firm's claim, again and again. -/
def stuckEnv : Env := { env with draws := fun _ => env.draws 0 }

theorem sameExceptOthers : SameExceptOthers "F1" ["O1"] store othersStore :=
  ⟨rfl, rfl, rfl, rfl, rfl, rfl, rfl, rfl⟩

theorem schemaReferences_store : SchemaReferences store :=
  ⟨by decide, by decide, Store.schemaKeys_initial _ _ _⟩

theorem schemaReferences_othersStore : SchemaReferences othersStore :=
  ⟨by decide, by decide, ⟨by decide, by decide, by decide, by decide, by decide⟩⟩

end Sample

theorem provider_answers_own_others :
    SearchApplicationUseCase.execute Sample.env noFaults "INQ-CCC-CCC" "F1" ["O1"] none Sample.store
        = SearchApplicationUseCase.execute Sample.env noFaults "INQ-CCC-CCC" "F1" ["O1"] none
          Sample.othersStore
      ∧ GetClaimUseCase.execute "INQ-AAA-AAA" "INQC-AAAA-CCCC" Sample.store
        = GetClaimUseCase.execute "INQ-AAA-AAA" "INQC-AAAA-CCCC" Sample.othersStore := by
  have hsame := provider_answers_own Sample.sameExceptOthers Sample.schemaReferences_store
    Sample.schemaReferences_othersStore
  have hown₁ : NamesNoOther "F1" ["O1"] "INQ-AAA-AAA" Sample.store := by
    intro a ha
    cases ha
    decide
  have hown₂ : NamesNoOther "F1" ["O1"] "INQ-AAA-AAA" Sample.othersStore := by
    intro a ha
    cases ha
    decide
  exact ⟨hsame.search _ _ _ _, hsame.getClaim _ _ hown₁ hown₂⟩

/-- The same user is answered differently on a database with cases of others: about another office of
the firm, about another firm's application, and when another firm's claim takes the reference. -/
theorem answers_tell_others :
    SameExceptOthers "F1" ["O1"] Sample.store Sample.othersStore
      ∧ SchemaReferences Sample.store ∧ SchemaReferences Sample.othersStore
      ∧ (CreateClaim.answer (CreateClaim.execute Sample.env noFaults
            { Sample.poaCommand .expertCost none (some 120) (some 20) with
              laaReference := "INQ-CCC-CCC" } (.start Sample.store))
          = .error (.call (.applicationNotFound "INQ-CCC-CCC"))
        ∧ CreateClaim.answer (CreateClaim.execute Sample.env noFaults
            { Sample.poaCommand .expertCost none (some 120) (some 20) with
              laaReference := "INQ-CCC-CCC" } (.start Sample.othersStore))
          = .error (.call (.providerOfficeMismatch "INQ-CCC-CCC")))
      ∧ (ListApplicationClaimsUseCase.execute "INQ-EEE-EEE" false Sample.store
          = .error (.applicationNotFound "INQ-EEE-EEE")
        ∧ (ListApplicationClaimsUseCase.execute "INQ-EEE-EEE" false Sample.othersStore).isOk = true)
      ∧ (GetClaimUseCase.execute "INQ-EEE-EEE" "INQC-AAAA-CCCC" Sample.store
          = .error (.applicationNotFound "INQ-EEE-EEE")
        ∧ (GetClaimUseCase.execute "INQ-EEE-EEE" "INQC-AAAA-CCCC" Sample.othersStore).isOk = true)
      ∧ ((CreateClaim.answer (CreateClaim.execute Sample.stuckEnv noFaults
            (Sample.poaCommand .expertCost none (some 120) (some 20)) (.start Sample.store))).isOk = true
        ∧ (CreateClaim.answer (CreateClaim.execute Sample.stuckEnv noFaults
            (Sample.poaCommand .expertCost none (some 120) (some 20))
              (.start Sample.othersStore))).isOk = false) := by
  refine ⟨Sample.sameExceptOthers, Sample.schemaReferences_store, Sample.schemaReferences_othersStore,
    ⟨?_, ?_⟩, ⟨?_, ?_⟩, ⟨?_, ?_⟩, ?_, ?_⟩
  · exact rfl
  · exact rfl
  · exact rfl
  · exact rfl
  · exact rfl
  · exact rfl
  · decide +kernel
  · decide +kernel

end InquestsApi
