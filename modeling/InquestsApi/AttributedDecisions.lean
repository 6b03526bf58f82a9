import InquestsApi.ForecastedFunds
import InquestsApi.SecuredRuns

/-! Every decision that is stored is told by an event of the history, and so goes back to the user who
took it, or to the provider's request that was decided without one. -/
namespace InquestsApi

open UnitOfWork HistoryEventRepository

/-- The event tells what was decided of the application. -/
inductive TellsApplication (a : Application) (row : HistoryEvent) : Prop
  | granted (happlication : row.applicationId = a.applicationId)
      (hkind : row.eventReference = .applicationAssessmentCompleted)
      (hdecision : a.proceeding.meritsDecision = .granted)
      (htold : row.data "merits_decision" = some (.text "Granted"))
  | refused (happlication : row.applicationId = a.applicationId)
      (hkind : row.eventReference = .applicationAssessmentCompleted)
      (hdecision : a.proceeding.meritsDecision = .refused)
      (htold : row.data "merits_decision" = some (.text "Refused"))

/-- The event tells what was decided of a claim: by a caseworker, or without one. -/
inductive TellsVerdict (c : Claim) (row : HistoryEvent) : Prop
  | assessed (hkind : row.eventReference = .claimAssessmentCompleted)
      (htold : row.data "claim_decision" = some (.text c.statusId.value))
  | autoApproved (hkind : row.eventReference = .poaAutoApproved) (hstatus : c.statusId = .payInFull)
      (htype : c.claimTypeId = .paymentOnAccount)
  | autoRejected (hkind : row.eventReference = .poaAutoRejected) (hstatus : c.statusId = .rejected)

structure TellsClaim (c : Claim) (row : HistoryEvent) : Prop where
  application : row.applicationId = c.applicationId
  reference : row.data "claim_reference" = some (.text c.claimReference)
  verdict : TellsVerdict c row

def ApplicationsTold (s : Store) : Prop :=
  ∀ a ∈ s.applications, a.proceeding.meritsDecision ≠ .submitted →
    ∃ row ∈ s.historyEvents, TellsApplication a row

def ClaimsTold (s : Store) : Prop :=
  ∀ c ∈ s.claims, c.statusId ≠ .submitted → ∃ row ∈ s.historyEvents, TellsClaim c row

theorem ignoresDecisions_applications : IgnoresDecisions Store.applications where
  history := fun _ _ => rfl
  status := fun _ _ _ => rfl
  decisions := fun _ _ => rfl
  reasons := fun _ _ => rfl
  amounts := fun _ _ => rfl
  extracts := fun _ _ => rfl

theorem ignoresClaims_applications : IgnoresClaims Store.applications where
  toIgnoresDecisions := ignoresDecisions_applications
  claims := fun _ _ => rfl
  evidence := fun _ _ => rfl
  outcomes := fun _ _ => rfl
  templates := fun _ _ => rfl

section Steps

variable {env : Env} {faults : Faults} {request : CaseRequest} {s s' : Store}
variable {rows : List HistoryEvent}

/-- An application with an earlier one's key and decision is told of by the earlier one's event. -/
theorem TellsApplication.congr {a a' : Application} {row : HistoryEvent} (h : TellsApplication a row)
    (hid : a'.applicationId = a.applicationId)
    (hdecision : a'.proceeding.meritsDecision = a.proceeding.meritsDecision) :
    TellsApplication a' row := by
  cases h with
  | granted happlication hkind hgranted htold =>
      exact .granted (happlication.trans hid.symm) hkind (hdecision.trans hgranted) htold
  | refused happlication hkind hrefused htold =>
      exact .refused (happlication.trans hid.symm) hkind (hdecision.trans hrefused) htold

/-- The history grows, and each application that is decided was so before or is told of now. -/
theorem ApplicationsTold.step (hs : ApplicationsTold s)
    (hgrows : s'.historyEvents = s.historyEvents ++ rows)
    (happlications : ∀ a' ∈ s'.applications, a'.proceeding.meritsDecision ≠ .submitted →
      (∃ a ∈ s.applications, a'.applicationId = a.applicationId
        ∧ a'.proceeding.meritsDecision = a.proceeding.meritsDecision)
      ∨ ∃ row ∈ rows, TellsApplication a' row) : ApplicationsTold s' := by
  intro a' ha' hdecided
  rcases happlications a' ha' hdecided with ⟨a, ha, hid, hdecision⟩ | ⟨row, hrow, htells⟩
  · obtain ⟨row, hrow, htells⟩ := hs a ha (hdecision ▸ hdecided)
    refine ⟨row, ?_, htells.congr hid hdecision⟩
    rw [hgrows]
    exact List.mem_append_left _ hrow
  · refine ⟨row, ?_, htells⟩
    rw [hgrows]
    exact List.mem_append_right _ hrow

theorem ApplicationsTold.of_same (hs : ApplicationsTold s)
    (hgrows : s'.historyEvents = s.historyEvents ++ rows) (hsame : s'.applications = s.applications) :
    ApplicationsTold s' := by
  refine hs.step hgrows ?_
  intro a' ha' _
  rw [hsame] at ha'
  exact Or.inl ⟨a', ha', rfl, rfl⟩

theorem Performs.applicationsTold (h : Performs env faults request s s') (hs : ApplicationsTold s) :
    ApplicationsTold s' := by
  have hhistory := ignoresDecisions_applications.toIgnoresHistory
  obtain ⟨rows, hgrows, -⟩ := h.rows
  cases h with
  | creation h =>
      refine hs.step hgrows ?_
      intro a' ha' hdecided
      rw [createBody_applications h] at ha'
      rcases List.mem_append.mp ha' with hold | hnew
      · exact Or.inl ⟨a', hold, rfl, rfl⟩
      · obtain ⟨t₁, u, hcreate, -⟩ := createBody_ok.mp h
        obtain ⟨_, _, _, -, -, -, -, rfl, -⟩ := createApplication_ok.mp hcreate
        rw [List.mem_singleton.mp hnew] at hdecided
        exact absurd rfl hdecided
  | @grant _ _ application _ _ _ _ h =>
      obtain ⟨_, _, _, assessed, _, _, _, -, -, hassessed, -, -, -, happends⟩ := grantBody_appends h
      obtain ⟨-, addressed, -, happlications⟩ := GrantDecisionUseCase.grantBody_ok h
      obtain ⟨actor, id, -, rfl⟩ := hassessed
      refine hs.step happends.rows ?_
      intro a' ha' _
      rw [happlications] at ha'
      rcases mem_updateApplication ha' with ⟨hold, hother⟩ | ⟨b, hb, hid, rfl⟩
      · rcases mem_updateApplication hold with ⟨hold, -⟩ | ⟨a, ha, hid, rfl⟩
        · exact Or.inl ⟨a', hold, rfl, rfl⟩
        · exact absurd hid hother
      · rcases mem_updateApplication hb with ⟨-, hother⟩ | ⟨a, ha, hid, rfl⟩
        · exact absurd hid hother
        · exact Or.inr ⟨_, List.mem_cons_self, .granted hid.symm rfl rfl rfl⟩
  | @refusal _ _ application _ _ _ _ h =>
      obtain ⟨_, assessed, _, -, hassessed, -, happends⟩ := refuseBody_appends h
      obtain ⟨actor, id, -, rfl⟩ := hassessed
      refine hs.step happends.rows ?_
      intro a' ha' _
      rw [refuseBody_ok h] at ha'
      rcases mem_updateApplication ha' with ⟨hold, -⟩ | ⟨a, ha, hid, rfl⟩
      · exact Or.inl ⟨a', hold, rfl, rfl⟩
      · exact Or.inr ⟨_, List.mem_cons_self, .refused hid.symm rfl rfl rfl⟩
  | publicBodies _ h =>
      obtain ⟨_, -, -, -, rfl⟩ := UpdatePublicBodiesUseCase.updatePublicBodies_ok.mp h
      refine hs.step hgrows ?_
      intro a' ha' _
      rcases mem_updateApplication ha' with ⟨hold, -⟩ | ⟨a, ha, -, rfl⟩
      · exact Or.inl ⟨a', hold, rfl, rfl⟩
      · exact Or.inl ⟨a, ha, rfl, rfl⟩
  | note _ h => exact hs.of_same hgrows (createHistoryEvent_keeps _ _ hhistory _ _ _ _ h)
  | submission _ h =>
      exact hs.of_same hgrows (submitClaim_keeps _ _ _ ignoresClaims_applications _ _ _ _ h)
  | confirmation _ h => exact hs.of_same hgrows (confirmSubmission_keeps _ _ _ _ hhistory _ _ _ h)
  | autoRejection _ _ h =>
      exact hs.of_same hgrows (autoRejectClaim_keeps _ _ _ _ ignoresDecisions_applications _ _ _ _ h)
  | autoApproval _ _ h =>
      exact hs.of_same hgrows (autoApproveClaim_keeps _ _ _ _ ignoresDecisions_applications _ _ _ h)
  | payment _ h =>
      exact hs.of_same hgrows (payClaim_keeps _ _ ignoresDecisions_applications _ _ _ _ _ h)
  | rejection _ h =>
      exact hs.of_same hgrows (rejectClaim_keeps _ _ ignoresDecisions_applications _ _ _ _ _ h)
  | approvedEmail _ h => exact hs.of_same hgrows (sendApprovedEmail_keeps _ _ _ hhistory _ _ _ _ h)

theorem ClaimsTold.of_same (hs : ClaimsTold s) (hgrows : s'.historyEvents = s.historyEvents ++ rows)
    (hsame : s'.claims = s.claims) : ClaimsTold s' := by
  intro c hc hdecided
  rw [hsame] at hc
  obtain ⟨row, hrow, htells⟩ := hs c hc hdecided
  refine ⟨row, ?_, htells⟩
  rw [hgrows]
  exact List.mem_append_left _ hrow

theorem ClaimsTold.submitted {claim : Claim} (hs : ClaimsTold s)
    (hgrows : s'.historyEvents = s.historyEvents ++ rows) (hclaims : s'.claims = s.claims ++ [claim])
    (hstatus : claim.statusId = .submitted) : ClaimsTold s' := by
  intro c hc hdecided
  rw [hclaims] at hc
  rcases List.mem_append.mp hc with hold | hnew
  · obtain ⟨row, hrow, htells⟩ := hs c hold hdecided
    refine ⟨row, ?_, htells⟩
    rw [hgrows]
    exact List.mem_append_left _ hrow
  · rw [List.mem_singleton.mp hnew] at hdecided
    exact absurd hstatus hdecided

/-- The claim that is decided is told of by an event of the decision, the others as before. -/
theorem ClaimsTold.decided {claim : Claim} {verdict : Verdict} {decisionRows : DecisionRows}
    {row : HistoryEvent} (hs : ClaimsTold s) (hkeys : (s.claims.map (·.claimId)).Nodup)
    (hdecided : Decided claim.claimId verdict decisionRows s s') (hclaim : claim ∈ s.claims)
    (hgrows : s'.historyEvents = s.historyEvents ++ rows) (hrow : row ∈ rows)
    (htells : TellsClaim (claim.withStatus verdict.status) row) : ClaimsTold s' := by
  intro c hc hstatus
  obtain ⟨c₀, hc₀, rfl⟩ := hdecided.mem_claims.mp hc
  by_cases hkey : c₀.claimId = claim.claimId
  · rw [if_pos hkey, eq_of_claimId hkeys hc₀ hclaim hkey]
    refine ⟨row, ?_, htells⟩
    rw [hgrows]
    exact List.mem_append_right _ hrow
  · rw [if_neg hkey] at hstatus ⊢
    obtain ⟨old, hold, htold⟩ := hs c₀ hc₀ hstatus
    refine ⟨old, ?_, htold⟩
    rw [hgrows]
    exact List.mem_append_left _ hold

theorem Performs.claimsTold (h : Performs env faults request s s')
    (hkeys : (s.claims.map (·.claimId)).Nodup) (hs : ClaimsTold s) : ClaimsTold s' := by
  have hview : IgnoresApplications Store.claims :=
    ⟨⟨⟨fun _ _ => rfl⟩, fun _ _ _ => rfl, fun _ _ _ => rfl, fun _ _ _ => rfl⟩, fun _ _ => rfl,
      fun _ _ => rfl⟩
  obtain ⟨rows, hgrows, -⟩ := h.rows
  by_cases hclaim : ∃ r, request = .claim r
  case neg => exact hs.of_same hgrows (h.keeps_of_case hview (not_exists.mp hclaim))
  obtain ⟨_, rfl⟩ := hclaim
  cases h with
  | confirmation _ h =>
      exact hs.of_same hgrows
        (confirmSubmission_keeps _ _ _ _ hview.toIgnoresUpdates.toIgnoresHistory _ _ _ h)
  | submission _ h =>
      have hsubmitted := submitClaim_ok h
      exact hs.submitted hgrows hsubmitted.claims hsubmitted.stored.status
  | autoRejection hpursued _ h =>
      obtain ⟨row, ⟨actor, id, -, rfl⟩, happends⟩ := autoRejectClaim_appends h
      obtain ⟨_, hdecided⟩ := autoRejectClaim_ok h
      refine hs.decided hkeys hdecided hpursued.standing.stored happends.rows List.mem_cons_self ?_
      exact ⟨hpursued.claimOf.symm, rfl, .autoRejected rfl rfl⟩
  | autoApproval hpursued houtcome h =>
      obtain ⟨row, ⟨actor, id, -, rfl⟩, happends⟩ := autoApproveClaim_appends h
      obtain ⟨_, _, -, hdecided⟩ := autoApproveClaim_ok h
      have htype := hpursued.standing.claimType.trans
        (isEligibleForAutoApproval_claimType (autoOutcome_approve houtcome).2.2)
      refine hs.decided hkeys hdecided hpursued.standing.stored happends.rows List.mem_cons_self ?_
      exact ⟨hpursued.claimOf.symm, rfl, .autoApproved rfl rfl htype⟩
  | payment _ h =>
      obtain ⟨_, _, _, _, _, ⟨hstored, happlication, -⟩, hdecided, ⟨actor, id, -, rfl⟩, -, happends⟩ :=
        payClaim_assesses h
      refine hs.decided hkeys hdecided hstored happends.rows List.mem_cons_self ?_
      exact ⟨happlication.symm, rfl, .assessed rfl rfl⟩
  | rejection _ h =>
      obtain ⟨_, _, _, _, ⟨hstored, happlication, -⟩, hdecided, ⟨actor, id, -, rfl⟩, -, happends⟩ :=
        rejectClaim_assesses h
      refine hs.decided hkeys hdecided hstored happends.rows List.mem_cons_self ?_
      exact ⟨happlication.symm, rfl, .assessed rfl rfl⟩

end Steps

/-- The event was added by a request of the run, on a route that may write it, by a user with this role who
is named in it. -/
def TakenBy (allowedScopes : String) (steps : List SecuredStep) (init : Store) (role : Role)
    (row : HistoryEvent) : Prop :=
  ∃ r user, AddedIn allowedScopes steps init (.http r) row
    ∧ r.body.permission = permissionFor row.eventReference
    ∧ verifyEntraToken allowedScopes r.credentials = .ok user ∧ role.value ∈ user.appRoles
    ∧ row.actor = user.name ∧ row.entraUserObjectId = user.entraObjectId

/-- The event was added by the system in a request of the run, on a route that may write it, by a user with
this role. -/
def TakenFor (allowedScopes : String) (steps : List SecuredStep) (init : Store) (role : Role)
    (row : HistoryEvent) : Prop :=
  ∃ r user, AddedIn allowedScopes steps init (.http r) row
    ∧ r.body.permission = permissionFor row.eventReference
    ∧ verifyEntraToken allowedScopes r.credentials = .ok user ∧ role.value ∈ user.appRoles
    ∧ row.actorType = .system

section Decisions

variable {allowedScopes : String} {steps : List SecuredStep} {evidence : List ClaimEvidence}
variable {init s : Store} {row : HistoryEvent} {r : HttpRequest} {user : AuthenticatedUser}

theorem Role.of_applicationManage {role : Role} (h : .applicationManage ∈ role.permissions) :
    role = .applicationsCaseworker := by
  cases role <;> first | rfl | exact absurd h (by decide)

theorem Role.of_claimManage {role : Role} (h : .claimManage ∈ role.permissions) :
    role = .claimsCaseworker := by
  cases role <;> first | rfl | exact absurd h (by decide)

theorem Role.of_claimCreate {role : Role} (h : .claimCreate ∈ role.permissions) :
    role = .providerClaimsUser := by
  cases role <;> first | rfl | exact absurd h (by decide)

/-- An event that is attributed, of a kind for which only one role will do. -/
theorem AttributedTo.takenBy {role : Role} (h : AttributedTo allowedScopes r row user)
    (hadded : AddedIn allowedScopes steps init (.http r) row)
    (hcaseworker : actorTypeFor row.eventReference = .caseworker)
    (honly : ∀ other : Role, permissionFor row.eventReference ∈ other.permissions → other = role) :
    TakenBy allowedScopes steps init role row := by
  obtain ⟨other, hother, hpermitted⟩ := h.permitted
  have htype := h.actorType.trans hcaseworker
  have hperson : row.actorType ≠ .system := by
    rw [htype]
    decide
  exact ⟨r, user, hadded, h.route, h.verified, honly other hpermitted ▸ hother, (h.named htype).1,
    (h.identified hperson).1⟩

theorem AttributedTo.takenFor {role : Role} (h : AttributedTo allowedScopes r row user)
    (hadded : AddedIn allowedScopes steps init (.http r) row)
    (hsystem : actorTypeFor row.eventReference = .system)
    (honly : ∀ other : Role, permissionFor row.eventReference ∈ other.permissions → other = role) :
    TakenFor allowedScopes steps init role row := by
  obtain ⟨other, hother, hpermitted⟩ := h.permitted
  exact ⟨r, user, hadded, h.route, h.verified, honly other hpermitted ▸ hother,
    h.actorType.trans hsystem⟩

theorem committedBy_told (hs : s ∈ committedBy allowedScopes steps (.initial [] evidence [])) :
    (s.claims.map (·.claimId)).Nodup ∧ ApplicationsTold s ∧ ClaimsTold s := by
  refine committedBy_invariant (I := fun s => (s.claims.map (·.claimId)).Nodup ∧ ApplicationsTold s
    ∧ ClaimsTold s) ?_ ?_ s hs
  · exact ⟨List.nodup_nil, fun _ hnone => absurd hnone List.not_mem_nil,
      fun _ hnone => absurd hnone List.not_mem_nil⟩
  · intro step _ r _ s s' hperforms ⟨hkeys, happlications, hclaims⟩
    obtain ⟨rows, hrows⟩ := hperforms.anyCase.historyStep
    exact ⟨hrows.keys hkeys, hperforms.applicationsTold happlications,
      hperforms.claimsTold hkeys hclaims⟩

/-- In a run from an empty database every event but the job's is attributed. -/
theorem committedBy_attributed (hs : s ∈ committedBy allowedScopes steps (.initial [] evidence []))
    (hrow : row ∈ s.historyEvents) (hkind : row.eventReference ≠ .claimApprovedEmail) :
    ∃ r user, AddedIn allowedScopes steps (.initial [] evidence []) (.http r) row
      ∧ AttributedTo allowedScopes r row user := by
  rcases committedBy_events s hs row hrow with hold | hhttp | ⟨_, _, _, _, hjob, _⟩
  · exact absurd hold List.not_mem_nil
  · exact hhttp
  · exact absurd hjob hkind

/-- **Who decides.** In every database that a run from an empty one commits, whatever the tokens say and
whatever fails: an application that is granted or refused has an event that tells it, which the request of a
user with the role of an applications caseworker added; a claim that is paid or rejected has one that the
request of a claims caseworker added, or the request of a provider's claims user in which it was decided
without one, and which pays claims on account only. -/
theorem decisions_attributed (allowedScopes : String) (steps : List SecuredStep)
    (evidence : List ClaimEvidence) :
    ∀ s ∈ committedBy allowedScopes steps (.initial [] evidence []),
      (∀ a ∈ s.applications, a.proceeding.meritsDecision ≠ .submitted →
        ∃ row ∈ s.historyEvents, TellsApplication a row
          ∧ TakenBy allowedScopes steps (.initial [] evidence []) .applicationsCaseworker row)
      ∧ ∀ c ∈ s.claims, c.statusId ≠ .submitted → ∃ row ∈ s.historyEvents, TellsClaim c row
          ∧ (TakenBy allowedScopes steps (.initial [] evidence []) .claimsCaseworker row
            ∨ (row.eventReference = .poaAutoApproved ∨ row.eventReference = .poaAutoRejected)
              ∧ TakenFor allowedScopes steps (.initial [] evidence []) .providerClaimsUser row) := by
  intro s hs
  obtain ⟨-, happlications, hclaims⟩ := committedBy_told hs
  constructor
  · intro a ha hdecided
    obtain ⟨row, hrow, htells⟩ := happlications a ha hdecided
    have hkind : row.eventReference = .applicationAssessmentCompleted := by
      cases htells <;> assumption
    obtain ⟨r, user, hadded, huser⟩ := committedBy_attributed hs hrow (by rw [hkind]; decide)
    refine ⟨row, hrow, htells, huser.takenBy hadded ?_ ?_⟩
    · rw [hkind]
      rfl
    · rw [hkind]
      exact fun other hother => Role.of_applicationManage hother
  · intro c hc hdecided
    obtain ⟨row, hrow, htells⟩ := hclaims c hc hdecided
    refine ⟨row, hrow, htells, ?_⟩
    have hautomatic : row.eventReference = .poaAutoApproved ∨ row.eventReference = .poaAutoRejected →
        TakenFor allowedScopes steps (.initial [] evidence []) .providerClaimsUser row := by
      intro hkind
      obtain ⟨r, user, hadded, huser⟩ := committedBy_attributed hs hrow (by
        rcases hkind with hkind | hkind <;> rw [hkind] <;> decide)
      refine huser.takenFor hadded ?_ ?_
      · rcases hkind with hkind | hkind <;> rw [hkind] <;> rfl
      · rcases hkind with hkind | hkind <;> rw [hkind] <;> exact fun other => Role.of_claimCreate
    cases htells.verdict with
    | assessed hkind _ =>
        obtain ⟨r, user, hadded, huser⟩ := committedBy_attributed hs hrow (by rw [hkind]; decide)
        refine Or.inl (huser.takenBy hadded ?_ ?_)
        · rw [hkind]
          rfl
        · rw [hkind]
          exact fun other hother => Role.of_claimManage hother
    | autoApproved hkind _ _ => exact Or.inr ⟨Or.inl hkind, hautomatic (Or.inl hkind)⟩
    | autoRejected hkind _ => exact Or.inr ⟨Or.inr hkind, hautomatic (Or.inr hkind)⟩

end Decisions

theorem decisions_attributed_granted :
    ∃ s ∈ committedBy Sample.scopes Sample.securedSteps (.initial [] [] []),
      (∃ a ∈ s.applications, ∃ row ∈ s.historyEvents, TellsApplication a row
        ∧ TakenBy Sample.scopes Sample.securedSteps (.initial [] [] []) .applicationsCaseworker row)
      ∧ ∃ c ∈ s.claims, c.statusId = .rejected ∧ ∃ row ∈ s.historyEvents, TellsClaim c row
        ∧ (TakenBy Sample.scopes Sample.securedSteps (.initial [] [] []) .claimsCaseworker row
          ∨ (row.eventReference = .poaAutoApproved ∨ row.eventReference = .poaAutoRejected)
            ∧ TakenFor Sample.scopes Sample.securedSteps (.initial [] [] []) .providerClaimsUser row) := by
  have hdecides : ((committedBy Sample.scopes Sample.securedSteps (.initial [] [] [])).any fun s =>
      s.applications.any (fun a => a.proceeding.meritsDecision ≠ .submitted)
        && s.claims.any fun c => c.statusId = .rejected) = true := by
    decide +kernel
  obtain ⟨s, hs, hdecided⟩ := List.any_eq_true.mp hdecides
  obtain ⟨happlication, hclaim⟩ := Bool.and_eq_true_iff.mp hdecided
  obtain ⟨a, ha, hassessed⟩ := List.any_eq_true.mp happlication
  obtain ⟨c, hc, hrejected⟩ := List.any_eq_true.mp hclaim
  have hstatus : c.statusId = .rejected := of_decide_eq_true hrejected
  obtain ⟨htold, hclaims⟩ := decisions_attributed Sample.scopes Sample.securedSteps [] s hs
  have hclaimed := hclaims c hc (by rw [hstatus]; decide)
  exact ⟨s, hs, ⟨a, ha, htold a ha (of_decide_eq_true hassessed)⟩, c, hc, hstatus, hclaimed⟩

end InquestsApi
