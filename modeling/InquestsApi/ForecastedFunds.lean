import InquestsApi.ClaimLifecycle
import InquestsApi.Frames

/-! The forecast against the creation of claims: what the forecast says remains of an
application, and whether the application is still open to claims. -/
namespace InquestsApi

open UnitOfWork

/-- The tables that the life of a claim is read from. -/
def Store.claimTables (s : Store) : List Claim × List ClaimDecision × List DecisionReason
    × List ClaimDecisionAmount × List ClaimPaymentExtract :=
  (s.claims, s.claimDecisions, s.decisionReasons, s.claimDecisionAmounts, s.claimPaymentExtracts)

theorem ignoresApplications_claimTables : IgnoresApplications Store.claimTables where
  history := fun _ _ => rfl
  proceeding := fun _ _ _ => rfl
  client := fun _ _ _ => rfl
  publicBodies := fun _ _ _ => rfl
  applications := fun _ _ => rfl
  duplicates := fun _ _ => rfl

section Runs

variable {permitted : CasePermissions} {s s' : Store}

theorem Consistent.congr (hs : Consistent s) (h : s'.claimTables = s.claimTables) :
    Consistent s' := by
  simp only [Store.claimTables, Prod.mk.injEq] at h
  obtain ⟨hclaims, hdecisions, hreasons, hamounts, hextracts⟩ := h
  constructor
  · rw [hclaims]
    exact hs.claimKeys
  · rw [hclaims, hdecisions]
    exact hs.decisionOf
  · rw [hreasons, hdecisions]
    exact hs.reasonOf
  · rw [hamounts, hdecisions]
    exact hs.amountOf
  · rw [hextracts, hclaims]
    exact hs.extractOf
  · rw [hclaims]
    intro c hc
    have hsame : ∀ claimId, s'.decisionsOf claimId = s.decisionsOf claimId
        ∧ s'.extractsOf claimId = s.extractsOf claimId := by
      intro claimId
      unfold Store.decisionsOf Store.extractsOf
      rw [hdecisions, hextracts]
      exact ⟨rfl, rfl⟩
    have hrows : ∀ decisionId, s'.reasonsOf decisionId = s.reasonsOf decisionId
        ∧ s'.amountsOf decisionId = s.amountsOf decisionId := by
      intro decisionId
      unfold Store.reasonsOf Store.amountsOf
      rw [hreasons, hamounts]
      exact ⟨rfl, rfl⟩
    cases hs.life c hc with
    | submitted hstatus hd he =>
        exact .submitted hstatus ((hsame _).1.trans hd) ((hsame _).2.trans he)
    | rejected d hstatus hd hdecision hr he =>
        exact .rejected d hstatus ((hsame _).1.trans hd) hdecision
          (fun hempty => hr ((hrows _).1.symm.trans hempty)) ((hsame _).2.trans he)
    | paid d a hstatus hd hdecision ha =>
        exact .paid d a hstatus ((hsame _).1.trans hd) hdecision ((hrows _).2.trans ha)

/-- A transaction leaves the claims as they were, or is one that a claim request commits. -/
theorem CaseTransacts.claims (h : CaseTransacts permitted s s') :
    s'.claimTables = s.claimTables ∨ Transacts (fun _ _ => True) s s' := by
  have happlications := ignoresApplications_claimTables
  have hupdates := happlications.toIgnoresUpdates
  cases h with
  | creation hpermitted h => exact .inl (createBody_keeps _ _ happlications _ _ _ _ _ _ h)
  | grant hfound h => exact .inl (grantBody_keeps _ _ _ hupdates _ _ _ _ h)
  | refusal hfound hpermitted h => exact .inl (refuseBody_keeps _ _ _ hupdates _ _ _ _ h)
  | publicBodies hchecked h => exact .inl (updatePublicBodies_keeps _ _ _ hupdates _ _ _ _ h)
  | note hfound h =>
      exact .inl (createHistoryEvent_keeps _ _ hupdates.toIgnoresHistory _ _ _ _ h)
  | approvedEmail hawaiting h =>
      exact .inl (sendApprovedEmail_keeps _ _ _ hupdates.toIgnoresHistory _ _ _ _ h)
  | confirmation hpursued h => exact .inr (.note (confirmSubmission_ok h))
  | submission hprepared h =>
      exact .inr (.submission _ _ _ (prepare_noActiveFinalBill hprepared) (submitClaim_ok h))
  | autoRejection hpursued houtcome h =>
      obtain ⟨rows, hdecided⟩ := autoRejectClaim_ok h
      refine .inr (.rejection _ _ rows hpursued.standing.stored hpursued.standing.status ?_ hdecided)
      exact fun hempty => autoOutcome_reject houtcome (List.map_eq_nil_iff.mp hempty)
  | autoApproval hpursued houtcome h =>
      obtain ⟨lines, rows, hlines, hdecided⟩ := autoApproveClaim_ok h
      have hstanding := hpursued.standing
      have htype := hstanding.claimType.trans
        (isEligibleForAutoApproval_claimType (autoOutcome_approve houtcome).2.2)
      exact .inr (.autoApproval _ lines rows hstanding.stored hstanding.status htype
        (hstanding.noBill htype) hlines hdecided)
  | payment hfound h =>
      obtain ⟨claim, lines, rows, date, hclaim, -, hlines, hdecided⟩ := payClaim_ok h
      obtain ⟨hstored, hof, hstatus⟩ := claimForAssessment_ok hclaim
      rw [← hof] at hlines
      exact .inr (.payment claim _ date lines rows hstored hstatus trivial hlines hdecided)
  | rejection hfound h =>
      obtain ⟨claim, rows, hclaim, -, hdecided⟩ := rejectClaim_ok h
      obtain ⟨hstored, -, hstatus⟩ := claimForAssessment_ok hclaim
      exact .inr (.rejection claim _ rows hstored hstatus (List.cons_ne_nil _ _) hdecided)

/-- The step. -/
theorem CaseTransacts.consistent (h : CaseTransacts permitted s s') (hs : Consistent s) :
    Consistent s' := by
  rcases h.claims with hsame | htransacts
  · exact hs.congr hsame
  · exact htransacts.consistent hs

/-- Every state that a run over whole cases commits is consistent. -/
theorem CaseCommitted.consistent {init : Store} (h : CaseCommitted (fun _ _ => True) init s)
    (hinit : Consistent init) : Consistent s :=
  (h.mono fun db r _ => r.anyCase_permitted db).invariant hinit fun _ _ hstep => hstep.consistent

end Runs

/-- The forecast has this row for the application. -/
def Forecasts (s : Store) (reportDate : Date) (application : Application)
    (row : CostLimitForecastRow) : Prop :=
  application ∈ s.applications ∧ ∃ effectiveDate,
    application.proceeding.certificateStartDate = some effectiveDate
      ∧ forecastCandidate s application effectiveDate ∈ iterForecastCandidates s
      ∧ buildCostLimitForecastRow (forecastCandidate s application effectiveDate) reportDate
        = .ok (some row)

/-- What is forecast can still be claimed: none of the claims that are paid closes the
application to a new one, which starts from the funds that remain. -/
structure Claimable (s : Store) (application : Application) (row : CostLimitForecastRow) :
    Prop where
  stillOpen : DomainClaim.validateNoActiveFinalBill
      (((s.getClaimsByApplicationId application.applicationId).filter fun c =>
        c.statusId = .payInFull).map (·.summary)) = .ok ()
  funds : row.remaining = calculateAvailableFunds application.proceeding.substantiveCostLimitation
    (CreateClaim.existingClaimAmounts application.applicationId s)

/-- A nil bill of the application has been paid. -/
def PaidNilBill (s : Store) (application : Application) : Prop :=
  ∃ c ∈ s.getClaimsByApplicationId application.applicationId,
    c.claimTypeId = .nilBill ∧ c.statusId = .payInFull

section Forecast

variable {s : Store} {reportDate effectiveDate : Date} {application : Application}
variable {row : CostLimitForecastRow}

/-- A row is made of a live candidate without a paid final bill. -/
theorem buildCostLimitForecastRow_some {candidate : CostLimitForecastCandidate}
    (h : buildCostLimitForecastRow candidate reportDate = .ok (some row)) :
    candidate.isLive reportDate = true ∧ candidate.hasPaidFinalBill = false
      ∧ row.remaining = candidate.remainingCostLimit := by
  unfold buildCostLimitForecastRow at h
  split at h
  · cases h
  · rename_i hpart
    rw [not_or, not_not, Bool.not_eq_true] at hpart
    split at h
    · cases h
    · split at h
      · cases h
      · split at h
        · cases h
        · cases h
          exact ⟨hpart.1, hpart.2, rfl⟩

/-- The paid claims close an application where one of them is a final or a nil bill. -/
theorem stillOpen_iff : DomainClaim.validateNoActiveFinalBill
    (((s.getClaimsByApplicationId application.applicationId).filter fun c =>
      c.statusId = .payInFull).map (·.summary)) = .ok ()
    ↔ ∀ c ∈ s.getClaimsByApplicationId application.applicationId, c.statusId = .payInFull →
      c.claimTypeId ≠ .finalBill ∧ c.claimTypeId ≠ .nilBill := by
  unfold DomainClaim.validateNoActiveFinalBill
  rw [refuseWhen_ok, List.any_eq_true]
  constructor
  · intro h c hc hpaid
    have hbill : c.claimTypeId.isFinalBill = false := by
      by_contra hbill
      refine h ⟨c.summary, List.mem_map_of_mem (List.mem_filter.mpr ⟨hc, decide_eq_true hpaid⟩), ?_⟩
      rw [Bool.and_eq_true]
      exact ⟨eq_true_of_ne_false hbill, by rw [Claim.summary, hpaid]; rfl⟩
    constructor <;> intro htype <;> rw [htype] at hbill <;> cases hbill
  · rintro h ⟨summary, hsummary, hactive⟩
    obtain ⟨c, hc, rfl⟩ := List.mem_map.mp hsummary
    obtain ⟨hof, hpaid⟩ := List.mem_filter.mp hc
    obtain ⟨hfinal, hnil⟩ := h c hof (of_decide_eq_true hpaid)
    have hbill := (Bool.and_eq_true _ _ ▸ hactive).1
    cases htype : c.claimTypeId with
    | paymentOnAccount =>
        rw [Claim.summary, htype] at hbill
        cases hbill
    | finalBill => exact hfinal htype
    | nilBill => exact hnil htype

theorem hasPaidFinalBill_eq_false
    (h : (forecastCandidate s application effectiveDate).hasPaidFinalBill = false) :
    ∀ c ∈ s.getClaimsByApplicationId application.applicationId, c.statusId = .payInFull →
      c.claimTypeId ≠ .finalBill := by
  intro c hc hpaid htype
  have hnone := List.any_eq_false.mp h _ (List.mem_map_of_mem hc)
  exact hnone (by simp [htype, hpaid])

/-- What is forecast of an application in a state that a run commits can still be claimed
exactly where no nil bill of it has been paid. -/
theorem forecast_claimable_iff {applications : List Application} {evidence : List ClaimEvidence}
    {events : List HistoryEvent}
    (h : CaseCommitted (fun _ _ => True) (.initial applications evidence events) s)
    (hforecast : Forecasts s reportDate application row) :
    Claimable s application row ↔ ¬ PaidNilBill s application := by
  have hs := h.consistent (consistent_initial applications evidence events)
  obtain ⟨-, effectiveDate, -, -, hrow⟩ := hforecast
  obtain ⟨hlive, hunpaid, hremaining⟩ := buildCostLimitForecastRow_some hrow
  have hfinal := hasPaidFinalBill_eq_false hunpaid
  have hgranted : application.isGranted = true := by
    simp only [CostLimitForecastCandidate.isLive, Bool.and_eq_true] at hlive
    exact hlive.1.2
  constructor
  · rintro ⟨hopen, -⟩ ⟨c, hc, hnil, hpaid⟩
    exact (stillOpen_iff.mp hopen c hc hpaid).2 hnil
  · intro hnil
    constructor
    · apply stillOpen_iff.mpr
      intro c hc hpaid
      exact ⟨hfinal c hc hpaid, fun htype => hnil ⟨c, hc, htype, hpaid⟩⟩
    · rw [hremaining]
      exact (availableFunds_eq_remainingCostLimit hs hgranted effectiveDate).symm

end Forecast

namespace Sample

/-- A granted application whose certificate has started. -/
def startedApplication : Application :=
  { application with
    proceeding := { application.proceeding with certificateStartDate := some date } }

def nilBillCommand : CreateClaimCommand :=
  { finalBillCommand with
    claimType := .nilBill
    gross := some 0
    claimEvidenceIds := none
    costTemplateFileId := none
    costTemplateFileName := none
    details := { finalBillCommand.details with
      hasCounselBeenPaid := none
      numberOfCounselInstructed := none } }

def started : Store := .initial [startedApplication] [] []

/-- What the forecast says remains of the application. -/
def remainingOf (s : Store) : Option Decimal :=
  match buildCostLimitForecastRow (forecastCandidate s startedApplication date) date with
  | .ok (some row) => some row.remaining
  | _ => none

theorem forecasts_of_remaining {s : Store} {remaining : Decimal}
    (h : s.applications = [startedApplication]) (hremaining : remainingOf s = some remaining) :
    ∃ row, Forecasts s date startedApplication row ∧ row.remaining = remaining := by
  have hmem : startedApplication ∈ s.applications := by
    rw [h]
    exact List.mem_singleton_self _
  unfold remainingOf at hremaining
  split at hremaining
  · rename_i row hrow
    cases hremaining
    have hcandidate := mem_iterForecastCandidates.mpr ⟨startedApplication, hmem, date, rfl, rfl⟩
    exact ⟨row, ⟨hmem, date, rfl, hcandidate, hrow⟩, rfl⟩
  · cases hremaining

theorem afterAll_committed (requests : List Submission) :
    CaseCommitted (fun _ _ => True) started (afterAll started requests) :=
  ⟨_, (reachable_afterAll .start fun _ _ _ => trivial).caseRun, .inl rfl⟩

def paidOnAccount : Store := afterAll started [create (poaCommand .expertCost none (some 120) none)]

def paidNilBill : Store := afterAll started [create nilBillCommand, pay firstReference none]

end Sample

theorem forecast_claimable_iff_paidOnAccount :
    ∃ row, Forecasts Sample.paidOnAccount Sample.date Sample.startedApplication row
      ∧ row.remaining = 9880
      ∧ (Claimable Sample.paidOnAccount Sample.startedApplication row
        ↔ ¬ PaidNilBill Sample.paidOnAccount Sample.startedApplication) := by
  obtain ⟨row, hforecast, hremaining⟩ := Sample.forecasts_of_remaining (s := Sample.paidOnAccount)
    (by decide +kernel) (by decide +kernel : Sample.remainingOf Sample.paidOnAccount = some 9880)
  exact ⟨row, hforecast, hremaining,
    forecast_claimable_iff (Sample.afterAll_committed _) hforecast⟩

/-- A nil bill is submitted and paid: no claim can follow it, and all of the cost limit is still
forecast. -/
theorem forecast_after_nilBill :
    ¬ ∀ applications evidence events s reportDate application row,
      CaseCommitted (fun _ _ => True) (.initial applications evidence events) s →
        Forecasts s reportDate application row → Claimable s application row := by
  intro h
  obtain ⟨row, hforecast, -⟩ := Sample.forecasts_of_remaining (s := Sample.paidNilBill)
    (by decide +kernel) (by decide +kernel : Sample.remainingOf Sample.paidNilBill = some 10000)
  have hclaimable := h _ [] [] _ _ _ row (Sample.afterAll_committed _) hforecast
  have hclosed : ¬ ∀ c ∈ Sample.paidNilBill.getClaimsByApplicationId
      Sample.startedApplication.applicationId, c.statusId = .payInFull →
      c.claimTypeId ≠ .finalBill ∧ c.claimTypeId ≠ .nilBill := by decide +kernel
  exact hclosed (stillOpen_iff.mp hclaimable.stillOpen)

end InquestsApi
