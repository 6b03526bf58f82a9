import InquestsApi.BacklogReports

/-! The applications that wait for a decision are in their backlog, each once. Those that are decided are
not, and have the decision of the last assessment that the history holds of them. -/
namespace InquestsApi

open UnitOfWork HistoryEventRepository

/-- The event is an assessment of this application. -/
def assesses (applicationId : ℕ) (event : HistoryEvent) : Bool :=
  event.eventReference = .applicationAssessmentCompleted && event.applicationId = applicationId

/-- The application waits and was never assessed; or it has the decision of its last assessment. -/
inductive AssessedLast (s : Store) (a : Application) : Prop
  | waiting (hdecision : a.proceeding.meritsDecision = .submitted)
      (hnone : s.historyEvents.filter (assesses a.applicationId) = [])
  | assessed (event : HistoryEvent) (hdecision : a.proceeding.meritsDecision ≠ .submitted)
      (hlast : (s.historyEvents.filter (assesses a.applicationId)).getLast? = some event)
      (htells : TellsApplication a event)

structure ApplicationsAccounted (s : Store) : Prop extends JoinedCases s where
  assessed : ∀ a ∈ s.applications, AssessedLast s a

/-- What a transaction does to an application that it leaves behind: it was there before with the same
decision, or is new, or the transaction assesses it. -/
inductive Assessment (s : Store) (rows : List HistoryEvent) (a : Application) : Prop
  | kept (a₀ : Application) (hmem : a₀ ∈ s.applications) (hid : a.applicationId = a₀.applicationId)
      (hdecision : a.proceeding.meritsDecision = a₀.proceeding.meritsDecision)
      (hnone : rows.filter (assesses a.applicationId) = [])
  | new (hid : a.applicationId ∉ applicationIds s) (hdecision : a.proceeding.meritsDecision = .submitted)
      (hnone : rows.filter (assesses a.applicationId) = [])
  | assessed (event : HistoryEvent) (hone : rows.filter (assesses a.applicationId) = [event])
      (htells : TellsApplication a event)

section Steps

variable {env : Env} {faults : Faults} {request : CaseRequest} {s s' : Store} {a : Application}
variable {row : HistoryEvent} {rows : List HistoryEvent} {applicationId : ℕ}

variable (applicationId) in
theorem filter_assesses_eq_nil
    (h : ∀ row ∈ rows, row.eventReference ≠ .applicationAssessmentCompleted) :
    rows.filter (assesses applicationId) = [] := by
  apply List.filter_eq_nil_iff.mpr
  intro row hrow hassesses
  unfold assesses at hassesses
  rw [Bool.and_eq_true, decide_eq_true_eq] at hassesses
  exact h row hrow hassesses.1

/-- An assessment, and what else is written with it. -/
theorem filter_assesses_cons (hkind : row.eventReference = .applicationAssessmentCompleted)
    (h : ∀ row ∈ rows, row.eventReference ≠ .applicationAssessmentCompleted) :
    (row :: rows).filter (assesses applicationId)
      = if row.applicationId = applicationId then [row] else [] := by
  rw [List.filter_cons, filter_assesses_eq_nil applicationId h]
  simp [assesses, hkind]

theorem TellsApplication.decided {event : HistoryEvent} (h : TellsApplication a event) :
    a.proceeding.meritsDecision ≠ .submitted := by
  cases h with
  | granted _ _ hdecision _ => simp [hdecision]
  | refused _ _ hdecision _ => simp [hdecision]

theorem JoinedCases.filter_assesses_of_new (hs : JoinedCases s) (h : applicationId ∉ applicationIds s) :
    s.historyEvents.filter (assesses applicationId) = [] := by
  apply List.filter_eq_nil_iff.mpr
  intro event hevent hassesses
  unfold assesses at hassesses
  rw [Bool.and_eq_true, decide_eq_true_eq, decide_eq_true_eq] at hassesses
  exact h (hassesses.2 ▸ (hs.recorded.events event hevent).application)

theorem ApplicationsAccounted.step (hs : ApplicationsAccounted s)
    (hgrows : s'.historyEvents = s.historyEvents ++ rows)
    (h : ∀ a ∈ s'.applications, Assessment s rows a) : ∀ a ∈ s'.applications, AssessedLast s' a := by
  intro a ha
  have hgrown : s'.historyEvents.filter (assesses a.applicationId)
      = s.historyEvents.filter (assesses a.applicationId) ++ rows.filter (assesses a.applicationId) := by
    rw [hgrows, List.filter_append]
  cases h a ha with
  | kept a₀ hmem hid hdecision hnone =>
      rw [hnone, List.append_nil, hid] at hgrown
      cases hs.assessed a₀ hmem with
      | waiting hwaits hnone₀ =>
          refine .waiting (hdecision.trans hwaits) ?_
          rw [hid, hgrown, hnone₀]
      | assessed event hdecided hlast htells =>
          refine .assessed event (hdecision ▸ hdecided) ?_ (htells.congr hid hdecision)
          rw [hid, hgrown, hlast]
  | new hid hdecision hnone =>
      refine .waiting hdecision ?_
      rw [hgrown, hnone, hs.filter_assesses_of_new hid, List.append_nil]
  | assessed event hone htells =>
      refine .assessed event htells.decided ?_ htells
      rw [hgrown, hone, List.getLast?_concat]

theorem Assessment.of_same (hrows : ∀ row ∈ rows, row.eventReference ≠ .applicationAssessmentCompleted)
    (hsame : s'.applications = s.applications) : ∀ a ∈ s'.applications, Assessment s rows a := by
  intro a ha
  rw [hsame] at ha
  exact .kept a ha rfl rfl (filter_assesses_eq_nil _ hrows)

/-- Two updates of one application are one update of it. -/
theorem mem_updateApplication_twice {f g : Application → Application}
    (h : a ∈ ((s.updateApplication applicationId f).updateApplication applicationId g).applications)
    (hid : ∀ a, (f a).applicationId = a.applicationId) :
    a ∈ (s.updateApplication applicationId (g ∘ f)).applications := by
  obtain ⟨a₁, ha₁, rfl⟩ := List.mem_map.mp h
  obtain ⟨a₀, ha₀, rfl⟩ := List.mem_map.mp ha₁
  refine List.mem_map.mpr ⟨a₀, ha₀, ?_⟩
  by_cases hkey : a₀.applicationId = applicationId
  · simp [hkey, hid]
  · simp [hkey]

/-- One application is assessed, the others are as they were. -/
theorem Assessment.of_update {application : Application} {f : Application → Application}
    (ha : a ∈ (s.updateApplication application.applicationId f).applications)
    (hkind : row.eventReference = .applicationAssessmentCompleted)
    (happlication : row.applicationId = application.applicationId)
    (hrows : ∀ row ∈ rows, row.eventReference ≠ .applicationAssessmentCompleted)
    (hid : ∀ a, (f a).applicationId = a.applicationId)
    (htells : ∀ a, a.applicationId = application.applicationId → TellsApplication (f a) row) :
    Assessment s (row :: rows) a := by
  rcases mem_updateApplication ha with ⟨hold, hother⟩ | ⟨b, hb, hkey, rfl⟩
  · refine .kept a hold rfl rfl ?_
    rw [filter_assesses_cons hkind hrows, if_neg]
    exact fun h => hother (h.symm.trans happlication)
  · refine .assessed row ?_ (htells b hkey)
    rw [filter_assesses_cons hkind hrows, if_pos]
    rw [hid, happlication, hkey]

def CaseRequest.decidesApplication : CaseRequest → Bool
  | .grant .. => true
  | .refuse .. => true
  | _ => false

/-- Only the decisions on an application write assessments of it. -/
theorem eventKinds_unassessed (h : request.decidesApplication = false) :
    ∀ kind ∈ eventKinds request, kind.1 ≠ .applicationAssessmentCompleted := by
  cases request with
  | grant laaReference r => cases h
  | refuse laaReference r => cases h
  | claim r =>
      cases r <;>
        · simp only [eventKinds]
          decide
  | _ =>
      simp only [eventKinds]
      decide

theorem Performs.assessment (h : Performs env faults request s s') :
    ∃ rows, s'.historyEvents = s.historyEvents ++ rows ∧ ∀ a ∈ s'.applications, Assessment s rows a := by
  have hhistory := ignoresDecisions_applications.toIgnoresHistory
  obtain ⟨rows, hgrows, hrecorded⟩ := h.rows
  have hother : request.decidesApplication = false →
      ∀ row ∈ rows, row.eventReference ≠ .applicationAssessmentCompleted :=
    fun hrequest row hrow => eventKinds_unassessed hrequest _ (hrecorded row hrow).kind
  have hsame : request.decidesApplication = false → s'.applications = s.applications →
      ∃ rows, s'.historyEvents = s.historyEvents ++ rows ∧ ∀ a ∈ s'.applications, Assessment s rows a :=
    fun hrequest happlications => ⟨rows, hgrows, Assessment.of_same (hother hrequest) happlications⟩
  cases h with
  | @grant _ request application _ _ _ _ h =>
      obtain ⟨_, _, event, assessed, certified, emailed, lettered, -, hevent, ⟨_, _, -, rfl⟩, ⟨_, _, -, rfl⟩,
        ⟨_, _, -, rfl⟩, ⟨_, _, -, rfl⟩, happends⟩ := grantBody_appends h
      obtain ⟨-, addressed, -, happlications⟩ := GrantDecisionUseCase.grantBody_ok h
      obtain ⟨_, -, rfl⟩ := GrantDecisionUseCase.letterEvent_ok.mp hevent
      refine ⟨_, happends.rows, ?_⟩
      intro a ha
      rw [happlications] at ha
      replace ha := mem_updateApplication_twice ha fun _ => rfl
      refine Assessment.of_update ha rfl rfl ?_ (fun _ => rfl) ?_
      · exact List.forall_mem_cons.mpr ⟨nofun, List.forall_mem_cons.mpr ⟨nofun,
          List.forall_mem_singleton.mpr nofun⟩⟩
      · exact fun a hid => .granted hid.symm rfl rfl rfl
  | @refusal _ request application _ _ _ _ h =>
      obtain ⟨_, assessed, emailed, -, ⟨_, _, -, rfl⟩, ⟨_, _, -, rfl⟩, happends⟩ := refuseBody_appends h
      refine ⟨_, happends.rows, ?_⟩
      intro a ha
      rw [refuseBody_ok h] at ha
      refine Assessment.of_update ha rfl rfl ?_ (fun _ => rfl) ?_
      · exact List.forall_mem_singleton.mpr nofun
      · exact fun a hid => .refused hid.symm rfl rfl rfl
  | creation h =>
      refine ⟨rows, hgrows, ?_⟩
      intro a ha
      have hnone := filter_assesses_eq_nil a.applicationId (hother rfl)
      rw [createBody_applications h] at ha
      rcases List.mem_append.mp ha with hold | hnew
      · exact .kept a hold rfl rfl hnone
      · obtain ⟨t₁, u, hcreate, -⟩ := createBody_ok.mp h
        obtain ⟨_, _, _, -, -, -, -, hrow, -⟩ := createApplication_ok.mp hcreate
        rw [List.mem_singleton.mp hnew] at hnone ⊢
        refine .new ?_ (by rw [hrow]; rfl) hnone
        rw [hrow]
        exact nextKey_notMem _
  | publicBodies _ h =>
      obtain ⟨_, -, -, -, rfl⟩ := UpdatePublicBodiesUseCase.updatePublicBodies_ok.mp h
      refine ⟨rows, hgrows, ?_⟩
      intro a ha
      have hnone := filter_assesses_eq_nil a.applicationId (hother rfl)
      rcases mem_updateApplication ha with ⟨hold, -⟩ | ⟨a₀, ha₀, -, rfl⟩
      · exact .kept a hold rfl rfl hnone
      · exact .kept a₀ ha₀ rfl rfl hnone
  | note _ h => exact hsame rfl (createHistoryEvent_keeps _ _ hhistory _ _ _ _ h)
  | submission _ h => exact hsame rfl (submitClaim_keeps _ _ _ ignoresClaims_applications _ _ _ _ h)
  | confirmation _ h => exact hsame rfl (confirmSubmission_keeps _ _ _ _ hhistory _ _ _ h)
  | autoRejection _ _ h =>
      exact hsame rfl (autoRejectClaim_keeps _ _ _ _ ignoresDecisions_applications _ _ _ _ h)
  | autoApproval _ _ h =>
      exact hsame rfl (autoApproveClaim_keeps _ _ _ _ ignoresDecisions_applications _ _ _ h)
  | payment _ h => exact hsame rfl (payClaim_keeps _ _ ignoresDecisions_applications _ _ _ _ _ h)
  | rejection _ h => exact hsame rfl (rejectClaim_keeps _ _ ignoresDecisions_applications _ _ _ _ _ h)
  | approvedEmail _ h => exact hsame rfl (sendApprovedEmail_keeps _ _ _ hhistory _ _ _ _ h)

end Steps

/-- Every download of the backlog has the application's reference this often. -/
def ApplicationBackloggedTimes (s : Store) (a : Application) (n : ℕ) : Prop :=
  ∀ getFirmsByIds content, GenerateApplicationBacklogReportUseCase.execute getFirmsByIds s = .ok content →
    (Backlog.column 0 content).count (some a.laaReference) = n

/-- Every decisions report has this many assessments of the application. -/
def AssessmentsReported (s : Store) (a : Application) (n : Datetime × Datetime → ℕ) : Prop :=
  ∀ printing fromDate toDate window,
    resolveReportWindow fromDate toDate GenerateDecisionsReportUseCase.maxReportRangeDays = .ok window →
    ∃ rows, GenerateDecisionsReportUseCase.execute printing fromDate toDate s = .ok rows
      ∧ (rows.countP fun row => row.submissionType = .application && row.caseReference = a.laaReference)
        = n window

/-- An application that waits is in the backlog and in no decisions report; one that is decided is not in
the backlog, and each of its assessments is in the reports of its day. -/
inductive ApplicationAccountedFor (s : Store) (a : Application) : Prop
  | waiting (hdecision : a.proceeding.meritsDecision = .submitted)
      (hbacklog : ApplicationBackloggedTimes s a 1) (hreported : AssessmentsReported s a fun _ => 0)
  | decided (event : HistoryEvent) (hdecision : a.proceeding.meritsDecision ≠ .submitted)
      (hbacklog : ApplicationBackloggedTimes s a 0)
      (hlast : (s.historyEvents.filter (assesses a.applicationId)).getLast? = some event)
      (htells : TellsApplication a event)
      (hreported : AssessmentsReported s a fun window =>
        (s.historyEvents.filter (assesses a.applicationId)).countP fun event =>
          event.timestamp.within window.1 window.2)

section Counts

variable {s : Store} {a : Application} {event : HistoryEvent}

open ApplicationRepository in
theorem GenerateApplicationBacklogReportUseCase.execute_ok
    {getFirmsByIds : List String → Except ReportError (List GeneratePaymentExtractReportUseCase.Firm)}
    {content : List Char} (h : execute getFirmsByIds s = .ok content) :
    ∃ records, getApplicationBacklogRecords s = .ok records
      ∧ Backlog.build (·.firmCode) cells getFirmsByIds applicationBacklogReportHeaders records = .ok content := by
  unfold execute at h
  cases hrecords : getApplicationBacklogRecords s with
  | error e =>
      rw [hrecords] at h
      cases h
  | ok records =>
      rw [hrecords] at h
      refine ⟨records, rfl, ?_⟩
      cases hbuilt : Backlog.build (·.firmCode) cells getFirmsByIds applicationBacklogReportHeaders records with
      | error e =>
          simp only [Except.mapError, bind, Except.bind, hbuilt] at h
          cases h
      | ok built =>
          simp only [Except.mapError, bind, Except.bind, hbuilt] at h
          cases h
          rfl

theorem JoinedCases.applicationBacklogged (hs : JoinedCases s) (ha : a ∈ s.applications) :
    ApplicationBackloggedTimes s a (if a.proceeding.meritsDecision = .submitted then 1 else 0) := by
  intro getFirmsByIds content h
  obtain ⟨records, hrecords, hbuilt⟩ := GenerateApplicationBacklogReportUseCase.execute_ok h
  obtain ⟨shown, hshown, hrows⟩ := hs.keyed.agree.shown
  obtain rfl : shown = records := Except.ok.inj (hshown.symm.trans hrecords)
  have hcolumn := Backlog.column_of_build 0 (·.laaReference) (fun _ _ => rfl) hbuilt
  have hreferences : (shown.map fun record => some record.laaReference)
      = (ApplicationRepository.getPendingApplications s).map fun a => some a.laaReference := by
    rw [← List.forall₂_eq_eq_eq, List.forall₂_map_left_iff, List.forall₂_map_right_iff]
    exact hrows.flip.imp fun _ _ hrow => congrArg some hrow.1
  have hkeys : (s.applications.map fun a => some a.laaReference).Nodup := by
    simpa [Function.comp_def] using hs.keyed.references.map (Option.some_injective _)
  rw [hcolumn, hreferences]
  refine (List.Perm.count_eq ?_ _).trans
    (Join.count_key_filter (p := fun a => a.proceeding.meritsDecision = .submitted) hkeys ha)
  exact (List.perm_insertionSort _ _).map _

/-- The rows of an application's assessments are those that its reference stands in. -/
theorem JoinedCases.assesses_iff (hs : JoinedCases s) {decidedFrom decidedBefore : Datetime}
    {printing : Printing} {row : DecisionsReportRow} {dates : List (String × Datetime)}
    {application : Application} (ha : a ∈ s.applications)
    (hmem : (event, application) ∈ decisionEvents decidedFrom decidedBefore s)
    (h : buildDecisionsReportRow printing (sourceRecord dates event application) = .ok row) :
    assesses a.applicationId event = true
      ↔ (row.submissionType = .application && row.caseReference = a.laaReference : Bool) = true := by
  obtain ⟨-, hstored, hid, -, -⟩ := mem_decisionEvents.mp hmem
  obtain ⟨-, hshown⟩ := buildDecisionsReportRow_names h
  unfold assesses
  rw [Bool.and_eq_true, Bool.and_eq_true, decide_eq_true_eq, decide_eq_true_eq, decide_eq_true_eq,
    decide_eq_true_eq]
  by_cases hkind : event.eventReference = .applicationAssessmentCompleted
  · rw [if_pos hkind] at hshown
    obtain ⟨htype, hcase⟩ := hshown
    rw [and_iff_right hkind, and_iff_right htype, hcase, ← hid]
    constructor
    · intro hsame
      rw [List.inj_on_of_nodup_map hs.keyed.keys hstored ha hsame]
    · intro hsame
      rw [List.inj_on_of_nodup_map hs.keyed.references hstored ha hsame]
  · rw [if_neg hkind] at hshown
    rw [hshown.1]
    exact iff_of_false (fun h => hkind h.1) fun h => nomatch h.1

theorem JoinedCases.assessmentsReported (hs : JoinedCases s) (ha : a ∈ s.applications) :
    AssessmentsReported s a fun window =>
      (s.historyEvents.filter (assesses a.applicationId)).countP fun event =>
        event.timestamp.within window.1 window.2 := by
  intro printing fromDate toDate window hwindow
  obtain ⟨rows, hexecute, hrows⟩ := hs.recorded.reported printing hwindow
  unfold getDecisionsReportRecords at hrows
  rw [List.forall₂_map_left_iff] at hrows
  have hevents := decisionEvents_perm hs window.1 window.2
  refine ⟨rows, hexecute, ?_⟩
  have hassessed := List.rel_filter (fun x row h => hs.assesses_iff ha h.1 h.2)
    ((List.forall₂_and_left _ _).mpr ⟨fun _ hx => hx, hrows⟩)
  have hcount : (decisionEvents window.1 window.2 s).countP (fun row => assesses a.applicationId row.1)
      = rows.countP fun row => row.submissionType = .application && row.caseReference = a.laaReference := by
    rw [List.countP_eq_length_filter, List.countP_eq_length_filter]
    exact hassessed.length_eq
  have hmapped : (decisionEvents window.1 window.2 s).countP (fun row => assesses a.applicationId row.1)
      = ((decisionEvents window.1 window.2 s).map Prod.fst).countP (assesses a.applicationId) := by
    rw [List.countP_map]
    rfl
  dsimp only
  rw [← hcount, hmapped, hevents.countP_eq, List.countP_filter, List.countP_filter]
  apply List.countP_congr
  intro event _
  simp only [assesses, decisionEventReferences, Bool.and_eq_true, decide_eq_true_eq]
  constructor
  · intro h
    exact ⟨h.2.2, h.1⟩
  · intro h
    exact ⟨h.2, by simp [h.2.1], h.1⟩

/-- What the invariant says of the two reports. -/
theorem ApplicationsAccounted.accountedFor (hs : ApplicationsAccounted s) (ha : a ∈ s.applications) :
    ApplicationAccountedFor s a := by
  have hbacklog := hs.applicationBacklogged ha
  have hreported := hs.assessmentsReported ha
  cases hs.assessed a ha with
  | waiting hdecision hnone =>
      rw [if_pos hdecision] at hbacklog
      refine .waiting hdecision hbacklog ?_
      simpa only [hnone, List.countP_nil] using hreported
  | assessed event hdecision hlast htells =>
      rw [if_neg hdecision] at hbacklog
      exact .decided event hdecision hbacklog hlast htells hreported

end Counts

section Runs

variable {allowedScopes : String} {steps : List SecuredStep} {evidence : List ClaimEvidence} {s : Store}

theorem committedBy_applicationsAccounted
    (hs : s ∈ committedBy allowedScopes steps (.initial [] evidence [])) : ApplicationsAccounted s := by
  have hinitial : ApplicationsAccounted (.initial [] evidence []) :=
    ⟨(claimsAccounted_initial evidence).toJoinedCases, fun _ hnone => absurd hnone List.not_mem_nil⟩
  refine committedBy_invariant hinitial ?_ s hs
  intro _ _ _ _ s s' hperforms hs
  obtain ⟨rows, hgrows, hassessment⟩ := hperforms.assessment
  exact ⟨hs.toJoinedCases.step hperforms.anyCase, hs.step hgrows hassessment⟩

/-- **No application is lost.** In every database that a run from an empty one commits: an application
that waits for a decision is in the backlog of applications once, and in no decisions report; one that is
decided is not in the backlog, it has the decision that the last of its assessments tells, and each of its
assessments has a row in the decisions reports of its day, and there only. -/
theorem applications_accounted (allowedScopes : String) (steps : List SecuredStep)
    (evidence : List ClaimEvidence) :
    ∀ s ∈ committedBy allowedScopes steps (.initial [] evidence []), ∀ a ∈ s.applications,
      ApplicationAccountedFor s a :=
  fun _ hs _ ha => (committedBy_applicationsAccounted hs).accountedFor ha

end Runs

/-- An application that waits, and is granted by a later request. -/
theorem applications_accounted_granted :
    (∃ s ∈ committedBy Sample.scopes Sample.securedSteps (.initial [] [] []), ∃ a ∈ s.applications,
      a.proceeding.meritsDecision = .submitted ∧ ApplicationAccountedFor s a)
    ∧ ∃ s ∈ committedBy Sample.scopes Sample.securedSteps (.initial [] [] []), ∃ a ∈ s.applications,
      a.proceeding.meritsDecision = .granted ∧ ApplicationAccountedFor s a := by
  have hfound : ∀ decision, (decision = .submitted ∨ decision = .granted) →
      ∃ s ∈ committedBy Sample.scopes Sample.securedSteps (.initial [] [] []), ∃ a ∈ s.applications,
        a.proceeding.meritsDecision = decision := by
    intro decision hdecision
    have happlications : ((committedBy Sample.scopes Sample.securedSteps (.initial [] [] [])).any fun s =>
        s.applications.any fun a => a.proceeding.meritsDecision = decision) = true := by
      rcases hdecision with rfl | rfl <;> decide +kernel
    obtain ⟨s, hs, happlication⟩ := List.any_eq_true.mp happlications
    obtain ⟨a, ha, hdecision⟩ := List.any_eq_true.mp happlication
    exact ⟨s, hs, a, ha, of_decide_eq_true hdecision⟩
  obtain ⟨s, hs, a, ha, hwaits⟩ := hfound .submitted (Or.inl rfl)
  obtain ⟨s', hs', a', ha', hgranted⟩ := hfound .granted (Or.inr rfl)
  exact ⟨⟨s, hs, a, ha, hwaits, applications_accounted Sample.scopes Sample.securedSteps [] s hs a ha⟩,
    s', hs', a', ha', hgranted, applications_accounted Sample.scopes Sample.securedSteps [] s' hs' a' ha'⟩

end InquestsApi
