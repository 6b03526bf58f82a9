import InquestsApi.Frames
import InquestsApi.HistoryRecords

/-! What the bodies of a request leave as it was, and what they write into the history. -/
namespace InquestsApi

open UnitOfWork HistoryEventRepository

/-- The transaction that creates the request's application. -/
inductive PerformsCreation (env : Env) (faults : Faults) : CaseRequest → Store → Store → Prop
  | body {request : ApplicationCreate} {firmCode : String} {userOfficeCodes : List String}
      {application : Application} {t t' : Txn Store Notification}
      (h : CreateApplicationUseCase.createBody env faults request firmCode userOfficeCodes t
        = .ok application t') :
      PerformsCreation env faults (.createApplication request firmCode userOfficeCodes) t.store t'.store

/-- The transaction that submits the request's claim. -/
inductive PerformsSubmission (env : Env) (faults : Faults) : CaseRequest → Store → Store → Prop
  | body {command : CreateClaimCommand} {prepared : PreparedClaim} {claim : Claim}
      {t t' : Txn Store Notification} (hprepared : CreateClaim.prepare command t.store = .ok prepared)
      (h : CreateClaim.submitClaim env faults command prepared t = .ok claim t') :
      PerformsSubmission env faults (.claim (.create command)) t.store t'.store

section Views

variable {β : Type} {view : Store → β} {request : CaseRequest} {env : Env} {faults : Faults}
variable {s s' : Store}

theorem Performs.keeps (hdecisions : IgnoresDecisions view) (hupdates : IgnoresUpdates view)
    (h : Performs env faults request s s') :
    view s' = view s ∨ PerformsCreation env faults request s s'
      ∨ PerformsSubmission env faults request s s' := by
  have hhistory := hupdates.toIgnoresHistory
  cases h with
  | creation h => exact .inr (.inl (.body h))
  | submission hprepared h => exact .inr (.inr (.body hprepared h))
  | grant _ h => exact .inl (grantBody_keeps _ _ _ hupdates _ _ _ _ h)
  | refusal _ h => exact .inl (refuseBody_keeps _ _ _ hupdates _ _ _ _ h)
  | publicBodies _ h => exact .inl (updatePublicBodies_keeps _ _ _ hupdates _ _ _ _ h)
  | note _ h => exact .inl (createHistoryEvent_keeps _ _ hhistory _ _ _ _ h)
  | confirmation _ h => exact .inl (confirmSubmission_keeps _ _ _ _ hhistory _ _ _ h)
  | autoRejection _ _ h => exact .inl (autoRejectClaim_keeps _ _ _ _ hdecisions _ _ _ _ h)
  | autoApproval _ _ h => exact .inl (autoApproveClaim_keeps _ _ _ _ hdecisions _ _ _ h)
  | payment _ h => exact .inl (payClaim_keeps _ _ hdecisions _ _ _ _ _ h)
  | rejection _ h => exact .inl (rejectClaim_keeps _ _ hdecisions _ _ _ _ _ h)
  | approvedEmail _ h => exact .inl (sendApprovedEmail_keeps _ _ _ hhistory _ _ _ _ h)

/-- What a request that is not about a claim leaves as it was, with all that is only the claims'. -/
theorem Performs.keeps_of_case (hview : IgnoresApplications view) (hcase : ∀ r, request ≠ .claim r)
    (h : Performs env faults request s s') : view s' = view s := by
  have hupdates := hview.toIgnoresUpdates
  have hhistory := hupdates.toIgnoresHistory
  cases h with
  | creation h => exact createBody_keeps _ _ hview _ _ _ _ _ _ h
  | grant _ h => exact grantBody_keeps _ _ _ hupdates _ _ _ _ h
  | refusal _ h => exact refuseBody_keeps _ _ _ hupdates _ _ _ _ h
  | publicBodies _ h => exact updatePublicBodies_keeps _ _ _ hupdates _ _ _ _ h
  | note _ h => exact createHistoryEvent_keeps _ _ hhistory _ _ _ _ h
  | approvedEmail _ h => exact sendApprovedEmail_keeps _ _ _ hhistory _ _ _ _ h
  | submission _ _ => exact absurd rfl (hcase _)
  | confirmation _ _ => exact absurd rfl (hcase _)
  | autoRejection _ _ _ => exact absurd rfl (hcase _)
  | autoApproval _ _ _ => exact absurd rfl (hcase _)
  | payment _ _ => exact absurd rfl (hcase _)
  | rejection _ _ => exact absurd rfl (hcase _)

end Views

/-- The events a request may write, and for whom. -/
def eventKinds : CaseRequest → List (HistoryEventReference × ActorType)
  | .createApplication .. =>
    [(.applicationSubmitted, .provider), (.applicationSubmissionConfirmation, .system)]
  | .grant .. =>
    [(.applicationAssessmentCompleted, .caseworker), (.certificateCreated, .caseworker),
      (.applicationGrantedEmail, .system), (.applicationGrantedLetter, .system)]
  | .refuse .. => [(.applicationAssessmentCompleted, .caseworker), (.applicationRefused, .system)]
  | .updatePublicBodies .. => [(.interestedPartyUpdated, .caseworker)]
  | .createNote .. => [(.caseNoteAdded, .caseworker)]
  | .claim (.create _) =>
    [(.claimSubmitted, .provider), (.claimSubmissionConfirmation, .system), (.poaAutoRejected, .system),
      (.poaAutoApproved, .system)]
  | .claim (.payInFull _) =>
    [(.claimAssessmentCompleted, .caseworker), (.claimApprovedEmail, .system)]
  | .claim (.reject _) =>
    [(.claimAssessmentCompleted, .caseworker), (.claimRejectedEmail, .system)]
  | .sendApprovedEmails _ => [(.claimApprovedEmail, .system)]

/-- The row is one that the request writes for this user: a caseworker is named in it, and whoever is
not the system can be identified. -/
structure RecordedBy (request : CaseRequest) (user : EntraUser) (row : HistoryEvent) : Prop where
  kind : (row.eventReference, row.actorType) ∈ eventKinds request
  named : row.actorType = .caseworker → user.name = some row.actor ∧ isBlank row.actor = false
  identified : row.actorType ≠ .system →
    row.entraUserObjectId = user.objectId ∧ row.actorEmailAddress = user.emailAddress

section Rows

variable {request : CaseRequest} {env : Env} {faults : Faults} {s s' : Store} {row : HistoryEvent}

theorem requireActor_ok {actor : Option String} {name : String}
    (h : requireActor actor = .ok name) : actor = some name ∧ isBlank name = false := by
  cases actor with
  | none => cases h
  | some given =>
      unfold requireActor at h
      by_cases hblank : isBlank given = true
      · simp [hblank] at h
      · simp only [hblank] at h
        cases h
        exact ⟨rfl, Bool.eq_false_iff.mpr hblank⟩

theorem RecordedBy.of_writtenAs {event : NewEvent} (h : event.WrittenAs env row)
    (hkind : (event.eventReference, event.actorType) ∈ eventKinds request)
    (hactor : event.actorType = .caseworker → event.actor = env.user.name) :
    RecordedBy request env.user row := by
  obtain ⟨actor, id, hrequired, rfl⟩ := h
  refine ⟨hkind, ?_, ?_⟩
  · intro hcaseworker
    have hok := requireActor_ok hrequired
    rw [hactor hcaseworker] at hok
    exact hok
  · intro hother
    exact ⟨if_neg hother, if_neg hother⟩

/-- What a request's body writes into the history, the request writes for its user. -/
theorem Performs.rows (h : Performs env faults request s s') :
    ∃ rows, s'.historyEvents = s.historyEvents ++ rows
      ∧ ∀ row ∈ rows, RecordedBy request env.user row := by
  have hsystem : ∀ {event : NewEvent}, event.actorType = .system →
      event.actorType = .caseworker → event.actor = env.user.name := by
    intro event hs hc
    rw [hs] at hc
    cases hc
  cases h with
  | creation h =>
      obtain ⟨submitted, confirmed, hsubmitted, hconfirmed, happends⟩ := createBody_appends h
      refine ⟨_, happends.rows, List.forall_mem_cons.mpr ⟨?_, List.forall_mem_singleton.mpr ?_⟩⟩
      · exact .of_writtenAs hsubmitted (.head _) fun hc => nomatch hc
      · exact .of_writtenAs hconfirmed (.tail _ (.head _)) (hsystem rfl)
  | grant _ h =>
      obtain ⟨granted, context, event, assessed, certified, emailed, lettered, -, hevent, hassessed,
        hcertified, hemailed, hlettered, happends⟩ := grantBody_appends h
      obtain ⟨address, -, rfl⟩ := GrantDecisionUseCase.letterEvent_ok.mp hevent
      refine ⟨_, happends.rows, List.forall_mem_cons.mpr ⟨?_, List.forall_mem_cons.mpr ⟨?_,
        List.forall_mem_cons.mpr ⟨?_, List.forall_mem_singleton.mpr ?_⟩⟩⟩⟩
      · exact .of_writtenAs hassessed (.head _) fun _ => rfl
      · exact .of_writtenAs hcertified (.tail _ (.head _)) fun _ => rfl
      · exact .of_writtenAs hemailed (.tail _ (.tail _ (.head _))) (hsystem rfl)
      · exact .of_writtenAs hlettered (.tail _ (.tail _ (.tail _ (.head _)))) (hsystem rfl)
  | refusal _ h =>
      obtain ⟨refused, assessed, emailed, -, hassessed, hemailed, happends⟩ :=
        refuseBody_appends h
      refine ⟨_, happends.rows, List.forall_mem_cons.mpr ⟨?_, List.forall_mem_singleton.mpr ?_⟩⟩
      · exact .of_writtenAs hassessed (.head _) fun _ => rfl
      · exact .of_writtenAs hemailed (.tail _ (.head _)) (hsystem rfl)
  | publicBodies _ h =>
      obtain ⟨row, hwritten, happends⟩ := updatePublicBodies_appends h
      refine ⟨_, happends.rows, List.forall_mem_singleton.mpr ?_⟩
      exact .of_writtenAs hwritten (.head _) fun _ => rfl
  | note _ h =>
      obtain ⟨row, hwritten, happends⟩ := createHistoryEvent_appends h
      refine ⟨_, happends.rows, List.forall_mem_singleton.mpr ?_⟩
      exact .of_writtenAs hwritten (.head _) fun _ => rfl
  | submission _ h =>
      obtain ⟨row, hwritten, happends⟩ := submitClaim_appends h
      refine ⟨_, happends.rows, List.forall_mem_singleton.mpr ?_⟩
      exact .of_writtenAs hwritten (.head _) fun hc => nomatch hc
  | confirmation _ h =>
      obtain ⟨row, hwritten, happends⟩ := confirmSubmission_appends h
      refine ⟨_, happends.rows, List.forall_mem_singleton.mpr ?_⟩
      exact .of_writtenAs hwritten (.tail _ (.head _)) (hsystem rfl)
  | autoRejection _ _ h =>
      obtain ⟨row, hwritten, happends⟩ := autoRejectClaim_appends h
      refine ⟨_, happends.rows, List.forall_mem_singleton.mpr ?_⟩
      exact .of_writtenAs hwritten (.tail _ (.tail _ (.head _))) (hsystem rfl)
  | autoApproval _ _ h =>
      obtain ⟨row, hwritten, happends⟩ := autoApproveClaim_appends h
      refine ⟨_, happends.rows, List.forall_mem_singleton.mpr ?_⟩
      exact .of_writtenAs hwritten (.tail _ (.tail _ (.tail _ (.head _)))) (hsystem rfl)
  | payment _ h =>
      obtain ⟨c, assessed, emailed, -, hassessed, hemailed, happends⟩ := payClaim_appends h
      refine ⟨_, happends.rows, List.forall_mem_cons.mpr ⟨?_, List.forall_mem_singleton.mpr ?_⟩⟩
      · exact .of_writtenAs hassessed (.head _) fun _ => rfl
      · exact .of_writtenAs hemailed (.tail _ (.head _)) (hsystem rfl)
  | rejection _ h =>
      obtain ⟨c, assessed, emailed, -, hassessed, hemailed, happends⟩ := rejectClaim_appends h
      refine ⟨_, happends.rows, List.forall_mem_cons.mpr ⟨?_, List.forall_mem_singleton.mpr ?_⟩⟩
      · exact .of_writtenAs hassessed (.head _) fun _ => rfl
      · exact .of_writtenAs hemailed (.tail _ (.head _)) (hsystem rfl)
  | @approvedEmail now index _ _ _ _ _ _ h =>
      obtain ⟨row, hwritten, happends⟩ := sendApprovedEmail_appends h
      refine ⟨_, happends.rows, List.forall_mem_singleton.mpr ?_⟩
      have hrecorded : RecordedBy (.sendApprovedEmails now) (env.ofClaim index).user row :=
        .of_writtenAs hwritten (.head _) fun hc => nomatch hc
      exact hrecorded

end Rows

end InquestsApi
