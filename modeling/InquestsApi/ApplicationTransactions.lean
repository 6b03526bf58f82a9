import InquestsApi.GrantCompletion
import InquestsApi.UpdateApplication

/-! What the transactions that create or change an application do to the database. -/
namespace InquestsApi

open UnitOfWork HistoryEventRepository ApplicationRepository

section Creation

variable {env : Env} {faults : Faults} {request : ApplicationCreate} {firmCode : String}
variable {t t' : Txn Store Notification} {application : Application} {u : Unit}

theorem parseAddressSource_ok {text : String} {source : AddressSource} :
    parseAddressSource text = .ok source ↔ AddressSource.ofValue text = some source := by
  unfold parseAddressSource
  cases AddressSource.ofValue text <;> simp

theorem getLaaReference_ok {s : Store} {laaReference : String}
    (h : getLaaReference env s = .ok laaReference) :
    (∃ draw, laaReference = generateLaaReference draw)
      ∧ ∀ a ∈ s.applications, a.laaReference ≠ laaReference := by
  obtain ⟨⟨attempt, hdraw⟩, hfree⟩ := drawReference_ok h
  refine ⟨⟨_, hdraw⟩, ?_⟩
  intro a ha hsame
  exact List.any_eq_false.mp hfree a ha (decide_eq_true hsame)

theorem insertApplication_ok {s s' : Store} {row : Application}
    (hnew : ∀ a ∈ s.applications, a.laaReference ≠ row.laaReference) :
    insertApplication row s = .ok (application, s') ↔
      application = row ∧ s' = { s with applications := s.applications ++ [row] } := by
  have hfree : ¬ s.applications.any (·.laaReference = row.laaReference) := by
    intro htaken
    obtain ⟨a, ha, hsame⟩ := List.any_eq_true.mp htaken
    exact hnew a ha (of_decide_eq_true hsame)
  unfold insertApplication
  rw [if_neg hfree]
  constructor
  · intro h
    cases h
    exact ⟨rfl, rfl⟩
  · rintro ⟨rfl, rfl⟩
    rfl

/-- An application is one new row, under a key and a reference that are new. -/
theorem createApplication_ok :
    createApplication env faults request firmCode t = .ok application t' ↔
      ∃ publicBodies source laaReference,
        request.publicBodies.mapM parsePublicBodyId = .ok publicBodies
          ∧ AddressSource.ofValue request.client.correspondenceAddressSource = some source
          ∧ getLaaReference env t.store = .ok laaReference
          ∧ faults .createApplication = none
          ∧ application = applicationRow request firmCode publicBodies source laaReference
              (env.now .createApplication) (nextKey (t.store.applications.map (·.applicationId)))
          ∧ t' = { t with store :=
              { t.store with applications := t.store.applications ++ [application] } } := by
  simp only [createApplication, bind_ok, Tx.check_ok, portWrite_ok, parseAddressSource_ok]
  constructor
  · rintro ⟨publicBodies, _, ⟨hbodies, rfl⟩, source, _, ⟨hsource, rfl⟩, laaReference, _,
      ⟨hreference, rfl⟩, hcall, s, hinsert, rfl⟩
    obtain ⟨rfl, rfl⟩ := (insertApplication_ok (getLaaReference_ok hreference).2).mp hinsert
    exact ⟨publicBodies, source, laaReference, hbodies, hsource, hreference, hcall, rfl, rfl⟩
  · rintro ⟨publicBodies, source, laaReference, hbodies, hsource, hreference, hcall, rfl, rfl⟩
    refine ⟨publicBodies, t, ⟨hbodies, rfl⟩, source, t, ⟨hsource, rfl⟩, laaReference, t,
      ⟨hreference, rfl⟩, hcall, _, ?_, rfl⟩
    exact (insertApplication_ok (getLaaReference_ok hreference).2).mpr ⟨rfl, rfl⟩

theorem createDuplicateRecords_ok {applicationId : ℕ} {duplicateApplicationIds : List ℕ} :
    createDuplicateRecords faults applicationId duplicateApplicationIds t = .ok u t' ↔
      (duplicateApplicationIds ≠ [] → faults .createDuplicateRecords = none)
        ∧ t' = { t with store :=
            insertDuplicateRecords applicationId duplicateApplicationIds t.store } := by
  unfold createDuplicateRecords
  by_cases hnone : duplicateApplicationIds = []
  · have hsame : insertDuplicateRecords applicationId duplicateApplicationIds t.store = t.store := by
      rw [hnone]
      rfl
    rw [if_pos hnone, pure_ok, hsame]
    constructor
    · rintro ⟨-, rfl⟩
      exact ⟨fun h => absurd hnone h, rfl⟩
    · rintro ⟨-, rfl⟩
      exact ⟨rfl, rfl⟩
  · simp [hnone, portWrite_ok]

end Creation

namespace CreateApplicationUseCase

variable {env : Env} {faults : Faults} {request : ApplicationCreate} {application : Application}
variable {userOfficeCodes : List String} {t t' : Txn Store Notification} {u : Unit}

theorem checkOffice_ok :
    checkOffice env faults application userOfficeCodes t = .ok u t' ↔
      application.provider.officeId ∈ userOfficeCodes ∧ faults .doesOfficeExist = none
        ∧ env.officeExists application.provider.officeId = true ∧ t' = t := by
  simp only [checkOffice, bind_ok, Tx.check_ok, Tx.callOut_ok, Option.isSome_eq_false_iff,
    Option.isNone_iff_eq_none]
  constructor
  · rintro ⟨_, _, ⟨hcode, rfl⟩, _, _, ⟨hcall, rfl⟩, hexists, rfl⟩
    split at hcode
    · split at hexists
      · rename_i hmem hoffice
        exact ⟨hmem, hcall, hoffice, rfl⟩
      · cases hexists
    · cases hcode
  · rintro ⟨hmem, hcall, hoffice, rfl⟩
    refine ⟨(), t', ⟨if_pos hmem, rfl⟩, (), t', ⟨hcall, rfl⟩, if_pos hoffice, rfl⟩

theorem identifyAndRecord_ok {applicationId : ℕ} :
    IdentifyDuplicateApplicationsUseCase.execute env faults applicationId t = .ok u t' ↔
      ∃ ids, identifyDuplicates env.lowering applicationId t.store = .ok ids
        ∧ (ids ≠ [] → faults .createDuplicateRecords = none)
        ∧ t' = { t with store := insertDuplicateRecords applicationId ids t.store } := by
  simp only [IdentifyDuplicateApplicationsUseCase.execute, bind_ok, Tx.check_ok,
    createDuplicateRecords_ok]
  constructor
  · rintro ⟨ids, _, ⟨hids, rfl⟩, hcall, rfl⟩
    exact ⟨ids, hids, hcall, rfl⟩
  · rintro ⟨ids, hids, hcall, rfl⟩
    exact ⟨ids, t, ⟨hids, rfl⟩, hcall, rfl⟩

/-- The duplicates are recorded, two events are written, and one message leaves. -/
theorem submitApplication_ok :
    submitApplication env faults request application userOfficeCodes t = .ok u t' ↔
      application.provider.officeId ∈ userOfficeCodes ∧ faults .doesOfficeExist = none
        ∧ env.officeExists application.provider.officeId = true
        ∧ ∃ ids actor system,
          identifyDuplicates env.lowering application.applicationId t.store = .ok ids
            ∧ (ids ≠ [] → faults .createDuplicateRecords = none)
            ∧ requireActor (some request.provider.emailAddress) = .ok actor
            ∧ faults (.createHistoryEvent .applicationSubmitted) = none
            ∧ faults .sendNotification = none
            ∧ requireActor (some ActorType.system.value) = .ok system
            ∧ faults (.createHistoryEvent .applicationSubmissionConfirmation) = none
            ∧ t' =
              { store :=
                  let recorded := insertDuplicateRecords application.applicationId ids t.store
                  let submitted := (submittedEvent request application).row env actor
                    (nextKey (recorded.historyEvents.map (·.id)))
                  let confirmed := (confirmationEvent request application).row env system
                    (nextKey ((recorded.historyEvents ++ [submitted]).map (·.id)))
                  { recorded with historyEvents := recorded.historyEvents ++ [submitted] ++ [confirmed] }
                outbox := .applicationSubmitted application request.provider.emailAddress :: t.outbox } := by
  simp only [submitApplication, bind_ok, checkOffice_ok, identifyAndRecord_ok, createHistoryEvent_ok,
    Tx.send_ok, Option.isSome_eq_false_iff, Option.isNone_iff_eq_none]
  constructor
  · rintro ⟨_, _, ⟨hmem, hcall, hoffice, rfl⟩, _, _, ⟨ids, hids, hrecord, rfl⟩, _, _,
      ⟨actor, hactor, hsubmitted, rfl⟩, _, _, ⟨hsend, rfl⟩, system, hsystem, hconfirmed, rfl⟩
    exact ⟨hmem, hcall, hoffice, ids, actor, system, hids, hrecord, hactor, hsubmitted, hsend,
      hsystem, hconfirmed, rfl⟩
  · rintro ⟨hmem, hcall, hoffice, ids, actor, system, hids, hrecord, hactor, hsubmitted, hsend,
      hsystem, hconfirmed, rfl⟩
    exact ⟨(), t, ⟨hmem, hcall, hoffice, rfl⟩, (), _, ⟨ids, hids, hrecord, rfl⟩, (), _,
      ⟨actor, hactor, hsubmitted, rfl⟩, (), _, ⟨hsend, rfl⟩, system, hsystem, hconfirmed, rfl⟩

end CreateApplicationUseCase

namespace UpdatePublicBodiesUseCase

variable {env : Env} {faults : Faults} {publicBodyIds : List PublicBodyId}
variable {application : Application} {t t' : Txn Store Notification} {u : Unit}

theorem checkUpdate_ok {laaReference : String} {s : Store} :
    checkUpdate publicBodyIds laaReference s = .ok application ↔
      findDecidedApplication laaReference s = .ok application ∧ application.isGranted = true
        ∧ publicBodyIds ≠ [] := by
  simp only [checkUpdate, except_bind_ok]
  constructor
  · rintro ⟨found, hfound, h⟩
    split at h
    · cases h
    · split at h
      · cases h
      · rename_i hgranted hgiven
        cases h
        exact ⟨hfound, not_not.mp hgranted, hgiven⟩
  · rintro ⟨hfound, hgranted, hgiven⟩
    refine ⟨application, hfound, ?_⟩
    rw [if_neg (not_not.mpr hgranted), if_neg hgiven]
    rfl

theorem updatePublicBodies_ok :
    updatePublicBodies env faults publicBodyIds application t = .ok u t' ↔
      ∃ actor, requireActor env.user.name = .ok actor ∧ faults .updatePublicBodies = none
        ∧ faults (.createHistoryEvent .interestedPartyUpdated) = none
        ∧ t' = { t with store :=
            { (t.store.updateApplication application.applicationId fun a =>
                { a with publicBodies := publicBodyIds.map (·.publicBody) }) with
              historyEvents := t.store.historyEvents
                ++ [(updatedEvent env publicBodyIds application).row env actor
                  (nextKey (t.store.historyEvents.map (·.id)))] } } := by
  unfold updatePublicBodies
  exact updateApplication_noted_ok

end UpdatePublicBodiesUseCase

end InquestsApi
