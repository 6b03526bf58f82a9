import InquestsApi.CaseRuns
import InquestsApi.GrantCreated

/-! What the record of a decision says over runs of grants and refusals: a grant clears what a
refusal wrote, a refusal leaves the dates of the certificate where they are. -/
namespace InquestsApi

open UnitOfWork

/-- The fields of a decision agree with it: only a grant has the dates of a certificate and
only a refusal has its reason. -/
structure RecordConsistent (p : ApplicationProceeding) : Prop where
  granted : p.meritsDecision = .granted →
    p.reasonForRefusal = none ∧ p.justification = none ∧ p.certificateStartDate.isSome
      ∧ p.certificateIssueDate.isSome ∧ p.substantiveCostLimitationEffectiveDate.isSome
  notGranted : p.meritsDecision ≠ .granted →
    p.certificateStartDate = none ∧ p.certificateIssueDate = none
      ∧ p.substantiveCostLimitationEffectiveDate = none
  refused : p.meritsDecision = .refused → p.reasonForRefusal.isSome ∧ p.justification.isSome

section Decisions

variable {p : ApplicationProceeding}

theorem recordConsistent_granted (env : Env) (request : GrantApplicationUpdate) :
    RecordConsistent (GrantDecisionUseCase.grantedProceeding env request p) where
  granted := fun _ => ⟨rfl, rfl, rfl, rfl, rfl⟩
  notGranted := fun h => absurd rfl h
  refused := fun h => (nomatch h)

/-- A refusal leaves a consistent record exactly of what was not granted before it. -/
theorem recordConsistent_refused_iff (h : RecordConsistent p) (request : RefuseApplicationUpdate) :
    RecordConsistent (RefuseDecisionUseCase.refusedProceeding request p)
      ↔ p.meritsDecision ≠ .granted := by
  constructor
  · intro hrefused hgranted
    have hstart : p.certificateStartDate = none := (hrefused.notGranted fun h => nomatch h).1
    have hset := (h.granted hgranted).2.2.1
    rw [hstart] at hset
    cases hset
  · intro hungranted
    have hdates := h.notGranted hungranted
    exact
      { granted := fun hsame => (nomatch hsame)
        notGranted := fun _ => hdates
        refused := fun _ => ⟨rfl, rfl⟩ }

theorem recordConsistent_submitted {request : ApplicationCreate} {firmCode : String}
    {publicBodies : List PublicBodyId} {source : AddressSource} {laaReference : String}
    {createdAt : Datetime} {id : ℕ} :
    RecordConsistent (ApplicationRepository.applicationRow request firmCode publicBodies source
      laaReference createdAt id).proceeding where
  granted := fun h => (nomatch h)
  notGranted := fun _ => ⟨rfl, rfl, rfl⟩
  refused := fun h => (nomatch h)

end Decisions

def RecordsConsistent (s : Store) : Prop := ∀ a ∈ s.applications, RecordConsistent a.proceeding

/-- No refusal that goes through is of an application that is granted. -/
def refusesUngranted : CasePermissions where
  creates := fun _ => True
  refuses := fun application => application.isGranted = false

theorem CaseTransacts.recordsConsistent {s s' : Store} (h : CaseTransacts refusesUngranted s s')
    (hs : RecordsConsistent s) : RecordsConsistent s' := by
  intro a' ha'
  cases h.application ha' with
  | kept hkept => exact hs a' hkept
  | created request firmCode publicBodies source laaReference createdAt id _ _ hnew =>
      rw [hnew]
      exact recordConsistent_submitted
  | granted a application env request client ha happlication hdecided =>
      rw [hdecided]
      exact recordConsistent_granted env request
  | refused a application request ha happlication hpermitted hdecided =>
      have hungranted : application.proceeding.meritsDecision ≠ .granted :=
        of_decide_eq_false hpermitted
      rw [hdecided]
      exact (recordConsistent_refused_iff (hs application happlication) request).mpr hungranted
  | updated a publicBodyIds ha hgiven hupdated =>
      rw [hupdated]
      exact hs a ha

/-- Where no granted application is refused, every committed state has consistent records. -/
theorem records_stay_consistent {evidence : List ClaimEvidence} {events : List HistoryEvent}
    {s : Store}
    (h : CaseCommitted (fun db r => r.Permitted refusesUngranted db) (.initial [] evidence events) s) :
    RecordsConsistent s :=
  h.invariant (fun _ hnone => (nomatch hnone)) fun _ _ hstep hs => hstep.recordsConsistent hs

namespace Sample

def submit (request : CaseRequest) : CaseSubmission := ⟨request, env, noFaults⟩

def creation : CaseSubmission :=
  submit (.createApplication (created providerClient) "F1" ["O1"])

def grant : CaseSubmission := submit (.grant "INQ-AAA-CCC" ⟨date⟩)

def refuse : CaseSubmission :=
  submit (.refuse "INQ-AAA-CCC" ⟨.notInScope, "Out of scope"⟩)

def createdStore : Store := creation.after (.initial [] [] [])

end Sample

/-- A refusal of a new application, then a grant of it. -/
theorem records_stay_consistent_refuseThenGrant :
    RecordsConsistent (Sample.grant.after (Sample.refuse.after Sample.createdStore)) := by
  have hungranted : (findDecidedApplication "INQ-AAA-CCC" Sample.createdStore).toOption.map
      (·.isGranted) = some false := by decide +kernel
  have hcreated : CaseRun (fun db r => r.Permitted refusesUngranted db) (.initial [] [] [])
      Sample.createdStore := .request Sample.creation .start fun _ _ _ _ _ _ => trivial
  refine records_stay_consistent ⟨_, .request Sample.grant (.request Sample.refuse hcreated ?_)
    trivial, .inl rfl⟩
  intro application u t t' _ _ hfound _
  change findDecidedApplication "INQ-AAA-CCC" Sample.createdStore = .ok application at hfound
  rw [hfound] at hungranted
  exact Option.some.inj hungranted

/-- A grant and then a refusal leave a refused application with the dates of a certificate. -/
theorem refusal_keeps_certificate_dates :
    ¬ ∀ s, CaseCommitted (fun _ _ => True) (.initial [] [] []) s → RecordsConsistent s := by
  intro h
  let s := Sample.refuse.after (Sample.grant.after Sample.createdStore)
  have hdates : s.applications.map (fun a =>
      (a.proceeding.meritsDecision, a.proceeding.certificateStartDate))
        = [(.refused, some Sample.date)] := by decide +kernel
  have hcommitted : CaseCommitted (fun _ _ => True) (.initial [] [] []) s :=
    ⟨_, .request Sample.refuse (.request Sample.grant (.request Sample.creation .start trivial)
      trivial) trivial, .inl rfl⟩
  obtain ⟨a, ha, hfields⟩ := List.map_eq_singleton_iff.mp hdates
  simp only [Prod.mk.injEq] at hfields
  have hconsistent := h s hcommitted a (ha ▸ List.mem_singleton_self a)
  have hnone := (hconsistent.notGranted (by rw [hfields.1]; decide)).1
  rw [hfields.2] at hnone
  cases hnone

end InquestsApi
