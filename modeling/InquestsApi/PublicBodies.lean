import InquestsApi.CostLimitForecast
import InquestsApi.DecisionRecord
import InquestsApi.Lib.Checked
import InquestsApi.OgdCostsReport

/-! The public bodies of applications over runs: what a run starts without it never gets by
itself, so the reports that need one rest on the bodies that an application is created with. -/
namespace InquestsApi

open UnitOfWork ApplicationRepository

section Invariant

/-- Every application that is created names a public body. -/
def createsWithBodies : CasePermissions where
  creates := fun request => request.publicBodies ≠ []
  refuses := fun _ => True

def HavePublicBodies (s : Store) : Prop := ∀ a ∈ s.applications, a.publicBodies ≠ []

theorem publicBodies_applicationRow {request : ApplicationCreate} {firmCode : String}
    {publicBodies : List PublicBodyId} {source : AddressSource} {laaReference : String}
    {createdAt : Datetime} {id : ℕ}
    (h : request.publicBodies.mapM parsePublicBodyId = .ok publicBodies) :
    (applicationRow request firmCode publicBodies source laaReference createdAt id).publicBodies = []
      ↔ request.publicBodies = [] := by
  have hlength : request.publicBodies.length = publicBodies.length :=
    (Checked.mapM_ok.mp h).length_eq
  simp only [applicationRow, List.map_eq_nil_iff]
  rw [← List.length_eq_zero_iff, ← List.length_eq_zero_iff, hlength]

theorem CaseTransacts.havePublicBodies {s s' : Store} (h : CaseTransacts createsWithBodies s s')
    (hs : HavePublicBodies s) : HavePublicBodies s' := by
  intro a' ha'
  cases h.application ha' with
  | kept hkept => exact hs a' hkept
  | created request firmCode publicBodies source laaReference createdAt id hgiven hbodies hnew =>
      rw [hnew]
      intro hnone
      exact hgiven ((publicBodies_applicationRow hbodies).mp hnone)
  | granted a application env request client ha happlication hdecided =>
      rw [hdecided]
      exact hs a ha
  | refused a application request ha happlication hpermitted hdecided =>
      rw [hdecided]
      exact hs a ha
  | updated a publicBodyIds ha hgiven hupdated =>
      rw [hupdated]
      exact fun hnone => hgiven (List.map_eq_nil_iff.mp hnone)

end Invariant

section Reports

variable {s : Store}

/-- The only thing a row asks of its candidate is a public body. -/
theorem forecastRow_has_bodies (hs : HavePublicBodies s) {candidate : CostLimitForecastCandidate}
    (hcandidate : candidate ∈ iterForecastCandidates s) (reportDate : Date) (message : String) :
    buildCostLimitForecastRow candidate reportDate
      ≠ .error (.invalidCostLimitForecastRecord message) := by
  obtain ⟨a, ha, effectiveDate, -, rfl⟩ := mem_iterForecastCandidates.mp hcandidate
  have hbodies : (forecastCandidate s a effectiveDate).publicBodies ≠ [] :=
    fun hnone => hs a ha (List.map_eq_nil_iff.mp hnone)
  intro herror
  unfold buildCostLimitForecastRow at herror
  rw [if_neg hbodies] at herror
  split at herror
  · cases herror
  · split at herror
    · cases herror
    · split at herror <;> cases herror

/-- The report finds the public bodies of each of its lines. -/
theorem ogdLine_has_bodies (hs : HavePublicBodies s) {decidedFrom decidedBefore : Datetime}
    {line : OgdCostsReportSourceLine}
    (hline : line ∈ iterOgdCostsReportLines decidedFrom decidedBefore s) :
    ∃ body rest, (getOgdPublicBodiesByApplication decidedFrom decidedBefore s).lookup
      line.applicationId = some (body :: rest) := by
  obtain ⟨row, hrow, rfl⟩ := List.mem_map.mp hline
  replace hrow := (List.mem_insertionSort _).mp hrow
  obtain ⟨-, -, -, ha, -⟩ := mem_ogdCostsStatement.mp hrow
  let bodiesOf : ℕ → List PublicBodyId := fun id =>
    ((s.applications.filter fun a => a.applicationId = id).flatMap (·.publicBodies)).map (·.publicBodyId)
  have hid : row.application.applicationId ∈
      ((ogdCostsStatement decidedFrom decidedBefore s).map (·.application.applicationId)).dedup :=
    List.mem_dedup.mpr (List.mem_map_of_mem hrow)
  have hbodies : bodiesOf row.application.applicationId ≠ [] := by
    obtain ⟨body, hbody⟩ := List.exists_mem_of_ne_nil _ (hs _ ha)
    refine List.ne_nil_of_mem (a := body.publicBodyId) (List.mem_map_of_mem ?_)
    exact List.mem_flatMap.mpr ⟨_, List.mem_filter.mpr ⟨ha, decide_eq_true rfl⟩, hbody⟩
  have hentry : (row.application.applicationId, bodiesOf row.application.applicationId)
      ∈ getOgdPublicBodiesByApplication decidedFrom decidedBefore s :=
    List.mem_filter.mpr ⟨List.mem_map.mpr ⟨_, hid, rfl⟩, decide_eq_true hbodies⟩
  cases hlookup : (getOgdPublicBodiesByApplication decidedFrom decidedBefore s).lookup
      row.line.applicationId with
  | none =>
      have hmissing := List.lookup_eq_none_iff.mp hlookup _ hentry
      simp [OgdCostsJoin.line] at hmissing
  | some bodies =>
      cases bodies with
      | cons body rest => exact ⟨body, rest, rfl⟩
      | nil =>
          obtain ⟨front, back, hsplit, -⟩ := List.lookup_eq_some_iff.mp hlookup
          have hempty : (row.line.applicationId, []) ∈
              getOgdPublicBodiesByApplication decidedFrom decidedBefore s := by
            rw [hsplit]
            exact List.mem_append_right _ List.mem_cons_self
          have hkept := (List.mem_filter.mp hempty).2
          simp at hkept

open GenerateOgdCostsReportUseCase in
/-- The report is never given up for the public bodies of an application. -/
theorem ogdReport_has_bodies (hs : HavePublicBodies s) (fromDate toDate : Date) (id : ℕ) :
    execute fromDate toDate s
      ≠ .error (.reportGeneration ("No public bodies found for application " ++ Nat.repr id)) := by
  intro herror
  simp only [execute, except_bind_error] at herror
  rcases herror with hwindow | ⟨⟨decidedFrom, decidedBefore⟩, -, hreport⟩
  · unfold resolveReportWindow at hwindow
    split_ifs at hwindow
    · cases hwindow
    · cases hwindow
    · split at hwindow <;> cases hwindow
  · split at hreport
    · cases hreport
    · rename_i e hmapM
      obtain ⟨line, hline, hrow⟩ := Checked.mapM_error hmapM
      obtain ⟨body, rest, hlookup⟩ := ogdLine_has_bodies hs hline
      unfold reportRow at hrow
      rw [hlookup] at hrow
      have hinitial : ∀ text : String, text.toList.head? ≠ some 'N' →
          text ≠ "No public bodies found for application " ++ Nat.repr id := by
        intro text htext hsame
        rw [hsame, String.toList_append] at htext
        exact htext rfl
      rcases buildOgdCostsRow_error hrow with ⟨-, rfl⟩ | ⟨-, rfl⟩
      · simp only [asReportGeneration, Except.error.injEq, ReportError.reportGeneration.injEq] at hreport
        refine hinitial _ ?_ hreport
        rw [String.toList_append]
        intro hinitials
        cases hinitials
      · simp only [asReportGeneration, Except.error.injEq, ReportError.reportGeneration.injEq] at hreport
        exact hinitial _ (by decide) hreport

end Reports

/-- What an application's public bodies are for: each has one, and the two reports find one
whenever they ask. -/
structure PublicBodiesFound (s : Store) : Prop where
  applications : HavePublicBodies s
  forecast : ∀ candidate ∈ iterForecastCandidates s, ∀ reportDate message,
    buildCostLimitForecastRow candidate reportDate ≠ .error (.invalidCostLimitForecastRecord message)
  ogdCosts : ∀ fromDate toDate id, GenerateOgdCostsReportUseCase.execute fromDate toDate s
    ≠ .error (.reportGeneration ("No public bodies found for application " ++ Nat.repr id))

/-- Where every application that is created names a public body, each keeps one. -/
theorem publicBodies_always_found {evidence : List ClaimEvidence} {events : List HistoryEvent}
    {s : Store}
    (h : CaseCommitted (fun db r => r.Permitted createsWithBodies db) (.initial [] evidence events) s) :
    PublicBodiesFound s := by
  have hs : HavePublicBodies s :=
    h.invariant (fun _ hnone => (nomatch hnone)) fun _ _ hstep hs => hstep.havePublicBodies hs
  exact
    { applications := hs
      forecast := fun candidate hcandidate => forecastRow_has_bodies hs hcandidate
      ogdCosts := ogdReport_has_bodies hs }

namespace Sample

def creationWithBodies (publicBodies : List String) : CaseSubmission :=
  submit (.createApplication { created providerClient with publicBodies := publicBodies } "F1" ["O1"])

end Sample

theorem publicBodies_always_found_oneBody :
    PublicBodiesFound (Sample.grant.after
      ((Sample.creationWithBodies ["Home Office"]).after (.initial [] [] []))) := by
  refine publicBodies_always_found ⟨_, .request Sample.grant (.request
    (Sample.creationWithBodies ["Home Office"]) .start ?_) trivial, .inl rfl⟩
  intro _ _ _ _ _ _
  exact List.cons_ne_nil _ _

/-- An application may be created without a public body, and granted: the forecast of the
day after then fails as a whole. -/
theorem created_without_public_bodies :
    ¬ ∀ s, CaseCommitted (fun _ _ => True) (.initial [] [] []) s → PublicBodiesFound s := by
  intro h
  let s := Sample.grant.after ((Sample.creationWithBodies []).after (.initial [] [] []))
  have hfails : (iterForecastCandidates s).map (fun candidate =>
      match buildCostLimitForecastRow candidate Sample.date with
      | .error e => some e
      | .ok _ => none)
        = [some (.invalidCostLimitForecastRecord "No public bodies found for application 1")] := by
    decide +kernel
  have hcommitted : CaseCommitted (fun _ _ => True) (.initial [] [] []) s :=
    ⟨_, .request Sample.grant (.request (Sample.creationWithBodies []) .start trivial) trivial, .inl rfl⟩
  obtain ⟨candidate, hcandidates, herror⟩ := List.map_eq_singleton_iff.mp hfails
  have hfound := (h s hcommitted).forecast candidate
    (hcandidates ▸ List.mem_singleton_self candidate) Sample.date "No public bodies found for application 1"
  split at herror
  · rename_i e he
    cases herror
    exact hfound he
  · cases herror

end InquestsApi
