import InquestsApi.ConcurrentRequests

/-! One decision for each claim, when requests run side by side: what keeps it, and the
automatic decision that overtakes a caseworker's. -/
namespace InquestsApi

open UnitOfWork Interleaving ClaimRequest

/-- A claim is decided once at most, and has no decision and no payment before that. -/
structure InStep (claimId : ℕ) (s : Store) : Prop where
  decisions : (s.decisionsOf claimId).length ≤ 1
  undecided : (∀ c ∈ s.claims, c.claimId = claimId → c.statusId = .submitted) →
    s.decisionsOf claimId = [] ∧ s.extractsOf claimId = []

/-- The automatic decision of the claim finds it as it was submitted. -/
def DecidesSubmitted (claimId : ℕ) : Admission ℕ Phase Database := fun _ phase db =>
  match phase with
  | .confirmed _ claim _ =>
    claim.claimId = claimId → ∀ c ∈ db.store.claims, c.claimId = claimId → c.statusId = .submitted
  | _ => True

instance (claimId i : ℕ) (phase : Phase) (db : Database) :
    Decidable (DecidesSubmitted claimId i phase db) :=
  match phase with
  | .confirmed _ claim _ => inferInstanceAs (Decidable (claim.claimId = claimId →
      ∀ c ∈ db.store.claims, c.claimId = claimId → c.statusId = .submitted))
  | .start => .isTrue trivial
  | .prepared _ => .isTrue trivial
  | .submitted _ _ _ => .isTrue trivial
  | .locked _ _ => .isTrue trivial
  | .done => .isTrue trivial

/-- A step writes payment lines for a claim. -/
def WritesLines (claimId : ℕ) (s s' : System ℕ Phase Database) : Prop :=
  s'.shared.store.extractsOf claimId ≠ s.shared.store.extractsOf claimId

/-- Decisions of one claim are taken while it is submitted. -/
abbrev CommitsOnce (claimId : ℕ) : Store → Store → Prop :=
  Commits (fun _ _ _ => True) fun c => c.claimId = claimId → c.statusId = .submitted

section Commits

variable {claimId : ℕ} {s s' : Store} {c : Claim}

theorem Verdict.status_ne_submitted (verdict : Verdict) : verdict.status ≠ .submitted := by
  cases verdict <;> exact fun h => nomatch h

theorem inStep_of_new (hkeys : SchemaKeys s) (hnew : claimId ∉ s.claims.map (·.claimId)) :
    InStep claimId s := by
  have hdecisions : s.decisionsOf claimId = [] := by
    refine filter_key_eq_nil ?_
    rintro d hd rfl
    exact hnew (hkeys.decisionOf d hd)
  have hextracts : s.extractsOf claimId = [] := by
    refine filter_key_eq_nil ?_
    rintro e he rfl
    exact hnew (hkeys.extractOf e he)
  refine ⟨?_, fun _ => ⟨hdecisions, hextracts⟩⟩
  rw [hdecisions]
  exact Nat.zero_le 1

/-- Decisions and lines of other claims do not show. -/
theorem Decided.inStep_other {key : ℕ} {verdict : Verdict} {rows : DecisionRows}
    (h : Decided key verdict rows s s') (hkey : claimId ≠ key) (hs : InStep claimId s) :
    InStep claimId s' := by
  refine ⟨?_, ?_⟩
  · rw [h.decisionsOf_other hkey]
    exact hs.decisions
  · intro hall
    rw [h.decisionsOf_other hkey, h.extractsOf_other hkey]
    refine hs.undecided ?_
    rintro c hc rfl
    exact hall c (h.mem_claims.mpr ⟨c, hc, (if_neg hkey).symm⟩) rfl

theorem CommitsOnce.inStep (h : CommitsOnce claimId s s') (hkeys : ClaimKeys s)
    (hs : InStep claimId s) : InStep claimId s' := by
  cases h with
  | note h =>
      obtain ⟨events, rfl⟩ := h
      exact ⟨hs.decisions, hs.undecided⟩
  | submission claim applicationId row _ h =>
      have hdecisions : s'.decisionsOf claimId = s.decisionsOf claimId := by
        rw [Store.decisionsOf, h.claimDecisions, Store.decisionsOf]
      have hextracts : s'.extractsOf claimId = s.extractsOf claimId := by
        rw [Store.extractsOf, h.claimPaymentExtracts, Store.extractsOf]
      refine ⟨hdecisions ▸ hs.decisions, ?_⟩
      intro hall
      rw [hdecisions, hextracts]
      refine hs.undecided ?_
      intro c hc hkey
      refine hall c ?_ hkey
      rw [h.claims]
      exact List.mem_append_left _ hc
  | decision claim verdict rows hclaim hdecide h =>
      by_cases hkey : claimId = claim.claimId
      · subst hkey
        -- the claim is still submitted, so this is its first decision
        have hfirst : s.decisionsOf claim.claimId = [] := by
          refine (hs.undecided ?_).1
          intro c hc hsame
          rw [eq_of_claimId hkeys hc hclaim hsame]
          exact hdecide rfl
        refine ⟨?_, ?_⟩
        · rw [h.decisionsOf_self, hfirst]
          exact le_rfl
        · intro hall
          have hdecided : claim.withStatus verdict.status ∈ s'.claims :=
            h.mem_claims.mpr ⟨claim, hclaim, (if_pos rfl).symm⟩
          exact absurd (hall _ hdecided rfl) verdict.status_ne_submitted
      · exact h.inStep_other hkey hs

theorem commitsOnce_inStep (h : Relation.ReflTransGen (CommitsOnce claimId) s s')
    (hkeys : ClaimKeys s) (hs : InStep claimId s) : ClaimKeys s' ∧ InStep claimId s' := by
  refine commits_invariant (J := fun s => ClaimKeys s ∧ InStep claimId s) h ⟨hkeys, hs⟩ ?_
  rintro s s' hcommit ⟨hkeys, hs⟩
  exact ⟨hcommit.claimKeys hkeys, CommitsOnce.inStep hcommit hkeys hs⟩

/-- A decided claim stays as it is, with the lines it has. -/
theorem commitsOnce_decided (h : Relation.ReflTransGen (CommitsOnce claimId) s s')
    (hkeys : ClaimKeys s) (hc : c ∈ s.claims) (hkey : c.claimId = claimId)
    (hstatus : c.statusId ≠ .submitted) :
    c ∈ s'.claims ∧ s'.extractsOf claimId = s.extractsOf claimId := by
  have hkept := commits_invariant (J := fun s' => ClaimKeys s' ∧ c ∈ s'.claims
    ∧ s'.extractsOf claimId = s.extractsOf claimId) h ⟨hkeys, hc, rfl⟩ ?_
  · exact hkept.2
  · rintro s₁ s₂ hcommit ⟨hkeys, hc, hlines⟩
    have hother : ∀ d ∈ s₁.claims, (d.claimId = claimId → d.statusId = .submitted) →
        d.claimId ≠ c.claimId := by
      intro d hd hdecide hsame
      rw [eq_of_claimId hkeys hd hc hsame] at hdecide
      exact hstatus (hdecide hkey)
    refine ⟨hcommit.claimKeys hkeys, hcommit.mem_of_undecided hc hother, ?_⟩
    rw [← hlines]
    cases hcommit with
    | note h =>
        obtain ⟨events, rfl⟩ := h
        rfl
    | submission claim applicationId row _ h =>
        rw [Store.extractsOf, h.claimPaymentExtracts, Store.extractsOf]
    | decision claim verdict rows hclaim hdecide h =>
        exact h.extractsOf_other (hkey ▸ (hother claim hclaim hdecide).symm)

/-- Lines appear with the decision: before it the claim is submitted, after it it is not. -/
theorem commitsOnce_writes (h : Relation.ReflTransGen (CommitsOnce claimId) s s')
    (hkeys : ClaimKeys s) (hs : InStep claimId s)
    (hwrites : s'.extractsOf claimId ≠ s.extractsOf claimId) :
    (∀ c ∈ s.claims, c.claimId = claimId → c.statusId = .submitted)
      ∧ ∃ c ∈ s'.claims, c.claimId = claimId ∧ c.statusId ≠ .submitted := by
  have hbefore : ∀ c ∈ s.claims, c.claimId = claimId → c.statusId = .submitted := by
    intro c hc hkey
    by_contra hstatus
    exact hwrites (commitsOnce_decided h hkeys hc hkey hstatus).2
  refine ⟨hbefore, ?_⟩
  by_contra hnone
  have hafter : ∀ c ∈ s'.claims, c.claimId = claimId → c.statusId = .submitted := by
    intro c hc hkey
    by_contra hstatus
    exact hnone ⟨c, hc, hkey, hstatus⟩
  apply hwrites
  rw [(hs.undecided hbefore).2, ((commitsOnce_inStep h hkeys hs).2.undecided hafter).2]

end Commits

section Runs

variable {requests : ℕ → Submission} {claimId : ℕ} {s s' : System ℕ Phase Database}

theorem run_commitsOnce (hs : Holds (fun db => ClaimKeys db.store) Assertion s)
    (h : Run (program requests) (DecidesSubmitted claimId) s s') :
    Relation.ReflTransGen (CommitsOnce claimId) s.shared.store s'.shared.store := by
  refine run_commits (fun _ _ _ _ _ _ _ _ => trivial) ?_ hs h
  rintro i phase db hadmitted c ⟨hc, -, hstatus | ⟨-, prepared, claim, session, rfl, hsame⟩⟩ hkey
  · exact hstatus
  · exact hadmitted (hsame.trans hkey) c hc hkey

/-- When requests run side by side and the automatic decision of a claim finds it as it was
submitted, the claim is decided once at most, its status is final once it has one, and one
step at most writes payment lines for it. -/
theorem claim_decided_once (requests : ℕ → Submission) (store : Store) (hschema : SchemaKeys store)
    (claimId : ℕ) (hnew : claimId ∉ store.claims.map (·.claimId)) (s : System ℕ Phase Database)
    (hrun : Run (program requests) (DecidesSubmitted claimId) (idle store) s) :
    (s.shared.store.decisionsOf claimId).length ≤ 1
      ∧ (∀ s', Run (program requests) (DecidesSubmitted claimId) s s' →
          ∀ c ∈ s.shared.store.claims, c.claimId = claimId → c.statusId ≠ .submitted →
            ∀ c' ∈ s'.shared.store.claims, c'.claimId = claimId → c'.statusId = c.statusId)
      ∧ ∀ i s₁ j s₂ s₃, Step (program requests) (DecidesSubmitted claimId) i s s₁ →
          Run (program requests) (DecidesSubmitted claimId) s₁ s₂ →
          Step (program requests) (DecidesSubmitted claimId) j s₂ s₃ →
          WritesLines claimId s s₁ → ¬ WritesLines claimId s₂ s₃ := by
  have hinit := inStep_of_new hschema hnew
  have hidle := idle_holds hschema.claimKeys
  have hholds := requests_outline.run hidle hrun
  obtain ⟨hkeys, hstep⟩ := commitsOnce_inStep (run_commitsOnce hidle hrun) hschema.claimKeys hinit
  refine ⟨hstep.decisions, ?_, ?_⟩
  · intro s' hrun' c hc hkey hstatus c' hc' hkey'
    have hholds' := requests_outline.run hholds hrun'
    have hkept := (commitsOnce_decided (run_commitsOnce hholds hrun') hkeys hc hkey hstatus).1
    rw [eq_of_claimId hholds'.shared hc' hkept (hkey'.trans hkey.symm)]
  · intro i s₁ j s₂ s₃ hfirst hrun₂ hsecond hwrites hwrites'
    have hholds₁ := requests_outline.step hholds hfirst
    have hholds₂ := requests_outline.run hholds₁ hrun₂
    have hcommits := run_commitsOnce hholds hfirst.run
    obtain ⟨-, c, hc, hkey, hstatus⟩ := commitsOnce_writes hcommits hkeys hstep hwrites
    have hkept := (commitsOnce_decided (run_commitsOnce hholds₁ hrun₂) hholds₁.shared hc hkey
      hstatus).1
    have hstep₁ := (commitsOnce_inStep hcommits hkeys hstep).2
    have hstep₂ := (commitsOnce_inStep (run_commitsOnce hholds₁ hrun₂) hholds₁.shared hstep₁).2
    have hsubmitted := (commitsOnce_writes (run_commitsOnce hholds₂ hsecond.run) hholds₂.shared
      hstep₂ hwrites').1
    exact hstatus (hsubmitted c hkept hkey)

end Runs

/-- One claim on account, and a caseworker who rejects it. -/
def Sample.raceRequests : ℕ → Submission := fun i =>
  if i = 0 then create (poaCommand .expertCost none (some 120) (some 20)) else reject firstReference

/-- The claim is approved before the caseworker reads it. -/
theorem claim_decided_once_inTurn :
    ∃ s, Run (program Sample.raceRequests) (DecidesSubmitted 1) (idle Sample.store) s
      ∧ s.shared.store.claims.map (·.statusId) = [.payInFull]
      ∧ (s.shared.store.decisionsOf 1).length ≤ 1 := by
  have hfollow : (((idle Sample.store).follow (program Sample.raceRequests) (DecidesSubmitted 1)
      [0, 0, 0, 0, 1]).any fun s => s.shared.store.claims.map (·.statusId) = [.payInFull]) = true := by
    decide +kernel
  obtain ⟨s, hrun, hstatus⟩ := exists_run_of_follow hfollow
  exact ⟨s, hrun, of_decide_eq_true hstatus, (claim_decided_once Sample.raceRequests Sample.store
    (Store.schemaKeys_initial _ _ _) 1 List.not_mem_nil s hrun).1⟩

/-- The rejection commits between the two commits of the request: the claim is then approved
all the same. -/
theorem claim_decided_twice_rejectedThenApproved :
    ∃ s, Run (program Sample.raceRequests) anyStep (idle Sample.store) s
      ∧ (s.shared.store.decisionsOf 1).map (·.decision) = [.reject, .payInFull]
      ∧ s.shared.store.claims.map (·.statusId) = [.payInFull]
      ∧ ¬ (s.shared.store.decisionsOf 1).length ≤ 1 := by
  have hfollow : (((idle Sample.store).follow (program Sample.raceRequests) anyStep
      [0, 0, 1, 1, 0, 0]).any fun s =>
        (s.shared.store.decisionsOf 1).map (·.decision) = [.reject, .payInFull]
          ∧ s.shared.store.claims.map (·.statusId) = [.payInFull]) = true := by
    decide +kernel
  obtain ⟨s, hrun, htest⟩ := exists_run_of_follow hfollow
  obtain ⟨hdecisions, hstatus⟩ := of_decide_eq_true htest
  refine ⟨s, hrun, hdecisions, hstatus, ?_⟩
  have hlength := congrArg List.length hdecisions
  rw [List.length_map] at hlength
  rw [hlength]
  decide

end InquestsApi
