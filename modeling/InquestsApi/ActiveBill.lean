import InquestsApi.ConcurrentRequests

/-! One live final or nil bill for each application, when requests run side by side: a
request looks for a live bill before it adds its own, and nothing holds off another
request in between. -/
namespace InquestsApi

open UnitOfWork Interleaving ClaimRequest

/-- The final and nil bills of an application that are awaiting assessment or paid. -/
def Store.activeFinalBills (s : Store) (applicationId : ℕ) : List Claim :=
  (s.getClaimsByApplicationId applicationId).filter (·.isActiveFinalBill)

/-- A bill of the application is added while it has no live one. -/
def AddsBillAlone (applicationId : ℕ) : Admission ℕ Phase Database := fun _ phase db =>
  match phase with
  | .prepared prepared =>
    prepared.validatedClaim.claimType.isFinalBill = true →
      prepared.application.applicationId = applicationId → NoActiveFinalBill db.store applicationId
  | _ => True

instance (s : Store) (applicationId : ℕ) : Decidable (NoActiveFinalBill s applicationId) :=
  inferInstanceAs (Decidable (∀ c ∈ s.claims, _ → _))

instance (applicationId i : ℕ) (phase : Phase) (db : Database) :
    Decidable (AddsBillAlone applicationId i phase db) :=
  match phase with
  | .prepared prepared => inferInstanceAs (Decidable
      (prepared.validatedClaim.claimType.isFinalBill = true →
        prepared.application.applicationId = applicationId →
          NoActiveFinalBill db.store applicationId))
  | .start => .isTrue trivial
  | .submitted _ _ _ => .isTrue trivial
  | .confirmed _ _ _ => .isTrue trivial
  | .locked _ _ => .isTrue trivial
  | .done => .isTrue trivial

/-- Bills of one application are added while it has no live one, and only submitted claims
and claims on account are decided. -/
abbrev CommitsBill (applicationId : ℕ) : Store → Store → Prop :=
  Commits
    (fun s claim application => claim.claimType.isFinalBill = true → application = applicationId →
      NoActiveFinalBill s applicationId)
    fun c => c.statusId = .submitted ∨ c.claimTypeId = .paymentOnAccount

section Commits

variable {applicationId : ℕ} {s s' : Store} {c : Claim}

theorem activeFinalBills_length : (s.activeFinalBills applicationId).length
    = s.claims.countP fun c => c.applicationId = applicationId ∧ c.isActiveFinalBill = true := by
  rw [Store.activeFinalBills, Store.getClaimsByApplicationId, List.filter_filter,
    ← List.countP_eq_length_filter]
  refine List.countP_congr ?_
  intro c _
  simp [and_comm]

theorem activeFinalBills_eq_zero (h : NoActiveFinalBill s applicationId) :
    (s.activeFinalBills applicationId).length = 0 := by
  rw [activeFinalBills_length, List.countP_eq_zero]
  intro c hc hactive
  obtain ⟨happ, hbill⟩ := of_decide_eq_true hactive
  rw [h c hc happ] at hbill
  cases hbill

/-- No decision brings a bill back to life. -/
theorem isActiveFinalBill_of_withStatus {status : ClaimStatus}
    (hdecide : c.statusId = .submitted ∨ c.claimTypeId = .paymentOnAccount)
    (h : (c.withStatus status).isActiveFinalBill = true) : c.isActiveFinalBill = true := by
  simp only [Claim.isActiveFinalBill, Claim.withStatus_claimTypeId, Bool.and_eq_true] at h ⊢
  rcases hdecide with hstatus | htype
  · rw [hstatus]
    exact ⟨h.1, rfl⟩
  · rw [htype] at h
    exact absurd h.1 (by decide)

theorem CommitsBill.activeFinalBills (h : CommitsBill applicationId s s') (hkeys : ClaimKeys s)
    (hs : (s.activeFinalBills applicationId).length ≤ 1) :
    (s'.activeFinalBills applicationId).length ≤ 1 := by
  cases h with
  | note h =>
      obtain ⟨events, rfl⟩ := h
      exact hs
  | submission claim application row hadd h =>
      rw [activeFinalBills_length, h.claims, List.countP_append, ← activeFinalBills_length]
      by_cases hrow : row.applicationId = applicationId ∧ row.isActiveFinalBill = true
      · -- the new claim is a live bill, so it is the first one
        obtain ⟨happ, hbill⟩ := hrow
        rw [Claim.isActiveFinalBill, h.stored.claimType, Bool.and_eq_true] at hbill
        have hnone := hadd hbill.1 (h.stored.applicationId.symm.trans happ)
        rw [activeFinalBills_eq_zero hnone, Nat.zero_add]
        exact List.countP_le_length
      · have hzero : [row].countP (fun c => c.applicationId = applicationId
            ∧ c.isActiveFinalBill = true) = 0 := by
          rw [List.countP_singleton, if_neg]
          exact fun h => hrow (of_decide_eq_true h)
        rw [hzero]
        exact hs
  | decision claim verdict rows hclaim hdecide h =>
      refine le_trans ?_ hs
      rw [activeFinalBills_length, activeFinalBills_length, h.claims, Store.setClaimStatus,
        List.countP_map]
      refine List.countP_mono_left ?_
      intro c hc hactive
      have hsome := of_decide_eq_true hactive
      by_cases hkey : c.claimId = claim.claimId
      · simp only [if_pos hkey, Claim.withStatus_applicationId] at hsome
        rw [← eq_of_claimId hkeys hc hclaim hkey] at hdecide
        exact decide_eq_true ⟨hsome.1, isActiveFinalBill_of_withStatus hdecide hsome.2⟩
      · simp only [if_neg hkey] at hsome
        exact decide_eq_true hsome

end Commits

section Runs

variable {requests : ℕ → Submission} {applicationId : ℕ} {s s' : System ℕ Phase Database}

theorem run_commitsBill (hs : Holds (fun db => ClaimKeys db.store) Assertion s)
    (h : Run (program requests) (AddsBillAlone applicationId) s s') :
    Relation.ReflTransGen (CommitsBill applicationId) s.shared.store s'.shared.store := by
  refine run_commits ?_ ?_ hs h
  · rintro i phase db hadmitted store claim application ⟨rfl, prepared, rfl, rfl, rfl⟩
    exact hadmitted
  · rintro i phase db - c ⟨-, -, hstatus | ⟨htype, -⟩⟩
    · exact .inl hstatus
    · exact .inr htype

/-- When requests run side by side and each bill of an application is added while it has no
live one, the application has one live bill at most. -/
theorem one_active_final_bill (requests : ℕ → Submission) (store : Store)
    (hschema : SchemaKeys store) (applicationId : ℕ)
    (hinit : (store.activeFinalBills applicationId).length ≤ 1) (s : System ℕ Phase Database)
    (hrun : Run (program requests) (AddsBillAlone applicationId) (idle store) s) :
    (s.shared.store.activeFinalBills applicationId).length ≤ 1 := by
  have hkeys : ClaimKeys store := hschema.claimKeys
  have hcommits := run_commitsBill (idle_holds hkeys) hrun
  have hend := commits_invariant (J := fun s => ClaimKeys s
    ∧ (s.activeFinalBills applicationId).length ≤ 1) hcommits ⟨hkeys, hinit⟩ ?_
  · exact hend.2
  · rintro s s' hcommit ⟨hkeys, hs⟩
    exact ⟨hcommit.claimKeys hkeys, CommitsBill.activeFinalBills hcommit hkeys hs⟩

end Runs

/-- Two final bills for one application. -/
def Sample.billRequests : ℕ → Submission := fun _ => create finalBillCommand

/-- The second bill is read after the first is committed, and refused. -/
theorem one_active_final_bill_inTurn :
    ∃ s, Run (program Sample.billRequests) (AddsBillAlone 1) (idle Sample.store) s
      ∧ s.shared.store.claims.map (·.claimTypeId) = [.finalBill]
      ∧ (s.shared.store.activeFinalBills 1).length ≤ 1 := by
  have hfollow : (((idle Sample.store).follow (program Sample.billRequests) (AddsBillAlone 1)
      [0, 0, 1, 0]).any fun s => s.shared.store.claims.map (·.claimTypeId) = [.finalBill]) = true := by
    decide +kernel
  obtain ⟨s, hrun, htypes⟩ := exists_run_of_follow hfollow
  exact ⟨s, hrun, of_decide_eq_true htypes, one_active_final_bill Sample.billRequests Sample.store
    (Store.schemaKeys_initial _ _ _) 1 (Nat.zero_le 1) s hrun⟩

/-- Both requests look before either adds its bill. -/
theorem two_active_final_bills :
    ∃ s, Run (program Sample.billRequests) anyStep (idle Sample.store) s
      ∧ (s.shared.store.activeFinalBills 1).length = 2 := by
  have hfollow : (((idle Sample.store).follow (program Sample.billRequests) anyStep
      [0, 1, 0, 1]).any fun s => (s.shared.store.activeFinalBills 1).length = 2) = true := by
    decide +kernel
  obtain ⟨s, hrun, htest⟩ := exists_run_of_follow hfollow
  exact ⟨s, hrun, of_decide_eq_true htest⟩

end InquestsApi
