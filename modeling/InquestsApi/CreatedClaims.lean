import InquestsApi.CheckedTotals
import InquestsApi.CostLimit
import InquestsApi.PoaWindow

/-! The claim that a create request leaves in the database, however the request ends: which
checked totals its row holds, and which of them can be below zero. -/
namespace InquestsApi

open UnitOfWork ClaimRepository

/-- A claim that a request has added to `db`. Only its status may have changed since. -/
structure CreatedBy (command : CreateClaimCommand) (db : Store) (prepared : PreparedClaim)
    (c : Claim) : Prop where
  prepare : CreateClaim.prepare command db = .ok prepared
  stored : SubmittedRow prepared.validatedClaim prepared.application.applicationId
    (c.withStatus .submitted) db
  funds : Amount.ofDecimal prepared.totalFundsRemainingAfterClaim
    = some c.totalFundsRemainingAfterClaim

section Created

variable {env : Env} {faults : Faults} {command : CreateClaimCommand} {prepared : PreparedClaim}
variable {db : Store} {claim : Claim} {t t' : Txn Store Notification}

theorem submitClaim_funds (h : CreateClaim.submitClaim env faults command prepared t = .ok claim t') :
    Amount.ofDecimal prepared.totalFundsRemainingAfterClaim
      = some claim.totalFundsRemainingAfterClaim := by
  simp only [CreateClaim.submitClaim, createClaim, insertClaim, bind_ok, pure_ok, Tx.check_ok,
    portWrite_ok, except_bind_ok, toRequiredColumn_ok] at h
  obtain ⟨row, t₁, ⟨reference, _, -, -, _, hinsert, -⟩, _, _, -, _, _, -, rfl, -⟩ := h
  obtain ⟨_, -, _, -, _, -, _, hfunds, _, -, hinsert⟩ := hinsert
  split at hinsert
  · cases hinsert
  · cases hinsert
    exact hfunds

theorem submit_funds : Uow.Triple (fun _ _ => True) (fun _ => True)
    (CreateClaim.submit env faults command prepared)
    (fun claim _ => Amount.ofDecimal prepared.totalFundsRemainingAfterClaim
      = some claim.totalFundsRemainingAfterClaim) := by
  apply submit_triple
  intro t claim t' _ hbody
  exact ⟨trivial, submitClaim_funds hbody⟩

theorem withStatus_submitted (h : claim.statusId = .submitted) (status : ClaimStatus) :
    (claim.withStatus status).withStatus .submitted = claim := by
  unfold Claim.withStatus
  rw [← h]

/-- Every claim of the database that a create request leaves was there before, or is the one
that the request has added. -/
theorem execute_created (env : Env) (faults : Faults) (command : CreateClaimCommand) {c : Claim}
    (hc : c ∈ (endState (CreateClaim.execute env faults command (.start db))).committed.claims) :
    c ∈ db.claims ∨ ∃ prepared, CreatedBy command db prepared c := by
  cases hprepare : CreateClaim.prepare command db with
  | error e =>
      rw [execute_of_error hprepare] at hc
      exact .inl hc
  | ok prepared =>
      rw [execute_of_ok hprepare] at hc
      cases hsubmit : CreateClaim.submit env faults command prepared (.start db) with
      | error e s =>
          rw [bind_eq_of_error hsubmit] at hc
          have hkept : s.committed = db := submit_error hsubmit
          exact .inl (hkept ▸ hc)
      | ok claim s =>
          obtain ⟨hclean, -, hheld⟩ :=
            (submit_held _ (Session.start_clean db) ⟨hprepare, rfl⟩).1 claim s hsubmit
          have hfunds := ((submit_funds _ (Session.start_clean db) trivial).1 claim s hsubmit).2.2
          rw [bind_eq_of_ok hsubmit] at hc
          obtain ⟨status, hclaims⟩ := pursued_onTop env faults hclean hheld
          rw [hclaims, List.mem_append, List.mem_singleton] at hc
          rcases hc with hc | rfl
          · exact .inl hc
          · refine .inr ⟨prepared, hprepare, ?_, hfunds⟩
            rw [withStatus_submitted hheld.stored.status]
            exact hheld.stored

end Created

section Checked

variable {command : CreateClaimCommand} {prepared : PreparedClaim} {db : Store} {claim : DomainClaim}

theorem prepare_validateClaim (h : CreateClaim.prepare command db = .ok prepared) :
    CreateClaim.validateClaim command = .ok prepared.validatedClaim :=
  (CreateClaim.prepare_ok h).validatedClaim

theorem prepare_validated (h : CreateClaim.prepare command db = .ok prepared) :
    ValidatedTotals (CreateClaim.domainClaim command) prepared.validatedClaim := by
  have hvalid := prepare_validateClaim h
  simp only [CreateClaim.validateClaim, except_bind_ok] at hvalid
  obtain ⟨⟨⟩, -, hvalidated⟩ := hvalid
  exact validateTotalClaimCost_ok hvalidated

theorem prepare_funds (h : CreateClaim.prepare command db = .ok prepared) :
    prepared.totalFundsRemainingAfterClaim
      = CreateClaim.calculateTotalFundsRemaining prepared.application prepared.validatedClaim db :=
  (CreateClaim.quantize_ok.mp (CreateClaim.prepare_ok h).funds).2

/-- Normalised or not, the claim total counts for the same. -/
theorem ValidatedTotals.total (h : ValidatedTotals (CreateClaim.domainClaim command) claim) :
    (resolveClaimTotal claim.gross claim.vatZeroTotal).getD 0
      = (resolveClaimTotal command.gross command.vatZeroTotal).getD 0 := by
  cases h with
  | bill => rfl
  | disbursement =>
      have hsame := resolveClaimTotal_normalised command.gross command.vatZeroTotal
      simp only [DomainClaim.normalizeNonProfitCostTotals, CreateClaim.domainClaim, hsame,
        Option.getD_some]
  | other => rfl

/-- No checked net is below zero. -/
theorem ValidatedTotals.net_nonneg (h : ValidatedTotals (CreateClaim.domainClaim command) claim) :
    ∀ n ∈ claim.net, 0 ≤ n := by
  cases h with
  | bill _ htotals =>
      intro n hn
      simp only [DomainClaim.validateBillTotals, except_bind_ok, refuseWhen_ok] at htotals
      obtain ⟨_, hnet, -⟩ := htotals
      exact absurd (Option.isSome_iff_exists.mpr ⟨n, hn⟩) hnet
  | disbursement _ hconsistent =>
      intro n hn
      simp only [DomainClaim.normalizeNonProfitCostTotals, Option.mem_def, Option.some.injEq] at hn
      rw [← hn]
      cases hgiven : (CreateClaim.domainClaim command).net with
      | none => exact le_refl _
      | some n => exact (DomainClaim.validateTotalsConsistency_ok.mp hconsistent).1 n hgiven
  | other _ hconsistent => exact (DomainClaim.validateTotalsConsistency_ok.mp hconsistent).1

/-- The gross and the zero-rated total of a request, in pence, are not below zero. -/
structure PenceNonneg (gross vatZeroTotal : Option Decimal) : Prop where
  gross : ∀ g ∈ gross, 0 ≤ storedPence g
  vatZero : ∀ z ∈ vatZeroTotal, 0 ≤ storedPence z

theorem storedPence_zero : storedPence 0 = 0 := by decide +kernel

theorem penceNonneg_normalised (gross vatZeroTotal : Option Decimal) :
    PenceNonneg (some ((resolveClaimTotal gross vatZeroTotal).getD 0)) (some (vatZeroTotal.getD 0))
      ↔ PenceNonneg gross vatZeroTotal := by
  constructor
  · intro h
    refine ⟨?_, ?_⟩
    · intro g hg
      by_cases hzero : g = 0
      · rw [hzero, storedPence_zero]
      · have htotal := h.gross _ rfl
        rwa [Option.mem_def.mp hg, resolveClaimTotal_of_ne_zero hzero, Option.getD_some] at htotal
    · intro z hz
      have hvat := h.vatZero _ rfl
      rwa [Option.mem_def.mp hz, Option.getD_some] at hvat
  · intro h
    have hvat : 0 ≤ storedPence (vatZeroTotal.getD 0) := by
      cases hz : vatZeroTotal with
      | none => exact storedPence_zero.ge
      | some z => exact h.vatZero z hz
    refine ⟨?_, fun z hz => Option.some.inj hz ▸ hvat⟩
    intro g hg
    rw [← Option.some.inj hg]
    by_cases hzero : ∀ g ∈ gross, g = 0
    · rw [resolveClaimTotal_getD_of_zero hzero]
      exact hvat
    · push Not at hzero
      obtain ⟨g, hg, hne⟩ := hzero
      rw [Option.mem_def.mp hg, resolveClaimTotal_of_ne_zero hne]
      exact h.gross g hg

theorem ValidatedTotals.penceNonneg_iff
    (h : ValidatedTotals (CreateClaim.domainClaim command) claim) :
    PenceNonneg claim.gross claim.vatZeroTotal
      ↔ PenceNonneg command.gross command.vatZeroTotal := by
  cases h with
  | bill => exact Iff.rfl
  | disbursement => exact penceNonneg_normalised command.gross command.vatZeroTotal
  | other => exact Iff.rfl

theorem nonneg_column_iff {x : Option Decimal} {a : Option Amount}
    (h : Amount.ofNullable x = some a) :
    (∀ v ∈ Amount.valueOf a, 0 ≤ v) ↔ ∀ y ∈ x, 0 ≤ storedPence y := by
  cases x with
  | none =>
      cases h
      exact iff_of_true (fun v hv => nomatch hv) fun y hy => nomatch hy
  | some y =>
      obtain ⟨b, rfl, hpence⟩ := pence_of_ofNullable h
      have hvalue : 0 ≤ b.value ↔ 0 ≤ storedPence y := by
        rw [← hpence, Amount.value, le_div_iff₀ (by norm_num), zero_mul]
        exact Int.cast_nonneg_iff
      simp only [Amount.valueOf, Option.map_some, Option.mem_def, Option.some.injEq, forall_eq']
      exact hvalue

end Checked

end InquestsApi
