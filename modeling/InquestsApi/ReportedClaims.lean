import InquestsApi.Ledger
import InquestsApi.Lib.Join
import InquestsApi.ReadableHistory

/-! What a report finds of a payment line: one claim, the one decision that paid it, and one
application. -/
namespace InquestsApi

/-- What the joins of a report find for a payment line. -/
structure LineRows (s : Store) (e : ClaimPaymentExtract) (c : Claim) (d : ClaimDecision)
    (a : Application) : Prop where
  claims : (s.claims.filter fun c' => e.claimId = c'.claimId) = [c]
  decisions : s.decisionsOf c.claimId = [d]
  decision : d.decision = .payInFull
  applications : (s.applications.filter fun a' => c.applicationId = a'.applicationId) = [a]

/-- A store whose claims are of stored applications, each with a key of its own. -/
structure StoredCases (s : Store) : Prop where
  ledger : Ledger s
  applicationKeys : (s.applications.map (·.applicationId)).Nodup
  onFile : ∀ c ∈ s.claims, ClaimOnFile s c

section Finding

variable {s : Store} {e : ClaimPaymentExtract} {c : Claim} {d : ClaimDecision} {a : Application}

theorem LineRows.claim_mem (h : LineRows s e c d a) : c ∈ s.claims ∧ e.claimId = c.claimId := by
  have hmem : c ∈ s.claims.filter fun c' => e.claimId = c'.claimId := h.claims ▸ List.mem_singleton_self c
  rw [List.mem_filter, decide_eq_true_eq] at hmem
  exact hmem

theorem LineRows.decision_mem (h : LineRows s e c d a) :
    d ∈ s.claimDecisions ∧ d.claimId = c.claimId := by
  have hmem : d ∈ s.decisionsOf c.claimId := h.decisions ▸ List.mem_singleton_self d
  rw [Store.decisionsOf, List.mem_filter, decide_eq_true_eq] at hmem
  exact hmem

theorem claims_filter (hkeys : (s.claims.map (·.claimId)).Nodup) (hc : c ∈ s.claims) :
    (s.claims.filter fun c' => c.claimId = c'.claimId) = [c] := by
  have hone := Join.filter_key_eq_singleton hkeys hc
  simpa only [eq_comm] using hone

theorem StoredCases.applications_filter (hs : StoredCases s) (hc : c ∈ s.claims) :
    ∃ a, (s.applications.filter fun a' => c.applicationId = a'.applicationId) = [a] := by
  obtain ⟨a, ha, hid⟩ := List.mem_map.mp (hs.onFile c hc).application
  have hone := Join.filter_key_eq_singleton hs.applicationKeys ha
  refine ⟨a, ?_⟩
  rw [← hid]
  simpa only [eq_comm] using hone

/-- A payment line is of a claim that one decision paid. -/
theorem StoredCases.lineRows (hs : StoredCases s) (he : e ∈ s.claimPaymentExtracts) :
    ∃ c d a, LineRows s e c d a := by
  obtain ⟨c, hc, hkey, hpaid⟩ := hs.ledger.consistent.extractOf e he
  obtain ⟨a, ha⟩ := hs.applications_filter hc
  have hclaims := claims_filter hs.ledger.consistent.claimKeys hc
  rw [hkey] at hclaims
  cases hs.ledger.consistent.life c hc with
  | submitted hstatus =>
      rw [hpaid] at hstatus
      cases hstatus
  | rejected d hstatus =>
      rw [hpaid] at hstatus
      cases hstatus
  | paid d amounts _ hdecisions hdecision => exact ⟨c, d, a, hclaims, hdecisions, hdecision, ha⟩

end Finding

/-- The requests of claims leave the applications as they are. -/
theorem CommittedState.applications {init s : Store} (h : CommittedState anyRequest init s) :
    s.applications = init.applications := by
  have hinvariant := (h.mono anyRequest_paymentsAllowed).invariant
    (I := fun s => s.applications = init.applications)
  exact hinvariant rfl fun _ _ hstep hs => hstep.applications.trans hs

section Runs

variable {applications : List Application} {evidence : List ClaimEvidence}
variable {events : List HistoryEvent} {s : Store}

/-- Every state that claim requests commit over applications with keys of their own. -/
theorem CommittedState.storedCases (hkeys : (applications.map (·.applicationId)).Nodup)
    (h : CommittedState anyRequest (.initial applications evidence events) s) : StoredCases s where
  ledger := h.ledger (ledger_initial _ _ _)
  applicationKeys := h.applications ▸ hkeys
  onFile := h.caseCommitted.onFile fun _ hnone => absurd hnone List.not_mem_nil

end Runs

end InquestsApi
