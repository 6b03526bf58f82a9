import InquestsApi.ClaimRuns
import InquestsApi.CostLimitForecast

/-! The life of a claim in the database: its status, decision, reasons, amounts and
payment lines are in step in every committed state. -/
namespace InquestsApi

open UnitOfWork

namespace Store

variable (s : Store)

def decisionsOf (claimId : ℕ) : List ClaimDecision :=
  s.claimDecisions.filter fun d => d.claimId = claimId

def reasonsOf (claimDecisionId : ℕ) : List DecisionReason :=
  s.decisionReasons.filter fun r => r.claimDecisionId = claimDecisionId

def amountsOf (claimDecisionId : ℕ) : List ClaimDecisionAmount :=
  s.claimDecisionAmounts.filter fun a => a.claimDecisionId = claimDecisionId

def extractsOf (claimId : ℕ) : List ClaimPaymentExtract :=
  s.claimPaymentExtracts.filter fun e => e.claimId = claimId

end Store

/-- The three states of a claim's life, each with the rows that belong to it. -/
inductive Life (s : Store) (c : Claim) : Prop where
  | submitted (hstatus : c.statusId = .submitted) (hdecisions : s.decisionsOf c.claimId = [])
      (hextracts : s.extractsOf c.claimId = [])
  | rejected (d : ClaimDecision) (hstatus : c.statusId = .rejected)
      (hdecisions : s.decisionsOf c.claimId = [d]) (hdecision : d.decision = .reject)
      (hreasons : s.reasonsOf d.claimDecisionId ≠ []) (hextracts : s.extractsOf c.claimId = [])
  | paid (d : ClaimDecision) (a : ClaimDecisionAmount) (hstatus : c.statusId = .payInFull)
      (hdecisions : s.decisionsOf c.claimId = [d]) (hdecision : d.decision = .payInFull)
      (hamounts : s.amountsOf d.claimDecisionId = [a])

/-- Keys are unique, references resolve, and every claim is in one state of its life. -/
structure Consistent (s : Store) : Prop where
  claimKeys : (s.claims.map (·.claimId)).Nodup
  decisionOf : ∀ d ∈ s.claimDecisions, ∃ c ∈ s.claims, c.claimId = d.claimId
  reasonOf : ∀ r ∈ s.decisionReasons, r.claimDecisionId ∈ s.claimDecisions.map (·.claimDecisionId)
  amountOf : ∀ a ∈ s.claimDecisionAmounts,
    a.claimDecisionId ∈ s.claimDecisions.map (·.claimDecisionId)
  extractOf : ∀ e ∈ s.claimPaymentExtracts,
    ∃ c ∈ s.claims, c.claimId = e.claimId ∧ c.statusId = .payInFull
  life : ∀ c ∈ s.claims, Life s c

theorem consistent_initial (applications : List Application) (evidence : List ClaimEvidence)
    (events : List HistoryEvent) : Consistent (.initial applications evidence events) := by
  refine ⟨List.nodup_nil, ?_, ?_, ?_, ?_, ?_⟩ <;> intro x hx <;> cases hx

section Keys

variable {s s' : Store} {claimId : ℕ} {status : ClaimStatus} {c : Claim}

/-- Setting a status keeps every field that a status change keeps. -/
theorem setClaimStatus_map {α : Type} {field : Claim → α}
    (hfield : ∀ c status, field (c.withStatus status) = field c) (s : Store) (claimId : ℕ)
    (status : ClaimStatus) : (s.setClaimStatus claimId status).claims.map field = s.claims.map field := by
  simp only [Store.setClaimStatus, List.map_map]
  refine List.map_congr_left ?_
  intro c _
  simp only [Function.comp]
  split_ifs
  · exact hfield c status
  · rfl

theorem mem_setClaimStatus :
    c ∈ (s.setClaimStatus claimId status).claims ↔
      ∃ c₀ ∈ s.claims, c = if c₀.claimId = claimId then c₀.withStatus status else c₀ := by
  simp only [Store.setClaimStatus, List.mem_map, eq_comm]

/-- Two rows with one key are one row. -/
theorem eq_of_claimId {a b : Claim} (h : (s.claims.map (·.claimId)).Nodup) (ha : a ∈ s.claims)
    (hb : b ∈ s.claims) (hkey : a.claimId = b.claimId) : a = b :=
  List.inj_on_of_nodup_map h ha hb hkey

theorem nextKey_notMem (keys : List ℕ) : nextKey keys ∉ keys :=
  fun h => nextKey_ne h rfl

theorem filter_key_eq_nil {α : Type} {rows : List α} {key : α → ℕ} {k : ℕ}
    (h : ∀ x ∈ rows, key x ≠ k) : (rows.filter fun x => key x = k) = [] := by
  refine List.filter_eq_nil_iff.mpr ?_
  intro x hx heq
  exact h x hx (of_decide_eq_true heq)

theorem filter_key_eq_self {α : Type} {rows : List α} {key : α → ℕ} {k : ℕ}
    (h : ∀ x ∈ rows, key x = k) : (rows.filter fun x => key x = k) = rows :=
  List.filter_eq_self.mpr fun x hx => decide_eq_true (h x hx)

/-- Rows of other keys do not show. -/
theorem filter_key_append_of_ne {α : Type} {rows new : List α} {key : α → ℕ} {k : ℕ}
    (h : ∀ x ∈ new, key x ≠ k) :
    ((rows ++ new).filter fun x => key x = k) = rows.filter fun x => key x = k := by
  rw [List.filter_append, filter_key_eq_nil h, List.append_nil]

/-- New rows of one key come after the old rows of that key. -/
theorem filter_key_append_of_eq {α : Type} {rows new : List α} {key : α → ℕ} {k : ℕ}
    (h : ∀ x ∈ new, key x = k) :
    ((rows ++ new).filter fun x => key x = k) = (rows.filter fun x => key x = k) ++ new := by
  rw [List.filter_append, filter_key_eq_self h]

end Keys

section Submission

variable {s s' : Store} {claim : DomainClaim} {applicationId : ℕ} {row c : Claim}

/-- A life is a matter of the decision and payment tables. -/
theorem Life.congr (hd : s'.claimDecisions = s.claimDecisions)
    (hr : s'.decisionReasons = s.decisionReasons)
    (ha : s'.claimDecisionAmounts = s.claimDecisionAmounts)
    (he : s'.claimPaymentExtracts = s.claimPaymentExtracts) (h : Life s c) : Life s' c := by
  cases h with
  | submitted hstatus hdecisions hextracts =>
      refine .submitted hstatus ?_ ?_
      · simpa only [Store.decisionsOf, hd] using hdecisions
      · simpa only [Store.extractsOf, he] using hextracts
  | rejected d hstatus hdecisions hdecision hreasons hextracts =>
      refine .rejected d hstatus ?_ hdecision ?_ ?_
      · simpa only [Store.decisionsOf, hd] using hdecisions
      · simpa only [Store.reasonsOf, hr] using hreasons
      · simpa only [Store.extractsOf, he] using hextracts
  | paid d a hstatus hdecisions hdecision hamounts =>
      refine .paid d a hstatus ?_ hdecision ?_
      · simpa only [Store.decisionsOf, hd] using hdecisions
      · simpa only [Store.amountsOf, ha] using hamounts

theorem Consistent.note (hs : Consistent s) (h : Noted s s') : Consistent s' := by
  obtain ⟨events, rfl⟩ := h
  refine ⟨hs.claimKeys, hs.decisionOf, hs.reasonOf, hs.amountOf, hs.extractOf, ?_⟩
  intro c hc
  exact Life.congr (s := s) rfl rfl rfl rfl (hs.life c hc)

theorem Submitted.key_notMem (h : Submitted claim applicationId row s s') :
    row.claimId ∉ s.claims.map (·.claimId) :=
  h.stored.claimId ▸ nextKey_notMem _

theorem Submitted.consistent (hs : Consistent s) (h : Submitted claim applicationId row s s') :
    Consistent s' := by
  have hold : ∀ {c}, c ∈ s.claims → c ∈ s'.claims := fun hc => by
    rw [h.claims]
    exact List.mem_append_left _ hc
  refine ⟨?_, ?_, ?_, ?_, ?_, ?_⟩
  · rw [h.claims, List.map_append]
    exact hs.claimKeys.append (List.nodup_singleton _)
      (List.disjoint_singleton.mpr h.key_notMem)
  · intro d hd
    rw [h.claimDecisions] at hd
    obtain ⟨c, hc, hkey⟩ := hs.decisionOf d hd
    exact ⟨c, hold hc, hkey⟩
  · rw [h.decisionReasons, h.claimDecisions]
    exact hs.reasonOf
  · rw [h.claimDecisionAmounts, h.claimDecisions]
    exact hs.amountOf
  · intro e he
    rw [h.claimPaymentExtracts] at he
    obtain ⟨c, hc, hkey⟩ := hs.extractOf e he
    exact ⟨c, hold hc, hkey⟩
  · intro c hc
    rw [h.claims] at hc
    rcases List.mem_append.mp hc with hc | hc
    · exact (hs.life c hc).congr h.claimDecisions h.decisionReasons h.claimDecisionAmounts
        h.claimPaymentExtracts
    · -- the new key is no decision's and no payment's
      obtain rfl := List.mem_singleton.mp hc
      refine .submitted h.stored.status ?_ ?_
      · rw [Store.decisionsOf, h.claimDecisions]
        refine filter_key_eq_nil ?_
        intro d hd heq
        obtain ⟨c₀, hc₀, hkey⟩ := hs.decisionOf d hd
        exact h.key_notMem (List.mem_map.mpr ⟨c₀, hc₀, hkey.trans heq⟩)
      · rw [Store.extractsOf, h.claimPaymentExtracts]
        refine filter_key_eq_nil ?_
        intro e he heq
        obtain ⟨c₀, hc₀, hkey, -⟩ := hs.extractOf e he
        exact h.key_notMem (List.mem_map.mpr ⟨c₀, hc₀, hkey.trans heq⟩)

end Submission

/-- A claim that awaits assessment has no payment lines. -/
theorem Consistent.extractsOf_submitted {s : Store} {c : Claim} (hs : Consistent s)
    (hc : c ∈ s.claims) (hstatus : c.statusId = .submitted) : s.extractsOf c.claimId = [] := by
  cases hs.life c hc with
  | submitted _ _ hextracts => exact hextracts
  | rejected _ hrejected => rw [hstatus] at hrejected; cases hrejected
  | paid _ _ hpaid => rw [hstatus] at hpaid; cases hpaid

section Decision

variable {s s' : Store} {claimId k : ℕ} {verdict : Verdict} {rows : DecisionRows}

theorem extractRow_claimId {lines : List PaymentExtractLine} {extracts : List ClaimPaymentExtract}
    (h : List.Forall₂ (ExtractRow claimId) lines extracts) :
    ∀ e ∈ extracts, e.claimId = claimId := by
  induction h with
  | nil => exact fun e he => nomatch he
  | cons hrow _ ih =>
      intro e he
      rcases List.mem_cons.mp he with rfl | he
      · exact hrow.claimId
      · exact ih e he

namespace Decided

variable (h : Decided claimId verdict rows s s')

include h

theorem decisionsOf_self : s'.decisionsOf claimId = s.decisionsOf claimId ++ [rows.decision] := by
  rw [Store.decisionsOf, h.claimDecisions]
  exact filter_key_append_of_eq fun d hd => by rw [List.mem_singleton.mp hd, h.record.claim]

theorem decisionsOf_other (hk : k ≠ claimId) : s'.decisionsOf k = s.decisionsOf k := by
  rw [Store.decisionsOf, h.claimDecisions]
  refine filter_key_append_of_ne ?_
  intro d hd
  rw [List.mem_singleton.mp hd, h.record.claim]
  exact hk.symm

theorem extractsOf_self : s'.extractsOf claimId = s.extractsOf claimId ++ rows.extracts := by
  rw [Store.extractsOf, h.claimPaymentExtracts]
  exact filter_key_append_of_eq (extractRow_claimId h.record.extracts)

theorem extractsOf_other (hk : k ≠ claimId) : s'.extractsOf k = s.extractsOf k := by
  rw [Store.extractsOf, h.claimPaymentExtracts]
  refine filter_key_append_of_ne ?_
  intro e he
  rw [extractRow_claimId h.record.extracts e he]
  exact hk.symm

theorem key_notMem : rows.decision.claimDecisionId ∉ s.claimDecisions.map (·.claimDecisionId) :=
  h.record.key ▸ nextKey_notMem _

theorem reasonsOf_self (hreasons : ∀ r ∈ s.decisionReasons,
      r.claimDecisionId ∈ s.claimDecisions.map (·.claimDecisionId)) :
    s'.reasonsOf rows.decision.claimDecisionId = rows.reasons := by
  rw [Store.reasonsOf, h.decisionReasons, filter_key_append_of_eq h.record.reasonsOf,
    filter_key_eq_nil, List.nil_append]
  intro r hr heq
  exact h.key_notMem (heq ▸ hreasons r hr)

theorem amountsOf_self (hs : Consistent s) :
    s'.amountsOf rows.decision.claimDecisionId = rows.amounts := by
  rw [Store.amountsOf, h.claimDecisionAmounts, filter_key_append_of_eq h.record.amountsOf,
    filter_key_eq_nil, List.nil_append]
  intro a ha heq
  exact h.key_notMem (heq ▸ hs.amountOf a ha)

theorem reasonsOf_other {d : ClaimDecision} (hd : d ∈ s.claimDecisions) :
    s'.reasonsOf d.claimDecisionId = s.reasonsOf d.claimDecisionId := by
  rw [Store.reasonsOf, h.decisionReasons]
  refine filter_key_append_of_ne ?_
  intro r hr heq
  rw [h.record.reasonsOf r hr] at heq
  exact h.key_notMem (heq ▸ List.mem_map_of_mem hd)

theorem amountsOf_other {d : ClaimDecision} (hd : d ∈ s.claimDecisions) :
    s'.amountsOf d.claimDecisionId = s.amountsOf d.claimDecisionId := by
  rw [Store.amountsOf, h.claimDecisionAmounts]
  refine filter_key_append_of_ne ?_
  intro a ha heq
  rw [h.record.amountsOf a ha] at heq
  exact h.key_notMem (heq ▸ List.mem_map_of_mem hd)

theorem mem_claims {c : Claim} : c ∈ s'.claims ↔
    ∃ c₀ ∈ s.claims, c = if c₀.claimId = claimId then c₀.withStatus verdict.status else c₀ := by
  rw [h.claims, mem_setClaimStatus]

/-- Every claim of the earlier state is there, but for its status. -/
theorem exists_withStatus {c : Claim} (hc : c ∈ s.claims) :
    ∃ status, c.withStatus status ∈ s'.claims := by
  by_cases hkey : c.claimId = claimId
  · exact ⟨verdict.status, h.mem_claims.mpr ⟨c, hc, (if_pos hkey).symm⟩⟩
  · exact ⟨c.statusId, h.mem_claims.mpr ⟨c, hc, (if_neg hkey).symm⟩⟩

/-- And every claim of the later state was there, but for its status. -/
theorem of_mem_claims {c : Claim} (hc : c ∈ s'.claims) :
    ∃ c₀ ∈ s.claims, ∃ status, c = c₀.withStatus status := by
  obtain ⟨c₀, hc₀, rfl⟩ := h.mem_claims.mp hc
  by_cases hkey : c₀.claimId = claimId
  · exact ⟨c₀, hc₀, verdict.status, if_pos hkey⟩
  · exact ⟨c₀, hc₀, c₀.statusId, if_neg hkey⟩

/-- A decision keeps the life of every other claim. -/
theorem life_other {c : Claim} (hk : c.claimId ≠ claimId) (hlife : Life s c) : Life s' c := by
  cases hlife with
  | submitted hstatus hdecisions hextracts =>
      refine .submitted hstatus ?_ ?_
      · rw [h.decisionsOf_other hk, hdecisions]
      · rw [h.extractsOf_other hk, hextracts]
  | rejected d hstatus hdecisions hdecision hreasons hextracts =>
      have hd : d ∈ s.claimDecisions :=
        (List.mem_filter.mp (hdecisions ▸ List.mem_singleton_self d)).1
      refine .rejected d hstatus ?_ hdecision ?_ ?_
      · rw [h.decisionsOf_other hk, hdecisions]
      · rw [h.reasonsOf_other hd]
        exact hreasons
      · rw [h.extractsOf_other hk, hextracts]
  | paid d a hstatus hdecisions hdecision hamounts =>
      have hd : d ∈ s.claimDecisions :=
        (List.mem_filter.mp (hdecisions ▸ List.mem_singleton_self d)).1
      refine .paid d a hstatus ?_ hdecision ?_
      · rw [h.decisionsOf_other hk, hdecisions]
      · rw [h.amountsOf_other hd, hamounts]

/-- A decision moves a submitted claim to the state its verdict says. -/
theorem life_self {c : Claim} (hs : Consistent s) (hc : c ∈ s.claims) (hkey : c.claimId = claimId)
    (hstatus : c.statusId = .submitted)
    (hverdict : ∀ reasons, verdict = .reject reasons → reasons ≠ []) :
    Life s' (c.withStatus verdict.status) := by
  subst hkey
  have hlife := hs.life c hc
  cases hlife with
  | rejected _ hrejected => rw [hstatus] at hrejected; cases hrejected
  | paid _ _ hpaid => rw [hstatus] at hpaid; cases hpaid
  | submitted _ hdecisions hextracts =>
      have hdecisions' : s'.decisionsOf c.claimId = [rows.decision] := by
        rw [h.decisionsOf_self, hdecisions, List.nil_append]
      have hextracts' : s'.extractsOf c.claimId = rows.extracts := by
        rw [h.extractsOf_self, hextracts, List.nil_append]
      have hreasons' := h.reasonsOf_self hs.reasonOf
      have hamounts' := h.amountsOf_self hs
      have hrecord := h.record
      cases verdict with
      | reject reasons =>
          refine .rejected rows.decision rfl hdecisions' hrecord.decision ?_ ?_
          · rw [hreasons']
            intro hempty
            have hmap := hrecord.reasons
            rw [hempty] at hmap
            exact hverdict reasons rfl hmap.symm
          · rw [Claim.withStatus_claimId, hextracts']
            exact List.forall₂_nil_left_iff.mp hrecord.extracts
      | payInFull lines =>
          obtain ⟨a, ha⟩ := List.length_eq_one_iff.mp hrecord.amounts
          exact .paid rows.decision a rfl hdecisions' hrecord.decision (hamounts'.trans ha)

theorem consistent {c : Claim} (hs : Consistent s) (hc : c ∈ s.claims) (hkey : c.claimId = claimId)
    (hstatus : c.statusId = .submitted)
    (hverdict : ∀ reasons, verdict = .reject reasons → reasons ≠ []) : Consistent s' := by
  have hkeys : ∀ {k}, k ∈ s.claimDecisions.map (·.claimDecisionId) →
      k ∈ s'.claimDecisions.map (·.claimDecisionId) := fun hk => by
    rw [h.claimDecisions, List.map_append]
    exact List.mem_append_left _ hk
  have hnew : rows.decision.claimDecisionId ∈ s'.claimDecisions.map (·.claimDecisionId) := by
    rw [h.claimDecisions, List.map_append]
    exact List.mem_append_right _ (List.mem_singleton_self _)
  have hself : c.withStatus verdict.status ∈ s'.claims :=
    h.mem_claims.mpr ⟨c, hc, by rw [if_pos hkey]⟩
  refine ⟨?_, ?_, ?_, ?_, ?_, ?_⟩
  · rw [h.claims, setClaimStatus_map fun _ _ => rfl]
    exact hs.claimKeys
  · intro d hd
    rw [h.claimDecisions] at hd
    rcases List.mem_append.mp hd with hd | hd
    · obtain ⟨c₀, hc₀, hkey₀⟩ := hs.decisionOf d hd
      obtain ⟨status, hc'⟩ := h.exists_withStatus hc₀
      exact ⟨_, hc', hkey₀⟩
    · rw [List.mem_singleton.mp hd, h.record.claim]
      exact ⟨_, hself, hkey⟩
  · intro r hr
    rw [h.decisionReasons] at hr
    rcases List.mem_append.mp hr with hr | hr
    · exact hkeys (hs.reasonOf r hr)
    · rw [h.record.reasonsOf r hr]
      exact hnew
  · intro a ha
    rw [h.claimDecisionAmounts] at ha
    rcases List.mem_append.mp ha with ha | ha
    · exact hkeys (hs.amountOf a ha)
    · rw [h.record.amountsOf a ha]
      exact hnew
  · intro e he
    rw [h.claimPaymentExtracts] at he
    rcases List.mem_append.mp he with he | he
    · obtain ⟨c₀, hc₀, hkey₀, hstatus₀⟩ := hs.extractOf e he
      refine ⟨c₀, h.mem_claims.mpr ⟨c₀, hc₀, ?_⟩, hkey₀, hstatus₀⟩
      rw [if_neg]
      rintro hsame
      rw [eq_of_claimId hs.claimKeys hc₀ hc (hsame.trans hkey.symm), hstatus] at hstatus₀
      cases hstatus₀
    · refine ⟨_, hself, ?_, ?_⟩
      · rw [extractRow_claimId h.record.extracts e he]
        exact hkey
      · cases verdict with
        | reject reasons =>
            rw [List.forall₂_nil_left_iff.mp h.record.extracts] at he
            cases he
        | payInFull lines => rfl
  · intro c' hc'
    obtain ⟨c₀, hc₀, rfl⟩ := h.mem_claims.mp hc'
    split_ifs with hsame
    · exact h.life_self hs hc₀ hsame
        (eq_of_claimId hs.claimKeys hc₀ hc (hsame.trans hkey.symm) ▸ hstatus) hverdict
    · exact h.life_other hsame (hs.life c₀ hc₀)

end Decided

end Decision

theorem Transacts.consistent {allowed : Store → Claim → Prop} {s s' : Store}
    (h : Transacts allowed s s') (hs : Consistent s) : Consistent s' := by
  cases h with
  | submission claim applicationId row hbill h => exact h.consistent hs
  | note h => exact hs.note h
  | rejection claim reasons rows hclaim hstatus hreasons h =>
      refine h.consistent hs hclaim rfl hstatus ?_
      intro reasons' heq
      cases heq
      exact hreasons
  | autoApproval claim lines rows hclaim hstatus htype hbill hlines h =>
      exact h.consistent hs hclaim rfl hstatus fun _ heq => nomatch heq
  | payment claim decisionAmounts date lines rows hclaim hstatus hallowed hlines h =>
      exact h.consistent hs hclaim rfl hstatus fun _ heq => nomatch heq

/-- Every state a run commits is consistent. -/
theorem CommittedState.consistent {init s : Store} (h : CommittedState anyRequest init s)
    (hinit : Consistent init) : Consistent s :=
  (h.mono anyRequest_paymentsAllowed).invariant hinit fun _ _ hstep => hstep.consistent

section Funds

variable {s : Store} {c : Claim}

theorem getClaimDecisionByClaimId_of_decisionsOf {d : ClaimDecision} {claimId : ℕ}
    (h : s.decisionsOf claimId = [d]) : s.getClaimDecisionByClaimId claimId = some d := by
  rw [Store.decisionsOf] at h
  simp only [Store.getClaimDecisionByClaimId, h]
  rfl

theorem getClaimDecisionByClaimId_of_nil {claimId : ℕ} (h : s.decisionsOf claimId = []) :
    s.getClaimDecisionByClaimId claimId = none := by
  rw [Store.decisionsOf] at h
  simp only [Store.getClaimDecisionByClaimId, h, List.insertionSort_nil, List.head?_nil]

/-- The latest decision of a claim approves it exactly when its status says paid. -/
theorem Life.isApproved_iff (h : Life s c) (gross vatZeroTotal : Option Decimal) :
    ApprovedClaimAmount.isApproved
        ⟨(s.getClaimDecisionByClaimId c.claimId).map (·.decision), gross, vatZeroTotal⟩ = true
      ↔ c.statusId = .payInFull := by
  cases h with
  | submitted hstatus hdecisions hextracts =>
      rw [getClaimDecisionByClaimId_of_nil hdecisions, hstatus]
      simp [ApprovedClaimAmount.isApproved]
  | rejected d hstatus hdecisions hdecision hreasons hextracts =>
      rw [getClaimDecisionByClaimId_of_decisionsOf hdecisions, hstatus]
      simp [ApprovedClaimAmount.isApproved, hdecision]
  | paid d a hstatus hdecisions hdecision hamounts =>
      rw [getClaimDecisionByClaimId_of_decisionsOf hdecisions, hstatus]
      simp [ApprovedClaimAmount.isApproved, hdecision]

/-- What the latest decisions approve is what the statuses say is paid. -/
theorem sum_approved (hlife : ∀ c ∈ s.claims, Life s c) (applicationId : ℕ) :
    (((CreateClaim.existingClaimAmounts applicationId s).filter (·.isApproved)).map
        (·.paymentAmount)).sum = Claim.paidTotal (s.getClaimsByApplicationId applicationId) := by
  rw [CreateClaim.existingClaimAmounts, List.filter_map, List.map_map, Claim.paidTotal]
  have hsame : ∀ c ∈ s.getClaimsByApplicationId applicationId,
      (ApprovedClaimAmount.isApproved ⟨(s.getClaimDecisionByClaimId c.claimId).map (·.decision),
        Amount.valueOf c.totalProfitCostGross, Amount.valueOf c.totalProfitCostVatZero⟩)
        = decide (c.statusId = .payInFull) := by
    intro c hc
    rw [Bool.eq_iff_iff, decide_eq_true_iff]
    exact (hlife c (List.mem_filter.mp hc).1).isApproved_iff _ _
  rw [← List.filter_congr hsame]
  rfl

theorem sum_forecast (s : Store) (application : Application) (effectiveDate : Date) :
    (forecastCandidate s application effectiveDate).remainingCostLimit
      = ((application.proceeding.proceeding.substantiveCostLimitation.getD 0).toInt : ℚ)
        - Claim.paidTotal (s.getClaimsByApplicationId application.applicationId) := by
  have hpaid : ∀ gross vatZeroTotal,
      ApprovedClaimAmount.isApproved ⟨some .payInFull, gross, vatZeroTotal⟩ = true :=
    fun _ _ => rfl
  simp only [CostLimitForecastCandidate.remainingCostLimit, forecastCandidate,
    calculateAvailableFunds, Claim.paidTotal, List.filter_map, List.map_map, Function.comp_def,
    hpaid, List.filter_true]
  rfl

/-- The funds counted by latest decisions are the funds counted by statuses. -/
theorem availableFunds_eq_remainingCostLimit (hs : Consistent s) {application : Application}
    (hgranted : application.isGranted = true) (effectiveDate : Date) :
    calculateAvailableFunds application.proceeding.substantiveCostLimitation
        (CreateClaim.existingClaimAmounts application.applicationId s)
      = (forecastCandidate s application effectiveDate).remainingCostLimit := by
  have hmerits : application.proceeding.meritsDecision = .granted := of_decide_eq_true hgranted
  have hlimit : application.proceeding.substantiveCostLimitation
      = application.proceeding.proceeding.substantiveCostLimitation := by
    rw [ApplicationProceeding.substantiveCostLimitation, if_neg (not_not.mpr hmerits)]
  rw [sum_forecast, calculateAvailableFunds, sum_approved hs.life, hlimit]

end Funds

/-- In every state a run commits, whatever fails in it, each claim is in one state of its
life, payment lines belong to paid claims, a failed transaction commits nothing, and the
two accounts of the remaining funds agree. -/
theorem claim_rows_stay_in_step (applications : List Application) (evidence : List ClaimEvidence)
    (events : List HistoryEvent) (s : Store)
    (h : CommittedState anyRequest (.initial applications evidence events) s) :
    (∀ c ∈ s.claims, Life s c)
      ∧ (∀ e ∈ s.claimPaymentExtracts, ∃ c ∈ s.claims, c.claimId = e.claimId ∧ c.statusId = .payInFull)
      ∧ (∀ {α : Type} (body : Transaction α) fault (session : Session Store Notification OrmObject)
          e session', Uow.inTransaction body fault session = .error e session' →
            session'.committed = session.committed ∧ session'.trail = session.trail)
      ∧ ∀ application ∈ s.applications, application.isGranted = true → ∀ effectiveDate,
          calculateAvailableFunds application.proceeding.substantiveCostLimitation
              (CreateClaim.existingClaimAmounts application.applicationId s)
            = (forecastCandidate s application effectiveDate).remainingCostLimit := by
  have hs := h.consistent (consistent_initial applications evidence events)
  refine ⟨hs.life, hs.extractOf, ?_, ?_⟩
  · intro α body fault session e session' hfail
    exact Uow.inTransaction_atomic session e session' hfail
  · intro application _ hgranted effectiveDate
    exact availableFunds_eq_remainingCostLimit hs hgranted effectiveDate

/-- An approval whose status write fails leaves a claim to be rejected by hand; a second
claim is then approved. -/
def Sample.failingRun : List Submission :=
  [⟨.create (Sample.poaCommand .profitCost (some 100) (some 120) none), Sample.env,
      fun call => if call = .updateClaimStatus then some .flush else none⟩,
    Sample.reject Sample.firstReference,
    Sample.create (Sample.poaCommand .expertCost none none (some 40))]

theorem claim_rows_stay_in_step_failingRun :
    (afterAll Sample.store Sample.failingRun).claims.map (·.statusId) = [.rejected, .payInFull]
      ∧ ∀ c ∈ (afterAll Sample.store Sample.failingRun).claims,
        Life (afterAll Sample.store Sample.failingRun) c :=
  ⟨by decide +kernel, (claim_rows_stay_in_step [Sample.application] [] [] _
    ⟨_, reachable_afterAll .start fun _ _ _ => trivial, Or.inl rfl⟩).1⟩

end InquestsApi
