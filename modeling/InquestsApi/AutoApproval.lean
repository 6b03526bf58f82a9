import InquestsApi.ClaimRuns

/-! Approval without a caseworker: what a request that approves its own claim leaves, and
which totals of the command were validated on the way. -/
namespace InquestsApi

open UnitOfWork

section Outcome

variable {env : Env} {faults : Faults} {command : CreateClaimCommand} {prepared : PreparedClaim}
variable {claim : Claim} {db s s' : Store}

/-- The claim of a request before its decision: submitted on top of the database. -/
structure Held (command : CreateClaimCommand) (db : Store) (prepared : PreparedClaim)
    (claim : Claim) (s : Store) : Prop where
  prepare : CreateClaim.prepare command db = .ok prepared
  stored : SubmittedRow prepared.validatedClaim prepared.application.applicationId claim db
  claims : s.claims = db.claims ++ [claim]
  decisions : s.claimDecisions = db.claimDecisions
  reasons : s.decisionReasons = db.decisionReasons
  extracts : s.claimPaymentExtracts = db.claimPaymentExtracts

/-- What a request leaves that approves its own claim: the claim as it was submitted, now
paid, and the lines of the payment. -/
structure Approval (env : Env) (command : CreateClaimCommand) (db : Store)
    (prepared : PreparedClaim) (claim : Claim) (lines : List PaymentExtractLine)
    (rows : List ClaimPaymentExtract) (s : Store) : Prop where
  prepare : CreateClaim.prepare command db = .ok prepared
  outcome : CreateClaim.autoOutcome env prepared = some .approve
  stored : SubmittedRow prepared.validatedClaim prepared.application.applicationId claim db
  built : poaClaimPaymentExtractLines claim (payInFullClaimFromSubmittedPoaClaim claim) = some lines
  written : List.Forall₂ (ExtractRow claim.claimId) lines rows
  claims : s.claims = db.claims ++ [claim.withStatus .payInFull]
  extracts : s.claimPaymentExtracts = db.claimPaymentExtracts ++ rows

theorem Held.note (h : Held command db prepared claim s) (hn : Noted s s') :
    Held command db prepared claim s' := by
  obtain ⟨events, rfl⟩ := hn
  exact ⟨h.prepare, h.stored, h.claims, h.decisions, h.reasons, h.extracts⟩

/-- Only the new claim has the new key, so only its status is set. -/
theorem Held.setClaimStatus (h : Held command db prepared claim s) (status : ClaimStatus) :
    (s.setClaimStatus claim.claimId status).claims = db.claims ++ [claim.withStatus status] := by
  have hkept : db.claims.map (fun c => if c.claimId = claim.claimId then c.withStatus status else c)
      = db.claims := by
    have hsame : ∀ c ∈ db.claims,
        (if c.claimId = claim.claimId then c.withStatus status else c) = c := by
      intro c hc
      have hne : c.claimId ≠ claim.claimId := by
        rw [h.stored.claimId]
        exact nextKey_ne (List.mem_map_of_mem hc)
      rw [if_neg hne]
    exact (List.map_congr_left hsame).trans (List.map_id _)
  simp only [Store.setClaimStatus, h.claims, List.map_append, List.map_cons, List.map_nil, if_true,
    hkept]

theorem submit_held : Uow.Triple (fun _ _ => True)
    (fun s => CreateClaim.prepare command s = .ok prepared ∧ s = db)
    (CreateClaim.submit env faults command prepared) (Held command db prepared) := by
  refine submit_triple ?_
  rintro t claim t' ⟨hprepare, rfl⟩ hbody
  have hsubmitted := submitClaim_ok hbody
  exact ⟨trivial, hprepare, hsubmitted.stored, hsubmitted.claims, hsubmitted.claimDecisions,
    hsubmitted.decisionReasons, hsubmitted.claimPaymentExtracts⟩

theorem decide_approval : Uow.Triple (fun _ _ => True) (Held command db prepared claim)
    (CreateClaim.decide env faults prepared claim)
    (fun result s => result.claim.statusId = .payInFull →
      ∃ lines rows, result.claim = claim.withStatus .payInFull
        ∧ Approval env command db prepared claim lines rows s) := by
  have hsubmitted : ∀ s, Held command db prepared claim s → claim.statusId ≠ .payInFull := by
    intro s h
    rw [h.stored.status]
    decide
  refine decide_of_bodies ?_ ?_ (fun _ _ hstatus => nomatch hstatus) ?_
  · exact fun _ _ _ _ _ _ _ => ⟨trivial, fun hstatus => nomatch hstatus⟩
  · intro t u t' houtcome hheld hok
    obtain ⟨lines, rows, hlines, hdecided⟩ := autoApproveClaim_ok hok
    refine ⟨trivial, fun _ => ⟨lines, rows.extracts, rfl, ?_⟩⟩
    refine ⟨hheld.prepare, houtcome, hheld.stored, hlines, hdecided.record.extracts, ?_, ?_⟩
    · rw [hdecided.claims]
      exact hheld.setClaimStatus .payInFull
    · rw [hdecided.claimPaymentExtracts, hheld.extracts]
  · exact fun s hheld hstatus => absurd hstatus (hsubmitted s hheld)

/-- A request that ends with its claim paid has approved it. -/
theorem execute_approval {result : CreateClaimResult} {session : Session Store Notification OrmObject}
    (hrun : CreateClaim.execute env faults command (.start db) = .ok result session)
    (hpaid : result.claim.statusId = .payInFull) :
    ∃ prepared claim lines rows, result.claim = claim.withStatus .payInFull
      ∧ Approval env command db prepared claim lines rows session.committed := by
  have htriple : Uow.Triple (fun _ _ => True) (fun s => s = db)
      (CreateClaim.execute env faults command)
      (fun result s => result.claim.statusId = .payInFull →
        ∃ prepared claim lines rows, result.claim = claim.withStatus .payInFull
          ∧ Approval env command db prepared claim lines rows s) := by
    refine .bind .check fun prepared => .bind submit_held fun claim => ?_
    refine .bind (notify_triple (P := Held command db prepared claim) ?_) fun _ => ?_
    · exact fun s s' hnoted hheld => ⟨trivial, hheld.note hnoted⟩
    · refine decide_approval.weaken (fun _ h => h) ?_
      intro result s h hstatus
      obtain ⟨lines, rows, hresult⟩ := h hstatus
      exact ⟨prepared, claim, lines, rows, hresult⟩
  have hend := (htriple _ (Session.start_clean db) rfl).1 result session hrun
  exact hend.2.2 hpaid

end Outcome

section Totals

variable {command : CreateClaimCommand} {claim : DomainClaim}

/-- The validated totals of a Payment on account claim, by kind: net, gross, zero-rated. -/
inductive PoaTotals (command : CreateClaimCommand) :
    Option Decimal → Option Decimal → Option Decimal → Prop where
  | zeroRated (z : Decimal) (hpoa : command.poaType = some .profitCost)
      (hvat : command.vatZeroTotal = some z) : PoaTotals command none none (some z)
  | standardRated (n g : Decimal) (hpoa : command.poaType = some .profitCost)
      (hnet : command.net = some n) (hgross : command.gross = some g)
      (hvat : command.vatZeroTotal = none) (hnonneg : 0 ≤ n) (hle : n ≤ g) :
      PoaTotals command (some n) (some g) none
  | disbursement (poaType : POAType) (hpoa : command.poaType = some poaType)
      (hother : poaType ≠ .profitCost) :
      PoaTotals command (some (command.net.getD 0))
        (some ((resolveClaimTotal command.gross command.vatZeroTotal).getD 0))
        (some (command.vatZeroTotal.getD 0))

/-- What a validated claim has come through: the rules of a bill, of a disbursement, or of
any other claim. -/
inductive ValidatedTotals (domain : DomainClaim) : DomainClaim → Prop where
  | bill (hbill : domain.claimType.isFinalBill = true)
      (htotals : domain.validateBillTotals = .ok ()) : ValidatedTotals domain domain
  | disbursement (hbill : ¬ domain.claimType.isFinalBill = true)
      (hconsistent : domain.validateTotalsConsistency = .ok ())
      (hkind : domain.claimType = .paymentOnAccount ∧ domain.poaType.isSome
        ∧ domain.poaType ≠ some .profitCost)
      (hgiven : domain.validateNonProfitCostHasAtLeastOneTotal = .ok ())
      (hgross : domain.validateNonProfitCostGrossPresentWhenNetEntered = .ok ()) :
      ValidatedTotals domain domain.normalizeNonProfitCostTotals
  | other (hbill : ¬ domain.claimType.isFinalBill = true)
      (hconsistent : domain.validateTotalsConsistency = .ok ())
      (hkind : ¬ (domain.claimType = .paymentOnAccount ∧ domain.poaType.isSome
        ∧ domain.poaType ≠ some .profitCost))
      (hprofit : domain.poaType = some .profitCost → domain.validateProfitCost = .ok ()) :
      ValidatedTotals domain domain

theorem validateTotalClaimCost_ok {domain : DomainClaim}
    (h : domain.validateTotalClaimCost = .ok claim) : ValidatedTotals domain claim := by
  unfold DomainClaim.validateTotalClaimCost at h
  split at h
  · rename_i hbill
    simp only [except_bind_ok, except_pure_ok] at h
    obtain ⟨⟨⟩, htotals, rfl⟩ := h
    exact .bill hbill htotals
  · rename_i hbill
    rw [except_bind_ok] at h
    obtain ⟨⟨⟩, hconsistent, h⟩ := h
    split at h
    · rename_i hkind
      simp only [except_bind_ok, except_pure_ok] at h
      obtain ⟨⟨⟩, hgiven, ⟨⟩, hgross, _, rfl, h⟩ := h
      have hother : domain.normalizeNonProfitCostTotals.poaType ≠ some .profitCost := hkind.2.2
      rw [if_neg hother] at h
      cases h
      exact .disbursement hbill hconsistent hkind hgiven hgross
    · rename_i hkind
      replace h : (if domain.poaType = some .profitCost then do
          domain.validateProfitCost
          pure domain
        else pure domain) = Except.ok claim := h
      split at h
      · simp only [except_bind_ok, except_pure_ok] at h
        obtain ⟨⟨⟩, hprofit, rfl⟩ := h
        exact .other hbill hconsistent hkind fun _ => hprofit
      · rename_i hpoa
        cases h
        exact .other hbill hconsistent hkind fun hprofit => absurd hprofit hpoa

/-- A profit cost is either zero-rated alone, or a net and a gross in order. -/
theorem poaTotals_profitCost (hpoa : command.poaType = some .profitCost)
    (hconsistent : (CreateClaim.domainClaim command).validateTotalsConsistency = .ok ())
    (hprofit : (CreateClaim.domainClaim command).validateProfitCost = .ok ()) :
    PoaTotals command command.net command.gross command.vatZeroTotal := by
  simp only [DomainClaim.validateTotalsConsistency, DomainClaim.validateProfitCost,
    except_bind_ok, refuseWhen_ok] at hconsistent hprofit
  obtain ⟨_, hnonneg, hle⟩ := hconsistent
  obtain ⟨_, hmixed, _, -, hmissing⟩ := hprofit
  simp only [CreateClaim.domainClaim] at hnonneg hle hmixed hmissing
  cases hvat : command.vatZeroTotal with
  | some z =>
      simp only [hvat, Option.isSome_some, true_and, not_or, Option.not_isSome_iff_eq_none] at hmixed
      rw [hmixed.1, hmixed.2]
      exact .zeroRated z hpoa hvat
  | none =>
      simp only [hvat, true_and, not_not, Option.isSome_iff_exists] at hmissing
      obtain ⟨⟨n, hnet⟩, g, hgross⟩ := hmissing
      rw [hnet, hgross]
      refine .standardRated n g hpoa hnet hgross hvat ?_ ?_
      · by_contra hneg
        exact hnonneg ⟨n, hnet, not_le.mp hneg⟩
      · by_contra hgt
        exact hle ⟨n, hnet, g, hgross, not_le.mp hgt⟩

theorem poaType_ne_none {domain : DomainClaim} (hinit : domain.postInit = .ok ())
    (htype : domain.claimType = .paymentOnAccount) : domain.poaType ≠ none := by
  simp only [DomainClaim.postInit, DomainClaim.validateClaimTypePoaCombination, except_bind_ok,
    refuseWhen_ok] at hinit
  obtain ⟨_, ⟨_, hmissing, -⟩, -⟩ := hinit
  exact fun hnone => hmissing ⟨htype, hnone⟩

/-- Only a Payment on account claim has a kind, and it is the kind that was asked for. -/
theorem prepare_poaType {prepared : PreparedClaim} {s : Store}
    (h : CreateClaim.prepare command s = .ok prepared) :
    prepared.validatedClaim.poaType = command.poaType
      ∧ (prepared.validatedClaim.claimType ≠ .paymentOnAccount →
        prepared.validatedClaim.poaType = none) := by
  have hvalid := (CreateClaim.prepare_ok h).validatedClaim
  generalize prepared.validatedClaim = validated at hvalid ⊢
  simp only [CreateClaim.validateClaim, except_bind_ok] at hvalid
  obtain ⟨⟨⟩, hinit, hvalidated⟩ := hvalid
  simp only [DomainClaim.postInit, DomainClaim.validateClaimTypePoaCombination, except_bind_ok,
    refuseWhen_ok] at hinit
  obtain ⟨_, ⟨_, -, hforbidden⟩, -⟩ := hinit
  have hkind : (CreateClaim.domainClaim command).claimType ≠ .paymentOnAccount →
      command.poaType = none := by
    intro htype
    by_contra hgiven
    exact hforbidden ⟨htype, Option.isSome_iff_ne_none.mpr hgiven⟩
  cases validateTotalClaimCost_ok hvalidated <;> exact ⟨rfl, hkind⟩

theorem validateClaim_totals (h : CreateClaim.validateClaim command = .ok claim)
    (htype : claim.claimType = .paymentOnAccount) :
    claim.poaType = command.poaType
      ∧ PoaTotals command claim.net claim.gross claim.vatZeroTotal := by
  simp only [CreateClaim.validateClaim, except_bind_ok] at h
  obtain ⟨⟨⟩, hinit, htotals⟩ := h
  cases validateTotalClaimCost_ok htotals with
  | bill hbill =>
    rw [htype] at hbill
    cases hbill
  | disbursement _ _ hkind =>
    obtain ⟨poaType, hpoa⟩ := Option.ne_none_iff_exists'.mp (poaType_ne_none hinit htype)
    refine ⟨rfl, .disbursement poaType hpoa fun heq => hkind.2.2 ?_⟩
    exact hpoa.trans (congrArg some heq)
  | other _ hconsistent hkind hprofit =>
    have hgiven := Option.isSome_iff_ne_none.mpr (poaType_ne_none hinit htype)
    have hprofitCost : command.poaType = some .profitCost := by
      by_contra hother
      exact hkind ⟨htype, hgiven, hother⟩
    exact ⟨rfl, poaTotals_profitCost hprofitCost hconsistent (hprofit hprofitCost)⟩

/-- The amount checked of a normalised disbursement is its gross: a gross of zero leaves
nothing zero-rated. -/
theorem resolveClaimTotal_normalised (gross vatZeroTotal : Option Decimal) :
    resolveClaimTotal (some ((resolveClaimTotal gross vatZeroTotal).getD 0))
        (some (vatZeroTotal.getD 0))
      = some ((resolveClaimTotal gross vatZeroTotal).getD 0) := by
  by_cases hzero : (resolveClaimTotal gross vatZeroTotal).getD 0 = 0
  · have hvat : vatZeroTotal.getD 0 = 0 := by
      cases vatZeroTotal with
      | none => rfl
      | some v =>
          cases gross with
          | none => exact hzero
          | some g =>
              by_cases hg : g = 0
              · simpa [resolveClaimTotal, hg] using hzero
              · simp [resolveClaimTotal, hg] at hzero
    rw [hzero, hvat]
    rfl
  · exact resolveClaimTotal_of_ne_zero hzero _

theorem pence_of_ofNullable {x : Decimal} {a : Option Amount} (h : Amount.ofNullable (some x) = some a) :
    ∃ b, a = some b ∧ b.pence = storedPence x := by
  obtain ⟨b, hb, rfl⟩ := Option.map_eq_some_iff.mp h
  exact ⟨b, rfl, Amount.pence_of_ofDecimal hb⟩

/-- The columns of a stored Payment on account claim, by kind, against the command: net, gross,
zero-rated; and the total it was validated with. -/
inductive StoredPoa (command : CreateClaimCommand) (validated : DomainClaim)
    (net gross vatZero : Option Amount) : Prop where
  | zeroRated (z : Decimal) (a : Amount) (hpoa : command.poaType = some .profitCost)
      (hvat : command.vatZeroTotal = some z) (hnet : net = none) (hgross : gross = none)
      (hzero : vatZero = some a) (hpence : a.pence = storedPence z)
      (htotal : resolveClaimTotal validated.gross validated.vatZeroTotal = some z)
  | standardRated (n g : Decimal) (a b : Amount) (hpoa : command.poaType = some .profitCost)
      (hcommandNet : command.net = some n) (hcommandGross : command.gross = some g)
      (hvat : command.vatZeroTotal = none) (hnonneg : 0 ≤ n) (hle : n ≤ g)
      (hnet : net = some a) (hgross : gross = some b) (hzero : vatZero = none)
      (hnetPence : a.pence = storedPence n) (hgrossPence : b.pence = storedPence g)
      (htotal : resolveClaimTotal validated.gross validated.vatZeroTotal = some g)
  | disbursement (poaType : POAType) (a b d : Amount) (hpoa : command.poaType = some poaType)
      (hother : poaType ≠ .profitCost) (hprofit : command.poaType ≠ some .profitCost)
      (hnet : net = some a) (hgross : gross = some b) (hzero : vatZero = some d)
      (hnetPence : a.pence = storedPence (command.net.getD 0))
      (hgrossPence : b.pence
        = storedPence ((resolveClaimTotal command.gross command.vatZeroTotal).getD 0))
      (hzeroPence : d.pence = storedPence (command.vatZeroTotal.getD 0))
      (htotal : resolveClaimTotal validated.gross validated.vatZeroTotal
        = some ((resolveClaimTotal command.gross command.vatZeroTotal).getD 0))

/-- What the columns are of a claim that was submitted with such totals. -/
theorem SubmittedRow.storedPoa {validated : DomainClaim} {row : Claim} {applicationId : ℕ} {s : Store}
    (htotals : PoaTotals command validated.net validated.gross validated.vatZeroTotal)
    (hstored : SubmittedRow validated applicationId row s) :
    StoredPoa command validated row.totalProfitCostNet row.totalProfitCostGross
      row.totalProfitCostVatZero := by
  have hnet := hstored.net
  have hgross := hstored.gross
  have hvatZero := hstored.vatZero
  generalize hn : validated.net = net at *
  generalize hg : validated.gross = gross at *
  generalize hv : validated.vatZeroTotal = vatZero at *
  cases htotals with
  | zeroRated z hpoa hvat =>
      obtain ⟨a, hcolumn, hpence⟩ := pence_of_ofNullable hvatZero
      have htotal : resolveClaimTotal validated.gross validated.vatZeroTotal = some z := by
        rw [hg, hv]
        rfl
      exact .zeroRated z a hpoa hvat (Option.some.inj hnet).symm (Option.some.inj hgross).symm hcolumn
        hpence htotal
  | standardRated n g hpoa hcommandNet hcommandGross hvat hnonneg hle =>
      obtain ⟨a, hnetColumn, hnetPence⟩ := pence_of_ofNullable hnet
      obtain ⟨b, hgrossColumn, hgrossPence⟩ := pence_of_ofNullable hgross
      have htotal : resolveClaimTotal validated.gross validated.vatZeroTotal = some g := by
        rw [hg, hv]
        simp [resolveClaimTotal]
      exact .standardRated n g a b hpoa hcommandNet hcommandGross hvat hnonneg hle hnetColumn
        hgrossColumn (Option.some.inj hvatZero).symm hnetPence hgrossPence htotal
  | disbursement poaType hpoa hother =>
      obtain ⟨a, hnetColumn, hnetPence⟩ := pence_of_ofNullable hnet
      obtain ⟨b, hgrossColumn, hgrossPence⟩ := pence_of_ofNullable hgross
      obtain ⟨d, hzeroColumn, hzeroPence⟩ := pence_of_ofNullable hvatZero
      have hprofit : command.poaType ≠ some .profitCost := by
        rw [hpoa]
        exact fun heq => hother (Option.some.inj heq)
      have htotal : resolveClaimTotal validated.gross validated.vatZeroTotal
          = some ((resolveClaimTotal command.gross command.vatZeroTotal).getD 0) := by
        rw [hg, hv]
        exact resolveClaimTotal_normalised _ _
      exact .disbursement poaType a b d hpoa hother hprofit hnetColumn hgrossColumn hzeroColumn
        hnetPence hgrossPence hzeroPence htotal

end Totals

end InquestsApi
