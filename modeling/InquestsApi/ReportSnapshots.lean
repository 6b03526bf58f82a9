import InquestsApi.ConcurrentRequests
import InquestsApi.ExtractsReported
import Mathlib.Data.List.Dedup

/-! The payment extract report beside the requests that pay claims. Each of its three queries
sees what is committed when it runs: a line that commits in between is streamed, though no
lookup was made for it. -/
namespace InquestsApi

open UnitOfWork Interleaving GeneratePaymentExtractReportUseCase

/-- A stored line of a window, its claim and its application. -/
structure WindowLine (createdFrom createdBefore : Datetime) (s : Store) (e : ClaimPaymentExtract)
    (c : Claim) (a : Application) : Prop where
  line : e ∈ s.claimPaymentExtracts
  created : e.createdAt.within createdFrom createdBefore = true
  claim : c ∈ s.claims ∧ e.claimId = c.claimId
  application : a ∈ s.applications ∧ c.applicationId = a.applicationId

/-- The type of a line of a claim: a recoupment is also of the kind of the claim whose line it
takes back. -/
inductive HasLineType (s : Store) (e : ClaimPaymentExtract) (c : Claim) : PaymentLineType → Prop
  | payment (hkind : e.invoiceType ≠ .recouped) : HasLineType s e c ⟨e.invoiceType, c.poaTypeId, none⟩
  | recoupment (original : ClaimPaymentExtract) (poa : Claim) (hkind : e.invoiceType = .recouped)
      (horiginal : original ∈ s.claimPaymentExtracts)
      (hnumber : original.invoiceNumber ++ "-R" = e.invoiceNumber)
      (hpoa : poa ∈ s.claims) (hclaim : original.claimId = poa.claimId) :
      HasLineType s e c ⟨e.invoiceType, c.poaTypeId, poa.poaTypeId⟩

/-- A line that is streamed and that a lookup has missed: it committed after the query for the
lookup, and no line of the window was of its firm, or of its type, then. -/
inductive Unchecked (createdFrom createdBefore : Datetime) (atFirmCodes atLineTypes atLines : Store)
    (e : ClaimPaymentExtract) : Prop
  | firm (c : Claim) (a : Application) (h : WindowLine createdFrom createdBefore atLines e c a)
      (hlate : e ∉ atFirmCodes.claimPaymentExtracts)
      (hnew : ∀ e' c' a', WindowLine createdFrom createdBefore atFirmCodes e' c' a' →
        a'.provider.firmCode ≠ a.provider.firmCode)
  | lineType (c : Claim) (a : Application) (lineType : PaymentLineType)
      (h : WindowLine createdFrom createdBefore atLines e c a)
      (htype : HasLineType atLines e c lineType) (hlate : e ∉ atLineTypes.claimPaymentExtracts)
      (hnew : ∀ e' c' a', WindowLine createdFrom createdBefore atLineTypes e' c' a' →
        ¬ HasLineType atLineTypes e' c' lineType)

section Queries

variable {createdFrom createdBefore : Datetime} {s : Store} {e : ClaimPaymentExtract}
variable {c : Claim} {a : Application} {row : PaymentExtractJoin} {lineType : PaymentLineType}

theorem originalsOf_ne_nil (s : Store) (e : ClaimPaymentExtract) : originalsOf s e ≠ [] := by
  intro hempty
  rw [originalsOf, List.flatMap_eq_nil_iff] at hempty
  obtain ⟨original, horiginal⟩ := List.exists_mem_of_ne_nil _ (Join.outer_ne_nil
    (s.claimPaymentExtracts.filter fun original =>
      e.invoiceType = .recouped ∧ original.invoiceNumber ++ "-R" = e.invoiceNumber))
  have hclaims := hempty original horiginal
  rw [List.map_eq_nil_iff] at hclaims
  exact Join.outer_ne_nil _ hclaims

/-- The rows of the join are the lines of the window, each with what it may take back. -/
theorem mem_paymentExtractReportStatement :
    row ∈ paymentExtractReportStatement createdFrom createdBefore s ↔
      WindowLine createdFrom createdBefore s row.extract row.claim row.application
        ∧ (row.originalExtract, row.originalClaim) ∈ originalsOf s row.extract := by
  simp only [paymentExtractReportStatement, List.mem_flatMap, List.mem_filter, List.mem_map,
    decide_eq_true_eq]
  constructor
  · rintro ⟨e, ⟨he, hcreated⟩, c, hclaim, a, happlication, original, horiginal, rfl⟩
    exact ⟨⟨he, hcreated, hclaim, happlication⟩, horiginal⟩
  · rintro ⟨h, horiginal⟩
    exact ⟨row.extract, ⟨h.line, h.created⟩, row.claim, h.claim, row.application, h.application, _,
      horiginal, rfl⟩

theorem mem_getPaymentExtractFirmCodes {firmCode : String} :
    firmCode ∈ getPaymentExtractFirmCodes createdFrom createdBefore s ↔
      ∃ e c a, WindowLine createdFrom createdBefore s e c a ∧ a.provider.firmCode = firmCode := by
  rw [getPaymentExtractFirmCodes, List.mem_dedup, List.mem_map]
  constructor
  · rintro ⟨row, hrow, rfl⟩
    exact ⟨_, _, _, (mem_paymentExtractReportStatement.mp hrow).1, rfl⟩
  · rintro ⟨e, c, a, h, rfl⟩
    obtain ⟨original, horiginal⟩ := List.exists_mem_of_ne_nil _ (originalsOf_ne_nil s e)
    exact ⟨⟨e, c, a, original.1, original.2⟩,
      mem_paymentExtractReportStatement.mpr ⟨h, horiginal⟩, rfl⟩

/-- The type that the join finds for a line is the type that it has. -/
theorem JoinKeys.lineType_iff (hs : JoinKeys s)
    (h : row ∈ paymentExtractReportStatement createdFrom createdBefore s) :
    HasLineType s row.extract row.claim lineType ↔ lineType = row.lineType := by
  obtain ⟨hline, horiginals⟩ := mem_paymentExtractReportStatement.mp h
  by_cases hkind : row.extract.invoiceType = .recouped
  · obtain ⟨original, poa, hone, horiginal, hnumber, hpoa, hclaim⟩ :=
      hs.originalsOf_recouped hline.line hkind
    rw [hone, List.mem_singleton, Prod.mk.injEq] at horiginals
    have htype : row.lineType = ⟨row.extract.invoiceType, row.claim.poaTypeId, poa.poaTypeId⟩ := by
      rw [PaymentExtractJoin.lineType, horiginals.2, Option.bind_some]
    rw [htype]
    constructor
    · intro hhas
      cases hhas with
      | payment hother => exact absurd hkind hother
      | recoupment original' poa' _ horiginal' hnumber' hpoa' hclaim' =>
          have hsame := hs.original_eq horiginal' horiginal (hnumber'.trans hnumber.symm)
          rw [hsame] at hclaim'
          have hsamePoa := eq_of_claimId hs.claimKeys hpoa' hpoa (hclaim'.symm.trans hclaim)
          rw [hsamePoa]
    · rintro rfl
      exact .recoupment original poa hkind horiginal hnumber hpoa hclaim
  · rw [originalsOf_other hkind, List.mem_singleton, Prod.mk.injEq] at horiginals
    have htype : row.lineType = ⟨row.extract.invoiceType, row.claim.poaTypeId, none⟩ := by
      rw [PaymentExtractJoin.lineType, horiginals.2, Option.bind_none]
    rw [htype]
    constructor
    · intro hhas
      cases hhas with
      | payment => rfl
      | recoupment _ _ hrecouped => exact absurd hrecouped hkind
    · rintro rfl
      exact .payment hkind

theorem JoinKeys.mem_getPaymentExtractLineTypes (hs : JoinKeys s) :
    lineType ∈ getPaymentExtractLineTypes createdFrom createdBefore s ↔
      ∃ e c a, WindowLine createdFrom createdBefore s e c a ∧ HasLineType s e c lineType := by
  rw [getPaymentExtractLineTypes, List.mem_dedup, List.mem_map]
  constructor
  · rintro ⟨row, hrow, rfl⟩
    exact ⟨_, _, _, (mem_paymentExtractReportStatement.mp hrow).1, (hs.lineType_iff hrow).mpr rfl⟩
  · rintro ⟨e, c, a, h, htype⟩
    obtain ⟨original, horiginal⟩ := List.exists_mem_of_ne_nil _ (originalsOf_ne_nil s e)
    have hrow : ⟨e, c, a, original.1, original.2⟩ ∈
        paymentExtractReportStatement createdFrom createdBefore s :=
      mem_paymentExtractReportStatement.mpr ⟨h, horiginal⟩
    exact ⟨_, hrow, ((hs.lineType_iff hrow).mp htype).symm⟩

end Queries

/-- What commits leave alone: applications, claims but for their status, lines once they are
there, and what the joins of the report rest on. -/
structure LinesKept (s s' : Store) : Prop where
  applications : s'.applications = s.applications
  claims : ∀ c ∈ s.claims, ∃ status, c.withStatus status ∈ s'.claims
  extracts : s.claimPaymentExtracts ⊆ s'.claimPaymentExtracts
  joinKeys : JoinKeys s → JoinKeys s'

namespace LinesKept

variable {s s' s'' : Store} {claimId : ℕ} {verdict : Verdict} {rows : DecisionRows}

theorem refl (s : Store) : LinesKept s s :=
  ⟨rfl, fun c hc => ⟨c.statusId, hc⟩, List.Subset.refl _, fun hs => hs⟩

theorem trans (h : LinesKept s s') (h' : LinesKept s' s'') : LinesKept s s'' := by
  refine ⟨h'.applications.trans h.applications, ?_, List.Subset.trans h.extracts h'.extracts,
    fun hs => h'.joinKeys (h.joinKeys hs)⟩
  intro c hc
  obtain ⟨status, hkept⟩ := h.claims c hc
  obtain ⟨status', hkept'⟩ := h'.claims _ hkept
  exact ⟨status', hkept'⟩

/-- What each commit keeps, a run of them keeps. -/
theorem of_run (h : Relation.ReflTransGen LinesKept s s') : LinesKept s s' := by
  induction h with
  | refl => exact refl s
  | tail _ hlast ih => exact ih.trans hlast

theorem noted (h : Noted s s') : LinesKept s s' := by
  obtain ⟨events, rfl⟩ := h
  exact ⟨rfl, fun c hc => ⟨c.statusId, hc⟩, List.Subset.refl _,
    fun hs => ⟨hs.claimKeys, hs.claimOf, hs.numbers, hs.originalOf⟩⟩

theorem submitted {claim : DomainClaim} {applicationId : ℕ} {row : Claim}
    (h : Submitted claim applicationId row s s') : LinesKept s s' := by
  have hold : ∀ c ∈ s.claims, c ∈ s'.claims := by
    intro c hc
    rw [h.claims]
    exact List.mem_append_left _ hc
  refine ⟨h.applications, fun c hc => ⟨c.statusId, hold c hc⟩, ?_, fun hs => ⟨?_, ?_, ?_, ?_⟩⟩
  · rw [h.claimPaymentExtracts]
    exact List.Subset.refl _
  · rw [h.claims, List.map_append]
    exact hs.claimKeys.append (List.nodup_singleton _) (List.disjoint_singleton.mpr h.key_notMem)
  · intro e he
    rw [h.claimPaymentExtracts] at he
    obtain ⟨c, hc, hkey⟩ := hs.claimOf e he
    exact ⟨c, hold c hc, hkey⟩
  · rw [h.claimPaymentExtracts]
    exact hs.numbers
  · rw [h.claimPaymentExtracts]
    exact hs.originalOf

/-- A decision keeps them when its lines have new numbers, and take back lines that are
there. -/
theorem decided (h : Decided claimId verdict rows s s')
    (hclaim : ∃ c ∈ s.claims, c.claimId = claimId)
    (hnumbers : (s.claimPaymentExtracts.map (·.invoiceNumber)).Nodup →
      (s'.claimPaymentExtracts.map (·.invoiceNumber)).Nodup)
    (horiginals : ∀ line ∈ verdict.lines, line.invoiceType = .recouped →
      ∃ original ∈ s.claimPaymentExtracts, original.invoiceNumber ++ "-R" = line.invoiceNumber) :
    LinesKept s s' := by
  have hextracts : s.claimPaymentExtracts ⊆ s'.claimPaymentExtracts := by
    rw [h.claimPaymentExtracts]
    exact List.subset_append_left _ _
  refine ⟨h.applications, fun c hc => h.exists_withStatus hc, hextracts, fun hs => ⟨?_, ?_, ?_, ?_⟩⟩
  · rw [h.claims, setClaimStatus_map Claim.withStatus_claimId]
    exact hs.claimKeys
  · intro e he
    have hkept : ∀ key, (∃ c ∈ s.claims, c.claimId = key) → ∃ c ∈ s'.claims, c.claimId = key := by
      rintro key ⟨c, hc, hkey⟩
      obtain ⟨status, hc'⟩ := h.exists_withStatus hc
      exact ⟨_, hc', hkey⟩
    rw [h.claimPaymentExtracts, List.mem_append] at he
    rcases he with hold | hnew
    · exact hkept _ (hs.claimOf e hold)
    · rw [extractRow_claimId h.record.extracts e hnew]
      exact hkept _ hclaim
  · exact hnumbers hs.numbers
  · intro e he hkind
    rw [h.claimPaymentExtracts, List.mem_append] at he
    rcases he with hold | hnew
    · obtain ⟨original, horiginal, hnumber⟩ := hs.originalOf e hold hkind
      exact ⟨original, hextracts horiginal, hnumber⟩
    · obtain ⟨line, hline, hrow⟩ := exists_left_of_forall₂ h.record.extracts hnew
      obtain ⟨original, horiginal, hnumber⟩ := horiginals line hline (hrow.invoiceType ▸ hkind)
      exact ⟨original, hextracts horiginal, hnumber.trans hrow.invoiceNumber.symm⟩

/-- A rejection has no lines. -/
theorem rejected {reasons : List (ReasonCode × Option String)}
    (h : Decided claimId (.reject reasons) rows s s') (hclaim : ∃ c ∈ s.claims, c.claimId = claimId) :
    LinesKept s s' := by
  refine decided h hclaim ?_ fun line hline => absurd hline List.not_mem_nil
  have hnone : rows.extracts = [] := List.forall₂_nil_left_iff.mp h.record.extracts
  rw [h.claimPaymentExtracts, hnone, List.append_nil]
  exact fun hs => hs

section Lines

variable {createdFrom createdBefore : Datetime} {e : ClaimPaymentExtract} {c' : Claim}
variable {a : Application}

/-- A line that was there had its claim and application then, and was of every type that it is
of now. -/
theorem windowLine (h : LinesKept s s') (hs : JoinKeys s) (he : e ∈ s.claimPaymentExtracts)
    (hline : WindowLine createdFrom createdBefore s' e c' a) :
    ∃ c, WindowLine createdFrom createdBefore s e c a
      ∧ ∀ lineType, HasLineType s' e c' lineType → HasLineType s e c lineType := by
  have hs' := h.joinKeys hs
  -- claims that are there now were there, but for their status
  have hclaims : ∀ {p p' : Claim}, p ∈ s.claims → p' ∈ s'.claims → p'.claimId = p.claimId →
      ∃ status, p' = p.withStatus status := by
    intro p p' hp hp' hkey
    obtain ⟨status, hkept⟩ := h.claims p hp
    exact ⟨status, eq_of_claimId hs'.claimKeys hp' hkept hkey⟩
  obtain ⟨c, hc, hkey⟩ := hs.claimOf e he
  obtain ⟨status, rfl⟩ := hclaims hc hline.claim.1 (hline.claim.2.symm.trans hkey.symm)
  refine ⟨c, ⟨he, hline.created, ⟨hc, hkey.symm⟩, ?_⟩, ?_⟩
  · rw [← h.applications]
    exact hline.application
  · intro lineType htype
    cases htype with
    | payment hkind => exact .payment hkind
    | recoupment original' poa' hkind horiginal' hnumber' hpoa' hclaim' =>
        obtain ⟨original, horiginal, hnumber⟩ := hs.originalOf e he hkind
        obtain rfl := hs'.original_eq horiginal' (h.extracts horiginal)
          (hnumber'.trans hnumber.symm)
        obtain ⟨poa, hpoa, hpoaKey⟩ := hs.claimOf original' horiginal
        obtain ⟨status', rfl⟩ := hclaims hpoa hpoa' (hclaim'.symm.trans hpoaKey.symm)
        exact .recoupment original' poa hkind horiginal hnumber hpoa hpoaKey.symm

end Lines

end LinesKept

section Numbers

open ClaimRepository HistoryEventRepository

variable {env : Env} {faults : Faults} {claimId : ℕ} {claim : Claim} {application : Application}
variable {t t' : Txn Store Notification} {u : Unit}

/-- No two lines have one invoice number: the table refuses the second one. -/
theorem insertExtract_numbers {createdAt : Datetime} {line : PaymentExtractLine} {s s' : Store}
    (h : insertExtract createdAt claimId line s = .ok ((), s'))
    (hs : (s.claimPaymentExtracts.map (·.invoiceNumber)).Nodup) :
    (s'.claimPaymentExtracts.map (·.invoiceNumber)).Nodup := by
  simp only [insertExtract, except_bind_ok, toRequiredColumn_ok] at h
  obtain ⟨amount, -, h⟩ := h
  split at h
  · cases h
  · split at h
    · cases h
    · rename_i hfresh
      cases h
      rw [List.map_append]
      apply hs.append (List.nodup_singleton _)
      apply List.disjoint_singleton.mpr
      intro hused
      obtain ⟨e, he, hnumber⟩ := List.mem_map.mp hused
      exact hfresh (List.any_eq_true.mpr ⟨e, he, decide_eq_true hnumber⟩)

theorem createPaymentExtract_numbers {index : ℕ} {lines : List PaymentExtractLine}
    (h : createPaymentExtract env faults claimId index lines t = .ok u t')
    (ht : (t.store.claimPaymentExtracts.map (·.invoiceNumber)).Nodup) :
    (t'.store.claimPaymentExtracts.map (·.invoiceNumber)).Nodup := by
  induction lines generalizing index t with
  | nil =>
      obtain ⟨-, rfl⟩ := pure_ok.mp h
      exact ht
  | cons line rest ih =>
      simp only [createPaymentExtract, bind_ok, portWrite_ok] at h
      obtain ⟨_, _, ⟨-, s, hinsert, rfl⟩, hrest⟩ := h
      exact ih hrest (insertExtract_numbers hinsert ht)

theorem autoApproveClaim_numbers {prepared : PreparedClaim}
    (h : CreateClaim.autoApproveClaim env faults prepared claim t = .ok u t')
    (ht : (t.store.claimPaymentExtracts.map (·.invoiceNumber)).Nodup) :
    (t'.store.claimPaymentExtracts.map (·.invoiceNumber)).Nodup := by
  simp only [CreateClaim.autoApproveClaim, bind_ok, createClaimDecision_ok, Tx.check_ok,
    submittedPoaLines_ok, updateClaimStatus_ok, createHistoryEvent_ok] at h
  obtain ⟨_, _, ⟨-, -, rfl⟩, _, _, hamount, _, _, ⟨-, rfl⟩, _, _, hextract, _, _, ⟨-, -, rfl⟩,
    _, -, -, rfl⟩ := h
  obtain ⟨_, -, rfl⟩ := createClaimDecisionAmount_ok hamount
  have hnumbers := createPaymentExtract_numbers hextract
  exact hnumbers ht

theorem payAssessedClaim_numbers {command : PayInFullClaimCommand}
    (h : PayInFullClaimUseCase.payAssessedClaim env faults command application claim t = .ok u t')
    (ht : (t.store.claimPaymentExtracts.map (·.invoiceNumber)).Nodup) :
    (t'.store.claimPaymentExtracts.map (·.invoiceNumber)).Nodup := by
  simp only [PayInFullClaimUseCase.payAssessedClaim,
    PayInFullClaimUseCase.createPaymentExtractLines, bind_ok, Tx.check_ok, createClaimDecision_ok,
    updateClaimStatus_ok, createHistoryEvent_ok, Tx.callOut_ok] at h
  obtain ⟨_, _, ⟨-, rfl⟩, _, _, ⟨-, -, rfl⟩, _, _, hamount, _, _, ⟨-, -, rfl⟩,
    _, _, ⟨_, _, ⟨-, rfl⟩, hextract⟩, _, _, ⟨_, -, -, rfl⟩, _, _, ⟨-, rfl⟩, hsend⟩ := h
  obtain ⟨_, -, rfl⟩ := createClaimDecisionAmount_ok hamount
  obtain ⟨events, hevents⟩ := sendPayInFullDecisionEmail_ok hsend
  have hnumbers := createPaymentExtract_numbers hextract
  rw [hevents]
  exact hnumbers ht

/-- A payment takes back only lines that are there. -/
theorem paymentExtractLines_original {decisionAmounts : PayInFullClaim} {applicationId : ℕ}
    {date : Date} {s : Store} {lines : List PaymentExtractLine} {line : PaymentExtractLine}
    (h : PayInFullClaimUseCase.paymentExtractLines claim decisionAmounts applicationId date s
      = some lines)
    (hline : line ∈ lines) (hkind : line.invoiceType = .recouped) :
    ∃ original ∈ s.claimPaymentExtracts, original.invoiceNumber ++ "-R" = line.invoiceNumber := by
  unfold PayInFullClaimUseCase.paymentExtractLines at h
  by_cases htype : claim.claimTypeId = .paymentOnAccount
  · rw [if_pos htype] at h
    have hown := poaClaimPaymentExtractLines_ownLines htype h
    exact absurd hkind (hown.invoiceType line hline).1
  · rw [if_neg htype] at h
    cases h
    rcases List.mem_append.mp hline with hown | hrecoupment
    · have hlines : OwnLines claim (PayInFullClaimUseCase.finalOrNilBillPaymentExtractLines claim
          decisionAmounts) := finalOrNilBillPaymentExtractLines_ownLines htype
      exact absurd hkind (hlines.invoiceType line hown).1
    · obtain ⟨original, horiginal, hreverses⟩ :=
        exists_left_of_forall₂ (recoupmentLinesOf_reverses s _) hrecoupment
      obtain ⟨poa, -, hmem⟩ := List.mem_flatMap.mp horiginal
      exact ⟨original, (mem_getPaymentExtractsByClaimId.mp hmem).1, hreverses.invoiceNumber.symm⟩

end Numbers

namespace ClaimRequest

section Steps

variable {i : ℕ} {env : Env} {faults : Faults} {prepared : PreparedClaim} {claim : Claim}
variable {session : Session Store Notification OrmObject} {db db' : Database} {phase phase' : Phase}

theorem submitStep_linesKept {command : CreateClaimCommand}
    (h : submitStep env faults prepared db command = (phase', db')) :
    LinesKept db.store db'.store := by
  have htriple : Uow.Triple LinesKept (fun _ => True)
      (CreateClaim.submit env faults command prepared) (fun _ _ => True) :=
    submit_triple fun _ _ _ _ hbody => ⟨.submitted (submitClaim_ok hbody), trivial⟩
  have hend := (htriple.ends (Session.start_clean db.store) trivial).committed
  unfold submitStep at h
  cases hsubmit : CreateClaim.submit env faults command prepared (.start db.store) with
  | error e session =>
      rw [hsubmit] at h hend
      cases h
      exact .of_run hend
  | ok claim session =>
      rw [hsubmit] at h hend
      cases h
      exact .of_run hend

theorem notifyStep_linesKept (husable : session.usable = true)
    (h : notifyStep env faults prepared claim session db = (phase', db')) :
    LinesKept db.store db'.store := by
  have htriple : Uow.Triple LinesKept (fun _ => True)
      (CreateClaim.notify env faults prepared claim) (fun _ _ => True) :=
    notify_triple fun _ _ hnoted _ => ⟨.noted hnoted, trivial⟩
  have hclean : (session.next db.store).Clean := Session.next_clean husable
  have hend := (htriple.ends hclean trivial).committed
  unfold notifyStep at h
  cases hnotify : CreateClaim.notify env faults prepared claim (session.next db.store) with
  | error e session' =>
      rw [hnotify] at h hend
      cases h
      exact .of_run hend
  | ok u session' =>
      rw [hnotify] at h hend
      cases h
      exact .of_run hend

/-- An automatic decision keeps them: an approval pays its own claim only. -/
theorem decide_linesKept (htype : claim.claimTypeId = prepared.validatedClaim.claimType) :
    Uow.Triple LinesKept (fun s => ∃ c ∈ s.claims, c.claimId = claim.claimId)
      (CreateClaim.decide env faults prepared claim) (fun _ _ => True) := by
  refine decide_of_bodies ?_ ?_ (fun _ _ => trivial) fun _ _ => trivial
  · intro reasonCodes t u t' houtcome hclaim hok
    obtain ⟨rows, hdecided⟩ := autoRejectClaim_ok hok
    exact ⟨.rejected hdecided hclaim, trivial⟩
  · intro t u t' houtcome hclaim hok
    obtain ⟨lines, rows, hlines, hdecided⟩ := autoApproveClaim_ok hok
    have hpoa : claim.claimTypeId = .paymentOnAccount :=
      htype.trans (isEligibleForAutoApproval_claimType (autoOutcome_approve houtcome).2.2)
    have hown := poaClaimPaymentExtractLines_ownLines hpoa hlines
    refine ⟨.decided hdecided hclaim (autoApproveClaim_numbers hok) ?_, trivial⟩
    exact fun line hline hkind => absurd hkind (hown.invoiceType line hline).1

theorem decideStep_linesKept (hassertion : Undecided prepared claim session db.store)
    (h : decideStep env faults prepared claim session db = some (phase', db')) :
    LinesKept db.store db'.store := by
  unfold decideStep at h
  by_cases hlocked : (db.locks claim.claimId).isSome = true
  · rw [if_pos hlocked] at h
    cases h
  · rw [if_neg hlocked] at h
    cases h
    obtain ⟨c, hc, hkey, -⟩ := hassertion.stored
    have htriple : Uow.Triple LinesKept (fun s => ∃ c ∈ s.claims, c.claimId = claim.claimId)
        (CreateClaim.decide env faults prepared claim) (fun _ _ => True) :=
      decide_linesKept hassertion.claimType
    exact .of_run (htriple.ends (Session.next_clean hassertion.usable) ⟨c, hc, hkey⟩).committed

theorem lockStep_store {laaReference claimReference : String}
    (h : lockStep db i laaReference claimReference = some (phase', db')) : db'.store = db.store := by
  unfold lockStep at h
  split at h
  · cases h
    rfl
  · split at h
    · cases h
      rfl
    · split at h
      · cases h
      · cases h
        rfl

theorem assessStep_linesKept {α : Type} {body : Transaction α} (hclaim : claim ∈ db.store.claims)
    (hbody : ∀ t a t', claim ∈ t.store.claims → body t = .ok a t' → LinesKept t.store t'.store)
    (h : assessStep faults claim db body = (phase', db')) : LinesKept db.store db'.store := by
  cases h
  have htriple : Uow.Triple LinesKept (fun s => claim ∈ s.claims)
      (Uow.inTransaction body (commitFault faults .assessment) : Request α) (fun _ _ => True) :=
    .inTransaction fun t a t' hmem hok => ⟨hbody t a t' hmem hok, trivial⟩
  exact .of_run (htriple.ends (Session.start_clean db.store) hclaim).committed

theorem program_linesKept {requests : ℕ → Submission} (hassertion : Assertion i phase db)
    (h : program requests i phase db = some (phase', db')) : LinesKept db.store db'.store := by
  cases program_takes h with
  | read h =>
      unfold readStep at h
      split at h
      · cases h
        exact .refl _
      · cases h
        exact .refl _
  | submit h => exact submitStep_linesKept h
  | notify h => exact notifyStep_linesKept hassertion.usable h
  | decide h => exact decideStep_linesKept hassertion h
  | lock h =>
      rw [lockStep_store h]
      exact .refl _
  | pay h =>
      apply assessStep_linesKept hassertion.2.1 _ h
      intro t u t' hmem hok
      obtain ⟨lines, rows, date, -, hlines, hdecided⟩ := payAssessedClaim_ok hok
      apply LinesKept.decided hdecided ⟨_, hmem, rfl⟩ (payAssessedClaim_numbers hok)
      exact fun line hline hkind => paymentExtractLines_original hlines hline hkind
  | reject h =>
      apply assessStep_linesKept hassertion.2.1 _ h
      intro t c t' hmem hok
      obtain ⟨-, rows, hdecided⟩ := rejectAssessedClaim_ok hok
      exact .rejected hdecided ⟨_, hmem, rfl⟩

end Steps

end ClaimRequest

open ClaimRequest in
/-- However claim requests are interleaved, lines are kept. -/
theorem run_linesKept {requests : ℕ → Submission} {admitted : Admission ℕ Phase Database}
    {sys sys' : System ℕ Phase Database}
    (hs : Holds (fun db => ClaimKeys db.store) Assertion sys)
    (h : Run (program requests) admitted sys sys') : LinesKept sys.shared.store sys'.shared.store := by
  refine .of_run (requests_outline.view (f := Database.store) ?_ hs h)
  intro i phase phase' db db' _ hassertion _ hact
  exact .single (program_linesKept hassertion hact)

/-- The service answers about the firms that it was asked about. -/
def AnswersAsked (getFirmsByIds : List String → Except ReportError (List Firm)) : Prop :=
  ∀ firmCodes firms, getFirmsByIds firmCodes = .ok firms → ∀ firm ∈ firms, firm.firmNumber ∈ firmCodes

section Stream

variable {getFirmsByIds : List String → Except ReportError (List Firm)} {s : Store}
variable {createdFrom createdBefore windowEnd now : Datetime} {fromDate toDate : Date}
variable {firms : List Firm} {firmCode : String} {lineType : PaymentLineType}
variable {classifications : List (PaymentLineType × PaymentLineClassification)}
variable {stream : ReportStream}

theorem buildFirmNameLookup_found
    (h : buildFirmNameLookup getFirmsByIds createdFrom createdBefore s = .ok firms)
    (hcode : firmCode ∈ getPaymentExtractFirmCodes createdFrom createdBefore s) :
    ∃ firmName, firmNameOf firms firmCode = some firmName := by
  unfold buildFirmNameLookup at h
  dsimp only at h
  rw [if_neg (List.ne_nil_of_mem hcode), except_bind_ok] at h
  obtain ⟨firms', -, h⟩ := h
  split at h
  · cases h
  · rename_i hfound
    cases h
    have hsome := List.find?_eq_none.mp hfound firmCode hcode
    rw [Bool.not_eq_true, Option.isNone_eq_false_iff, Option.isSome_iff_exists] at hsome
    exact hsome

theorem buildFirmNameLookup_asked (hport : AnswersAsked getFirmsByIds)
    (h : buildFirmNameLookup getFirmsByIds createdFrom createdBefore s = .ok firms)
    {firmName : String} (hname : firmNameOf firms firmCode = some firmName) :
    firmCode ∈ getPaymentExtractFirmCodes createdFrom createdBefore s := by
  obtain ⟨firm, hfirm, -⟩ := Option.bind_eq_some_iff.mp hname
  have hfound := List.find?_some hfirm
  have hnumber : firm.firmNumber = firmCode := of_decide_eq_true hfound
  have hmem : firm ∈ firms := List.mem_reverse.mp (List.mem_of_find?_eq_some hfirm)
  unfold buildFirmNameLookup at h
  dsimp only at h
  split at h
  · cases h
    cases hmem
  · rw [except_bind_ok] at h
    obtain ⟨firms', hfirms, h⟩ := h
    split at h
    · cases h
    · cases h
      exact hnumber ▸ hport _ _ hfirms firm hmem

/-- The types of the lookup are those of the query. -/
theorem buildClassificationLookup_keys
    (h : buildClassificationLookup createdFrom createdBefore s = .ok classifications) :
    classifications.map Prod.fst = getPaymentExtractLineTypes createdFrom createdBefore s := by
  have hrows := Checked.mapM_ok.mp h
  clear h
  generalize getPaymentExtractLineTypes createdFrom createdBefore s = lineTypes at hrows
  induction hrows with
  | nil => rfl
  | cons hhead _ ih =>
      rw [List.map_cons, ih]
      split at hhead
      · cases hhead
        rfl
      · cases hhead

theorem buildClassificationLookup_found
    (h : buildClassificationLookup createdFrom createdBefore s = .ok classifications) :
    (∃ classification, classifications.lookup lineType = some classification)
      ↔ lineType ∈ getPaymentExtractLineTypes createdFrom createdBefore s := by
  rw [← buildClassificationLookup_keys h, ← Option.isSome_iff_exists, List.lookup_isSome_iff,
    List.mem_map]
  constructor
  · rintro ⟨pair, hpair, hsame⟩
    exact ⟨pair, hpair, (beq_iff_eq.mp hsame).symm⟩
  · rintro ⟨pair, hpair, rfl⟩
    exact ⟨pair, hpair, beq_self_eq_true _⟩

/-- What a report was made of. -/
theorem execute_ok {atFirmCodes atLineTypes atLines : Store}
    (hwindow : resolveReportWindow fromDate toDate maxReportRangeDays = .ok (createdFrom, windowEnd))
    (h : execute getFirmsByIds now fromDate toDate atFirmCodes atLineTypes atLines = .ok stream) :
    buildFirmNameLookup getFirmsByIds createdFrom (cutOff windowEnd now) atFirmCodes
        = .ok stream.firmNames
      ∧ buildClassificationLookup createdFrom (cutOff windowEnd now) atLineTypes
        = .ok stream.classifications
      ∧ stream.lines = iterPaymentExtractReportLines createdFrom (cutOff windowEnd now) atLines := by
  unfold execute at h
  simp only [hwindow, except_bind_ok, except_pure_ok] at h
  obtain ⟨_, hsame, _, hfirms, _, hclassifications, rfl⟩ := h
  cases hsame
  exact ⟨hfirms, hclassifications, rfl⟩

end Stream

section Reports

open ClaimRequest

variable {createdFrom windowEnd now : Datetime} {fromDate toDate : Date} {s₁ s₂ s₃ : Store}
variable {getFirmsByIds : List String → Except ReportError (List Firm)} {stream : ReportStream}

/-- A row that is not built is that of an unchecked line: a line that is not late was in the
lookups, and any other line that was checked is like one that was. -/
theorem stream_error_unchecked (hkeys : JoinKeys s₁) (hkept₁ : LinesKept s₁ s₂)
    (hkept₂ : LinesKept s₂ s₃)
    (hwindow : resolveReportWindow fromDate toDate maxReportRangeDays = .ok (createdFrom, windowEnd))
    (hreport : execute getFirmsByIds now fromDate toDate s₁ s₂ s₃ = .ok stream)
    {error : ReportError} (herror : streamCsv stream = .error error) :
    ∃ e, Unchecked createdFrom (cutOff windowEnd now) s₁ s₂ s₃ e
      ∧ error = .reportGeneration
          ("Payment extract line " ++ e.invoiceNumber ++ " was not pre-checked") := by
  obtain ⟨hfirms, hclassifications, hlines⟩ := execute_ok hwindow hreport
  have hkeys₂ := hkept₁.joinKeys hkeys
  obtain ⟨line, hline, hrow⟩ := Checked.mapM_error herror
  rw [hlines, iterPaymentExtractReportLines, List.mem_map] at hline
  obtain ⟨row, hmem, rfl⟩ := hline
  rw [mem_paymentExtractRows] at hmem
  obtain ⟨hwindowLine, -⟩ := mem_paymentExtractReportStatement.mp hmem
  refine ⟨row.extract, ?_, buildRow_error hrow⟩
  by_contra hchecked
  have hfirm : ∃ firmName, firmNameOf stream.firmNames row.line.firmCode = some firmName := by
    apply buildFirmNameLookup_found hfirms
    rw [mem_getPaymentExtractFirmCodes]
    by_cases hlate : row.extract ∈ s₁.claimPaymentExtracts
    · obtain ⟨c, hline₁, -⟩ := (hkept₁.trans hkept₂).windowLine hkeys hlate hwindowLine
      exact ⟨_, c, _, hline₁, rfl⟩
    · by_contra hnew
      exact hchecked (.firm _ _ hwindowLine hlate fun e c a h hsame => hnew ⟨e, c, a, h, hsame⟩)
  have hclassified : ∃ classification, stream.classifications.lookup row.line.lineType
      = some classification := by
    have hhas := ((hkept₂.joinKeys hkeys₂).lineType_iff hmem).mpr rfl
    rw [buildClassificationLookup_found hclassifications, hkeys₂.mem_getPaymentExtractLineTypes]
    by_cases hlate : row.extract ∈ s₂.claimPaymentExtracts
    · obtain ⟨c, hline₂, htypes⟩ := hkept₂.windowLine hkeys₂ hlate hwindowLine
      exact ⟨_, c, _, hline₂, htypes _ hhas⟩
    · by_contra hnew
      exact hchecked (.lineType _ _ _ hwindowLine hhas hlate
        fun e c a h hsame => hnew ⟨e, c, a, h, hsame⟩)
  obtain ⟨built, hbuilt⟩ := buildRow_goes.mpr ⟨hfirm, hclassified⟩
  rw [hrow] at hbuilt
  cases hbuilt

/-- In a stream that is consumed, the row of every line of the window was built. -/
theorem stream_builds {createdBefore : Datetime} {rows : List PaymentExtractReportRow}
    (hlines : stream.lines = iterPaymentExtractReportLines createdFrom createdBefore s₃)
    (h : streamCsv stream = .ok rows) {e : ClaimPaymentExtract} {c : Claim} {a : Application}
    (hline : WindowLine createdFrom createdBefore s₃ e c a) :
    ∃ row ∈ paymentExtractReportStatement createdFrom createdBefore s₃,
      row.extract = e ∧ row.claim = c ∧ row.application = a
        ∧ ∃ built, buildRow stream row.line = .ok built := by
  have hall := Checked.mapM_goes.mp ⟨rows, h⟩
  rw [hlines] at hall
  obtain ⟨original, horiginal⟩ := List.exists_mem_of_ne_nil _ (originalsOf_ne_nil s₃ e)
  have hrow : ⟨e, c, a, original.1, original.2⟩ ∈
      paymentExtractReportStatement createdFrom createdBefore s₃ :=
    mem_paymentExtractReportStatement.mpr ⟨hline, horiginal⟩
  exact ⟨_, hrow, rfl, rfl, rfl, hall _ (List.mem_map_of_mem (mem_paymentExtractRows.mpr hrow))⟩

theorem unchecked_raises (hkeys : JoinKeys s₁) (hkept₁ : LinesKept s₁ s₂) (hkept₂ : LinesKept s₂ s₃)
    (hwindow : resolveReportWindow fromDate toDate maxReportRangeDays = .ok (createdFrom, windowEnd))
    (hreport : execute getFirmsByIds now fromDate toDate s₁ s₂ s₃ = .ok stream)
    (hport : AnswersAsked getFirmsByIds) {e : ClaimPaymentExtract}
    (h : Unchecked createdFrom (cutOff windowEnd now) s₁ s₂ s₃ e) :
    ∃ error, streamCsv stream = .error error := by
  obtain ⟨hfirms, hclassifications, hlines⟩ := execute_ok hwindow hreport
  have hkeys₂ := hkept₁.joinKeys hkeys
  cases hresult : streamCsv stream with
  | error error => exact ⟨error, rfl⟩
  | ok rows =>
      exfalso
      cases h with
      | firm c a h hlate hnew =>
          obtain ⟨row, -, -, -, rfl, hbuilt⟩ := stream_builds hlines hresult h
          obtain ⟨⟨firmName, hname⟩, -⟩ := buildRow_goes.mp hbuilt
          obtain ⟨e', c', a', h', hsame⟩ :=
            mem_getPaymentExtractFirmCodes.mp (buildFirmNameLookup_asked hport hfirms hname)
          exact hnew e' c' a' h' hsame
      | lineType c a lineType h htype hlate hnew =>
          obtain ⟨row, hrow, rfl, rfl, -, hbuilt⟩ := stream_builds hlines hresult h
          obtain ⟨-, hfound⟩ := buildRow_goes.mp hbuilt
          rw [((hkept₂.joinKeys hkeys₂).lineType_iff hrow).mp htype] at hnew
          obtain ⟨e', c', a', h', htype'⟩ := hkeys₂.mem_getPaymentExtractLineTypes.mp
            ((buildClassificationLookup_found hclassifications).mp hfound)
          exact hnew e' c' a' h' htype'

/-- Consuming the stream of a report that ran beside claim requests raises at the guard of its
rows only, and only over a line that committed between its queries: one whose firm or type no
line of the window had when it was looked up. Over such a line it does raise. -/
theorem report_stream_raises_unchecked (requests : ℕ → Submission) (applications : List Application)
    (evidence : List ClaimEvidence) (events : List HistoryEvent)
    (sys₁ sys₂ sys₃ : System ℕ Phase Database)
    (hfirst : Run (program requests) anyStep (idle (.initial applications evidence events)) sys₁)
    (hsecond : Run (program requests) anyStep sys₁ sys₂)
    (hthird : Run (program requests) anyStep sys₂ sys₃)
    (getFirmsByIds : List String → Except ReportError (List Firm)) (now : Datetime)
    (fromDate toDate : Date) (createdFrom windowEnd : Datetime)
    (hwindow : resolveReportWindow fromDate toDate maxReportRangeDays = .ok (createdFrom, windowEnd))
    (stream : ReportStream)
    (hreport : execute getFirmsByIds now fromDate toDate sys₁.shared.store sys₂.shared.store
      sys₃.shared.store = .ok stream) :
    (∀ error, streamCsv stream = .error error →
      ∃ e, Unchecked createdFrom (cutOff windowEnd now) sys₁.shared.store sys₂.shared.store
          sys₃.shared.store e
        ∧ error = .reportGeneration
            ("Payment extract line " ++ e.invoiceNumber ++ " was not pre-checked"))
      ∧ (AnswersAsked getFirmsByIds → ∀ e,
        Unchecked createdFrom (cutOff windowEnd now) sys₁.shared.store sys₂.shared.store
          sys₃.shared.store e → ∃ error, streamCsv stream = .error error) := by
  have hinit : JoinKeys (.initial applications evidence events) :=
    (ledger_initial applications evidence events).joinKeys
  have hidle := idle_holds hinit.claimKeys
  have hholds₁ := requests_outline.run hidle hfirst
  have hholds₂ := requests_outline.run hholds₁ hsecond
  have hkeys := (run_linesKept hidle hfirst).joinKeys hinit
  have hkept₁ := run_linesKept hholds₁ hsecond
  have hkept₂ := run_linesKept hholds₂ hthird
  constructor
  · intro error herror
    exact stream_error_unchecked hkeys hkept₁ hkept₂ hwindow hreport herror
  · intro hport e hunchecked
    exact unchecked_raises hkeys hkept₁ hkept₂ hwindow hreport hport hunchecked

end Reports

/-- Two claims on account, each approved on its own. -/
def Sample.twoPayments : ℕ → Submission := fun _ => create (poaCommand .expertCost none (some 120) (some 20))

/-- A service that names every firm. -/
def Sample.firmsByIds (firmCodes : List String) : Except ReportError (List Firm) :=
  .ok (firmCodes.map fun firmCode => ⟨firmCode, some ("Firm " ++ firmCode)⟩)

/-- The stream of a report, if there is one, passes a test. -/
def streamPasses (test : ReportStream → Bool) : Except ReportError ReportStream → Bool
  | .ok stream => test stream
  | .error _ => false

theorem streamPasses_iff {test : ReportStream → Bool} {result : Except ReportError ReportStream} :
    streamPasses test result = true ↔ ∃ stream, result = .ok stream ∧ test stream = true := by
  cases result <;> simp [streamPasses]

open ClaimRequest in
/-- Two schedules, one up to the lookups of a report and one from there to its lines, whose stream
passes a test. -/
theorem Sample.stream_of_schedules (first second : List ℕ) (test : ReportStream → Bool)
    (h : (((idle Sample.store).follow (program Sample.twoPayments) anyStep first).any fun sys₁ =>
      (sys₁.follow (program Sample.twoPayments) anyStep second).any fun sys₃ =>
        streamPasses test (execute Sample.firmsByIds ⟨Sample.date, 1⟩ Sample.date Sample.date
          sys₁.shared.store sys₁.shared.store sys₃.shared.store)) = true) :
    ∃ sys₁ sys₃ stream, Run (program Sample.twoPayments) anyStep (idle Sample.store) sys₁
      ∧ Run (program Sample.twoPayments) anyStep sys₁ sys₃
      ∧ execute Sample.firmsByIds ⟨Sample.date, 1⟩ Sample.date Sample.date sys₁.shared.store
          sys₁.shared.store sys₃.shared.store = .ok stream
      ∧ test stream = true := by
  obtain ⟨sys₁, hrun₁, hrest⟩ := exists_run_of_follow h
  obtain ⟨sys₃, hrun₃, hpasses⟩ := exists_run_of_follow hrest
  obtain ⟨stream, hstream, htest⟩ := streamPasses_iff.mp hpasses
  exact ⟨sys₁, sys₃, stream, hrun₁, hrun₃, hstream, htest⟩

open ClaimRequest in
/-- The second claim is paid between the queries: its firm and its type were looked up. -/
theorem report_stream_raises_unchecked_known :
    ∃ sys₁ sys₃ stream, Run (program Sample.twoPayments) anyStep (idle Sample.store) sys₁
      ∧ Run (program Sample.twoPayments) anyStep sys₁ sys₃
      ∧ execute Sample.firmsByIds ⟨Sample.date, 1⟩ Sample.date Sample.date sys₁.shared.store
          sys₁.shared.store sys₃.shared.store = .ok stream
      ∧ stream.lines.length = 4
      ∧ ∀ error, streamCsv stream = .error error →
        ∃ e, Unchecked (midnight Sample.date)
            (cutOff (midnight ⟨2024, 6, 4, by decide, by decide, by decide⟩) ⟨Sample.date, 1⟩)
            sys₁.shared.store sys₁.shared.store sys₃.shared.store e
          ∧ error = .reportGeneration
              ("Payment extract line " ++ e.invoiceNumber ++ " was not pre-checked") := by
  obtain ⟨sys₁, sys₃, stream, hrun₁, hrun₃, hstream, htest⟩ :=
    Sample.stream_of_schedules [0, 0, 0, 0] [1, 1, 1, 1]
      (fun stream => decide (stream.lines.length = 4)) (by decide +kernel)
  refine ⟨sys₁, sys₃, stream, hrun₁, hrun₃, hstream, of_decide_eq_true htest, ?_⟩
  exact (report_stream_raises_unchecked Sample.twoPayments [Sample.application] [] [] sys₁ sys₁ sys₃
    hrun₁ .refl hrun₃ Sample.firmsByIds ⟨Sample.date, 1⟩ Sample.date Sample.date
    (midnight Sample.date) _ (by decide +kernel) stream hstream).1

open ClaimRequest in
/-- The approval of the first claim of the day commits after both lookups, stamped before the
cut-off: its line has no firm name. -/
theorem report_stream_raises_lateApproval :
    ∃ sys₁ sys₃ stream, Run (program Sample.twoPayments) anyStep (idle Sample.store) sys₁
      ∧ Run (program Sample.twoPayments) anyStep sys₁ sys₃
      ∧ execute Sample.firmsByIds ⟨Sample.date, 1⟩ Sample.date Sample.date sys₁.shared.store
          sys₁.shared.store sys₃.shared.store = .ok stream
      ∧ streamCsv stream = .error (.reportGeneration
          "Payment extract line INQC-AAAA-CCCC_001 was not pre-checked") := by
  obtain ⟨sys₁, sys₃, stream, hrun₁, hrun₃, hstream, htest⟩ :=
    Sample.stream_of_schedules [0, 0, 0] [0] (fun stream => decide (streamCsv stream = .error (.reportGeneration
        "Payment extract line INQC-AAAA-CCCC_001 was not pre-checked"))) (by decide +kernel)
  exact ⟨sys₁, sys₃, stream, hrun₁, hrun₃, hstream, of_decide_eq_true htest⟩

end InquestsApi
