import InquestsApi.Ports
import Mathlib.Data.List.Sort

/-! The database: its tables, and the reads and writes of the two repository adapters.
A query without an order returns rows in the order of the table's list. -/
namespace InquestsApi

open UnitOfWork

structure Store where
  applications : List Application
  duplicateApplicationRecords : List DuplicateApplicationRecord
  claims : List Claim
  claimEvidence : List ClaimEvidence
  claimInquestOutcomes : List ClaimInquestOutcome
  claimCostTemplates : List ClaimCostTemplate
  claimDecisions : List ClaimDecision
  decisionReasons : List DecisionReason
  claimDecisionAmounts : List ClaimDecisionAmount
  claimPaymentExtracts : List ClaimPaymentExtract
  historyEvents : List HistoryEvent
  deriving DecidableEq

/-- What the keys of the schema promise of claims and of the rows that refer to them. -/
structure SchemaKeys (s : Store) : Prop where
  claimKeys : (s.claims.map (·.claimId)).Nodup
  decisionOf : ∀ d ∈ s.claimDecisions, d.claimId ∈ s.claims.map (·.claimId)
  reasonOf : ∀ r ∈ s.decisionReasons, r.claimDecisionId ∈ s.claimDecisions.map (·.claimDecisionId)
  templateOf : ∀ t ∈ s.claimCostTemplates, t.claimId ∈ s.claims.map (·.claimId)
  extractOf : ∀ e ∈ s.claimPaymentExtracts, e.claimId ∈ s.claims.map (·.claimId)

abbrev Transaction (α : Type) := Tx ApiError Store Notification α

/-- A key beyond every key of the table. -/
def nextKey (keys : List ℕ) : ℕ := keys.foldr max 0 + 1

theorem lt_nextKey {keys : List ℕ} {key : ℕ} (h : key ∈ keys) : key < nextKey keys := by
  unfold nextKey
  induction keys with
  | nil => cases h
  | cons k rest ih =>
      simp only [List.foldr_cons]
      rcases List.mem_cons.mp h with rfl | hrest
      · omega
      · have hlt := ih hrest
        omega

theorem nextKey_ne {keys : List ℕ} {key : ℕ} (h : key ∈ keys) : key ≠ nextKey keys :=
  (lt_nextKey h).ne

namespace Store

variable (s : Store)

/-- A database that holds applications, evidence and history, and no claims yet. -/
def initial (applications : List Application) (claimEvidence : List ClaimEvidence)
    (historyEvents : List HistoryEvent) : Store :=
  ⟨applications, [], [], claimEvidence, [], [], [], [], [], [], historyEvents⟩

theorem schemaKeys_initial (applications : List Application) (claimEvidence : List ClaimEvidence)
    (historyEvents : List HistoryEvent) :
    SchemaKeys (initial applications claimEvidence historyEvents) :=
  ⟨List.nodup_nil, fun _ h => (nomatch h), fun _ h => (nomatch h), fun _ h => (nomatch h),
    fun _ h => (nomatch h)⟩

def getApplicationByLaaReference (laaReference : String) : Option Application :=
  s.applications.find? fun a => a.laaReference = normaliseReference laaReference

def getClaimsByApplicationId (applicationId : ℕ) : List Claim :=
  s.claims.filter fun c => c.applicationId = applicationId

def getClaimByReference (claimReference : String) : Option Claim :=
  s.claims.find? fun c => c.claimReference = claimReference

/-- The latest decision of a claim, by key. -/
def getClaimDecisionByClaimId (claimId : ℕ) : Option ClaimDecision :=
  ((s.claimDecisions.filter fun d => d.claimId = claimId).insertionSort
    fun a b => b.claimDecisionId ≤ a.claimDecisionId).head?

def getPaymentExtractsByClaimId (claimId : ℕ) : List ClaimPaymentExtract :=
  (s.claimPaymentExtracts.filter fun e => e.claimId = claimId).insertionSort
    fun a b => a.sequenceNumber ≤ b.sequenceNumber

def updateApplication (applicationId : ℕ) (f : Application → Application) : Store :=
  { s with applications := s.applications.map fun a => if a.applicationId = applicationId then f a else a }

def setClaimStatus (claimId : ℕ) (status : ClaimStatus) : Store :=
  { s with claims := s.claims.map fun c => if c.claimId = claimId then c.withStatus status else c }

end Store

/-- A decimal as its column keeps it, or the error of the write. -/
def toColumn (x : Option Decimal) : Except ApiError (Option Amount) :=
  match Amount.ofNullable x with
  | some a => .ok a
  | none => .error .numericOverflow

def toRequiredColumn (x : Decimal) : Except ApiError Amount :=
  match Amount.ofDecimal x with
  | some a => .ok a
  | none => .error .numericOverflow

def BillDetails.toColumns (d : BillDetails Decimal) : Except ApiError (BillDetails Amount) := do
  let previousCosts ← toColumn d.financialRecoveryPreviousPreCertificateCosts
  let cost ← toColumn d.financialRecoveryCost
  let damages ← toColumn d.financialRecoveryDamages
  let interest ← toColumn d.financialRecoveryInterest
  pure
    { hasCounselBeenPaid := d.hasCounselBeenPaid
      hasAlternativeFunding := d.hasAlternativeFunding
      hasRecoveryCostsAwarded := d.hasRecoveryCostsAwarded
      financialRecoveryPreviousPreCertificateCosts := previousCosts
      financialRecoveryCost := cost
      financialRecoveryDamages := damages
      financialRecoveryInterest := interest
      payingParty := d.payingParty
      numberOfCounselInstructed := d.numberOfCounselInstructed }

@[simp] theorem toColumn_ok {x : Option Decimal} {a : Option Amount} :
    toColumn x = .ok a ↔ Amount.ofNullable x = some a := by
  unfold toColumn
  split <;> simp_all

@[simp] theorem toRequiredColumn_ok {x : Decimal} {a : Amount} :
    toRequiredColumn x = .ok a ↔ Amount.ofDecimal x = some a := by
  unfold toRequiredColumn
  split <;> simp_all

/-- A write of the adapters: it fails as its port is told to, or as the store refuses it. -/
def portWrite {α : Type} (faults : Faults) (call : Call)
    (write : Store → Except ApiError (α × Store)) : Transaction α :=
  Tx.flush (faults call) (.portFailure call) write

@[simp] theorem portWrite_ok {α : Type} {faults : Faults} {call : Call}
    {write : Store → Except ApiError (α × Store)} {t t' : Txn Store Notification} {a : α} :
    portWrite faults call write t = .ok a t' ↔
      faults call = none ∧ ∃ s, write t.store = .ok (a, s) ∧ t' = { t with store := s } := by
  unfold portWrite
  exact Tx.flush_ok

section References

/-- Two groups of random characters behind a stem. -/
def ReferenceDraw.render {length : ℕ} (d : ReferenceDraw length) (stem : String) : String :=
  stem ++ String.ofList ((List.ofFn d.first).map (·.val))
    ++ "-" ++ String.ofList ((List.ofFn d.second).map (·.val))

def generateClaimReference (d : ReferenceDraw 4) : String := d.render "INQC-"

def generateLaaReference (d : ReferenceDraw 3) : String := d.render "INQ-"

/-- `ReferenceRules.contains_banned_word`. -/
def containsBannedWord (bannedWords : List String) (text : String) : Bool :=
  bannedWords.any fun word => contains word text

section Draws

variable (bannedWords : List String) (generate : ℕ → String) (taken : String → Bool)

/-- A drawn reference that is neither banned nor taken. -/
def ReferenceUsable (attempt : ℕ) : Prop :=
  ¬ (containsBannedWord bannedWords (String.ofList ((generate attempt).toList.filter (· ≠ '-')))
    ∨ taken (generate attempt))

instance (attempt : ℕ) : Decidable (ReferenceUsable bannedWords generate taken attempt) :=
  inferInstanceAs (Decidable (¬ _))

/-- Draw references until one is usable, at most the given number of times. -/
def drawReference (failure : String) : (remaining attempt : ℕ) → Except ApiError String
  | 0, _ => .error (.runtimeError failure)
  | remaining + 1, attempt =>
    if ReferenceUsable bannedWords generate taken attempt then .ok (generate attempt)
    else drawReference failure remaining (attempt + 1)

end Draws

def generateClaimReferenceAttempts : ℕ := 10

def getClaimReference (env : Env) (s : Store) : Except ApiError String :=
  drawReference env.bannedWords (fun attempt => generateClaimReference (env.draws attempt))
    (fun reference => s.claims.any (·.claimReference = reference))
    "Maximum attempts reached for generating claim reference" generateClaimReferenceAttempts 0

def generateLaaReferenceAttempts : ℕ := 10

def getLaaReference (env : Env) (s : Store) : Except ApiError String :=
  drawReference env.bannedWords (fun attempt => generateLaaReference (env.applicationDraws attempt))
    (fun reference => s.applications.any (·.laaReference = reference))
    "Maximum attempts reached for generating LAA reference" generateLaaReferenceAttempts 0

variable {bannedWords : List String} {generate : ℕ → String} {taken : String → Bool}
variable {failure reference : String} {remaining attempt : ℕ}

/-- What is drawn is one of the references, and a usable one. -/
theorem drawReference_usable
    (h : drawReference bannedWords generate taken failure remaining attempt = .ok reference) :
    ∃ i, reference = generate i ∧ ReferenceUsable bannedWords generate taken i := by
  induction remaining generalizing attempt with
  | zero => cases h
  | succ remaining ih =>
      unfold drawReference at h
      split at h
      · rename_i husable
        cases h
        exact ⟨attempt, rfl, husable⟩
      · exact ih h

theorem drawReference_ok
    (h : drawReference bannedWords generate taken failure remaining attempt = .ok reference) :
    (∃ i, reference = generate i) ∧ taken reference = false := by
  obtain ⟨i, rfl, husable⟩ := drawReference_usable h
  refine ⟨⟨i, rfl⟩, ?_⟩
  apply eq_false_of_ne_true
  intro htaken
  exact husable (Or.inr htaken)

theorem drawReference_now (h : ReferenceUsable bannedWords generate taken attempt) :
    drawReference bannedWords generate taken failure (remaining + 1) attempt = .ok (generate attempt) :=
  if_pos h

theorem drawReference_goes :
    (∃ reference, drawReference bannedWords generate taken failure remaining attempt = .ok reference) ↔
      ∃ i < remaining, ReferenceUsable bannedWords generate taken (attempt + i) := by
  induction remaining generalizing attempt with
  | zero =>
      refine iff_of_false ?_ ?_
      · rintro ⟨reference, h⟩
        cases h
      · rintro ⟨i, hi, -⟩
        omega
  | succ remaining ih =>
      by_cases husable : ReferenceUsable bannedWords generate taken attempt
      · exact iff_of_true ⟨_, drawReference_now husable⟩ ⟨0, by omega, husable⟩
      · have hlater : drawReference bannedWords generate taken failure (remaining + 1) attempt
            = drawReference bannedWords generate taken failure remaining (attempt + 1) :=
          if_neg husable
        rw [hlater, ih]
        constructor
        · rintro ⟨i, hi, h⟩
          refine ⟨i + 1, by omega, ?_⟩
          rw [show attempt + (i + 1) = attempt + 1 + i by omega]
          exact h
        · rintro ⟨i, hi, h⟩
          cases i with
          | zero => exact absurd h husable
          | succ i =>
              refine ⟨i, by omega, ?_⟩
              rw [show attempt + 1 + i = attempt + (i + 1) by omega]
              exact h

end References

namespace ClaimRepository

def insertClaim (env : Env) (applicationId : ℕ) (claimReference : String) (claim : DomainClaim)
    (claimantId : Option String) (totalFundsRemainingAfterClaim : Decimal) (s : Store) :
    Except ApiError (Claim × Store) := do
  let net ← toColumn claim.net
  let gross ← toColumn claim.gross
  let vatZero ← toColumn claim.vatZeroTotal
  let funds ← toRequiredColumn totalFundsRemainingAfterClaim
  let details ← claim.details.toColumns
  let row : Claim :=
    { claimId := nextKey (s.claims.map (·.claimId))
      applicationId := applicationId
      claimReference := claimReference
      claimTypeId := claim.claimType
      statusId := .submitted
      submissionDate := env.now .createClaim
      totalProfitCostNet := net
      totalProfitCostGross := gross
      totalProfitCostVatZero := vatZero
      totalFundsRemainingAfterClaim := funds
      claimantId := claimantId
      poaTypeId := claim.poaType
      details := details }
  if s.claims.any (·.claimReference = claimReference) then
    .error (.uniqueViolation "claim_claim_reference_key")
  else pure (row, { s with claims := s.claims ++ [row] })

def createClaim (env : Env) (faults : Faults) (applicationId : ℕ) (claim : DomainClaim)
    (claimantId : Option String) (totalFundsRemainingAfterClaim : Decimal) : Transaction Claim := do
  let claimReference ← Tx.check (getClaimReference env)
  portWrite faults .createClaim
    (insertClaim env applicationId claimReference claim claimantId totalFundsRemainingAfterClaim)

def linkEvidenceToClaim (faults : Faults) (claimId : ℕ) (evidenceIds : List Uuid) :
    Transaction Unit :=
  portWrite faults .linkEvidenceToClaim fun s => .ok ((),
    { s with claimEvidence := s.claimEvidence.map fun e =>
        if e.claimEvidenceId ∈ evidenceIds then { e with claimId := some claimId } else e })

def outcomeRows (claimId : ℕ) : List InquestOutcomeCode → List ClaimInquestOutcome →
    List ClaimInquestOutcome
  | [], rows => rows
  | outcome :: rest, rows =>
    outcomeRows claimId rest
      (rows ++ [⟨nextKey (rows.map (·.claimInquestOutcomeId)), claimId, outcome⟩])

def linkInquestOutcomesToClaim (faults : Faults) (claimId : ℕ)
    (inquestOutcomes : List InquestOutcomeCode) : Transaction Unit :=
  portWrite faults .linkInquestOutcomesToClaim fun s => .ok ((),
    { s with claimInquestOutcomes := outcomeRows claimId inquestOutcomes s.claimInquestOutcomes })

def linkCostTemplateToClaim (faults : Faults) (claimId : ℕ) (fileId : Uuid) (fileName : String) :
    Transaction Unit :=
  portWrite faults .linkCostTemplateToClaim fun s =>
    if s.claimCostTemplates.any (·.claimId = claimId) then
      .error (.uniqueViolation "claim_cost_template_claim_id_key")
    else .ok ((), { s with claimCostTemplates := s.claimCostTemplates
      ++ [⟨nextKey (s.claimCostTemplates.map (·.claimCostTemplateId)), claimId, fileId, fileName⟩] })

def decisionRow (env : Env) (claimId : ℕ) (decisionStatus : ClaimDecisionStatus) (s : Store) :
    ClaimDecision where
  claimDecisionId := nextKey (s.claimDecisions.map (·.claimDecisionId))
  claimId := claimId
  decision := decisionStatus
  createdAt := env.now .createClaimDecision

def createClaimDecision (env : Env) (faults : Faults) (claimId : ℕ)
    (decisionStatus : ClaimDecisionStatus) : Transaction ClaimDecision :=
  portWrite faults .createClaimDecision fun s => .ok (decisionRow env claimId decisionStatus s,
    { s with claimDecisions := s.claimDecisions ++ [decisionRow env claimId decisionStatus s] })

def insertDecisionAmount (claimDecisionId : ℕ) (amounts : PayInFullClaim) (s : Store) :
    Except ApiError (Unit × Store) := do
  let profitCostNet ← toColumn amounts.profitCostNet
  let profitCostGross ← toColumn amounts.profitCostGross
  let profitCostVatZero ← toColumn amounts.profitCostVatZero
  let disbursementNet ← toColumn amounts.disbursementNet
  let disbursementGross ← toColumn amounts.disbursementGross
  let disbursementVatZero ← toColumn amounts.disbursementVatZero
  if s.claimDecisionAmounts.any (·.claimDecisionId = claimDecisionId) then
    .error (.uniqueViolation "claim_decision_amount_claim_decision_id_key")
  else pure ((), { s with claimDecisionAmounts := s.claimDecisionAmounts ++ [
    { claimDecisionAmountId := nextKey (s.claimDecisionAmounts.map (·.claimDecisionAmountId))
      claimDecisionId := claimDecisionId
      profitCostNet := profitCostNet
      profitCostGross := profitCostGross
      profitCostVatZero := profitCostVatZero
      disbursementNet := disbursementNet
      disbursementGross := disbursementGross
      disbursementVatZero := disbursementVatZero }] })

def createClaimDecisionAmount (faults : Faults) (claimDecisionId : ℕ) (amounts : PayInFullClaim) :
    Transaction Unit :=
  portWrite faults .createClaimDecisionAmount (insertDecisionAmount claimDecisionId amounts)

def reasonRow (claimDecisionId : ℕ) (reasonCode : ReasonCode) (justification : Option String)
    (s : Store) : DecisionReason where
  decisionReasonId := nextKey (s.decisionReasons.map (·.decisionReasonId))
  claimDecisionId := claimDecisionId
  reasonCode := reasonCode
  justification := justification

def createDecisionReason (faults : Faults) (index claimDecisionId : ℕ) (reasonCode : ReasonCode)
    (justification : Option String) : Transaction Unit :=
  portWrite faults (.createDecisionReason index) fun s => .ok ((),
    { s with decisionReasons :=
        s.decisionReasons ++ [reasonRow claimDecisionId reasonCode justification s] })

/-- The two unique constraints of the payment extract table, then the insert. -/
def insertExtract (createdAt : Datetime) (claimId : ℕ) (line : PaymentExtractLine) (s : Store) :
    Except ApiError (Unit × Store) := do
  let invoiceAmount ← toRequiredColumn line.invoiceAmount
  if s.claimPaymentExtracts.any fun e =>
      e.claimId = claimId && e.sequenceNumber = line.sequenceNumber then
    .error (.uniqueViolation "claim_payment_extract_claim_id_sequence_number_key")
  else if s.claimPaymentExtracts.any (·.invoiceNumber = line.invoiceNumber) then
    .error (.uniqueViolation "claim_payment_extract_invoice_number_key")
  else pure ((), { s with claimPaymentExtracts := s.claimPaymentExtracts ++ [
    { claimPaymentExtractId := nextKey (s.claimPaymentExtracts.map (·.claimPaymentExtractId))
      claimId := claimId
      sequenceNumber := line.sequenceNumber
      invoiceNumber := line.invoiceNumber
      invoiceAmount := invoiceAmount
      invoiceDate := line.invoiceDate
      invoiceType := line.invoiceType
      taxCode := line.taxCode
      createdAt := createdAt }] })

/-- Each line is written and flushed on its own. -/
def createPaymentExtract (env : Env) (faults : Faults) (claimId : ℕ) :
    (index : ℕ) → List PaymentExtractLine → Transaction Unit
  | _, [] => pure ()
  | index, line :: rest => do
    portWrite faults (.createPaymentExtract index)
      (insertExtract (env.now (.createPaymentExtract index)) claimId line)
    createPaymentExtract env faults claimId (index + 1) rest

def updateClaimStatus (faults : Faults) (claimId : ℕ) (status : ClaimStatus) :
    Transaction Unit := do
  Tx.check fun s =>
    if s.claims.any (·.claimId = claimId) then .ok () else .error (.attributeError "status_id")
  portWrite faults .updateClaimStatus fun s => .ok ((), s.setClaimStatus claimId status)

end ClaimRepository

namespace HistoryEventRepository

/-- The actor of an event must be given and must not be blank. -/
def requireActor (actor : Option String) : Except ApiError String :=
  match actor with
  | some name =>
    if isBlank name then
      .error (.valueError "Actor must be provided for history event creation.")
    else .ok name
  | none => .error (.valueError "Actor must be provided for history event creation.")

/-- What an event records besides its key: who did what, to which application, when. -/
structure NewEvent where
  eventReference : HistoryEventReference
  actor : Option String
  actorType : ActorType
  applicationId : ℕ
  eventData : List (String × Json)

def NewEvent.row (event : NewEvent) (env : Env) (actor : String) (id : ℕ) : HistoryEvent where
  id := id
  eventReference := event.eventReference
  timestamp := env.now (.createHistoryEvent event.eventReference)
  actor := actor
  actorType := event.actorType
  entraUserObjectId := if event.actorType = .system then none else env.user.objectId
  actorEmailAddress := if event.actorType = .system then none else env.user.emailAddress
  eventData := event.eventData
  applicationId := event.applicationId

def createHistoryEvent (env : Env) (faults : Faults) (event : NewEvent) : Transaction Unit := do
  let actor ← Tx.check fun _ => requireActor event.actor
  portWrite faults (.createHistoryEvent event.eventReference) fun s => .ok ((),
    { s with historyEvents :=
        s.historyEvents ++ [event.row env actor (nextKey (s.historyEvents.map (·.id)))] })

end HistoryEventRepository

section Effects

open ClaimRepository HistoryEventRepository

variable {env : Env} {faults : Faults} {t t' : Txn Store Notification} {u : Unit}

theorem requireActor_goes {actor : Option String} :
    (∃ name, requireActor actor = .ok name) ↔ ∃ name, actor = some name ∧ isBlank name = false := by
  cases actor with
  | none => simp [requireActor]
  | some name => cases hblank : isBlank name <;> simp [requireActor, hblank]

theorem createHistoryEvent_ok {event : NewEvent} :
    createHistoryEvent env faults event t = .ok u t' ↔
      ∃ actor, requireActor event.actor = .ok actor
        ∧ faults (.createHistoryEvent event.eventReference) = none
        ∧ t' = { t with store := { t.store with historyEvents := t.store.historyEvents
              ++ [event.row env actor (nextKey (t.store.historyEvents.map (·.id)))] } } := by
  simp [createHistoryEvent]

/-- An application that is written and noted in the history. -/
theorem updateApplication_noted_ok {call : Call} {applicationId : ℕ} {f : Application → Application}
    {event : NewEvent} :
    (do
        portWrite faults call fun s => .ok ((), s.updateApplication applicationId f)
        createHistoryEvent env faults event : Transaction Unit) t = .ok u t' ↔
      ∃ actor, requireActor event.actor = .ok actor ∧ faults call = none
        ∧ faults (.createHistoryEvent event.eventReference) = none
        ∧ t' = { t with store := { t.store.updateApplication applicationId f with
            historyEvents := t.store.historyEvents
              ++ [event.row env actor (nextKey (t.store.historyEvents.map (·.id)))] } } := by
  simp only [bind_ok, portWrite_ok, createHistoryEvent_ok, Except.ok.injEq, Prod.mk.injEq]
  constructor
  · rintro ⟨_, _, ⟨hupdate, _, ⟨-, rfl⟩, rfl⟩, actor, hactor, hevent, rfl⟩
    exact ⟨actor, hactor, hupdate, hevent, rfl⟩
  · rintro ⟨actor, hactor, hupdate, hevent, rfl⟩
    exact ⟨(), _, ⟨hupdate, _, ⟨trivial, rfl⟩, rfl⟩, actor, hactor, hevent, rfl⟩

theorem createClaimDecision_ok {claimId : ℕ} {decisionStatus : ClaimDecisionStatus}
    {d : ClaimDecision} :
    createClaimDecision env faults claimId decisionStatus t = .ok d t' ↔
      faults .createClaimDecision = none ∧ d = decisionRow env claimId decisionStatus t.store
        ∧ t' = { t with store := { t.store with claimDecisions := t.store.claimDecisions ++ [d] } } := by
  simp only [createClaimDecision, portWrite_ok, Except.ok.injEq, Prod.mk.injEq]
  constructor
  · rintro ⟨hf, s, ⟨rfl, rfl⟩, rfl⟩
    exact ⟨hf, rfl, rfl⟩
  · rintro ⟨hf, rfl, rfl⟩
    exact ⟨hf, _, ⟨rfl, rfl⟩, rfl⟩

theorem updateClaimStatus_ok {claimId : ℕ} {status : ClaimStatus} :
    updateClaimStatus faults claimId status t = .ok u t' ↔
      (∃ c ∈ t.store.claims, c.claimId = claimId) ∧ faults .updateClaimStatus = none
        ∧ t' = { t with store := t.store.setClaimStatus claimId status } := by
  simp [updateClaimStatus]

theorem createDecisionReason_ok {index claimDecisionId : ℕ} {reasonCode : ReasonCode}
    {justification : Option String} :
    createDecisionReason faults index claimDecisionId reasonCode justification t = .ok u t' ↔
      faults (.createDecisionReason index) = none
        ∧ t' = { t with store := { t.store with decisionReasons := t.store.decisionReasons
              ++ [reasonRow claimDecisionId reasonCode justification t.store] } } := by
  simp [createDecisionReason]

/-- A decision amount is one new row for its decision. -/
theorem createClaimDecisionAmount_ok {claimDecisionId : ℕ} {amounts : PayInFullClaim}
    (h : createClaimDecisionAmount faults claimDecisionId amounts t = .ok u t') :
    ∃ row : ClaimDecisionAmount, row.claimDecisionId = claimDecisionId
      ∧ t' = { t with store :=
          { t.store with claimDecisionAmounts := t.store.claimDecisionAmounts ++ [row] } } := by
  simp only [createClaimDecisionAmount, portWrite_ok, insertDecisionAmount, except_bind_ok] at h
  obtain ⟨-, s, ⟨net, -, gross, -, vatZero, -, disbNet, -, disbGross, -, disbVatZero, -, hrow⟩, rfl⟩ := h
  split at hrow
  · cases hrow
  · simp only [except_pure_ok, Prod.mk.injEq, true_and] at hrow
    exact ⟨_, rfl, by rw [← hrow]⟩

/-- A stored line: the row of a claim that a payment extract line was written as. -/
structure ExtractRow (claimId : ℕ) (line : PaymentExtractLine) (row : ClaimPaymentExtract) : Prop where
  claimId : row.claimId = claimId
  sequenceNumber : row.sequenceNumber = line.sequenceNumber
  invoiceNumber : row.invoiceNumber = line.invoiceNumber
  invoiceAmount : Amount.ofDecimal line.invoiceAmount = some row.invoiceAmount
  invoiceDate : row.invoiceDate = line.invoiceDate
  invoiceType : row.invoiceType = line.invoiceType
  taxCode : row.taxCode = line.taxCode

theorem insertExtract_ok {createdAt : Datetime} {claimId : ℕ} {line : PaymentExtractLine}
    {s s' : Store} (h : insertExtract createdAt claimId line s = .ok ((), s')) :
    ∃ row, ExtractRow claimId line row
      ∧ s' = { s with claimPaymentExtracts := s.claimPaymentExtracts ++ [row] } := by
  simp only [insertExtract, except_bind_ok, toRequiredColumn_ok] at h
  obtain ⟨amount, hamount, h⟩ := h
  split at h
  · cases h
  · split at h
    · cases h
    · cases h
      exact ⟨_, ⟨rfl, rfl, rfl, hamount, rfl, rfl, rfl⟩, rfl⟩

/-- The lines are written as one row each, in their order. -/
theorem createPaymentExtract_ok {claimId index : ℕ} {lines : List PaymentExtractLine}
    (h : createPaymentExtract env faults claimId index lines t = .ok u t') :
    ∃ rows, List.Forall₂ (ExtractRow claimId) lines rows
      ∧ t' = { t with store :=
          { t.store with claimPaymentExtracts := t.store.claimPaymentExtracts ++ rows } } := by
  induction lines generalizing index t with
  | nil =>
      simp only [createPaymentExtract, pure_ok] at h
      obtain ⟨-, rfl⟩ := h
      exact ⟨[], .nil, by simp only [List.append_nil]⟩
  | cons line rest ih =>
      simp only [createPaymentExtract, bind_ok, portWrite_ok] at h
      obtain ⟨⟨⟩, -, ⟨-, s, hinsert, rfl⟩, hrest⟩ := h
      obtain ⟨row, hrow, rfl⟩ := insertExtract_ok hinsert
      obtain ⟨rows, hrows, rfl⟩ := ih hrest
      exact ⟨row :: rows, .cons hrow hrows, by simp only [List.append_assoc, List.singleton_append]⟩

end Effects

/-! Surroundings for runs on fixed inputs: one granted application, its provider and a
clock. -/
namespace Sample

def date : Date := ⟨2024, 6, 3, by decide, by decide, by decide⟩

def env : Env where
  user := ⟨some "Case Worker", some "object-id", none⟩
  now := fun _ => ⟨date, 0⟩
  bannedWords := []
  draws := fun n =>
    { first := fun _ => ⟨'A', by decide⟩
      second := fun i => if n = 0 then ⟨'C', by decide⟩ else if i.val < n then ⟨'E', by decide⟩ else ⟨'F', by decide⟩ }
  applicationDraws := fun _ => ⟨fun _ => ⟨'A', by decide⟩, fun _ => ⟨'C', by decide⟩⟩
  lowering := ⟨asciiLower, asciiLower, fun _ _ => rfl, fun _ _ => rfl⟩
  officeExists := fun _ => true
  firmName := fun code => "Firm " ++ code
  officeAddress := fun _ => ⟨"1 High Street", none, "Leeds", none, "LS1 1AA"⟩

def proceeding : Proceeding where
  proceedingName := some "Other"
  proceedingDescription := some "Other"
  categoryOfLaw := some "INQUESTS"
  certificateType := some "SUBSTANTIVE"
  levelOfService := some "FULL_REPRESENTATION"
  matterType := some "INQUESTS"
  scopeLimitationHeading := some "FINAL_HEARING"
  scopeDescription := some "This is the scope description"
  substantiveCostLimitation := some 10000

def address : Address := ⟨"2 Low Road", none, "York", none, "YO1 1AA"⟩

def application : Application where
  applicationId := 1
  laaReference := "INQ-AAA-AAA"
  createdAt := ⟨date, 0⟩
  status := some "LIVE"
  client := ⟨"Jane", "Smith", "1970-01-01", false, .useClientHomeAddress, none, some address, none, none⟩
  deceased := ⟨"John", "Smith", "1950-01-01", "2024-01-01", "REF-1"⟩
  provider := ⟨"F1", "O1", "provider@example.com"⟩
  proceeding := ⟨.granted, none, none, proceeding, some date, some date, none, none⟩
  publicBodies := [⟨.homeOffice, "Home Office"⟩]

def store : Store := .initial [application] [] []

end Sample

end InquestsApi
