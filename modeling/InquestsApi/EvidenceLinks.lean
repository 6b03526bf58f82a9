import InquestsApi.Documents
import InquestsApi.ReadableHistory
import InquestsApi.RequestBodies

/-! The evidence of claims: rows that are uploaded first, linked by the claim that lists them,
and deleted on request. -/
namespace InquestsApi

open UnitOfWork

namespace Store

variable (s : Store) (claimEvidenceId : Uuid)

def getClaimEvidenceById : Option ClaimEvidence :=
  s.claimEvidence.find? fun e => e.claimEvidenceId = claimEvidenceId

def saveUploadedClaimEvidence (document : UploadedDocument) : Except DocumentError Store :=
  if s.claimEvidence.any (·.claimEvidenceId = claimEvidenceId) then
    .error (.uniqueViolation "claim_evidence_pkey")
  else .ok { s with claimEvidence := s.claimEvidence
    ++ [⟨claimEvidenceId, document.sdsFileName, document.fileName, some document.fileSize, none⟩] }

/-- Nothing refers to a row of evidence, and its own link is not looked at. -/
def deleteClaimEvidenceById : Except DocumentError Store :=
  .ok { s with claimEvidence := s.claimEvidence.filter (·.claimEvidenceId ≠ claimEvidenceId) }

end Store

def claimEvidenceTable : DocumentTable Store where
  kind := .claimEvidence
  sdsFileName := fun s id => (s.getClaimEvidenceById id).map (·.sdsFileName)
  insert := Store.saveUploadedClaimEvidence
  delete := Store.deleteClaimEvidenceById

def UploadClaimEvidenceUseCase.execute (r : DocumentUpload) : DocumentRequest Store Uuid :=
  uploadDocument claimEvidenceTable r

def DeleteClaimEvidenceUseCase.execute (r : DocumentDeletion) : DocumentRequest Store Unit :=
  deleteDocument claimEvidenceTable r

/-- Which evidence there is, and the claim that each row is linked to. -/
abbrev EvidenceLinks := Uuid → Option (Option ℕ)

/-- What happens to evidence. -/
inductive EvidenceEvent where
  | uploaded (claimEvidenceId : Uuid)
  | deleted (claimEvidenceId : Uuid)
  | accepted (claimId : ℕ) (claimEvidenceIds : List Uuid)

namespace EvidenceEvent

/-- A claim that is accepted takes over what it lists of the evidence that is there. -/
def apply : EvidenceEvent → EvidenceLinks → EvidenceLinks
  | uploaded id, links => fun other => if other = id then some none else links other
  | deleted id, links => fun other => if other = id then none else links other
  | accepted claimId ids, links => fun other =>
    if ids.contains other then (links other).map fun _ => some claimId else links other

section Apply

variable {links : EvidenceLinks} {id other : Uuid} {claimId : ℕ} {ids : List Uuid}

@[simp] theorem apply_uploaded :
    (uploaded id).apply links other = if other = id then some none else links other := rfl

@[simp] theorem apply_deleted :
    (deleted id).apply links other = if other = id then none else links other := rfl

@[simp] theorem apply_accepted : (accepted claimId ids).apply links other
    = if other ∈ ids then (links other).map fun _ => some claimId else links other := by
  simp only [apply, List.contains_iff_mem]

end Apply

/-- The only event that a request about a case brings is that the claim it asks for is accepted. -/
def AskedBy (request : CaseRequest) : EvidenceEvent → Prop
  | accepted _ ids => ∃ command, request = .claim (.create command) ∧ ids = command.claimEvidenceIds.getD []
  | _ => False

/-- The events that can end the link of a row. -/
def Unlinks (id : Uuid) : EvidenceEvent → Prop
  | uploaded _ => False
  | deleted other => other = id
  | accepted _ ids => id ∈ ids

end EvidenceEvent

def Store.evidenceLinks (s : Store) : EvidenceLinks :=
  fun id => (s.getClaimEvidenceById id).map (·.claimId)

/-- What the links depend on, and the claims that they are for. -/
def Store.evidenceTables (s : Store) : List ClaimEvidence × List (ℕ × ClaimType) :=
  (s.claimEvidence, s.claims.map fun c => (c.claimId, c.claimTypeId))

/-- The transactions that lead to a database, and what they did to the evidence, newest
first. A claim is accepted by the transaction that submits it. -/
inductive EvidenceRun (init : Store) : List EvidenceEvent → Store → Prop
  | start : EvidenceRun init [] init
  | accepted {log : List EvidenceEvent} {env : Env} {faults : Faults} {command : CreateClaimCommand}
      {prepared : PreparedClaim} {claim : Claim} {t t' : Txn Store Notification}
      (h : EvidenceRun init log t.store)
      (hprepared : CreateClaim.prepare command t.store = .ok prepared)
      (hsubmitted : CreateClaim.submitClaim env faults command prepared t = .ok claim t') :
      EvidenceRun init (.accepted claim.claimId (command.claimEvidenceIds.getD []) :: log) t'.store
  | other {log : List EvidenceEvent} {s s' : Store} (h : EvidenceRun init log s)
      (hstep : CaseTransacts CaseSubmission.anyCase s s')
      (hkept : s'.evidenceTables = s.evidenceTables) : EvidenceRun init log s'
  | uploaded {log : List EvidenceEvent} {s : Store} {r : DocumentUpload} {id : Uuid}
      {session : Session Store SdsEffect Unit} (h : EvidenceRun init log s)
      (hok : UploadClaimEvidenceUseCase.execute r (.start s) = .ok id session) :
      EvidenceRun init (.uploaded r.documentId :: log) session.committed
  | deleted {log : List EvidenceEvent} {s : Store} {r : DocumentDeletion} {u : Unit}
      {session : Session Store SdsEffect Unit} (h : EvidenceRun init log s)
      (hok : DeleteClaimEvidenceUseCase.execute r (.start s) = .ok u session) :
      EvidenceRun init (.deleted r.documentId :: log) session.committed

section Steps

variable {s s' : Store} {t t' : Txn Store Notification} {env : Env} {faults : Faults}
variable {command : CreateClaimCommand} {prepared : PreparedClaim} {claim : Claim} {id : Uuid}

theorem evidenceLinks_of_same (h : s'.claimEvidence = s.claimEvidence) :
    s'.evidenceLinks = s.evidenceLinks := by
  funext id
  unfold Store.evidenceLinks Store.getClaimEvidenceById
  rw [h]

/-- Linking gives each row that is listed its claim, and no row another key. -/
theorem evidenceLinks_link {claimId : ℕ} {ids : List Uuid}
    (h : s'.claimEvidence = s.claimEvidence.map fun e =>
      if e.claimEvidenceId ∈ ids then { e with claimId := some claimId } else e) :
    s'.evidenceLinks = (EvidenceEvent.accepted claimId ids).apply s.evidenceLinks := by
  funext id
  have hkey : ((fun e : ClaimEvidence => decide (e.claimEvidenceId = id))
      ∘ fun e => if e.claimEvidenceId ∈ ids then { e with claimId := some claimId } else e)
      = fun e => decide (e.claimEvidenceId = id) := by
    funext e
    by_cases hlisted : e.claimEvidenceId ∈ ids <;> simp [hlisted]
  simp only [Store.evidenceLinks, Store.getClaimEvidenceById, h, List.find?_map, hkey,
    EvidenceEvent.apply, Option.map_map]
  cases hfound : s.claimEvidence.find? fun e => decide (e.claimEvidenceId = id) with
  | none => simp
  | some e =>
      have hid : e.claimEvidenceId = id := by simpa using List.find?_some hfound
      by_cases hlisted : id ∈ ids <;> simp [hid, hlisted]

theorem evidenceLinks_uploaded {document : UploadedDocument}
    (h : s.saveUploadedClaimEvidence id document = .ok s') :
    s'.evidenceLinks = (EvidenceEvent.uploaded id).apply s.evidenceLinks
      ∧ s.evidenceLinks id = none := by
  unfold Store.saveUploadedClaimEvidence at h
  split at h
  · cases h
  · rename_i hnew
    obtain rfl := Except.ok.inj h
    have hnone : s.getClaimEvidenceById id = none := by
      apply List.find?_eq_none.mpr
      intro e he hid
      exact hnew (List.any_eq_true.mpr ⟨e, he, hid⟩)
    constructor
    · funext other
      simp only [Store.evidenceLinks, Store.getClaimEvidenceById, List.find?_append,
        EvidenceEvent.apply]
      by_cases hsame : other = id
      · subst hsame
        have hmissing : s.claimEvidence.find? (fun e => decide (e.claimEvidenceId = other)) = none :=
          hnone
        simp [hmissing]
      · have hother : ¬ id = other := fun heq => hsame heq.symm
        simp [hsame, hother]
    · simp [Store.evidenceLinks, hnone]

theorem evidenceLinks_deleted (h : s.deleteClaimEvidenceById id = .ok s') :
    s'.evidenceLinks = (EvidenceEvent.deleted id).apply s.evidenceLinks := by
  obtain rfl := Except.ok.inj h
  funext other
  simp only [Store.evidenceLinks, Store.getClaimEvidenceById, List.find?_filter, EvidenceEvent.apply]
  by_cases hsame : other = id
  · subst hsame
    simp
  · have hkey : (fun e : ClaimEvidence => decide
        (decide (e.claimEvidenceId ≠ id) = true ∧ decide (e.claimEvidenceId = other) = true))
        = fun e => decide (e.claimEvidenceId = other) := by
      funext e
      by_cases hid : e.claimEvidenceId = other
      · simp [hid, hsame]
      · simp [hid]
    rw [hkey, if_neg hsame]

/-- A submission links what its command lists. -/
theorem submitClaim_evidence
    (h : CreateClaim.submitClaim env faults command prepared t = .ok claim t') :
    t'.store.claimEvidence = t.store.claimEvidence.map fun e =>
      if e.claimEvidenceId ∈ command.claimEvidenceIds.getD [] then
        { e with claimId := some claim.claimId } else e := by
  simp only [CreateClaim.submitClaim, CreateClaim.linkAttachments, ClaimRepository.linkInquestOutcomesToClaim,
    bind_ok, pure_ok, createHistoryEvent_ok, portWrite_ok, Except.ok.injEq, Prod.mk.injEq] at h
  obtain ⟨row, _, hcreate, _, _, ⟨_, _, hevidence, _, _, ⟨-, _, ⟨-, rfl⟩, rfl⟩, htemplate⟩, _, _,
    ⟨_, -, -, rfl⟩, rfl, rfl⟩ := h
  obtain ⟨-, rfl⟩ := createClaim_ok hcreate
  obtain ⟨templates, rfl⟩ := linkCostTemplate_ok htemplate
  unfold CreateClaim.linkEvidence at hevidence
  cases hids : command.claimEvidenceIds with
  | none =>
      rw [hids] at hevidence
      obtain ⟨-, rfl⟩ := pure_ok.mp hevidence
      simp
  | some ids =>
      simp only [hids, ClaimRepository.linkEvidenceToClaim, portWrite_ok, Except.ok.injEq,
        Prod.mk.injEq] at hevidence
      obtain ⟨-, _, ⟨-, rfl⟩, rfl⟩ := hevidence
      rfl

/-- Only a nil bill is accepted without evidence. -/
theorem prepare_evidence (h : CreateClaim.prepare command s = .ok prepared)
    (hbill : command.claimType ≠ .nilBill) : command.claimEvidenceIds.getD [] ≠ [] := by
  have hevidence := (CreateClaim.prepare_ok h).evidence
  intro hnone
  simp [CreateClaim.checkEvidence, hbill, hnone] at hevidence

end Steps

/-- The evidence and the claims of a database are what its log says. -/
structure FollowsLog (init : Store) (log : List EvidenceEvent) (s : Store) : Prop where
  links : s.evidenceLinks = log.foldr EvidenceEvent.apply init.evidenceLinks
  listed : ∀ c ∈ s.evidenceTables.2, c.2 ≠ .nilBill →
    c ∈ init.evidenceTables.2 ∨ ∃ ids, EvidenceEvent.accepted c.1 ids ∈ log ∧ ids ≠ []

section Runs

variable {init s s' : Store} {log : List EvidenceEvent}

theorem upload_ok {r : DocumentUpload} {id : Uuid} {session : Session Store SdsEffect Unit}
    (h : UploadClaimEvidenceUseCase.execute r (.start s) = .ok id session) :
    ∃ document, s.saveUploadedClaimEvidence r.documentId document = .ok session.committed :=
  ⟨_, ((uploadDocument_ensures _ r s (.start s) (Session.start_clean s) rfl).1 id session h).2.1⟩

theorem delete_ok {r : DocumentDeletion} {u : Unit} {session : Session Store SdsEffect Unit}
    (h : DeleteClaimEvidenceUseCase.execute r (.start s) = .ok u session) :
    s.deleteClaimEvidenceById r.documentId = .ok session.committed := by
  obtain ⟨-, fileName, -, -, -, hdelete, -⟩ :=
    (deleteDocument_ensures _ r s (.start s) (Session.start_clean s) rfl).1 u session h
  exact hdelete

theorem saveUploadedClaimEvidence_claims {id : Uuid} {document : UploadedDocument}
    (h : s.saveUploadedClaimEvidence id document = .ok s') : s'.claims = s.claims := by
  unfold Store.saveUploadedClaimEvidence at h
  split at h
  · cases h
  · cases h
    rfl

theorem EvidenceRun.follows (h : EvidenceRun init log s) : FollowsLog init log s := by
  induction h with
  | start => exact ⟨rfl, fun c hc _ => .inl hc⟩
  | @accepted log env faults command prepared claim t t' h hprepared hsubmitted ih =>
      have hadded := (submitClaim_ok hsubmitted)
      constructor
      · rw [evidenceLinks_link (submitClaim_evidence hsubmitted), ih.links]
        rfl
      · intro c hc hbill
        simp only [Store.evidenceTables, hadded.claims, List.map_append, List.mem_append,
          List.map_singleton, List.mem_singleton] at hc
        rcases hc with hold | rfl
        · rcases ih.listed c hold hbill with hinit | ⟨ids, hmem, hids⟩
          · exact .inl hinit
          · exact .inr ⟨ids, List.mem_cons_of_mem _ hmem, hids⟩
        · have htype : command.claimType ≠ .nilBill := by
            rw [← prepare_claimType hprepared, ← hadded.stored.claimType]
            exact hbill
          exact .inr ⟨_, List.mem_cons_self, prepare_evidence hprepared htype⟩
  | @other log s s' h hstep hkept ih =>
      have hevidence : s'.claimEvidence = s.claimEvidence := congrArg Prod.fst hkept
      have hclaims : s'.evidenceTables.2 = s.evidenceTables.2 := congrArg Prod.snd hkept
      refine ⟨(evidenceLinks_of_same hevidence).trans ih.links, ?_⟩
      rw [hclaims]
      exact ih.listed
  | @uploaded log s r id session h hok ih =>
      obtain ⟨document, hsaved⟩ := upload_ok hok
      have hclaims := saveUploadedClaimEvidence_claims hsaved
      constructor
      · rw [(evidenceLinks_uploaded hsaved).1, ih.links]
        rfl
      · intro c hc hbill
        simp only [Store.evidenceTables, hclaims] at hc
        rcases ih.listed c hc hbill with hinit | ⟨ids, hmem, hids⟩
        · exact .inl hinit
        · exact .inr ⟨ids, List.mem_cons_of_mem _ hmem, hids⟩
  | @deleted log s r u session h hok ih =>
      have hdeleted := delete_ok hok
      have hclaims : session.committed.claims = s.claims := by
        rw [← Except.ok.inj hdeleted]
      constructor
      · rw [evidenceLinks_deleted hdeleted, ih.links]
        rfl
      · intro c hc hbill
        simp only [Store.evidenceTables, hclaims] at hc
        rcases ih.listed c hc hbill with hinit | ⟨ids, hmem, hids⟩
        · exact .inl hinit
        · exact .inr ⟨ids, List.mem_cons_of_mem _ hmem, hids⟩

/-- A row keeps its link until a later claim that is accepted lists it, or it is deleted. -/
theorem EvidenceRun.link_stays {id : Uuid} {link : Option ℕ} (h : EvidenceRun init log s)
    (hlink : init.evidenceLinks id = some link) (hkeeps : ∀ event ∈ log, ¬ event.Unlinks id) :
    s.evidenceLinks id = some link := by
  induction h with
  | start => exact hlink
  | @accepted log env faults command prepared claim t t' h hprepared hsubmitted ih =>
      obtain ⟨hnot, hrest⟩ := List.forall_mem_cons.mp hkeeps
      have hnot : id ∉ command.claimEvidenceIds.getD [] := hnot
      rw [evidenceLinks_link (submitClaim_evidence hsubmitted), EvidenceEvent.apply_accepted,
        if_neg hnot]
      exact ih hrest
  | @other log s s' h hstep hkept ih =>
      rw [evidenceLinks_of_same (congrArg Prod.fst hkept)]
      exact ih hkeeps
  | @uploaded log s r newId session h hok ih =>
      have hold := ih (List.forall_mem_cons.mp hkeeps).2
      obtain ⟨document, hsaved⟩ := upload_ok hok
      obtain ⟨hlinks, hnone⟩ := evidenceLinks_uploaded hsaved
      have hother : ¬ id = r.documentId := by
        intro hsame
        rw [← hsame, hold] at hnone
        cases hnone
      rw [hlinks, EvidenceEvent.apply_uploaded, if_neg hother]
      exact hold
  | @deleted log s r u session h hok ih =>
      obtain ⟨hnot, hrest⟩ := List.forall_mem_cons.mp hkeeps
      have hother : ¬ id = r.documentId := fun hsame => hnot hsame.symm
      rw [evidenceLinks_deleted (delete_ok hok), EvidenceEvent.apply_deleted, if_neg hother]
      exact ih hrest

end Runs

/-- Databases that requests about cases, uploads and deletions lead to, one after another, with
any call failing anywhere; a request may also stop between the transactions that it commits. -/
inductive EvidenceReachable (init : Store) : Store → Prop
  | start : EvidenceReachable init init
  | request {db s : Store} (r : CaseSubmission) (h : EvidenceReachable init db)
      (hs : s = r.after db ∨ s ∈ (r.session db).trail) : EvidenceReachable init s
  | upload {db : Store} (r : DocumentUpload) (h : EvidenceReachable init db) :
      EvidenceReachable init (endState (UploadClaimEvidenceUseCase.execute r (.start db))).committed
  | delete {db : Store} (r : DocumentDeletion) (h : EvidenceReachable init db) :
      EvidenceReachable init (endState (DeleteClaimEvidenceUseCase.execute r (.start db))).committed

section Reachable

variable {init s s' : Store} {log : List EvidenceEvent}

theorem ignoresDecisions_evidenceTables : IgnoresDecisions Store.evidenceTables where
  history := fun _ _ => rfl
  status := by
    intro s claimId status
    have hmap : (s.setClaimStatus claimId status).claims.map (fun c => (c.claimId, c.claimTypeId))
        = s.claims.map fun c => (c.claimId, c.claimTypeId) :=
      setClaimStatus_map (fun _ _ => rfl) s claimId status
    simp only [Store.evidenceTables, hmap]
    rfl
  decisions := fun _ _ => rfl
  reasons := fun _ _ => rfl
  amounts := fun _ _ => rfl
  extracts := fun _ _ => rfl

theorem ignoresApplications_evidenceTables : IgnoresApplications Store.evidenceTables where
  history := fun _ _ => rfl
  proceeding := fun _ _ _ => rfl
  client := fun _ _ _ => rfl
  publicBodies := fun _ _ _ => rfl
  applications := fun _ _ => rfl
  duplicates := fun _ _ => rfl

/-- Every transaction of a request either accepts the claim it asks for or leaves the evidence. -/
theorem EvidenceRun.performs {env : Env} {faults : Faults} {request : CaseRequest}
    (h : EvidenceRun init log s) (hstep : Performs env faults request s s') :
    ∃ events, EvidenceRun init (events ++ log) s' ∧ ∀ event ∈ events, event.AskedBy request := by
  have hnone : ∀ event ∈ ([] : List EvidenceEvent), event.AskedBy request :=
    fun _ hmem => absurd hmem List.not_mem_nil
  rcases hstep.keeps ignoresDecisions_evidenceTables
    ignoresApplications_evidenceTables.toIgnoresUpdates with hkept | hcreates | hsubmits
  · exact ⟨[], .other h hstep.anyCase hkept, hnone⟩
  · cases hcreates with
    | body hbody =>
        have hkept := createBody_keeps _ _ ignoresApplications_evidenceTables _ _ _ _ _ _ hbody
        exact ⟨[], .other h hstep.anyCase hkept, hnone⟩
  · cases hsubmits with
    | body hprepared hbody =>
        exact ⟨[_], .accepted h hprepared hbody, List.forall_mem_singleton.mpr ⟨_, rfl, rfl⟩⟩

/-- What a request about a case commits carries the run on with what the request asks for. -/
theorem EvidenceRun.request (r : CaseSubmission) (h : EvidenceRun init log s)
    (hs : s' = r.after s ∨ s' ∈ (r.session s).trail) :
    ∃ events, EvidenceRun init (events ++ log) s' ∧ ∀ event ∈ events, event.AskedBy r.request := by
  obtain ⟨hcommitted, htrail⟩ := r.performs s
  have hreached : Relation.ReflTransGen (Performs r.env r.faults r.request) s s' := by
    rcases hs with rfl | hmem
    · exact hcommitted
    · exact (htrail s' hmem).resolve_left List.not_mem_nil
  clear hs
  induction hreached with
  | refl => exact ⟨[], h, fun _ hmem => absurd hmem List.not_mem_nil⟩
  | tail _ hlast ih =>
      obtain ⟨events, hrun, hasked⟩ := ih
      obtain ⟨later, hruns, hasks⟩ := hrun.performs hlast
      rw [← List.append_assoc] at hruns
      exact ⟨later ++ events, hruns, List.forall_mem_append.mpr ⟨hasks, hasked⟩⟩

theorem EvidenceReachable.run (h : EvidenceReachable init s) : ∃ log, EvidenceRun init log s := by
  induction h with
  | start => exact ⟨[], .start⟩
  | @request db s r h hs ih =>
      obtain ⟨log, hrun⟩ := ih
      obtain ⟨events, hrun, -⟩ := hrun.request r hs
      exact ⟨_, hrun⟩
  | @upload db r h ih =>
      obtain ⟨log, hrun⟩ := ih
      have hends := uploadDocument_ensures claimEvidenceTable r db
        (.start db) (Session.start_clean db) rfl
      cases hresult : UploadClaimEvidenceUseCase.execute r (.start db) with
      | ok id session => exact ⟨_, hrun.uploaded hresult⟩
      | error e session =>
          have hkept : session.committed = db := (hends.2 e session hresult).1
          exact ⟨log, hkept ▸ hrun⟩
  | @delete db r h ih =>
      obtain ⟨log, hrun⟩ := ih
      have hends := deleteDocument_ensures claimEvidenceTable r db
        (.start db) (Session.start_clean db) rfl
      cases hresult : DeleteClaimEvidenceUseCase.execute r (.start db) with
      | ok u session => exact ⟨_, hrun.deleted hresult⟩
      | error e session =>
          have hkept : session.committed = db := by
            rcases hends.2 e session hresult with ⟨hview, -⟩ | ⟨_, -, -, -, hview⟩
            · exact congrArg Txn.store hview
            · exact congrArg Txn.store hview
          exact ⟨log, hkept ▸ hrun⟩

end Reachable

/-- What the commands of a run say about the evidence of its claims. -/
structure LinksFollowRequests (init : Store) (log : List EvidenceEvent) (s : Store) : Prop
    extends FollowsLog init log s where
  /-- A claim that is just accepted has all that it lists of the evidence that is there. -/
  linked : ∀ claimId ids rest, log = .accepted claimId ids :: rest → ∀ id ∈ ids,
    s.evidenceLinks id = none ∨ s.evidenceLinks id = some (some claimId)
  stays : ∀ id claimId later s', s.evidenceLinks id = some (some claimId) → EvidenceRun s later s' →
    (∀ event ∈ later, ¬ event.Unlinks id) → s'.evidenceLinks id = some (some claimId)
  requests : ∀ (r : CaseSubmission) s', (s' = r.after s ∨ s' ∈ (r.session s).trail) →
    ∃ events, EvidenceRun init (events ++ log) s' ∧ ∀ event ∈ events, event.AskedBy r.request

/-- All that requests, uploads and deletions commit is a run, and in every run each claim but a nil bill is
accepted with a list of evidence, what is there of the list is then linked to it, and a link ends only
with a later claim that lists the row or with its deletion. -/
theorem evidence_links_follow_requests (init : Store) :
    (∀ s, EvidenceReachable init s → ∃ log, EvidenceRun init log s)
      ∧ ∀ log s, EvidenceRun init log s → LinksFollowRequests init log s := by
  refine ⟨fun s h => h.run, fun log s hrun => ?_⟩
  have hfollows := hrun.follows
  refine ⟨hfollows, ?_, ?_, fun r s' hs => hrun.request r hs⟩
  · rintro claimId ids rest rfl id hid
    have hlink := congrFun hfollows.links id
    rw [List.foldr_cons, EvidenceEvent.apply_accepted, if_pos hid] at hlink
    cases hold : rest.foldr EvidenceEvent.apply init.evidenceLinks id with
    | none => exact .inl (by rw [hlink, hold]; rfl)
    | some link => exact .inr (by rw [hlink, hold]; rfl)
  · intro id claimId later s' hlink hlater hkeeps
    exact hlater.link_stays hlink hkeeps

namespace Sample

/-- The upload of the evidence that the claims list. -/
def evidenceUpload : DocumentUpload where
  fileName := "invoice.pdf"
  fileSize := 7
  virusCheck := some 200
  reply := ⟨"invoice-1.pdf", some 201, true, fun _ => rfl⟩
  documentId := 1
  faults := fun _ => none

def withEvidence : Store :=
  (endState (UploadClaimEvidenceUseCase.execute evidenceUpload
    (.start (.initial [application] [] [])))).committed

theorem withEvidence_run :
    EvidenceRun (.initial [application] [] []) [.uploaded 1] withEvidence := by
  cases hresult : UploadClaimEvidenceUseCase.execute evidenceUpload
    (.start (.initial [application] [] [])) with
  | ok id session =>
      have hsame : withEvidence = session.committed := by
        unfold withEvidence
        rw [hresult]
        rfl
      rw [hsame]
      exact .uploaded .start hresult
  | error e session => cases hresult

/-- One claim, which lists that evidence. -/
def evidencedClaim : CaseSubmission :=
  ⟨.claim (.create (poaCommand .expertCost none (some 120) none)), env, noFaults⟩

end Sample

/-- The evidence is uploaded, and the claim that lists it has it. -/
theorem evidence_links_follow_requests_uploaded :
    ∃ log, LinksFollowRequests (.initial [Sample.application] [] []) log
        (Sample.evidencedClaim.after Sample.withEvidence)
      ∧ .accepted 1 [1] ∈ log
      ∧ (Sample.evidencedClaim.after Sample.withEvidence).evidenceLinks 1 = some (some 1) := by
  obtain ⟨-, hfollows⟩ := evidence_links_follow_requests (.initial [Sample.application] [] [])
  have hrequest := (hfollows _ _ Sample.withEvidence_run).requests Sample.evidencedClaim _ (.inl rfl)
  obtain ⟨events, hrun, hasked⟩ := hrequest
  have hfollows := hfollows _ _ hrun
  have hlisted : ((1, .paymentOnAccount) : ℕ × ClaimType)
      ∈ (Sample.evidencedClaim.after Sample.withEvidence).evidenceTables.2 := by decide +kernel
  have hlink : (Sample.evidencedClaim.after Sample.withEvidence).evidenceLinks 1 = some (some 1) := by
    decide +kernel
  rcases hfollows.listed _ hlisted (by decide) with hnone | ⟨ids, hmem, -⟩
  · exact absurd hnone List.not_mem_nil
  · have hevent := (List.mem_append.mp hmem).resolve_right (by simp)
    obtain ⟨command, hcommand, rfl⟩ := hasked _ hevent
    cases hcommand
    exact ⟨_, hfollows, hmem, hlink⟩

namespace Sample

/-- The same claim, with evidence that nobody has uploaded. -/
def unevidenced : Store := evidencedClaim.after (.initial [application] [] [])

theorem unevidenced_reachable : EvidenceReachable (.initial [application] [] []) unevidenced :=
  .request evidencedClaim .start (.inl rfl)

end Sample

/-- A payment on account is committed with no evidence linked to it. -/
theorem accepted_claim_without_evidence :
    ¬ ∀ init s, EvidenceReachable init s → init.claims = [] →
      ∀ c ∈ s.claims, c.claimTypeId ≠ .nilBill → ∃ e ∈ s.claimEvidence, e.claimId = some c.claimId := by
  intro h
  have hrow : ∃ c ∈ Sample.unevidenced.claims, c.claimTypeId ≠ .nilBill := by decide +kernel
  obtain ⟨c, hc, hbill⟩ := hrow
  obtain ⟨e, he, -⟩ := h _ _ Sample.unevidenced_reachable rfl c hc hbill
  have hnone : Sample.unevidenced.claimEvidence = [] := by decide +kernel
  rw [hnone] at he
  cases he

end InquestsApi
