import InquestsApi.AutoApprovedEmails
import InquestsApi.ClaimRuns
import InquestsApi.Lib.Outbox

/-! Runs of the job that tells providers of the claims that were approved without a caseworker:
how often each claim is told of, and what one claim's failure does to the others. -/
namespace InquestsApi

open UnitOfWork HistoryEventRepository

namespace SendAutoApprovedPoaClaimEmailsUseCase

/-- The calls up to the message of a claim go through. -/
def SendsEmail (faults : Faults) : Prop :=
  faults .getFirmName = none ∧ faults .sendNotification = none

/-- Once the message of a claim has left, its record is written and committed. -/
def RecordsWhatItSends (faults : Faults) : Prop :=
  SendsEmail faults →
    faults (.createHistoryEvent .claimApprovedEmail) = none ∧ faults (.commit .approvedEmail) = none

/-- The history says that the provider was told of the claim. -/
def EmailRecorded (applicationId : ℕ) (claimReference : String) (s : Store) : Prop :=
  hasEvent (getApplicationHistory applicationId s) .claimApprovedEmail claimReference = true

/-- A message tells a provider of the claim. -/
def tellsOf (applicationId : ℕ) (claimReference : String) : Notification → Bool
  | .claimGranted claim _ _ _ =>
    claim.applicationId = applicationId && claim.claimReference = claimReference
  | _ => false

/-- What the job does about one claim when it records what it sends. -/
inductive Handled (env : Env) (faults : Faults) (claim : Claim) (t : Txn Store Notification) :
    Txn Store Notification → Prop
  | skipped (hwhy : ∀ application, awaitingEmail claim t.store = .ok (some application) →
      ¬ SendsEmail faults) : Handled env faults claim t t
  | told (application : Application) (t' : Txn Store Notification)
      (hawaiting : awaitingEmail claim t.store = .ok (some application))
      (hbody : sendApprovedEmail env faults claim application t = .ok () t') :
      Handled env faults claim t t'

/-- What it does about the claims from a position on. -/
inductive HandledAll (env : Env) (faults : Faults) :
    ℕ → List Claim → Txn Store Notification → Txn Store Notification → Prop
  | nil (index : ℕ) (t : Txn Store Notification) : HandledAll env faults index [] t t
  | cons {index : ℕ} {claim : Claim} {rest : List Claim} {t t₁ t' : Txn Store Notification}
      (hfirst : Handled (env.ofClaim index) (faults.ofClaim index) claim t t₁)
      (hrest : HandledAll env faults (index + 1) rest t₁ t') :
      HandledAll env faults index (claim :: rest) t t'

section Processing

variable {env : Env} {faults : Faults} {claim : Claim} {application : Application} {index : ℕ}
variable {s : Session Store Notification OrmObject} {t : Txn Store Notification}

variable (env claim application t) in
/-- Where a call before the message fails, nothing has happened. -/
theorem sendApprovedEmail_unsent (h : ¬ SendsEmail faults) :
    ∃ e, sendApprovedEmail env faults claim application t = .error ⟨e, .raised⟩ t := by
  unfold sendApprovedEmail
  by_cases hfirm : faults .getFirmName = none
  · have hsend : (faults .sendNotification).isSome = true := by
      rw [Option.isSome_iff_ne_none]
      exact fun hnone => h ⟨hfirm, hnone⟩
    refine ⟨.portFailure .sendNotification, ?_⟩
    have hlookup : (Tx.callOut (faults .getFirmName).isSome (.portFailure .getFirmName) :
        Transaction Unit) t = .ok () t := Tx.callOut_ok.mpr ⟨by rw [hfirm]; rfl, rfl⟩
    rw [bind_eq_of_ok hlookup]
    exact bind_eq_of_error (Tx.send_error.mpr ⟨hsend, rfl, rfl⟩)
  · refine ⟨.portFailure .getFirmName, bind_eq_of_error (Tx.callOut_error.mpr ⟨?_, rfl, rfl⟩)⟩
    exact Option.isSome_iff_ne_none.mpr hfirm

variable (index) in
theorem handleFailure {m : Request Unit} {e : Raised ApiError}
    {s₁ : Session Store Notification OrmObject} (hfails : m s = .error e s₁) (hclean : s₁.Clean) :
    ∃ s', tryCatch m (fun _ => Uow.read (.listedClaim index)) s = .ok () s' ∧ s'.Clean
      ∧ s'.view = s₁.view := by
  obtain ⟨s', hread, hclean', hview⟩ := Uow.read_of_clean (ε := ApiError) (.listedClaim index) hclean
  exact ⟨s', (tryCatch_eq_of_error hfails).trans hread, hclean', hview⟩

variable (env claim index) in
/-- Then each claim is dealt with by its own calls, and the session goes on clean. -/
theorem processClaim_handled (hclean : s.Clean) (hrecords : RecordsWhatItSends faults) :
    ∃ s', tryCatch (processClaim env faults claim index)
        (fun _ => Uow.read (.listedClaim index)) s = .ok () s'
      ∧ s'.Clean ∧ Handled env faults claim s.view s'.view := by
  obtain ⟨s₁, hread, hclean₁, hview₁⟩ := Uow.read_of_clean (ε := ApiError) (.listedClaim index) hclean
  have hstore : awaitingEmail claim s₁.working = awaitingEmail claim s.view.store := by
    rw [hclean₁.working]
    exact congrArg (awaitingEmail claim) (congrArg Txn.store hview₁)
  cases hawaiting : awaitingEmail claim s.view.store with
  | error e =>
      have hraised : (Uow.transact (Tx.check (awaitingEmail claim)) : Request (Option Application)) s₁
          = .error (.call e) s₁ :=
        Uow.transact_of_raised hclean₁.usable
          (Tx.check_error.mpr ⟨e, hstore.trans hawaiting, rfl, rfl⟩)
      have hprocess : processClaim env faults claim index s = .error (.call e) s₁ := by
        unfold processClaim
        rw [bind_eq_of_ok hread, bind_eq_of_error hraised]
      obtain ⟨s', hdone, hclean', hview'⟩ := handleFailure index hprocess hclean₁
      refine ⟨s', hdone, hclean', ?_⟩
      rw [hview', hview₁]
      exact .skipped fun application h => by simp [hawaiting] at h
  | ok awaiting =>
      have hfound : (Uow.transact (Tx.check (awaitingEmail claim)) : Request (Option Application)) s₁
          = .ok awaiting s₁ :=
        Uow.transact_ok.mpr ⟨hclean₁.usable, _,
          Tx.check_ok.mpr ⟨hstore.trans hawaiting, rfl⟩, rfl⟩
      cases awaiting with
      | none =>
          have hprocess : processClaim env faults claim index s = .ok () s₁ := by
            unfold processClaim
            rw [bind_eq_of_ok hread, bind_eq_of_ok hfound]
            rfl
          refine ⟨s₁, tryCatch_eq_of_ok hprocess, hclean₁, ?_⟩
          rw [hview₁]
          exact .skipped fun application h => by simp [hawaiting] at h
      | some application =>
          have hview : (⟨s₁.working, s₁.outbox⟩ : Txn Store Notification) = s.view :=
            (Uow.view_of_clean hclean₁).trans hview₁
          by_cases hsends : SendsEmail faults
          · obtain ⟨hevent, hcommit⟩ := hrecords hsends
            obtain ⟨t', hbody⟩ : ∃ t', sendApprovedEmail env faults claim application
                ⟨s₁.working, s₁.outbox⟩ = .ok () t' :=
              ⟨_, sendApprovedEmail_ok.mpr ⟨hsends.1, hsends.2, hevent, rfl⟩⟩
            have hfault : commitFault faults .approvedEmail = none := by simp [commitFault, hcommit]
            have hprocess : processClaim env faults claim index s
                = .ok () ⟨t'.store, t'.store, t'.outbox, true, fun _ => false, t'.store :: s₁.trail⟩ := by
              unfold processClaim
              rw [bind_eq_of_ok hread, bind_eq_of_ok hfound]
              exact Uow.inTransaction_ok.mpr ⟨hclean₁.usable, hfault, t', hbody, rfl⟩
            exact ⟨_, tryCatch_eq_of_ok hprocess, ⟨rfl, rfl⟩,
              .told application t' hawaiting (hview ▸ hbody)⟩
          · obtain ⟨e, hunsent⟩ := sendApprovedEmail_unsent env claim application
              ⟨s₁.working, s₁.outbox⟩ hsends
            have hraised : (Uow.inTransaction (sendApprovedEmail env faults claim application)
                (commitFault faults .approvedEmail) : Request Unit) s₁ = .error (.call e) s₁ :=
              bind_eq_of_error (Uow.transact_of_raised hclean₁.usable hunsent)
            have hprocess : processClaim env faults claim index s = .error (.call e) s₁ := by
              unfold processClaim
              rw [bind_eq_of_ok hread, bind_eq_of_ok hfound]
              exact hraised
            obtain ⟨s', hdone, hclean', hview'⟩ := handleFailure index hprocess hclean₁
            refine ⟨s', hdone, hclean', ?_⟩
            rw [hview', hview₁]
            exact .skipped fun _ _ => hsends

variable (env index) in
theorem processClaims_handled (claims : List Claim) (hclean : s.Clean)
    (hrecords : ∀ n, RecordsWhatItSends (faults.ofClaim n)) :
    ∃ s', processClaims env faults index claims s = .ok () s' ∧ s'.Clean
      ∧ HandledAll env faults index claims s.view s'.view := by
  induction claims generalizing index s with
  | nil => exact ⟨s, rfl, hclean, .nil index s.view⟩
  | cons claim rest ih =>
      obtain ⟨s₁, hprocess, hclean₁, hfirst⟩ :=
        processClaim_handled (env.ofClaim index) claim index hclean
          (hrecords index)
      obtain ⟨s', hgoes, hclean', hrest⟩ := ih (index + 1) hclean₁
      refine ⟨s', ?_, hclean', .cons hfirst hrest⟩
      unfold processClaims
      rw [bind_eq_of_ok hprocess]
      exact hgoes

variable (index) in
theorem loadClaims_goes (claims : List Claim) (hclean : s.Clean) :
    ∃ s', loadClaims index claims s = .ok () s' ∧ s'.Clean ∧ s'.view = s.view := by
  induction claims generalizing index s with
  | nil => exact ⟨s, rfl, hclean, rfl⟩
  | cons claim rest ih =>
      obtain ⟨s₁, hread, hclean₁, hview₁⟩ :=
        Uow.read_of_clean (ε := ApiError) (.listedClaim index) hclean
      obtain ⟨s', hgoes, hclean', hview'⟩ := ih (index + 1) hclean₁
      refine ⟨s', ?_, hclean', hview'.trans hview₁⟩
      unfold loadClaims
      rw [bind_eq_of_ok hread]
      exact hgoes

variable (env) in
/-- The job ends normally, and has dealt with every claim that it listed. -/
theorem execute_handled (now : Datetime) (db : Store)
    (hrecords : ∀ n, RecordsWhatItSends (faults.ofClaim n)) :
    ∃ s', execute env faults now (.start db) = .ok () s'
      ∧ HandledAll env faults 0 (listAutoApprovedPoaClaims now db) ⟨db, []⟩ s'.view := by
  have hlisted : (Uow.transact (Tx.check fun s => .ok (listAutoApprovedPoaClaims now s)) :
      Request (List Claim)) (.start db) = .ok (listAutoApprovedPoaClaims now db) (.start db) :=
    Uow.transact_check_of_ok rfl
  obtain ⟨s₁, hload, hclean₁, hview₁⟩ :=
    loadClaims_goes 0 (listAutoApprovedPoaClaims now db) (Session.start_clean db)
  obtain ⟨s', hgoes, -, hhandled⟩ := processClaims_handled env 0
    (listAutoApprovedPoaClaims now db) hclean₁ hrecords
  rw [hview₁] at hhandled
  refine ⟨s', ?_, hhandled⟩
  unfold execute
  rw [bind_eq_of_ok hlisted, bind_eq_of_ok hload]
  exact hgoes

end Processing

section Once

variable {env : Env} {faults : Faults} {claim : Claim} {application : Application} {index : ℕ}
variable {t t' : Txn Store Notification} {applicationId : ℕ} {claimReference : String}
variable {claims : List Claim} {log : List Notification} {s s' : Store}

theorem EmailRecorded.mono (hkept : s.historyEvents ⊆ s'.historyEvents)
    (h : EmailRecorded applicationId claimReference s) :
    EmailRecorded applicationId claimReference s' := by
  obtain ⟨event, hmem, hmatches⟩ := List.any_eq_true.mp h
  obtain ⟨hevent, hid⟩ := List.mem_filter.mp hmem
  exact List.any_eq_true.mpr ⟨event, List.mem_filter.mpr ⟨hkept hevent, hid⟩, hmatches⟩

theorem awaitingEmail_iff : awaitingEmail claim s = .ok (some application) ↔
    (s.applications.find? fun a => a.applicationId = claim.applicationId) = some application
      ∧ hasEvent (getApplicationHistory application.applicationId s) .poaAutoApproved
          claim.claimReference = true
      ∧ ¬ EmailRecorded application.applicationId claim.claimReference s := by
  unfold awaitingEmail EmailRecorded
  cases hfound : s.applications.find? fun a => a.applicationId = claim.applicationId with
  | none => simp
  | some found =>
      by_cases happroved : hasEvent (getApplicationHistory found.applicationId s) .poaAutoApproved
          claim.claimReference = true
      · by_cases htold : hasEvent (getApplicationHistory found.applicationId s) .claimApprovedEmail
            claim.claimReference = true
        · constructor
          · intro h
            simp [happroved, htold] at h
          · rintro ⟨hsame, -, hnot⟩
            cases hsame
            exact absurd htold hnot
        · constructor
          · intro h
            simp only [happroved, htold, not_true_eq_false, if_false, Bool.false_eq_true,
              Except.ok.injEq] at h
            cases h
            exact ⟨rfl, happroved, htold⟩
          · rintro ⟨hsame, -⟩
            cases hsame
            simp [happroved, htold]
      · constructor
        · intro h
          simp [happroved] at h
        · rintro ⟨hsame, happroved', -⟩
          cases hsame
          exact absurd happroved' happroved

theorem applicationId_of_awaiting (h : awaitingEmail claim s = .ok (some application)) :
    application.applicationId = claim.applicationId := by
  simpa using List.find?_some (awaitingEmail_iff.mp h).1

/-- The message about a claim and its record. -/
structure Tells (claim : Claim) (t t' : Txn Store Notification) : Prop where
  applications : t'.store.applications = t.store.applications
  history : t.store.historyEvents ⊆ t'.store.historyEvents
  recorded : EmailRecorded claim.applicationId claim.claimReference t'.store
  others : ∀ applicationId claimReference, EmailRecorded applicationId claimReference t'.store →
    EmailRecorded applicationId claimReference t.store
      ∨ claim.applicationId = applicationId ∧ claim.claimReference = claimReference
  sent : ∃ message, t'.outbox = message :: t.outbox
    ∧ ∀ applicationId claimReference, tellsOf applicationId claimReference message = true
      ↔ claim.applicationId = applicationId ∧ claim.claimReference = claimReference

theorem tells_of_sent (hawaiting : awaitingEmail claim t.store = .ok (some application))
    (h : sendApprovedEmail env faults claim application t = .ok () t') : Tells claim t t' := by
  obtain ⟨-, -, -, rfl⟩ := sendApprovedEmail_ok.mp h
  have hid := applicationId_of_awaiting hawaiting
  refine ⟨rfl, List.subset_append_left _ _, ?_, ?_, _, rfl, ?_⟩
  · refine List.any_eq_true.mpr ⟨_, List.mem_filter.mpr
      ⟨List.mem_append_right _ (List.mem_singleton_self _), ?_⟩, ?_⟩
    · exact decide_eq_true hid
    · simp [approvedEmailEvent, CreateClaim.systemEvent, NewEvent.row, HistoryEvent.data]
  · intro applicationId claimReference hrecorded
    obtain ⟨event, hmem, hmatches⟩ := List.any_eq_true.mp hrecorded
    obtain ⟨hevent, happlication⟩ := List.mem_filter.mp hmem
    rcases List.mem_append.mp hevent with hold | hnew
    · exact .inl (List.any_eq_true.mpr ⟨event, List.mem_filter.mpr ⟨hold, happlication⟩, hmatches⟩)
    · rw [List.mem_singleton.mp hnew] at happlication hmatches
      have hreference : claim.claimReference = claimReference := by
        simpa [approvedEmailEvent, CreateClaim.systemEvent, NewEvent.row, HistoryEvent.data]
          using hmatches
      have happlication : application.applicationId = applicationId := of_decide_eq_true happlication
      exact .inr ⟨hid.symm.trans happlication, hreference⟩
  · intro applicationId claimReference
    simp [approvedEmail, tellsOf]

/-- A claim is told of once at most, and then its history says so. -/
def ToldOnce (s : Store) (log : List Notification) : Prop :=
  ∀ applicationId claimReference, log.countP (tellsOf applicationId claimReference) ≤ 1
    ∧ (0 < log.countP (tellsOf applicationId claimReference) →
      EmailRecorded applicationId claimReference s)

theorem ToldOnce.handled (h : ToldOnce t.store (t.outbox ++ log))
    (hstep : Handled env faults claim t t') : ToldOnce t'.store (t'.outbox ++ log) := by
  cases hstep with
  | skipped hwhy => exact h
  | told application t' hawaiting hbody =>
      have htells := tells_of_sent hawaiting hbody
      obtain ⟨message, hsent, hof⟩ := htells.sent
      intro applicationId claimReference
      obtain ⟨honce, hrecorded⟩ := h applicationId claimReference
      rw [hsent, List.cons_append, List.countP_cons]
      by_cases hthis : tellsOf applicationId claimReference message = true
      · obtain ⟨rfl, rfl⟩ := (hof applicationId claimReference).mp hthis
        have hnone : (t.outbox ++ log).countP (tellsOf claim.applicationId claim.claimReference) = 0 := by
          by_contra hsome
          have hnot := (awaitingEmail_iff.mp hawaiting).2.2
          rw [applicationId_of_awaiting hawaiting] at hnot
          exact hnot (hrecorded (Nat.pos_of_ne_zero hsome))
        rw [hnone, if_pos hthis]
        exact ⟨le_refl 1, fun _ => htells.recorded⟩
      · rw [if_neg hthis]
        exact ⟨honce, fun hsome => (hrecorded hsome).mono htells.history⟩

theorem ToldOnce.handledAll (h : ToldOnce t.store (t.outbox ++ log))
    (hsteps : HandledAll env faults index claims t t') : ToldOnce t'.store (t'.outbox ++ log) := by
  induction hsteps with
  | nil => exact h
  | cons hfirst hrest ih => exact ih (h.handled hfirst)

/-- The provider of the claim is told, and the history says so. -/
def Told (claim : Claim) (t : Txn Store Notification) : Prop :=
  EmailRecorded claim.applicationId claim.claimReference t.store
    ∧ ∃ message ∈ t.outbox, tellsOf claim.applicationId claim.claimReference message = true

theorem Handled.grows (h : Handled env faults claim t t') :
    t'.store.applications = t.store.applications ∧ t.store.historyEvents ⊆ t'.store.historyEvents
      ∧ t.outbox ⊆ t'.outbox := by
  cases h with
  | skipped hwhy => exact ⟨rfl, List.Subset.refl _, List.Subset.refl _⟩
  | told application t' hawaiting hbody =>
      have htells := tells_of_sent hawaiting hbody
      obtain ⟨message, hsent, -⟩ := htells.sent
      refine ⟨htells.applications, htells.history, ?_⟩
      rw [hsent]
      exact List.subset_cons_self _ _

theorem Told.handledAll (h : Told claim t) (hsteps : HandledAll env faults index claims t t') :
    Told claim t' := by
  induction hsteps with
  | nil => exact h
  | cons hfirst hrest ih =>
      obtain ⟨-, hhistory, houtbox⟩ := hfirst.grows
      obtain ⟨hrecorded, message, hmem, htells⟩ := h
      exact ih ⟨hrecorded.mono hhistory, message, houtbox hmem, htells⟩

/-- Until its turn, a claim waits whatever happens to the claims before it. -/
theorem Handled.awaiting {other : Claim} (h : Handled env faults other t t')
    (hawaiting : awaitingEmail claim t.store = .ok (some application)) :
    awaitingEmail claim t'.store = .ok (some application) ∨ Told claim t' := by
  cases h with
  | skipped hwhy => exact .inl hawaiting
  | told application' t' hother hbody =>
      have htells := tells_of_sent hother hbody
      obtain ⟨hfound, happroved, hnot⟩ := awaitingEmail_iff.mp hawaiting
      have hid := applicationId_of_awaiting hawaiting
      by_cases hsame : other.applicationId = claim.applicationId
          ∧ other.claimReference = claim.claimReference
      · obtain ⟨message, hsent, hof⟩ := htells.sent
        refine .inr ⟨?_, message, ?_, (hof _ _).mpr hsame⟩
        · rw [← hsame.1, ← hsame.2]
          exact htells.recorded
        · rw [hsent]
          exact List.mem_cons_self
      · refine .inl (awaitingEmail_iff.mpr ⟨?_, ?_, ?_⟩)
        · rw [htells.applications]
          exact hfound
        · obtain ⟨event, hmem, hmatches⟩ := List.any_eq_true.mp happroved
          obtain ⟨hevent, happlication⟩ := List.mem_filter.mp hmem
          exact List.any_eq_true.mpr
            ⟨event, List.mem_filter.mpr ⟨htells.history hevent, happlication⟩, hmatches⟩
        · intro hrecorded
          rw [hid] at hrecorded hnot
          rcases htells.others _ _ hrecorded with hold | hthis
          · exact hnot hold
          · exact hsame hthis

theorem HandledAll.told {i : ℕ} (h : HandledAll env faults index claims t t')
    (hclaim : claims[i]? = some claim) (hsends : SendsEmail (faults.ofClaim (index + i)))
    (hawaiting : awaitingEmail claim t.store = .ok (some application)) : Told claim t' := by
  induction h generalizing i with
  | nil => simp at hclaim
  | @cons index first rest t t₁ t' hfirst hrest ih =>
      cases i with
      | zero =>
          obtain rfl : first = claim := by simpa using hclaim
          have htold : Told first t₁ := by
            cases hfirst with
            | skipped hwhy => exact absurd hsends (hwhy application hawaiting)
            | told application' t₁ hthis hbody =>
                have htells := tells_of_sent hthis hbody
                obtain ⟨message, hsent, hof⟩ := htells.sent
                refine ⟨htells.recorded, message, ?_, (hof _ _).mpr ⟨rfl, rfl⟩⟩
                rw [hsent]
                exact List.mem_cons_self
          exact htold.handledAll hrest
      | succ i =>
          rcases hfirst.awaiting hawaiting with hstill | htold
          · refine ih (by simpa using hclaim) ?_ hstill
            have hindex : index + 1 + i = index + (i + 1) := by omega
            rw [hindex]
            exact hsends
          · exact htold.handledAll hrest

end Once

/-- Runs of the job, one after another, and all the messages they have sent. Whatever happens
between two of them leaves the history that is there. -/
inductive Runs (admitted : Faults → Prop) : Store → List Notification → Prop
  | start (db : Store) : Runs admitted db []
  | run {db : Store} {log : List Notification} (env : Env) (faults : Faults) (now : Datetime)
      (h : Runs admitted db log) (hadmitted : ∀ n, admitted (faults.ofClaim n)) :
      Runs admitted (endState (execute env faults now (.start db))).committed
        ((endState (execute env faults now (.start db))).outbox ++ log)
  | between {db db' : Store} {log : List Notification} (h : Runs admitted db log)
      (hkept : db.historyEvents ⊆ db'.historyEvents) : Runs admitted db' log

theorem Runs.toldOnce {db : Store} {log : List Notification} (h : Runs RecordsWhatItSends db log) :
    ToldOnce db log := by
  induction h with
  | start db => exact fun _ _ => ⟨Nat.zero_le 1, fun h => absurd h (Nat.lt_irrefl 0)⟩
  | @run db log env faults now h hadmitted ih =>
      obtain ⟨s', hrun, hhandled⟩ := execute_handled env now db hadmitted
      rw [hrun]
      exact ToldOnce.handledAll (t := ⟨db, []⟩) ih hhandled
  | between h hkept ih =>
      intro applicationId claimReference
      obtain ⟨honce, hrecorded⟩ := ih applicationId claimReference
      exact ⟨honce, fun hsome => (hrecorded hsome).mono hkept⟩

/-- In one run, each claim of the window that waits for its message is told of, unless a call
for itself fails: whatever fails for the other claims. -/
def Isolated (env : Env) (faults : Faults) (now : Datetime) (db : Store) : Prop :=
  ∀ i claim application, (listAutoApprovedPoaClaims now db)[i]? = some claim →
    awaitingEmail claim db = .ok (some application) → SendsEmail (faults.ofClaim i) →
      Told claim (endState (execute env faults now (.start db))).view

/-- Where every message that is sent is also recorded, no claim is told of twice, and none keeps
another from being told of. -/
theorem approvedEmails_once_isolated (db : Store) (log : List Notification) :
    (Runs RecordsWhatItSends db log → ∀ applicationId claimReference,
      log.countP (tellsOf applicationId claimReference) ≤ 1)
    ∧ ∀ env faults now, (∀ n, RecordsWhatItSends (faults.ofClaim n)) →
      Isolated env faults now db := by
  constructor
  · exact fun h applicationId claimReference => (h.toldOnce applicationId claimReference).1
  · intro env faults now hrecords i claim application hclaim hawaiting hsends
    obtain ⟨s', hrun, hhandled⟩ := execute_handled env now db hrecords
    rw [hrun]
    refine hhandled.told hclaim ?_ hawaiting
    rw [Nat.zero_add]
    exact hsends

end SendAutoApprovedPoaClaimEmailsUseCase

namespace Sample

def approvedStore : Store :=
  (create (poaCommand .profitCost (some 100) (some 120) none)).after store

def dayAfter : Datetime := ⟨date.next.getD date, 0⟩

/-- The commit of the first claim's record fails. -/
def lostRecord : Faults := fun call =>
  if call = .ofClaim 0 (.commit .approvedEmail) then some .raised else none

/-- One run of the job. -/
def approvedEmailRun (faults : Faults) (db : Store) : Session Store Notification OrmObject :=
  endState (SendAutoApprovedPoaClaimEmailsUseCase.execute env faults dayAfter (.start db))

end Sample

open SendAutoApprovedPoaClaimEmailsUseCase Sample

theorem approvedEmails_once_isolated_approvedStore :
    ((approvedEmailRun noFaults approvedStore).outbox ++ []).countP (tellsOf 1 firstReference) ≤ 1 :=
  (approvedEmails_once_isolated _ _).1
    (.run env noFaults dayAfter (.start approvedStore) fun _ _ => ⟨rfl, rfl⟩) 1 firstReference

/-- A message whose record is lost is sent again by the next run. -/
theorem approvedEmail_sent_twice :
    ¬ ∀ db log, Runs (fun _ => True) db log → ∀ applicationId claimReference,
      log.countP (tellsOf applicationId claimReference) ≤ 1 := by
  intro h
  have honce := h _ _ (.run env noFaults dayAfter
    (.run env lostRecord dayAfter (.start approvedStore) fun _ => trivial) fun _ => trivial)
    1 firstReference
  have htwice : ¬ ((approvedEmailRun noFaults (approvedEmailRun lostRecord approvedStore).committed).outbox
      ++ ((approvedEmailRun lostRecord approvedStore).outbox ++ [])).countP
        (tellsOf 1 firstReference) ≤ 1 := by decide +kernel
  exact htwice honce

end InquestsApi
