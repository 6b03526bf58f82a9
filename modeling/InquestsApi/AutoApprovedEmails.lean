import InquestsApi.DecideClaim

/-! `SendAutoApprovedPoaClaimEmailsUseCase`: a job that tells the provider of each claim
that was approved without a caseworker, once, one claim after another. -/
namespace InquestsApi

open UnitOfWork HistoryEventRepository

def HistoryEvent.data (event : HistoryEvent) (key : String) : Option Json :=
  event.eventData.lookup key

namespace SendAutoApprovedPoaClaimEmailsUseCase

def window : ℤ := 2 * Datetime.microsPerDay

def listAutoApprovedPoaClaims (now : Datetime) (s : Store) : List Claim :=
  s.claims.filter fun c =>
    c.claimTypeId = .paymentOnAccount && c.statusId = .payInFull
      && now.instant - window ≤ c.submissionDate.instant && c.submissionDate.instant < now.instant

def hasEvent (history : List HistoryEvent) (reference : HistoryEventReference)
    (claimReference : String) : Bool :=
  history.any fun event =>
    event.eventReference = reference && event.data "claim_reference" = some (.text claimReference)

def getApplicationHistory (applicationId : ℕ) (s : Store) : List HistoryEvent :=
  s.historyEvents.filter fun event => event.applicationId = applicationId

/-- The application of a claim whose message is still to be sent. -/
def awaitingEmail (claim : Claim) (s : Store) : Except ApiError (Option Application) :=
  match s.applications.find? fun a => a.applicationId = claim.applicationId with
  | none => .error (.attributeError "application_id")
  | some application =>
    let history := getApplicationHistory application.applicationId s
    if ¬ hasEvent history .poaAutoApproved claim.claimReference then .ok none
    else if hasEvent history .claimApprovedEmail claim.claimReference then .ok none
    else .ok (some application)

section Requests

variable (env : Env) (faults : Faults) (claim : Claim)

def sendApprovedEmail (application : Application) : Transaction Unit := do
  let provider := application.provider
  Tx.callOut (faults .getFirmName).isSome (.portFailure .getFirmName)
  Tx.send (faults .sendNotification).isSome (.portFailure .sendNotification)
    (.claimGranted claim application.laaReference provider.emailAddress
      (env.firmName provider.firmCode))
  createHistoryEvent env faults (CreateClaim.systemEvent .claimApprovedEmail application
    [("claim_reference", .text claim.claimReference)])

def processClaim (index : ℕ) : Request Unit := do
  Uow.read (.listedClaim index)
  let awaiting ← Uow.transact (Tx.check (awaitingEmail claim))
  match awaiting with
  | none => pure ()
  | some application =>
    Uow.inTransaction (sendApprovedEmail env faults claim application)
      (commitFault faults .approvedEmail)

end Requests

variable (env : Env) (faults : Faults)

/-- A claim that fails is named in the log, and the job goes on to the next. -/
def processClaims : (index : ℕ) → List Claim → Request Unit
  | _, [] => pure ()
  | index, claim :: rest => do
    tryCatch (processClaim (env.ofClaim index) (faults.ofClaim index) claim index)
      fun _ => Uow.read (.listedClaim index)
    processClaims (index + 1) rest

/-- The query loads every claim that it lists. -/
def loadClaims : (index : ℕ) → List Claim → Request Unit
  | _, [] => pure ()
  | index, _ :: rest => do
    Uow.read (.listedClaim index)
    loadClaims (index + 1) rest

def execute (now : Datetime) : Request Unit := do
  let claims ← Uow.transact (Tx.check fun s => .ok (listAutoApprovedPoaClaims now s))
  loadClaims 0 claims
  processClaims env faults 0 claims

section Processing

variable {env : Env} {faults : Faults} {claim : Claim} {application : Application} {index : ℕ}
variable {t t' : Txn Store Notification}

def approvedEmail (env : Env) (claim : Claim) (application : Application) : Notification :=
  .claimGranted claim application.laaReference application.provider.emailAddress
    (env.firmName application.provider.firmCode)

def approvedEmailEvent (claim : Claim) (application : Application) : NewEvent :=
  CreateClaim.systemEvent .claimApprovedEmail application
    [("claim_reference", .text claim.claimReference)]

theorem sendApprovedEmail_ok {u : Unit} :
    sendApprovedEmail env faults claim application t = .ok u t' ↔
      faults .getFirmName = none ∧ faults .sendNotification = none
        ∧ faults (.createHistoryEvent .claimApprovedEmail) = none
        ∧ t' =
          { store := { t.store with historyEvents := t.store.historyEvents
              ++ [(approvedEmailEvent claim application).row env ActorType.system.value
                (nextKey (t.store.historyEvents.map (·.id)))] }
            outbox := approvedEmail env claim application :: t.outbox } := by
  have hsystem : requireActor (some ActorType.system.value) = .ok ActorType.system.value := by decide
  simp only [sendApprovedEmail, bind_ok, Tx.callOut_ok, Tx.send_ok, createHistoryEvent_ok,
    Option.isSome_eq_false_iff, Option.isNone_iff_eq_none]
  constructor
  · rintro ⟨_, _, ⟨hfirm, rfl⟩, _, _, ⟨hsend, rfl⟩, actor, hactor, hevent, rfl⟩
    cases hsystem.symm.trans hactor
    exact ⟨hfirm, hsend, hevent, rfl⟩
  · rintro ⟨hfirm, hsend, hevent, rfl⟩
    exact ⟨(), t, ⟨hfirm, rfl⟩, (), _, ⟨hsend, rfl⟩, _, hsystem, hevent, rfl⟩

/-- A message that is not recorded may have left all the same. -/
theorem sendApprovedEmail_error {e : Failure ApiError}
    (h : sendApprovedEmail env faults claim application t = .error e t') :
    t'.store = t.store
      ∧ (t'.outbox = t.outbox ∨ t'.outbox = approvedEmail env claim application :: t.outbox) := by
  simp only [sendApprovedEmail, createHistoryEvent, portWrite, bind_error, Tx.callOut_error,
    Tx.callOut_ok, Tx.send_error, Tx.send_ok, Tx.check_error, Tx.check_ok, Tx.flush_error] at h
  rcases h with ⟨-, -, rfl⟩ | ⟨_, _, ⟨-, rfl⟩, h⟩
  · exact ⟨rfl, .inl rfl⟩
  · rcases h with ⟨-, -, rfl⟩ | ⟨_, _, ⟨-, rfl⟩, h⟩
    · exact ⟨rfl, .inl rfl⟩
    · rcases h with ⟨_, -, -, rfl⟩ | ⟨_, _, ⟨-, rfl⟩, rfl, -⟩ <;> exact ⟨rfl, .inr rfl⟩

/-- What the job can do about one claim: nothing, tell its provider without a record, or
tell its provider and commit the record. -/
inductive Processed (env : Env) (faults : Faults) (claim : Claim)
    (s s' : Session Store Notification OrmObject) : Prop
  | untouched (hcommitted : s'.committed = s.committed) (htrail : s'.trail = s.trail)
      (houtbox : s'.outbox = s.outbox)
  | unrecorded (application : Application) (hcommitted : s'.committed = s.committed)
      (htrail : s'.trail = s.trail)
      (houtbox : s'.outbox = approvedEmail env claim application :: s.outbox)
  | told (application : Application) (t' : Txn Store Notification)
      (hawaiting : awaitingEmail claim s.committed = .ok (some application))
      (hbody : sendApprovedEmail env faults claim application ⟨s.committed, s.outbox⟩ = .ok () t')
      (hcommitted : s'.committed = t'.store) (htrail : s'.trail = t'.store :: s.trail)
      (houtbox : s'.outbox = t'.outbox)

/-- The record of a message and its commit, after the claim was found to await it. -/
theorem inTransaction_processed {s : Session Store Notification OrmObject} (hclean : s.Clean)
    (hawaiting : awaitingEmail claim s.committed = .ok (some application)) :
    let s' := endState ((Uow.inTransaction (sendApprovedEmail env faults claim application)
      (commitFault faults .approvedEmail) : Request Unit) s)
    Processed env faults claim s s' ∧ s'.Idle := by
  intro s'
  cases hbody : sendApprovedEmail env faults claim application ⟨s.working, s.outbox⟩ with
  | error e t' =>
      obtain ⟨hstore, houtbox⟩ := sendApprovedEmail_error hbody
      have hprocessed : s'.committed = s.committed → s'.trail = s.trail → s'.outbox = t'.outbox →
          Processed env faults claim s s' := by
        intro hcommitted htrail hout
        rcases houtbox with hsame | hsent
        · exact .untouched hcommitted htrail (hout.trans hsame)
        · exact .unrecorded application hcommitted htrail (hout.trans hsent)
      obtain ⟨e, fault⟩ := e
      cases fault with
      | raised =>
          have hend : s' = { s with working := t'.store, outbox := t'.outbox } :=
            endState_of_error (bind_eq_of_error (Uow.transact_of_raised hclean.usable hbody))
          rw [hend] at hprocessed ⊢
          exact ⟨hprocessed rfl rfl rfl, .inl ⟨hstore.trans hclean.working, hclean.usable⟩⟩
      | flush =>
          have hend : s' = { s with
              working := s.committed, outbox := t'.outbox, usable := false, loaded := fun _ => false } :=
            endState_of_error (bind_eq_of_error (Uow.transact_of_flush hclean.usable hbody))
          rw [hend] at hprocessed ⊢
          exact ⟨hprocessed rfl rfl rfl, .inr rfl⟩
  | ok u t' =>
      cases hfault : commitFault faults .approvedEmail with
      | some e =>
          obtain ⟨-, -, -, ht'⟩ := sendApprovedEmail_ok.mp hbody
          have hend : s' = { s with working := t'.store, outbox := t'.outbox, usable := false } := by
            refine endState_of_error (e := .call e) ?_
            rw [hfault]
            exact Uow.inTransaction_of_fault hclean.usable hbody
          rw [hend]
          exact ⟨.unrecorded application rfl rfl (congrArg Txn.outbox ht'), .inr rfl⟩
      | none =>
          have hend : s' = ⟨t'.store, t'.store, t'.outbox, true, fun _ => false, t'.store :: s.trail⟩ :=
            endState_of_ok (Uow.inTransaction_ok.mpr ⟨hclean.usable, hfault, t', hbody, rfl⟩)
          rw [hclean.working] at hbody
          rw [hend]
          exact ⟨.told application t' hawaiting hbody rfl rfl rfl, .inl ⟨rfl, rfl⟩⟩

/-- What is loaded is no part of it. -/
theorem Processed.reloaded {s s' : Session Store Notification OrmObject}
    {loaded loaded' : OrmObject → Bool}
    (h : Processed env faults claim { s with loaded := loaded } s') :
    Processed env faults claim s { s' with loaded := loaded' } := by
  cases h with
  | untouched hcommitted htrail houtbox => exact .untouched hcommitted htrail houtbox
  | unrecorded application hcommitted htrail houtbox =>
      exact .unrecorded application hcommitted htrail houtbox
  | told application t' hawaiting hbody hcommitted htrail houtbox =>
      exact .told application t' hawaiting hbody hcommitted htrail houtbox

theorem Processed.refl (s : Session Store Notification OrmObject) : Processed env faults claim s s :=
  .untouched rfl rfl rfl

theorem sendAwaited_processed {s : Session Store Notification OrmObject} (hidle : s.Idle) :
    let s' := endState ((do
      let awaiting ← Uow.transact (Tx.check (awaitingEmail claim))
      match awaiting with
      | none => pure ()
      | some application =>
        Uow.inTransaction (sendApprovedEmail env faults claim application)
          (commitFault faults .approvedEmail) : Request Unit) s)
    Processed env faults claim s s' ∧ s'.Idle := by
  rcases hidle with hclean | husable
  · have hlookup : awaitingEmail claim s.working = awaitingEmail claim s.committed := by
      rw [hclean.working]
    cases hawaiting : awaitingEmail claim s.committed with
    | error e =>
        have hraised : (Tx.check (awaitingEmail claim) : Transaction (Option Application))
            ⟨s.working, s.outbox⟩ = .error ⟨e, .raised⟩ ⟨s.working, s.outbox⟩ :=
          Tx.check_error.mpr ⟨e, hlookup.trans hawaiting, rfl, rfl⟩
        rw [bind_eq_of_error (Uow.transact_of_raised hclean.usable hraised)]
        exact ⟨.refl s, .inl hclean⟩
    | ok awaiting =>
        have hfound : (Uow.transact (Tx.check (awaitingEmail claim)) : Request (Option Application)) s
            = .ok awaiting s :=
          Uow.transact_ok.mpr ⟨hclean.usable, _, Tx.check_ok.mpr ⟨hlookup.trans hawaiting, rfl⟩, rfl⟩
        rw [bind_eq_of_ok hfound]
        cases awaiting with
        | none => exact ⟨.refl s, .inl hclean⟩
        | some application => exact inTransaction_processed hclean hawaiting
  · rw [bind_eq_of_error (Uow.transact_of_unusable husable)]
    exact ⟨.refl s, .inr husable⟩

theorem Idle.reloaded {s : Session Store Notification OrmObject} (h : s.Idle)
    (loaded : OrmObject → Bool) :
    ({ s with loaded := loaded } : Session Store Notification OrmObject).Idle := by
  rcases h with hclean | husable
  · exact .inl ⟨hclean.working, hclean.usable⟩
  · exact .inr husable

/-- One claim of the job, whatever happens to it. -/
theorem processClaim_processed {s : Session Store Notification OrmObject} (hidle : s.Idle) :
    let s' := endState (tryCatch (processClaim env faults claim index)
      (fun _ => Uow.read (.listedClaim index)) s)
    Processed env faults claim s s' ∧ s'.Idle := by
  have hprocess : let s' := endState (processClaim env faults claim index s)
      Processed env faults claim s s' ∧ s'.Idle := by
    obtain ⟨loaded, hread⟩ := Uow.read_end (ε := ApiError) (OrmObject.listedClaim index) s
    unfold processClaim
    cases hresult : (Uow.read (.listedClaim index) : Request Unit) s with
    | error e s₁ =>
        rw [hresult] at hread
        have hs₁ : s₁ = { s with loaded := loaded } := hread
        rw [bind_eq_of_error hresult, hs₁]
        exact ⟨(Processed.refl _).reloaded, Idle.reloaded hidle loaded⟩
    | ok u s₁ =>
        rw [hresult] at hread
        have hs₁ : s₁ = { s with loaded := loaded } := hread
        rw [bind_eq_of_ok hresult, hs₁]
        obtain ⟨hprocessed, hidle'⟩ := sendAwaited_processed (Idle.reloaded hidle loaded)
        exact ⟨hprocessed.reloaded, hidle'⟩
  obtain ⟨hprocessed, hidle'⟩ := hprocess
  cases hresult : processClaim env faults claim index s with
  | ok u s₁ =>
      rw [hresult] at hprocessed hidle'
      rw [tryCatch_eq_of_ok hresult]
      exact ⟨hprocessed, hidle'⟩
  | error e s₁ =>
      rw [hresult] at hprocessed hidle'
      obtain ⟨loaded, hread⟩ := Uow.read_end (ε := ApiError) (OrmObject.listedClaim index) s₁
      rw [tryCatch_eq_of_error hresult, hread]
      have hsame : Processed env faults claim { s with loaded := s.loaded } s₁ := hprocessed
      exact ⟨hsame.reloaded, Idle.reloaded hidle' loaded⟩

variable {I : Session Store Notification OrmObject → Prop}

theorem processClaims_invariant {claims : List Claim} {s : Session Store Notification OrmObject}
    (hstep : ∀ n claim s s', Processed (env.ofClaim n) (faults.ofClaim n) claim s s' → I s → I s')
    (hidle : s.Idle) (h : I s) : I (endState (processClaims env faults index claims s)) := by
  induction claims generalizing index s with
  | nil => exact h
  | cons claim rest ih =>
      obtain ⟨hprocessed, hidle'⟩ : let s' := endState (tryCatch
            (processClaim (env.ofClaim index) (faults.ofClaim index) claim index)
            (fun _ => Uow.read (.listedClaim index)) s)
          Processed (env.ofClaim index) (faults.ofClaim index) claim s s' ∧ s'.Idle :=
        processClaim_processed hidle
      have hnext := hstep index claim _ _ hprocessed h
      unfold processClaims
      cases hresult : tryCatch (processClaim (env.ofClaim index) (faults.ofClaim index) claim index)
          (fun _ => Uow.read (.listedClaim index)) s with
      | error e s' =>
          rw [hresult] at hnext
          rw [bind_eq_of_error hresult]
          exact hnext
      | ok u s' =>
          rw [hresult] at hnext hidle'
          rw [bind_eq_of_ok hresult]
          exact ih hidle' hnext

theorem loadClaims_end {claims : List Claim} {s : Session Store Notification OrmObject} :
    ∃ loaded, endState (loadClaims index claims s) = { s with loaded := loaded } := by
  induction claims generalizing index s with
  | nil => exact ⟨s.loaded, rfl⟩
  | cons claim rest ih =>
      obtain ⟨loaded, hread⟩ := Uow.read_end (ε := ApiError) (OrmObject.listedClaim index) s
      unfold loadClaims
      cases hresult : (Uow.read (.listedClaim index) : Request Unit) s with
      | error e s' =>
          rw [hresult] at hread
          rw [bind_eq_of_error hresult]
          exact ⟨loaded, hread⟩
      | ok u s' =>
          rw [hresult] at hread
          have hs' : s' = { s with loaded := loaded } := hread
          rw [bind_eq_of_ok hresult, hs']
          exact ih

/-- What each claim keeps, whatever happens to it, the whole job keeps. -/
theorem execute_invariant {now : Datetime} {db : Store}
    (hloaded : ∀ s loaded, I s → I { s with loaded := loaded })
    (hstep : ∀ n claim s s', Processed (env.ofClaim n) (faults.ofClaim n) claim s s' → I s → I s')
    (h : I (.start db)) : I (endState (execute env faults now (.start db))) := by
  have hlisted : (Uow.transact (Tx.check fun s => .ok (listAutoApprovedPoaClaims now s)) :
      Request (List Claim)) (.start db) = .ok (listAutoApprovedPoaClaims now db) (.start db) :=
    Uow.transact_check_of_ok rfl
  obtain ⟨loaded, hload⟩ : ∃ loaded, endState (loadClaims 0 (listAutoApprovedPoaClaims now db)
      (.start db)) = { (Session.start db : Session Store Notification OrmObject) with loaded := loaded } :=
    loadClaims_end
  unfold execute
  rw [bind_eq_of_ok hlisted]
  cases hresult : loadClaims 0 (listAutoApprovedPoaClaims now db) (.start db) with
  | error e s =>
      rw [hresult] at hload
      rw [bind_eq_of_error hresult]
      have hs : s = { (Session.start db : Session Store Notification OrmObject) with
          loaded := loaded } := hload
      rw [hs]
      exact hloaded _ _ h
  | ok u s =>
      rw [hresult] at hload
      have hs : s = { (Session.start db : Session Store Notification OrmObject) with
          loaded := loaded } := hload
      rw [bind_eq_of_ok hresult, hs]
      exact processClaims_invariant hstep (Idle.reloaded (.inl (Session.start_clean db)) loaded)
        (hloaded _ _ h)

end Processing

end SendAutoApprovedPoaClaimEmailsUseCase

end InquestsApi
