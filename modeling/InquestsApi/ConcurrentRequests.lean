import InquestsApi.AutoApproval
import InquestsApi.ClaimLifecycle
import InquestsApi.Lib.Interleaving

/-! Claim requests side by side, under READ COMMITTED: a request is a sequence of
transactions, each of which sees what is committed when it starts and is atomic at its
commit. A decision of a caseworker holds the row lock of its claim from its read to its
end; an automatic decision takes no lock of its own before it writes. -/
namespace InquestsApi

open UnitOfWork Interleaving

/-- The committed state, and which request holds the row lock of which claim. -/
structure Database where
  store : Store
  locks : ℕ → Option ℕ

namespace Database

def lock (db : Database) (claimId request : ℕ) : Database :=
  { db with locks := Function.update db.locks claimId (some request) }

def unlock (db : Database) (claimId : ℕ) : Database :=
  { db with locks := Function.update db.locks claimId none }

end Database

/-- How far a request has come. -/
inductive Phase where
  | start
  | prepared (prepared : PreparedClaim)
  | submitted (prepared : PreparedClaim) (claim : Claim)
      (session : Session Store Notification OrmObject)
  | confirmed (prepared : PreparedClaim) (claim : Claim)
      (session : Session Store Notification OrmObject)
  | locked (application : Application) (claim : Claim)
  | done

namespace ClaimRequest

section Steps

variable (env : Env) (faults : Faults) (prepared : PreparedClaim) (claim : Claim)
variable (session : Session Store Notification OrmObject) (db : Database)

/-- The reads and checks before the first write. -/
def readStep (command : CreateClaimCommand) : Phase × Database :=
  match CreateClaim.prepare command db.store with
  | .ok prepared => (.prepared prepared, db)
  | .error _ => (.done, db)

def submitStep (command : CreateClaimCommand) : Phase × Database :=
  match CreateClaim.submit env faults command prepared (.start db.store) with
  | .ok claim session => (.submitted prepared claim session, { db with store := session.committed })
  | .error _ session => (.done, { db with store := session.committed })

def notifyStep : Phase × Database :=
  match CreateClaim.notify env faults prepared claim (session.next db.store) with
  | .ok _ session => (.confirmed prepared claim session, { db with store := session.committed })
  | .error _ session => (.done, { db with store := session.committed })

/-- An automatic decision writes to the row of its claim, and waits while it is locked. -/
def decideStep : Option (Phase × Database) :=
  if (db.locks claim.claimId).isSome then none
  else
    let session := endState (CreateClaim.decide env faults prepared claim (session.next db.store))
    some (.done, { db with store := session.committed })

/-- A caseworker's request reads its claim for update, and waits while the row is locked. -/
def lockStep (request : ℕ) (laaReference claimReference : String) : Option (Phase × Database) :=
  match findDecidedApplication laaReference db.store with
  | .error _ => some (.done, db)
  | .ok application =>
    match claimForAssessment claimReference application.applicationId db.store with
    | .error _ => some (.done, db)
    | .ok claim =>
      if (db.locks claim.claimId).isSome then none
      else some (.locked application claim, db.lock claim.claimId request)

/-- The rest of the transaction, its end either way, and the release of the lock. -/
def assessStep {α : Type} (body : Transaction α) : Phase × Database :=
  let session := endState ((Uow.inTransaction body (commitFault faults .assessment) : Request α)
    (.start db.store))
  (.done, { db with store := session.committed }.unlock claim.claimId)

end Steps

/-- The requests as processes over the database. -/
def program (requests : ℕ → Submission) : Program ℕ Phase Database := fun i phase db =>
  let r := requests i
  match r.request, phase with
  | .create command, .start => some (readStep db command)
  | .create command, .prepared prepared => some (submitStep r.env r.faults prepared db command)
  | .create _, .submitted prepared claim session =>
    some (notifyStep r.env r.faults prepared claim session db)
  | .create _, .confirmed prepared claim session =>
    decideStep r.env r.faults prepared claim session db
  | .payInFull command, .start => lockStep db i command.laaReference command.claimReference
  | .payInFull command, .locked application claim =>
    some (assessStep r.faults claim db
      (PayInFullClaimUseCase.payAssessedClaim r.env r.faults command application claim))
  | .reject command, .start => lockStep db i command.laaReference command.claimReference
  | .reject command, .locked application claim =>
    some (assessStep r.faults claim db
      (RejectClaimUseCase.rejectAssessedClaim r.env r.faults command application claim))
  | _, _ => none

/-- The kinds of step that a request takes. -/
inductive Takes (i : ℕ) (r : Submission) : Phase → Database → Phase → Database → Prop
  | read {command db phase' db'} (h : readStep db command = (phase', db')) :
    Takes i r .start db phase' db'
  | submit {command prepared db phase' db'}
    (h : submitStep r.env r.faults prepared db command = (phase', db')) :
    Takes i r (.prepared prepared) db phase' db'
  | notify {prepared claim session db phase' db'}
    (h : notifyStep r.env r.faults prepared claim session db = (phase', db')) :
    Takes i r (.submitted prepared claim session) db phase' db'
  | decide {prepared claim session db phase' db'}
    (h : decideStep r.env r.faults prepared claim session db = some (phase', db')) :
    Takes i r (.confirmed prepared claim session) db phase' db'
  | lock {laaReference claimReference db phase' db'}
    (h : lockStep db i laaReference claimReference = some (phase', db')) :
    Takes i r .start db phase' db'
  | pay {command application claim db phase' db'}
    (h : assessStep r.faults claim db (PayInFullClaimUseCase.payAssessedClaim r.env r.faults command
      application claim) = (phase', db')) :
    Takes i r (.locked application claim) db phase' db'
  | reject {command application claim db phase' db'}
    (h : assessStep r.faults claim db (RejectClaimUseCase.rejectAssessedClaim r.env r.faults command
      application claim) = (phase', db')) :
    Takes i r (.locked application claim) db phase' db'

/-- The requests before any of them has begun. -/
def idle (store : Store) : System ℕ Phase Database :=
  ⟨fun _ => .start, ⟨store, fun _ => none⟩⟩

end ClaimRequest

/-- No two claims have one key. -/
def ClaimKeys (s : Store) : Prop := (s.claims.map (·.claimId)).Nodup

/-- What a transaction commits: history, a claim that may be added, or a decision on a stored
claim that may be decided. -/
inductive Commits (mayAdd : Store → DomainClaim → ℕ → Prop) (mayDecide : Claim → Prop)
    (s s' : Store) : Prop
  | note (h : Noted s s')
  | submission (claim : DomainClaim) (applicationId : ℕ) (row : Claim)
      (hadd : mayAdd s claim applicationId) (h : Submitted claim applicationId row s s')
  | decision (claim : Claim) (verdict : Verdict) (rows : DecisionRows) (hclaim : claim ∈ s.claims)
      (hdecide : mayDecide claim) (h : Decided claim.claimId verdict rows s s')

section Commits

variable {mayAdd mayAdd' : Store → DomainClaim → ℕ → Prop} {mayDecide mayDecide' : Claim → Prop}
variable {s s' : Store} {c : Claim}

theorem Commits.mono (h : Commits mayAdd mayDecide s s')
    (hadd : ∀ s claim applicationId, mayAdd s claim applicationId → mayAdd' s claim applicationId)
    (hdecide : ∀ c, mayDecide c → mayDecide' c) : Commits mayAdd' mayDecide' s s' := by
  cases h with
  | note h => exact .note h
  | submission claim applicationId row hmay h =>
      exact .submission claim applicationId row (hadd _ _ _ hmay) h
  | decision claim verdict rows hclaim hmay h =>
      exact .decision claim verdict rows hclaim (hdecide claim hmay) h

/-- Keys stay unique. -/
theorem Commits.claimKeys (h : Commits mayAdd mayDecide s s') (hkeys : ClaimKeys s) :
    ClaimKeys s' := by
  unfold ClaimKeys at *
  cases h with
  | note h =>
      obtain ⟨events, rfl⟩ := h
      exact hkeys
  | submission claim applicationId row hmay h =>
      rw [h.claims, List.map_append]
      refine hkeys.append (List.nodup_singleton _) ?_
      intro key hold hnew
      rw [List.map_singleton, List.mem_singleton] at hnew
      exact h.key_notMem (hnew ▸ hold)
  | decision claim verdict rows hclaim hmay h =>
      rw [h.claims, setClaimStatus_map Claim.withStatus_claimId]
      exact hkeys

/-- Every claim stays, but for its status. -/
theorem Commits.exists_withStatus (h : Commits mayAdd mayDecide s s') (hc : c ∈ s.claims) :
    ∃ status, c.withStatus status ∈ s'.claims := by
  cases h with
  | note h =>
      obtain ⟨events, rfl⟩ := h
      exact ⟨c.statusId, hc⟩
  | submission claim applicationId row hmay h =>
      rw [h.claims]
      exact ⟨c.statusId, List.mem_append_left _ hc⟩
  | decision claim verdict rows hclaim hmay h => exact h.exists_withStatus hc

/-- A claim that may not be decided stays as it is. -/
theorem Commits.mem_of_undecided (h : Commits mayAdd mayDecide s s') (hc : c ∈ s.claims)
    (hother : ∀ d ∈ s.claims, mayDecide d → d.claimId ≠ c.claimId) : c ∈ s'.claims := by
  cases h with
  | note h =>
      obtain ⟨events, rfl⟩ := h
      exact hc
  | submission claim applicationId row hmay h =>
      rw [h.claims]
      exact List.mem_append_left _ hc
  | decision claim verdict rows hclaim hmay h =>
      exact h.mem_claims.mpr ⟨c, hc, (if_neg (hother claim hclaim hmay).symm).symm⟩

/-- What every commit preserves, a run of commits preserves. -/
theorem commits_invariant {J : Store → Prop}
    (h : Relation.ReflTransGen (Commits mayAdd mayDecide) s s') (hs : J s)
    (hstep : ∀ s s', Commits mayAdd mayDecide s s' → J s → J s') : J s' := by
  induction h with
  | refl => exact hs
  | tail _ hlast ih => exact hstep _ _ hlast ih

end Commits

/-- A claim of a request whose automatic decision is still to come. -/
structure Undecided (prepared : PreparedClaim) (claim : Claim)
    (session : Session Store Notification OrmObject) (s : Store) : Prop where
  usable : session.usable = true
  claimType : claim.claimTypeId = prepared.validatedClaim.claimType
  poaType : prepared.validatedClaim.claimType ≠ .paymentOnAccount →
    prepared.validatedClaim.poaType = none
  stored : ∃ c ∈ s.claims, c.claimId = claim.claimId ∧ c.claimTypeId = claim.claimTypeId

/-- A claim stays stored, whatever is committed. -/
theorem Undecided.commits {prepared : PreparedClaim} {claim : Claim}
    {session : Session Store Notification OrmObject}
    {mayAdd : Store → DomainClaim → ℕ → Prop} {mayDecide : Claim → Prop}
    {s s' : Store} (h : Undecided prepared claim session s)
    (hcommits : Relation.ReflTransGen (Commits mayAdd mayDecide) s s') :
    Undecided prepared claim session s' := by
  refine ⟨h.usable, h.claimType, h.poaType, ?_⟩
  refine commits_invariant (J := fun s => ∃ c ∈ s.claims, c.claimId = claim.claimId
    ∧ c.claimTypeId = claim.claimTypeId) hcommits h.stored ?_
  rintro s s' hcommit ⟨c, hc, hkey, htype⟩
  obtain ⟨status, hc'⟩ := hcommit.exists_withStatus hc
  exact ⟨c.withStatus status, hc', hkey, htype⟩

/-- What the phase of a request says of the database. -/
def Assertion (i : ℕ) : Phase → Database → Prop
  | .start, _ => True
  | .prepared prepared, _ =>
    prepared.validatedClaim.claimType ≠ .paymentOnAccount → prepared.validatedClaim.poaType = none
  | .submitted prepared claim session, db => Undecided prepared claim session db.store
  | .confirmed prepared claim session, db => Undecided prepared claim session db.store
  | .locked _ claim, db =>
    db.locks claim.claimId = some i ∧ claim ∈ db.store.claims ∧ claim.statusId = .submitted
  | .done, _ => True

/-- A prepared request adds the claim it has prepared. -/
def AddsPrepared (phase : Phase) (db : Database) (s : Store) (claim : DomainClaim)
    (applicationId : ℕ) : Prop :=
  s = db.store ∧ ∃ prepared, phase = .prepared prepared ∧ claim = prepared.validatedClaim
    ∧ applicationId = prepared.application.applicationId

/-- A request decides claims that no other request has locked: awaiting assessment, or, on
account, the claim it has submitted itself. -/
def DecidesUnlocked (i : ℕ) (phase : Phase) (db : Database) (c : Claim) : Prop :=
  c ∈ db.store.claims ∧ (∀ j, j ≠ i → db.locks c.claimId ≠ some j)
    ∧ (c.statusId = .submitted ∨ c.claimTypeId = .paymentOnAccount
      ∧ ∃ prepared claim session, phase = .confirmed prepared claim session
        ∧ claim.claimId = c.claimId)

/-- What a step of a request does to the database: what it commits, whose locks it leaves
alone, and what it can say afterwards. -/
structure StepSpec (i : ℕ) (phase : Phase) (db : Database) (phase' : Phase) (db' : Database) :
    Prop where
  commits : Relation.ReflTransGen
    (Commits (AddsPrepared phase db) (DecidesUnlocked i phase db)) db.store db'.store
  locks : ∀ claimId j, j ≠ i → db.locks claimId = some j → db'.locks claimId = some j
  assertion : Assertion i phase' db'

namespace ClaimRequest

section Specs

variable {i : ℕ} {env : Env} {faults : Faults} {prepared : PreparedClaim} {claim : Claim}
variable {session : Session Store Notification OrmObject} {db db' : Database} {phase phase' : Phase}

theorem readStep_spec {command : CreateClaimCommand} (h : readStep db command = (phase', db')) :
    StepSpec i .start db phase' db' := by
  unfold readStep at h
  cases hprepare : CreateClaim.prepare command db.store with
  | error e =>
      rw [hprepare] at h
      cases h
      exact ⟨.refl, fun _ _ _ hlock => hlock, trivial⟩
  | ok prepared =>
      rw [hprepare] at h
      cases h
      exact ⟨.refl, fun _ _ _ hlock => hlock, (prepare_poaType hprepare).2⟩

theorem submitStep_spec {command : CreateClaimCommand}
    (hassertion : Assertion i (.prepared prepared) db)
    (h : submitStep env faults prepared db command = (phase', db')) :
    StepSpec i (.prepared prepared) db phase' db' := by
  have htriple : Uow.Triple (Commits (AddsPrepared (.prepared prepared) db)
      (DecidesUnlocked i (.prepared prepared) db)) (fun s => s = db.store)
      (CreateClaim.submit env faults command prepared)
      (fun claim s => claim ∈ s.claims ∧ claim.claimTypeId = prepared.validatedClaim.claimType) := by
    refine submit_triple ?_
    intro t claim t' hstore hbody
    have hsubmitted := submitClaim_ok hbody
    refine ⟨.submission _ _ _ ⟨hstore, prepared, rfl, rfl, rfl⟩ hsubmitted, ?_,
      hsubmitted.stored.claimType⟩
    rw [hsubmitted.claims]
    exact List.mem_append_right _ (List.mem_singleton_self claim)
  have hend := htriple (.start db.store) (Session.start_clean _) rfl
  unfold submitStep at h
  cases hsubmit : CreateClaim.submit env faults command prepared (.start db.store) with
  | error e session =>
      rw [hsubmit] at h
      cases h
      exact ⟨(hend.2 e session hsubmit).committed, fun _ _ _ hlock => hlock, trivial⟩
  | ok claim session =>
      rw [hsubmit] at h
      cases h
      obtain ⟨hclean, hextends, hmem, htype⟩ := hend.1 claim session hsubmit
      refine ⟨hextends.committed, fun _ _ _ hlock => hlock, ?_⟩
      exact ⟨hclean.usable, htype, hassertion, claim, hmem, rfl, rfl⟩

theorem notifyStep_spec (hassertion : Assertion i (.submitted prepared claim session) db)
    (h : notifyStep env faults prepared claim session db = (phase', db')) :
    StepSpec i (.submitted prepared claim session) db phase' db' := by
  have htriple : Uow.Triple (Commits (AddsPrepared (.submitted prepared claim session) db)
      (DecidesUnlocked i (.submitted prepared claim session) db)) (fun _ => True)
      (CreateClaim.notify env faults prepared claim) (fun _ _ => True) :=
    notify_triple fun _ _ hnoted _ => ⟨.note hnoted, trivial⟩
  have hend := htriple (session.next db.store) (Session.next_clean hassertion.usable) trivial
  unfold notifyStep at h
  cases hnotify : CreateClaim.notify env faults prepared claim (session.next db.store) with
  | error e session' =>
      rw [hnotify] at h
      cases h
      exact ⟨(hend.2 e session' hnotify).committed, fun _ _ _ hlock => hlock, trivial⟩
  | ok u session' =>
      rw [hnotify] at h
      cases h
      obtain ⟨hclean, hextends, -⟩ := hend.1 u session' hnotify
      have hstored := Undecided.commits hassertion hextends.committed
      exact ⟨hextends.committed, fun _ _ _ hlock => hlock,
        hclean.usable, hstored.claimType, hstored.poaType, hstored.stored⟩

/-- Only Payment on account claims are decided without a caseworker. -/
theorem claimType_of_autoOutcome {outcome : CreateClaim.AutoOutcome}
    (hkind : prepared.validatedClaim.claimType ≠ .paymentOnAccount →
      prepared.validatedClaim.poaType = none)
    (h : CreateClaim.autoOutcome env prepared = some outcome) (hhold : outcome ≠ .hold) :
    prepared.validatedClaim.claimType = .paymentOnAccount := by
  cases outcome with
  | hold => exact absurd rfl hhold
  | approve => exact isEligibleForAutoApproval_claimType (autoOutcome_approve h).2.2
  | reject reasonCodes =>
      by_contra htype
      have hpoa := hkind htype
      have hother : prepared.validatedClaim.poaType ≠ some .profitCost := by
        rw [hpoa]
        exact (Option.some_ne_none _).symm
      have hnone : prepared.validatedClaim.shouldAutoReject prepared.application
          prepared.existingSummaries (env.now .readReferenceDate) = some ⟨[]⟩ := by
        simp only [DomainClaim.shouldAutoReject, DomainClaim.shouldAutoRejectForEarlyProfitCostPoa,
          DomainClaim.shouldAutoRejectForMaxPoaCount, DomainClaim.shouldAutoRejectForLimit,
          if_pos hother, if_pos htype]
        rfl
      obtain ⟨rejection, hrejection, hrejected⟩ := Option.map_eq_some_iff.mp h
      rw [hnone] at hrejection
      cases hrejection
      rw [if_neg (by decide)] at hrejected
      split at hrejected <;> cases hrejected

/-- Whatever a request decides about its claim, it commits one decision at most. -/
theorem decide_decides {R : Store → Store → Prop} {P : Store → Prop}
    (hkind : prepared.validatedClaim.claimType ≠ .paymentOnAccount →
      prepared.validatedClaim.poaType = none)
    (hstep : ∀ s s' verdict rows, prepared.validatedClaim.claimType = .paymentOnAccount → P s →
      Decided claim.claimId verdict rows s s' → R s s') :
    Uow.Triple R P (CreateClaim.decide env faults prepared claim) (fun _ _ => True) := by
  refine decide_of_bodies ?_ ?_ (fun _ _ => trivial) fun _ _ => trivial
  · intro reasonCodes t u t' houtcome hP hok
    have htype := claimType_of_autoOutcome hkind houtcome (fun h => nomatch h)
    obtain ⟨rows, hdecided⟩ := autoRejectClaim_ok hok
    exact ⟨hstep _ _ _ rows htype hP hdecided, trivial⟩
  · intro t u t' houtcome hP hok
    have htype := claimType_of_autoOutcome hkind houtcome (fun h => nomatch h)
    obtain ⟨lines, rows, -, hdecided⟩ := autoApproveClaim_ok hok
    exact ⟨hstep _ _ _ rows htype hP hdecided, trivial⟩

theorem decideStep_spec (hassertion : Assertion i (.confirmed prepared claim session) db)
    (h : decideStep env faults prepared claim session db = some (phase', db')) :
    StepSpec i (.confirmed prepared claim session) db phase' db' := by
  unfold decideStep at h
  by_cases hlocked : (db.locks claim.claimId).isSome = true
  · rw [if_pos hlocked] at h
    cases h
  · rw [if_neg hlocked] at h
    cases h
    obtain ⟨c, hc, hkey, htype⟩ := hassertion.stored
    have htriple : Uow.Triple (Commits (AddsPrepared (.confirmed prepared claim session) db)
        (DecidesUnlocked i (.confirmed prepared claim session) db)) (fun s => s = db.store)
        (CreateClaim.decide env faults prepared claim) (fun _ _ => True) := by
      refine decide_decides hassertion.poaType ?_
      rintro s s' verdict rows hpoa rfl hdecided
      rw [← hkey] at hdecided
      refine .decision c verdict rows hc
        ⟨hc, ?_, .inr ⟨?_, prepared, claim, session, rfl, hkey.symm⟩⟩ hdecided
      · intro j _ hlock
        rw [hkey] at hlock
        rw [hlock] at hlocked
        exact hlocked rfl
      · exact htype.trans (hassertion.claimType.trans hpoa)
    exact ⟨(htriple.ends (Session.next_clean hassertion.usable) rfl).committed,
      fun _ _ _ hlock => hlock, trivial⟩

theorem lockStep_spec {laaReference claimReference : String}
    (h : lockStep db i laaReference claimReference = some (phase', db')) :
    StepSpec i .start db phase' db' := by
  unfold lockStep at h
  split at h
  · cases h
    exact ⟨.refl, fun _ _ _ hlock => hlock, trivial⟩
  · rename_i application _
    split at h
    · cases h
      exact ⟨.refl, fun _ _ _ hlock => hlock, trivial⟩
    · rename_i claim hclaim
      split at h
      · cases h
      · rename_i hfree
        cases h
        obtain ⟨hmem, -, hstatus⟩ := claimForAssessment_ok hclaim
        refine ⟨.refl, ?_, Function.update_self _ _ _, hmem, hstatus⟩
        intro claimId j _ hlock
        have hne : claimId ≠ claim.claimId := by
          rintro rfl
          rw [hlock] at hfree
          exact hfree rfl
        exact (Function.update_of_ne hne _ _).trans hlock

theorem assessStep_spec {α : Type} {application : Application} {body : Transaction α}
    (hassertion : Assertion i (.locked application claim) db)
    (hbody : ∀ t a t', body t = .ok a t' →
      ∃ verdict rows, Decided claim.claimId verdict rows t.store t'.store)
    (h : assessStep faults claim db body = (phase', db')) :
    StepSpec i (.locked application claim) db phase' db' := by
  obtain ⟨hlock, hmem, hstatus⟩ := hassertion
  cases h
  have htriple : Uow.Triple (Commits (AddsPrepared (.locked application claim) db)
      (DecidesUnlocked i (.locked application claim) db)) (fun s => s = db.store)
      (Uow.inTransaction body (commitFault faults .assessment) : Request α) (fun _ _ => True) := by
    refine .inTransaction ?_
    intro t a t' hstore hok
    obtain ⟨verdict, rows, hdecided⟩ := hbody t a t' hok
    refine ⟨.decision claim verdict rows (hstore ▸ hmem) ⟨hmem, ?_, .inl hstatus⟩ hdecided, trivial⟩
    intro j hj hother
    rw [hlock] at hother
    cases hother
    exact hj rfl
  refine ⟨(htriple.ends (Session.start_clean db.store) rfl).committed, ?_, trivial⟩
  intro claimId j hj hother
  have hne : claimId ≠ claim.claimId := by
    rintro rfl
    rw [hlock] at hother
    cases hother
    exact hj rfl
  exact (Function.update_of_ne hne _ _).trans hother

theorem program_takes {requests : ℕ → Submission}
    (h : program requests i phase db = some (phase', db')) :
    Takes i (requests i) phase db phase' db' := by
  unfold program at h
  cases hrequest : (requests i).request with
  | create command =>
      simp only [hrequest] at h
      cases phase with
      | start => exact .read (Option.some.inj h)
      | prepared prepared => exact .submit (Option.some.inj h)
      | submitted prepared claim session => exact .notify (Option.some.inj h)
      | confirmed prepared claim session => exact .decide h
      | locked application claim => cases h
      | done => cases h
  | payInFull command =>
      simp only [hrequest] at h
      cases phase with
      | start => exact .lock h
      | locked application claim => exact .pay (Option.some.inj h)
      | prepared prepared => cases h
      | submitted prepared claim session => cases h
      | confirmed prepared claim session => cases h
      | done => cases h
  | reject command =>
      simp only [hrequest] at h
      cases phase with
      | start => exact .lock h
      | locked application claim => exact .reject (Option.some.inj h)
      | prepared prepared => cases h
      | submitted prepared claim session => cases h
      | confirmed prepared claim session => cases h
      | done => cases h

theorem program_spec {requests : ℕ → Submission} (hassertion : Assertion i phase db)
    (h : program requests i phase db = some (phase', db')) : StepSpec i phase db phase' db' := by
  cases program_takes h with
  | read h => exact readStep_spec h
  | submit h => exact submitStep_spec hassertion h
  | notify h => exact notifyStep_spec hassertion h
  | decide h => exact decideStep_spec hassertion h
  | lock h => exact lockStep_spec h
  | pay h =>
      refine assessStep_spec hassertion ?_ h
      intro t u t' hok
      obtain ⟨lines, rows, _, -, -, hdecided⟩ := payAssessedClaim_ok hok
      exact ⟨_, rows, hdecided⟩
  | reject h =>
      refine assessStep_spec hassertion ?_ h
      intro t u t' hok
      obtain ⟨-, rows, hdecided⟩ := rejectAssessedClaim_ok hok
      exact ⟨_, rows, hdecided⟩

end Specs

end ClaimRequest

/-- A step of one request leaves what the others can say. -/
theorem StepSpec.other {i j : ℕ} {phase phase' other : Phase} {db db' : Database}
    (h : StepSpec i phase db phase' db') (hj : j ≠ i)
    (hother : Assertion j other db) : Assertion j other db' := by
  cases other with
  | start => trivial
  | prepared prepared => exact hother
  | submitted prepared claim session => exact Undecided.commits hother h.commits
  | confirmed prepared claim session => exact Undecided.commits hother h.commits
  | locked application claim =>
      obtain ⟨hlock, hmem, hstatus⟩ := hother
      refine ⟨h.locks _ j hj hlock, ?_, hstatus⟩
      refine commits_invariant (J := fun s => claim ∈ s.claims) h.commits hmem ?_
      intro s s' hcommit hc
      refine hcommit.mem_of_undecided hc ?_
      rintro d - ⟨-, hunlocked, -⟩ hkey
      rw [hkey] at hunlocked
      exact hunlocked j hj hlock
  | done => trivial

section Runs

variable {requests : ℕ → Submission} {admitted : Admission ℕ Phase Database}
variable {s s' : System ℕ Phase Database}

open ClaimRequest

theorem requests_outline :
    Outline (program requests) admitted (fun db => ClaimKeys db.store) Assertion := by
  refine ⟨?_, ?_⟩
  · intro i phase phase' db db' hkeys hassertion _ hact
    have hspec := program_spec hassertion hact
    exact ⟨commits_invariant hspec.commits hkeys fun _ _ hcommit => hcommit.claimKeys,
      hspec.assertion⟩
  · intro i j phase phase' other db db' hj _ hassertion hother _ hact
    exact (program_spec hassertion hact).other hj hother

theorem idle_holds {store : Store} (hkeys : ClaimKeys store) :
    Holds (fun db => ClaimKeys db.store) Assertion (idle store) :=
  ⟨hkeys, fun _ => trivial⟩

/-- What the admitted steps may commit, a run commits. -/
theorem run_commits {mayAdd : Store → DomainClaim → ℕ → Prop} {mayDecide : Claim → Prop}
    (hadd : ∀ i phase db, admitted i phase db →
      ∀ store claim applicationId, AddsPrepared phase db store claim applicationId →
        mayAdd store claim applicationId)
    (hdecide : ∀ i phase db, admitted i phase db → ∀ c, DecidesUnlocked i phase db c → mayDecide c)
    (hs : Holds (fun db => ClaimKeys db.store) Assertion s)
    (h : Run (program requests) admitted s s') :
    Relation.ReflTransGen (Commits mayAdd mayDecide) s.shared.store s'.shared.store := by
  refine requests_outline.view (f := Database.store) ?_ hs h
  intro i phase phase' db db' _ hassertion hadmitted hact
  have hmono : ∀ s s', Commits (AddsPrepared phase db) (DecidesUnlocked i phase db) s s' →
      Commits mayAdd mayDecide s s' :=
    fun _ _ hcommit => hcommit.mono (hadd i phase db hadmitted) (hdecide i phase db hadmitted)
  exact Relation.ReflTransGen.mono hmono _ _ (program_spec hassertion hact).commits

end Runs

end InquestsApi
