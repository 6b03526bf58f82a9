import InquestsApi.GrantCompletion

/-! What decisions and certificates do to the client of an application: nothing, unless a
grant that goes through writes the name of a recipient into a row of the client. -/
namespace InquestsApi

open UnitOfWork HistoryEventRepository CreateCertificateContext

/-- No name is written into a row of the client: nobody else receives the letters, or the
chosen address is no row of the client. -/
def Client.LettersApart (client : Client) : Prop :=
  client.correspondenceRecipient = none ∨ client.storedAddress = none

instance (client : Client) : Decidable client.LettersApart :=
  inferInstanceAs (Decidable (_ ∨ _))

inductive DecisionRequest where
  | grant (request : GrantApplicationUpdate)
  | refuse (request : RefuseApplicationUpdate)
  | retrieve

/-- A request about an application as it meets its surroundings. -/
structure DecisionSubmission where
  request : DecisionRequest
  laaReference : String
  env : Env
  faults : Faults

namespace DecisionSubmission

/-- What the request leaves in the database. -/
def after (r : DecisionSubmission) (db : Store) : Store :=
  match r.request with
  | .grant request =>
    (endState (GrantDecisionUseCase.execute r.env r.faults r.laaReference request (.start db))).committed
  | .refuse request =>
    (endState (RefuseDecisionUseCase.execute r.env r.faults r.laaReference request (.start db))).committed
  | .retrieve =>
    (endState (RetrieveCertificateUseCase.execute r.env r.faults r.laaReference (.start db))).committed

/-- A grant that goes through is of an application whose letters leave the rows of its
client alone. -/
def KeepsRows (r : DecisionSubmission) (db : Store) : Prop :=
  match r.request with
  | .grant _ => ∀ application, findDecidedApplication r.laaReference db = .ok application →
      GrantDecisionUseCase.GoesThrough r.env r.faults application →
        r.faults (.commit .decision) = none → application.client.LettersApart
  | _ => True

end DecisionSubmission

/-- The databases between the requests of a run that are all admitted. -/
inductive DecisionRun (admitted : DecisionSubmission → Store → Prop) (init : Store) : Store → Prop
  | start : DecisionRun admitted init init
  | request {db : Store} (r : DecisionSubmission) (h : DecisionRun admitted init db)
      (hr : admitted r db) : DecisionRun admitted init (r.after db)

section Addresses

variable {client : Client} {address officeAddress : Address}
variable {addressed : Option Address × Client}

theorem storedAddress_setStoredAddress
    (h : client.correspondenceAddressSource ≠ .useProviderAddress) :
    (client.setStoredAddress address).storedAddress = some address := by
  unfold Client.setStoredAddress
  cases hsource : client.correspondenceAddressSource with
  | useProviderAddress => exact absurd hsource h
  | useSpecifiedAddress => simp only [Client.storedAddress]
  | useClientHomeAddress => simp only [Client.storedAddress]

/-- A name put before the first line makes it longer, whatever the name. -/
theorem careOf_ne (recipient : CorrespondenceRecipient) (address : Address) :
    careOf recipient address ≠ address := by
  intro h
  have hline : "c/o " ++ recipient.recipientName ++ " " ++ address.addressLine1
      = address.addressLine1 := congrArg Address.addressLine1 h
  have hlength := congrArg String.length hline
  simp only [String.length_append] at hlength
  have hprefix : "c/o ".length = 4 := rfl
  omega

/-- The client stays as it is exactly where its letters leave its rows alone. -/
theorem clientAddress_keeps (h : clientAddress client officeAddress = .ok addressed) :
    addressed.2 = client ↔ client.LettersApart := by
  rcases clientAddress_ok.mp h with ⟨hnobody, rfl⟩ | ⟨recipient, address, hrecipient, haddress, rfl⟩
  · exact ⟨fun _ => .inl hnobody, fun _ => rfl⟩
  · by_cases hsource : client.correspondenceAddressSource = .useProviderAddress
    · have hstored : client.storedAddress = none := by
        unfold Client.storedAddress
        rw [hsource]
      have hsame : client.setStoredAddress (careOf recipient address) = client := by
        unfold Client.setStoredAddress
        rw [hsource]
      exact ⟨fun _ => .inr hstored, fun _ => hsame⟩
    · have hstored : client.storedAddress = some address := (if_neg hsource).symm.trans haddress
      constructor
      · intro hsame
        have hset : (client.setStoredAddress (careOf recipient address)).storedAddress
            = some (careOf recipient address) := storedAddress_setStoredAddress hsource
        rw [show client.setStoredAddress (careOf recipient address) = client from hsame, hstored] at hset
        exact absurd (Option.some.inj hset).symm (careOf_ne recipient address)
      · rintro (hnobody | hnone)
        · rw [hrecipient] at hnobody
          cases hnobody
        · rw [hstored] at hnone
          cases hnone

end Addresses

/-- The parties of an application, with its key. -/
def Application.party (application : Application) : ℕ × Client × Provider :=
  (application.applicationId, application.client, application.provider)

def Store.parties (s : Store) : List (ℕ × Client × Provider) := s.applications.map Application.party

section Parties

variable {s : Store} {applicationId : ℕ} {f : Application → Application}

theorem parties_updateApplication :
    (s.updateApplication applicationId f).parties = s.parties ↔
      ∀ a ∈ s.applications, a.applicationId = applicationId → (f a).party = a.party := by
  simp only [Store.parties, Store.updateApplication, List.map_map, List.map_inj_left,
    Function.comp_apply]
  constructor
  · intro h a ha hid
    have hsame := h a ha
    rw [if_pos hid] at hsame
    exact hsame
  · intro h a ha
    split
    · next hid => exact h a ha hid
    · rfl

theorem party_unique {a b : Application} (hkeys : (s.applications.map (·.applicationId)).Nodup)
    {s' : Store} (hsame : s'.parties = s.parties) (ha : a ∈ s.applications)
    (hb : b ∈ s'.applications) (hid : b.applicationId = a.applicationId) : b.party = a.party := by
  have hmem : b.party ∈ s.parties := hsame ▸ List.mem_map_of_mem hb
  obtain ⟨c, hc, hparty⟩ := List.mem_map.mp hmem
  have hcid : c.applicationId = a.applicationId := (congrArg Prod.fst hparty).trans hid
  have heq : c = a := List.inj_on_of_nodup_map hkeys hc ha hcid
  rw [← hparty, heq]

/-- A write of the client keeps the parties where it writes the client that is there. -/
theorem parties_setClient {s' : Store} {application : Application} {client : Client}
    (hkeys : (s.applications.map (·.applicationId)).Nodup) (hsame : s'.parties = s.parties)
    (hmem : application ∈ s.applications) :
    (s'.updateApplication application.applicationId fun a => { a with client := client }).parties
        = s.parties ↔ client = application.client := by
  rw [← hsame, parties_updateApplication]
  constructor
  · intro h
    have hparty : application.party ∈ s'.parties := hsame ▸ List.mem_map_of_mem hmem
    obtain ⟨b, hb, hbparty⟩ := List.mem_map.mp hparty
    have hset := h b hb (congrArg (·.1) hbparty)
    exact (congrArg (·.2.1) hset).trans (congrArg (·.2.1) hbparty)
  · rintro rfl a ha hid
    have hparty := party_unique hkeys hsame hmem ha hid
    exact congrArg (fun client => (a.applicationId, client, a.provider)) (congrArg (·.2.1) hparty).symm

end Parties

section Requests

variable {env : Env} {faults : Faults} {laaReference : String} {db : Store}
variable {application : Application} {t : Txn Store Notification} {u : Unit}

theorem findDecidedApplication_mem (h : findDecidedApplication laaReference db = .ok application) :
    application ∈ db.applications := by
  unfold findDecidedApplication at h
  cases hfound : db.getApplicationByLaaReference laaReference with
  | none =>
      rw [hfound] at h
      cases h
  | some a =>
      rw [hfound] at h
      cases h
      exact List.mem_of_find?_eq_some hfound

theorem retrieve_committed :
    (endState (RetrieveCertificateUseCase.execute env faults laaReference (.start db))).committed
      = db := by
  unfold RetrieveCertificateUseCase.execute
  cases hfound : findDecidedApplication laaReference db with
  | error e =>
      rw [getApplication_bind_of_error hfound]
      rfl
  | ok application =>
      rw [getApplication_bind_of_ok hfound]
      by_cases hgranted : application.overallDecision ≠ .granted
      · rw [if_pos hgranted]
        rfl
      · rw [if_neg hgranted]
        exact Uow.transact_committed

theorem committing_parties {body : Transaction Unit} {fault : Option ApiError}
    (h : ∀ u t, body ⟨db, []⟩ = .ok u t → t.store.parties = db.parties) :
    (db.committing body fault).parties = db.parties := by
  cases fault with
  | some e => rfl
  | none =>
      cases hbody : body ⟨db, []⟩ with
      | error e t => rw [committing_of_error hbody]
      | ok u t =>
          rw [committing_of_ok hbody]
          exact h u t hbody

/-- A decision writes the proceeding of its application, and none of its parties. -/
theorem recordDecision_parties {proceeding : ApplicationProceeding}
    {eventData : List (String × Json)} {t' : Txn Store Notification}
    (h : recordDecision env faults application proceeding eventData t = .ok u t') :
    t'.store.parties = t.store.parties := by
  obtain ⟨actor, -, -, -, rfl⟩ := recordDecision_ok.mp h
  exact parties_updateApplication.mpr fun _ _ _ => rfl

theorem refuse_parties {request : RefuseApplicationUpdate} :
    (endState (RefuseDecisionUseCase.execute env faults laaReference request
      (.start db))).committed.parties = db.parties := by
  have hbody : ∀ application u t,
      RefuseDecisionUseCase.refuseBody env faults request application ⟨db, []⟩ = .ok u t →
        t.store.parties = db.parties := by
    intro application u t h
    unfold RefuseDecisionUseCase.refuseBody at h
    obtain ⟨_, t₁, hrecord, hsend⟩ := bind_ok.mp h
    simp only [RefuseDecisionUseCase.sendRefusal, bind_ok, Tx.send_ok, createHistoryEvent_ok] at hsend
    obtain ⟨_, _, ⟨-, rfl⟩, _, -, -, rfl⟩ := hsend
    exact recordDecision_parties hrecord
  rw [RefuseDecisionUseCase.execute_committed]
  cases hfound : findDecidedApplication laaReference db with
  | error e => rfl
  | ok application => exact committing_parties (hbody application)

open GrantDecisionUseCase in
theorem grantBody_parties {request : GrantApplicationUpdate}
    (hkeys : (db.applications.map (·.applicationId)).Nodup) (hmem : application ∈ db.applications)
    (h : grantBody env faults request application ⟨db, []⟩ = .ok u t) :
    t.store.parties = db.parties ↔ application.client.LettersApart := by
  obtain ⟨-, addressed, haddressed, happlications⟩ := grantBody_ok h
  let recorded : Store := db.updateApplication application.applicationId fun a =>
    { a with proceeding := grantedProceeding env request application.proceeding }
  have hrecorded : recorded.parties = db.parties := parties_updateApplication.mpr fun _ _ _ => rfl
  have hstore : t.store.parties = (recorded.updateApplication application.applicationId fun a =>
      { a with client := addressed.2 }).parties :=
    congrArg (List.map Application.party) happlications
  rw [hstore, ← clientAddress_keeps haddressed]
  exact parties_setClient hkeys hrecorded hmem

end Requests

namespace DecisionSubmission

variable {r : DecisionSubmission} {db : Store}

/-- One request keeps the parties of every application exactly where it keeps the rows. -/
theorem keepsRows_iff (hkeys : (db.applications.map (·.applicationId)).Nodup) :
    r.KeepsRows db ↔ (r.after db).parties = db.parties := by
  obtain ⟨request, laaReference, env, faults⟩ := r
  cases request with
  | refuse request => exact ⟨fun _ => refuse_parties, fun _ => trivial⟩
  | retrieve => exact ⟨fun _ => congrArg Store.parties retrieve_committed, fun _ => trivial⟩
  | grant request =>
      simp only [KeepsRows, after, GrantDecisionUseCase.execute_committed]
      cases hfound : findDecidedApplication laaReference db with
      | error e => exact ⟨fun _ => rfl, fun _ _ h => (nomatch h)⟩
      | ok application =>
          have hmem := findDecidedApplication_mem hfound
          simp only [Except.ok.injEq, forall_eq']
          cases hfault : faults (.commit .decision) with
          | some fault =>
              have hcommit : commitFault faults .decision = some (.portFailure (.commit .decision)) := by
                rw [commitFault, hfault]
                rfl
              rw [hcommit]
              exact ⟨fun _ => rfl, fun _ _ h => (nomatch h)⟩
          | none =>
              have hcommit : commitFault faults .decision = none := by
                rw [commitFault, hfault]
                rfl
              rw [hcommit]
              cases hbody : GrantDecisionUseCase.grantBody env faults request application ⟨db, []⟩ with
              | error e t =>
                  rw [committing_of_error hbody]
                  refine ⟨fun _ => rfl, fun _ hgoes => ?_⟩
                  obtain ⟨u, t', hok⟩ : ∃ u t', GrantDecisionUseCase.grantBody env faults request
                      application ⟨db, []⟩ = .ok u t' := GrantDecisionUseCase.grantBody_goes hgoes
                  cases hbody.symm.trans hok
              | ok u t =>
                  have hgoes := (GrantDecisionUseCase.grantBody_ok hbody).1
                  rw [committing_of_ok hbody, grantBody_parties hkeys hmem hbody]
                  exact ⟨fun h => h hgoes rfl, fun h _ _ => h⟩

end DecisionSubmission

section Runs

variable {init s : Store}

theorem applicationKeys_of_parties (hkeys : (init.applications.map (·.applicationId)).Nodup)
    (hsame : s.parties = init.parties) : (s.applications.map (·.applicationId)).Nodup := by
  have hids : ∀ store : Store, store.parties.map (·.1) = store.applications.map (·.applicationId) := by
    intro store
    simp only [Store.parties, List.map_map]
    rfl
  rw [← hids, hsame, hids]
  exact hkeys

theorem DecisionRun.parties (hkeys : (init.applications.map (·.applicationId)).Nodup)
    (h : DecisionRun DecisionSubmission.KeepsRows init s) : s.parties = init.parties := by
  induction h with
  | start => rfl
  | request r _ hr ih =>
      have hkept := (DecisionSubmission.keepsRows_iff (applicationKeys_of_parties hkeys ih)).mp hr
      exact hkept.trans ih

/-- An application whose client has the addresses it had before, and whose certificates
show the client's address that they showed before. -/
structure KeepsAddresses (before after : Application) : Prop where
  application : after.applicationId = before.applicationId
  homeAddress : after.client.homeAddress = before.client.homeAddress
  correspondenceAddress : after.client.correspondenceAddress = before.client.correspondenceAddress
  certificate : ∀ env faults t context t' env' faults' t₁ context' t₁',
    env'.officeAddress = env.officeAddress →
      populateCertificateContext env faults before t = .ok context t' →
        populateCertificateContext env' faults' after t₁ = .ok context' t₁' →
          context'.clientAddress = context.clientAddress

theorem keepsAddresses_of_party {before after : Application} (h : after.party = before.party) :
    KeepsAddresses before after := by
  have hclient : after.client = before.client := congrArg (·.2.1) h
  have hprovider : after.provider = before.provider := congrArg (·.2.2) h
  refine ⟨congrArg (·.1) h, ?_, ?_, ?_⟩
  · rw [hclient]
  · rw [hclient]
  · intro env faults t context t' env' faults' t₁ context' t₁' hoffice hbefore hafter
    obtain ⟨-, -, addressed, haddressed, hcertificate, -⟩ := populateCertificateContext_ok.mp hbefore
    obtain ⟨-, -, addressed', haddressed', hcertificate', -⟩ := populateCertificateContext_ok.mp hafter
    rw [hclient, hprovider, hoffice, haddressed] at haddressed'
    cases haddressed'
    rw [certificate_address hcertificate, certificate_address hcertificate']

/-- Where every grant that goes through leaves the rows of its client alone, no sequence of
grants, refusals and retrievals changes an address or what certificates show. -/
theorem certificates_keep_addresses (hkeys : (init.applications.map (·.applicationId)).Nodup)
    (hrun : DecisionRun DecisionSubmission.KeepsRows init s) :
    List.Forall₂ KeepsAddresses init.applications s.applications := by
  have hparties : s.parties = init.parties := hrun.parties hkeys
  have hsame : List.Forall₂ Eq init.parties s.parties := by
    rw [List.forall₂_eq_eq_eq]
    exact hparties.symm
  have hpairs := List.forall₂_map_right_iff.mp (List.forall₂_map_left_iff.mp hsame)
  exact hpairs.imp fun _ _ h => keepsAddresses_of_party h.symm

end Runs

namespace Sample

/-- The application as it was created, of the given client. -/
def submittedApplication (client : Client) : Application :=
  { application with
    client := client
    proceeding := ⟨.submitted, none, none, proceeding, none, none, none, none⟩ }

/-- A client whose letters go home, to somebody else. -/
def careOfClient : Client :=
  { application.client with
    correspondenceRecipientType := some .person
    correspondenceRecipientName := some "Sam Smith" }

def decision (request : DecisionRequest) : DecisionSubmission :=
  ⟨request, "INQ-AAA-AAA", env, noFaults⟩

end Sample

/-- A grant and a retrieval for a client who has the letters sent home. -/
theorem certificates_keep_addresses_grantThenRetrieve :
    let init : Store := .initial [Sample.submittedApplication Sample.application.client] [] []
    List.Forall₂ KeepsAddresses init.applications
      ((Sample.decision .retrieve).after
        ((Sample.decision (.grant ⟨Sample.date⟩)).after init)).applications := by
  intro init
  have hkeeps : (Sample.decision (.grant ⟨Sample.date⟩)).KeepsRows init := by
    intro application hfound _ _
    cases hfound
    exact .inl rfl
  exact certificates_keep_addresses (by decide)
    (.request (Sample.decision .retrieve) (.request _ .start hkeeps) trivial)

/-- A single grant writes the recipient's name into the home address. -/
theorem certificate_rewrites_home_address :
    ¬ ∀ s, DecisionRun (fun _ _ => True)
        (.initial [Sample.submittedApplication Sample.careOfClient] [] []) s →
      List.Forall₂ KeepsAddresses [Sample.submittedApplication Sample.careOfClient] s.applications := by
  intro h
  have hgranted : ((Sample.decision (.grant ⟨Sample.date⟩)).after
      (.initial [Sample.submittedApplication Sample.careOfClient] [] [])).applications.map
        (fun a => a.client.homeAddress.map (·.addressLine1)) = [some "c/o Sam Smith 2 Low Road"] := by
    decide +kernel
  have hkept := h _ (.request (Sample.decision (.grant ⟨Sample.date⟩)) .start trivial)
  obtain ⟨a, ha, hline⟩ := List.map_eq_singleton_iff.mp hgranted
  rw [ha] at hkept
  have hhome := (List.forall₂_cons.mp hkept).1.homeAddress
  rw [hhome] at hline
  revert hline
  decide

end InquestsApi
