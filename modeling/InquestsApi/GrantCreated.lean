import InquestsApi.ApplicationTransactions

/-! Granting an application that was created through the API: it goes through exactly when
the address that the letters go to was given and the caseworker has a name. -/
namespace InquestsApi

open UnitOfWork HistoryEventRepository ApplicationRepository

section References

/-- Text that a lookup spells as it is: upper case, with nothing to strip. -/
theorem normaliseReference_of_plain {text : String}
    (h : ∀ c ∈ text.toList, isStripped c = false ∧ upperChar c = [c]) :
    normaliseReference text = text := by
  have hkept : ∀ chars : List Char, (∀ c ∈ chars, isStripped c = false) →
      chars.dropWhile isStripped = chars := by
    intro chars hchars
    cases chars with
    | nil => rfl
    | cons c rest =>
        rw [List.dropWhile_cons_of_neg]
        rw [hchars c List.mem_cons_self]
        exact Bool.false_ne_true
  have hupper : ∀ chars : List Char, (∀ c ∈ chars, upperChar c = [c]) →
      chars.flatMap upperChar = chars := by
    intro chars hchars
    induction chars with
    | nil => rfl
    | cons c rest ih =>
        rw [List.flatMap_cons, hchars c List.mem_cons_self,
          ih fun d hd => hchars d (List.mem_cons_of_mem _ hd)]
        rfl
  unfold normaliseReference
  rw [hkept _ fun c hc => (h c hc).1, hkept _ fun c hc => (h c (List.mem_reverse.mp hc)).1,
    List.reverse_reverse]
  change String.ofList (text.toList.flatMap upperChar) = text
  rw [hupper _ fun c hc => (h c hc).2, String.ofList_toList]

theorem normaliseReference_generateLaaReference (draw : ReferenceDraw 3) :
    normaliseReference (generateLaaReference draw) = generateLaaReference draw := by
  let plain : Char → Bool := fun c => isStripped c = false ∧ upperChar c = [c]
  have hallowed : ∀ c ∈ allowedCharacters, isStripped c = false ∧ upperChar c = [c] := by
    have hall : allowedCharacters.all plain = true := by decide
    exact fun c hc => of_decide_eq_true (List.all_eq_true.mp hall c hc)
  have hstem : ∀ c ∈ "INQ-".toList ++ "-".toList, isStripped c = false ∧ upperChar c = [c] := by
    have hall : ("INQ-".toList ++ "-".toList).all plain = true := by decide
    exact fun c hc => of_decide_eq_true (List.all_eq_true.mp hall c hc)
  apply normaliseReference_of_plain
  intro c hc
  simp only [generateLaaReference, ReferenceDraw.render, String.toList_append, String.toList_ofList,
    List.mem_append, List.mem_map] at hc
  rcases hc with ((hc | ⟨d, -, rfl⟩) | hc) | ⟨d, -, rfl⟩
  · exact hstem c (List.mem_append_left _ hc)
  · exact hallowed d.val d.property
  · exact hstem c (List.mem_append_right _ hc)
  · exact hallowed d.val d.property

end References

section Created

variable {env : Env} {faults : Faults} {request : ApplicationCreate} {firmCode : String}
variable {t t' : Txn Store Notification} {application : Application}

/-- A created application is found under its reference. -/
theorem createApplication_found
    (h : createApplication env faults request firmCode t = .ok application t') :
    findDecidedApplication application.laaReference t'.store = .ok application := by
  obtain ⟨publicBodies, source, laaReference, -, -, hreference, -, rfl, rfl⟩ :=
    createApplication_ok.mp h
  obtain ⟨⟨draw, rfl⟩, hnew⟩ := getLaaReference_ok hreference
  unfold findDecidedApplication Store.getApplicationByLaaReference
  simp only [applicationRow, normaliseReference_generateLaaReference, List.find?_append]
  rw [List.find?_eq_none.mpr fun a ha heq => hnew a ha (of_decide_eq_true heq)]
  simp

end Created

/-- The body gives the address that it chooses: only the provider's need not be given. -/
def ClientCreate.GivesChosenAddress (client : ClientCreate) : Prop :=
  match AddressSource.ofValue client.correspondenceAddressSource with
  | some .useProviderAddress => True
  | some .useSpecifiedAddress => client.correspondenceAddress.isSome
  | some .useClientHomeAddress => client.hasNoFixedAbode = false
  | none => False

theorem chosenAddress_clientRow {client : ClientCreate} {source : AddressSource}
    (hsource : AddressSource.ofValue client.correspondenceAddressSource = some source)
    (officeAddress : Address) :
    ((clientRow client source).chosenAddress officeAddress).isSome ↔ client.GivesChosenAddress := by
  unfold ClientCreate.GivesChosenAddress
  rw [hsource]
  cases source with
  | useProviderAddress => exact ⟨fun _ => trivial, fun _ => rfl⟩
  | useSpecifiedAddress =>
      simp [Client.chosenAddress, Client.storedAddress, clientRow]
  | useClientHomeAddress =>
      simp [Client.chosenAddress, Client.storedAddress, clientRow, client.fixedAbode]

theorem certificateColumns_applicationRow {request : ApplicationCreate} {firmCode : String}
    {publicBodies : List PublicBodyId} {source : AddressSource} {laaReference : String}
    {createdAt : Datetime} {id : ℕ} :
    CertificateColumns
      (applicationRow request firmCode publicBodies source laaReference createdAt id) := by
  constructor <;> rfl

theorem commitFault_noFaults (stage : Stage) : commitFault noFaults stage = none := rfl

/-- When nothing outside fails, granting a created application succeeds exactly where the
body gave the address it chose and the caseworker has a name. -/
theorem grant_completes_iff {created env : Env} {faults : Faults} {request : ApplicationCreate}
    {firmCode : String} {t t' : Txn Store Notification} {application : Application} {db : Store}
    (update : GrantApplicationUpdate)
    (hcreated : createApplication created faults request firmCode t = .ok application t')
    (hfound : findDecidedApplication application.laaReference db = .ok application) :
    (∃ u s, GrantDecisionUseCase.execute env noFaults application.laaReference update (.start db)
        = .ok u s) ↔
      request.client.GivesChosenAddress ∧ ∃ name, env.user.name = some name ∧ isBlank name = false := by
  obtain ⟨publicBodies, source, laaReference, -, hsource, -, -, rfl, -⟩ :=
    createApplication_ok.mp hcreated
  rw [GrantDecisionUseCase.execute_goes]
  constructor
  · rintro ⟨granted, hgranted, -, -, hgoes⟩
    cases hfound.symm.trans hgranted
    exact ⟨(chosenAddress_clientRow hsource _).mp hgoes.address, requireActor_goes.mp hgoes.caseworker⟩
  · rintro ⟨haddress, hnamed⟩
    refine ⟨_, hfound, commitFault_noFaults _, commitFault_noFaults _, ?_⟩
    exact
      { calls := fun _ _ => rfl
        caseworker := requireActor_goes.mpr hnamed
        columns := certificateColumns_applicationRow
        address := (chosenAddress_clientRow hsource _).mpr haddress }

namespace Sample

def deceased : DeceasedCreate :=
  ⟨⟨"John", "Smith", "1950-01-01", "2024-01-01", "REF-1"⟩, by decide +kernel, by decide +kernel⟩

def created (client : ClientCreate) : ApplicationCreate where
  client := client
  deceased := deceased
  publicBodies := ["Home Office"]
  proceedingId := .iq014
  provider := ⟨"O1", "provider@example.com"⟩

theorem birthDate : (Date.fromIsoformat "1970-01-01").isSome = true := by decide +kernel

/-- A client whose letters go to the provider. -/
def providerClient : ClientCreate :=
  ⟨⟨"Jane", "Smith", "1970-01-01", "USE_PROVIDER_ADDRESS", none, none, true, none⟩, birthDate, rfl⟩

/-- A client of no fixed abode whose letters are to go home. -/
def homelessClient : ClientCreate :=
  ⟨⟨"Jane", "Smith", "1970-01-01", "USE_CLIENT_HOME_ADDRESS", none, none, true, none⟩, birthDate, rfl⟩

end Sample

theorem grant_completes_iff_providerAddress :
    ∃ application t',
      createApplication Sample.env noFaults (Sample.created Sample.providerClient) "F1"
          ⟨.initial [] [] [], []⟩ = .ok application t'
        ∧ ∃ u s, GrantDecisionUseCase.execute Sample.env noFaults application.laaReference
            ⟨Sample.date⟩ (.start t'.store) = .ok u s := by
  have hcreates : endsOk (createApplication Sample.env noFaults (Sample.created Sample.providerClient)
      "F1" ⟨.initial [] [] [], []⟩) (fun _ _ => true) = true := by decide +kernel
  obtain ⟨application, t', hcreated, -⟩ := exists_of_endsOk hcreates
  refine ⟨application, t', hcreated, ?_⟩
  exact (grant_completes_iff ⟨Sample.date⟩ hcreated (createApplication_found hcreated)).mpr
    ⟨trivial, "Case Worker", rfl, by decide⟩

/-- The body passes its validators and is stored, and granting it fails. -/
theorem grant_fails_without_home_address :
    ∃ application t',
      createApplication Sample.env noFaults (Sample.created Sample.homelessClient) "F1"
          ⟨.initial [] [] [], []⟩ = .ok application t'
        ∧ ¬ ∃ u s, GrantDecisionUseCase.execute Sample.env noFaults application.laaReference
            ⟨Sample.date⟩ (.start t'.store) = .ok u s := by
  have hcreates : endsOk (createApplication Sample.env noFaults (Sample.created Sample.homelessClient)
      "F1" ⟨.initial [] [] [], []⟩) (fun application t' =>
        endsError (GrantDecisionUseCase.execute Sample.env noFaults application.laaReference
          ⟨Sample.date⟩ (.start t'.store)) fun _ _ => true) = true := by decide +kernel
  obtain ⟨application, t', hcreated, hfails⟩ := exists_of_endsOk hcreates
  obtain ⟨e, s, herror, -⟩ := exists_of_endsError hfails
  refine ⟨application, t', hcreated, ?_⟩
  rintro ⟨u, s', hok⟩
  cases herror.symm.trans hok

end InquestsApi
