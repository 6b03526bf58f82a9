import InquestsApi.DocumentContents
import InquestsApi.Lib.Keyed
import InquestsApi.RequestBodies

/-! Runs of requests about documents: what there is of documents goes back to uploads, and what an upload
leaves stays until a request to delete it. -/
namespace InquestsApi

open UnitOfWork

/-- What a row says of a document: its file, and what the file was called. -/
abbrev DocumentNames := Uuid → Option (String × String)

def CoronersLetter.names (letter : CoronersLetter) : String × String :=
  (letter.sdsFileName, letter.fileName)

def ClaimEvidence.names (evidence : ClaimEvidence) : String × String :=
  (evidence.sdsFileName, evidence.fileName)

def LetterTables.documentNames (s : LetterTables) : DocumentNames :=
  fun id => (s.getCoronersLetterById id).map (·.names)

def Store.documentNames (s : Store) : DocumentNames :=
  fun id => (s.getClaimEvidenceById id).map (·.names)

def DocumentWorld.documentNames (w : DocumentWorld) : DocumentKind → DocumentNames
  | .coronersLetter => w.letters.documentNames
  | .claimEvidence => w.store.documentNames

/-- How a table of documents changes what its rows say. -/
structure DocumentTable.Names {σ : Type} (table : DocumentTable σ) (names : σ → DocumentNames) : Prop where
  sdsFileName : ∀ s id, table.sdsFileName s id = (names s id).map Prod.fst
  insert : ∀ {s s' id document}, table.insert s id document = .ok s' → names s id = none
    ∧ names s' = Function.update (names s) id (some (document.sdsFileName, document.fileName))
  delete : ∀ {s s' id}, table.delete s id = .ok s' → names s' = Function.update (names s) id none

section Tables

theorem LetterTables.documentNames_eq (s : LetterTables) :
    s.documentNames = Keyed.view CoronersLetter.names CoronersLetter.coronersLetterId s.coronersLetters :=
  rfl

theorem Store.documentNames_eq (s : Store) :
    s.documentNames = Keyed.view ClaimEvidence.names ClaimEvidence.claimEvidenceId s.claimEvidence := rfl

theorem coronersLetterTable_names : coronersLetterTable.Names LetterTables.documentNames where
  sdsFileName := by
    intro s id
    unfold LetterTables.documentNames
    rw [Option.map_map]
    rfl
  insert := by
    intro s s' id document h
    change s.saveUploadedCoronersLetter id document = .ok s' at h
    unfold LetterTables.saveUploadedCoronersLetter at h
    by_cases hany : s.coronersLetters.any (·.coronersLetterId = id) = true
    · rw [if_pos hany] at h
      cases h
    · rw [if_neg hany] at h
      obtain rfl := Except.ok.inj h
      let row : CoronersLetter := ⟨id, document.sdsFileName, document.fileName⟩
      have hnone : Keyed.lookup CoronersLetter.coronersLetterId s.coronersLetters row.coronersLetterId
          = none :=
        Keyed.lookup_eq_none_iff.mpr (Bool.eq_false_iff.mpr hany)
      exact ⟨congrArg (Option.map _) hnone, Keyed.view_append CoronersLetter.names hnone⟩
  delete := by
    intro s s' id h
    obtain ⟨-, rfl⟩ := deleteCoronersLetterById_ok.mp h
    exact Keyed.view_filter CoronersLetter.names id

theorem claimEvidenceTable_names : claimEvidenceTable.Names Store.documentNames where
  sdsFileName := by
    intro s id
    unfold Store.documentNames
    rw [Option.map_map]
    rfl
  insert := by
    intro s s' id document h
    change s.saveUploadedClaimEvidence id document = .ok s' at h
    unfold Store.saveUploadedClaimEvidence at h
    by_cases hany : s.claimEvidence.any (·.claimEvidenceId = id) = true
    · rw [if_pos hany] at h
      cases h
    · rw [if_neg hany] at h
      obtain rfl := Except.ok.inj h
      let row : ClaimEvidence := ⟨id, document.sdsFileName, document.fileName, some document.fileSize, none⟩
      have hnone : Keyed.lookup ClaimEvidence.claimEvidenceId s.claimEvidence row.claimEvidenceId = none :=
        Keyed.lookup_eq_none_iff.mpr (Bool.eq_false_iff.mpr hany)
      exact ⟨congrArg (Option.map _) hnone, Keyed.view_append ClaimEvidence.names hnone⟩
  delete := by
    intro s s' id h
    obtain rfl := Except.ok.inj h
    exact Keyed.view_filter ClaimEvidence.names id

end Tables

section Ends

variable {σ : Type} {table : DocumentTable σ} {names : σ → DocumentNames} {db : σ} {t : Txn σ SdsEffect}

/-- How an upload ends: nothing is saved unless the service finds the bytes safe, and the row comes last. -/
inductive UploadEnds (table : DocumentTable σ) (r : DocumentUpload) (db : σ) (t : Txn σ SdsEffect) : Prop
  | refused (hstore : t.store = db) (houtbox : t.outbox = [])
  | unrecorded (hsafe : r.virusCheck = some 200) (hstore : t.store = db)
      (houtbox : t.outbox = [.saved r.reply.uniqueFileName])
  | recorded (hsafe : r.virusCheck = some 200)
      (hinsert : table.insert db r.documentId ⟨r.reply.uniqueFileName, r.fileName, r.fileSize⟩
        = .ok t.store)
      (houtbox : t.outbox = [.saved r.reply.uniqueFileName])

theorem virusCheck_true {kind : DocumentKind} {status : Option ℕ} :
    SdsAdapter.virusCheck kind status = .ok true ↔ status = some 200 := by
  unfold SdsAdapter.virusCheck
  split <;> simp_all

variable (table) in
/-- Bytes that are not found safe go no further. -/
theorem uploadDocument_unsafe {r : DocumentUpload} (h : r.virusCheck ≠ some 200)
    {s : Session σ SdsEffect Unit} : ∃ e, uploadDocument table r s = .error e s := by
  unfold uploadDocument
  cases hcheck : SdsAdapter.virusCheck table.kind r.virusCheck with
  | error e => exact ⟨_, rfl⟩
  | ok isSafe =>
      cases isSafe with
      | false => exact ⟨_, rfl⟩
      | true => exact absurd (virusCheck_true.mp hcheck) h

variable (table) in
theorem uploadDocument_ends (r : DocumentUpload) (db : σ) :
    UploadEnds table r db (endState (uploadDocument table r (.start db))).view := by
  by_cases hsafe : r.virusCheck = some 200
  · have hends := uploadDocument_ensures table r db (.start db) (Session.start_clean db) rfl
    cases hresult : uploadDocument table r (.start db) with
    | ok id s' =>
        obtain ⟨-, hinsert, houtbox⟩ := hends.1 id s' hresult
        exact .recorded hsafe hinsert houtbox
    | error e s' =>
        obtain ⟨hstore, hnone | hsaved⟩ := hends.2 e s' hresult
        · exact .refused hstore hnone
        · exact .unrecorded hsafe hstore hsaved
  · obtain ⟨e, hresult⟩ := uploadDocument_unsafe table hsafe (s := .start db)
    rw [hresult]
    exact .refused rfl rfl

/-- How a deletion ends: the file of its row is taken away at most, and the row at most. -/
structure DeletionEnds (table : DocumentTable σ) (id : Uuid) (db : σ) (t : Txn σ SdsEffect) : Prop where
  row : t.store = db ∨ table.delete db id = .ok t.store
  file : t.outbox = [] ∨ ∃ fileName, table.sdsFileName db id = some fileName
    ∧ t.outbox = [.removed fileName]

theorem removal_cases (fileName : String) (reply : SdsAdapter.DeleteReply) :
    SdsAdapter.removal fileName reply = [] ∨ SdsAdapter.removal fileName reply = [.removed fileName] := by
  unfold SdsAdapter.removal
  by_cases h : ¬ isBlank fileName ∧ reply.removed
  · exact .inr (if_pos h)
  · exact .inl (if_neg h)

variable (table) in
theorem deleteDocument_ends (r : DocumentDeletion) (db : σ) :
    DeletionEnds table r.documentId db (endState (deleteDocument table r (.start db))).view := by
  have hends := deleteDocument_ensures table r db (.start db) (Session.start_clean db) rfl
  have hfile : ∀ {fileName : String} {outbox : List SdsEffect},
      table.sdsFileName db r.documentId = some fileName → outbox = SdsAdapter.removal fileName r.reply →
        outbox = [] ∨ ∃ fileName, table.sdsFileName db r.documentId = some fileName
          ∧ outbox = [.removed fileName] := by
    rintro fileName _ hrow rfl
    exact (removal_cases fileName r.reply).imp_right fun hremoved => ⟨fileName, hrow, hremoved⟩
  cases hresult : deleteDocument table r (.start db) with
  | ok u s' =>
      obtain ⟨-, fileName, -, hrow, -, hdelete, houtbox⟩ := hends.1 u s' hresult
      exact ⟨.inr hdelete, hfile hrow houtbox⟩
  | error e s' =>
      rcases hends.2 e s' hresult with ⟨hview, -⟩ | ⟨fileName, -, hrow, -, hview⟩
      · exact ⟨.inl (congrArg Txn.store hview), .inl (congrArg Txn.outbox hview)⟩
      · exact ⟨.inl (congrArg Txn.store hview), hfile hrow (congrArg Txn.outbox hview)⟩

end Ends

/-- What a run does about documents: uploads, requests to delete one, and applications that are created with
a letter. -/
inductive DocumentStep where
  | upload (u : ContentUpload)
  | delete (kind : DocumentKind) (documentId : Uuid)
  | create (applicationId : ℕ) (coronersLetterId : Uuid)

def DocumentStep.upload? : DocumentStep → Option ContentUpload
  | upload u => some u
  | delete _ _ => none
  | create _ _ => none

/-- The keys that the files of a run were named with. -/
def nameKeys (log : List DocumentStep) : List Uuid := (log.filterMap (·.upload?)).map (·.nameKey)

/-- The worlds between the requests of a run, and what it did about documents, newest first. An application
is stored with the id of its letter; other requests commit what they do to the cases. -/
inductive DocumentRun (isWordCharacter : Char → Bool) (init : DocumentWorld) :
    List DocumentStep → DocumentWorld → Prop
  | start : DocumentRun isWordCharacter init [] init
  | uploaded {log : List DocumentStep} {w : DocumentWorld} (u : ContentUpload)
      (h : DocumentRun isWordCharacter init log w) :
      DocumentRun isWordCharacter init (.upload u :: log) (w.uploaded isWordCharacter u)
  | deleted {log : List DocumentStep} {w : DocumentWorld} (kind : DocumentKind) (r : DocumentDeletion)
      (h : DocumentRun isWordCharacter init log w) :
      DocumentRun isWordCharacter init (.delete kind r.documentId :: log) (w.deleted kind r)
  | created {log : List DocumentStep} {w : DocumentWorld} {env : Env} {faults : Faults}
      {request : ApplicationCreate} {firmCode : String} {userOfficeCodes : List String} {s : Store}
      {letters : LetterTables} {application : Application} {coronersLetterId : Uuid}
      (h : DocumentRun isWordCharacter init log w)
      (hperforms : Performs env faults (.createApplication request firmCode userOfficeCodes) w.store s)
      (hstored : s.applications = w.store.applications ++ [application])
      (hsave : w.letters.saveApplication ⟨application.applicationId, some coronersLetterId⟩ = .ok letters) :
      DocumentRun isWordCharacter init (.create application.applicationId coronersLetterId :: log)
        { w with store := s, letters := letters }
  | performed {log : List DocumentStep} {w : DocumentWorld} {env : Env} {faults : Faults}
      {request : CaseRequest} {s : Store} (h : DocumentRun isWordCharacter init log w)
      (hother : ∀ body firmCode userOfficeCodes, request ≠ .createApplication body firmCode userOfficeCodes)
      (hperforms : Performs env faults request w.store s) :
      DocumentRun isWordCharacter init log { w with store := s }

/-- Nothing is stored yet. -/
def DocumentWorld.initial : DocumentWorld := ⟨⟨[], []⟩, .initial [] [] [], []⟩

/-- The row of a document as an upload writes it. -/
def ContentUpload.names (isWordCharacter : Char → Bool) (u : ContentUpload) : String × String :=
  (u.sdsFileName isWordCharacter, u.fileName)

/-- What there is of documents goes back to uploads that were found safe, and the letter of an application
to the request that created it. -/
structure Traced (isWordCharacter : Char → Bool) (log : List DocumentStep) (w : DocumentWorld) : Prop where
  rows : ∀ kind id names, w.documentNames kind id = some names → ∃ u, .upload u ∈ log
    ∧ u.virusCheck = some 200 ∧ u.kind = kind ∧ u.documentId = id ∧ u.names isWordCharacter = names
  files : ∀ file ∈ w.files, ∃ u, .upload u ∈ log ∧ u.virusCheck = some 200
    ∧ (u.sdsFileName isWordCharacter, u.content) = file
  applications : ∀ a ∈ w.letters.applications, ∀ id, a.coronersLetterId = some id →
    .create a.applicationId id ∈ log

section Runs

variable {isWordCharacter : Char → Bool} {init w w' : DocumentWorld} {log : List DocumentStep}
variable {u : ContentUpload} {kind : DocumentKind} {id : Uuid}

/-- What an upload does to the documents. -/
inductive Uploads (isWordCharacter : Char → Bool) (w : DocumentWorld) (u : ContentUpload)
    (w' : DocumentWorld) : Prop
  | refused (hnames : w'.documentNames = w.documentNames) (hfiles : w'.files = w.files)
  | unrecorded (hsafe : u.virusCheck = some 200) (hnames : w'.documentNames = w.documentNames)
      (hfiles : w'.files = (u.sdsFileName isWordCharacter, u.content) :: w.files)
  | recorded (hsafe : u.virusCheck = some 200) (hnew : w.documentNames u.kind u.documentId = none)
      (hnames : w'.documentNames = Function.update w.documentNames u.kind
        (Function.update (w.documentNames u.kind) u.documentId (some (u.names isWordCharacter))))
      (hfiles : w'.files = (u.sdsFileName isWordCharacter, u.content) :: w.files)

theorem documentNames_withLetters (content : Bytes) (t : Txn LetterTables SdsEffect) :
    (w.withLetters content t).documentNames
      = Function.update w.documentNames .coronersLetter t.store.documentNames := by
  funext kind
  cases kind <;> rfl

theorem documentNames_withStore (content : Bytes) (t : Txn Store SdsEffect) :
    (w.withStore content t).documentNames
      = Function.update w.documentNames .claimEvidence t.store.documentNames := by
  funext kind
  cases kind <;> rfl

section Tables

variable {σ : Type} {table : DocumentTable σ} {names : σ → DocumentNames} {db : σ} {t : Txn σ SdsEffect}

theorem Uploads.of_ends (htable : table.Names names) (hdb : names db = w.documentNames u.kind)
    (hnames : w'.documentNames = Function.update w.documentNames u.kind (names t.store))
    (hfiles : w'.files = t.outbox.foldr (SdsEffect.applyContent u.content) w.files)
    (h : UploadEnds table (u.upload isWordCharacter) db t) : Uploads isWordCharacter w u w' := by
  have hsame : t.store = db → w'.documentNames = w.documentNames := by
    intro hstore
    rw [hnames, hstore, hdb]
    exact Function.update_eq_self _ _
  cases h with
  | refused hstore houtbox =>
      rw [houtbox] at hfiles
      exact .refused (hsame hstore) hfiles
  | unrecorded hsafe hstore houtbox =>
      rw [houtbox] at hfiles
      exact .unrecorded hsafe (hsame hstore) hfiles
  | recorded hsafe hinsert houtbox =>
      obtain ⟨hnew, hadded⟩ := htable.insert hinsert
      rw [houtbox] at hfiles
      rw [hadded] at hnames
      rw [hdb] at hnew hnames
      exact .recorded hsafe hnew hnames hfiles

/-- What a deletion does to the documents. -/
structure Deletes (w : DocumentWorld) (kind : DocumentKind) (id : Uuid) (w' : DocumentWorld) : Prop where
  names : w'.documentNames = w.documentNames ∨ w'.documentNames
    = Function.update w.documentNames kind (Function.update (w.documentNames kind) id none)
  files : w'.files = w.files ∨ ∃ names, w.documentNames kind id = some names
    ∧ w'.files = w.files.filter (·.1 ≠ names.1)

theorem Deletes.of_ends (htable : table.Names names) (hdb : names db = w.documentNames kind)
    (hnames : w'.documentNames = Function.update w.documentNames kind (names t.store))
    (hfiles : w'.files = t.outbox.foldr (SdsEffect.applyContent []) w.files)
    (h : DeletionEnds table id db t) : Deletes w kind id w' := by
  constructor
  · rcases h.row with hstore | hdelete
    · left
      rw [hnames, hstore, hdb]
      exact Function.update_eq_self _ _
    · right
      rw [hnames, htable.delete hdelete, hdb]
  · rcases h.file with houtbox | ⟨fileName, hrow, houtbox⟩
    · left
      rw [hfiles, houtbox]
      rfl
    · right
      rw [htable.sdsFileName, hdb] at hrow
      obtain ⟨found, hfound, rfl⟩ := Option.map_eq_some_iff.mp hrow
      refine ⟨found, hfound, ?_⟩
      rw [hfiles, houtbox]
      rfl

end Tables

theorem uploads_uploaded (isWordCharacter : Char → Bool) (w : DocumentWorld) (u : ContentUpload) :
    Uploads isWordCharacter w u (w.uploaded isWordCharacter u) := by
  unfold DocumentWorld.uploaded
  cases hkind : u.kind with
  | coronersLetter =>
      refine .of_ends coronersLetterTable_names (hkind ▸ rfl) ?_ rfl (uploadDocument_ends _ _ w.letters)
      rw [hkind]
      exact documentNames_withLetters _ _
  | claimEvidence =>
      refine .of_ends claimEvidenceTable_names (hkind ▸ rfl) ?_ rfl (uploadDocument_ends _ _ w.store)
      rw [hkind]
      exact documentNames_withStore _ _

theorem deletes_deleted (w : DocumentWorld) (kind : DocumentKind) (r : DocumentDeletion) :
    Deletes w kind r.documentId (w.deleted kind r) := by
  cases kind with
  | coronersLetter =>
      exact .of_ends coronersLetterTable_names rfl (documentNames_withLetters _ _) rfl
        (deleteDocument_ends _ r w.letters)
  | claimEvidence =>
      exact .of_ends claimEvidenceTable_names rfl (documentNames_withStore _ _) rfl
        (deleteDocument_ends _ r w.store)

theorem ignoresApplications_claimEvidence : IgnoresApplications Store.claimEvidence where
  history := fun _ _ => rfl
  proceeding := fun _ _ _ => rfl
  client := fun _ _ _ => rfl
  publicBodies := fun _ _ _ => rfl
  applications := fun _ _ => rfl
  duplicates := fun _ _ => rfl

theorem ignoresDecisions_claimEvidence : IgnoresDecisions Store.claimEvidence where
  history := fun _ _ => rfl
  status := fun _ _ _ => rfl
  decisions := fun _ _ => rfl
  reasons := fun _ _ => rfl
  amounts := fun _ _ => rfl
  extracts := fun _ _ => rfl

/-- No request about cases renames a document: a claim that is submitted links its evidence, and no more. -/
theorem Performs.documentNames {env : Env} {faults : Faults} {request : CaseRequest} {s s' : Store}
    (h : Performs env faults request s s') : s'.documentNames = s.documentNames := by
  have hsame : ∀ {s s' : Store}, s'.claimEvidence = s.claimEvidence →
      s'.documentNames = s.documentNames := by
    intro s s' hevidence
    rw [Store.documentNames_eq, hevidence, ← Store.documentNames_eq]
  rcases h.keeps ignoresDecisions_claimEvidence ignoresApplications_claimEvidence.toIgnoresUpdates with
    hkept | hcreates | hsubmits
  · exact hsame hkept
  · cases hcreates with
    | body hbody =>
        exact hsame (createBody_keeps _ _ ignoresApplications_claimEvidence _ _ _ _ _ _ hbody)
  · cases hsubmits with
    | @body command _ claim _ _ _ hbody =>
        rw [Store.documentNames_eq, submitClaim_evidence hbody]
        refine Keyed.view_map ClaimEvidence.names ?_ ?_
        · intro evidence
          by_cases hlisted : evidence.claimEvidenceId ∈ command.claimEvidenceIds.getD []
          · simp [hlisted]
          · simp [hlisted]
        · intro evidence
          by_cases hlisted : evidence.claimEvidenceId ∈ command.claimEvidenceIds.getD []
          · simp [hlisted, ClaimEvidence.names]
          · simp [hlisted]

theorem saveApplication_ok {s s' : LetterTables} {application : ApplicationLetter}
    (h : s.saveApplication application = .ok s') :
    s' = { s with applications := s.applications ++ [application] } := by
  unfold LetterTables.saveApplication at h
  by_cases hfiled : ∀ id ∈ application.coronersLetterId,
      ∃ letter ∈ s.coronersLetters, letter.coronersLetterId = id
  · rw [if_pos hfiled] at h
    exact (Except.ok.inj h).symm
  · rw [if_neg hfiled] at h
    cases h

theorem documentNames_created {env : Env} {faults : Faults} {request : CaseRequest} {s : Store}
    {letters : LetterTables} {application : ApplicationLetter}
    (hperforms : Performs env faults request w.store s)
    (hsave : w.letters.saveApplication application = .ok letters) :
    ({ w with store := s, letters := letters } : DocumentWorld).documentNames = w.documentNames := by
  obtain rfl := saveApplication_ok hsave
  funext kind
  cases kind with
  | coronersLetter => rfl
  | claimEvidence => exact hperforms.documentNames

theorem documentNames_performed {env : Env} {faults : Faults} {request : CaseRequest} {s : Store}
    (h : Performs env faults request w.store s) :
    ({ w with store := s } : DocumentWorld).documentNames = w.documentNames := by
  funext kind
  cases kind with
  | coronersLetter => rfl
  | claimEvidence => exact h.documentNames

/-! ### The letters of applications -/

theorem saveUploadedCoronersLetter_applications {s s' : LetterTables} {id : Uuid}
    {document : UploadedDocument} (h : s.saveUploadedCoronersLetter id document = .ok s') :
    s'.applications = s.applications := by
  unfold LetterTables.saveUploadedCoronersLetter at h
  by_cases hany : s.coronersLetters.any (·.coronersLetterId = id) = true
  · rw [if_pos hany] at h
    cases h
  · rw [if_neg hany] at h
    obtain rfl := Except.ok.inj h
    rfl

theorem uploaded_applications (isWordCharacter : Char → Bool) (w : DocumentWorld) (u : ContentUpload) :
    (w.uploaded isWordCharacter u).letters.applications = w.letters.applications := by
  unfold DocumentWorld.uploaded
  cases u.kind with
  | coronersLetter =>
      have hends := uploadDocument_ends coronersLetterTable (u.upload isWordCharacter) w.letters
      cases hends with
      | refused hstore _ => exact congrArg LetterTables.applications hstore
      | unrecorded _ hstore _ => exact congrArg LetterTables.applications hstore
      | recorded _ hinsert _ => exact saveUploadedCoronersLetter_applications hinsert
  | claimEvidence => rfl

theorem deleted_applications (w : DocumentWorld) (kind : DocumentKind) (r : DocumentDeletion) :
    (w.deleted kind r).letters.applications = w.letters.applications := by
  unfold DocumentWorld.deleted
  cases kind with
  | coronersLetter =>
      rcases (deleteDocument_ends coronersLetterTable r w.letters).row with hstore | hdelete
      · exact congrArg LetterTables.applications hstore
      · obtain ⟨-, htables⟩ := deleteCoronersLetterById_ok.mp hdelete
        exact (congrArg LetterTables.applications htables).trans rfl
  | claimEvidence => rfl

/-! ### Where a document comes from -/

theorem Traced.cons (h : Traced isWordCharacter log w) (step : DocumentStep)
    (hnames : ∀ kind id names, w'.documentNames kind id = some names → w.documentNames kind id = some names)
    (hfiles : w'.files ⊆ w.files) (happlications : w'.letters.applications ⊆ w.letters.applications) :
    Traced isWordCharacter (step :: log) w' where
  rows := by
    intro kind id names hrow
    obtain ⟨u, hmem, hrest⟩ := h.rows kind id names (hnames kind id names hrow)
    exact ⟨u, List.mem_cons_of_mem _ hmem, hrest⟩
  files := by
    intro file hfile
    obtain ⟨u, hmem, hrest⟩ := h.files file (hfiles hfile)
    exact ⟨u, List.mem_cons_of_mem _ hmem, hrest⟩
  applications := fun a ha id hid => List.mem_cons_of_mem _ (h.applications a (happlications ha) id hid)

theorem Traced.uploads (h : Traced isWordCharacter log w) (hstep : Uploads isWordCharacter w u w')
    (happlications : w'.letters.applications = w.letters.applications) :
    Traced isWordCharacter (.upload u :: log) w' := by
  have happlication : ∀ a ∈ w'.letters.applications, ∀ id, a.coronersLetterId = some id →
      .create a.applicationId id ∈ DocumentStep.upload u :: log := by
    intro a ha id hid
    rw [happlications] at ha
    exact List.mem_cons_of_mem _ (h.applications a ha id hid)
  have hfile : u.virusCheck = some 200 → w'.files = (u.sdsFileName isWordCharacter, u.content) :: w.files →
      ∀ file ∈ w'.files, ∃ v, .upload v ∈ DocumentStep.upload u :: log ∧ v.virusCheck = some 200
        ∧ (v.sdsFileName isWordCharacter, v.content) = file := by
    intro hsafe hfiles file hfile
    rw [hfiles] at hfile
    rcases List.mem_cons.mp hfile with rfl | hold
    · exact ⟨u, List.mem_cons_self, hsafe, rfl⟩
    · obtain ⟨v, hmem, hrest⟩ := h.files file hold
      exact ⟨v, List.mem_cons_of_mem _ hmem, hrest⟩
  have hrow : ∀ kind id names, w.documentNames kind id = some names →
      ∃ v, .upload v ∈ DocumentStep.upload u :: log ∧ v.virusCheck = some 200 ∧ v.kind = kind
        ∧ v.documentId = id ∧ v.names isWordCharacter = names := by
    intro kind id names hold
    obtain ⟨v, hmem, hrest⟩ := h.rows kind id names hold
    exact ⟨v, List.mem_cons_of_mem _ hmem, hrest⟩
  cases hstep with
  | refused hnames hfiles =>
      refine h.cons _ (fun kind id names hold => ?_) (fun _ hfile => hfiles ▸ hfile)
        fun _ ha => happlications ▸ ha
      rw [← hnames]
      exact hold
  | unrecorded hsafe hnames hfiles =>
      refine ⟨fun kind id names hold => hrow kind id names ?_, hfile hsafe hfiles, happlication⟩
      rw [← hnames]
      exact hold
  | recorded hsafe _ hnames hfiles =>
      refine ⟨fun kind id names hold => ?_, hfile hsafe hfiles, happlication⟩
      rw [hnames] at hold
      by_cases hkind : kind = u.kind
      · subst hkind
        rw [Function.update_self] at hold
        by_cases hid : id = u.documentId
        · subst hid
          rw [Function.update_self] at hold
          exact ⟨u, List.mem_cons_self, hsafe, rfl, rfl, Option.some.inj hold⟩
        · rw [Function.update_of_ne hid] at hold
          exact hrow _ _ _ hold
      · rw [Function.update_of_ne hkind] at hold
        exact hrow _ _ _ hold

theorem Deletes.names_sub (h : Deletes w kind id w') {kind' : DocumentKind} {id' : Uuid}
    {names : String × String} (hrow : w'.documentNames kind' id' = some names) :
    w.documentNames kind' id' = some names := by
  rcases h.names with hsame | hgone
  · rw [← hsame]
    exact hrow
  · rw [hgone] at hrow
    by_cases hkind : kind' = kind
    · subst hkind
      rw [Function.update_self] at hrow
      by_cases hid : id' = id
      · subst hid
        simp at hrow
      · rwa [Function.update_of_ne hid] at hrow
    · rwa [Function.update_of_ne hkind] at hrow

theorem Deletes.files_sub (h : Deletes w kind id w') : w'.files ⊆ w.files := by
  rcases h.files with hsame | ⟨names, -, hfiles⟩
  · rw [hsame]
    exact List.Subset.refl _
  · rw [hfiles]
    exact List.filter_subset_self _

theorem Traced.created {env : Env} {faults : Faults} {request : CaseRequest} {s : Store}
    {letters : LetterTables} {applicationId : ℕ} {coronersLetterId : Uuid}
    (h : Traced isWordCharacter log w)
    (hperforms : Performs env faults request w.store s)
    (hsave : w.letters.saveApplication ⟨applicationId, some coronersLetterId⟩ = .ok letters) :
    Traced isWordCharacter (.create applicationId coronersLetterId :: log)
      { w with store := s, letters := letters } where
  rows := by
    rw [documentNames_created hperforms hsave]
    intro kind id names hrow
    obtain ⟨u, hmem, hrest⟩ := h.rows kind id names hrow
    exact ⟨u, List.mem_cons_of_mem _ hmem, hrest⟩
  files := by
    intro file hfile
    obtain ⟨u, hmem, hrest⟩ := h.files file hfile
    exact ⟨u, List.mem_cons_of_mem _ hmem, hrest⟩
  applications := by
    obtain rfl := saveApplication_ok hsave
    intro a ha id hid
    rcases List.mem_append.mp ha with hold | hnew
    · exact List.mem_cons_of_mem _ (h.applications a hold id hid)
    · rw [List.mem_singleton.mp hnew] at hid ⊢
      obtain rfl := Option.some.inj hid
      exact List.mem_cons_self

theorem Traced.initial : Traced isWordCharacter [] .initial where
  rows := by
    intro kind id names hrow
    cases kind <;> cases hrow
  files := fun _ hnone => absurd hnone List.not_mem_nil
  applications := fun _ hnone => absurd hnone List.not_mem_nil

theorem DocumentRun.traced (h : DocumentRun isWordCharacter .initial log w) :
    Traced isWordCharacter log w := by
  induction h with
  | start => exact .initial
  | @uploaded _ w u _ ih => exact ih.uploads (uploads_uploaded _ w u) (uploaded_applications _ w u)
  | @deleted _ w kind r _ ih =>
      have hdeletes := deletes_deleted w kind r
      refine ih.cons _ (fun _ _ _ hrow => hdeletes.names_sub hrow) hdeletes.files_sub fun _ ha => ?_
      rwa [deleted_applications] at ha
  | created _ hperforms _ hsave ih => exact ih.created hperforms hsave
  | performed _ _ hperforms ih =>
      exact ⟨documentNames_performed hperforms ▸ ih.rows, ih.files, ih.applications⟩

/-! ### One file for each name -/

theorem upload_mem (hu : .upload u ∈ log) : u ∈ log.filterMap (·.upload?) :=
  List.mem_filterMap.mpr ⟨_, hu, rfl⟩

/-- Uploads of a run that save to one name are one. -/
theorem eq_of_sdsFileName_eq {v : ContentUpload} (hword : isWordCharacter '.' = false)
    (hkeys : (nameKeys log).Nodup) (hu : .upload u ∈ log) (hv : .upload v ∈ log)
    (h : u.sdsFileName isWordCharacter = v.sdsFileName isWordCharacter) : u = v :=
  List.inj_on_of_nodup_map hkeys (upload_mem hu) (upload_mem hv) (SdsAdapter.uniqueFileName_inj hword h)

theorem Traced.content_eq (h : Traced isWordCharacter log w) (hword : isWordCharacter '.' = false)
    (hkeys : (nameKeys log).Nodup) (hu : .upload u ∈ log) {content : Bytes}
    (hfile : (u.sdsFileName isWordCharacter, content) ∈ w.files) : content = u.content := by
  obtain ⟨v, hv, -, hsame⟩ := h.files _ hfile
  obtain ⟨hname, rfl⟩ := Prod.mk.inj hsame
  rw [eq_of_sdsFileName_eq hword hkeys hu hv hname.symm]

/-! ### What an upload leaves -/

/-- The row and the file of an upload are there. -/
structure Kept (isWordCharacter : Char → Bool) (u : ContentUpload) (w : DocumentWorld) : Prop where
  row : w.documentNames u.kind u.documentId = some (u.names isWordCharacter)
  file : (u.sdsFileName isWordCharacter, u.content) ∈ w.files

theorem Kept.uploads {v : ContentUpload} (h : Kept isWordCharacter u w)
    (hstep : Uploads isWordCharacter w v w') : Kept isWordCharacter u w' := by
  cases hstep with
  | refused hnames hfiles =>
      constructor
      · rw [hnames]
        exact h.row
      · rw [hfiles]
        exact h.file
  | unrecorded _ hnames hfiles =>
      constructor
      · rw [hnames]
        exact h.row
      · rw [hfiles]
        exact List.mem_cons_of_mem _ h.file
  | recorded _ hnew hnames hfiles =>
      constructor
      · rw [hnames]
        by_cases hkind : u.kind = v.kind
        · rw [hkind, Function.update_self]
          have hid : u.documentId ≠ v.documentId := by
            intro hid
            rw [← hkind, ← hid, h.row] at hnew
            cases hnew
          rw [Function.update_of_ne hid, ← hkind]
          exact h.row
        · rw [Function.update_of_ne hkind]
          exact h.row
      · rw [hfiles]
        exact List.mem_cons_of_mem _ h.file

theorem Kept.deletes (h : Kept isWordCharacter u w) (hstep : Deletes w kind id w')
    (hother : kind = u.kind → id ≠ u.documentId)
    (hfile : ∀ names, w.documentNames kind id = some names → names.1 ≠ u.sdsFileName isWordCharacter) :
    Kept isWordCharacter u w' where
  row := by
    rcases hstep.names with hsame | hgone
    · rw [hsame]
      exact h.row
    · rw [hgone]
      by_cases hkind : u.kind = kind
      · rw [hkind, Function.update_self, Function.update_of_ne (hother hkind.symm).symm, ← hkind]
        exact h.row
      · rw [Function.update_of_ne hkind]
        exact h.row
  file := by
    rcases hstep.files with hsame | ⟨names, hrow, hfiles⟩
    · rw [hsame]
      exact h.file
    · rw [hfiles]
      exact List.mem_filter.mpr ⟨h.file, decide_eq_true (hfile names hrow).symm⟩

theorem DocumentRun.trans {later : List DocumentStep} (hbefore : DocumentRun isWordCharacter init log w)
    (hafter : DocumentRun isWordCharacter w later w') :
    DocumentRun isWordCharacter init (later ++ log) w' := by
  induction hafter with
  | start => exact hbefore
  | uploaded u _ ih => exact ih.uploaded u
  | deleted kind r _ ih => exact ih.deleted kind r
  | created _ hperforms hstored hsave ih => exact ih.created hperforms hstored hsave
  | performed _ hother hperforms ih => exact ih.performed hother hperforms

theorem nameKeys_nodup_of_cons {step : DocumentStep} (h : (nameKeys (step :: log)).Nodup) :
    (nameKeys log).Nodup :=
  h.sublist (((List.sublist_cons_self step log).filterMap _).map _)

/-- Nothing in a run takes a document away but a request to delete it. -/
theorem DocumentRun.kept {later : List DocumentStep} (hword : isWordCharacter '.' = false)
    (hbefore : DocumentRun isWordCharacter .initial log w) (hu : .upload u ∈ log)
    (hkept : Kept isWordCharacter u w) (hafter : DocumentRun isWordCharacter w later w')
    (hkeys : (nameKeys (later ++ log)).Nodup) (hnone : .delete u.kind u.documentId ∉ later) :
    Kept isWordCharacter u w' := by
  induction hafter with
  | start => exact hkept
  | @uploaded _ w v _ ih =>
      exact (ih (nameKeys_nodup_of_cons hkeys) (List.not_mem_of_not_mem_cons hnone)).uploads
        (uploads_uploaded _ w v)
  | @deleted later w kind r hrun ih =>
      have hkeys := nameKeys_nodup_of_cons hkeys
      have hother : kind = u.kind → r.documentId ≠ u.documentId := by
        rintro rfl hid
        rw [hid] at hnone
        exact hnone List.mem_cons_self
      refine (ih hkeys (List.not_mem_of_not_mem_cons hnone)).deletes (deletes_deleted w kind r) hother ?_
      -- a row that names the file of the upload was written by it
      intro names hrow hsame
      obtain ⟨v, hv, -, hkind, hid, rfl⟩ := (hbefore.trans hrun).traced.rows kind r.documentId names hrow
      obtain rfl := eq_of_sdsFileName_eq hword hkeys hv (List.mem_append_right _ hu) hsame
      exact hother hkind.symm hid.symm
  | created _ hperforms _ hsave ih =>
      have h := ih (nameKeys_nodup_of_cons hkeys) (List.not_mem_of_not_mem_cons hnone)
      constructor
      · rw [documentNames_created hperforms hsave]
        exact h.row
      · exact h.file
  | performed _ _ hperforms ih =>
      have h := ih hkeys hnone
      constructor
      · rw [documentNames_performed hperforms]
        exact h.row
      · exact h.file

end Runs

end InquestsApi
