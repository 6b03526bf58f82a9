import InquestsApi.DocumentRuns

/-! What is retrieved of a document is what was uploaded, through any requests in between. -/
namespace InquestsApi

open UnitOfWork

section Retrievals

variable {isWordCharacter : Char → Bool} {w : DocumentWorld} {log : List DocumentStep}
variable {u : ContentUpload} {service : RetrievalService}

/-- Where the service gives an address for a file, it holds the file, and what is read at the address is the
file: all of it, or its beginning when the connection breaks off. -/
structure Serves (service : RetrievalService) (files : List (String × Bytes)) : Prop where
  file : ∀ fileName fileUrl, (service fileName).answer = some (200, some fileUrl) →
    ∃ content, (fileName, content) ∈ files ∧ (service fileName).chunks.flatten <+: content
      ∧ ((service fileName).interrupted = false → (service fileName).chunks.flatten = content)

/-- What is streamed is this content: a beginning of it, and the whole unless there is an error. -/
structure Streams (stream : ByteStream) (content : Bytes) : Prop where
  beginning : stream.chunks.flatten <+: content
  whole : stream.ending = .ok () → stream.chunks.flatten = content

theorem retrieve_streams {files : List (String × Bytes)} {fileName : String} {content : Bytes}
    (hserves : Serves service files) (honly : ∀ other, (fileName, other) ∈ files → other = content)
    (kind : DocumentKind) : Streams (SdsAdapter.retrieve kind fileName (service fileName)) content := by
  have herror : ∀ e, Streams ⟨[], .error e⟩ content := by
    intro e
    constructor
    · exact List.nil_prefix
    · intro hend
      cases hend
  unfold SdsAdapter.retrieve
  by_cases hblank : isBlank fileName = true
  · rw [if_pos hblank]
    exact herror _
  · rw [if_neg hblank]
    cases hanswer : (service fileName).answer with
    | none => exact herror _
    | some answer =>
        obtain ⟨statusCode, fileUrl⟩ := answer
        by_cases hstatus : statusCode = 200
        · subst hstatus
          cases fileUrl with
          | none => exact herror _
          | some fileUrl =>
              obtain ⟨found, hfound, hbeginning, hwhole⟩ := hserves.file fileName fileUrl hanswer
              obtain rfl := honly found hfound
              refine ⟨hbeginning, fun hend => ?_⟩
              cases hbroken : (service fileName).interrupted with
              | false => exact hwhole hbroken
              | true => simp [hbroken] at hend
        · simp only [ne_eq, hstatus, not_false_eq_true, if_true]
          exact herror _

/-- A retrieval shows an upload: one that was found safe, under the name that it had, with its bytes, and
with all of them where the service gives an address for its file and the connection holds. -/
structure ShowsUpload (isWordCharacter : Char → Bool) (service : RetrievalService) (u : ContentUpload)
    (result : DocumentResult) : Prop where
  safe : u.virusCheck = some 200
  fileName : result.fileName = u.fileName
  content : Streams result.content u.content
  ending : result.content.ending = .ok ()
    ↔ (∃ fileUrl, (service (u.sdsFileName isWordCharacter)).answer = some (200, some fileUrl))
      ∧ (service (u.sdsFileName isWordCharacter)).interrupted = false

theorem showsUpload (hword : isWordCharacter '.' = false) (h : DocumentRun isWordCharacter .initial log w)
    (hkeys : (nameKeys log).Nodup) (hserves : Serves service w.files) (hu : .upload u ∈ log)
    (hsafe : u.virusCheck = some 200) (kind : DocumentKind) {names : String × String}
    (hnames : u.names isWordCharacter = names) :
    ShowsUpload isWordCharacter service u
      ⟨names.2, SdsAdapter.retrieve kind names.1 (service names.1)⟩ := by
  obtain ⟨sdsFileName, fileName⟩ := names
  obtain ⟨hname, rfl⟩ := Prod.mk.inj hnames
  have honly : ∀ other, (sdsFileName, other) ∈ w.files → other = u.content := by
    intro other hfile
    rw [← hname] at hfile
    exact h.traced.content_eq hword hkeys hu hfile
  have hstreams := retrieve_streams hserves honly kind
  have hnamed : isBlank sdsFileName = false := by
    rw [← hname]
    exact SdsAdapter.uniqueFileName_not_blank u.fileName u.nameKey
  refine ⟨hsafe, rfl, hstreams, ?_⟩
  rw [hname]
  exact SdsAdapter.retrieve_ending hnamed

theorem retrieveClaimEvidence_ok {claimEvidenceId : Uuid} {result : DocumentResult} :
    RetrieveClaimEvidenceUseCase.execute service claimEvidenceId w = .ok result ↔
      ∃ names, w.documentNames .claimEvidence claimEvidenceId = some names
        ∧ ⟨names.2, SdsAdapter.retrieve .claimEvidence names.1 (service names.1)⟩ = result := by
  unfold RetrieveClaimEvidenceUseCase.execute
  cases hrow : w.store.getClaimEvidenceById claimEvidenceId with
  | none => simp [DocumentWorld.documentNames, Store.documentNames, hrow]
  | some evidence =>
      simp [DocumentWorld.documentNames, Store.documentNames, hrow, ClaimEvidence.names]

theorem retrieveCoronersLetter_ok {laaReference : String} {result : DocumentResult} :
    RetrieveCoronersLetterUseCase.execute service laaReference w = .ok result ↔
      ∃ id names, w.coronersLetterId laaReference = some id
        ∧ w.documentNames .coronersLetter id = some names
        ∧ ⟨names.2, SdsAdapter.retrieve .coronersLetter names.1 (service names.1)⟩ = result := by
  unfold RetrieveCoronersLetterUseCase.execute DocumentWorld.coronersLetter
  cases hid : w.coronersLetterId laaReference with
  | none => simp
  | some id =>
      cases hrow : w.letters.getCoronersLetterById id with
      | none => simp [DocumentWorld.documentNames, LetterTables.documentNames, hrow]
      | some letter =>
          simp [DocumentWorld.documentNames, LetterTables.documentNames, hrow, CoronersLetter.names]

theorem coronersLetterId_eq_some {laaReference : String} {id : Uuid}
    (h : w.coronersLetterId laaReference = some id) :
    ∃ application row, w.store.getApplicationByLaaReference laaReference = some application
      ∧ row ∈ w.letters.applications ∧ row.applicationId = application.applicationId
      ∧ row.coronersLetterId = some id := by
  obtain ⟨application, hfound, hrest⟩ := Option.bind_eq_some_iff.mp h
  obtain ⟨row, hrow, hid⟩ := Option.bind_eq_some_iff.mp hrest
  have hsame := List.find?_some hrow
  exact ⟨application, row, hfound, List.mem_of_find?_eq_some hrow, of_decide_eq_true hsame, hid⟩

/-- After any requests, claim evidence that is retrieved is the upload with its id, and the letter that is
retrieved for an application is the upload that the request which created it named. -/
theorem retrieved_as_uploaded (hword : isWordCharacter '.' = false)
    (h : DocumentRun isWordCharacter .initial log w) (hkeys : (nameKeys log).Nodup)
    (hserves : Serves service w.files) :
    (∀ claimEvidenceId result, RetrieveClaimEvidenceUseCase.execute service claimEvidenceId w = .ok result →
      ∃ u, .upload u ∈ log ∧ u.kind = .claimEvidence ∧ u.documentId = claimEvidenceId
        ∧ ShowsUpload isWordCharacter service u result)
    ∧ ∀ laaReference result, RetrieveCoronersLetterUseCase.execute service laaReference w = .ok result →
      ∃ application u, w.store.getApplicationByLaaReference laaReference = some application
        ∧ .create application.applicationId u.documentId ∈ log ∧ .upload u ∈ log
        ∧ u.kind = .coronersLetter ∧ ShowsUpload isWordCharacter service u result := by
  constructor
  · intro claimEvidenceId result hresult
    obtain ⟨names, hrow, rfl⟩ := retrieveClaimEvidence_ok.mp hresult
    obtain ⟨u, hu, hsafe, hkind, hid, hnames⟩ := h.traced.rows _ _ _ hrow
    exact ⟨u, hu, hkind, hid, showsUpload hword h hkeys hserves hu hsafe _ hnames⟩
  · intro laaReference result hresult
    obtain ⟨id, names, hrefers, hrow, rfl⟩ := retrieveCoronersLetter_ok.mp hresult
    obtain ⟨application, row, hfound, hmem, hsame, hletter⟩ := coronersLetterId_eq_some hrefers
    obtain ⟨u, hu, hsafe, hkind, rfl, hnames⟩ := h.traced.rows _ _ _ hrow
    refine ⟨application, u, hfound, ?_, hu, hkind, showsUpload hword h hkeys hserves hu hsafe _ hnames⟩
    rw [← hsame]
    exact h.traced.applications row hmem _ hletter

end Retrievals

namespace Sample

/-- The letters and digits of ASCII. -/
def isWordCharacter (c : Char) : Bool := c.isAlphanum || c = '_'

/-- A report that is uploaded as claim evidence, and a letter under the same name. -/
def reportUpload : ContentUpload where
  kind := .claimEvidence
  content := [37, 80, 68, 70]
  fileName := "report v1.pdf"
  nameKey := 7
  documentId := 1
  virusCheck := some 200
  statusCode := some 201
  stored := true
  created := fun _ => rfl
  faults := fun _ => none

def letterUpload : ContentUpload :=
  { reportUpload with kind := .coronersLetter, content := [37, 80], nameKey := 8 }

/-- A service that gives out the files as they are. -/
def serviceOf (files : List (String × Bytes)) : RetrievalService := fun fileName =>
  match files.find? fun file => file.1 = fileName with
  | some file => ⟨some (200, some fileName), [file.2], false⟩
  | none => ⟨some (404, none), [], false⟩

theorem serviceOf_serves (files : List (String × Bytes)) : Serves (serviceOf files) files where
  file := by
    intro fileName fileUrl hanswer
    unfold serviceOf at hanswer ⊢
    cases hfound : files.find? fun file => file.1 = fileName with
    | none => simp [hfound] at hanswer
    | some file =>
        obtain rfl : file.1 = fileName := by simpa using List.find?_some hfound
        refine ⟨file.2, List.mem_of_find?_eq_some hfound, ?_⟩
        simp

/-- Another letter, which no application comes with. -/
def otherLetterUpload : ContentUpload := { letterUpload with nameKey := 9, documentId := 2 }

def otherDeletion : DocumentDeletion where
  documentId := 2
  reply := ⟨some (200, .object [(otherLetterUpload.sdsFileName isWordCharacter, .int 204)]), true⟩
  faults := fun _ => none

def uploads : DocumentWorld :=
  ((DocumentWorld.initial.uploaded isWordCharacter reportUpload).uploaded isWordCharacter
    letterUpload).uploaded isWordCharacter otherLetterUpload

/-- An application that comes with the first letter. -/
def applicationBody : EStateM.Result (Failure ApiError) (Txn Store Notification) Application :=
  CreateApplicationUseCase.createBody env noFaults (created providerClient) "F1" ["O1"] ⟨uploads.store, []⟩

def applied : DocumentWorld :=
  { uploads with
    store := (endState applicationBody).store
    letters := { uploads.letters with applications := [⟨1, some 1⟩] } }

/-- The report and the letters are uploaded, the application is created, and the other letter is deleted. -/
def documents : DocumentWorld := applied.deleted .coronersLetter otherDeletion

def documentLog : List DocumentStep :=
  [.delete .coronersLetter 2, .create 1 1, .upload otherLetterUpload, .upload letterUpload,
    .upload reportUpload]

theorem documents_run : DocumentRun isWordCharacter .initial documentLog documents := by
  have huploads : DocumentRun isWordCharacter .initial
      [.upload otherLetterUpload, .upload letterUpload, .upload reportUpload] uploads :=
    ((DocumentRun.start.uploaded reportUpload).uploaded letterUpload).uploaded otherLetterUpload
  have hgoes : (match applicationBody with
      | .ok application _ => decide (application.applicationId = 1)
      | .error _ _ => false) = true := by decide +kernel
  cases hbody : applicationBody with
  | error e t' =>
      rw [hbody] at hgoes
      cases hgoes
  | ok application t' =>
      rw [hbody] at hgoes
      have hid : application.applicationId = 1 := of_decide_eq_true hgoes
      have hletter : ∀ id ∈ (⟨1, some 1⟩ : ApplicationLetter).coronersLetterId,
          ∃ letter ∈ uploads.letters.coronersLetters, letter.coronersLetterId = id := by
        intro id hid
        cases hid
        decide +kernel
      have hsave : uploads.letters.saveApplication ⟨application.applicationId, some 1⟩
          = .ok { uploads.letters with applications := [⟨1, some 1⟩] } := by
        rw [hid]
        unfold LetterTables.saveApplication
        rw [if_pos hletter]
        rfl
      have hcreated := huploads.created (.creation hbody) (createBody_applications hbody) hsave
      have happlied : applied
          = { uploads with
              store := t'.store
              letters := { uploads.letters with applications := [⟨1, some 1⟩] } } := by
        unfold applied
        rw [hbody]
        rfl
      rw [hid] at hcreated
      unfold documents
      rw [happlied]
      exact hcreated.deleted .coronersLetter otherDeletion

end Sample

theorem retrieved_as_uploaded_report :
    (∃ result, RetrieveClaimEvidenceUseCase.execute (Sample.serviceOf Sample.documents.files) 1
          Sample.documents = .ok result
        ∧ ∃ u, .upload u ∈ Sample.documentLog ∧ u.documentId = 1
          ∧ ShowsUpload Sample.isWordCharacter (Sample.serviceOf Sample.documents.files) u result)
      ∧ ∃ laaReference result, RetrieveCoronersLetterUseCase.execute
          (Sample.serviceOf Sample.documents.files) laaReference Sample.documents = .ok result
        ∧ ∃ u, .upload u ∈ Sample.documentLog ∧ u.kind = .coronersLetter
          ∧ ShowsUpload Sample.isWordCharacter (Sample.serviceOf Sample.documents.files) u result := by
  obtain ⟨hevidence, hletters⟩ := retrieved_as_uploaded (by decide) Sample.documents_run (by decide)
    (Sample.serviceOf_serves _)
  constructor
  · have hrow : Sample.documents.documentNames .claimEvidence 1
        = some ("report_v1_00000000-0000-0000-0000-000000000007.pdf", "report v1.pdf") := by
      decide +kernel
    have hresult : RetrieveClaimEvidenceUseCase.execute (Sample.serviceOf Sample.documents.files) 1
        Sample.documents = .ok _ := retrieveClaimEvidence_ok.mpr ⟨_, hrow, rfl⟩
    obtain ⟨u, hu, -, hid, hshows⟩ := hevidence 1 _ hresult
    exact ⟨_, hresult, u, hu, hid, hshows⟩
  · have hnamed : (Sample.documents.store.applications.any fun a =>
        Sample.documents.coronersLetterId a.laaReference = some 1) = true := by decide +kernel
    obtain ⟨a, -, hid⟩ := List.any_eq_true.mp hnamed
    have hrow : Sample.documents.documentNames .coronersLetter 1
        = some ("report_v1_00000000-0000-0000-0000-000000000008.pdf", "report v1.pdf") := by
      decide +kernel
    have hresult : RetrieveCoronersLetterUseCase.execute (Sample.serviceOf Sample.documents.files)
        a.laaReference Sample.documents = .ok _ :=
      retrieveCoronersLetter_ok.mpr ⟨_, _, of_decide_eq_true hid, hrow, rfl⟩
    obtain ⟨_, u, -, -, hu, hkind, hshows⟩ := hletters _ _ hresult
    exact ⟨_, _, hresult, u, hu, hkind, hshows⟩

section Retrievals

variable {isWordCharacter : Char → Bool} {w : DocumentWorld} {log : List DocumentStep}
variable {u : ContentUpload} {service : RetrievalService}

/-- An upload is answered with the id of its row. -/
theorem uploadDocument_answers {σ : Type} (table : DocumentTable σ) (r : DocumentUpload) :
    Uow.Ensures (fun _ => True) (uploadDocument table r) (fun id _ => id = r.documentId)
      (fun _ => True) := by
  unfold uploadDocument
  cases SdsAdapter.virusCheck table.kind r.virusCheck with
  | error e => exact .throw fun _ _ => trivial
  | ok isSafe =>
      cases isSafe with
      | false => exact .throw fun _ _ => trivial
      | true =>
          refine .bind (Q := fun _ _ => True) (.dispatch (fun _ => (saveFile_end _ _).1)
            (fun _ _ _ _ _ => trivial) fun _ _ _ _ _ => trivial) fun success => ?_
          cases success with
          | false => exact .throw fun _ _ => trivial
          | true =>
              refine .inTransaction ?_ fun _ _ _ => trivial
              intro t documentId t' _ hbody _
              obtain ⟨-, s, hinsert, -⟩ := Tx.flush_ok.mp hbody
              cases hrow : table.insert t.store r.documentId
                  ⟨r.reply.uniqueFileName, r.fileName, r.fileSize⟩ with
              | error e =>
                  rw [hrow] at hinsert
                  cases hinsert
              | ok s' =>
                  rw [hrow] at hinsert
                  cases hinsert
                  rfl

section Answers

variable {σ : Type} {table : DocumentTable σ} {names : σ → DocumentNames} {db : σ} {id : Uuid}
variable {s' : Session σ SdsEffect Unit} {w' : DocumentWorld}

theorem Kept.of_answer (htable : table.Names names)
    (hnames : w'.documentNames u.kind = names s'.view.store)
    (hfiles : w'.files = s'.view.outbox.foldr (SdsEffect.applyContent u.content) w.files)
    (h : uploadDocument table (u.upload isWordCharacter) (.start db) = .ok id s') :
    id = u.documentId ∧ u.virusCheck = some 200 ∧ Kept isWordCharacter u w' := by
  have hclean := Session.start_clean (ω := SdsEffect) (ο := Unit) db
  obtain ⟨-, hid⟩ := (uploadDocument_answers table _ _ hclean trivial).1 id s' h
  obtain ⟨-, hinsert, houtbox⟩ := (uploadDocument_ensures table _ db _ hclean rfl).1 id s' h
  obtain ⟨-, hadded⟩ := htable.insert hinsert
  refine ⟨hid, ?_, ?_, ?_⟩
  · by_contra hunsafe
    obtain ⟨e, herror⟩ :=
      uploadDocument_unsafe table (r := u.upload isWordCharacter) hunsafe (s := .start db)
    rw [h] at herror
    cases herror
  · rw [hnames, hadded]
    exact Function.update_self _ _ _
  · rw [hfiles, houtbox]
    exact List.mem_cons_self

end Answers

/-- What an upload that is answered with an id leaves. -/
theorem kept_uploaded {id : Uuid} (h : w.AnswersUpload isWordCharacter u id) :
    id = u.documentId ∧ u.virusCheck = some 200
      ∧ Kept isWordCharacter u (w.uploaded isWordCharacter u) := by
  unfold DocumentWorld.AnswersUpload at h
  unfold DocumentWorld.uploaded
  cases hkind : u.kind with
  | coronersLetter =>
      rw [hkind] at h
      obtain ⟨s', hs'⟩ := h
      refine Kept.of_answer (w := w) coronersLetterTable_names ?_ ?_ hs'
      · rw [hkind, endState_of_ok hs']
        rfl
      · rw [endState_of_ok hs']
        rfl
  | claimEvidence =>
      rw [hkind] at h
      obtain ⟨s', hs'⟩ := h
      refine Kept.of_answer (w := w) claimEvidenceTable_names ?_ ?_ hs'
      · rw [hkind, endState_of_ok hs']
        rfl
      · rw [endState_of_ok hs']
        rfl

/-- An upload that has been answered is there until a request to delete it: whatever comes in between, its
file holds its bytes, and what is retrieved by its id, or for an application with its letter, shows it. -/
theorem uploads_kept {w' : DocumentWorld} {later : List DocumentStep} {id : Uuid}
    (hword : isWordCharacter '.' = false) (hbefore : DocumentRun isWordCharacter .initial log w)
    (hanswers : w.AnswersUpload isWordCharacter u id)
    (hafter : DocumentRun isWordCharacter (w.uploaded isWordCharacter u) later w')
    (hkeys : (nameKeys (later ++ .upload u :: log)).Nodup) (hnone : .delete u.kind id ∉ later)
    (hserves : Serves service w'.files) :
    (∀ content, (u.sdsFileName isWordCharacter, content) ∈ w'.files ↔ content = u.content)
    ∧ (u.kind = .claimEvidence → ∃ result,
      RetrieveClaimEvidenceUseCase.execute service id w' = .ok result
        ∧ ShowsUpload isWordCharacter service u result)
    ∧ (u.kind = .coronersLetter → ∀ laaReference, w'.coronersLetterId laaReference = some id → ∃ result,
      RetrieveCoronersLetterUseCase.execute service laaReference w' = .ok result
        ∧ ShowsUpload isWordCharacter service u result) := by
  obtain ⟨rfl, hsafe, hkept⟩ := kept_uploaded hanswers
  have huploaded := hbefore.uploaded u
  have hu : .upload u ∈ later ++ .upload u :: log := List.mem_append_right _ List.mem_cons_self
  have hrun := huploaded.trans hafter
  have hleft := huploaded.kept hword List.mem_cons_self hkept hafter hkeys hnone
  refine ⟨fun content => ⟨hrun.traced.content_eq hword hkeys hu, ?_⟩, fun hkind => ?_, fun hkind => ?_⟩
  · rintro rfl
    exact hleft.file
  · have hrow := hleft.row
    rw [hkind] at hrow
    refine ⟨_, retrieveClaimEvidence_ok.mpr ⟨_, hrow, rfl⟩, ?_⟩
    exact showsUpload hword hrun hkeys hserves hu hsafe .claimEvidence rfl
  · intro laaReference hrefers
    have hrow := hleft.row
    rw [hkind] at hrow
    refine ⟨_, retrieveCoronersLetter_ok.mpr ⟨_, _, hrefers, hrow, rfl⟩, ?_⟩
    exact showsUpload hword hrun hkeys hserves hu hsafe .coronersLetter rfl

end Retrievals

theorem uploads_kept_report : ∃ w result,
    RetrieveClaimEvidenceUseCase.execute (Sample.serviceOf w.files) 1 w = .ok result
      ∧ ShowsUpload Sample.isWordCharacter (Sample.serviceOf w.files) Sample.reportUpload result := by
  have hanswers : DocumentWorld.initial.AnswersUpload Sample.isWordCharacter Sample.reportUpload 1 :=
    ⟨_, rfl⟩
  obtain ⟨-, hevidence, -⟩ := uploads_kept (by decide) .start hanswers
    ((DocumentRun.start.uploaded Sample.letterUpload).deleted .coronersLetter Sample.letterDeletion)
    (by decide) (by simp [Sample.reportUpload]) (Sample.serviceOf_serves _)
  exact ⟨_, hevidence rfl⟩

end InquestsApi
