import InquestsApi.CoronersLetters
import InquestsApi.EvidenceLinks
import InquestsApi.Lib.FileNames

/-! What is in a document: the name that its file is saved under, and its bytes on the way back, as
`RetrieveCoronersLetterUseCase` and `RetrieveClaimEvidenceUseCase` hand them on. -/
namespace InquestsApi

open UnitOfWork

abbrev Bytes := List UInt8

namespace SdsAdapter

section Names

variable (isWordCharacter : Char → Bool)

/-- `re.sub(r"[^\w\-]", "_", stem)`. -/
def sanitizeStem (stem : List Char) : List Char :=
  stem.map fun c => if isWordCharacter c || c = '-' then c else '_'

/-- The stem, a key that is drawn for this file, and the suffix. -/
def uniqueFileName (fileName : String) (key : Uuid) : String :=
  String.ofList (sanitizeStem isWordCharacter (PurePath.stem fileName.toList) ++ '_' :: UuidText.text key
    ++ PurePath.suffix fileName.toList)

variable {isWordCharacter : Char → Bool}

theorem dot_notMem_sanitizeStem (hword : isWordCharacter '.' = false) (stem : List Char) :
    '.' ∉ sanitizeStem isWordCharacter stem := by
  intro h
  obtain ⟨c, -, hc⟩ := List.mem_map.mp h
  by_cases hkept : (isWordCharacter c || c = '-') = true
  · rw [if_pos hkept] at hc
    subst hc
    simp [hword] at hkept
  · rw [if_neg hkept] at hc
    exact absurd hc (by decide)

/-- Two files with one name were saved with one key, whatever they were called before. -/
theorem uniqueFileName_inj (hword : isWordCharacter '.' = false) {fileName fileName' : String}
    {key key' : Uuid}
    (h : uniqueFileName isWordCharacter fileName key = uniqueFileName isWordCharacter fileName' key') :
    key = key' := by
  have hfree : ∀ (fileName : String) (key : Uuid), '.' ∉
      sanitizeStem isWordCharacter (PurePath.stem fileName.toList) ++ '_' :: UuidText.text key := by
    intro fileName key hdot
    rcases List.mem_append.mp hdot with hstem | hkey
    · exact dot_notMem_sanitizeStem hword _ hstem
    · rcases List.mem_cons.mp hkey with hline | htext
      · exact absurd hline (by decide)
      · exact UuidText.dot_notMem_text key htext
  have hnames := String.ofList_inj.mp h
  have hfront := congrArg (List.takeWhile (· ≠ '.')) hnames
  rw [PurePath.takeWhile_append_suffix (hfree fileName key),
    PurePath.takeWhile_append_suffix (hfree fileName' key')] at hfront
  have hlength : ('_' :: UuidText.text key).length = ('_' :: UuidText.text key').length := by
    rw [List.length_cons, List.length_cons, UuidText.length_text, UuidText.length_text]
  have htail := (List.append_inj' hfront hlength).2
  exact UuidText.text_inj (List.cons.inj htail).2

theorem uniqueFileName_not_blank (fileName : String) (key : Uuid) :
    isBlank (uniqueFileName isWordCharacter fileName key) = false := by
  unfold isBlank uniqueFileName
  rw [String.toList_ofList, List.all_eq_false]
  refine ⟨'_', ?_, by decide⟩
  exact List.mem_append_left _ (List.mem_append_right _ List.mem_cons_self)

end Names

/-- What comes back when a file is asked for: nothing when there is no token or no answer, else a status
and the address of the file; then the chunks that are read there, until the end or an error. -/
structure RetrievalReply where
  answer : Option (ℕ × Option String)
  chunks : List Bytes
  interrupted : Bool

end SdsAdapter

inductive RetrievalError where
  | notFound (kind : DocumentKind) (message : String)
  | invalidDocumentId (kind : DocumentKind) (message : String)
  | retrieval (kind : DocumentKind) (message : String)
  | portFailure
  deriving DecidableEq, Repr

/-- What a generator yields, and how it ends. -/
structure ByteStream where
  chunks : List Bytes
  ending : Except RetrievalError Unit

namespace SdsAdapter

/-- How a retrieval is named in its errors. -/
def retrievalLabel : DocumentKind → String
  | .coronersLetter => "coroner's letter"
  | .claimEvidence => "claim evidence"

section Retrieval

variable (kind : DocumentKind) (fileName : String)

/-- `retrieve_coroners_letter` and `retrieve_claim_evidence` are generators: each error is raised where
the first bytes are asked for, and not where the generator is made. -/
def retrieve (reply : RetrievalReply) : ByteStream :=
  if isBlank fileName then
    ⟨[], .error (.invalidDocumentId kind "file_name must be a non-empty string")⟩
  else match reply.answer with
    | none => ⟨[], .error .portFailure⟩
    | some (statusCode, fileUrl) =>
      if statusCode ≠ 200 then
        ⟨[], .error (.retrieval kind
          ("SDS returned " ++ toString statusCode ++ " while retrieving " ++ retrievalLabel kind))⟩
      else match fileUrl with
        | none => ⟨[], .error (.retrieval kind ("Failed to retrieve " ++ kind.label))⟩
        | some _ =>
          ⟨reply.chunks, if reply.interrupted then
            .error (.retrieval kind ("Failed to stream " ++ kind.label)) else .ok ()⟩

variable {kind fileName} in
/-- A stream ends without an error where the service gives an address and the connection holds. -/
theorem retrieve_ending {reply : RetrievalReply} (hnamed : isBlank fileName = false) :
    (retrieve kind fileName reply).ending = .ok ()
      ↔ (∃ fileUrl, reply.answer = some (200, some fileUrl)) ∧ reply.interrupted = false := by
  obtain ⟨answer, chunks, interrupted⟩ := reply
  unfold retrieve
  rw [hnamed]
  cases answer with
  | none => simp
  | some answer =>
      obtain ⟨statusCode, fileUrl⟩ := answer
      by_cases hstatus : statusCode = 200
      · subst hstatus
        cases fileUrl <;> cases interrupted <;> simp
      · simp [hstatus]

end Retrieval

end SdsAdapter

/-- A document as it is streamed. -/
structure DocumentResult where
  fileName : String
  content : ByteStream

/-- The service answers for each file on its own. -/
abbrev RetrievalService := String → SdsAdapter.RetrievalReply

/-- The committed tables, and the files that the document service holds. -/
structure DocumentWorld where
  letters : LetterTables
  store : Store
  files : List (String × Bytes)

def RetrieveClaimEvidenceUseCase.execute (service : RetrievalService) (claimEvidenceId : Uuid)
    (w : DocumentWorld) : Except RetrievalError DocumentResult :=
  match w.store.getClaimEvidenceById claimEvidenceId with
  | none => .error (.notFound .claimEvidence "Could not retrieve claim evidence")
  | some evidence => .ok ⟨evidence.fileName,
      SdsAdapter.retrieve .claimEvidence evidence.sdsFileName (service evidence.sdsFileName)⟩

/-- The id of the letter that the row of an application names, which is looked up by its reference. -/
def DocumentWorld.coronersLetterId (w : DocumentWorld) (laaReference : String) : Option Uuid := do
  let application ← w.store.getApplicationByLaaReference laaReference
  let row ← w.letters.applications.find? fun a => a.applicationId = application.applicationId
  row.coronersLetterId

def DocumentWorld.coronersLetter (w : DocumentWorld) (laaReference : String) : Option CoronersLetter := do
  let coronersLetterId ← w.coronersLetterId laaReference
  w.letters.getCoronersLetterById coronersLetterId

def RetrieveCoronersLetterUseCase.execute (service : RetrievalService) (laaReference : String)
    (w : DocumentWorld) : Except RetrievalError DocumentResult :=
  match w.coronersLetter laaReference with
  | none => .error (.notFound .coronersLetter "Could not retrieve coroners letter")
  | some letter => .ok ⟨letter.fileName,
      SdsAdapter.retrieve .coronersLetter letter.sdsFileName (service letter.sdsFileName)⟩

/-- One upload with its bytes, the keys drawn for the file's name and for the row, and the answers. -/
structure ContentUpload where
  kind : DocumentKind
  content : Bytes
  fileName : String
  nameKey : Uuid
  documentId : Uuid
  virusCheck : Option ℕ
  statusCode : Option ℕ
  stored : Bool
  created : statusCode = some 201 → stored = true
  faults : DocumentFaults

namespace ContentUpload

variable (isWordCharacter : Char → Bool) (u : ContentUpload)

def sdsFileName : String := SdsAdapter.uniqueFileName isWordCharacter u.fileName u.nameKey

def upload : DocumentUpload where
  fileName := u.fileName
  fileSize := u.content.length
  virusCheck := u.virusCheck
  reply := ⟨u.sdsFileName isWordCharacter, u.statusCode, u.stored, u.created⟩
  documentId := u.documentId
  faults := u.faults

end ContentUpload

/-- What an effect of a request with these bytes does to the files. -/
def SdsEffect.applyContent (content : Bytes) : SdsEffect → List (String × Bytes) → List (String × Bytes)
  | saved fileName, files => (fileName, content) :: files
  | removed fileName, files => files.filter (·.1 ≠ fileName)

namespace DocumentWorld

variable (w : DocumentWorld) (isWordCharacter : Char → Bool)

def withLetters (content : Bytes) (t : Txn LetterTables SdsEffect) : DocumentWorld :=
  { w with letters := t.store, files := t.outbox.foldr (SdsEffect.applyContent content) w.files }

def withStore (content : Bytes) (t : Txn Store SdsEffect) : DocumentWorld :=
  { w with store := t.store, files := t.outbox.foldr (SdsEffect.applyContent content) w.files }

def uploaded (u : ContentUpload) : DocumentWorld :=
  match u.kind with
  | .coronersLetter => w.withLetters u.content
      (endState (UploadCoronersLetterUseCase.execute (u.upload isWordCharacter) (.start w.letters))).view
  | .claimEvidence => w.withStore u.content
      (endState (UploadClaimEvidenceUseCase.execute (u.upload isWordCharacter) (.start w.store))).view

/-- The upload is answered with this id. -/
def AnswersUpload (u : ContentUpload) (documentId : Uuid) : Prop :=
  match u.kind with
  | .coronersLetter => ∃ s', UploadCoronersLetterUseCase.execute (u.upload isWordCharacter)
      (.start w.letters) = .ok documentId s'
  | .claimEvidence => ∃ s', UploadClaimEvidenceUseCase.execute (u.upload isWordCharacter)
      (.start w.store) = .ok documentId s'

def deleted (kind : DocumentKind) (r : DocumentDeletion) : DocumentWorld :=
  match kind with
  | .coronersLetter => w.withLetters []
      (endState (DeleteCoronersLetterUseCase.execute r (.start w.letters))).view
  | .claimEvidence => w.withStore []
      (endState (DeleteClaimEvidenceUseCase.execute r (.start w.store))).view

end DocumentWorld

end InquestsApi
