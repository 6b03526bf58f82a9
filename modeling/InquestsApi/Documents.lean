import InquestsApi.Lib.Outbox
import InquestsApi.DomainClaim

/-! Uploaded documents. Each is a row of the database and a file of the document service,
and `UploadCoronersLetterUseCase`, `DeleteCoronersLetterUseCase` and their twins for claim
evidence change one after the other. An error here carries the message that is safe to log. -/
namespace InquestsApi

open UnitOfWork

inductive DocumentKind where
  | coronersLetter
  | claimEvidence
  deriving DecidableEq, Repr

namespace DocumentKind

def label : DocumentKind → String
  | coronersLetter => "coroners letter"
  | claimEvidence => "claim evidence"

def title : DocumentKind → String
  | coronersLetter => "Coroners letter"
  | claimEvidence => "Claim evidence"

end DocumentKind

/-- The calls of these requests that can fail by themselves. -/
inductive DocumentCall where
  | getById
  | saveFile
  | saveRow
  | deleteRow
  | commit
  deriving DecidableEq, Repr

abbrev DocumentFaults := DocumentCall → Option Fault

inductive DocumentError where
  | notFound (kind : DocumentKind) (message : String)
  | deletion (kind : DocumentKind) (message : String)
  | invalidDocumentId (kind : DocumentKind) (message : String)
  | upload (kind : DocumentKind) (message : String)
  | virusCheck (kind : DocumentKind) (message : String)
  | virusDetected (kind : DocumentKind) (message : String)
  | uniqueViolation (constraint : String)
  | foreignKeyViolation (constraint : String)
  | portFailure (call : DocumentCall)
  deriving DecidableEq, Repr

/-- What has happened to the files of the document service, for good. -/
inductive SdsEffect where
  | saved (fileName : String)
  | removed (fileName : String)
  deriving DecidableEq, Repr

def SdsEffect.apply : SdsEffect → List String → List String
  | saved fileName, files => fileName :: files
  | removed fileName, files => files.filter (· ≠ fileName)

namespace SdsAdapter

/-- A parsed answer of the service. Of a float only matters whether it is zero. -/
inductive Payload where
  | null
  | bool (b : Bool)
  | int (n : ℤ)
  | float (isZero : Bool)
  | text (s : String)
  | object (entries : List (String × Payload))
  | array (items : List Payload)

namespace Payload

def get? : Payload → String → Option Payload
  | object entries, key => entries.lookup key
  | _, _ => none

/-- `isinstance(value, int)`, which a bool is. -/
def int? : Payload → Option ℤ
  | int n => some n
  | bool b => some b.toNat
  | _ => none

def truthy : Payload → Bool
  | null => false
  | bool b => b
  | int n => n ≠ 0
  | float isZero => !isZero
  | text s => s ≠ ""
  | object entries => !entries.isEmpty
  | array items => !items.isEmpty

/-- `item.get("file_key") or item.get("filename") or item.get("key")`, where it is a text. -/
def fileName (item : Payload) : Option String :=
  match (["file_key", "filename", "key"].filterMap item.get?).find? truthy with
  | some (text s) => some s
  | _ => none

end Payload

/-- The status that the service gives for one file, however it writes its answer. -/
def extractDeleteStatusCode (payload : Payload) (fileName : String) : Except DocumentError ℤ :=
  let status : Option ℤ := match payload with
    | .object _ =>
      ((payload.get? fileName).bind fun found =>
        found.int? <|> (found.get? "status_code").bind (·.int?))
      <|> (payload.get? "status_code").bind (·.int?)
    | .array items => items.findSome? fun item =>
      if item.fileName = some fileName then (item.get? "status_code").bind (·.int?) else none
    | _ => none
  match status with
  | some n => .ok n
  | none => .error (.deletion .claimEvidence
      "Unexpected SDS delete response while deleting claim evidence")

/-- What comes back from a deletion, none when there is no token or no answer, and whether
the file is gone then. -/
structure DeleteReply where
  answer : Option (ℕ × Payload)
  removed : Bool

def refusedDeletion (kind : DocumentKind) (status : String) : DocumentError :=
  .deletion kind ("SDS returned " ++ status ++ " while deleting " ++ kind.label)

/-- Whether the adapter takes the answer for a deletion. -/
def checkDeletion (kind : DocumentKind) (fileName : String) :
    Option (ℕ × Payload) → Except DocumentError Unit
  | none => .error (.portFailure .deleteRow)
  | some (statusCode, payload) => do
    if statusCode ≠ 200 then throw (refusedDeletion kind (toString statusCode))
    let deleteStatusCode ← extractDeleteStatusCode payload fileName
    if deleteStatusCode ≠ 204 then throw (refusedDeletion kind (toString deleteStatusCode))

section Calls

variable {σ : Type} (kind : DocumentKind) (fileName : String)

/-- What a deletion does to the files: nothing without a name to ask for. -/
def removal (reply : DeleteReply) : List SdsEffect :=
  if ¬ isBlank fileName ∧ reply.removed then [.removed fileName] else []

def deleteFile (reply : DeleteReply) : Tx DocumentError σ SdsEffect Unit := fun t =>
  let t' := { t with outbox := removal fileName reply ++ t.outbox }
  if isBlank fileName then
    .error ⟨.invalidDocumentId kind "file_name must be a non-empty string", .raised⟩ t'
  else match checkDeletion kind fileName reply.answer with
    | .ok () => .ok () t'
    | .error e => .error ⟨e, .raised⟩ t'

/-- The answer to a file that is saved: with a 201 it is stored. -/
structure SaveReply where
  uniqueFileName : String
  statusCode : Option ℕ
  stored : Bool
  created : statusCode = some 201 → stored = true

def saveFile (reply : SaveReply) : Tx DocumentError σ SdsEffect Bool := fun t =>
  let t' := if reply.stored then { t with outbox := .saved reply.uniqueFileName :: t.outbox } else t
  match reply.statusCode with
  | none => .error ⟨.portFailure .saveFile, .raised⟩ t'
  | some statusCode => .ok (statusCode = 201) t'

def virusCheck : Option ℕ → Except DocumentError Bool
  | none => .error (.upload kind "Failed to perform virus check due to a network error")
  | some 200 => .ok true
  | some 400 => .ok false
  | some statusCode =>
    .error (.upload kind ("Failed to perform virus check. API status code: " ++ toString statusCode))

end Calls

end SdsAdapter

structure UploadedDocument where
  sdsFileName : String
  fileName : String
  fileSize : ℤ

/-- Where the rows of one kind of document are kept. -/
structure DocumentTable (σ : Type) where
  kind : DocumentKind
  sdsFileName : σ → Uuid → Option String
  insert : σ → Uuid → UploadedDocument → Except DocumentError σ
  delete : σ → Uuid → Except DocumentError σ

abbrev DocumentRequest (σ α : Type) := Uow DocumentError σ SdsEffect Unit α

/-- One deletion, and how its calls end. -/
structure DocumentDeletion where
  documentId : Uuid
  reply : SdsAdapter.DeleteReply
  faults : DocumentFaults

/-- One upload, with the answers of the service and the key that is drawn for the row. -/
structure DocumentUpload where
  fileName : String
  fileSize : ℤ
  virusCheck : Option ℕ
  reply : SdsAdapter.SaveReply
  documentId : Uuid
  faults : DocumentFaults

section UseCases

variable {σ : Type} (table : DocumentTable σ)

def documentFault (faults : DocumentFaults) (call : DocumentCall) : Option DocumentError :=
  (faults call).map fun _ => .portFailure call

/-- `delete_coroners_letter_by_id` and `delete_claim_evidence_by_id`. -/
def deleteDocumentById (r : DocumentDeletion) : DocumentRequest σ Bool := do
  let found ← Uow.transact (Tx.query fun s => table.sdsFileName s r.documentId)
  match found with
  | none => pure false
  | some _ =>
    Uow.inTransaction
      (Tx.flush (r.faults .deleteRow) (.portFailure .deleteRow)
        fun s => (table.delete s r.documentId).map fun s' => (true, s'))
      (documentFault r.faults .commit)

def documentNotFound : Raised DocumentError :=
  .call (.notFound table.kind (table.kind.title ++ " not found"))

/-- Whatever goes wrong is reported as a deletion that failed, but for a missing row. -/
def asDeleteError : Raised DocumentError → Raised DocumentError
  | .call (.notFound kind message) =>
    if kind = table.kind then .call (.notFound kind message)
    else .call (.deletion table.kind ("Failed to delete " ++ table.kind.label))
  | _ => .call (.deletion table.kind ("Failed to delete " ++ table.kind.label))

/-- The file goes first, and the row after it. -/
def deleteBoth (fileName : String) (r : DocumentDeletion) : DocumentRequest σ Unit := do
  Uow.transact (SdsAdapter.deleteFile table.kind fileName r.reply)
  let deleted ← deleteDocumentById table r
  if ¬ deleted then throw (documentNotFound table)

def deleteDocument (r : DocumentDeletion) : DocumentRequest σ Unit := do
  let found ← Uow.transact (Tx.check fun s =>
    match r.faults .getById with
    | some _ => .error (.portFailure .getById)
    | none => .ok (table.sdsFileName s r.documentId))
  match found with
  | none => throw (documentNotFound table)
  | some fileName => tryCatch (deleteBoth table fileName r) fun e => throw (asDeleteError table e)

/-- A row is written for a file that is saved. -/
def uploadDocument (r : DocumentUpload) : DocumentRequest σ Uuid := do
  match SdsAdapter.virusCheck table.kind r.virusCheck with
  | .error _ =>
    throw (.call (.virusCheck table.kind "Upload failed due to server error during virus check"))
  | .ok isSafe =>
    if ¬ isSafe then
      throw (.call (.virusDetected table.kind "Upload failed due to identified virus"))
    let success ← Uow.transact (SdsAdapter.saveFile r.reply)
    if ¬ success then
      throw (.call (.upload table.kind (table.kind.title ++ " was not uploaded successfully")))
    Uow.inTransaction
      (Tx.flush (r.faults .saveRow) (.portFailure .saveRow)
        fun s => (table.insert s r.documentId ⟨r.reply.uniqueFileName, r.fileName, r.fileSize⟩).map
          fun s' => (r.documentId, s'))
      (documentFault r.faults .commit)

end UseCases

section Deletion

variable {σ : Type} {table : DocumentTable σ} {r : DocumentDeletion} {fileName : String}
variable {kind : DocumentKind} {reply : SdsAdapter.DeleteReply} {db : σ} {files : List SdsEffect}
variable {t t' : Txn σ SdsEffect}

theorem deleteFile_end : endState (SdsAdapter.deleteFile kind fileName reply t)
    = { t with outbox := SdsAdapter.removal fileName reply ++ t.outbox } := by
  unfold SdsAdapter.deleteFile
  split
  · rfl
  · split <;> rfl

theorem deleteFile_ok {u : Unit} : SdsAdapter.deleteFile kind fileName reply t = .ok u t' ↔
    isBlank fileName = false ∧ SdsAdapter.checkDeletion kind fileName reply.answer = .ok ()
      ∧ t' = { t with outbox := SdsAdapter.removal fileName reply ++ t.outbox } := by
  unfold SdsAdapter.deleteFile
  cases isBlank fileName with
  | true => simp
  | false => cases SdsAdapter.checkDeletion kind fileName reply.answer <;> simp [eq_comm]

/-- The database lets the row of a document go. -/
structure RowGoes (table : DocumentTable σ) (r : DocumentDeletion) (db : σ) : Prop where
  deleteRow : r.faults .deleteRow = none
  row : ∃ db', table.delete db r.documentId = .ok db'
  commit : r.faults .commit = none

/-- Both parts of a document can be deleted: the service reports that it has deleted the
file, and the database lets the row go. -/
structure Deletable (table : DocumentTable σ) (r : DocumentDeletion) (fileName : String)
    (db : σ) : Prop where
  named : isBlank fileName = false
  accepted : SdsAdapter.checkDeletion table.kind fileName r.reply.answer = .ok ()
  row : RowGoes table r db

/-- The row of a document that is found goes, unless the flush or the commit fails. -/
theorem deleteDocumentById_ensures :
    Uow.Ensures (fun t => t = ⟨db, files⟩ ∧ table.sdsFileName db r.documentId = some fileName)
      (deleteDocumentById table r)
      (fun deleted t => deleted = true ∧ RowGoes table r db
        ∧ table.delete db r.documentId = .ok t.store ∧ t.outbox = files)
      (fun t => ¬ RowGoes table r db ∧ t = ⟨db, files⟩) := by
  unfold deleteDocumentById
  refine .bind .query fun found => ?_
  cases found with
  | none =>
      apply Uow.Ensures.pure
      rintro t ⟨hmissing, rfl, hrow⟩
      rw [hrow] at hmissing
      cases hmissing
  | some found =>
      apply Uow.Ensures.inTransaction
      · rintro t deleted t' ⟨-, rfl, -⟩ hbody hcommit
        obtain ⟨hflush, s, hdelete, rfl⟩ := Tx.flush_ok.mp hbody
        cases hgone : table.delete db r.documentId with
        | error e =>
            rw [hgone] at hdelete
            cases hdelete
        | ok db' =>
            rw [hgone] at hdelete
            cases hdelete
            refine ⟨rfl, ⟨hflush, ⟨_, hgone⟩, ?_⟩, rfl, rfl⟩
            simpa [documentFault] using hcommit
      · rintro t ⟨-, rfl, -⟩ hfails
        constructor
        · rintro ⟨hflush, ⟨db', hgone⟩, hcommit⟩
          refine hfails true ⟨db', files⟩ (Tx.flush_ok.mpr ⟨hflush, db', ?_, rfl⟩) ?_
          · rw [hgone]
            rfl
          · simp [documentFault, hcommit]
        · exact congrArg (Txn.mk db) (Tx.Silent.flush _ _ _ _)

theorem deleteBoth_ensures :
    Uow.Ensures (fun t => t = ⟨db, []⟩ ∧ table.sdsFileName db r.documentId = some fileName)
      (deleteBoth table fileName r)
      (fun _ t => Deletable table r fileName db ∧ table.delete db r.documentId = .ok t.store
        ∧ t.outbox = SdsAdapter.removal fileName r.reply)
      (fun t => ¬ Deletable table r fileName db
        ∧ t = ⟨db, SdsAdapter.removal fileName r.reply⟩) := by
  unfold deleteBoth
  refine .bind (Q := fun _ t => (isBlank fileName = false
    ∧ SdsAdapter.checkDeletion table.kind fileName r.reply.answer = .ok ())
    ∧ t = ⟨db, SdsAdapter.removal fileName r.reply⟩
    ∧ table.sdsFileName db r.documentId = some fileName) (.dispatch ?_ ?_ ?_) fun _ => ?_
  · intro t
    rw [deleteFile_end]
  · rintro t u t' ⟨rfl, hrow⟩ hbody
    obtain ⟨hnamed, haccepted, rfl⟩ := deleteFile_ok.mp hbody
    exact ⟨⟨hnamed, haccepted⟩, congrArg (Txn.mk db) (List.append_nil _), hrow⟩
  · rintro t e t' ⟨rfl, -⟩ hbody
    refine ⟨fun h => ?_, ?_⟩
    · have hgoes : SdsAdapter.deleteFile table.kind fileName r.reply ⟨db, []⟩ = .ok () _ :=
        deleteFile_ok.mpr ⟨h.named, h.accepted, rfl⟩
      rw [hbody] at hgoes
      cases hgoes
    · have hend : endState (SdsAdapter.deleteFile table.kind fileName r.reply ⟨db, []⟩) = _ :=
        deleteFile_end
      rw [hbody, List.append_nil] at hend
      exact hend
  · refine .given fun hgone => .bind (.weaken deleteDocumentById_ensures (fun _ h => h)
      (fun _ _ h => h) ?_) fun deleted => ?_
    · rintro t ⟨hstays, ht⟩
      exact ⟨fun h => hstays h.row, ht⟩
    · cases deleted with
      | false =>
          apply Uow.Ensures.throw
          rintro t ⟨hfalse, -⟩
          cases hfalse
      | true =>
          apply Uow.Ensures.pure
          rintro t ⟨-, hrow, hdelete, houtbox⟩
          exact ⟨⟨hgone.1, hgone.2, hrow⟩, hdelete, houtbox⟩

variable (table r db) in
/-- What a deletion leaves of a document, and when it reports that the document is deleted. -/
theorem deleteDocument_ensures :
    Uow.Ensures (fun t => t = ⟨db, []⟩) (deleteDocument table r)
      (fun _ t => ∃ fileName, r.faults .getById = none
        ∧ table.sdsFileName db r.documentId = some fileName ∧ Deletable table r fileName db
        ∧ table.delete db r.documentId = .ok t.store
        ∧ t.outbox = SdsAdapter.removal fileName r.reply)
      (fun t => t = ⟨db, []⟩ ∧ (r.faults .getById = none → table.sdsFileName db r.documentId = none)
        ∨ ∃ fileName, r.faults .getById = none
          ∧ table.sdsFileName db r.documentId = some fileName ∧ ¬ Deletable table r fileName db
          ∧ t = ⟨db, SdsAdapter.removal fileName r.reply⟩) := by
  unfold deleteDocument
  cases hfault : r.faults .getById with
  | some fault =>
      refine .bind (.weaken (.check fun _ h => h) (fun _ h => h) (fun _ _ h => h) ?_) fun found => ?_
      · rintro t rfl
        exact .inl ⟨rfl, fun h => nomatch h⟩
      · intro s _ h
        cases h.1
  | none =>
      refine .bind (m := Uow.transact (Tx.query fun s => table.sdsFileName s r.documentId))
        .query fun found => ?_
      cases found with
      | none =>
          apply Uow.Ensures.throw
          rintro t ⟨hmissing, rfl⟩
          exact .inl ⟨rfl, fun _ => hmissing⟩
      | some fileName =>
          refine .weaken (P := fun t => table.sdsFileName db r.documentId = some fileName
            ∧ t = ⟨db, []⟩) (.given fun hrow => ?_) ?_ (fun _ _ h => h) (fun _ h => h)
          · refine .weaken (deleteBoth_ensures.refuse
              fun e s => ⟨asDeleteError table e, s, rfl, rfl, rfl, rfl⟩) (fun t ht => ⟨ht, hrow⟩)
              (fun _ t ht => ?_) (fun t ht => ?_)
            · exact ⟨fileName, rfl, hrow, ht⟩
            · exact .inr ⟨fileName, rfl, hrow, ht⟩
          · rintro t ⟨hrow, rfl⟩
            exact ⟨hrow, rfl⟩

end Deletion

section Upload

variable {σ : Type} {table : DocumentTable σ} {r : DocumentUpload} {db : σ}
variable {t t' : Txn σ SdsEffect} {reply : SdsAdapter.SaveReply}

/-- A file that is reported as saved is stored. -/
theorem saveFile_true (h : SdsAdapter.saveFile reply t = .ok true t') :
    t' = { t with outbox := .saved reply.uniqueFileName :: t.outbox } := by
  unfold SdsAdapter.saveFile at h
  cases hstatus : reply.statusCode with
  | none => simp [hstatus] at h
  | some statusCode =>
      simp only [hstatus, EStateM.Result.ok.injEq, decide_eq_true_eq] at h
      obtain ⟨rfl, rfl⟩ := h
      rw [if_pos (reply.created hstatus)]

variable (reply t) in
/-- Without the report, it is stored at most. -/
theorem saveFile_end : (endState (SdsAdapter.saveFile reply t)).store = t.store
    ∧ ((endState (SdsAdapter.saveFile reply t)).outbox = t.outbox
      ∨ (endState (SdsAdapter.saveFile reply t)).outbox = .saved reply.uniqueFileName :: t.outbox) := by
  unfold SdsAdapter.saveFile
  cases reply.statusCode <;> cases reply.stored <;> simp [endState]

variable (table r db) in
/-- A row is committed for a file that is stored; without the row, the file is there at most. -/
theorem uploadDocument_ensures :
    Uow.Ensures (fun t => t = ⟨db, []⟩) (uploadDocument table r)
      (fun _ t => table.insert db r.documentId
          ⟨r.reply.uniqueFileName, r.fileName, r.fileSize⟩ = .ok t.store
        ∧ t.outbox = [.saved r.reply.uniqueFileName])
      (fun t => t.store = db ∧ (t.outbox = [] ∨ t.outbox = [.saved r.reply.uniqueFileName])) := by
  unfold uploadDocument
  cases SdsAdapter.virusCheck table.kind r.virusCheck with
  | error e => exact .throw fun t ht => ht ▸ ⟨rfl, .inl rfl⟩
  | ok isSafe =>
      cases isSafe with
      | false => exact .throw fun t ht => ht ▸ ⟨rfl, .inl rfl⟩
      | true =>
          refine .bind (Q := fun success t => t.store = db
            ∧ (t.outbox = [] ∨ t.outbox = [.saved r.reply.uniqueFileName])
            ∧ (success = true → t.outbox = [.saved r.reply.uniqueFileName]))
            (.dispatch (fun _ => (saveFile_end _ _).1) ?_ ?_) fun success => ?_
          · rintro t success t' rfl hbody
            have hend := saveFile_end (⟨db, []⟩ : Txn σ SdsEffect) r.reply
            rw [hbody] at hend
            refine ⟨hend.1, hend.2, ?_⟩
            rintro rfl
            rw [saveFile_true hbody]
          · rintro t e t' rfl hbody
            have hend := saveFile_end (⟨db, []⟩ : Txn σ SdsEffect) r.reply
            rw [hbody] at hend
            exact hend
          · cases success with
            | false => exact .throw fun t ht => ⟨ht.1, ht.2.1⟩
            | true =>
                apply Uow.Ensures.inTransaction
                · rintro t documentId t' ⟨rfl, -, houtbox⟩ hbody -
                  obtain ⟨-, s, hinsert, rfl⟩ := Tx.flush_ok.mp hbody
                  cases hrow : table.insert t.store r.documentId
                      ⟨r.reply.uniqueFileName, r.fileName, r.fileSize⟩ with
                  | error e =>
                      rw [hrow] at hinsert
                      cases hinsert
                  | ok s' =>
                      rw [hrow] at hinsert
                      cases hinsert
                      exact ⟨rfl, houtbox rfl⟩
                · rintro t ⟨hstore, houtbox, -⟩ -
                  rw [Tx.Silent.flush]
                  exact ⟨hstore, houtbox⟩

end Upload

end InquestsApi
