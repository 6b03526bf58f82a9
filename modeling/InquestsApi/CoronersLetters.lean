import InquestsApi.Documents

/-! Coroner's letters. An application refers to the row of its letter, and the row names the
file of the document service that holds the letter. -/
namespace InquestsApi

open UnitOfWork

structure CoronersLetter where
  coronersLetterId : Uuid
  sdsFileName : String
  fileName : String
  deriving DecidableEq, Repr

/-- An application, of which only the reference to its letter matters here. -/
structure ApplicationLetter where
  applicationId : ℕ
  coronersLetterId : Option Uuid
  deriving DecidableEq, Repr

structure LetterTables where
  coronersLetters : List CoronersLetter
  applications : List ApplicationLetter

namespace LetterTables

variable (s : LetterTables) (coronersLetterId : Uuid)

def getCoronersLetterById : Option CoronersLetter :=
  s.coronersLetters.find? fun letter => letter.coronersLetterId = coronersLetterId

def saveUploadedCoronersLetter (document : UploadedDocument) : Except DocumentError LetterTables :=
  if s.coronersLetters.any (·.coronersLetterId = coronersLetterId) then
    .error (.uniqueViolation "coroners_letter_pkey")
  else .ok { s with coronersLetters := s.coronersLetters
    ++ [⟨coronersLetterId, document.sdsFileName, document.fileName⟩] }

def without : LetterTables :=
  { s with coronersLetters := s.coronersLetters.filter (·.coronersLetterId ≠ coronersLetterId) }

/-- The foreign key of an application keeps the row of its letter. -/
def deleteCoronersLetterById : Except DocumentError LetterTables :=
  if s.applications.any (·.coronersLetterId = some coronersLetterId) then
    .error (.foreignKeyViolation "application_coroners_letter_id_fkey")
  else .ok (s.without coronersLetterId)

def saveApplication (application : ApplicationLetter) : Except DocumentError LetterTables :=
  if ∀ id ∈ application.coronersLetterId, ∃ letter ∈ s.coronersLetters, letter.coronersLetterId = id then
    .ok { s with applications := s.applications ++ [application] }
  else .error (.foreignKeyViolation "application_coroners_letter_id_fkey")

end LetterTables

def coronersLetterTable : DocumentTable LetterTables where
  kind := .coronersLetter
  sdsFileName := fun s id => (s.getCoronersLetterById id).map (·.sdsFileName)
  insert := LetterTables.saveUploadedCoronersLetter
  delete := LetterTables.deleteCoronersLetterById

def UploadCoronersLetterUseCase.execute (r : DocumentUpload) : DocumentRequest LetterTables Uuid :=
  uploadDocument coronersLetterTable r

def DeleteCoronersLetterUseCase.execute (r : DocumentDeletion) : DocumentRequest LetterTables Unit :=
  deleteDocument coronersLetterTable r

/-- The committed tables, and the files that the document service holds. -/
structure LetterWorld where
  tables : LetterTables
  files : List String

namespace LetterWorld

variable (w : LetterWorld)

def after (t : Txn LetterTables SdsEffect) : LetterWorld :=
  ⟨t.store, t.outbox.foldr SdsEffect.apply w.files⟩

def uploaded (r : DocumentUpload) : LetterWorld :=
  w.after (endState (UploadCoronersLetterUseCase.execute r (.start w.tables))).view

def deleted (r : DocumentDeletion) : LetterWorld :=
  w.after (endState (DeleteCoronersLetterUseCase.execute r (.start w.tables))).view

/-- A deletion that fails leaves the row and the file. -/
def KeepsOnFailure (r : DocumentDeletion) : Prop :=
  ∀ e s', DeleteCoronersLetterUseCase.execute r (.start w.tables) = .error e s' →
    ∀ letter, w.tables.getCoronersLetterById r.documentId = some letter →
      (w.after s'.view).tables.getCoronersLetterById r.documentId = some letter
        ∧ (letter.sdsFileName ∈ w.files → letter.sdsFileName ∈ (w.after s'.view).files)

/-- The service reports the deletion, no application refers to the letter, and the row goes. -/
structure DeletesBoth (r : DocumentDeletion) (letter : CoronersLetter) : Prop where
  accepted : SdsAdapter.checkDeletion .coronersLetter letter.sdsFileName r.reply.answer = .ok ()
  unreferenced : ∀ a ∈ w.tables.applications, a.coronersLetterId ≠ some r.documentId
  deleteRow : r.faults .deleteRow = none
  commit : r.faults .commit = none

/-- Where the call of the service takes the file away, nothing after it fails. -/
def SafeToDelete (r : DocumentDeletion) : Prop :=
  ∀ letter, r.faults .getById = none →
    w.tables.getCoronersLetterById r.documentId = some letter → letter.sdsFileName ∈ w.files →
    isBlank letter.sdsFileName = false → r.reply.removed = true → w.DeletesBoth r letter

/-- Every letter that an application refers to has its file. -/
def ReferencedLettersFiled : Prop :=
  ∀ a ∈ w.tables.applications, ∀ id, a.coronersLetterId = some id →
    ∃ letter ∈ w.tables.coronersLetters, letter.coronersLetterId = id
      ∧ letter.sdsFileName ∈ w.files

/-- Every letter has a file of its own, and what applications refer to is there. -/
structure Filed : Prop where
  filed : ∀ letter ∈ w.tables.coronersLetters, letter.sdsFileName ∈ w.files
  ownFile : ∀ a ∈ w.tables.coronersLetters, ∀ b ∈ w.tables.coronersLetters,
    a.sdsFileName = b.sdsFileName → a = b
  referenced : ∀ a ∈ w.tables.applications, ∀ id, a.coronersLetterId = some id →
    ∃ letter ∈ w.tables.coronersLetters, letter.coronersLetterId = id

end LetterWorld

section Deletion

variable {w : LetterWorld} {r : DocumentDeletion} {letter : CoronersLetter}

theorem sdsFileName_eq_some {s : LetterTables} {id : Uuid} {fileName : String} :
    coronersLetterTable.sdsFileName s id = some fileName
      ↔ ∃ letter, s.getCoronersLetterById id = some letter ∧ letter.sdsFileName = fileName :=
  Option.map_eq_some_iff

theorem deleteCoronersLetterById_ok {s s' : LetterTables} {id : Uuid} :
    s.deleteCoronersLetterById id = .ok s' ↔ (∀ a ∈ s.applications, a.coronersLetterId ≠ some id)
      ∧ s' = s.without id := by
  unfold LetterTables.deleteCoronersLetterById
  by_cases h : s.applications.any (·.coronersLetterId = some id) = true
  · rw [if_pos h]
    obtain ⟨a, ha, hrefers⟩ := List.any_eq_true.mp h
    constructor
    · intro hok
      cases hok
    · rintro ⟨hnone, -⟩
      exact absurd (of_decide_eq_true hrefers) (hnone a ha)
  · rw [if_neg h, Except.ok.injEq, eq_comm (b := s')]
    have hnone : ∀ a ∈ s.applications, a.coronersLetterId ≠ some id := by
      intro a ha hrefers
      exact h (List.any_eq_true.mpr ⟨a, ha, decide_eq_true hrefers⟩)
    exact (and_iff_right hnone).symm

theorem deletable_iff (hnamed : isBlank letter.sdsFileName = false) :
    Deletable coronersLetterTable r letter.sdsFileName w.tables ↔ w.DeletesBoth r letter := by
  constructor
  · intro h
    obtain ⟨db', hdelete⟩ := h.row.row
    exact ⟨h.accepted, (deleteCoronersLetterById_ok.mp hdelete).1, h.row.deleteRow, h.row.commit⟩
  · intro h
    exact ⟨hnamed, h.accepted, h.deleteRow,
      ⟨_, deleteCoronersLetterById_ok.mpr ⟨h.unreferenced, rfl⟩⟩, h.commit⟩

theorem mem_files_after_removal {fileName other : String} {reply : SdsAdapter.DeleteReply}
    {files : List String} :
    other ∈ (SdsAdapter.removal fileName reply).foldr SdsEffect.apply files
      ↔ other ∈ files ∧ (isBlank fileName = false → reply.removed = true → other ≠ fileName) := by
  unfold SdsAdapter.removal
  by_cases h : ¬ isBlank fileName = true ∧ reply.removed = true
  · obtain ⟨hnamed, hremoved⟩ := h
    simp [hnamed, hremoved, SdsEffect.apply]
  · rw [if_neg h, List.foldr_nil]
    constructor
    · intro hmem
      refine ⟨hmem, fun hnamed hremoved => absurd ⟨?_, hremoved⟩ h⟩
      simp [hnamed]
    · exact fun hmem => hmem.1

/-- A deletion that fails keeps both parts of the letter exactly where it is safe to delete. -/
theorem keepsOnFailure_iff : w.KeepsOnFailure r ↔ w.SafeToDelete r := by
  have hends := deleteDocument_ensures coronersLetterTable r w.tables
    (.start w.tables) (Session.start_clean w.tables) rfl
  constructor
  · intro hkeeps letter hlookup hrow hfile hnamed hremoved
    by_contra hnot
    have hstuck := mt (deletable_iff hnamed).mp hnot
    cases hresult : DeleteCoronersLetterUseCase.execute r (.start w.tables) with
    | ok u s' =>
        obtain ⟨-, fileName, -, hfound, hdeletable, -⟩ := hends.1 u s' hresult
        obtain ⟨found, hfoundRow, rfl⟩ := sdsFileName_eq_some.mp hfound
        obtain rfl : letter = found := Option.some.inj (hrow.symm.trans hfoundRow)
        exact hstuck hdeletable
    | error e s' =>
        have hstays := (hkeeps e s' hresult letter hrow).2 hfile
        rcases hends.2 e s' hresult with ⟨-, hmissing⟩ | ⟨fileName, -, hfound, -, hview⟩
        · have hnone := hmissing hlookup
          rw [sdsFileName_eq_some.mpr ⟨letter, hrow, rfl⟩] at hnone
          cases hnone
        · obtain ⟨found, hfoundRow, rfl⟩ := sdsFileName_eq_some.mp hfound
          obtain rfl : letter = found := Option.some.inj (hrow.symm.trans hfoundRow)
          rw [hview] at hstays
          exact (mem_files_after_removal.mp hstays).2 hnamed hremoved rfl
  · intro hsafe e s' hresult letter hrow
    rcases hends.2 e s' hresult with ⟨hview, -⟩ | ⟨fileName, hlookup, hfound, hstuck, hview⟩
    · rw [hview]
      exact ⟨hrow, fun hfile => hfile⟩
    · obtain ⟨found, hfoundRow, rfl⟩ := sdsFileName_eq_some.mp hfound
      obtain rfl : letter = found := Option.some.inj (hrow.symm.trans hfoundRow)
      rw [hview]
      refine ⟨hrow, fun hfile => mem_files_after_removal.mpr ⟨hfile, ?_⟩⟩
      intro hnamed hremoved
      have hboth := hsafe letter hlookup hrow hfile hnamed hremoved
      exact absurd ((deletable_iff hnamed).mpr hboth) hstuck

end Deletion

namespace LetterWorld

variable {w : LetterWorld}

theorem Filed.referencedLettersFiled (h : w.Filed) : w.ReferencedLettersFiled := by
  intro a ha id hrefers
  obtain ⟨letter, hmem, hid⟩ := h.referenced a ha id hrefers
  exact ⟨letter, hmem, hid, h.filed letter hmem⟩

/-- What a safe deletion does to the world: nothing, or a letter without references goes, its
file before its row. -/
theorem deleted_cases {r : DocumentDeletion} (h : w.Filed) (hsafe : w.SafeToDelete r) :
    (w.deleted r).tables = w.tables ∧ (∀ f ∈ w.files, f ∈ (w.deleted r).files)
    ∨ ∃ letter ∈ w.tables.coronersLetters, letter.coronersLetterId = r.documentId
      ∧ (∀ a ∈ w.tables.applications, a.coronersLetterId ≠ some r.documentId)
      ∧ (w.deleted r).tables = w.tables.without r.documentId
      ∧ ∀ f ∈ w.files, f ≠ letter.sdsFileName → f ∈ (w.deleted r).files := by
  have hends := deleteDocument_ensures coronersLetterTable r w.tables
    (.start w.tables) (Session.start_clean w.tables) rfl
  unfold deleted
  cases hresult : DeleteCoronersLetterUseCase.execute r (.start w.tables) with
  | ok u s' =>
      obtain ⟨-, fileName, -, hfound, -, hdelete, houtbox⟩ := hends.1 u s' hresult
      obtain ⟨letter, hrow, rfl⟩ := sdsFileName_eq_some.mp hfound
      obtain ⟨hunreferenced, htables⟩ := deleteCoronersLetterById_ok.mp hdelete
      have hid := List.find?_some hrow
      refine .inr ⟨letter, List.mem_of_find?_eq_some hrow, of_decide_eq_true hid, hunreferenced,
        htables, ?_⟩
      intro f hf hother
      simp only [after, endState, houtbox]
      exact mem_files_after_removal.mpr ⟨hf, fun _ _ => hother⟩
  | error e s' =>
      refine .inl ?_
      rcases hends.2 e s' hresult with ⟨hview, -⟩ | ⟨fileName, hlookup, hfound, hstuck, hview⟩
      · simp only [endState, hview]
        exact ⟨rfl, fun f hf => hf⟩
      · obtain ⟨letter, hrow, rfl⟩ := sdsFileName_eq_some.mp hfound
        simp only [endState, hview]
        refine ⟨rfl, fun f hf => mem_files_after_removal.mpr ⟨hf, ?_⟩⟩
        intro hnamed hremoved
        have hfile := h.filed letter (List.mem_of_find?_eq_some hrow)
        have hboth := hsafe letter hlookup hrow hfile hnamed hremoved
        exact absurd ((deletable_iff hnamed).mpr hboth) hstuck

/-- The files that a safe deletion takes are not those of other letters. -/
theorem Filed.file_stays {r : DocumentDeletion} (h : w.Filed) (hsafe : w.SafeToDelete r)
    {letter : CoronersLetter} (hmem : letter ∈ w.tables.coronersLetters)
    (hkept : letter ∈ (w.deleted r).tables.coronersLetters
      ∨ ∃ a ∈ w.tables.applications, a.coronersLetterId = some letter.coronersLetterId) :
    letter.sdsFileName ∈ (w.deleted r).files := by
  have hfile := h.filed letter hmem
  rcases deleted_cases h hsafe with ⟨-, hfiles⟩ | ⟨gone, hgone, hid, hunreferenced, htables, hfiles⟩
  · exact hfiles _ hfile
  · apply hfiles _ hfile
    intro hsame
    have heq : letter = gone := h.ownFile letter hmem gone hgone hsame
    rcases hkept with hkept | ⟨a, ha, hrefers⟩
    · rw [htables] at hkept
      have hother := (List.mem_filter.mp hkept).2
      simp [heq, hid] at hother
    · rw [heq, hid] at hrefers
      exact hunreferenced a ha hrefers

theorem Filed.deleted {r : DocumentDeletion} (h : w.Filed) (hsafe : w.SafeToDelete r) :
    (w.deleted r).Filed := by
  have hrows : (w.deleted r).tables.coronersLetters ⊆ w.tables.coronersLetters := by
    rcases deleted_cases h hsafe with ⟨htables, -⟩ | ⟨_, -, -, -, htables, -⟩
    · rw [htables]
      exact List.Subset.refl _
    · rw [htables]
      exact List.filter_subset_self _
  constructor
  · exact fun letter hmem => h.file_stays hsafe (hrows hmem) (.inl hmem)
  · exact fun a ha b hb hsame => h.ownFile a (hrows ha) b (hrows hb) hsame
  · rcases deleted_cases h hsafe with ⟨htables, -⟩ | ⟨gone, -, hid, hunreferenced, htables, -⟩
    · rw [htables]
      exact h.referenced
    · rw [htables]
      intro a ha id hrefers
      obtain ⟨letter, hmem, hletter⟩ := h.referenced a ha id hrefers
      refine ⟨letter, List.mem_filter.mpr ⟨hmem, ?_⟩, hletter⟩
      apply decide_eq_true
      intro hsame
      exact hunreferenced a ha (hrefers.trans (congrArg some (hletter.symm.trans hsame)))

/-- An upload under a name that no letter has. -/
theorem Filed.uploaded {r : DocumentUpload} (h : w.Filed)
    (hfresh : ∀ letter ∈ w.tables.coronersLetters, letter.sdsFileName ≠ r.reply.uniqueFileName) :
    (w.uploaded r).Filed := by
  have hends := uploadDocument_ensures coronersLetterTable r w.tables
    (.start w.tables) (Session.start_clean w.tables) rfl
  unfold LetterWorld.uploaded
  cases hresult : UploadCoronersLetterUseCase.execute r (.start w.tables) with
  | ok id s' =>
      obtain ⟨-, hinsert, houtbox⟩ := hends.1 id s' hresult
      have hinsert : w.tables.saveUploadedCoronersLetter r.documentId
        ⟨r.reply.uniqueFileName, r.fileName, r.fileSize⟩ = .ok s'.view.store := hinsert
      unfold LetterTables.saveUploadedCoronersLetter at hinsert
      split at hinsert
      · cases hinsert
      · have htables := (Except.ok.inj hinsert).symm
        simp only [endState]
        constructor
        · intro letter hmem
          simp only [after, htables, List.mem_append, List.mem_singleton] at hmem
          simp only [after, houtbox, List.foldr_cons, List.foldr_nil, SdsEffect.apply]
          rcases hmem with hmem | rfl
          · exact List.mem_cons_of_mem _ (h.filed letter hmem)
          · exact List.mem_cons_self
        · intro a ha b hb hsame
          simp only [after, htables, List.mem_append, List.mem_singleton] at ha hb
          rcases ha with ha | rfl
          · rcases hb with hb | rfl
            · exact h.ownFile a ha b hb hsame
            · exact absurd hsame (hfresh a ha)
          · rcases hb with hb | rfl
            · exact absurd hsame.symm (hfresh b hb)
            · rfl
        · intro a ha id hrefers
          simp only [after, htables] at ha ⊢
          obtain ⟨letter, hmem, hid⟩ := h.referenced a ha id hrefers
          exact ⟨letter, List.mem_append_left _ hmem, hid⟩
  | error e s' =>
      obtain ⟨htables, houtbox⟩ := hends.2 e s' hresult
      simp only [endState]
      constructor
      · intro letter hmem
        simp only [after, htables] at hmem
        have hfile := h.filed letter hmem
        rcases houtbox with hnone | hsaved
        · simpa [after, hnone] using hfile
        · simp only [after, hsaved, List.foldr_cons, List.foldr_nil, SdsEffect.apply]
          exact List.mem_cons_of_mem _ hfile
      · simp only [after, htables]
        exact h.ownFile
      · simp only [after, htables]
        exact h.referenced

theorem Filed.application {tables : LetterTables} {a : ApplicationLetter} (h : w.Filed)
    (hsaved : w.tables.saveApplication a = .ok tables) : (⟨tables, w.files⟩ : LetterWorld).Filed := by
  unfold LetterTables.saveApplication at hsaved
  split at hsaved
  next hkey =>
    obtain rfl := Except.ok.inj hsaved
    refine ⟨h.filed, h.ownFile, ?_⟩
    intro b hb id hrefers
    rcases List.mem_append.mp hb with hb | hb
    · exact h.referenced b hb id hrefers
    · rw [List.mem_singleton.mp hb] at hrefers
      exact hkey id hrefers
  next => cases hsaved

/-- Worlds that uploads, new applications and safe deletions lead to. Each upload draws a
name for its file that no letter has. -/
inductive Reachable : LetterWorld → Prop
  | start (w : LetterWorld) (h : w.Filed) : Reachable w
  | upload {w : LetterWorld} (r : DocumentUpload) (h : Reachable w)
      (hfresh : ∀ letter ∈ w.tables.coronersLetters, letter.sdsFileName ≠ r.reply.uniqueFileName) :
      Reachable (w.uploaded r)
  | application {w : LetterWorld} {tables : LetterTables} (a : ApplicationLetter) (h : Reachable w)
      (hsaved : w.tables.saveApplication a = .ok tables) : Reachable ⟨tables, w.files⟩
  | delete {w : LetterWorld} (r : DocumentDeletion) (h : Reachable w) (hsafe : w.SafeToDelete r) :
      Reachable (w.deleted r)

theorem Reachable.filed (h : Reachable w) : w.Filed := by
  induction h with
  | start w h => exact h
  | upload r h hfresh ih => exact ih.uploaded hfresh
  | application a h hsaved ih => exact ih.application hsaved
  | delete r h hsafe ih => exact ih.deleted hsafe

end LetterWorld

/-- Deleting a letter is all or nothing exactly where it is safe; and where each deletion is
safe, every letter that an application refers to has its file, also after the service has
taken a file away and before the row goes. -/
theorem coronersLetter_deletion_allOrNothing_iff (w : LetterWorld) :
    (∀ r, w.KeepsOnFailure r ↔ w.SafeToDelete r)
      ∧ (w.Reachable → w.ReferencedLettersFiled
        ∧ ∀ r, w.SafeToDelete r →
          LetterWorld.ReferencedLettersFiled ⟨w.tables, (w.deleted r).files⟩) := by
  refine ⟨fun r => keepsOnFailure_iff, fun h => ?_⟩
  have hfiled := h.filed
  refine ⟨hfiled.referencedLettersFiled, fun r hsafe a ha id hrefers => ?_⟩
  obtain ⟨letter, hmem, hid⟩ := hfiled.referenced a ha id hrefers
  refine ⟨letter, hmem, hid, hfiled.file_stays hsafe hmem (.inr ⟨a, ha, ?_⟩)⟩
  rw [hrefers, hid]

namespace Sample

def savedLetter (documentId : Uuid) (uniqueFileName : String) : DocumentUpload where
  fileName := "letter.pdf"
  fileSize := 7
  virusCheck := some 200
  reply := ⟨uniqueFileName, some 201, true, fun _ => rfl⟩
  documentId := documentId
  faults := fun _ => none

/-- Two letters, when each has been uploaded. -/
def uploadedLetters : LetterWorld :=
  ((⟨⟨[], []⟩, []⟩ : LetterWorld).uploaded (savedLetter 1 "letter_1.pdf")).uploaded
    (savedLetter 2 "letter_2.pdf")

/-- The first is an application's, and the other can go. -/
def appliedLetters : LetterWorld :=
  ⟨⟨uploadedLetters.tables.coronersLetters, [⟨1, some 1⟩]⟩, uploadedLetters.files⟩

def draftDeletion : DocumentDeletion where
  documentId := 2
  reply := ⟨some (200, .object [("letter_2.pdf", .int 204)]), true⟩
  faults := fun _ => none

theorem draftDeletion_safe : appliedLetters.SafeToDelete draftDeletion := by
  intro letter _ hletter _ _ _
  have hdraft : letter = ⟨2, "letter_2.pdf", "letter.pdf"⟩ :=
    Option.some.inj (hletter.symm.trans (by decide +kernel))
  subst hdraft
  exact ⟨by decide +kernel, by decide +kernel, rfl, rfl⟩

theorem draftDeleted_reachable : (appliedLetters.deleted draftDeletion).Reachable := by
  have hempty : LetterWorld.Filed ⟨⟨[], []⟩, []⟩ :=
    ⟨fun _ hnone => absurd hnone List.not_mem_nil, fun _ hnone => absurd hnone List.not_mem_nil,
      fun _ hnone => absurd hnone List.not_mem_nil⟩
  have huploaded : uploadedLetters.Reachable := by
    refine .upload _ (.upload _ (.start _ hempty) ?_) ?_
    · exact fun _ hnone => absurd hnone List.not_mem_nil
    · decide +kernel
  have hletter : ∀ id, id ∈ (⟨1, some 1⟩ : ApplicationLetter).coronersLetterId →
      ∃ letter ∈ uploadedLetters.tables.coronersLetters, letter.coronersLetterId = id := by
    intro id hid
    cases hid
    decide +kernel
  have hsaved : uploadedLetters.tables.saveApplication ⟨1, some 1⟩ = .ok appliedLetters.tables := by
    unfold LetterTables.saveApplication
    rw [if_pos hletter]
    rfl
  exact .delete _ (.application _ huploaded hsaved) draftDeletion_safe

end Sample

theorem coronersLetter_deletion_allOrNothing_iff_filed :
    (Sample.appliedLetters.deleted Sample.draftDeletion).ReferencedLettersFiled
      ∧ (Sample.appliedLetters.deleted Sample.draftDeletion).tables.applications = [⟨1, some 1⟩]
      ∧ (Sample.appliedLetters.deleted Sample.draftDeletion).files = ["letter_1.pdf"] :=
  ⟨((coronersLetter_deletion_allOrNothing_iff _).2 Sample.draftDeleted_reachable).1, by decide +kernel,
    by decide +kernel⟩

namespace Sample

/-- An application with its letter. -/
def filedLetter : LetterWorld where
  tables := ⟨[⟨1, "letter_1.pdf", "letter.pdf"⟩], [⟨1, some 1⟩]⟩
  files := ["letter_1.pdf"]

/-- A deletion of that letter, which the service carries out. -/
def letterDeletion : DocumentDeletion where
  documentId := 1
  reply := ⟨some (200, .object [("letter_1.pdf", .int 204)]), true⟩
  faults := fun _ => none

theorem filedLetter_filed : filedLetter.Filed where
  filed := by decide
  ownFile := by decide
  referenced := by
    intro a ha id hrefers
    obtain rfl := List.mem_singleton.mp ha
    cases hrefers
    exact ⟨_, List.mem_cons_self, rfl⟩

end Sample

/-- The file of a letter goes although an application keeps its row. -/
theorem referenced_letter_loses_file :
    ¬ ∀ w r, LetterWorld.Filed w →
      LetterWorld.KeepsOnFailure w r ∧ (LetterWorld.deleted w r).ReferencedLettersFiled := by
  intro h
  obtain ⟨-, hfiled⟩ := h Sample.filedLetter Sample.letterDeletion Sample.filedLetter_filed
  have hfiles : (Sample.filedLetter.deleted Sample.letterDeletion).files = [] := by decide
  have hrefers : (⟨1, some 1⟩ : ApplicationLetter)
      ∈ (Sample.filedLetter.deleted Sample.letterDeletion).tables.applications := by decide
  obtain ⟨letter, -, -, hfile⟩ := hfiled _ hrefers 1 rfl
  rw [hfiles] at hfile
  cases hfile

end InquestsApi
