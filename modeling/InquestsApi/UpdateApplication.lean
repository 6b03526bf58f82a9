import InquestsApi.CreateApplication
import InquestsApi.DecideApplication

/-! `UpdatePublicBodiesUseCase` and `CreateNoteUseCase`: what a caseworker changes of an
application apart from its decision. -/
namespace InquestsApi

open UnitOfWork HistoryEventRepository

namespace UpdatePublicBodiesUseCase

variable (env : Env) (faults : Faults) (publicBodyIds : List PublicBodyId)

/-- What is asked of the application and of the list before anything is written. -/
def checkUpdate (laaReference : String) (s : Store) : Except ApiError Application := do
  let application ← findDecidedApplication laaReference s
  if ¬ application.isGranted then .error (.applicationNotGranted laaReference)
  else if publicBodyIds = [] then
    .error (.valueError "At least one public body must be provided.")
  else pure application

def updatedEvent (application : Application) : NewEvent where
  eventReference := .interestedPartyUpdated
  actor := env.user.name
  actorType := .caseworker
  applicationId := application.applicationId
  eventData := [("old_public_bodies", .texts (application.publicBodies.map (·.publicBodyId.value))),
    ("new_public_bodies", .texts (publicBodyIds.map (·.value)))]

def updatePublicBodies (application : Application) : Transaction Unit := do
  portWrite faults .updatePublicBodies fun s => .ok ((),
    s.updateApplication application.applicationId fun a =>
      { a with publicBodies := publicBodyIds.map (·.publicBody) })
  createHistoryEvent env faults (updatedEvent env publicBodyIds application)

def execute (laaReference : String) : Request Unit := do
  let application ← Uow.transact (Tx.check (checkUpdate publicBodyIds laaReference))
  Uow.orRollback (Uow.inTransaction (updatePublicBodies env faults publicBodyIds application)
    (commitFault faults .publicBodies))

end UpdatePublicBodiesUseCase

namespace CreateNoteUseCase

variable (env : Env) (faults : Faults) (noteText : String)

def noteEvent (application : Application) : NewEvent where
  eventReference := .caseNoteAdded
  actor := env.user.name
  actorType := .caseworker
  applicationId := application.applicationId
  eventData := [("note_text", .text noteText)]

/-- The handler names the application in its log before it rolls back. -/
def execute (laaReference : String) : Request Unit := do
  let application ← getApplication laaReference
  tryCatch
    (Uow.inTransaction (createHistoryEvent env faults (noteEvent env noteText application))
      (commitFault faults .note))
    fun e => do
      Uow.read .application
      Uow.rollback
      throw e

end CreateNoteUseCase

end InquestsApi
