import InquestsApi.HistoryRecords
import InquestsApi.Lib.Outbox

/-! Which port calls send a message, and which only write. -/
namespace InquestsApi

open UnitOfWork Tx ClaimRepository HistoryEventRepository ApplicationRepository

section Calls

variable (env : Env) (faults : Faults)

theorem portWrite_silent {α : Type} (call : Call) (write : Store → Except ApiError (α × Store)) :
    Silent (portWrite faults call write) := .flush _ _ _

theorem createHistoryEvent_silent (event : NewEvent) :
    Silent (createHistoryEvent env faults event) :=
  .bind (.check _) fun _ => portWrite_silent faults _ _

theorem updateClaimStatus_silent (claimId : ℕ) (status : ClaimStatus) :
    Silent (updateClaimStatus faults claimId status) :=
  .bind (.check _) fun _ => portWrite_silent faults _ _

theorem createPaymentExtract_silent (claimId index : ℕ) (lines : List PaymentExtractLine) :
    Silent (createPaymentExtract env faults claimId index lines) := by
  induction lines generalizing index with
  | nil => exact .pure ()
  | cons line rest ih => exact .bind (portWrite_silent faults _ _) fun _ => ih _

theorem createDecisionReasons_silent (claimDecisionId index : ℕ) (reasonCodes : List ReasonCode) :
    Silent (CreateClaim.createDecisionReasons faults claimDecisionId index reasonCodes) := by
  induction reasonCodes generalizing index with
  | nil => exact .pure ()
  | cons reasonCode rest ih => exact .bind (portWrite_silent faults _ _) fun _ => ih _

end Calls

section Applications

variable (env : Env) (faults : Faults) (application : Application)

theorem createApplication_silent (request : ApplicationCreate) (firmCode : String) :
    Silent (createApplication env faults request firmCode) :=
  .bind (.check _) fun _ => .bind (.check _) fun _ => .bind (.check _) fun _ =>
    portWrite_silent faults _ _

theorem checkOffice_silent (userOfficeCodes : List String) :
    Silent (CreateApplicationUseCase.checkOffice env faults application userOfficeCodes) :=
  .bind (.check _) fun _ => .bind (.callOut _ _) fun _ => .check _

theorem identifyAndRecord_silent (applicationId : ℕ) :
    Silent (IdentifyDuplicateApplicationsUseCase.execute env faults applicationId) := by
  refine .bind (.check _) fun duplicateApplicationIds => ?_
  unfold createDuplicateRecords
  split
  · exact .pure ()
  · exact portWrite_silent faults _ _

theorem recordDecision_silent (proceeding : ApplicationProceeding)
    (eventData : List (String × Json)) :
    Silent (recordDecision env faults application proceeding eventData) :=
  .bind (portWrite_silent faults _ _) fun _ => createHistoryEvent_silent env faults _

theorem populateCertificateContext_silent :
    Silent (CreateCertificateContext.populateCertificateContext env faults application) :=
  .bind (.callOut _ _) fun _ => .bind (.callOut _ _) fun _ => .bind (.check _) fun _ =>
    .bind (.touch _) fun _ => .check _

end Applications

section Claims

variable (env : Env) (faults : Faults) (claim : Claim) (prepared : PreparedClaim)

open CreateClaim

theorem linkAttachments_silent (command : CreateClaimCommand) :
    Silent (linkAttachments faults command claim) := by
  refine .bind ?_ fun _ => .bind (portWrite_silent faults _ _) fun _ => ?_
  · unfold linkEvidence
    split
    · exact portWrite_silent faults _ _
    · exact .pure ()
  · unfold linkCostTemplate
    split
    · exact portWrite_silent faults _ _
    · exact .pure ()

theorem submitClaim_silent (command : CreateClaimCommand) :
    Silent (submitClaim env faults command prepared) := by
  refine .bind (.bind (.check _) fun _ => portWrite_silent faults _ _) fun claim => ?_
  exact .bind (linkAttachments_silent faults claim command) fun _ =>
    .bind (createHistoryEvent_silent env faults _) fun _ => .pure claim

theorem autoRejectClaim_silent (reasonCodes : List ReasonCode) :
    Silent (autoRejectClaim env faults prepared claim reasonCodes) :=
  .bind (portWrite_silent faults _ _) fun _ => .bind (createDecisionReasons_silent faults _ _ _)
    fun _ => .bind (updateClaimStatus_silent faults _ _) fun _ => createHistoryEvent_silent env faults _

theorem autoApproveClaim_silent : Silent (autoApproveClaim env faults prepared claim) :=
  .bind (portWrite_silent faults _ _) fun _ => .bind (portWrite_silent faults _ _) fun _ =>
    .bind (.check _) fun _ => .bind (createPaymentExtract_silent env faults _ _ _) fun _ =>
      .bind (updateClaimStatus_silent faults _ _) fun _ => createHistoryEvent_silent env faults _

theorem rejectClaim_silent (application : Application) (command : RejectClaimCommand) :
    Silent (RejectClaimUseCase.rejectClaim env faults command application) :=
  .bind (.check _) fun _ => .bind (portWrite_silent faults _ _) fun _ =>
    .bind (portWrite_silent faults _ _) fun _ => .bind (updateClaimStatus_silent faults _ _) fun _ =>
      .bind (createHistoryEvent_silent env faults _) fun _ =>
        .bind (createHistoryEvent_silent env faults _) fun _ => .pure _

theorem createPaymentExtractLines_silent (application : Application) (amounts : PayInFullClaim)
    (date : Date) : Silent (PayInFullClaimUseCase.createPaymentExtractLines env faults claim
      application amounts date) :=
  .bind (.check _) fun _ => createPaymentExtract_silent env faults _ _ _

end Claims

end InquestsApi
