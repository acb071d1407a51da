import PlanWeave.State.Schema

namespace PlanWeave

def sameSource (owner source : RemoteSource) : Bool :=
  owner.operationId = source.operationId && owner.sourceRevision = source.sourceRevision &&
    owner.graphFingerprint = source.graphFingerprint &&
    owner.controlPlane.getD .collaboration = source.controlPlane.getD .collaboration

/-- Receipts without a type were written for implementation blocks only. -/
def remoteOperationReceiptMatchesBlockType (receipt : RemoteOperationReceipt) (kind : BlockKind) : Bool :=
  receipt.blockType.getD .implementation = kind

def assertRemoteBlockOwnershipInvariant (block : BlockState) : Except String Unit :=
  if block.remoteOwnership.isSome && block.status ≠ .inProgress && block.status ≠ .diverged then
    let status := block.status.text
    .error s!"Remote ownership cannot be retained by a '{status}' block."
  else .ok ()

def assertSameRemoteOwnershipGeneration (owner requested : RemoteSource) : Except String Unit :=
  let wanted := requested.operationId.text
  let held := owner.operationId.text
  if owner.operationId ≠ requested.operationId then
    .error s!"Remote operation '{wanted}' conflicts with owner '{held}'."
  else if sameSource owner requested then .ok ()
  else .error s!"Remote operation '{wanted}' does not match its recorded source evidence."

def assertActiveRemoteBlockOwnership (block : BlockState) (requested : RemoteIdentity) :
    Except String RemoteIdentity := do
  assertRemoteBlockOwnershipInvariant block
  match block.remoteOwnership with
  | some (.active current) =>
    assertSameRemoteOwnershipGeneration current.toRemoteSource requested.toRemoteSource
    if current.dispatchId ≠ requested.dispatchId ∨ current.executionAttemptId ≠ requested.executionAttemptId then
      let wanted := requested.operationId.text
      .error s!"Remote operation '{wanted}' is bound to another dispatch or attempt."
    else .ok current
  | _ => .error "The block is not bound to an active remote dispatch and execution attempt."

def matchesRemoteOperationReceipt (receipt : RemoteOperationReceipt) (identity : RemoteIdentity) : Bool :=
  receipt.identity.operationId = identity.operationId && receipt.identity.sourceRevision = identity.sourceRevision &&
    receipt.identity.graphFingerprint = identity.graphFingerprint &&
    receipt.identity.dispatchId = identity.dispatchId &&
    receipt.identity.executionAttemptId = identity.executionAttemptId

def prepareRemoteBlockOwnership (kind : BlockKind) (block : BlockState) (requested : RemoteSource) :
    Except String BlockState := do
  assertRemoteBlockOwnershipInvariant block
  match block.remoteOwnership with
  | some current =>
    assertSameRemoteOwnershipGeneration current.source requested
    return block
  | none =>
    let isReviewResume := kind = .review && block.status = .inProgress
    if block.status ≠ .ready ∧ ¬ isReviewResume then
      let status := block.status.text
      if block.status = .inProgress then
        .error "A local in-progress block cannot be retroactively assigned a remote owner."
      else .error s!"A remote ownership generation requires a ready block, got '{status}'."
    else return { block with status := .inProgress, remoteOwnership := some (.preparing requested) }

def activateRemoteBlockOwnership (block : BlockState) (requested : RemoteIdentity) : Except String BlockState := do
  assertRemoteBlockOwnershipInvariant block
  let wanted := requested.operationId.text
  let status := block.status.text
  match block.remoteOwnership with
  | none => .error "Remote ownership must be prepared before dispatch activation."
  | some current =>
    assertSameRemoteOwnershipGeneration current.source requested.toRemoteSource
    if block.status ≠ .inProgress then .error s!"Remote ownership in '{status}' cannot be activated."
    else
      match current with
      | .active identity =>
        if identity.dispatchId = requested.dispatchId ∧ identity.executionAttemptId = requested.executionAttemptId then
          return block
        else .error s!"Remote operation '{wanted}' is already bound to another dispatch or attempt."
      | .preparing _ => return { block with remoteOwnership := some (.active requested) }

structure RemoteBlockSourceEvidence where
  sourceRevision : OpaqueId
  graphFingerprint : OpaqueId

def markRemoteBlockOwnershipSourceDrift (block : BlockState) (source : RemoteBlockSourceEvidence) (reason : String) :
    Except String BlockState := do
  assertRemoteBlockOwnershipInvariant block
  match block.remoteOwnership with
  | none => return block
  | some owner =>
    if owner.source.sourceRevision = source.sourceRevision ∧ owner.source.graphFingerprint = source.graphFingerprint then
      return block
    else if Text.trim reason = "" then .error "Remote ownership source drift requires a non-empty reason."
    else return { block with
      status := .diverged
      divergenceReason := some (Text.trim reason)
      remoteInterruption := none }

/-- An empty run id counts as none. -/
def latestRunId (runId : Option String) (block : BlockState) : Option String := (runId.filter (· ≠ "")).or block.lastRunId

def interruptRemoteBlockOwnership (block : BlockState) (ownership : RemoteIdentity) (interruption : RemoteInterruption)
    (reason : String) (runId : Option String) : Except String BlockState := do
  let _ ← assertActiveRemoteBlockOwnership block ownership
  let status := block.status.text
  if Text.trim reason = "" then .error "Remote interruption requires a non-empty public reason."
  else if block.status = .diverged then
    if block.remoteInterruption = some interruption ∧ block.divergenceReason = some (Text.trim reason) then
      return { block with lastRunId := latestRunId runId block }
    else .error "The remote operation is already diverged for a different reason."
  else if block.status ≠ .inProgress then .error s!"Remote interruption cannot be recorded from '{status}'."
  else return { block with
    status := .diverged
    divergenceReason := some (Text.trim reason)
    remoteInterruption := some interruption
    lastRunId := latestRunId runId block }

def retryRemoteBlockOwnership (block : BlockState) (ownership : RemoteIdentity)
    (newDispatchId newExecutionAttemptId : OpaqueId) : Except String BlockState := do
  let current ← assertActiveRemoteBlockOwnership block ownership
  if block.status ≠ .diverged ∨ block.remoteInterruption.all RemoteInterruption.resumable then
    .error "A new remote attempt requires a non-resumable interrupted ownership."
  else if newDispatchId = current.dispatchId ∨ newExecutionAttemptId = current.executionAttemptId then
    .error "A remote retry must use new dispatch and execution attempt identities."
  else return { block with
    status := .inProgress
    divergenceReason := none
    remoteInterruption := none
    remoteOwnership := some (.active { current with
      dispatchId := newDispatchId
      executionAttemptId := newExecutionAttemptId }) }

def resumeRemoteBlockOwnership (block : BlockState) (ownership : RemoteIdentity) : Except String BlockState := do
  let _ ← assertActiveRemoteBlockOwnership block ownership
  if block.status ≠ .diverged ∨ ¬ block.remoteInterruption.any RemoteInterruption.resumable then
    .error "Remote resume requires a resumable interrupted ownership."
  else return { block with
    status := .inProgress
    divergenceReason := none
    remoteInterruption := none }

def clearRemoteBlockOperationState (block : BlockState) : BlockState :=
  { block with
    remoteOwnership := none
    remoteInterruption := none
    remoteOperationReceipt := none }

def withoutRemoteBlockOwnership (block : BlockState) (status : BlockStatus) : BlockState :=
  { clearRemoteBlockOperationState block with status }

def completeRemoteBlockOwnership (kind : BlockKind) (block : BlockState) (ownership : RemoteIdentity)
    (runId : String) : Except String BlockState := do
  let _ ← assertActiveRemoteBlockOwnership block ownership
  let opaqueRunId ← parseOpaqueId runId
  return { withoutRemoteBlockOwnership block .completed with
    lastRunId := some runId
    remoteOperationReceipt := some ⟨ownership, .completed opaqueRunId, some kind⟩ }

/-- Release ownership after a review write-back; only a completed review keeps a receipt. -/
def sealRemoteBlockOperationCompleted (kind : BlockKind) (block : BlockState) (ownership : RemoteIdentity)
    (runId : String) : Except String BlockState :=
  if block.status ≠ .completed then .ok (clearRemoteBlockOperationState block)
  else do
    let opaqueRunId ← parseOpaqueId runId
    return { clearRemoteBlockOperationState block with
      lastRunId := some runId
      remoteOperationReceipt := some ⟨ownership, .completed opaqueRunId, some kind⟩ }

def failRemoteBlockOwnership (kind : BlockKind) (block : BlockState) (ownership : RemoteIdentity)
    (failure : NormalizedFailure) (blockedReason : String) (runId : Option String) : Except String BlockState := do
  let _ ← assertActiveRemoteBlockOwnership block ownership
  return { withoutRemoteBlockOwnership block .blocked with
    blockedReason := some blockedReason
    remoteOperationReceipt := some ⟨ownership, .failed failure, some kind⟩
    lastRunId := latestRunId runId block }

structure Restoration where
  operationId : OpaqueId
  executionAttemptId : OpaqueId

def isStoppedBy (prior : Restoration) (receipt : RemoteOperationReceipt) : Bool :=
  match receipt.outcome with
  | .failed failure => failure.code.text = "execution_cancelled" &&
      receipt.identity.operationId = prior.operationId &&
      receipt.identity.executionAttemptId = prior.executionAttemptId
  | .completed _ => false

def restoreStoppedRemoteBlock (block : BlockState) (prior : Restoration) : Except String BlockState :=
  if block.remoteOwnership.isSome ∨ block.status ≠ .blocked ∨
      ¬ block.remoteOperationReceipt.any (isStoppedBy prior) then
    .error "Only the current stopped execution can be restored."
  else .ok { clearRemoteBlockOperationState block with
    status := .ready
    blockedReason := none }

end PlanWeave
