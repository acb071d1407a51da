import PlanWeave.TaskManager.Claims

namespace PlanWeave
open Durable Text

structure StatusResult where
  ref : String
  status : BlockStatus
  reason : String

def clearReviewCompletionReason (taskId reviewBlockRef : String) : Locked Unit :=
  updateTaskIndex taskId (fun index => { index with
    reviewCompletionReasonByBlock := index.reviewCompletionReasonByBlock.erase reviewBlockRef
    warnings := index.warnings.filter (fun warning =>
      !(warning.code = "review_max_cycles_reached" && warning.path = some reviewBlockRef)) })

def withoutReviewOutcome (block : BlockState) : BlockState :=
  { block with
    activeFeedbackId := none
    pendingFeedbackId := none
    completionReason := none
    passedWorkRevision := none }

def claimableStatus (context : RuntimeContext) (ref : String) : BlockStatus :=
  if blockDependenciesCompleted context.graph context.state ref then .ready else .planned

def blockedState (context : RuntimeContext) (ref reason : String) : RuntimeState :=
  { context.state.setBlock ref { withoutRemoteBlockOwnership (context.state.block ref) .blocked with
      blockedReason := some (trim reason) } with
    currentRefs := withoutCurrentRef context.state.currentRefs ref }

def markBlockBlocked (ref reason : String) : Locked StatusResult := do
  let context ← loadRuntime
  let block ← lift (getBlock context.graph ref)
  if trim reason = "" then fail "mark-blocked requires a non-empty reason."
  else if block.isReview && (openFeedbackForReview context.state ref).isSome then
    fail "Cannot mark a review block blocked while it has open feedback."
  else
    let _ ← writeRefreshed context (blockedState context ref reason)
    return { ref, status := .blocked, reason := trim reason }

/-- A remote owner stays recorded on a block that is marked diverged. -/
def divergedBlock (block : BlockState) (isReview : Bool) (reason : String) : BlockState :=
  let kept := if block.remoteOwnership.isSome then
      { block with
        remoteInterruption := none
        remoteOperationReceipt := none }
    else clearRemoteBlockOperationState block
  let diverged := { kept with
    status := .diverged
    divergenceReason := some (trim reason) }
  if isReview then withoutReviewOutcome diverged else diverged

def divergedState (context : RuntimeContext) (ref : String) (isReview : Bool) (reason : String) : RuntimeState :=
  { context.state.setBlock ref (divergedBlock (context.state.block ref) isReview reason) with
    currentRefs := withoutCurrentRef context.state.currentRefs ref }

def markBlockDiverged (ref reason : String) : Locked StatusResult := do
  let context ← loadRuntime
  let block ← lift (getBlock context.graph ref)
  if trim reason = "" then fail "mark-diverged requires a non-empty reason."
  else
    when block.isReview (clearReviewCompletionReason (context.graph.taskOfRef ref) ref)
    let _ ← writeRefreshed context (divergedState context ref block.isReview reason)
    return { ref, status := .diverged, reason := trim reason }

def unblockedState (context : RuntimeContext) (ref : String) : RuntimeState :=
  context.state.setBlock ref { withoutRemoteBlockOwnership (context.state.block ref) (claimableStatus context ref) with
    blockedReason := none }

def unblockBlock (ref reason : String) (allowAlreadyCompleted : Bool) : Locked StatusResult := do
  let context ← loadRuntime
  let _ ← lift (getBlock context.graph ref)
  if trim reason = "" then fail "unblock requires a non-empty reason."
  else if context.state.status ref ≠ .blocked then
    if allowAlreadyCompleted && context.state.status ref = .completed then
      return { ref, status := .completed, reason := trim reason }
    else fail s!"Block '{ref}' is not blocked."
  else
    let _ ← writeRefreshed context (unblockedState context ref)
    return { ref, status := claimableStatus context ref, reason := trim reason }

def releasedState (context : RuntimeContext) (ref : String) : RuntimeState :=
  { unblockedState context ref with currentRefs := withoutCurrentRef context.state.currentRefs ref }

def releaseInProgressBlock (ref : String) : Locked StatusResult := do
  let context ← loadRuntime
  let _ ← lift (getBlock context.graph ref)
  if context.state.status ref ≠ .inProgress then fail s!"Block '{ref}' is not in_progress."
  else if (context.state.block ref).remoteOwnership.isSome then
    fail s!"Remote-owned block '{ref}' cannot be released without its operation identity."
  else
    let _ ← writeRefreshed context (releasedState context ref)
    return { ref, status := claimableStatus context ref, reason := "" }

def resolvedBlock (context : RuntimeContext) (ref : String) (isReview : Bool) : BlockState :=
  let resolved := { withoutRemoteBlockOwnership (context.state.block ref) (claimableStatus context ref) with
    divergenceReason := none }
  if isReview then withoutReviewOutcome resolved else resolved

def resolveBlockDivergence (ref reason : String) : Locked StatusResult := do
  let context ← loadRuntime
  let block ← lift (getBlock context.graph ref)
  if context.state.status ref ≠ .diverged then fail s!"Block '{ref}' is not diverged."
  else if trim reason = "" then fail "resolve-divergence requires a non-empty reason."
  else
    when block.isReview (clearReviewCompletionReason (context.graph.taskOfRef ref) ref)
    let _ ← writeRefreshed context (context.state.setBlock ref (resolvedBlock context ref block.isReview))
    return { ref, status := claimableStatus context ref, reason := trim reason }

end PlanWeave
