import PlanWeave.TaskManager.Feedback

namespace PlanWeave
open Durable

structure RemoteBlockBindingView where
  ref : String
  status : BlockStatus
  ownership : Option RemoteOwnership
  interruption : Option RemoteInterruption
  terminalReceipt : Option RemoteOperationReceipt
  blockedReason : Option String
  divergenceReason : Option String

inductive RetryDecision where
  | resumeExactAttempt | manualRetryRequired | notRetryable

structure RemoteBlockMutationResult where
  binding : RemoteBlockBindingView
  retryDecision : RetryDecision

def bindingView (state : RuntimeState) (ref : String) : RemoteBlockBindingView :=
  let block := state.block ref
  {
    ref
    status := block.status
    ownership := block.remoteOwnership
    interruption := block.remoteInterruption
    terminalReceipt := block.remoteOperationReceipt
    blockedReason := block.blockedReason
    divergenceReason := block.divergenceReason
  }

def assertOperationMatchesView (view : RemoteBlockBindingView) (operationId : OpaqueId) : Except String Unit :=
  let ref := view.ref
  match (view.ownership.map (fun owner => owner.source.operationId)).or
    (view.terminalReceipt.map (fun receipt => receipt.identity.operationId)) with
  | none => .error s!"Block '{ref}' has no remote operation binding."
  | some recorded =>
    let wanted := operationId.text
    let held := recorded.text
    if recorded ≠ operationId then .error s!"Remote operation '{wanted}' conflicts with owner '{held}'." else .ok ()

def releaseCurrentBlockPointers (state : RuntimeState) (ref : String) : RuntimeState :=
  { state with
    currentRefs := withoutCurrentRef state.currentRefs ref
    currentReviewBlockRef := state.currentReviewBlockRef.filter (fun current => current ≠ ref) }

def assertRemoteBlockExecutable (context : RuntimeContext) (ref : String) : Except String BlockKind :=
  match scopeProblem (.block ref) context.graph with
  | some reason => .error reason
  | none => .ok (context.graph.kind ref)

def remoteBlockDispatchReadiness (digests : Digests) (context : RuntimeContext) (ref : String) : Option String :=
  match context.graph.blocksByRef.get? ref with
  | none => some s!"Block '{ref}' is not remotely executable."
  | some block =>
    if block.isReview then
      match reviewClaimForm digests context.graph context.state ref with
      | .notClaimable reason => some reason
      | _ => none
    else if canDispatchImplementationBlock context.graph context.state context.manifest.maxConcurrent [] ref then none
    else some s!"Block '{ref}' is not dispatchable right now."

def assertRemoteBlockDispatchable (digests : Digests) (context : RuntimeContext) (projectGuard : ProjectGraphClaimGuard)
    (ref : String) : Except String Unit := do
  let _ ← assertRemoteBlockExecutable context ref
  match projectBlockerReason projectGuard (context.graph.blockTaskByRef.get? ref) with
  | some blocker => .error blocker
  | none =>
    match remoteBlockDispatchReadiness digests context ref with
    | some reason => .error reason
    | none => .ok ()

def refuseDriftedSource {α : Type} (context : RuntimeContext) (ref : String) (source : RemoteBlockSourceEvidence)
    (reason : String) : Locked α := do
  let drifted ← lift (markRemoteBlockOwnershipSourceDrift (context.state.block ref) source reason)
  let _ ← writeRefreshed context (releaseCurrentBlockPointers (context.state.setBlock ref drifted) ref)
  fail reason

structure RemoteClaim where
  ref : String
  operationId : OpaqueId
  controlPlane : ControlPlane
  sourceRevision : OpaqueId
  graphFingerprint : OpaqueId
  restoration : Option Restoration := none
  projectGuard : ProjectGraphClaimGuard := fun _ => none
  source : Except String RemoteBlockSourceEvidence

def RemoteClaim.ownership (claim : RemoteClaim) : RemoteSource :=
  {
    operationId := claim.operationId
    sourceRevision := claim.sourceRevision
    graphFingerprint := claim.graphFingerprint
    controlPlane := some claim.controlPlane
  }

/-- The block that a claim starts from; a stopped block is made ready when the claim restores it. -/
def claimedFrom (existing : BlockState) (restoration : Option Restoration) : Except String BlockState :=
  match restoration with
  | none => .ok existing
  | some prior => if existing.remoteOwnership.isSome then .ok existing else restoreStoppedRemoteBlock existing prior

def remoteClaimedState (digests : Digests) (context : RuntimeContext) (kind : BlockKind) (current prepared : BlockState)
    (ref : String) : RuntimeState :=
  let placed := context.state.setBlock ref prepared
  if kind = .review && current.remoteOwnership.isNone &&
      reviewClaimForm digests context.graph context.state ref = .resume then
    applyCurrentReviewResumeClaim placed ref ((placed.currentFeedbackId.bind placed.feedback.get?).any
      (fun feedback => feedback.status = .resolved))
  else { placed with
    currentRefs := withCurrentRef placed.currentRefs ref
    currentReviewBlockRef := if kind = .review then some ref else placed.currentReviewBlockRef }

def admitRemoteClaim (digests : Digests) (context : RuntimeContext) (claim : RemoteClaim) (current : BlockState) :
    Locked Unit := do
  let ref := claim.ref
  if current.remoteOwnership.isSome then
    let operation := claim.operationId.text
    let source ← lift claim.source
    if sameRemoteBlockAuthority source claim.ownership then return ()
    else refuseDriftedSource context ref source s!"Remote source changed after operation '{operation}' was prepared."
  else
    lift (assertRemoteBlockDispatchable digests context claim.projectGuard ref)
    let source ← lift claim.source
    if sameRemoteBlockAuthority source claim.ownership then return ()
    else fail s!"Inspected source for '{ref}' is no longer current."

def remoteClaim (digests : Digests) (claim : RemoteClaim) : Locked RemoteBlockBindingView := do
  let ref := claim.ref
  let loaded ← loadRuntime
  let kind ← lift (assertRemoteBlockExecutable loaded ref)
  let current ← lift (claimedFrom (loaded.state.block ref) claim.restoration)
  -- the readiness checks below read the restored block
  let context := { loaded with state := loaded.state.setBlock ref current }
  let prepared ← lift (prepareRemoteBlockOwnership kind current claim.ownership)
  admitRemoteClaim digests context claim current
  let claimed := remoteClaimedState digests context kind current prepared ref
  let _ ← writeRefreshed context claimed
  return bindingView claimed ref

/-- An identity of an active operation, sent back with a request about its block. -/
structure RemoteRequest where
  ref : String
  identity : RemoteIdentity
  source : Except String RemoteBlockSourceEvidence

def RemoteRequest.drifts (request : RemoteRequest) (source : RemoteBlockSourceEvidence) : Bool :=
  !sameRemoteBlockAuthority source request.identity.toRemoteSource

def activate (request : RemoteRequest) : Locked RemoteBlockBindingView := do
  let ref := request.ref
  let context ← loadRuntime
  let _ ← lift (assertRemoteBlockExecutable context ref)
  let activated ← lift (activateRemoteBlockOwnership (context.state.block ref) request.identity)
  let source ← lift request.source
  if request.drifts source then
    refuseDriftedSource context ref source s!"Remote source changed before activation of '{ref}'."
  else
    let state := context.state.setBlock ref activated
    let _ ← writeRefreshed context state
    return bindingView state ref

/-- Compare an owned block with the package; drift is recorded and reported in the view. -/
def reconcile (ref : String) (operationId : OpaqueId) (source : Except String RemoteBlockSourceEvidence) :
    Locked RemoteBlockBindingView := do
  let context ← loadRuntime
  let _ ← lift (assertRemoteBlockExecutable context ref)
  let view := bindingView context.state ref
  lift (assertOperationMatchesView view operationId)
  match view.ownership with
  | none => return view
  | some owner =>
    let current ← lift source
    if sameRemoteBlockAuthority current owner.source then return view
    else
      let operation := operationId.text
      let drifted ← lift (markRemoteBlockOwnershipSourceDrift (context.state.block ref) current
        s!"Remote source changed while operation '{operation}' was active.")
      let state := releaseCurrentBlockPointers (context.state.setBlock ref drifted) ref
      let _ ← writeRefreshed context state
      return bindingView state ref

def materializeRemoteFailure (ref taskId blockId : String) : Locked RunName := do
  let runId ← allocateRunId ref
  writeRunMetadata ref runId {
    ref := some ref
    taskId := some taskId
    blockId := some blockId
    runId := some runId }
  updateTaskIndex taskId (fun index => { index with latestRunByBlock := index.latestRunByBlock.set ref runId })
  return runId

def interruptedRun (ref taskId blockId : String) (interruption : RemoteInterruption) : Locked (Option String) :=
  if interruption.resumable then return none
  else do
    let runId ← materializeRemoteFailure ref taskId blockId
    return some runId.text

def markInterrupted (request : RemoteRequest) (interruption : RemoteInterruption) : Locked RemoteBlockMutationResult := do
  let ref := request.ref
  let context ← loadRuntime
  let _ ← lift (assertRemoteBlockExecutable context ref)
  let _ ← lift (assertActiveRemoteBlockOwnership (context.state.block ref) request.identity)
  let source ← lift request.source
  if request.drifts source then
    refuseDriftedSource context ref source s!"Remote source changed before interruption of '{ref}'."
  else
    let (taskId, blockId) ← lift (parseBlockRef ref)
    let runId ← interruptedRun ref taskId blockId interruption
    let cause := interruption.reason.text
    let interrupted ← lift (interruptRemoteBlockOwnership (context.state.block ref) request.identity interruption
      s!"Remote execution interrupted: {cause}." runId)
    let state := releaseCurrentBlockPointers (context.state.setBlock ref interrupted) ref
    let _ ← writeRefreshed context state
    return {
      binding := bindingView state ref
      retryDecision := if interruption.resumable then .resumeExactAttempt else .manualRetryRequired
    }

def resumeAttempt (request : RemoteRequest) : Locked RemoteBlockBindingView := do
  let ref := request.ref
  let context ← loadRuntime
  let _ ← lift (assertRemoteBlockExecutable context ref)
  let current := context.state.block ref
  if current.status = .inProgress ∧ current.remoteOwnership = some (.active request.identity) then
    return bindingView context.state ref
  else
    let _ ← lift (assertActiveRemoteBlockOwnership current request.identity)
    let source ← lift request.source
    if request.drifts source then
      refuseDriftedSource context ref source s!"Remote source changed before resume of '{ref}'."
    else
      let resumed ← lift (resumeRemoteBlockOwnership current request.identity)
      let state := context.state.setBlock ref resumed
      let _ ← writeRefreshed context state
      return bindingView state ref

def retryAttempt (request : RemoteRequest) (newDispatchId newExecutionAttemptId : OpaqueId) :
    Locked RemoteBlockBindingView := do
  let ref := request.ref
  if request.identity.executionAttemptId = newExecutionAttemptId then
    fail "A remote retry requires a new execution attempt identity."
  else
    let context ← loadRuntime
    let _ ← lift (assertRemoteBlockExecutable context ref)
    let current := context.state.block ref
    let retriedIdentity := { request.identity with
      dispatchId := newDispatchId
      executionAttemptId := newExecutionAttemptId }
    if current.status = .inProgress ∧ current.remoteOwnership = some (.active retriedIdentity) then
      return bindingView context.state ref
    else
      let _ ← lift (assertActiveRemoteBlockOwnership current request.identity)
      let source ← lift request.source
      if request.drifts source then
        refuseDriftedSource context ref source s!"Remote source changed before retry of '{ref}'."
      else
        let retried ← lift (retryRemoteBlockOwnership current request.identity newDispatchId newExecutionAttemptId)
        let state := context.state.setBlock ref retried
        let _ ← writeRefreshed context state
        return bindingView state ref

def failureDecision (failure : NormalizedFailure) : RetryDecision :=
  if failure.retryable then .manualRetryRequired else .notRetryable

def failAttempt (request : RemoteRequest) (failure : NormalizedFailure) : Locked RemoteBlockMutationResult := do
  let ref := request.ref
  let context ← loadRuntime
  let kind ← lift (assertRemoteBlockExecutable context ref)
  let current := context.state.block ref
  match current.remoteOperationReceipt with
  | some receipt =>
    if receipt.outcome = .failed failure ∧ matchesRemoteOperationReceipt receipt request.identity then
      return {
        binding := bindingView context.state ref
        retryDecision := failureDecision failure
      }
    else fail s!"Remote failure for '{ref}' conflicts with its terminal operation receipt."
  | none =>
    let _ ← lift (assertActiveRemoteBlockOwnership current request.identity)
    let source ← lift request.source
    if request.drifts source then
      refuseDriftedSource context ref source s!"Remote source changed before failure of '{ref}'."
    else
      let (taskId, blockId) ← lift (parseBlockRef ref)
      let runId ← materializeRemoteFailure ref taskId blockId
      let code := failure.code.text
      let message := failure.message
      let failed ← lift (failRemoteBlockOwnership kind current request.identity failure s!"[{code}] {message}"
        (some runId.text))
      let state := releaseCurrentBlockPointers (context.state.setBlock ref failed) ref
      let _ ← writeRefreshed context state
      return {
        binding := bindingView state ref
        retryDecision := failureDecision failure
      }

/-- The result of a remote execution. A review block takes the review result that its bytes parse to. -/
structure RemoteCompletion where
  request : RemoteRequest
  report : Bytes
  reportSha256 : String
  parsedReview : Except String ReviewResult
  hookOutcome : Except String String := .error "untrusted"
  randomAttempt : AttemptId

def OUTPUT_MAX_ARTIFACT_BYTES : Nat := 100 * 1024 * 1024

def RemoteCompletion.review (completion : RemoteCompletion) (result : ReviewResult) : ReviewSubmission :=
  {
    ref := completion.request.ref
    result
    remote := some completion.request.identity
    hookOutcome := completion.hookOutcome
  }

def RemoteCompletion.submission (completion : RemoteCompletion) : BlockSubmission :=
  {
    ref := completion.request.ref
    artifact := .verified ⟨completion.reportSha256, completion.report.length⟩ completion.report
    randomAttempt := completion.randomAttempt
  }

def RemoteCompletion.authority (completion : RemoteCompletion) : SubmissionAuthority :=
  .remote completion.request.identity completion.request.source

def submitRemoteBlockResult (digests : Digests) (completion : RemoteCompletion) : Locked SubmitResult := do
  let ref := completion.request.ref
  if completion.report = [] then fail "report bytes must not be empty"
  else if OUTPUT_MAX_ARTIFACT_BYTES < completion.report.length then
    fail "report bytes must not exceed 104857600 bytes"
  else if completion.reportSha256 ≠ digests.sha256 completion.report then
    fail "Remote report artifact reference does not match the supplied bytes."
  else
    let context ← loadRuntimeReadonly
    let block ← lift (getBlock context.graph ref)
    if block.isReview then
      let result ← lift completion.parsedReview
      let review ← submitReviewResult digests (completion.review result)
      return { ref := review.ref, runId := review.reviewAttemptId, status := .completed }
    else submitBlockResultArtifact digests completion.submission completion.authority

end PlanWeave
