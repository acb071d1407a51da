import PlanWeave.TaskManager.Loading

namespace PlanWeave

inductive SubmitsBlock : Operation → BlockSubmission → SubmissionAuthority → Prop where
  | «local» (submission : BlockSubmission) : SubmitsBlock (.submitBlockResult submission) submission .local
  | remote (completion : RemoteCompletion) : SubmitsBlock (.complete completion) completion.submission completion.authority

inductive SubmitsReview : Operation → ReviewSubmission → Prop where
  | «local» (ref : String) (result : ReviewResult) (hookOutcome : Except String String) :
    SubmitsReview (.submitReviewResult ref result hookOutcome) { ref, result, hookOutcome }
  | remote (completion : RemoteCompletion) (result : ReviewResult) :
    SubmitsReview (.complete completion) (completion.review result)

def Operation.remoteRef : Operation → Option String
  | .remoteClaim claim => some claim.ref
  | .activate request => some request.ref
  | .reconcile ref _ _ => some ref
  | .markInterrupted request _ => some request.ref
  | .resumeAttempt request => some request.ref
  | .retryAttempt request _ _ => some request.ref
  | .failAttempt request _ => some request.ref
  | _ => none

def driftedBlock (block : BlockState) (reason : String) : BlockState :=
  { block with
    status := .diverged
    divergenceReason := some (Text.trim reason)
    remoteInterruption := none }

section
variable (digests : Digests) (context : RuntimeContext) (results : Results)

/-- Nothing is in progress locally that a claim would have to finish first, except implementations. -/
def StartsWork (options : ClaimOptions) : Prop :=
  buildClaimOrder digests context options = .ok .ready ∨
    ∃ ref claim, buildClaimOrder digests context options = .ok (.currentBlock ref claim)

inductive ReviewOutcome (submission : ReviewSubmission) (attemptId : String) : RuntimeState → Prop where
  | restored {taskId blockId : String} {feedback : FeedbackArtifact}
    (parsed : parseBlockRef submission.ref = .ok (taskId, blockId))
    (persisted : (persistedReview digests results taskId submission.result).feedback = some feedback)
    (reused : reusesAttempt context.state submission.ref
      (computeWorkRevision digests context.graph context.state submission.ref) submission.result.verdict
      (persistedReview digests results taskId submission.result) = true) :
    ReviewOutcome submission attemptId (restoredFeedbackState context.state submission.ref attemptId feedback)
  | limitReplayed : ReviewOutcome submission attemptId (replayedMaxCyclesState context.state submission.ref attemptId)
  | passed : ReviewOutcome submission attemptId (passedReviewState context.state submission.ref attemptId
      (computeWorkRevision digests context.graph context.state submission.ref))
  | limitReached : ReviewOutcome submission attemptId (maxCyclesState context.state submission.ref attemptId)
  | hookFailed (reason : String) :
    ReviewOutcome submission attemptId (hookFailedState context.state submission.ref attemptId reason)
  | opened {feedbackId content : String} (fresh : context.state.feedback.has feedbackId = false) :
    ReviewOutcome submission attemptId (openedFeedbackState context.state submission.ref attemptId feedbackId content)

inductive ReservedFrom (ref : String) (runId : RunName) : RuntimeState → Prop where
  | persisted : ReservedFrom ref runId context.state
  | reserved (attempt : AttemptId) : ReservedFrom ref runId (withReservation context.state ref attempt runId)

inductive Edit : Operation → RuntimeState → Prop where
  | unchanged (options : ClaimOptions) : Edit (.claimNext options) context.state
  | idle {options : ClaimOptions} (empty : inProgressBlockRefs context.graph context.state = []) :
    Edit (.claimNext options) { context.state with currentRefs := [] }
  | answer {options : ClaimOptions} {feedbackId : String} {feedback : FeedbackEnvelope}
    (only : activeOpenFeedback context.state = [(feedbackId, feedback)]) :
    Edit (.claimNext options) (claimFeedback context.state feedbackId feedback)
  | resumeReview {options : ClaimOptions} {ref : String} (clearCurrentFeedback : Bool)
    (form : reviewClaimForm digests context.graph context.state ref = .resume) :
    Edit (.claimNext options) (applyCurrentReviewResumeClaim context.state ref clearCurrentFeedback)
  | claimSequential {options : ClaimOptions} {ref : String} (sequential : options.parallel = false)
    (order : buildClaimOrder digests context options = .ok .ready)
    (ready : ref ∈ scopedReadyRefs digests context options) :
    Edit (.claimNext options) (claimRef context options [] ref)
  | claimReview {options : ClaimOptions} {ref : String} (parallel : options.parallel = true)
    (order : StartsWork digests context options)
    (selected : selectedParallelBatchRefs digests context options = [])
    (ready : ref ∈ scopedReadyRefs digests context options) (review : context.graph.isReview ref = true) :
    Edit (.claimNext options) (claimRef context options (inProgressBlockRefs context.graph context.state) ref)
  | claimBatch {options : ClaimOptions} (parallel : options.parallel = true) (order : StartsWork digests context options) :
    Edit (.claimNext options) (claimBatch context options (inProgressBlockRefs context.graph context.state)
      (selectedParallelBatchRefs digests context options))
  | dispatched {ref : String} {projectGuard : ProjectGraphClaimGuard} {attempt : AttemptId}
    (dispatchable : canDispatchImplementationBlock context.graph context.state context.manifest.maxConcurrent [] ref = true) :
    Edit (.claimDispatchedBlock ref projectGuard attempt) (dispatchState context ref attempt)
  | submitted {operation : Operation} {submission : BlockSubmission} {authority : SubmissionAuthority}
    {declared : ManifestBlock} {base : RuntimeState} {runId : RunName} {block : BlockState}
    (submits : SubmitsBlock operation submission authority)
    (known : context.graph.blocksByRef.get? submission.ref = some declared) (implementation : declared.isReview = false)
    (admitted : admission digests context results submission authority = .ok .admitted)
    (from' : ReservedFrom context submission.ref runId base)
    (completed : submittedBlock authority .implementation (base.block submission.ref) runId = .ok block) :
    Edit operation (submittedState base submission.ref block)
  | driftedSubmission {operation : Operation} {submission : BlockSubmission} {authority : SubmissionAuthority}
    (reason : String) (submits : SubmitsBlock operation submission authority)
    (owned : (context.state.block submission.ref).remoteOwnership.isSome = true) :
    Edit operation (context.state.setBlock submission.ref (driftedBlock (context.state.block submission.ref) reason))
  | reviewed {operation : Operation} {submission : ReviewSubmission} {declared : ManifestBlock}
    {attemptId : String} {outcome edited : RuntimeState} (submits : SubmitsReview operation submission)
    (known : context.graph.blocksByRef.get? submission.ref = some declared) (review : declared.isReview = true)
    (admitted : reviewAdmission context submission = .ok none)
    (decided : ReviewOutcome digests context results submission attemptId outcome)
    (released : sealReview submission.remote submission.ref attemptId outcome = .ok edited) : Edit operation edited
  | feedbackAnswered {report : Bytes} {feedbackId : String} {feedback : FeedbackEnvelope} {taskId : String}
    (submissionId : String) (current : currentFeedback context.state = .ok (feedbackId, feedback))
    (known : context.graph.blockTaskByRef.get? feedback.sourceReviewBlockRef = some taskId) :
    Edit (.submitFeedback report) (answeredState context.state feedbackId submissionId feedback)
  | blocked {ref : String} (reason : String) {declared : ManifestBlock}
    (known : context.graph.blocksByRef.get? ref = some declared)
    (answered : declared.isReview = true → openFeedbackForReview context.state ref = none) :
    Edit (.markBlockBlocked ref reason) (blockedState context ref reason)
  | diverged {ref : String} (reason : String) {declared : ManifestBlock}
    (known : context.graph.blocksByRef.get? ref = some declared) :
    Edit (.markBlockDiverged ref reason) (divergedState context ref declared.isReview reason)
  | unblocked {ref : String} (reason : String) (allowAlreadyCompleted : Bool) {declared : ManifestBlock}
    (known : context.graph.blocksByRef.get? ref = some declared) (status : context.state.status ref = .blocked) :
    Edit (.unblockBlock ref reason allowAlreadyCompleted) (unblockedState context ref)
  | released {ref : String} {declared : ManifestBlock} (known : context.graph.blocksByRef.get? ref = some declared)
    (status : context.state.status ref = .inProgress) (free : (context.state.block ref).remoteOwnership = none) :
    Edit (.releaseInProgressBlock ref) (releasedState context ref)
  | resolved {ref : String} (reason : String) {declared : ManifestBlock}
    (known : context.graph.blocksByRef.get? ref = some declared) (status : context.state.status ref = .diverged) :
    Edit (.resolveBlockDivergence ref reason) (context.state.setBlock ref (resolvedBlock context ref declared.isReview))
  | reset (scope : ClaimScope) : Edit (.resetMaxCycleReviews scope)
      (resetState context (context.graph.blockRefsInManifestOrder.filter (resetsRef context scope)))
  | remoteClaimed {claim : RemoteClaim} {current prepared : BlockState}
    (known : context.graph.blocksByRef.has claim.ref = true)
    (starts : claimedFrom (context.state.block claim.ref) claim.restoration = .ok current)
    (taken : prepareRemoteBlockOwnership (context.graph.kind claim.ref) current claim.ownership = .ok prepared)
    (dispatchable : current.remoteOwnership = none → assertRemoteBlockDispatchable digests
      { context with state := context.state.setBlock claim.ref current } claim.projectGuard claim.ref = .ok ()) :
    Edit (.remoteClaim claim) (remoteClaimedState digests
      { context with state := context.state.setBlock claim.ref current } (context.graph.kind claim.ref) current prepared
      claim.ref)
  | drifted {operation : Operation} {ref : String} (reason : String) (about : operation.remoteRef = some ref)
    (owned : (context.state.block ref).remoteOwnership.isSome = true) :
    Edit operation (releaseCurrentBlockPointers
      (context.state.setBlock ref (driftedBlock (context.state.block ref) reason)) ref)
  | activated {request : RemoteRequest} {block : BlockState}
    (taken : activateRemoteBlockOwnership (context.state.block request.ref) request.identity = .ok block) :
    Edit (.activate request) (context.state.setBlock request.ref block)
  | interrupted {request : RemoteRequest} {interruption : RemoteInterruption} {reason : String} {runId : Option String}
    {block : BlockState} (stopped : interruptRemoteBlockOwnership (context.state.block request.ref) request.identity
      interruption reason runId = .ok block) :
    Edit (.markInterrupted request interruption)
      (releaseCurrentBlockPointers (context.state.setBlock request.ref block) request.ref)
  | resumed {request : RemoteRequest} {block : BlockState}
    (taken : resumeRemoteBlockOwnership (context.state.block request.ref) request.identity = .ok block) :
    Edit (.resumeAttempt request) (context.state.setBlock request.ref block)
  | attemptRetried {request : RemoteRequest} {newDispatchId newExecutionAttemptId : OpaqueId} {block : BlockState}
    (taken : retryRemoteBlockOwnership (context.state.block request.ref) request.identity newDispatchId
      newExecutionAttemptId = .ok block) :
    Edit (.retryAttempt request newDispatchId newExecutionAttemptId) (context.state.setBlock request.ref block)
  | failed {request : RemoteRequest} {failure : NormalizedFailure} {blockedReason : String} {runId : Option String}
    {block : BlockState} (stopped : failRemoteBlockOwnership (context.graph.kind request.ref)
      (context.state.block request.ref) request.identity failure blockedReason runId = .ok block) :
    Edit (.failAttempt request failure)
      (releaseCurrentBlockPointers (context.state.setBlock request.ref block) request.ref)

inductive Writes (operation : Operation) : RuntimeState → Prop where
  | raw : Writes operation context.rawState
  | loaded : Writes operation context.state
  | attempted {submission : BlockSubmission} (submits : SubmitsBlock operation submission .local) (attempt : AttemptId) :
    Writes operation (withAttempt context.state submission.ref attempt)
  | reserved {submission : BlockSubmission} {authority : SubmissionAuthority}
    (submits : SubmitsBlock operation submission authority) (attempt : AttemptId) (runId : RunName) :
    Writes operation (withReservation context.state submission.ref attempt runId)
  | edited {edited written : RuntimeState} (edit : Edit digests context results operation edited)
    (ensured : ensureStateForGraph context.graph edited = .ok written) : Writes operation written
end

/-- What one operation may leave behind, at any of its writes. Retrying a review edits the manifest and then resets
the review under it. -/
inductive Leaves (digests : Digests) (world : World) (operation : Operation) (reached : World) : Prop where
  | state {context : RuntimeContext} (loaded : loadRuntimeContext world = .ok context)
    (manifest : reached.manifest = world.manifest)
    (written : Writes digests context world.results operation reached.state)
  | manifest {ref : String} {cycles : Nat} (retries : operation = .retryReview ref cycles)
    (clean : ErrorFree (editMaxFeedbackCycles world.manifest ref cycles))
    (edited : reached.manifest = editMaxFeedbackCycles world.manifest ref cycles) (same : reached.state = world.state)
  | retried {ref : String} {cycles : Nat} {context : RuntimeContext} (retries : operation = .retryReview ref cycles)
    (clean : ErrorFree (editMaxFeedbackCycles world.manifest ref cycles))
    (loaded : loadRuntimeContext { world with manifest := editMaxFeedbackCycles world.manifest ref cycles } = .ok context)
    (edited : reached.manifest = editMaxFeedbackCycles world.manifest ref cycles)
    (written : Writes digests context world.results (.resetMaxCycleReviews (.block ref)) reached.state)

end PlanWeave
