import PlanWeave.TaskManager.ClaimReadiness

namespace PlanWeave

def missingImplementationClaimIdentityReason (ref : String) : String :=
  s!"Implementation claim '{ref}' has no captured submissionAttemptId. Stop and drain its old executor before using mark-blocked, then unblock and claim/run a new execution cycle. For a remote-owned claim, use the existing remote recovery procedure instead."

/-- Take up a review that is in progress: its answered feedback is no longer pending. -/
def applyCurrentReviewResumeClaim (state : RuntimeState) (ref : String) (clearCurrentFeedback : Bool) : RuntimeState :=
  { state.setBlock ref { state.block ref with pendingFeedbackId := none } with
    currentRefs := withCurrentRef state.currentRefs ref
    currentFeedbackId := if clearCurrentFeedback then none else state.currentFeedbackId
    currentReviewBlockRef := some ref }

def claimFeedback (state : RuntimeState) (feedbackId : String) (feedback : FeedbackEnvelope) : RuntimeState :=
  { state with
    feedback := state.feedback.set feedbackId { feedback with status := .inProgress }
    currentFeedbackId := some feedbackId
    currentReviewBlockRef := some feedback.sourceReviewBlockRef
    currentRefs := withoutCurrentRef state.currentRefs feedback.sourceReviewBlockRef }

def claimRef (context : RuntimeContext) (options : ClaimOptions) (retained : List String) (ref : String) : RuntimeState :=
  let claimed := markClaimed context.state ref context.graph (options.attempts ref)
  if retained = [] then claimed
  else { claimed with currentRefs := retained ++ claimed.currentRefs.filter (fun current => current ∉ retained) }

def claimBatchRef (graph : Graph) (options : ClaimOptions) (state : RuntimeState) (ref : String) : RuntimeState :=
  { state.setBlock ref (claimedBlockState (state.block ref) (graph.kind ref) (options.attempts ref)) with
    currentReviewBlockRef := if graph.isReview ref then some ref else state.currentReviewBlockRef }

def claimBatch (context : RuntimeContext) (options : ClaimOptions) (retained selected : List String) : RuntimeState :=
  { selected.foldl (claimBatchRef context.graph options) context.state with
    currentRefs := retained ++ selected.filter (fun ref => ref ∉ retained) }

inductive ClaimEffect where
  | keep
  | refresh (state : RuntimeState)
  | answer (taskId feedbackId : String) (state : RuntimeState)

def blockClaimResult (context : RuntimeContext) (options : ClaimOptions) (ref : String) : ClaimResult :=
  .block { claimResultForBlock ref context.graph .claimed context.manifest.defaultExecutor with
    submissionAttemptId := if context.graph.isReview ref then none else some (options.attempts ref) }

def batchResult (context : RuntimeContext) (options : ClaimOptions) (refs : List String) (atCapacity : Bool) : ClaimResult :=
  .batch refs (refs.map (fun ref => (ref, effectiveBlockExecutor context.graph ref context.manifest.defaultExecutor)))
    (if atCapacity then [] else (refs.filter (fun ref => !context.graph.isReview ref)).map (fun ref => (ref, options.attempts ref)))
    atCapacity

def parallelClaim (digests : Digests) (context : RuntimeContext) (options : ClaimOptions) : ClaimEffect × ClaimResult :=
  if !context.manifest.parallelEnabled then
    (.keep, .blocked none "Parallel execution is disabled by the Plan Package.")
  else
    let retained := inProgressBlockRefs context.graph context.state
    if context.manifest.maxConcurrent ≤ retained.length then (.keep, batchResult context options retained true)
    else
      match selectedParallelBatchRefs digests context options with
      | [] =>
        match (scopedReadyRefs digests context options).find? context.graph.isReview with
        | some ref => (.refresh (claimRef context options retained ref), blockClaimResult context options ref)
        | none =>
          if retained ≠ [] then (.keep, batchResult context options retained true)
          else
            match firstProjectBlockedResult digests context options with
            | some result => (.keep, result)
            | none => (.refresh { context.state with currentRefs := [] }, .none "no_parallel_blocks"
                ((scopedReadyRefs digests context options).filter context.graph.isReview))
      | selected => (.refresh (claimBatch context options retained selected), batchResult context options selected false)

/-- A sequential claim finishes a ready review before it starts an implementation. -/
def sequentialClaim (digests : Digests) (context : RuntimeContext) (options : ClaimOptions) : ClaimEffect × ClaimResult :=
  let ready := scopedReadyRefs digests context options
  match (ready.find? context.graph.isReview).or (ready.find? (fun ref => !context.graph.isReview ref)) with
  | some ref => (.refresh (claimRef context options [] ref), blockClaimResult context options ref)
  | none =>
    match (firstProjectBlockedResult digests context options).or (firstBlockedResult context options) with
    | some result => (.keep, result)
    | none => (.refresh context.state, .none "no_claimable_blocks" [])

def claimByOrder (digests : Digests) (context : RuntimeContext) (options : ClaimOptions) (order : ClaimOrder) :
    ClaimEffect × ClaimResult :=
  match order with
  | .blocked result => (.keep, result)
  | .feedback feedbackId feedback taskId result =>
    (.answer taskId feedbackId (claimFeedback context.state feedbackId feedback), result)
  | .currentReview ref clearCurrentFeedback result =>
    (.refresh (applyCurrentReviewResumeClaim context.state ref clearCurrentFeedback), result)
  | .currentBlock ref claim =>
    if options.parallel then parallelClaim digests context options
    else (.keep, .block { claim with
      submissionAttemptId := if context.graph.isReview ref then none else (context.state.block ref).submissionAttemptId })
  | .ready => if options.parallel then parallelClaim digests context options else sequentialClaim digests context options

/-- Patch the status of a persisted envelope; fails when its file is missing. -/
def patchFeedbackArtifact (taskId feedbackId : String) (status : FeedbackStatus) (latestSubmissionId : Option String) :
    Locked Unit := do
  let world ← Durable.read
  match (world.results.feedbackOf taskId).get? feedbackId with
  | some { artifact := some artifact, submissions } =>
    writeResults (fun results => results.setFeedback taskId feedbackId { artifact := some { artifact with
      status
      latestSubmissionId := latestSubmissionId.or artifact.latestSubmissionId }, submissions })
  | _ => Durable.fail s!"ENOENT: no such file or directory, open 'feedback/{feedbackId}/feedback.json'"

def applyClaim (context : RuntimeContext) : ClaimEffect × ClaimResult → Locked ClaimResult
  | (.keep, result) => return result
  | (.refresh state, result) => do
    let _ ← writeRefreshed context state
    return result
  | (.answer taskId feedbackId state, result) => do
    patchFeedbackArtifact taskId feedbackId .inProgress none
    updateTaskIndex taskId (fun index => { index with
      feedbackStatusById := index.feedbackStatusById.set feedbackId .inProgress })
    let _ ← writeRefreshed context state
    return result

def missingClaimIdentity (context : RuntimeContext) (order : ClaimOrder) : Option String :=
  match order with
  | .currentBlock ref claim =>
    if claim.blockType = .implementation && (context.state.block ref).submissionAttemptId.isNone then some ref else none
  | _ => none

/-- `claimNext` without the dry-run mode, which writes nothing. -/
def claimNext (digests : Digests) (options : ClaimOptions) : Locked ClaimResult := do
  let context ← loadRuntimeReadonly
  match scopeProblem options.scope context.graph with
  | some reason => return .blocked none reason
  | none =>
    let order ← Durable.lift (buildClaimOrder digests context options)
    match missingClaimIdentity context order with
    | some ref => return .blocked (some ref) (missingImplementationClaimIdentityReason ref)
    | none =>
      Durable.when (context.rawState ≠ context.state) (writeState context.state)
      applyClaim context (claimByOrder digests context options order)

def dispatchState (context : RuntimeContext) (ref : String) (attempt : AttemptId) : RuntimeState :=
  { context.state.setBlock ref (claimedBlockState (context.state.block ref) .implementation attempt) with
    currentRefs := withCurrentRef context.state.currentRefs ref }

def claimDispatchedBlock (ref : String) (projectGuard : ProjectGraphClaimGuard) (attempt : AttemptId) : Locked ClaimResult := do
  let context ← loadRuntime
  match scopeProblem (.block ref) context.graph with
  | some reason => return .blocked none reason
  | none =>
    if !context.graph.isImplementation ref then
      return .blocked (some ref) "dispatch claims only support implementation blocks."
    else
      match projectBlockerReason projectGuard (context.graph.blockTaskByRef.get? ref) with
      | some reason => return .blocked (some ref) reason
      | none =>
        if !canDispatchImplementationBlock context.graph context.state context.manifest.maxConcurrent [] ref then
          return .blocked (some ref) s!"Block '{ref}' is not dispatchable right now."
        else
          let _ ← writeRefreshed context (dispatchState context ref attempt)
          return .block { claimResultForBlock ref context.graph .dispatched context.manifest.defaultExecutor with
            submissionAttemptId := some attempt }

end PlanWeave
