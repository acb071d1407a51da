import PlanWeave.TaskManager.RemoteRuntime
import PlanWeave.TaskManager.ReviewRetry

namespace PlanWeave

inductive Operation where
  | claimNext (options : ClaimOptions)
  | claimDispatchedBlock (ref : String) (projectGuard : ProjectGraphClaimGuard) (attempt : AttemptId)
  | submitBlockResult (submission : BlockSubmission)
  | submitReviewResult (ref : String) (result : ReviewResult) (hookOutcome : Except String String)
  | submitFeedback (report : Bytes)
  | markBlockBlocked (ref reason : String)
  | markBlockDiverged (ref reason : String)
  | unblockBlock (ref reason : String) (allowAlreadyCompleted : Bool)
  | releaseInProgressBlock (ref : String)
  | resolveBlockDivergence (ref reason : String)
  | resetMaxCycleReviews (scope : ClaimScope)
  | retryReview (ref : String) (maxFeedbackCycles : Nat)
  | remoteClaim (claim : RemoteClaim)
  | activate (request : RemoteRequest)
  | reconcile (ref : String) (operationId : OpaqueId) (source : Except String RemoteBlockSourceEvidence)
  | markInterrupted (request : RemoteRequest) (interruption : RemoteInterruption)
  | resumeAttempt (request : RemoteRequest)
  | retryAttempt (request : RemoteRequest) (newDispatchId newExecutionAttemptId : OpaqueId)
  | complete (completion : RemoteCompletion)
  | failAttempt (request : RemoteRequest) (failure : NormalizedFailure)

def discard {α : Type} (action : Locked α) : Locked Unit := do
  let _ ← action
  return ()

def perform (digests : Digests) : Operation → Locked Unit
  | .claimNext options => discard (claimNext digests options)
  | .claimDispatchedBlock ref projectGuard attempt => discard (claimDispatchedBlock ref projectGuard attempt)
  | .submitBlockResult submission => discard (submitBlockResultArtifact digests submission .local)
  | .submitReviewResult ref result hookOutcome => discard (submitReviewResult digests { ref, result, hookOutcome })
  | .submitFeedback report => discard (submitFeedback digests report)
  | .markBlockBlocked ref reason => discard (markBlockBlocked ref reason)
  | .markBlockDiverged ref reason => discard (markBlockDiverged ref reason)
  | .unblockBlock ref reason allowAlreadyCompleted => discard (unblockBlock ref reason allowAlreadyCompleted)
  | .releaseInProgressBlock ref => discard (releaseInProgressBlock ref)
  | .resolveBlockDivergence ref reason => discard (resolveBlockDivergence ref reason)
  | .resetMaxCycleReviews scope => discard (resetMaxCycleReviewsForRetry scope)
  | .retryReview ref maxFeedbackCycles => discard (retryReview ref maxFeedbackCycles)
  | .remoteClaim claim => discard (remoteClaim digests claim)
  | .activate request => discard (activate request)
  | .reconcile ref operationId source => discard (reconcile ref operationId source)
  | .markInterrupted request interruption => discard (markInterrupted request interruption)
  | .resumeAttempt request => discard (resumeAttempt request)
  | .retryAttempt request newDispatchId newExecutionAttemptId =>
    discard (retryAttempt request newDispatchId newExecutionAttemptId)
  | .complete completion => discard (submitRemoteBlockResult digests completion)
  | .failAttempt request failure => discard (failAttempt request failure)

/-- The worlds that runs of allowed operations lead to, with crashes after any write. -/
abbrev Reaches (digests : Digests) (allowed : World → Operation → Prop) : World → World → Prop :=
  Durable.Reaches (perform digests) allowed

def freshWorld (manifest : Manifest) : World := { manifest }

def ErrorFree (manifest : Manifest) : Prop := ∃ graph, compileTaskGraph manifest = .ok graph ∧ graph.errors = []

end PlanWeave
