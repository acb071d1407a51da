import PlanWeave.TaskManager.BlockSubmission

namespace PlanWeave
open Durable

structure ReviewSubmission where
  ref : String
  result : ReviewResult
  remote : Option RemoteIdentity := none
  /-- What the configured hook prints as feedback, or why it failed. -/
  hookOutcome : Except String String := .error "untrusted"

structure SubmitReviewResult where
  ref : String
  reviewAttemptId : String
  verdict : ReviewVerdict
  feedbackId : Option String := none
  status : BlockStatus
  completionReason : Option CompletionReason := none
  feedbackCreated : Bool := false
  message : Option String := none

/-- The names of a kind, in the code unit order of `sort`. -/
def sortedIds (kind : String) (names : List String) : List String :=
  (names.filter (isIdOf kind)).mergeSort (fun left right => left ≤ right)

def attemptMatches (digests : Digests) (reviewBlockRef attemptId resultHash : String) (attempt : ReviewAttempt) : Bool :=
  attempt.metadata.any (fun metadata => metadata.reviewBlockRef = reviewBlockRef && metadata.attemptId = attemptId) &&
    attempt.result.any (fun result => digests.reviewResultHash result = resultHash)

def findPersistedReviewAttempt (digests : Digests) (attempts : OrderedMap String ReviewAttempt)
    (reviewBlockRef resultHash : String) : Option ReviewAttemptMetadata :=
  ((sortedIds "REV" attempts.keys).reverse.find? (fun attemptId =>
    (attempts.get? attemptId).any (attemptMatches digests reviewBlockRef attemptId resultHash))).bind
    (fun attemptId => (attempts.get? attemptId).bind ReviewAttempt.metadata)

def feedbackOfAttempt (reviewBlockRef attemptId feedbackId : String) (folder : FeedbackFolder) : Bool :=
  folder.artifact.any (fun artifact => artifact.feedbackId = feedbackId &&
    artifact.sourceReviewBlockRef = reviewBlockRef && artifact.sourceReviewAttemptId = attemptId)

def findFeedbackForReviewAttempt (folders : OrderedMap String FeedbackFolder) (reviewBlockRef attemptId : String) :
    Option FeedbackArtifact :=
  ((sortedIds "FE" folders.keys).find? (fun feedbackId =>
    (folders.get? feedbackId).any (feedbackOfAttempt reviewBlockRef attemptId feedbackId))).bind
    (fun feedbackId => (folders.get? feedbackId).bind FeedbackFolder.artifact)

def reviewCompletionReasonForAttempt (index : TaskResultIndex) (reviewBlockRef attemptId : String) : Option CompletionReason :=
  if index.latestReviewAttemptByBlock.get? reviewBlockRef = some attemptId then
    index.reviewCompletionReasonByBlock.get? reviewBlockRef
  else none

def maxFeedbackCyclesReached (previousFeedbackCount maxFeedbackCycles : Nat) : Bool :=
  maxFeedbackCycles = 0 || maxFeedbackCycles < previousFeedbackCount

def previousFeedbackCount (state : RuntimeState) (ref : String) : Nat :=
  (state.feedback.values.filter (fun feedback => feedback.sourceReviewBlockRef = ref)).length

def recordReviewAttemptIndexes (taskId : String) (result : ReviewResult) (workRevision attemptId : String)
    (incrementCount : Bool) : Locked Unit :=
  updateTaskIndex taskId (fun index => { index with
    latestReviewAttemptByBlock := index.latestReviewAttemptByBlock.set result.reviewBlockRef attemptId
    latestReviewVerdictByBlock := index.latestReviewVerdictByBlock.set result.reviewBlockRef result.verdict
    latestReviewedWorkRevisionByBlock := index.latestReviewedWorkRevisionByBlock.set result.reviewBlockRef workRevision
    counts := if incrementCount then { index.counts with reviewAttempts := index.counts.reviewAttempts + 1 }
      else index.counts })

def updateAttempt (ref attemptId : String) (change : ReviewAttempt → ReviewAttempt) : Locked Unit :=
  writeResults (fun results => results.setAttempt ref attemptId
    (change (((results.attemptsOf ref).get? attemptId).getD {})))

def writeReviewAttempt (digests : Digests) (taskId : String) (result : ReviewResult) (workRevision : String) :
    Locked String := do
  let ref := result.reviewBlockRef
  let attemptId ← allocateAttemptId ref
  updateAttempt ref attemptId (fun attempt => { attempt with result := some result })
  updateAttempt ref attemptId (fun attempt => { attempt with metadata := some {
    reviewBlockRef := ref
    attemptId
    reviewedWorkRevision := workRevision
    resultHash := digests.reviewResultHash result } })
  recordReviewAttemptIndexes taskId result workRevision attemptId true
  return attemptId

def recordFeedbackEnvelopeIndexes (taskId reviewBlockRef feedbackId : String) (status : FeedbackStatus)
    (incrementCount : Bool) : Locked Unit :=
  updateTaskIndex taskId (fun index => { index with
    latestFeedbackByReviewBlock := index.latestFeedbackByReviewBlock.set reviewBlockRef feedbackId
    feedbackStatusById := index.feedbackStatusById.set feedbackId status
    counts := if incrementCount then { index.counts with feedbackEnvelopes := index.counts.feedbackEnvelopes + 1 }
      else index.counts })

structure PersistedReview where
  attempt : Option ReviewAttemptMetadata
  feedback : Option FeedbackArtifact
  completionReason : Option CompletionReason

def persistedReview (digests : Digests) (results : Results) (taskId : String) (result : ReviewResult) : PersistedReview :=
  let ref := result.reviewBlockRef
  let attempt := findPersistedReviewAttempt digests (results.attemptsOf ref) ref (digests.reviewResultHash result)
  let feedback := if result.verdict = .needsChanges then
      attempt.bind (fun found => findFeedbackForReviewAttempt (results.feedbackOf taskId) ref found.attemptId)
    else none
  {
    attempt
    feedback
    completionReason := if result.verdict = .needsChanges ∧ feedback = none then
        attempt.bind (fun found => reviewCompletionReasonForAttempt (results.taskIndex taskId) ref found.attemptId)
      else none
  }

def reusesAttempt (state : RuntimeState) (ref workRevision : String) (verdict : ReviewVerdict) (persisted : PersistedReview) :
    Bool :=
  persisted.attempt.any (fun attempt => attempt.reviewedWorkRevision = workRevision) ||
    (persisted.attempt.isSome && verdict = .needsChanges && persisted.feedback.any (fun feedback =>
      (state.currentFeedbackId = some feedback.feedbackId && state.currentReviewBlockRef = some ref) ||
        (feedback.status = .resolved && (state.block ref).pendingFeedbackId = some feedback.feedbackId)))

def restoredFeedbackState (state : RuntimeState) (ref attemptId : String) (feedback : FeedbackArtifact) : RuntimeState :=
  let active := isActiveFeedbackStatus feedback.status
  { state.setBlock ref { state.block ref with
      status := .inProgress
      latestReviewAttemptId := some attemptId
      activeFeedbackId := if active then some feedback.feedbackId else none
      pendingFeedbackId := if feedback.status = .resolved then some feedback.feedbackId else none
      completionReason := none } with
    feedback := state.feedback.set feedback.feedbackId {
      status := feedback.status
      sourceReviewBlockRef := ref
      latestSubmissionId := feedback.latestSubmissionId
      content := feedback.content }
    currentReviewBlockRef := some ref
    currentFeedbackId := if active then some feedback.feedbackId else state.currentFeedbackId
    currentRefs := if active then withoutCurrentRef state.currentRefs ref else withCurrentRef state.currentRefs ref }

def reviewedBlock (block : BlockState) (attemptId : String) : BlockState :=
  { block with
    status := .completed
    latestReviewAttemptId := some attemptId
    activeFeedbackId := none
    pendingFeedbackId := none }

def reviewedState (state : RuntimeState) (ref : String) (block : BlockState) : RuntimeState :=
  { state.setBlock ref block with
    currentReviewBlockRef := state.currentReviewBlockRef.filter (fun current => current ≠ ref)
    currentRefs := withoutCurrentRef state.currentRefs ref }

def passedReviewState (state : RuntimeState) (ref attemptId workRevision : String) : RuntimeState :=
  reviewedState state ref { reviewedBlock (state.block ref) attemptId with
    completionReason := some .passed
    passedWorkRevision := some workRevision }

def maxCyclesState (state : RuntimeState) (ref attemptId : String) : RuntimeState :=
  reviewedState state ref { reviewedBlock (state.block ref) attemptId with
    completionReason := some .maxCyclesReached }

/-- The replay of a limit that was reached also clears the blocked reason. -/
def replayedMaxCyclesState (state : RuntimeState) (ref attemptId : String) : RuntimeState :=
  reviewedState state ref { reviewedBlock (state.block ref) attemptId with
    blockedReason := none
    completionReason := some .maxCyclesReached }

def hookFailedState (state : RuntimeState) (ref attemptId reason : String) : RuntimeState :=
  { state.setBlock ref { state.block ref with
      status := .blocked
      latestReviewAttemptId := some attemptId
      activeFeedbackId := none
      pendingFeedbackId := none
      blockedReason := some s!"Review hook failed: {reason}" } with
    currentRefs := withoutCurrentRef state.currentRefs ref }

def openedFeedbackState (state : RuntimeState) (ref attemptId feedbackId content : String) : RuntimeState :=
  { state.setBlock ref { state.block ref with
      status := .inProgress
      latestReviewAttemptId := some attemptId
      activeFeedbackId := some feedbackId
      pendingFeedbackId := none } with
    feedback := state.feedback.set feedbackId {
      status := .open
      sourceReviewBlockRef := ref
      latestSubmissionId := none
      content }
    currentFeedbackId := some feedbackId
    currentReviewBlockRef := some ref
    currentRefs := withoutCurrentRef state.currentRefs ref }

def sealReview (remote : Option RemoteIdentity) (ref attemptId : String) (state : RuntimeState) : Except String RuntimeState :=
  match remote with
  | none => .ok state
  | some identity => do
    let block ← sealRemoteBlockOperationCompleted .review (state.block ref) identity attemptId
    return state.setBlock ref block

def finishReview (context : RuntimeContext) (submission : ReviewSubmission) (attemptId : String) (state : RuntimeState) :
    Locked Unit := do
  let finished ← lift (sealReview submission.remote submission.ref attemptId state)
  let _ ← writeRefreshed context finished
  return ()

def ManifestBlock.maxFeedbackCycles (block : ManifestBlock) : Nat :=
  match block.type with
  | .review settings => settings.maxFeedbackCycles
  | .implementation _ _ => 0

def ManifestBlock.hasHook (block : ManifestBlock) : Bool :=
  match block.type with
  | .review settings => settings.hook.isSome
  | .implementation _ _ => false

def executeReviewHook (block : ManifestBlock) (submission : ReviewSubmission) : Except String String :=
  if block.hasHook then submission.hookOutcome else .ok submission.result.content

def replayRestoredFeedback (context : RuntimeContext) (submission : ReviewSubmission) (taskId attemptId : String)
    (feedback : FeedbackArtifact) : Locked SubmitReviewResult := do
  recordFeedbackEnvelopeIndexes taskId submission.ref feedback.feedbackId feedback.status false
  finishReview context submission attemptId (restoredFeedbackState context.state submission.ref attemptId feedback)
  return {
    ref := submission.ref
    reviewAttemptId := attemptId
    verdict := .needsChanges
    feedbackId := some feedback.feedbackId
    status := .inProgress
    feedbackCreated := true
  }

def maxCyclesResult (ref attemptId : String) : SubmitReviewResult :=
  {
    ref
    reviewAttemptId := attemptId
    verdict := .needsChanges
    status := .completed
    completionReason := some .maxCyclesReached
    message := some "No feedback envelope was created because max feedback cycles were reached."
  }

def passReview (context : RuntimeContext) (submission : ReviewSubmission) (taskId attemptId workRevision : String) :
    Locked SubmitReviewResult := do
  let ref := submission.ref
  recordReviewCompletionReason taskId ref .passed none
  finishReview context submission attemptId (passedReviewState context.state ref attemptId workRevision)
  return {
    ref
    reviewAttemptId := attemptId
    verdict := .passed
    status := .completed
    completionReason := some .passed
  }

def endReviewCycles (context : RuntimeContext) (submission : ReviewSubmission) (taskId attemptId : String) :
    Locked SubmitReviewResult := do
  let ref := submission.ref
  recordReviewCompletionReason taskId ref .maxCyclesReached (some (issue "review_max_cycles_reached"
    s!"Review block '{ref}' reached max feedback cycles without passing." ref))
  finishReview context submission attemptId (maxCyclesState context.state ref attemptId)
  return maxCyclesResult ref attemptId

def openFeedbackEnvelope (context : RuntimeContext) (submission : ReviewSubmission) (taskId attemptId content : String) :
    Locked SubmitReviewResult := do
  let ref := submission.ref
  let feedbackId ← nextFeedbackId taskId context.state
  writeResults (fun results => results.setFeedback taskId feedbackId { results.feedbackFolder taskId feedbackId with
    artifact := some {
      feedbackId
      sourceReviewBlockRef := ref
      content
      sourceReviewAttemptId := attemptId
      status := .open } })
  recordFeedbackEnvelopeIndexes taskId ref feedbackId .open true
  finishReview context submission attemptId (openedFeedbackState context.state ref attemptId feedbackId content)
  return {
    ref
    reviewAttemptId := attemptId
    verdict := .needsChanges
    feedbackId := some feedbackId
    status := .inProgress
    feedbackCreated := true
  }

def decideReview (context : RuntimeContext) (submission : ReviewSubmission) (block : ManifestBlock)
    (taskId attemptId workRevision : String) : Locked SubmitReviewResult := do
  let ref := submission.ref
  let _ ← lift (getTask context.graph taskId)
  if submission.result.verdict = .passed then passReview context submission taskId attemptId workRevision
  else if maxFeedbackCyclesReached (previousFeedbackCount context.state ref) block.maxFeedbackCycles then
    endReviewCycles context submission taskId attemptId
  else
    match executeReviewHook block submission with
    | .error reason =>
      finishReview context submission attemptId (hookFailedState context.state ref attemptId reason)
      return {
        ref
        reviewAttemptId := attemptId
        verdict := .needsChanges
        status := .blocked
      }
    | .ok content => openFeedbackEnvelope context submission taskId attemptId content

def reviewAdmission (context : RuntimeContext) (submission : ReviewSubmission) : Except String (Option SubmitReviewResult) :=
  let ref := submission.ref
  let block := context.state.block ref
  match submission.remote with
  | none =>
    if block.remoteOwnership.isSome then
      .error s!"Remote-owned review '{ref}' must be completed through the remote operation port."
    else if block.status ≠ .inProgress then .error s!"Review block '{ref}' must be in_progress before submit-review."
    else .ok none
  | some identity =>
    match block.remoteOperationReceipt with
    | some receipt =>
      match receipt.outcome with
      | .completed runId =>
        if !matchesRemoteOperationReceipt receipt identity ∨ some runId.text ≠ block.latestReviewAttemptId then
          .error s!"Remote review completion for '{ref}' conflicts with its terminal operation receipt."
        else .ok (some {
          ref
          reviewAttemptId := runId.text
          verdict := submission.result.verdict
          status := block.status
          completionReason := block.completionReason
          feedbackCreated := block.activeFeedbackId.isSome })
      | .failed _ => .error s!"Remote review completion for '{ref}' conflicts with its terminal operation receipt."
    | none => do
      let _ ← assertActiveRemoteBlockOwnership block identity
      if remoteCanSubmit block then return none
      else .error s!"Review block '{ref}' must be in_progress before submit-review."

def submitReviewResult (digests : Digests) (submission : ReviewSubmission) : Locked SubmitReviewResult := do
  let ref := submission.ref
  let result := submission.result
  let context ← loadRuntime
  let (taskId, _) ← lift (parseBlockRef ref)
  let block ← lift (getBlock context.graph ref)
  if !block.isReview then fail "submit-review only accepts review blocks."
  else if result.reviewBlockRef ≠ ref ∨ result.taskId ≠ taskId then
    fail "review-result.json does not match the submitted review block ref."
  else
    match ← lift (reviewAdmission context submission) with
    | some replay => return replay
    | none =>
      let workRevision := computeWorkRevision digests context.graph context.state ref
      let world ← read
      let persisted := persistedReview digests world.results taskId result
      match persisted.attempt.filter (fun _ => reusesAttempt context.state ref workRevision result.verdict persisted) with
      | none =>
        let attemptId ← writeReviewAttempt digests taskId result workRevision
        decideReview context submission block taskId attemptId workRevision
      | some attempt =>
        recordReviewAttemptIndexes taskId result attempt.reviewedWorkRevision attempt.attemptId false
        match persisted.feedback, persisted.completionReason with
        | some feedback, _ => replayRestoredFeedback context submission taskId attempt.attemptId feedback
        | none, some .maxCyclesReached =>
          finishReview context submission attempt.attemptId (replayedMaxCyclesState context.state ref attempt.attemptId)
          return maxCyclesResult ref attempt.attemptId
        | none, _ => decideReview context submission block taskId attempt.attemptId workRevision

end PlanWeave
