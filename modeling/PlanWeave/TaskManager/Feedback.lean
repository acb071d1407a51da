import PlanWeave.TaskManager.ReviewSubmission

namespace PlanWeave

structure SubmitFeedbackResult where
  feedbackId : String
  submissionId : String

def feedbackSubmissionMatches (digests : Digests) (feedbackId submissionId sourceReviewBlockRef reportHash : String)
    (submission : FeedbackSubmission) : Bool :=
  submission.metadata.any (fun metadata => metadata.feedbackId = feedbackId && metadata.submissionId = submissionId &&
      metadata.sourceReviewBlockRef = sourceReviewBlockRef) &&
    submission.report.any (fun report => digests.sha256 report = reportHash)

def findPersistedFeedbackSubmission (digests : Digests) (submissions : OrderedMap String FeedbackSubmission)
    (feedbackId sourceReviewBlockRef reportHash : String) : Option String :=
  (sortedIds "FS" submissions.keys).reverse.find? (fun submissionId => (submissions.get? submissionId).any
    (feedbackSubmissionMatches digests feedbackId submissionId sourceReviewBlockRef reportHash))

def updateSubmission (taskId feedbackId submissionId : String) (change : FeedbackSubmission → FeedbackSubmission) :
    Locked Unit :=
  writeResults (fun results => results.setSubmission taskId feedbackId submissionId
    (change (((results.feedbackFolder taskId feedbackId).submissions.get? submissionId).getD {})))

def writeFeedbackSubmission (taskId feedbackId sourceReviewBlockRef reportHash : String) (report : Bytes) :
    Locked String := do
  let submissionId ← allocateSubmissionId taskId feedbackId
  updateSubmission taskId feedbackId submissionId (fun submission => { submission with report := some report })
  updateSubmission taskId feedbackId submissionId (fun submission => { submission with metadata := some {
    feedbackId
    submissionId
    sourceReviewBlockRef
    reportHash } })
  return submissionId

def feedbackSubmission (persisted : Option String) (taskId feedbackId sourceReviewBlockRef reportHash : String)
    (report : Bytes) : Locked String :=
  match persisted with
  | some submissionId => return submissionId
  | none => writeFeedbackSubmission taskId feedbackId sourceReviewBlockRef reportHash report

def recordFeedbackSubmissionIndexes (taskId feedbackId submissionId : String) (incrementCount : Bool) : Locked Unit :=
  updateTaskIndex taskId (fun index => { index with
    latestFeedbackSubmissionByFeedback := index.latestFeedbackSubmissionByFeedback.set feedbackId submissionId
    feedbackStatusById := index.feedbackStatusById.set feedbackId .resolved
    counts := if incrementCount then { index.counts with feedbackSubmissions := index.counts.feedbackSubmissions + 1 }
      else index.counts })

def answeredState (state : RuntimeState) (feedbackId submissionId : String) (feedback : FeedbackEnvelope) : RuntimeState :=
  let source := feedback.sourceReviewBlockRef
  { state.setBlock source { state.block source with
      status := .inProgress
      activeFeedbackId := none
      pendingFeedbackId := some feedbackId } with
    feedback := state.feedback.set feedbackId { feedback with
      status := .resolved
      latestSubmissionId := some submissionId }
    currentFeedbackId := none
    currentReviewBlockRef := some source
    currentRefs := withCurrentRef state.currentRefs source }

def currentFeedback (state : RuntimeState) : Except String (String × FeedbackEnvelope) :=
  match state.currentFeedbackId.bind (fun id => (state.feedback.get? id).map (fun feedback => (id, feedback))) with
  | some current => .ok current
  | none => .error "submit-feedback requires an active feedback event."

def submitFeedback (digests : Digests) (report : Bytes) : Locked SubmitFeedbackResult := do
  let reportHash := digests.sha256 report
  let context ← loadRuntime
  let (feedbackId, feedback) ← Durable.lift (currentFeedback context.state)
  let source := feedback.sourceReviewBlockRef
  match context.graph.blockTaskByRef.get? source with
  | none => Durable.fail s!"Feedback '{feedbackId}' points to an unknown review block."
  | some taskId =>
    let world ← Durable.read
    let persisted := findPersistedFeedbackSubmission digests
      (world.results.feedbackFolder taskId feedbackId).submissions feedbackId source reportHash
    let submissionId ← feedbackSubmission persisted taskId feedbackId source reportHash report
    recordFeedbackSubmissionIndexes taskId feedbackId submissionId persisted.isNone
    patchFeedbackArtifact taskId feedbackId .resolved (some submissionId)
    let _ ← writeRefreshed context (answeredState context.state feedbackId submissionId feedback)
    return { feedbackId, submissionId }

end PlanWeave
