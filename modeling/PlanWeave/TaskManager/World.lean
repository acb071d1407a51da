import PlanWeave.State.Ensure
import PlanWeave.ManifestSchema
import PlanWeave.Lib.Durable

namespace PlanWeave

abbrev Bytes := List UInt8

structure ReviewResult where
  reviewBlockRef : String
  taskId : String
  verdict : ReviewVerdict
  content : String
deriving DecidableEq

structure ReviewAttemptMetadata where
  reviewBlockRef : String
  attemptId : String
  reviewedWorkRevision : String
  resultHash : String

/-- `attempts/<REV-*>` of a review block: `review-result.json` and `metadata.json`. -/
structure ReviewAttempt where
  result : Option ReviewResult := none
  metadata : Option ReviewAttemptMetadata := none

structure FeedbackArtifact where
  feedbackId : String
  sourceReviewBlockRef : String
  content : String
  sourceReviewAttemptId : String
  status : FeedbackStatus
  latestSubmissionId : Option String := none

structure FeedbackSubmissionMetadata where
  feedbackId : String
  submissionId : String
  sourceReviewBlockRef : String
  reportHash : String

structure FeedbackSubmission where
  report : Option Bytes := none
  metadata : Option FeedbackSubmissionMetadata := none

/-- `feedback/<FE-*>` of a task: `feedback.json` and the submissions. -/
structure FeedbackFolder where
  artifact : Option FeedbackArtifact := none
  submissions : OrderedMap String FeedbackSubmission := ∅

/-- A verified `report.md`; version, kind, path and media type are fixed for implementation runs. -/
structure ArtifactReference where
  sha256 : String
  sizeBytes : Nat
deriving DecidableEq

structure ImplementationRunMetadata where
  ref : Option String := none
  taskId : Option String := none
  blockId : Option String := none
  runId : Option RunName := none
  submissionReportHash : Option String := none
  submissionAttemptId : Option AttemptId := none
  reportHash : Option String := none
  artifactReference : Option ArtifactReference := none

/-- `runs/<RUN-*>` of a block: `metadata.json` and `report.md`. -/
structure RunFolder where
  metadata : Option ImplementationRunMetadata := none
  report : Option Bytes := none

structure TaskCounts where
  runs : Nat := 0
  reviewAttempts : Nat := 0
  feedbackEnvelopes : Nat := 0
  feedbackSubmissions : Nat := 0

/-- `results/<task>/index.json`. -/
structure TaskResultIndex where
  latestRunByBlock : OrderedMap String RunName := ∅
  latestReviewAttemptByBlock : OrderedMap String String := ∅
  latestReviewVerdictByBlock : OrderedMap String ReviewVerdict := ∅
  latestReviewedWorkRevisionByBlock : OrderedMap String String := ∅
  latestFeedbackByReviewBlock : OrderedMap String String := ∅
  latestFeedbackSubmissionByFeedback : OrderedMap String String := ∅
  feedbackStatusById : OrderedMap String FeedbackStatus := ∅
  reviewCompletionReasonByBlock : OrderedMap String CompletionReason := ∅
  counts : TaskCounts := {}
  warnings : List Issue := []

/-- The results directory. Attempts and runs are keyed by block ref, feedback and indexes by task.
The run index and the review index are left out: no modelled operation reads them. -/
structure Results where
  attempts : OrderedMap String (OrderedMap String ReviewAttempt) := ∅
  feedback : OrderedMap String (OrderedMap String FeedbackFolder) := ∅
  runs : OrderedMap String (OrderedMap RunName RunFolder) := ∅
  indexes : OrderedMap String TaskResultIndex := ∅

/-- What is on disk for one canvas: the manifest, `state.json` and the results directory. -/
structure World where
  manifest : Manifest
  state : RuntimeState := createEmptyState
  results : Results := {}

/-- The digests that the runtime takes. Nothing is assumed of them. -/
structure Digests where
  sha256 : Bytes → String
  reviewResultHash : ReviewResult → String
  workRevision : List (String × Option String) → List (String × Option String) → String

abbrev Locked (α : Type) : Type := Durable World String α

namespace Results

def taskIndex (results : Results) (taskId : String) : TaskResultIndex := (results.indexes.get? taskId).getD {}

def attemptsOf (results : Results) (ref : String) : OrderedMap String ReviewAttempt := (results.attempts.get? ref).getD ∅

def feedbackOf (results : Results) (taskId : String) : OrderedMap String FeedbackFolder :=
  (results.feedback.get? taskId).getD ∅

def runsOf (results : Results) (ref : String) : OrderedMap RunName RunFolder := (results.runs.get? ref).getD ∅

def updateIndex (results : Results) (taskId : String) (update : TaskResultIndex → TaskResultIndex) : Results :=
  { results with indexes := results.indexes.set taskId (update (results.taskIndex taskId)) }

def setAttempt (results : Results) (ref attemptId : String) (attempt : ReviewAttempt) : Results :=
  { results with attempts := results.attempts.set ref ((results.attemptsOf ref).set attemptId attempt) }

def setFeedback (results : Results) (taskId feedbackId : String) (folder : FeedbackFolder) : Results :=
  { results with feedback := results.feedback.set taskId ((results.feedbackOf taskId).set feedbackId folder) }

def setRun (results : Results) (ref : String) (runId : RunName) (folder : RunFolder) : Results :=
  { results with runs := results.runs.set ref ((results.runsOf ref).set runId folder) }

end Results

namespace World

def withState (world : World) (state : RuntimeState) : World := { world with state }

def withResults (world : World) (change : Results → Results) : World := { world with results := change world.results }

end World

def writeState (state : RuntimeState) : Locked Unit := Durable.write (fun world => world.withState state)

def writeResults (change : Results → Results) : Locked Unit := Durable.write (fun world => world.withResults change)

def updateTaskIndex (taskId : String) (update : TaskResultIndex → TaskResultIndex) : Locked Unit :=
  writeResults (fun results => results.updateIndex taskId update)

structure RuntimeContext where
  manifest : Manifest
  graph : Graph
  rawState : RuntimeState
  state : RuntimeState

def loadRuntimeContext (world : World) : Except String RuntimeContext := do
  let graph ← compileTaskGraph world.manifest
  let rawState ← readState world.state
  let state ← ensureStateForManifest world.manifest rawState
  return { manifest := world.manifest, graph, rawState, state }

def loadRuntimeReadonly : Locked RuntimeContext := do
  let world ← Durable.read
  Durable.lift (loadRuntimeContext world)

def loadRuntime : Locked RuntimeContext := do
  let context ← loadRuntimeReadonly
  Durable.when (context.rawState ≠ context.state) (writeState context.state)
  return context

def refreshDerivedState (manifest : Manifest) (state : RuntimeState) : Except String RuntimeState :=
  ensureStateForManifest manifest state

def writeRefreshed (context : RuntimeContext) (state : RuntimeState) : Locked RuntimeState := do
  let refreshed ← Durable.lift (refreshDerivedState context.manifest state)
  writeState refreshed
  return refreshed

end PlanWeave
