import PlanWeave.TaskManager.World

namespace PlanWeave

def getTask (graph : Graph) (taskId : String) : Except String ManifestTask :=
  match graph.tasksById.get? taskId with
  | some task => .ok task
  | none => .error s!"Task '{taskId}' does not exist."

def getBlock (graph : Graph) (ref : String) : Except String ManifestBlock :=
  match graph.blocksByRef.get? ref with
  | some block => .ok block
  | none => .error s!"Block '{ref}' does not exist."

def activeOpenFeedback (state : RuntimeState) : List (String × FeedbackEnvelope) :=
  state.feedback.entries.filter (fun entry => entry.2.isActive)

def openFeedbackForReview (state : RuntimeState) (reviewBlockRef : String) : Option (String × FeedbackEnvelope) :=
  state.feedback.entries.find? (fun entry => entry.2.sourceReviewBlockRef = reviewBlockRef && entry.2.isActive)

def effectiveBlockExecutor (graph : Graph) (ref : String) (defaultExecutor : Option String) : String :=
  let task := graph.tasksById.get? (graph.taskOfRef ref)
  (((graph.blocksByRef.get? ref).bind ManifestBlock.executor).or
    ((task.bind ManifestTask.executor).or defaultExecutor)).getD "default"

def requiredImplementationRefs (graph : Graph) (taskId : String) : List String :=
  (neighbors graph.blocksByTask taskId).filter graph.isImplementation

def effectiveFeedbackExecutor (graph : Graph) (sourceReviewBlockRef : String) (defaultExecutor : Option String) : String :=
  match graph.blockTaskByRef.get? sourceReviewBlockRef with
  | none => effectiveBlockExecutor graph sourceReviewBlockRef defaultExecutor
  | some taskId =>
    match uniqueInOrder ((requiredImplementationRefs graph taskId).map
      (fun ref => effectiveBlockExecutor graph ref defaultExecutor)) with
    | [executor] => executor
    | _ => effectiveBlockExecutor graph sourceReviewBlockRef defaultExecutor

inductive ClaimScope where
  | project
  | task (taskId : String)
  | block (blockRef : String)

def scopeProblem (scope : ClaimScope) (graph : Graph) : Option String :=
  match scope with
  | .project => none
  | .task taskId => if graph.tasksById.has taskId then none else some s!"Task '{taskId}' does not exist."
  | .block blockRef => if graph.blocksByRef.has blockRef then none else some s!"Block '{blockRef}' does not exist."

def blockInScope (ref : String) (graph : Graph) (scope : ClaimScope) : Bool :=
  match scope with
  | .project => true
  | .block blockRef => ref = blockRef
  | .task taskId => graph.blockTaskByRef.get? ref = some taskId

def computeWorkRevision (digests : Digests) (graph : Graph) (state : RuntimeState) (reviewBlockRef : String) : String :=
  digests.workRevision
    ((requiredImplementationRefs graph (graph.taskOfRef reviewBlockRef)).map
      (fun ref => (ref, (state.block ref).lastRunId)))
    ((state.feedback.entries.filter (fun entry => entry.2.sourceReviewBlockRef = reviewBlockRef)).map
      (fun entry => (entry.1, entry.2.latestSubmissionId)))

def canClaimReviewBlock (digests : Digests) (graph : Graph) (state : RuntimeState) (ref : String) : Bool :=
  match graph.blockTaskByRef.get? ref with
  | none => false
  | some taskId => graph.isRequiredReview ref &&
      !(activeOpenFeedback state).any (fun entry =>
        graph.blockTaskByRef.get? entry.2.sourceReviewBlockRef = some taskId) &&
      (requiredImplementationRefs graph taskId).all (fun blockRef => state.status blockRef = .completed) &&
      (state.block ref).passedWorkRevision ≠ some (computeWorkRevision digests graph state ref)

def refsConflict (graph : Graph) (leftRef rightRef : String) : Bool :=
  if leftRef = rightRef then false
  else
    match graph.blockTaskByRef.get? leftRef, graph.blockTaskByRef.get? rightRef with
    | some left, some right => left = right || graph.taskReachable left right || graph.taskReachable right left
    | _, _ => true

def inProgressBlockRefs (graph : Graph) (state : RuntimeState) : List String :=
  state.currentRefs.filter (fun ref => state.status ref = .inProgress && graph.blocksByRef.has ref)

def canDispatchImplementationBlock (graph : Graph) (state : RuntimeState) (maxConcurrent : Nat)
    (selectedRefs : List String) (ref : String) : Bool :=
  match graph.blockTaskByRef.get? ref with
  | none => false
  | some taskId => graph.isImplementation ref && state.status ref = .ready &&
      taskDependenciesSatisfied graph state taskId && blockDependenciesCompleted graph state ref &&
      (inProgressBlockRefs graph state).length + selectedRefs.length < maxConcurrent &&
      !state.currentRefs.any (fun currentRef => state.status currentRef = .inProgress && refsConflict graph ref currentRef) &&
      !selectedRefs.any (refsConflict graph ref)

def claimedBlockState (block : BlockState) (kind : BlockKind) (attempt : AttemptId) : BlockState :=
  match kind with
  | .review => { block with status := .inProgress }
  | .implementation => { block with
      status := .inProgress
      submissionAttemptId := some attempt
      submissionRunId := none }

def Graph.kind (graph : Graph) (ref : String) : BlockKind := if graph.isReview ref then .review else .implementation

def withCurrentRef (currentRefs : List String) (ref : String) : List String :=
  if ref ∈ currentRefs then currentRefs else currentRefs ++ [ref]

def withoutCurrentRef (currentRefs : List String) (ref : String) : List String :=
  currentRefs.filter (fun currentRef => currentRef ≠ ref)

def markClaimed (state : RuntimeState) (ref : String) (graph : Graph) (attempt : AttemptId) : RuntimeState :=
  { state.setBlock ref (claimedBlockState (state.block ref) (graph.kind ref) attempt) with
    currentRefs := [ref]
    currentReviewBlockRef := if graph.isReview ref then some ref else state.currentReviewBlockRef }

end PlanWeave
