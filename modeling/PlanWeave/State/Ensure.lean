import PlanWeave.Graph.Compile
import PlanWeave.TaskManager.RemoteOwnership

namespace PlanWeave

namespace Graph

/-- The task of a ref. Every ref of the compiled order has one, so the default is never read there. -/
def taskOfRef (graph : Graph) (ref : String) : String := (graph.blockTaskByRef.get? ref).getD ""

def isReview (graph : Graph) (ref : String) : Bool := (graph.blocksByRef.get? ref).any ManifestBlock.isReview

def isImplementation (graph : Graph) (ref : String) : Bool :=
  (graph.blocksByRef.get? ref).any ManifestBlock.isImplementation

end Graph

def ManifestBlock.isRequiredReview (block : ManifestBlock) : Bool :=
  match block.type with
  | .review settings => settings.required
  | .implementation _ _ => false

def Graph.isRequiredReview (graph : Graph) (ref : String) : Bool :=
  (graph.blocksByRef.get? ref).any ManifestBlock.isRequiredReview

def taskDependenciesSatisfied (graph : Graph) (state : RuntimeState) (taskId : String) : Bool :=
  (neighbors graph.taskDependenciesByTask taskId).all (fun dependency => state.taskStatus dependency = .implemented)

def blockDependenciesCompleted (graph : Graph) (state : RuntimeState) (ref : String) : Bool :=
  (neighbors graph.blockDependenciesByRef ref).all (fun dependency => state.status dependency = .completed)

def defaultBlockStatus (graph : Graph) (state : RuntimeState) (ref : String) : BlockStatus :=
  if taskDependenciesSatisfied graph state (graph.taskOfRef ref) && blockDependenciesCompleted graph state ref then .ready
  else .planned

def openFeedback (graph : Graph) (state : RuntimeState) (taskId : String) : List FeedbackEnvelope :=
  state.feedback.values.filter (fun feedback =>
    graph.blockTaskByRef.get? feedback.sourceReviewBlockRef = some taskId && feedback.isActive)

def hasOpenFeedbackForTask (graph : Graph) (state : RuntimeState) (taskId : String) : Bool :=
  openFeedback graph state taskId ≠ []

def hasStartedBlock (status : BlockStatus) : Bool := status ≠ .planned && status ≠ .ready

def aggregateTaskStatus (graph : Graph) (state : RuntimeState) (taskId : String) : TaskState :=
  let refs := neighbors graph.blocksByTask taskId
  let openFeedbackCount := (openFeedback graph state taskId).length
  if !taskDependenciesSatisfied graph state taskId then { status := .planned, openFeedbackCount }
  else if refs.any (fun ref => state.status ref = .inProgress) || 0 < openFeedbackCount then
    { status := .inProgress, openFeedbackCount }
  else if (refs.filter graph.isImplementation).all (fun ref => state.status ref = .completed) &&
      (refs.filter graph.isRequiredReview).all (fun ref => (state.block ref).completionReason = some .passed) then
    { status := .implemented, openFeedbackCount }
  else if refs.any (fun ref => hasStartedBlock (state.status ref)) then { status := .inProgress, openFeedbackCount }
  else { status := .ready, openFeedbackCount }

/-- A terminal receipt that was written for the other block type at this ref. -/
def receiptDrifts (graph : Graph) (ref : String) (block : BlockState) : Bool :=
  match block.remoteOperationReceipt, graph.blocksByRef.get? ref with
  | some receipt, some declared => !remoteOperationReceiptMatchesBlockType receipt declared.kind
  | _, _ => false

def assertOwnedBlock (graph : Graph) (ref : String) (block : BlockState) : Except String Unit :=
  if block.remoteOwnership.isNone then .ok ()
  else if graph.blocksByRef.has ref then assertRemoteBlockOwnershipInvariant block
  else .error s!"Remote-owned block '{ref}' no longer exists in the manifest. Run planweave doctor before reconciling state."

def assertOwnedBlocks (graph : Graph) : List (String × BlockState) → Except String Unit
  | [] => .ok ()
  | entry :: rest => do
    assertOwnedBlock graph entry.1 entry.2
    assertOwnedBlocks graph rest

/-- The stored block that reconciliation keeps; a block of another type is dropped. -/
def existingBlock (graph : Graph) (stored : RuntimeState) (ref : String) : Option BlockState :=
  (stored.blocks.get? ref).filter (fun block => !receiptDrifts graph ref block)

def prunedState (graph : Graph) (stored : RuntimeState) : RuntimeState :=
  let feedback := stored.feedback.filter (fun _ feedback => feedback.sourceReviewBlockRef ∈ graph.blockRefsInManifestOrder)
  {
    currentRefs := stored.currentRefs.filter (fun ref => ref ∈ graph.blockRefsInManifestOrder &&
      !(stored.blocks.get? ref).any (receiptDrifts graph ref))
    currentFeedbackId := stored.currentFeedbackId.filter (fun id => (feedback.get? id).any FeedbackEnvelope.isActive)
    currentReviewBlockRef := stored.currentReviewBlockRef.filter (fun ref => ref ∈ graph.blockRefsInManifestOrder)
    feedback
  }

/-- Place the stored or a new block; a block that has not started gets its status derived again. -/
def seedBlock (graph : Graph) (stored next : RuntimeState) (ref : String) : RuntimeState :=
  let seeded := (existingBlock graph stored ref).getD { status := defaultBlockStatus graph next ref }
  let placed := next.setBlock ref seeded
  if hasStartedBlock seeded.status then placed
  else placed.setBlock ref { seeded with status := defaultBlockStatus graph placed ref }

def aggregateTask (graph : Graph) (state : RuntimeState) (taskId : String) : RuntimeState :=
  { state with tasks := state.tasks.set taskId (aggregateTaskStatus graph state taskId) }

/-- One visit of the promotion loop to a block; the flag is the source's `changed`. -/
def promoteBlock (graph : Graph) (taskId : String) (state : RuntimeState × Bool) (ref : String) : RuntimeState × Bool :=
  if state.1.status ref = .planned && blockDependenciesCompleted graph state.1 ref &&
      !(graph.isReview ref && hasOpenFeedbackForTask graph state.1 taskId) then
    (state.1.setBlock ref { state.1.block ref with status := .ready }, true)
  else state

def promoteTask (graph : Graph) (state : RuntimeState × Bool) (taskId : String) : RuntimeState × Bool :=
  if taskDependenciesSatisfied graph state.1 taskId then
    let promoted := (neighbors graph.blocksByTask taskId).foldl (promoteBlock graph taskId) state
    let aggregated := aggregateTask graph promoted.1 taskId
    (aggregated, promoted.2 ||
      (promoted.1.tasks.get? taskId).map TaskState.status ≠ (aggregated.tasks.get? taskId).map TaskState.status)
  else state

def promote (graph : Graph) : Nat → RuntimeState → RuntimeState
  | 0, state => state
  | passes + 1, state =>
    let promoted := graph.taskNodesInManifestOrder.foldl (promoteTask graph) (state, false)
    if promoted.2 then promote graph passes promoted.1 else promoted.1

def seededState (graph : Graph) (stored : RuntimeState) : RuntimeState :=
  graph.blockRefsInManifestOrder.foldl (seedBlock graph stored) (prunedState graph stored)

def aggregatedState (graph : Graph) (seeded : RuntimeState) : RuntimeState :=
  graph.taskNodesInManifestOrder.foldl (aggregateTask graph) seeded

def derivedState (graph : Graph) (stored : RuntimeState) : RuntimeState :=
  promote graph (graph.taskNodesInManifestOrder.length + 1) (aggregatedState graph (seededState graph stored))

def ensureStateForGraph (graph : Graph) (stored : RuntimeState) : Except String RuntimeState := do
  assertOwnedBlocks graph stored.blocks.entries
  return derivedState graph stored

def ensureStateForManifest (manifest : Manifest) (stored : RuntimeState) : Except String RuntimeState := do
  let graph ← compileTaskGraph manifest
  ensureStateForGraph graph stored

end PlanWeave
