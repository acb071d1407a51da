import PlanWeave.TaskManager.BlockStatus

namespace PlanWeave
open Durable

def resetsRef (context : RuntimeContext) (scope : ClaimScope) (ref : String) : Bool :=
  context.graph.isReview ref && (context.state.block ref).completionReason = some .maxCyclesReached &&
    blockInScope ref context.graph scope

/-- One visit of the reset loop. The dependency check reads the blocks reset so far. -/
def resetRef (context : RuntimeContext) (state : RuntimeState) (ref : String) : RuntimeState :=
  state.setBlock ref { withoutReviewOutcome (state.block ref) with
    status := claimableStatus { context with state } ref
    blockedReason := none }

def resetState (context : RuntimeContext) (refs : List String) : RuntimeState :=
  let reset := refs.foldl (resetRef context) context.state
  let feedback := reset.feedback.filter (fun _ feedback => feedback.sourceReviewBlockRef ∉ refs)
  { reset with
    feedback
    currentFeedbackId := reset.currentFeedbackId.filter (fun id => feedback.has id)
    currentReviewBlockRef := reset.currentReviewBlockRef.filter (fun ref => ref ∉ refs)
    currentRefs := reset.currentRefs.filter (fun ref => ref ∉ refs) }

def restoreSnapshots (before : World) : Locked Unit :=
  write (fun world => { world with
    state := before.state
    results := { world.results with indexes := before.results.indexes } })

def clearReviewCompletionReasons (graph : Graph) : List String → Locked Unit
  | [] => return ()
  | ref :: rest => do
    clearReviewCompletionReason (graph.taskOfRef ref) ref
    clearReviewCompletionReasons graph rest

def resetMaxCycleReviewsUnderCanvasLock (context : RuntimeContext) (scope : ClaimScope) : Locked (List String) := do
  let refs := context.graph.blockRefsInManifestOrder.filter (resetsRef context scope)
  if refs = [] then return []
  else
    let before ← read
    recover (do
        clearReviewCompletionReasons context.graph refs
        let _ ← writeRefreshed context (resetState context refs)
        return refs)
      (fun reason => do
        restoreSnapshots before
        fail reason)

def resetMaxCycleReviewsForRetry (scope : ClaimScope) : Locked (List String) := do
  let context ← loadRuntime
  resetMaxCycleReviewsUnderCanvasLock context scope

def withMaxFeedbackCycles (cycles : Nat) (block : ManifestBlock) : ManifestBlock :=
  match block.type with
  | .review settings => { block with type := .review { settings with maxFeedbackCycles := cycles } }
  | .implementation _ _ => block

def editMaxFeedbackCycles (manifest : Manifest) (ref : String) (cycles : Nat) : Manifest :=
  { manifest with nodes := manifest.nodes.map (fun task => { task with
      blocks := task.blocks.map (fun block =>
        if blockRef task.id block.id = ref then withMaxFeedbackCycles cycles block else block) }) }

structure RetryReviewResult where
  ref : String
  status : BlockStatus
  maxFeedbackCycles : Nat
  reset : Bool

/-- `prepareManifestForWrite`: only a manifest that parses and compiles is written. -/
def commitManifest (manifest : Manifest) : Locked Unit := do
  if !manifestSchema manifest then fail "manifest_schema_invalid"
  else
    let graph ← lift (compileTaskGraph manifest)
    if graph.errors ≠ [] then fail (String.intercalate "\n" (graph.errors.map Issue.message))
    else write (fun world => { world with manifest })

/-- Raise the feedback limit of a review and reset it, or put every touched file back. -/
def retryReview (ref : String) (maxFeedbackCycles : Nat) : Locked RetryReviewResult := do
  let context ← loadRuntimeReadonly
  let block ← lift (getBlock context.graph ref)
  if !block.isReview then fail s!"Block '{ref}' is not a review block."
  else
    let before ← read
    recover (do
        commitManifest (editMaxFeedbackCycles context.manifest ref maxFeedbackCycles)
        let edited ← loadRuntimeReadonly
        let refs ← resetMaxCycleReviewsUnderCanvasLock edited (.block ref)
        let updated ← loadRuntimeReadonly
        return { ref, status := updated.state.status ref, maxFeedbackCycles, reset := ref ∈ refs })
      (fun reason => do
        write (fun world => { world with
          manifest := before.manifest
          state := before.state
          results := { world.results with indexes := before.results.indexes } })
        fail reason)

end PlanWeave
