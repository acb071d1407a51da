import PlanWeave.TaskManager.Selectors

namespace PlanWeave

inductive ReviewClaimForm where
  | initial
  | resume
  | notClaimable (reason : String)
deriving DecidableEq

def reviewClaimForm (digests : Digests) (graph : Graph) (state : RuntimeState) (ref : String) : ReviewClaimForm :=
  let status := (state.status ref).text
  if !graph.isReview ref then .notClaimable s!"Block '{ref}' is not a review block."
  else if state.status ref = .ready then
    if canClaimReviewBlock digests graph state ref then .initial
    else .notClaimable s!"Review block '{ref}' is not claimable right now."
  else if state.status ref = .inProgress then
    if (state.block ref).remoteOwnership.isSome then .notClaimable s!"Review block '{ref}' is owned by a remote operation."
    else if (openFeedbackForReview state ref).isSome then .notClaimable s!"Review block '{ref}' still has open feedback."
    else .resume
  else .notClaimable s!"Review block '{ref}' status '{status}' is not claimable."

inductive ClaimReason where
  | claimed | current | feedbackResolved | dispatched

structure BlockClaim where
  ref : String
  taskId : String
  blockId : String
  blockType : BlockKind
  effectiveExecutor : String
  reason : ClaimReason
  submissionAttemptId : Option AttemptId := none

inductive ClaimResult where
  | block (claim : BlockClaim)
  | batch (refs : List String) (effectiveExecutors : List (String × String))
      (submissionAttemptIds : List (String × AttemptId)) (atCapacity : Bool)
  | feedback (feedbackId sourceReviewBlockRef taskId content effectiveExecutor : String)
  | blocked (ref : Option String) (reason : String)
  | none (reason : String) (nextSequentialClaimable : List String)

def claimResultForBlock (ref : String) (graph : Graph) (reason : ClaimReason) (defaultExecutor : Option String) : BlockClaim :=
  {
    ref
    taskId := graph.taskOfRef ref
    blockId := ((graph.blocksByRef.get? ref).map ManifestBlock.id).getD ""
    blockType := graph.kind ref
    effectiveExecutor := effectiveBlockExecutor graph ref defaultExecutor
    reason
  }

abbrev ProjectGraphClaimGuard := String → Option String

def projectBlockerReason (projectGuard : ProjectGraphClaimGuard) (taskId : Option String) : Option String :=
  taskId.bind projectGuard

structure ClaimOptions where
  parallel : Bool := false
  blockType : Option BlockKind := none
  scope : ClaimScope := .project
  projectGuard : ProjectGraphClaimGuard := fun _ => none
  /-- The identifier that `randomUUID` gives when an implementation block is claimed. -/
  attempts : String → AttemptId

def blockMatchesClaimFilter (ref : String) (graph : Graph) (scope : ClaimScope) (blockType : Option BlockKind) : Bool :=
  blockInScope ref graph scope && blockType.all (fun kind => graph.kind ref = kind)

def blockReadyWithoutProjectBlockers (digests : Digests) (graph : Graph) (state : RuntimeState) (ref : String) : Bool :=
  state.status ref = .ready && taskDependenciesSatisfied graph state (graph.taskOfRef ref) &&
    (if graph.isReview ref then canClaimReviewBlock digests graph state ref else blockDependenciesCompleted graph state ref)

def blockerOf (options : ClaimOptions) (graph : Graph) (ref : String) : Option String :=
  projectBlockerReason options.projectGuard (graph.blockTaskByRef.get? ref)

def selectRef (context : RuntimeContext) (options : ClaimOptions) (retained selected : List String) (ref : String) :
    List String :=
  if blockMatchesClaimFilter ref context.graph options.scope options.blockType && !context.graph.isReview ref &&
      ref ∉ retained && (blockerOf options context.graph ref).isNone &&
      canDispatchImplementationBlock context.graph context.state context.manifest.maxConcurrent selected ref then
    selected ++ [ref]
  else selected

/-- New work for the free slots: implementations first, then at most one review. -/
def selectedParallelBatchRefs (digests : Digests) (context : RuntimeContext) (options : ClaimOptions) : List String :=
  let graph := context.graph
  let retained := inProgressBlockRefs graph context.state
  let selected := graph.blockRefsInManifestOrder.foldl (selectRef context options retained) []
  if selected = [] || context.manifest.maxConcurrent ≤ retained.length + selected.length || retained.any graph.isReview then
    selected
  else
    match graph.blockRefsInManifestOrder.find? (fun ref => graph.isReview ref &&
      blockMatchesClaimFilter ref graph options.scope options.blockType &&
      blockReadyWithoutProjectBlockers digests graph context.state ref && (blockerOf options graph ref).isNone &&
      retained.all (fun activeRef => !refsConflict graph ref activeRef) &&
      selected.all (fun selectedRef => !refsConflict graph ref selectedRef)) with
    | some reviewRef => selected ++ [reviewRef]
    | none => selected

def firstProjectBlockedResult (digests : Digests) (context : RuntimeContext) (options : ClaimOptions) : Option ClaimResult :=
  (context.graph.blockRefsInManifestOrder.find? (fun ref =>
    blockMatchesClaimFilter ref context.graph options.scope options.blockType &&
      blockReadyWithoutProjectBlockers digests context.graph context.state ref &&
      (blockerOf options context.graph ref).isSome)).map (fun ref =>
    .blocked (some ref) ((blockerOf options context.graph ref).getD "Project graph blockers are not complete."))

def firstBlockedResult (context : RuntimeContext) (options : ClaimOptions) : Option ClaimResult :=
  (context.graph.blockRefsInManifestOrder.find? (fun ref =>
    blockInScope ref context.graph options.scope && context.state.status ref = .blocked)).map (fun ref =>
    .blocked (some ref) ((context.state.block ref).blockedReason.getD s!"Block '{ref}' is blocked."))

inductive ClaimOrder where
  | blocked (result : ClaimResult)
  | feedback (feedbackId : String) (feedback : FeedbackEnvelope) (taskId : String) (result : ClaimResult)
  | currentReview (ref : String) (clearCurrentFeedback : Bool) (result : ClaimResult)
  | currentBlock (ref : String) (claim : BlockClaim)
  | ready

def feedbackOrder (context : RuntimeContext) (options : ClaimOptions) (feedbackId : String) (feedback : FeedbackEnvelope) :
    Except String ClaimOrder :=
  let source := feedback.sourceReviewBlockRef
  if !blockInScope source context.graph options.scope then .ok (.blocked (.none "no_claimable_blocks_in_scope" []))
  else
    match context.graph.blockTaskByRef.get? source with
    | none => .error s!"Feedback '{feedbackId}' points to an unknown review block."
    | some taskId =>
      match options.projectGuard taskId with
      | some reason => .ok (.blocked (.blocked (some source) reason))
      | none => .ok (.feedback feedbackId feedback taskId (.feedback feedbackId source taskId feedback.content
          (effectiveFeedbackExecutor context.graph source context.manifest.defaultExecutor)))

/-- A review that runs locally comes before any new claim. Remote-owned reviews are left out. -/
def currentReviewOrder (digests : Digests) (context : RuntimeContext) (options : ClaimOptions) : Option ClaimOrder :=
  match context.graph.blockRefsInManifestOrder.find? (fun ref => context.graph.isReview ref &&
    context.state.status ref = .inProgress && (context.state.block ref).remoteOwnership.isNone) with
  | none => none
  | some ref =>
    if options.blockType.any (fun kind => kind ≠ .review) then
      some (.blocked (.blocked (some ref) "A review block is in progress outside the selected claim type."))
    else if !blockInScope ref context.graph options.scope then
      some (.blocked (.blocked (some ref) "A review block is in progress outside the selected Auto Run scope."))
    else if reviewClaimForm digests context.graph context.state ref = .resume then
      let claim := fun reason => claimResultForBlock ref context.graph reason context.manifest.defaultExecutor
      let resolved := (context.state.currentFeedbackId.bind context.state.feedback.get?).any
        (fun feedback => feedback.status = .resolved)
      if resolved then some (.currentReview ref true (.block (claim .feedbackResolved)))
      else if (context.state.block ref).pendingFeedbackId.isSome then
        some (.currentReview ref false (.block (claim .feedbackResolved)))
      else some (.currentReview ref false (.block (claim .current)))
    else none

def currentBlockOrder (context : RuntimeContext) (options : ClaimOptions) : ClaimOrder :=
  match context.graph.blockRefsInManifestOrder.find? (fun ref => context.state.status ref = .inProgress &&
    (context.state.block ref).remoteOwnership.isNone && !context.graph.isReview ref) with
  | none => .ready
  | some ref =>
    if options.blockType.any (fun kind => context.graph.kind ref ≠ kind) then
      .blocked (.blocked (some ref) "A block is in progress outside the selected claim type.")
    else if !blockInScope ref context.graph options.scope then
      .blocked (.blocked (some ref) "A block is in progress outside the selected Auto Run scope.")
    else .currentBlock ref (claimResultForBlock ref context.graph .current context.manifest.defaultExecutor)

def buildClaimOrder (digests : Digests) (context : RuntimeContext) (options : ClaimOptions) : Except String ClaimOrder :=
  match activeOpenFeedback context.state with
  | _ :: _ :: _ => .ok (.blocked (.blocked none
      "Multiple open feedback envelopes exist; resolve or dismiss one before continuing."))
  | [(feedbackId, feedback)] => feedbackOrder context options feedbackId feedback
  | [] => .ok ((currentReviewOrder digests context options).getD (currentBlockOrder context options))

def scopedReadyRefs (digests : Digests) (context : RuntimeContext) (options : ClaimOptions) : List String :=
  context.graph.blockRefsInManifestOrder.filter (fun ref =>
    blockMatchesClaimFilter ref context.graph options.scope options.blockType &&
      blockReadyWithoutProjectBlockers digests context.graph context.state ref &&
      (blockerOf options context.graph ref).isNone)

end PlanWeave
