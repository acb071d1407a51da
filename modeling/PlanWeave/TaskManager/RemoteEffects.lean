import PlanWeave.TaskManager.SubmissionEffects

namespace PlanWeave
open Durable ResultsOnly

theorem assertRemoteBlockExecutable_ok {context : RuntimeContext} {ref : String} {kind : BlockKind}
    (checked : assertRemoteBlockExecutable context ref = .ok kind) :
    context.graph.blocksByRef.has ref = true ∧ kind = context.graph.kind ref := by
  unfold assertRemoteBlockExecutable scopeProblem at checked
  cases declared : context.graph.blocksByRef.has ref with
  | false => simp [declared] at checked
  | true =>
    simp only [declared, if_true, Except.ok.injEq] at checked
    exact ⟨rfl, checked.symm⟩

namespace ResultsOnly

theorem materializeRemoteFailure (ref taskId blockId : String) :
    ResultsOnly (materializeRemoteFailure ref taskId blockId) := by
  apply bind (allocateRunId ref)
  intro runId
  apply bind (writeResults _)
  intro _
  exact bind (updateTaskIndex _ _) (fun _ => pure _)

theorem interruptedRun (ref taskId blockId : String) (interruption : RemoteInterruption) :
    ResultsOnly (interruptedRun ref taskId blockId interruption) := by
  unfold PlanWeave.interruptedRun
  split
  · exact pure _
  · exact bind (ResultsOnly.materializeRemoteFailure _ _ _) (fun _ => pure _)

theorem clearReviewCompletionReasons (graph : Graph) (refs : List String) :
    ResultsOnly (clearReviewCompletionReasons graph refs) := by
  induction refs with
  | nil => exact pure _
  | cons _ _ ih => exact bind (clearReviewCompletionReason _ _) (fun _ => ih)

end ResultsOnly

variable {source : RemoteBlockSourceEvidence} {store : World}

section
variable {α : Type} {digests : Digests} {world : World} {operation : Operation} {context : RuntimeContext}

theorem refuseDriftedSource_leaves {ref : String} {owner : RemoteOwnership}
    {requested : RemoteSource} {reason : String} (after : AfterLoad world context store)
    (about : operation.remoteRef = some ref) (owned : (context.state.block ref).remoteOwnership = some owner)
    (revision : owner.source.sourceRevision = requested.sourceRevision)
    (fingerprint : owner.source.graphFingerprint = requested.graphFingerprint)
    (drifts : sameRemoteBlockAuthority source requested = false) :
    (refuseDriftedSource context ref source reason : Locked α).Keeps store (Leaves digests world operation) := by
  unfold refuseDriftedSource
  rw [keeps_lift_bind]
  intro block marked
  rw [markRemoteBlockOwnershipSourceDrift_ok owned revision fingerprint drifts marked]
  exact after.refresh (.drifted reason about (by simp [owned])) (fun _ => fail _)

theorem refuseDriftedRequest_leaves {request : RemoteRequest} {current : RemoteIdentity}
    {reason : String} (after : AfterLoad world context store) (about : operation.remoteRef = some request.ref)
    (active : assertActiveRemoteBlockOwnership (context.state.block request.ref) request.identity = .ok current)
    (drifts : request.drifts source = true) :
    (refuseDriftedSource context request.ref source reason : Locked α).Keeps store (Leaves digests world operation) := by
  obtain ⟨owned, _, revision, fingerprint⟩ := assertActiveRemoteBlockOwnership_ok active
  exact @refuseDriftedSource_leaves _ _ _ _ _ _ _ _ _ request.identity.toRemoteSource _ after about owned revision
    fingerprint (by simpa [RemoteRequest.drifts] using drifts)
end

section
variable {digests : Digests} {world : World}

theorem activate_leaves (request : RemoteRequest) :
    (activate request).Keeps world (Leaves digests world (.activate request)) := by
  apply keeps_load
  intro context after
  rw [keeps_lift_bind]
  intro _ _
  rw [keeps_lift_bind]
  intro activated taken
  rw [keeps_lift_bind]
  intro source _
  split
  · rename_i drifts
    obtain ⟨_, owned, revision, fingerprint, _, _⟩ := activateRemoteBlockOwnership_ok taken
    exact @refuseDriftedSource_leaves _ _ _ _ _ _ _ _ _ request.identity.toRemoteSource _ after rfl owned revision
      fingerprint (by simpa [RemoteRequest.drifts] using drifts)
  · exact after.refresh (.activated taken) (fun _ => pure _)

theorem reconcile_leaves (ref : String) (operationId : OpaqueId) (source : Except String RemoteBlockSourceEvidence) :
    (reconcile ref operationId source).Keeps world (Leaves digests world (.reconcile ref operationId source)) := by
  apply keeps_load
  intro context after
  rw [keeps_lift_bind]
  intro _ _
  rw [keeps_lift_bind]
  intro _ _
  split
  · exact keeps_pure _
  rename_i owner owned
  rw [keeps_lift_bind]
  intro current _
  split
  · exact keeps_pure _
  rename_i drifts
  rw [keeps_lift_bind]
  intro block marked
  rw [markRemoteBlockOwnershipSourceDrift_ok owned rfl rfl (by simpa using drifts) marked]
  have present : (context.state.block ref).remoteOwnership.isSome = true := Option.isSome_of_eq_some owned
  exact after.refresh (.drifted _ rfl present) (fun _ => pure _)

section
variable (request : RemoteRequest)
include request

theorem markInterrupted_leaves (interruption : RemoteInterruption) :
    (markInterrupted request interruption).Keeps world (Leaves digests world (.markInterrupted request interruption)) := by
  apply keeps_load
  intro context after
  rw [keeps_lift_bind]
  intro _ _
  rw [keeps_lift_bind]
  intro current active
  rw [keeps_lift_bind]
  intro source _
  split
  · rename_i drifts
    exact refuseDriftedRequest_leaves after rfl active drifts
  rw [keeps_lift_bind]
  intro parsed _
  apply after.quiet_bind (ResultsOnly.interruptedRun _ _ _ _)
  intro runId materialized _ later
  rw [keeps_lift_bind]
  intro interrupted stopped
  exact later.refresh (.interrupted stopped) (fun _ => pure _)

theorem resumeAttempt_leaves : (resumeAttempt request).Keeps world (Leaves digests world (.resumeAttempt request)) := by
  unfold resumeAttempt
  simp only
  apply keeps_load
  intro context after
  rw [keeps_lift_bind]
  intro _ _
  split
  · exact keeps_pure _
  rw [keeps_lift_bind]
  intro current active
  rw [keeps_lift_bind]
  intro source _
  split
  · rename_i drifts
    exact refuseDriftedRequest_leaves after rfl active drifts
  · rw [keeps_lift_bind]
    intro resumed taken
    exact after.refresh (.resumed taken) (fun _ => pure _)

theorem retryAttempt_leaves (newDispatchId newExecutionAttemptId : OpaqueId) :
    (retryAttempt request newDispatchId newExecutionAttemptId).Keeps world
      (Leaves digests world (.retryAttempt request newDispatchId newExecutionAttemptId)) := by
  unfold retryAttempt
  simp only
  split
  · exact keeps_fail _
  apply keeps_load
  intro context after
  rw [keeps_lift_bind]
  intro _ _
  split
  · exact keeps_pure _
  rw [keeps_lift_bind]
  intro current active
  rw [keeps_lift_bind]
  intro source _
  split
  · rename_i drifts
    exact refuseDriftedRequest_leaves after rfl active drifts
  · rw [keeps_lift_bind]
    intro retried taken
    exact after.refresh (.attemptRetried taken) (fun _ => pure _)

theorem failAttempt_leaves (failure : NormalizedFailure) :
    (failAttempt request failure).Keeps world (Leaves digests world (.failAttempt request failure)) := by
  unfold failAttempt
  simp only
  apply keeps_load
  intro context after
  rw [keeps_lift_bind]
  intro kind executable
  rw [(assertRemoteBlockExecutable_ok executable).2]
  split
  · split
    · exact keeps_pure _
    · exact keeps_fail _
  · rw [keeps_lift_bind]
    intro current active
    rw [keeps_lift_bind]
    intro source _
    split
    · rename_i drifts
      exact refuseDriftedRequest_leaves after rfl active drifts
    rw [keeps_lift_bind]
    intro parsed _
    apply after.quiet_bind (ResultsOnly.materializeRemoteFailure _ _ _)
    intro runId materialized _ later
    rw [keeps_lift_bind]
    intro failed stopped
    exact later.refresh (.failed stopped) (fun _ => pure _)
end

theorem submitRemoteBlockResult_leaves (completion : RemoteCompletion) :
    (submitRemoteBlockResult digests completion).Keeps world (Leaves digests world (.complete completion)) := by
  unfold submitRemoteBlockResult
  split
  · exact keeps_fail _
  split
  · exact keeps_fail _
  split
  · exact keeps_fail _
  rw [keeps_loadRuntimeReadonly_bind]
  intro context _
  rw [keeps_lift_bind]
  intro declared _
  split
  · rw [keeps_lift_bind]
    intro result _
    rw [Durable.keeps_bind]
    exact ⟨submitReviewResult_leaves (.remote completion result), fun _ _ _ => keeps_pure _⟩
  · exact submitBlockResultArtifact_leaves (.remote completion)

variable {current : BlockState}

theorem claimedFrom_owned {existing : BlockState} {restoration : Option Restoration}
    (starts : claimedFrom existing restoration = .ok current) (owned : current.remoteOwnership.isSome = true) :
    current = existing := by
  unfold claimedFrom at starts
  split at starts
  · cases starts
    rfl
  split at starts
  · cases starts
    rfl
  unfold restoreStoppedRemoteBlock at starts
  split at starts
  · cases starts
  · cases starts
    cases owned

variable {context : RuntimeContext}

theorem refuseDriftedSource_replaced {ref : String}
    {reason : String} (same : current = context.state.block ref) :
    (refuseDriftedSource { context with state := context.state.setBlock ref current } ref source reason : Locked Unit) =
      refuseDriftedSource context ref source reason := by
  subst same
  unfold refuseDriftedSource
  simp only [RuntimeState.block_setBlock_self, RuntimeState.setBlock_setBlock]
  rfl

variable {claim : RemoteClaim} {holds : World → Prop}

theorem admitRemoteClaim_leaves
    {prepared : BlockState} (after : AfterLoad world context store)
    (starts : claimedFrom (context.state.block claim.ref) claim.restoration = .ok current)
    (taken : prepareRemoteBlockOwnership (context.graph.kind claim.ref) current claim.ownership = .ok prepared) :
    (admitRemoteClaim digests { context with state := context.state.setBlock claim.ref current } claim current).Keeps store
      (Leaves digests world (.remoteClaim claim)) := by
  unfold admitRemoteClaim
  split
  · rename_i owned
    rw [keeps_lift_bind]
    intro source _
    split
    · exact keeps_pure _
    rename_i drifts
    have same := claimedFrom_owned starts owned
    obtain ⟨_, held⟩ := Option.isSome_iff_exists.mp owned
    obtain ⟨_, revision, fingerprint⟩ := prepareRemoteBlockOwnership_owned taken held
    rw [refuseDriftedSource_replaced same]
    rw [same] at held
    exact refuseDriftedSource_leaves after rfl held revision fingerprint (by simpa using drifts)
  · rw [keeps_lift_bind]
    intro _ _
    rw [keeps_lift_bind]
    intro source _
    split
    · exact keeps_pure _
    · exact keeps_fail _

theorem admitRemoteClaim_returns {left : World}
    (ran : (admitRemoteClaim digests context claim current).Returns store () left) :
    store = left ∧ (current.remoteOwnership = none →
      assertRemoteBlockDispatchable digests context claim.projectGuard claim.ref = .ok ()) := by
  unfold admitRemoteClaim at ran
  split at ran
  · rename_i owned
    obtain ⟨_, _, lifted, rest⟩ := returns_bind.mp ran
    obtain ⟨_, rfl⟩ := (returns_lift _).mp lifted
    split at rest
    · obtain ⟨_, rfl⟩ := returns_pure.mp rest
      refine ⟨rfl, fun free => ?_⟩
      rw [free] at owned
      cases owned
    · unfold refuseDriftedSource at rest
      obtain ⟨_, _, _, rest⟩ := returns_bind.mp rest
      obtain ⟨_, _, _, rest⟩ := returns_bind.mp rest
      exact absurd rest (by simp)
  · obtain ⟨_, _, lifted, rest⟩ := returns_bind.mp ran
    obtain ⟨dispatchable, rfl⟩ := (returns_lift _).mp lifted
    obtain ⟨_, _, lifted, rest⟩ := returns_bind.mp rest
    obtain ⟨_, rfl⟩ := (returns_lift _).mp lifted
    split at rest
    · obtain ⟨_, rfl⟩ := returns_pure.mp rest
      exact ⟨rfl, fun _ => dispatchable⟩
    · exact absurd rest (by simp)

theorem remoteClaim_leaves (claim : RemoteClaim) :
    (remoteClaim digests claim).Keeps world (Leaves digests world (.remoteClaim claim)) := by
  apply keeps_load
  intro context after
  rw [keeps_lift_bind]
  intro kind executable
  obtain ⟨known, rfl⟩ := assertRemoteBlockExecutable_ok executable
  rw [keeps_lift_bind]
  intro current starts
  rw [keeps_lift_bind]
  intro prepared taken
  rw [Durable.keeps_bind]
  refine ⟨admitRemoteClaim_leaves after starts taken, ?_⟩
  intro _ reached admitted
  obtain ⟨rfl, dispatchable⟩ := admitRemoteClaim_returns admitted
  exact after.refresh (.remoteClaimed known starts taken dispatchable) (fun _ => pure _)

theorem resetMaxCycleReviewsUnderCanvasLock_keeps {scope : ClaimScope}
    (quiet : ∀ reached : World, store.SameState reached → holds reached)
    (reset : ∀ (reached : World) written, reached.manifest = store.manifest →
      ensureStateForManifest context.manifest (resetState context
        (context.graph.blockRefsInManifestOrder.filter (resetsRef context scope))) = .ok written →
      reached.state = written → holds reached) :
    (resetMaxCycleReviewsUnderCanvasLock context scope).Keeps store holds := by
  unfold resetMaxCycleReviewsUnderCanvasLock
  simp only
  split
  · exact keeps_pure _
  rw [keeps_read_bind, Durable.keeps_recover]
  have kept : ∀ {wanted : World → Prop}, (∀ reached : World, store.SameState reached → wanted reached) →
      (∀ (reached : World) written, reached.manifest = store.manifest →
        ensureStateForManifest context.manifest (resetState context
          (context.graph.blockRefsInManifestOrder.filter (resetsRef context scope))) = .ok written →
        reached.state = written → wanted reached) →
      (do
        clearReviewCompletionReasons context.graph
          (context.graph.blockRefsInManifestOrder.filter (resetsRef context scope))
        let _ ← writeRefreshed context (resetState context
          (context.graph.blockRefsInManifestOrder.filter (resetsRef context scope)))
        return context.graph.blockRefsInManifestOrder.filter (resetsRef context scope) : Locked (List String)).Keeps
        store wanted := by
    intro wanted same changed
    apply (ResultsOnly.clearReviewCompletionReasons _ _).keeps_bind same
    intro _ cleared _ sameCleared
    rw [keeps_writeRefreshed_bind]
    intro written ensured
    exact ⟨changed _ written sameCleared.manifest ensured rfl, keeps_pure _⟩
  refine ⟨kept quiet reset, ?_⟩
  intro reason reached failed
  unfold restoreSnapshots
  rw [keeps_write_bind]
  refine ⟨quiet _ ⟨?_, rfl⟩, keeps_fail _⟩
  have manifest : (fun other : World => other.manifest = store.manifest) reached := by
    rw [← failed.2]
    exact (kept (fun _ same => same.manifest) (fun _ _ same _ _ => same)).final_holds rfl
  exact manifest

theorem resetMaxCycleReviewsForRetry_leaves (scope : ClaimScope) :
    (resetMaxCycleReviewsForRetry scope).Keeps world (Leaves digests world (.resetMaxCycleReviews scope)) := by
  apply keeps_load
  intro context after
  have facts := loadRuntimeContext_ok after.loaded
  apply resetMaxCycleReviewsUnderCanvasLock_keeps
  · exact fun _ same => after.leaves.stable same
  · intro reached written manifest ensured state
    rw [facts.manifest, ensureStateForManifest_eq facts.compiled] at ensured
    exact .state after.loaded manifest (state ▸ .edited (.reset scope) ensured)

theorem keeps_commitManifest_bind {α : Type} {manifest : Manifest}
    {next : Unit → Locked α} (each : ErrorFree manifest → holds { store with manifest } ∧
      (next ()).Keeps { store with manifest } holds) : (commitManifest manifest >>= next).Keeps store holds := by
  rw [Durable.keeps_bind]
  unfold commitManifest
  split
  · exact ⟨keeps_fail _, fun _ _ ran => absurd ran (by simp)⟩
  refine ⟨?_, ?_⟩
  · rw [keeps_lift_bind]
    intro graph compiled
    split
    · exact keeps_fail _
    · rename_i clean
      exact (keeps_write _).mpr (each ⟨graph, compiled, by simpa using clean⟩).1
  · intro _ reached ran
    obtain ⟨graph, _, lifted, rest⟩ := returns_bind.mp ran
    obtain ⟨compiled, rfl⟩ := (returns_lift _).mp lifted
    split at rest
    · exact absurd rest (by simp)
    · rename_i clean
      have same := (returns_write _).mp rest
      subst same
      exact (each ⟨graph, compiled, by simpa using clean⟩).2

theorem retryReview_leaves (ref : String) (cycles : Nat) :
    (retryReview ref cycles).Keeps world (Leaves digests world (.retryReview ref cycles)) := by
  unfold retryReview
  rw [keeps_loadRuntimeReadonly_bind]
  intro context loaded
  have facts := loadRuntimeContext_ok loaded
  rw [keeps_lift_bind]
  intro declared _
  split
  · exact keeps_fail _
  rw [keeps_read_bind, Durable.keeps_recover, facts.manifest]
  refine ⟨?_, ?_⟩
  · apply keeps_commitManifest_bind
    intro clean
    have edited : Leaves digests world (.retryReview ref cycles)
        { world with manifest := editMaxFeedbackCycles world.manifest ref cycles } :=
      .manifest rfl clean rfl rfl
    refine ⟨edited, ?_⟩
    rw [keeps_loadRuntimeReadonly_bind]
    intro reloaded again
    have factsAgain := loadRuntimeContext_ok again
    rw [Durable.keeps_bind]
    refine ⟨?_, ?_⟩
    · apply resetMaxCycleReviewsUnderCanvasLock_keeps
      · exact fun _ same => edited.stable same
      · intro reached written manifest ensured state
        rw [factsAgain.manifest, ensureStateForManifest_eq factsAgain.compiled] at ensured
        exact .retried rfl clean again manifest (state ▸ .edited (.reset (.block ref)) ensured)
    · intro refs reached _
      rw [keeps_loadRuntimeReadonly_bind]
      exact fun _ _ => keeps_pure _
  · intro reason reached _
    rw [keeps_write_bind]
    refine ⟨.state loaded rfl ?_, keeps_fail _⟩
    have untouched : Writes digests context world.results (.retryReview ref cycles) context.rawState := .raw
    rw [facts.raw] at untouched
    exact untouched

theorem perform_leaves (digests : Digests) (world : World) (operation : Operation) :
    (perform digests operation).Keeps world (Leaves digests world operation) := by
  cases operation <;> rw [perform, keeps_discard]
  case claimNext options => exact claimNext_leaves options
  case claimDispatchedBlock ref projectGuard attempt => exact claimDispatchedBlock_leaves ref projectGuard attempt
  case submitBlockResult submission => exact submitBlockResultArtifact_leaves (.local submission)
  case submitReviewResult ref result hookOutcome => exact submitReviewResult_leaves (.local ref result hookOutcome)
  case submitFeedback report => exact submitFeedback_leaves report
  case markBlockBlocked ref reason => exact markBlockBlocked_leaves ref reason
  case markBlockDiverged ref reason => exact markBlockDiverged_leaves ref reason
  case unblockBlock ref reason allow => exact unblockBlock_leaves ref reason allow
  case releaseInProgressBlock ref => exact releaseInProgressBlock_leaves ref
  case resolveBlockDivergence ref reason => exact resolveBlockDivergence_leaves ref reason
  case resetMaxCycleReviews scope => exact resetMaxCycleReviewsForRetry_leaves scope
  case retryReview ref cycles => exact retryReview_leaves ref cycles
  case remoteClaim claim => exact remoteClaim_leaves claim
  case activate request => exact activate_leaves request
  case reconcile ref operationId source => exact reconcile_leaves ref operationId source
  case markInterrupted request interruption => exact markInterrupted_leaves request interruption
  case resumeAttempt request => exact resumeAttempt_leaves request
  case retryAttempt request dispatch attempt => exact retryAttempt_leaves request dispatch attempt
  case complete completion => exact submitRemoteBlockResult_leaves completion
  case failAttempt request failure => exact failAttempt_leaves request failure
end
end PlanWeave
