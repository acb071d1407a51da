import PlanWeave.TaskManager.Edits

namespace PlanWeave
open Durable ResultsOnly

section
variable {α : Type} {digests : Digests} {world : World} {operation : Operation} {context : RuntimeContext}

theorem Leaves.stable {reached later : World} (leaves : Leaves digests world operation reached)
    (same : reached.SameState later) : Leaves digests world operation later := by
  cases leaves with
  | state loaded manifest written => exact .state loaded (same.manifest.trans manifest) (same.state ▸ written)
  | manifest retries clean edited kept =>
    exact .manifest retries clean (same.manifest.trans edited) (same.state.trans kept)
  | retried retries clean loaded edited written =>
    exact .retried retries clean loaded (same.manifest.trans edited) (same.state ▸ written)

structure AfterLoad (world : World) (context : RuntimeContext) (store : World) : Prop where
  loaded : loadRuntimeContext world = .ok context
  manifest : store.manifest = world.manifest
  state : store.state = context.state

variable {store : World}

theorem AfterLoad.leaves (after : AfterLoad world context store) : Leaves digests world operation store :=
  .state after.loaded after.manifest (after.state ▸ Writes.loaded)

theorem AfterLoad.same {later : World} (after : AfterLoad world context store) (same : store.SameState later) :
    AfterLoad world context later :=
  ⟨after.loaded, same.manifest.trans after.manifest, same.state.trans after.state⟩

theorem AfterLoad.quiet_bind {β : Type} (after : AfterLoad world context store) {action : Locked α}
    {next : α → Locked β} (quiet : ResultsOnly action)
    (rest : ∀ value reached, action.Returns store value reached → AfterLoad world context reached →
      (next value).Keeps reached (Leaves digests world operation)) :
    (action >>= next).Keeps store (Leaves digests world operation) :=
  quiet.keeps_bind (fun _ same => (after.same same).leaves)
    (fun value reached ran same => rest value reached ran (after.same same))

theorem keeps_load {next : RuntimeContext → Locked α}
    (each : ∀ context, AfterLoad world context (world.withState context.state) →
      (next context).Keeps (world.withState context.state) (Leaves digests world operation)) :
    (loadRuntime >>= next).Keeps world (Leaves digests world operation) := by
  apply keeps_loadRuntime_bind
  intro context ran
  have after : AfterLoad world context (world.withState context.state) := ⟨ran, rfl, rfl⟩
  exact ⟨after.leaves, each context after⟩

variable {edited : RuntimeState} {rest : RuntimeState → Locked α}

theorem keeps_refresh (loaded : loadRuntimeContext world = .ok context) (manifest : store.manifest = world.manifest)
    (edit : Edit digests context world.results operation edited) (quiet : ∀ written, ResultsOnly (rest written)) :
    (writeRefreshed context edited >>= rest).Keeps store (Leaves digests world operation) := by
  have facts := loadRuntimeContext_ok loaded
  rw [keeps_writeRefreshed_bind]
  intro written ensured
  rw [facts.manifest, ensureStateForManifest_eq facts.compiled] at ensured
  have leaves : Leaves digests world operation (store.withState written) :=
    .state loaded manifest (.edited edit ensured)
  exact ⟨leaves, (quiet written).keeps (fun _ same => leaves.stable same)⟩

theorem AfterLoad.refresh
    (after : AfterLoad world context store) (edit : Edit digests context world.results operation edited)
    (quiet : ∀ written, ResultsOnly (rest written)) :
    (writeRefreshed context edited >>= rest).Keeps store (Leaves digests world operation) :=
  keeps_refresh after.loaded after.manifest edit quiet
end

theorem getBlock_ok {graph : Graph} {ref : String} {block : ManifestBlock} (found : getBlock graph ref = .ok block) :
    graph.blocksByRef.get? ref = some block := by
  unfold getBlock at found
  cases declared : graph.blocksByRef.get? ref with
  | none => simp [declared] at found
  | some =>
    simp only [declared, Except.ok.injEq] at found
    rw [found]

theorem ResultsOnly.clearReviewCompletionReason (taskId ref : String) :
    ResultsOnly (clearReviewCompletionReason taskId ref) := updateTaskIndex _ _

section
variable {digests : Digests} {world : World}

theorem markBlockBlocked_leaves (ref reason : String) :
    (markBlockBlocked ref reason).Keeps world (Leaves digests world (.markBlockBlocked ref reason)) := by
  apply keeps_load
  intro context after
  rw [keeps_lift_bind]
  intro block found
  split
  · exact keeps_fail _
  split
  · exact keeps_fail _
  rename_i open'
  apply after.refresh
  · refine .blocked reason (getBlock_ok found) ?_
    intro review
    simpa [review] using open'
  · exact fun _ => pure _

theorem markBlockDiverged_leaves (ref reason : String) :
    (markBlockDiverged ref reason).Keeps world (Leaves digests world (.markBlockDiverged ref reason)) := by
  apply keeps_load
  intro context after
  rw [keeps_lift_bind]
  intro block found
  split
  · exact keeps_fail _
  · apply after.quiet_bind (when (ResultsOnly.clearReviewCompletionReason _ _))
    intro _ reached _ later
    exact later.refresh (.diverged reason (getBlock_ok found)) (fun _ => pure _)

theorem unblockBlock_leaves (ref reason : String) (allowAlreadyCompleted : Bool) :
    (unblockBlock ref reason allowAlreadyCompleted).Keeps world
      (Leaves digests world (.unblockBlock ref reason allowAlreadyCompleted)) := by
  apply keeps_load
  intro context after
  rw [keeps_lift_bind]
  intro block found
  split
  · exact keeps_fail _
  split
  · split
    · exact keeps_pure _
    · exact keeps_fail _
  · rename_i status
    exact after.refresh (.unblocked reason allowAlreadyCompleted (getBlock_ok found) (by simpa using status))
      (fun _ => pure _)

theorem releaseInProgressBlock_leaves (ref : String) :
    (releaseInProgressBlock ref).Keeps world (Leaves digests world (.releaseInProgressBlock ref)) := by
  apply keeps_load
  intro context after
  rw [keeps_lift_bind]
  intro block found
  split
  · exact keeps_fail _
  rename_i status
  split
  · exact keeps_fail _
  · rename_i free
    exact after.refresh (.released (getBlock_ok found) (by simpa using status) (by simpa using free))
      (fun _ => pure _)

theorem resolveBlockDivergence_leaves (ref reason : String) :
    (resolveBlockDivergence ref reason).Keeps world (Leaves digests world (.resolveBlockDivergence ref reason)) := by
  apply keeps_load
  intro context after
  rw [keeps_lift_bind]
  intro block found
  split
  · exact keeps_fail _
  rename_i status
  split
  · exact keeps_fail _
  · apply after.quiet_bind (when (ResultsOnly.clearReviewCompletionReason _ _))
    intro _ reached _ later
    exact later.refresh (.resolved reason (getBlock_ok found) (by simpa using status)) (fun _ => pure _)

theorem claimDispatchedBlock_leaves (ref : String) (projectGuard : ProjectGraphClaimGuard) (attempt : AttemptId) :
    (claimDispatchedBlock ref projectGuard attempt).Keeps world
      (Leaves digests world (.claimDispatchedBlock ref projectGuard attempt)) := by
  apply keeps_load
  intro context after
  split
  · exact keeps_pure _
  split
  · exact keeps_pure _
  split
  · exact keeps_pure _
  · split
    · exact keeps_pure _
    · rename_i dispatchable
      exact after.refresh (.dispatched (by simpa using dispatchable)) (fun _ => pure _)
end
end PlanWeave
