import PlanWeave.Lib.Checked
import PlanWeave.TaskManager.RemoteOwnership

namespace PlanWeave
open Checked
variable {block prepared : BlockState} {requested : RemoteSource} {kind : BlockKind} {ownership : RemoteIdentity}
  {runId : Option String}

theorem assertRemoteBlockOwnershipInvariant_ok
    (checked : assertRemoteBlockOwnershipInvariant block = .ok ()) (owned : block.remoteOwnership.isSome = true) :
    block.status = .inProgress ∨ block.status = .diverged := by
  unfold assertRemoteBlockOwnershipInvariant at checked
  simp only [owned, Bool.true_and] at checked
  split at checked
  · cases checked
  · rename_i status
    simp only [ne_eq, decide_not, Bool.and_eq_true, Bool.not_eq_true', decide_eq_false_iff_not, not_and, not_not] at status
    exact or_iff_not_imp_left.mpr status

theorem assertSameRemoteOwnershipGeneration_ok {owner : RemoteSource}
    (checked : assertSameRemoteOwnershipGeneration owner requested = .ok ()) :
    owner.operationId = requested.operationId ∧ owner.sourceRevision = requested.sourceRevision ∧
      owner.graphFingerprint = requested.graphFingerprint := by
  unfold assertSameRemoteOwnershipGeneration at checked
  split at checked
  · cases checked
  split at checked
  · rename_i same
    unfold sameSource at same
    simp only [Bool.and_eq_true, decide_eq_true_eq] at same
    exact ⟨same.1.1.1, same.1.1.2, same.1.2⟩
  · cases checked

theorem assertActiveRemoteBlockOwnership_ok {requested current : RemoteIdentity}
    (checked : assertActiveRemoteBlockOwnership block requested = .ok current) :
    block.remoteOwnership = some (.active current) ∧ (block.status = .inProgress ∨ block.status = .diverged) ∧
      current.sourceRevision = requested.sourceRevision ∧ current.graphFingerprint = requested.graphFingerprint := by
  obtain ⟨_, invariant, checked⟩ := bind_ok.mp checked
  split at checked
  · rename_i owner owned
    obtain ⟨_, generation, checked⟩ := bind_ok.mp checked
    split at checked
    · cases checked
    cases checked
    have status := assertRemoteBlockOwnershipInvariant_ok invariant (by simp [owned])
    have same := assertSameRemoteOwnershipGeneration_ok generation
    exact ⟨owned, status, same.2.1, same.2.2⟩
  · cases checked

theorem activateRemoteBlockOwnership_ok {activated : BlockState} {requested : RemoteIdentity}
    (ran : activateRemoteBlockOwnership block requested = .ok activated) :
    ∃ owner, block.remoteOwnership = some owner ∧ owner.source.sourceRevision = requested.sourceRevision ∧
      owner.source.graphFingerprint = requested.graphFingerprint ∧ block.status = .inProgress ∧
      (activated = block ∨ activated = { block with remoteOwnership := some (.active requested) }) := by
  obtain ⟨_, ran⟩ := rest_ok ran
  cases owned : block.remoteOwnership with
  | none => simp [owned] at ran
  | some owner =>
    simp only [owned] at ran
    obtain ⟨_, generation, ran⟩ := bind_ok.mp ran
    have same := assertSameRemoteOwnershipGeneration_ok generation
    split at ran
    · cases ran
    rename_i status
    refine ⟨owner, rfl, same.2.1, same.2.2, by simpa using status, ?_⟩
    split at ran
    · split at ran
      · cases ran
        exact .inl rfl
      · cases ran
    · cases ran
      exact .inr rfl

theorem prepareRemoteBlockOwnership_owned
    {owner : RemoteOwnership} (ran : prepareRemoteBlockOwnership kind block requested = .ok prepared)
    (owned : block.remoteOwnership = some owner) :
    prepared = block ∧ owner.source.sourceRevision = requested.sourceRevision ∧
      owner.source.graphFingerprint = requested.graphFingerprint := by
  obtain ⟨_, ran⟩ := rest_ok ran
  simp only [owned] at ran
  obtain ⟨_, generation, ran⟩ := bind_ok.mp ran
  cases ran
  have same := assertSameRemoteOwnershipGeneration_ok generation
  exact ⟨rfl, same.2.1, same.2.2⟩

theorem prepareRemoteBlockOwnership_free
    (ran : prepareRemoteBlockOwnership kind block requested = .ok prepared) (free : block.remoteOwnership = none) :
    (block.status = .ready ∨ (kind = .review ∧ block.status = .inProgress)) ∧
      prepared = { block with status := .inProgress, remoteOwnership := some (.preparing requested) } := by
  obtain ⟨_, ran⟩ := rest_ok ran
  simp only [free] at ran
  split at ran
  · split at ran <;> cases ran
  · rename_i status
    cases ran
    exact ⟨by simpa [or_iff_not_imp_left] using status, rfl⟩

theorem interruptRemoteBlockOwnership_ok {interrupted : BlockState}
    {interruption : RemoteInterruption} {reason : String}
    (ran : interruptRemoteBlockOwnership block ownership interruption reason runId = .ok interrupted) :
    (∃ current, block.remoteOwnership = some (.active current)) ∧ ∃ cause run, interrupted = { block with
      status := .diverged
      divergenceReason := cause
      remoteInterruption := some interruption
      lastRunId := run } := by
  obtain ⟨current, active, ran⟩ := bind_ok.mp ran
  obtain ⟨owned, _⟩ := assertActiveRemoteBlockOwnership_ok active
  refine ⟨⟨current, owned⟩, ?_⟩
  split at ran
  · cases ran
  split at ran
  · rename_i status
    split at ran
    · rename_i same
      cases ran
      refine ⟨block.divergenceReason, latestRunId runId block, ?_⟩
      rw [← status, ← same.1]
    · cases ran
  · split at ran
    · cases ran
    · cases ran
      exact ⟨_, _, rfl⟩

theorem resumeRemoteBlockOwnership_ok {resumed : BlockState}
    (ran : resumeRemoteBlockOwnership block ownership = .ok resumed) :
    (∃ current, block.remoteOwnership = some (.active current)) ∧ block.status = .diverged ∧ resumed = { block with
      status := .inProgress
      divergenceReason := none
      remoteInterruption := none } := by
  obtain ⟨current, active, ran⟩ := bind_ok.mp ran
  obtain ⟨owned, _⟩ := assertActiveRemoteBlockOwnership_ok active
  split at ran
  · cases ran
  · rename_i status
    rw [not_or, not_not] at status
    cases ran
    exact ⟨⟨current, owned⟩, status.1, rfl⟩

theorem retryRemoteBlockOwnership_ok {retried : BlockState}
    {newDispatchId newExecutionAttemptId : OpaqueId}
    (ran : retryRemoteBlockOwnership block ownership newDispatchId newExecutionAttemptId = .ok retried) :
    (∃ current, block.remoteOwnership = some (.active current)) ∧ block.status = .diverged ∧
      ∃ renewed, retried = { block with
        status := .inProgress
        divergenceReason := none
        remoteInterruption := none
        remoteOwnership := some (.active renewed) } := by
  obtain ⟨current, active, ran⟩ := bind_ok.mp ran
  obtain ⟨owned, _⟩ := assertActiveRemoteBlockOwnership_ok active
  split at ran
  · cases ran
  rename_i status
  rw [not_or, not_not] at status
  split at ran
  · cases ran
  · cases ran
    exact ⟨⟨current, owned⟩, status.1, _, rfl⟩

theorem parseOpaqueId_ok {value : String} {parsed : OpaqueId} (ran : parseOpaqueId value = .ok parsed) :
    parsed.text = value := by
  unfold parseOpaqueId at ran
  split at ran
  · cases ran
    rfl
  · cases ran

theorem completeRemoteBlockOwnership_ok {completed : BlockState}
    {runId : String} (ran : completeRemoteBlockOwnership kind block ownership runId = .ok completed) :
    (∃ current, block.remoteOwnership = some (.active current)) ∧ ∃ run : OpaqueId, run.text = runId ∧
      completed = { withoutRemoteBlockOwnership block .completed with
        lastRunId := some runId
        remoteOperationReceipt := some ⟨ownership, .completed run, some kind⟩ } := by
  obtain ⟨current, active, ran⟩ := bind_ok.mp ran
  obtain ⟨owned, _⟩ := assertActiveRemoteBlockOwnership_ok active
  obtain ⟨run, parsed, ran⟩ := bind_ok.mp ran
  cases ran
  exact ⟨⟨current, owned⟩, run, parseOpaqueId_ok parsed, rfl⟩

theorem sealRemoteBlockOperationCompleted_ok {released : BlockState}
    {runId : String} (ran : sealRemoteBlockOperationCompleted kind block ownership runId = .ok released) :
    (block.status ≠ .completed ∧ released = clearRemoteBlockOperationState block) ∨
      (block.status = .completed ∧ ∃ run : OpaqueId, run.text = runId ∧
        released = { clearRemoteBlockOperationState block with
          lastRunId := some runId
          remoteOperationReceipt := some ⟨ownership, .completed run, some kind⟩ }) := by
  unfold sealRemoteBlockOperationCompleted at ran
  split at ran
  · rename_i status
    cases ran
    exact .inl ⟨status, rfl⟩
  · rename_i status
    obtain ⟨run, parsed, ran⟩ := bind_ok.mp ran
    cases ran
    exact .inr ⟨not_not.mp status, run, parseOpaqueId_ok parsed, rfl⟩

theorem failRemoteBlockOwnership_ok {failed : BlockState}
    {failure : NormalizedFailure} {blockedReason : String}
    (ran : failRemoteBlockOwnership kind block ownership failure blockedReason runId = .ok failed) :
    (∃ current, block.remoteOwnership = some (.active current)) ∧
      failed = { withoutRemoteBlockOwnership block .blocked with
        blockedReason := some blockedReason
        remoteOperationReceipt := some ⟨ownership, .failed failure, some kind⟩
        lastRunId := latestRunId runId block } := by
  obtain ⟨current, active, ran⟩ := bind_ok.mp ran
  obtain ⟨owned, _⟩ := assertActiveRemoteBlockOwnership_ok active
  cases ran
  exact ⟨⟨current, owned⟩, rfl⟩

theorem restoreStoppedRemoteBlock_ok {restored : BlockState} {prior : Restoration}
    (ran : restoreStoppedRemoteBlock block prior = .ok restored) :
    block.remoteOwnership = none ∧ block.status = .blocked ∧ restored = { clearRemoteBlockOperationState block with
      status := .ready
      blockedReason := none } := by
  unfold restoreStoppedRemoteBlock at ran
  split at ran
  · cases ran
  · rename_i stopped
    simp only [not_or, not_not] at stopped
    simp only [Except.ok.injEq] at ran
    exact ⟨by simpa using stopped.1, stopped.2.1, ran.symm⟩

end PlanWeave
