import PlanWeave.TaskManager.OwnershipSpec
import PlanWeave.TaskManager.ReviewSubmission

namespace PlanWeave
open Checked

inductive OwnershipOperation where
  | prepare (requested : RemoteSource)
  | activate (requested : RemoteIdentity)
  | markSourceDrift (source : RemoteBlockSourceEvidence) (reason : String)
  | interrupt (identity : RemoteIdentity) (interruption : RemoteInterruption) (reason : String) (runId : Option String)
  | resume (identity : RemoteIdentity)
  | retry (identity : RemoteIdentity) (newDispatchId newExecutionAttemptId : OpaqueId)
  | complete (identity : RemoteIdentity) (runId : String)
  /-- A remote review is submitted: its block is sealed with the verdict on it. -/
  | sealCompleted (identity : RemoteIdentity) (context : RuntimeContext) (submission : ReviewSubmission)
      (verdict : BlockState → BlockState) (attemptId : String)
  | fail (identity : RemoteIdentity) (failure : NormalizedFailure) (blockedReason : String) (runId : Option String)
  | restoreStopped (prior : Restoration)

namespace OwnershipOperation

def apply (kind : BlockKind) (block : BlockState) : OwnershipOperation → Except String BlockState
  | prepare requested => prepareRemoteBlockOwnership kind block requested
  | activate requested => activateRemoteBlockOwnership block requested
  | markSourceDrift source reason => markRemoteBlockOwnershipSourceDrift block source reason
  | interrupt identity interruption reason runId => interruptRemoteBlockOwnership block identity interruption reason runId
  | resume identity => resumeRemoteBlockOwnership block identity
  | retry identity newDispatchId newExecutionAttemptId =>
    retryRemoteBlockOwnership block identity newDispatchId newExecutionAttemptId
  | complete identity runId => completeRemoteBlockOwnership kind block identity runId
  | sealCompleted identity context submission verdict attemptId => do
    let submission := { submission with remote := some identity }
    let state := context.state.setBlock submission.ref block
    if kind ≠ .review then throw "submit-review only accepts review blocks."
    match ← reviewAdmission { context with state } submission with
    | some _ => return block
    | none =>
      let sealed ← sealReview submission.remote submission.ref attemptId (state.setBlock submission.ref (verdict block))
      return sealed.block submission.ref
  | fail identity failure blockedReason runId => failRemoteBlockOwnership kind block identity failure blockedReason runId
  | restoreStopped prior => restoreStoppedRemoteBlock block prior

def after (kind : BlockKind) (block : BlockState) (operation : OwnershipOperation) : BlockState :=
  match operation.apply kind block with
  | .ok next => next
  | .error _ => block

def run (kind : BlockKind) (block : BlockState) (operations : List OwnershipOperation) : BlockState :=
  operations.foldl (after kind) block

def executionAttempt : OwnershipOperation → Option OpaqueId
  | prepare _ | markSourceDrift _ _ => none
  | activate identity | interrupt identity _ _ _ | resume identity | retry identity _ _ | complete identity _
  | sealCompleted identity _ _ _ _ | fail identity _ _ _ => some identity.executionAttemptId
  | restoreStopped prior => some prior.executionAttemptId

def installs (block : BlockState) : OwnershipOperation → Option OpaqueId
  | activate identity =>
    match block.remoteOwnership with
    | some (.preparing _) => some identity.executionAttemptId
    | _ => none
  | retry _ _ newExecutionAttemptId => some newExecutionAttemptId
  | _ => none

end OwnershipOperation

open OwnershipOperation

/-- The recorded owner has the operation, the source generation, the dispatch and the attempt of the identity. -/
def RecordedActive (block : BlockState) (identity : RemoteIdentity) : Prop :=
  ∃ current, block.remoteOwnership = some (.active current) ∧ sameSource current.toRemoteSource identity.toRemoteSource = true ∧
    current.dispatchId = identity.dispatchId ∧ current.executionAttemptId = identity.executionAttemptId

def Recorded (block : BlockState) : OwnershipOperation → Prop
  | prepare requested => ∀ owner, block.remoteOwnership = some owner → sameSource owner.source requested = true
  | activate requested =>
    (∃ source, block.remoteOwnership = some (.preparing source) ∧ sameSource source requested.toRemoteSource = true) ∨
      RecordedActive block requested
  | markSourceDrift source _ => ∃ owner, block.remoteOwnership = some owner ∧
      ¬ (owner.source.sourceRevision = source.sourceRevision ∧ owner.source.graphFingerprint = source.graphFingerprint)
  | interrupt identity _ _ _ | resume identity | retry identity _ _ | complete identity _ | sealCompleted identity _ _ _ _
  | fail identity _ _ _ => RecordedActive block identity
  | restoreStopped prior => block.remoteOwnership = none ∧ ∃ receipt, block.remoteOperationReceipt = some receipt ∧
      receipt.identity.operationId = prior.operationId ∧ receipt.identity.executionAttemptId = prior.executionAttemptId

def FencedRun (kind : BlockKind) (attempt : OpaqueId) : BlockState → List OwnershipOperation → Prop
  | _, [] => True
  | block, operation :: rest => operation.installs block ≠ some attempt ∧
      FencedRun kind attempt (operation.after kind block) rest

theorem assertSameRemoteOwnershipGeneration_same {owner requested : RemoteSource}
    (checked : assertSameRemoteOwnershipGeneration owner requested = .ok ()) : sameSource owner requested = true := by
  unfold assertSameRemoteOwnershipGeneration at checked
  split at checked
  · cases checked
  · split at checked
    · assumption
    · cases checked

variable {block : BlockState} {kind : BlockKind} {operation : OwnershipOperation} {identity : RemoteIdentity}
variable {attempt : OpaqueId}
variable {requested : RemoteIdentity} {next : BlockState} {source : RemoteBlockSourceEvidence}
variable {current : RemoteIdentity} {reason : String}

theorem assertActiveRemoteBlockOwnership_recorded
    (checked : assertActiveRemoteBlockOwnership block requested = .ok current) : RecordedActive block requested := by
  obtain ⟨_, checked⟩ := rest_ok checked
  split at checked
  · rename_i owner owned
    obtain ⟨_, generation, checked⟩ := bind_ok.mp checked
    split at checked
    · cases checked
    · rename_i same
      simp only [not_or, not_not] at same
      exact ⟨owner, owned, assertSameRemoteOwnershipGeneration_same generation, same.1, same.2⟩
  · cases checked

theorem prepare_recorded {requested : RemoteSource}
    (ran : prepareRemoteBlockOwnership kind block requested = .ok next) : Recorded block (prepare requested) := by
  intro owner owned
  obtain ⟨_, rest⟩ := rest_ok ran
  rw [owned] at rest
  obtain ⟨_, generation, _⟩ := bind_ok.mp rest
  exact assertSameRemoteOwnershipGeneration_same generation

theorem activate_recorded
    (ran : activateRemoteBlockOwnership block requested = .ok next) : Recorded block (activate requested) := by
  obtain ⟨_, rest⟩ := rest_ok ran
  split at rest
  · cases rest
  rename_i owner owned
  obtain ⟨_, generation, rest⟩ := bind_ok.mp rest
  have same := assertSameRemoteOwnershipGeneration_same generation
  split at rest
  · cases rest
  cases owner with
  | preparing source => exact .inl ⟨source, owned, same⟩
  | active current =>
    simp only at rest
    split at rest
    · rename_i bound
      exact .inr ⟨current, owned, same, bound⟩
    · cases rest

theorem markSourceDrift_recorded
    (ran : markRemoteBlockOwnershipSourceDrift block source reason = .ok next) (changed : next ≠ block) :
    Recorded block (markSourceDrift source reason) := by
  obtain ⟨_, rest⟩ := rest_ok ran
  split at rest
  · cases rest
    exact absurd rfl changed
  rename_i owner owned
  split at rest
  · cases rest
    exact absurd rfl changed
  · rename_i moved
    exact ⟨owner, owned, moved⟩

theorem restoreStopped_recorded {prior : Restoration}
    (ran : restoreStoppedRemoteBlock block prior = .ok next) : Recorded block (restoreStopped prior) := by
  unfold restoreStoppedRemoteBlock at ran
  split at ran
  · cases ran
  rename_i stopped
  simp only [not_or, not_not] at stopped
  obtain ⟨free, _, named⟩ := stopped
  cases recorded : block.remoteOperationReceipt with
  | none =>
    rw [recorded] at named
    cases named
  | some receipt =>
    rw [recorded] at named
    refine ⟨by simpa using free, receipt, recorded, ?_⟩
    have matching : isStoppedBy prior receipt = true := named
    unfold isStoppedBy at matching
    split at matching
    · simp only [Bool.and_eq_true, decide_eq_true_eq] at matching
      exact ⟨matching.1.2, matching.2⟩
    · cases matching

theorem reviewAdmission_recorded {context : RuntimeContext} {submission : ReviewSubmission}
    (remote : submission.remote = some identity) (admitted : reviewAdmission context submission = .ok none) :
    RecordedActive (context.state.block submission.ref) identity := by
  unfold reviewAdmission at admitted
  simp only [remote] at admitted
  split at admitted
  · split at admitted
    · split at admitted <;> cases admitted
    · cases admitted
  · obtain ⟨_, active, _⟩ := bind_ok.mp admitted
    exact assertActiveRemoteBlockOwnership_recorded active

/-- The admission is what fences a seal: without it, the seal compares nothing. -/
theorem sealCompleted_ok {context : RuntimeContext} {submission : ReviewSubmission} {verdict : BlockState → BlockState}
    {attemptId : String} (ran : (sealCompleted identity context submission verdict attemptId).apply kind block = .ok next) :
    next = block ∨ RecordedActive block identity ∧
      sealRemoteBlockOperationCompleted .review (verdict block) identity attemptId = .ok next := by
  simp only [OwnershipOperation.apply] at ran
  split at ran
  · cases ran
  obtain ⟨admission, admitted, ran⟩ := bind_ok.mp ran
  cases admission with
  | some =>
    cases ran
    exact .inl rfl
  | none =>
    have recorded := reviewAdmission_recorded rfl admitted
    rw [RuntimeState.block_setBlock_self] at recorded
    obtain ⟨_, sealedState, ran⟩ := bind_ok.mp ran
    obtain ⟨_, done, sealedState⟩ := bind_ok.mp sealedState
    cases sealedState
    cases ran
    rw [RuntimeState.block_setBlock_self] at done ⊢
    exact .inr ⟨recorded, done⟩

theorem apply_recorded
    (ran : operation.apply kind block = .ok next) (changed : next ≠ block) :
    Recorded block operation := by
  cases operation with
  | prepare => exact prepare_recorded ran
  | activate => exact activate_recorded ran
  | markSourceDrift => exact markSourceDrift_recorded ran changed
  | interrupt =>
    obtain ⟨_, active, _⟩ := bind_ok.mp ran
    exact assertActiveRemoteBlockOwnership_recorded active
  | resume =>
    obtain ⟨_, active, _⟩ := bind_ok.mp ran
    exact assertActiveRemoteBlockOwnership_recorded active
  | retry =>
    obtain ⟨_, active, _⟩ := bind_ok.mp ran
    exact assertActiveRemoteBlockOwnership_recorded active
  | complete =>
    obtain ⟨_, active, _⟩ := bind_ok.mp ran
    exact assertActiveRemoteBlockOwnership_recorded active
  | sealCompleted => exact ((sealCompleted_ok ran).resolve_left changed).1
  | fail =>
    obtain ⟨_, active, _⟩ := bind_ok.mp ran
    exact assertActiveRemoteBlockOwnership_recorded active
  | restoreStopped => exact restoreStopped_recorded ran

theorem markSourceDrift_owner
    (ran : markRemoteBlockOwnershipSourceDrift block source reason = .ok next) :
    next.remoteOwnership = block.remoteOwnership := by
  obtain ⟨_, rest⟩ := rest_ok ran
  split at rest
  · cases rest
    rfl
  split at rest
  · cases rest
    rfl
  · split at rest
    · cases rest
    · cases rest
      rfl

theorem retryRemoteBlockOwnership_installs {newDispatchId newExecutionAttemptId : OpaqueId}
    (ran : retryRemoteBlockOwnership block identity newDispatchId newExecutionAttemptId = .ok next) :
    ∃ current, next.remoteOwnership = some (.active current) ∧ current.executionAttemptId = newExecutionAttemptId ∧
      newExecutionAttemptId ≠ identity.executionAttemptId := by
  obtain ⟨_, active, rest⟩ := bind_ok.mp ran
  obtain ⟨_, owned, _, _, attempt⟩ := assertActiveRemoteBlockOwnership_recorded active
  rw [(assertActiveRemoteBlockOwnership_ok active).1] at owned
  cases owned
  split at rest
  · cases rest
  split at rest
  · cases rest
  · rename_i renewed
    simp only [not_or] at renewed
    cases rest
    exact ⟨_, rfl, rfl, attempt ▸ renewed.2⟩

/-- Neither the owner nor, without one, the receipt names the attempt. -/
structure Superseded (attempt : OpaqueId) (block : BlockState) : Prop where
  owner : ∀ current, block.remoteOwnership = some (.active current) → current.executionAttemptId ≠ attempt
  receipt : block.remoteOwnership = none → ∀ receipt, block.remoteOperationReceipt = some receipt →
    receipt.identity.executionAttemptId ≠ attempt

theorem Superseded.recorded (superseded : Superseded attempt block) (recorded : RecordedActive block identity) :
    identity.executionAttemptId ≠ attempt := by
  obtain ⟨current, owned, _, _, same⟩ := recorded
  rw [← same]
  exact superseded.owner current owned

theorem Superseded.stuck (superseded : Superseded attempt block)
    (other : operation.installs block ≠ some attempt) (named : operation.executionAttempt = some attempt) :
    operation.after kind block = block := by
  unfold OwnershipOperation.after
  split
  · rename_i next ran
    apply not_not.mp
    intro changed
    have recorded := apply_recorded ran changed
    cases operation with
    | prepare => cases named
    | markSourceDrift => cases named
    | activate =>
      cases named
      rcases recorded with ⟨_, owned, _⟩ | active
      · apply other
        unfold OwnershipOperation.installs
        rw [owned]
      · exact superseded.recorded active rfl
    | interrupt =>
      cases named
      exact superseded.recorded recorded rfl
    | resume =>
      cases named
      exact superseded.recorded recorded rfl
    | retry =>
      cases named
      exact superseded.recorded recorded rfl
    | complete =>
      cases named
      exact superseded.recorded recorded rfl
    | sealCompleted =>
      cases named
      exact superseded.recorded recorded rfl
    | fail =>
      cases named
      exact superseded.recorded recorded rfl
    | restoreStopped =>
      cases named
      obtain ⟨free, receipt, found, _, same⟩ := recorded
      exact superseded.receipt free receipt found same
  · rfl

theorem Superseded.active
    (owned : block.remoteOwnership = some (.active current)) (different : current.executionAttemptId ≠ attempt) :
    Superseded attempt block := by
  refine ⟨?_, ?_⟩
  · intro other same
    rw [owned] at same
    cases same
    exact different
  · intro free
    rw [owned] at free
    cases free

theorem Superseded.released (free : block.remoteOwnership = none)
    (different : ∀ receipt, block.remoteOperationReceipt = some receipt → receipt.identity.executionAttemptId ≠ attempt) :
    Superseded attempt block := by
  refine ⟨?_, fun _ => different⟩
  intro other owned
  rw [free] at owned
  cases owned

theorem Superseded.step
    (superseded : Superseded attempt block)
    (other : operation.installs block ≠ some attempt) (ran : operation.apply kind block = .ok next) (changed : next ≠ block) :
    Superseded attempt next := by
  have recorded := apply_recorded ran changed
  cases operation with
  | prepare =>
    cases owned : block.remoteOwnership with
    | some => exact absurd (prepareRemoteBlockOwnership_owned ran owned).1 changed
    | none =>
      obtain ⟨_, rfl⟩ := prepareRemoteBlockOwnership_free ran owned
      exact ⟨fun _ impossible => absurd impossible (by simp), fun impossible => absurd impossible (by simp)⟩
  | activate =>
    obtain ⟨_, _, _, _, _, same | rfl⟩ := activateRemoteBlockOwnership_ok ran
    · exact absurd same changed
    apply Superseded.active rfl
    intro same
    rcases recorded with ⟨_, preparing, _⟩ | active
    · apply other
      unfold OwnershipOperation.installs
      rw [preparing]
      exact congrArg some same
    · exact superseded.recorded active same
  | markSourceDrift =>
    obtain ⟨owner, owned, _⟩ := recorded
    have kept : next.remoteOwnership = block.remoteOwnership := markSourceDrift_owner ran
    refine ⟨?_, ?_⟩
    · rw [kept]
      exact superseded.owner
    · rw [kept, owned]
      exact fun impossible => absurd impossible (by simp)
  | interrupt =>
    obtain ⟨⟨current, owned⟩, _, _, rfl⟩ := interruptRemoteBlockOwnership_ok ran
    exact Superseded.active owned (superseded.owner current owned)
  | resume =>
    obtain ⟨⟨current, owned⟩, _, rfl⟩ := resumeRemoteBlockOwnership_ok ran
    exact Superseded.active owned (superseded.owner current owned)
  | retry =>
    obtain ⟨_, owned⟩ := retryRemoteBlockOwnership_installs ran
    exact Superseded.active owned.1 (fun same => other (congrArg some (owned.2.1.symm.trans same)))
  | complete =>
    obtain ⟨_, _, _, rfl⟩ := completeRemoteBlockOwnership_ok ran
    apply Superseded.released rfl
    intro receipt found
    cases found
    exact superseded.recorded recorded
  | sealCompleted =>
    obtain ⟨_, sealed⟩ := (sealCompleted_ok ran).resolve_left changed
    rcases sealRemoteBlockOperationCompleted_ok sealed with ⟨_, rfl⟩ | ⟨_, _, _, rfl⟩
    · exact Superseded.released rfl (fun _ impossible => absurd impossible (by simp [clearRemoteBlockOperationState]))
    · apply Superseded.released rfl
      intro receipt found
      cases found
      exact superseded.recorded recorded
  | fail =>
    obtain ⟨_, rfl⟩ := failRemoteBlockOwnership_ok ran
    apply Superseded.released rfl
    intro receipt found
    cases found
    exact superseded.recorded recorded
  | restoreStopped =>
    obtain ⟨_, _, rfl⟩ := restoreStoppedRemoteBlock_ok ran
    exact Superseded.released rfl (fun _ impossible => absurd impossible (by simp [clearRemoteBlockOperationState]))

theorem Superseded.after (superseded : Superseded attempt block)
    (other : operation.installs block ≠ some attempt) : Superseded attempt (operation.after kind block) := by
  unfold OwnershipOperation.after
  split
  · rename_i next ran
    by_cases changed : next = block
    · rw [changed]
      exact superseded
    · exact superseded.step other ran changed
  · exact superseded

theorem Superseded.run {earlier later : List OwnershipOperation} (superseded : Superseded attempt block)
    (fenced : FencedRun kind attempt block (earlier ++ operation :: later))
    (named : operation.executionAttempt = some attempt) :
    operation.after kind (OwnershipOperation.run kind block earlier) = OwnershipOperation.run kind block earlier := by
  induction earlier generalizing block with
  | nil => exact superseded.stuck fenced.1 named
  | cons _ _ ih => exact ih (superseded.after fenced.1) fenced.2

def Repeatable : OwnershipOperation → Bool
  | prepare _ | activate _ | complete _ _ | fail _ _ _ _ => true
  | _ => false

theorem assertSameRemoteOwnershipGeneration_self (source : RemoteSource) :
    assertSameRemoteOwnershipGeneration source source = .ok () := by
  simp [assertSameRemoteOwnershipGeneration, sameSource]

theorem prepare_again {requested : RemoteSource} (ran : prepareRemoteBlockOwnership kind block requested = .ok next) :
    prepareRemoteBlockOwnership kind next requested = .ok next := by
  cases owned : block.remoteOwnership with
  | some =>
    obtain ⟨rfl, _⟩ := prepareRemoteBlockOwnership_owned ran owned
    exact ran
  | none =>
    obtain ⟨_, rfl⟩ := prepareRemoteBlockOwnership_free ran owned
    unfold prepareRemoteBlockOwnership
    rw [bind_ok]
    refine ⟨(), rfl, ?_⟩
    rw [bind_ok]
    exact ⟨(), assertSameRemoteOwnershipGeneration_self requested, rfl⟩

theorem activate_again (ran : activateRemoteBlockOwnership block requested = .ok next) :
    activateRemoteBlockOwnership next requested = .ok next := by
  obtain ⟨_, _, _, _, status, same | rfl⟩ := activateRemoteBlockOwnership_ok ran
  · rw [same] at ran ⊢
    exact ran
  unfold activateRemoteBlockOwnership
  rw [bind_ok]
  refine ⟨(), by simp [assertRemoteBlockOwnershipInvariant, status], ?_⟩
  rw [bind_ok]
  refine ⟨(), assertSameRemoteOwnershipGeneration_self requested.toRemoteSource, ?_⟩
  simp [status, Pure.pure, Except.pure]

theorem released_unchanged (free : block.remoteOwnership = none)
    (carries : Recorded block operation → RecordedActive block identity) : operation.after kind block = block := by
  unfold OwnershipOperation.after
  split
  · rename_i next ran
    apply not_not.mp
    intro changed
    obtain ⟨_, owned, _⟩ := carries (apply_recorded ran changed)
    rw [free] at owned
    cases owned
  · rfl

theorem repeat_unchanged (repeats : Repeatable operation = true) (ran : operation.apply kind block = .ok next) :
    operation.after kind next = next := by
  cases operation with
  | prepare requested =>
    have again : (prepare requested).apply kind next = .ok next := prepare_again ran
    unfold OwnershipOperation.after
    rw [again]
  | activate requested =>
    have again : (activate requested).apply kind next = .ok next := activate_again ran
    unfold OwnershipOperation.after
    rw [again]
  | complete =>
    obtain ⟨_, _, _, rfl⟩ := completeRemoteBlockOwnership_ok ran
    exact released_unchanged rfl id
  | fail =>
    obtain ⟨_, rfl⟩ := failRemoteBlockOwnership_ok ran
    exact released_unchanged rfl id
  | markSourceDrift => cases repeats
  | interrupt => cases repeats
  | resume => cases repeats
  | retry => cases repeats
  | sealCompleted => cases repeats
  | restoreStopped => cases repeats

theorem ownership_is_fenced (kind : BlockKind) :
    (∀ block operation next, operation.apply kind block = .ok next → next ≠ block → Recorded block operation) ∧
    (∀ block identity newDispatchId newExecutionAttemptId retried earlier operation later,
      (retry identity newDispatchId newExecutionAttemptId).apply kind block = .ok retried →
      FencedRun kind identity.executionAttemptId retried (earlier ++ operation :: later) →
      operation.executionAttempt = some identity.executionAttemptId →
      operation.after kind (OwnershipOperation.run kind retried earlier) = OwnershipOperation.run kind retried earlier) ∧
    (∀ block operation next, Repeatable operation = true → operation.apply kind block = .ok next →
      operation.after kind next = next) := by
  refine ⟨fun _ _ _ => apply_recorded, ?_, fun _ _ _ => repeat_unchanged⟩
  intro block identity newDispatchId newExecutionAttemptId retried earlier operation later ran fenced named
  obtain ⟨_, owned, attempt, different⟩ := retryRemoteBlockOwnership_installs ran
  have superseded : Superseded identity.executionAttemptId retried := by
    apply Superseded.active owned
    rw [attempt]
    exact different
  exact superseded.run fenced named

def fencedSource : RemoteSource where
  operationId := ⟨"operation-a", by decide⟩
  sourceRevision := ⟨"revision-a", by decide⟩
  graphFingerprint := ⟨"fingerprint-a", by decide⟩
  controlPlane := some .collaboration

def firstIdentity : RemoteIdentity :=
  { fencedSource with
    dispatchId := ⟨"dispatch-a", by decide⟩
    executionAttemptId := ⟨"execution-a", by decide⟩ }

def secondIdentity : RemoteIdentity :=
  { fencedSource with
    dispatchId := ⟨"dispatch-b", by decide⟩
    executionAttemptId := ⟨"execution-b", by decide⟩ }

def lostHost : RemoteInterruption := ⟨.leaseLost, false⟩

def preparedBlock : BlockState := (prepare fencedSource).after .review { status := .ready }

def activatedBlock : BlockState := (activate firstIdentity).after .review preparedBlock

def interruptedBlock : BlockState := (interrupt firstIdentity lostHost "lost" none).after .review activatedBlock

def retriedBlock : BlockState := (retry firstIdentity secondIdentity.dispatchId secondIdentity.executionAttemptId).after
  .review interruptedBlock

/-- A block without an owner takes a generation that it does not record, and under an attempt name that is used again the
replaced attempt acts once more. -/
theorem superseded_attempt_changes_block :
    (∃ idle : BlockState, idle.remoteOwnership = none ∧ (prepare fencedSource).after .review idle ≠ idle) ∧
    retriedBlock.remoteOwnership = some (.active secondIdentity) ∧
    (resume firstIdentity).after .review (OwnershipOperation.run .review retriedBlock
      [interrupt secondIdentity lostHost "lost" none,
        retry secondIdentity firstIdentity.dispatchId firstIdentity.executionAttemptId,
        interrupt firstIdentity ⟨.hostRestart, true⟩ "restarted" none]) ≠
      OwnershipOperation.run .review retriedBlock [interrupt secondIdentity lostHost "lost" none,
        retry secondIdentity firstIdentity.dispatchId firstIdentity.executionAttemptId,
        interrupt firstIdentity ⟨.hostRestart, true⟩ "restarted" none] := by
  refine ⟨⟨{ status := .ready }, ?_, ?_⟩, ?_, ?_⟩ <;> decide +kernel

theorem ownership_is_fenced_retried :
    Recorded interruptedBlock (retry firstIdentity secondIdentity.dispatchId secondIdentity.executionAttemptId) ∧
    (complete firstIdentity "RUN-001").after .review retriedBlock = retriedBlock ∧
    (activate firstIdentity).after .review activatedBlock = activatedBlock := by
  obtain ⟨recorded, superseded, repeats⟩ := ownership_is_fenced .review
  have retried : (retry firstIdentity secondIdentity.dispatchId secondIdentity.executionAttemptId).apply .review
      interruptedBlock = .ok retriedBlock := by decide +kernel
  have activated : (activate firstIdentity).apply .review preparedBlock = .ok activatedBlock := by decide +kernel
  refine ⟨?_, ?_, ?_⟩
  · exact recorded interruptedBlock _ retriedBlock retried (by decide +kernel)
  · exact superseded interruptedBlock firstIdentity _ _ retriedBlock [] (complete firstIdentity "RUN-001") [] retried
      ⟨by decide, trivial⟩ rfl
  · exact repeats preparedBlock _ activatedBlock rfl activated

end PlanWeave
