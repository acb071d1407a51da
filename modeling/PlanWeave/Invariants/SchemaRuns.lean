import PlanWeave.Invariants.SchemaEdits
import PlanWeave.Graph.SessionVerdict

namespace PlanWeave
variable {state : RuntimeState} {world : World}

section
variable {digests : Digests} {context : RuntimeContext} {results : Results} {operation : Operation}
  {stored written : RuntimeState}

theorem reserved_schema {graph : Graph} (invariant : SchemaInvariant graph state) (ref : String)
    {block : BlockState} (ownership : block.remoteOwnership = (state.block ref).remoteOwnership)
    (interruption : block.remoteInterruption = (state.block ref).remoteInterruption)
    (receipt : block.remoteOperationReceipt = (state.block ref).remoteOperationReceipt)
    (status : block.status = (state.block ref).status) (run : block.lastRunId = (state.block ref).lastRunId)
    (attempt : block.submissionAttemptId.isSome = true) : SchemaInvariant graph (state.setBlock ref block) := by
  have valid := invariant.valid ref
  refine invariant.setBlock ⟨fun _ => attempt, ?_, ?_, ?_, ?_⟩ ?_ rfl rfl
  · rw [ownership, status]
    exact valid.ownership
  · rw [interruption, status, ownership]
    exact valid.interruption
  · rw [receipt, status]
    exact valid.receipt
  · rw [receipt, run]
    exact valid.receiptRun
  · intro active
    obtain ⟨_, unowned⟩ := invariant.sources ref active
    exact ⟨ownership.trans unowned.ownership, interruption.trans unowned.interruption, receipt.trans unowned.receipt⟩

theorem Writes.schema (writes : Writes digests context results operation written) (sound : context.graph.Sound)
    (stored : SchemaInvariant context.graph context.rawState)
    (loaded : Reconciled context.graph context.rawState context.state)
    (clean : ∀ scope, operation = .resetMaxCycleReviews scope → ResetsClean context scope) :
    SchemaInvariant context.graph written := by
  have invariant := stored.reconciled loaded
  cases writes with
  | raw => exact stored
  | loaded => exact invariant
  | attempted => exact reserved_schema invariant _ rfl rfl rfl rfl rfl rfl
  | reserved => exact reserved_schema invariant _ rfl rfl rfl rfl rfl rfl
  | edited edit ensured =>
    have reconciled := ensureStateForGraph_spec sound ensured
    exact (edit.schema invariant reconciled loaded clean).reconciled reconciled
end

structure SchemaWorld (world : World) : Prop where
  clean : ErrorFree world.manifest
  invariant : ∀ graph, compileTaskGraph world.manifest = .ok graph → SchemaInvariant graph world.state

theorem SchemaInvariant.shape {left right : Graph} (shape : SameShape left right)
    (invariant : SchemaInvariant left state) : SchemaInvariant right state := by
  refine ⟨invariant.valid, ?_⟩
  intro ref active
  rw [shape.reviews]
  exact invariant.sources ref active

theorem SchemaWorld.edited {ref : String} {cycles : Nat} (start : SchemaWorld world)
    (clean : ErrorFree (editMaxFeedbackCycles world.manifest ref cycles)) :
    SchemaWorld { world with manifest := editMaxFeedbackCycles world.manifest ref cycles } := by
  refine ⟨clean, ?_⟩
  intro edited compiledEdited
  obtain ⟨graph, compiled, _⟩ := start.clean
  exact (start.invariant graph compiled).shape (editMaxFeedbackCycles_shape start.clean clean compiled compiledEdited)

theorem SchemaWorld.writes {digests : Digests} {operation : Operation} {context : RuntimeContext}
    {results : Results} {written : RuntimeState} (start : SchemaWorld world)
    (loads : loadRuntimeContext world = .ok context)
    (clean : ∀ scope, operation = .resetMaxCycleReviews scope → ResetsClean context scope)
    (writes : Writes digests context results operation written) :
    ∀ graph, compileTaskGraph world.manifest = .ok graph → SchemaInvariant graph written := by
  have loaded := loadRuntimeContext_ok loads
  intro graph compiled
  rw [loaded.compiled] at compiled
  cases compiled
  have sound := start.clean.sound loaded.compiled
  apply writes.schema sound _ _ clean
  · rw [loaded.raw]
    exact start.invariant _ loaded.compiled
  · rw [loaded.raw]
    exact loaded.reconciled sound

theorem SchemaWorld.leaves {digests : Digests} {reached : World} {operation : Operation} (start : SchemaWorld world)
    (clean : ResetsWithoutReceipt world operation) (left : Leaves digests world operation reached) :
    SchemaWorld reached := by
  cases left with
  | @state context loads manifest written =>
    have resets : ∀ scope, operation = .resetMaxCycleReviews scope → ResetsClean context scope := by
      intro scope same
      subst same
      exact clean (world, scope) rfl context loads
    refine ⟨manifest ▸ start.clean, ?_⟩
    rw [manifest]
    exact start.writes loads resets written
  | manifest retries cleanEdited edited same =>
    have stays := start.edited cleanEdited
    refine ⟨edited ▸ cleanEdited, ?_⟩
    rw [edited, same]
    exact stays.invariant
  | retried retries cleanEdited loads edited written =>
    subst retries
    have stays := start.edited cleanEdited
    refine ⟨edited ▸ cleanEdited, ?_⟩
    rw [edited]
    apply stays.writes loads _ written
    intro scope same
    cases same
    exact clean _ rfl _ loads

/-- Every state written along a run passes the schema that the next read applies. -/
theorem written_states_are_readable {digests : Digests} {manifest : Manifest} {world : World} (clean : ErrorFree manifest)
    (run : Reaches digests ResetsWithoutReceipt (freshWorld manifest) world) :
    world.state.Valid ∧ readState world.state = .ok world.state := by
  have holds : SchemaWorld world := by
    apply run.holds_of_keeps
    · refine ⟨clean, ?_⟩
      intro graph _
      exact ⟨fun _ => blankBlock_valid, fun ref active => absurd active (activeOpenFeedback_nil rfl ref)⟩
    · intro store operation start admitted
      exact (perform_leaves digests store operation).mono (fun reached => start.leaves admitted)
  obtain ⟨graph, compiled, _⟩ := holds.clean
  have valid := (RuntimeState.valid_iff_block _).mpr (holds.invariant graph compiled).valid
  exact ⟨valid, (readState_ok_iff _ _).mpr ⟨valid, rfl⟩⟩

def sampleBytes (text : String) : Bytes := text.toUTF8.toList

def needsChanges : ReviewResult := ⟨"T#r", "T", .needsChanges, "fix"⟩

def needsChangesReport : Bytes :=
  sampleBytes "\x7b\"reviewBlockRef\":\"T#r\",\"taskId\":\"T\",\"verdict\":\"needs_changes\",\"content\":\"fix\"\x7d"

def sampleDigests : Digests where
  sha256 bytes := ([
    (sampleBytes "done", "a4c3ed04a95a3da14a9d235c83d868bed7c0f45cf7f3faa751ee8f50598d2211"),
    (needsChangesReport, "854546d1b574dfe627c7dfa4d629db79e1c5a895e67370c146d9eb0cc97b717b")].lookup bytes).getD ""
  reviewResultHash result := ([
    (needsChanges, "854546d1b574dfe627c7dfa4d629db79e1c5a895e67370c146d9eb0cc97b717b")].lookup result).getD ""
  workRevision runs feedback := ([
    (([("T#a", some "RUN-001")], []), "rev-4b37db35f53f")].lookup (runs, feedback)).getD ""

def sampleAttempt : AttemptId := ⟨"attempt-1", by decide⟩

def sampleIdentity : RemoteIdentity where
  operationId := ⟨"operation-1", by decide⟩
  sourceRevision := ⟨"revision-1", by decide⟩
  graphFingerprint := ⟨"fingerprint-1", by decide⟩
  controlPlane := some .collaboration
  dispatchId := ⟨"dispatch-1", rfl⟩
  executionAttemptId := ⟨"execution-1", by decide⟩

def sampleSource : RemoteBlockSourceEvidence := ⟨⟨"revision-1", by decide⟩, ⟨"fingerprint-1", by decide⟩⟩

def sampleRequest (ref : String) : RemoteRequest := ⟨ref, sampleIdentity, .ok sampleSource⟩

def sampleRemoteClaim (ref : String) : RemoteClaim where
  ref
  operationId := ⟨"operation-1", by decide⟩
  controlPlane := .collaboration
  sourceRevision := ⟨"revision-1", by decide⟩
  graphFingerprint := ⟨"fingerprint-1", by decide⟩
  source := .ok sampleSource

def claimSequentially : Operation := .claimNext { attempts := fun _ => sampleAttempt }

def submitDone (ref : String) : Operation :=
  .submitBlockResult { ref, artifact := .legacy (sampleBytes "done"), randomAttempt := sampleAttempt }

def completeReview (ref : String) (result : ReviewResult) (report : Bytes) : Operation := .complete {
  request := sampleRequest ref
  report
  reportSha256 := sampleDigests.sha256 report
  parsedReview := .ok result
  randomAttempt := sampleAttempt
}

def reviewedTask (maxFeedbackCycles : Nat) : Manifest := sampleManifest [sampleTask "T" [sampleImplementation "a",
  { sampleReview "r" { maxFeedbackCycles } with dependsOn := ["a"] }]] []

def resetsReceipt : List Operation :=
  [claimSequentially, submitDone "T#a", .remoteClaim (sampleRemoteClaim "T#r"), .activate (sampleRequest "T#r"),
    completeReview "T#r" needsChanges needsChangesReport, .resetMaxCycleReviews .project]

theorem reset_review_writes_unreadable_state : ErrorFree (reviewedTask 0) ∧
    Reaches sampleDigests (fun _ _ => True) (freshWorld (reviewedTask 0))
      (Durable.runAll (perform sampleDigests) resetsReceipt (freshWorld (reviewedTask 0))) ∧
    ¬ ∃ state, readState (Durable.runAll (perform sampleDigests) resetsReceipt (freshWorld (reviewedTask 0))).state =
      .ok state := by
  refine ⟨(compilesCleanly_iff _).mp (by decide +kernel), ?_, ?_⟩
  · apply Durable.AllowedRun.reaches
    decide +kernel
  rintro ⟨state, readable⟩
  have failed : (readState (Durable.runAll (perform sampleDigests) resetsReceipt
      (freshWorld (reviewedTask 0))).state).isOk = false := by decide +kernel
  rw [readable] at failed
  cases failed

def resetsLocally : List Operation :=
  [claimSequentially, submitDone "T#a", claimSequentially, .submitReviewResult "T#r" needsChanges (.ok ""),
    .resetMaxCycleReviews .project]

theorem written_states_are_readable_sample :
    readState (Durable.runAll (perform sampleDigests) resetsLocally (freshWorld (reviewedTask 0))).state =
      .ok (Durable.runAll (perform sampleDigests) resetsLocally (freshWorld (reviewedTask 0))).state := by
  apply (written_states_are_readable ((compilesCleanly_iff _).mp (by decide +kernel)) (Durable.AllowedRun.reaches _)).2
  decide +kernel

section Claims
variable {digests : Digests} {context : RuntimeContext} {results : Results} {operation : Operation} {edited : RuntimeState}
  {ref other : String} {block : BlockState}

def Operation.isLocalClaim : Operation → Bool
  | .claimNext _ | .claimDispatchedBlock _ _ _ => true
  | _ => false

structure Starts (context : RuntimeContext) (ref : String) : Prop where
  taskReady : taskDependenciesSatisfied context.graph context.state (context.graph.taskOfRef ref) = true
  blockReady : blockDependenciesCompleted context.graph context.state ref = true
  reviewable : context.graph.isReview ref = true → Reviewable context.graph context.state ref

theorem Consistent.starts (consistent : Consistent context.graph context.state) (status : context.state.status ref = .ready)
    (reviewable : context.graph.isReview ref = true → canClaimReviewBlock digests context.graph context.state ref = true) :
    Starts context ref :=
  ⟨(consistent.ready ref status).1, (consistent.ready ref status).2, fun review => canClaimReviewBlock_ok (reviewable review)⟩

theorem Dispatchable.starts {selected : List String} (chosen : Dispatchable context selected ref) : Starts context ref := by
  refine ⟨chosen.taskReady, chosen.blockReady, fun review => ?_⟩
  rw [isReview_of_implementation chosen.implementation] at review
  cases review

theorem Reconciled.running {graph : Graph} {stored next : RuntimeState} (reconciled : Reconciled graph stored next)
    (running : next.status ref = .inProgress) : stored.status ref = .inProgress := by
  have started : hasStartedBlock (next.block ref).status = true := by
    rw [show (next.block ref).status = .inProgress from running]
    rfl
  rcases reconciled.block_cases ref with ⟨_, settles⟩ | ⟨settles, _⟩
  · exact (congrArg BlockState.status (settles.started (.inr started))).symm.trans running
  · rw [RuntimeState.status, settles.started (.inr started)] at running
    cases running

theorem eq_of_started (blocks : edited.blocks = (context.state.setBlock other block).blocks)
    (idle : context.state.status ref ≠ .inProgress) (running : edited.status ref = .inProgress) : ref = other := by
  have same : edited.block ref = (context.state.setBlock other block).block ref := by
    unfold RuntimeState.block
    rw [blocks]
  rw [RuntimeState.status, same, RuntimeState.block_setBlock] at running
  split at running
  · assumption
  · exact absurd running idle

theorem Edit.starts (edit : Edit digests context results operation edited) (claims : operation.isLocalClaim = true)
    (consistent : Consistent context.graph context.state) (idle : context.state.status ref ≠ .inProgress)
    (running : edited.status ref = .inProgress) : Starts context ref := by
  have claimed : ∀ {options : ClaimOptions} {retained : List String} {other : String},
      other ∈ scopedReadyRefs digests context options →
      (claimRef context options retained other).status ref = .inProgress → Starts context ref := by
    intro options retained other member running
    cases eq_of_started (claimRef_writes context options retained other).1 idle running
    have ready := scopedReadyRefs_ready member
    exact consistent.starts ready.status ready.reviewable
  cases edit with
  | unchanged => exact absurd running idle
  | idle => exact absurd running idle
  | answer => exact absurd running idle
  | resumeReview _ form =>
    cases eq_of_started rfl idle running
    exact absurd (reviewClaimForm_resume form).2.1 idle
  | claimSequential _ _ ready => exact claimed ready running
  | claimReview _ _ _ ready => exact claimed ready running
  | claimBatch _ _ =>
    unfold PlanWeave.claimBatch at running
    erw [RuntimeState.status, claimBatchRefs_block] at running
    split at running
    · rename_i member
      rcases (mem_selectedParallelBatchRefs member).2 with ⟨_, chosen⟩ | ⟨_, ready⟩
      · exact chosen.starts
      · exact consistent.starts ready.status ready.reviewable
    · exact absurd running idle
  | dispatched dispatchable =>
    cases eq_of_started rfl idle running
    exact (canDispatchImplementationBlock_ok dispatchable).starts
  | drifted _ about => cases operation <;> simp [Operation.isLocalClaim, Operation.remoteRef] at claims about
  | driftedSubmission _ submits => cases submits <;> cases claims
  | submitted submits => cases submits <;> cases claims
  | reviewed submits => cases submits <;> cases claims
  | _ => cases claims

theorem Writes.starts (writes : Writes digests context results operation edited)
    (claims : operation.isLocalClaim = true) (sound : context.graph.Sound)
    (reconciled : Reconciled context.graph context.rawState context.state)
    (idle : context.rawState.status ref ≠ .inProgress) (running : edited.status ref = .inProgress) :
    Starts context ref := by
  cases writes with
  | raw => exact absurd running idle
  | loaded => exact absurd (reconciled.running running) idle
  | attempted submits =>
    cases submits
    cases claims
  | reserved submits => cases submits <;> cases claims
  | edited edit ensured =>
    exact edit.starts claims reconciled.consistent (fun before => idle (reconciled.running before))
      ((ensureStateForGraph_spec sound ensured).running running)

def StartsReadyWork (world reached : World) : Prop :=
  ∃ context, loadRuntimeContext world = .ok context ∧ ∀ ref, world.state.status ref ≠ .inProgress →
    reached.state.status ref = .inProgress → Starts context ref

/-- Wherever a local claim stops, it has started no block whose dependencies were not completed, and no review of a task with
open feedback or an implementation left. -/
theorem claims_start_ready_work {world : World} (clean : ErrorFree world.manifest) (claims : operation.isLocalClaim = true) :
    (perform digests operation).Keeps world (StartsReadyWork world) := by
  refine (perform_leaves digests world operation).mono fun reached left => ?_
  cases left with
  | state loads _ written =>
    have loaded := loadRuntimeContext_ok loads
    have sound := clean.sound loaded.compiled
    refine ⟨_, loads, fun ref idle running => ?_⟩
    rw [← loaded.raw] at idle
    refine written.starts claims sound ?_ idle running
    rw [loaded.raw]
    exact loaded.reconciled sound
  | manifest retries =>
    subst retries
    cases claims
  | retried retries =>
    subst retries
    cases claims

end Claims

theorem claims_start_ready_work_sample : (perform sampleDigests claimSequentially).Keeps (freshWorld (reviewedTask 0))
    (StartsReadyWork (freshWorld (reviewedTask 0))) :=
  claims_start_ready_work ((compilesCleanly_iff _).mp (by decide +kernel)) rfl

section Marks
variable {digests : Digests} {operation : Operation} {graph : Graph} {ref : String}

theorem Consistent.setBlock {block : BlockState} (consistent : Consistent graph state) (status : block.status = state.status ref)
    (reason : block.completionReason = (state.block ref).completionReason) : Consistent graph (state.setBlock ref block) := by
  have same : ∀ other, (state.setBlock ref block).status other = state.status other ∧
      ((state.setBlock ref block).block other).completionReason = (state.block other).completionReason := by
    intro other
    rw [RuntimeState.status, RuntimeState.block_setBlock]
    split
    · rename_i here
      exact here ▸ ⟨status, reason⟩
    · exact ⟨rfl, rfl⟩
  constructor
  · simp only [blockDependenciesCompleted, same]
    exact consistent.ready
  · intro taskId implemented
    obtain ⟨satisfied, done⟩ := consistent.implemented taskId implemented
    refine ⟨satisfied, ?_, done.answered, ?_, ?_⟩ <;> simp only [same]
    · exact done.settled
    · exact done.implementations
    · exact done.reviews

def MarksHold (manifest : Manifest) (state : RuntimeState) : Prop :=
  ∀ graph, compileTaskGraph manifest = .ok graph → Consistent graph state

theorem Writes.marksHold {context : RuntimeContext} {results : Results} {written : RuntimeState} (clean : ErrorFree world.manifest)
    (loads : loadRuntimeContext world = .ok context) (writes : Writes digests context results operation written) :
    written = world.state ∨ MarksHold world.manifest written := by
  have loaded := loadRuntimeContext_ok loads
  have sound := clean.sound loaded.compiled
  have before := (loaded.reconciled sound).consistent
  have marks : Consistent context.graph written → MarksHold world.manifest written := by
    intro consistent graph compiled
    cases loaded.compiled.symm.trans compiled
    exact consistent
  cases writes with
  | raw => exact .inl loaded.raw
  | loaded => exact .inr (marks before)
  | attempted => exact .inr (marks (before.setBlock rfl rfl))
  | reserved => exact .inr (marks (before.setBlock rfl rfl))
  | edited _ ensured => exact .inr (marks (ensureStateForGraph_spec sound ensured).consistent)

/-- Whatever state an operation has stored, wherever it stops: the one it found, or one whose marks hold in the manifest stored
with it. -/
theorem written_marks_hold (clean : ErrorFree world.manifest) : (perform digests operation).Keeps world fun reached =>
    reached.state = world.state ∨ MarksHold reached.manifest reached.state := by
  refine (perform_leaves digests world operation).mono fun reached left => ?_
  cases left with
  | state loads manifest written => exact manifest ▸ written.marksHold clean loads
  | manifest _ _ _ same => exact .inl same
  | retried _ edits loads edited written => exact edited ▸ written.marksHold edits loads

end Marks

theorem written_marks_hold_sample : (perform sampleDigests claimSequentially).Keeps (freshWorld (reviewedTask 0)) fun reached =>
    reached.state = (freshWorld (reviewedTask 0)).state ∨ MarksHold reached.manifest reached.state :=
  written_marks_hold ((compilesCleanly_iff _).mp (by decide +kernel))

end PlanWeave
