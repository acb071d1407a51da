import PlanWeave.TaskManager.ClaimEffects
import PlanWeave.TaskManager.OwnershipSpec

namespace PlanWeave
open Durable ResultsOnly

namespace ResultsOnly

theorem allocateRunId (ref : String) : ResultsOnly (allocateRunId ref) := by
  apply bind read
  intro world
  simp only
  split
  · exact bind (ResultsOnly.writeResults _) (fun _ => ResultsOnly.pure _)
  · exact fail _

theorem allocateAttemptId (ref : String) : ResultsOnly (allocateAttemptId ref) := by
  apply bind read
  intro world
  simp only
  split
  · exact bind (ResultsOnly.writeResults _) (fun _ => ResultsOnly.pure _)
  · exact fail _

theorem allocateSubmissionId (taskId feedbackId : String) : ResultsOnly (allocateSubmissionId taskId feedbackId) := by
  apply bind read
  intro world
  simp only
  split
  · exact bind (ResultsOnly.writeResults _) (fun _ => ResultsOnly.pure _)
  · exact fail _

theorem nextFeedbackId (taskId : String) (state : RuntimeState) : ResultsOnly (nextFeedbackId taskId state) := by
  apply bind read
  intro world
  simp only
  split
  · exact bind (ResultsOnly.writeResults _) (fun _ => ResultsOnly.pure _)
  · exact fail _

theorem openRunDirectory (ref : String) (run : SubmissionRun) : ResultsOnly (openRunDirectory ref run) := by
  unfold PlanWeave.openRunDirectory
  split
  · exact ResultsOnly.allocateRunId ref
  · exact bind (when (ResultsOnly.writeResults _)) (fun _ => ResultsOnly.pure _)

theorem materializeReport (digests : Digests) (submission : BlockSubmission) (runId : RunName) :
    ResultsOnly (materializeReport digests submission runId) := by
  unfold PlanWeave.materializeReport
  simp only
  split
  · exact bind (ResultsOnly.writeResults _) (fun _ => ResultsOnly.pure _)
  · split
    · exact fail _
    · exact bind (ResultsOnly.writeResults _) (fun _ => ResultsOnly.pure _)

theorem writeReviewAttempt (digests : Digests) (taskId : String) (result : ReviewResult) (workRevision : String) :
    ResultsOnly (writeReviewAttempt digests taskId result workRevision) := by
  apply bind (ResultsOnly.allocateAttemptId _)
  intro attemptId
  apply bind (ResultsOnly.writeResults _)
  intro _
  apply bind (ResultsOnly.writeResults _)
  intro _
  exact bind (ResultsOnly.updateTaskIndex _ _) (fun _ => ResultsOnly.pure _)

theorem feedbackSubmission (persisted : Option String) (taskId feedbackId source reportHash : String) (report : Bytes) :
    ResultsOnly (feedbackSubmission persisted taskId feedbackId source reportHash report) := by
  unfold PlanWeave.feedbackSubmission
  split
  · exact ResultsOnly.pure _
  apply bind (ResultsOnly.allocateSubmissionId _ _)
  intro submissionId
  apply bind (ResultsOnly.writeResults _)
  intro _
  exact bind (ResultsOnly.writeResults _) (fun _ => ResultsOnly.pure _)

end ResultsOnly

variable {store : World}
variable {state : RuntimeState}

theorem nextFeedbackId_fresh {taskId feedbackId : String} {left : World}
    (ran : (nextFeedbackId taskId state).Returns store feedbackId left) : state.feedback.has feedbackId = false := by
  obtain ⟨_, _, _, rest⟩ := returns_bind.mp ran
  simp only at rest
  split at rest
  · rename_i chosen found
    obtain ⟨_, _, _, returned⟩ := returns_bind.mp rest
    obtain ⟨rfl, _⟩ := returns_pure.mp returned
    have free := firstFree_free found
    simp only [Bool.or_eq_false_iff] at free
    exact free.1
  · exact absurd rest (by simp)

theorem markRemoteBlockOwnershipSourceDrift_ok {block marked : BlockState} {owner : RemoteOwnership}
    {source : RemoteBlockSourceEvidence} {requested : RemoteSource} {reason : String}
    (owned : block.remoteOwnership = some owner) (revision : owner.source.sourceRevision = requested.sourceRevision)
    (fingerprint : owner.source.graphFingerprint = requested.graphFingerprint)
    (drifts : sameRemoteBlockAuthority source requested = false)
    (ran : markRemoteBlockOwnershipSourceDrift block source reason = .ok marked) : marked = driftedBlock block reason := by
  have moved : ¬ (owner.source.sourceRevision = source.sourceRevision ∧
      owner.source.graphFingerprint = source.graphFingerprint) := by
    rintro ⟨sameRevision, sameFingerprint⟩
    unfold sameRemoteBlockAuthority at drifts
    rw [revision] at sameRevision
    rw [fingerprint] at sameFingerprint
    rw [← sameRevision, ← sameFingerprint] at drifts
    split at drifts <;> simp only [decide_true, Bool.and_self, Bool.true_eq_false] at drifts
  obtain ⟨_, ran⟩ := Checked.rest_ok ran
  simp only [owned] at ran
  rw [if_neg moved] at ran
  split at ran
  · cases ran
  · cases ran
    unfold driftedBlock
    rw [owned]

section
variable {digests : Digests} {world : World} {operation : Operation}
variable {authority : SubmissionAuthority} {context : RuntimeContext} {declared : ManifestBlock}
variable {submission : BlockSubmission}

theorem admission_drifted {results : Results} {reason : String}
    (ran : admission digests context results submission authority = .ok (.drifted state reason)) :
    (context.state.block submission.ref).remoteOwnership.isSome = true ∧
      state = context.state.setBlock submission.ref (driftedBlock (context.state.block submission.ref) reason) := by
  unfold admission at ran
  split at ran
  · unfold localAdmission at ran
    simp only at ran
    split at ran
    · cases ran
    split at ran
    · cases ran
    · split at ran
      · cases ran
      · split at ran <;> cases ran
  · rename_i identity source
    unfold remoteAdmission at ran
    simp only at ran
    split at ran
    · rename_i receipt _
      unfold remoteReplay at ran
      split at ran
      · split at ran
        · cases ran
        obtain ⟨found, ran⟩ := Checked.rest_ok ran
        cases found <;> cases ran
      · cases ran
    · obtain ⟨_, active, ran⟩ := Checked.bind_ok.mp ran
      obtain ⟨owned, _, revision, fingerprint⟩ := assertActiveRemoteBlockOwnership_ok active
      split at ran
      · cases ran
      obtain ⟨found, ran⟩ := Checked.rest_ok ran
      split at ran
      · rename_i drifts
        obtain ⟨_, marked, ran⟩ := Checked.bind_ok.mp ran
        cases ran
        have same := markRemoteBlockOwnershipSourceDrift_ok owned revision fingerprint (by simpa using drifts) marked
        exact ⟨by simp [owned], by rw [same]⟩
      · cases ran

theorem completeSubmission_leaves {base : RuntimeState} {runId : RunName}
    (loaded : loadRuntimeContext world = .ok context) (manifest : store.manifest = world.manifest)
    (submits : SubmitsBlock operation submission authority)
    (known : context.graph.blocksByRef.get? submission.ref = some declared) (implementation : declared.isReview = false)
    (admitted : admission digests context world.results submission authority = .ok .admitted)
    (from' : ReservedFrom context submission.ref runId base) :
    (completeSubmission context submission.ref authority base runId).Keeps store (Leaves digests world operation) := by
  unfold completeSubmission
  rw [keeps_lift_bind]
  intro block completed
  exact keeps_refresh loaded manifest (.submitted submits known implementation admitted from' completed)
    (fun _ => ResultsOnly.pure _)

theorem submitNewRun_leaves {target : SubmissionTarget} {run : SubmissionRun}
    (after : AfterLoad world context store) (submits : SubmitsBlock operation submission authority)
    (known : context.graph.blocksByRef.get? submission.ref = some declared) (implementation : declared.isReview = false)
    (admitted : admission digests context world.results submission authority = .ok .admitted)
    (identified : target.attemptId.isNone = true → authority = .local) :
    (submitNewRun digests context submission authority target run).Keeps store (Leaves digests world operation) := by
  unfold submitNewRun
  -- after the attempt is recorded the stored state is not the loaded one any more
  have fresh : ∀ reached : World, reached.manifest = world.manifest →
      Leaves digests world operation reached →
      ((openRunDirectory submission.ref run >>= fun runId => do
        writeRunMetadata submission.ref runId (reservationMetadata target run runId
          (target.attemptId.getD submission.randomAttempt) (digests.sha256 submission.artifact.bytes))
        writeState (withReservation context.state submission.ref (target.attemptId.getD submission.randomAttempt) runId)
        let reference ← materializeReport digests submission runId
        let world ← Durable.read
        writeRunMetadata submission.ref runId (sealedMetadata
          ((((world.results.runsOf submission.ref).get? runId).bind RunFolder.metadata).getD {}) target runId
          (target.attemptId.getD submission.randomAttempt) (digests.sha256 submission.artifact.bytes) reference)
        updateTaskIndex target.taskId (recordNewRun submission.ref runId)
        completeSubmission context submission.ref authority
          (withReservation context.state submission.ref (target.attemptId.getD submission.randomAttempt) runId) runId) :
            Locked SubmitResult).Keeps reached (Leaves digests world operation) := by
    intro reached manifest leaves
    apply (ResultsOnly.openRunDirectory _ _).keeps_bind (fun _ same => leaves.stable same)
    intro runId opened _ sameOpened
    apply (ResultsOnly.writeResults _).keeps_bind (fun _ same => leaves.stable (sameOpened.trans same))
    intro _ described _ sameDescribed
    rw [keeps_writeState_bind]
    have reserved : Leaves digests world operation (described.withState (withReservation context.state submission.ref
        (target.attemptId.getD submission.randomAttempt) runId)) :=
      .state after.loaded (sameDescribed.manifest.trans (sameOpened.manifest.trans manifest)) (.reserved submits _ _)
    refine ⟨reserved, ?_⟩
    apply (ResultsOnly.materializeReport _ _ _).keeps_bind (fun _ same => reserved.stable same)
    intro reference reported _ sameReported
    rw [keeps_read_bind]
    apply (ResultsOnly.writeResults _).keeps_bind (fun _ same => reserved.stable (sameReported.trans same))
    intro _ sealed' _ sameSealed
    apply (ResultsOnly.updateTaskIndex _ _).keeps_bind
      (fun _ same => reserved.stable ((sameReported.trans sameSealed).trans same))
    intro _ counted _ sameCounted
    have all := (sameReported.trans sameSealed).trans sameCounted
    exact completeSubmission_leaves after.loaded
      (all.manifest.trans (sameDescribed.manifest.trans (sameOpened.manifest.trans manifest))) submits known implementation
      admitted (.reserved _)
  rw [Durable.keeps_bind]
  refine ⟨?_, ?_⟩
  · rw [keeps_when]
    intro missing
    have isLocal := identified missing
    subst isLocal
    exact (keeps_write _).mpr (.state after.loaded after.manifest (.attempted submits _))
  · intro _ reached wrote
    rw [returns_when] at wrote
    split at wrote
    · rename_i missing
      have isLocal := identified missing
      subst isLocal
      have same := (returns_write _).mp wrote
      subst same
      exact fresh _ after.manifest (.state after.loaded after.manifest (.attempted submits _))
    · subst wrote
      exact fresh _ after.manifest after.leaves

theorem submissionTarget_identified (context : RuntimeContext) (submission : BlockSubmission)
    (authority : SubmissionAuthority) (taskId blockId : String)
    (missing : (submissionTarget context submission authority taskId blockId).attemptId.isNone = true) :
    authority = .local := by
  cases authority with
  | «local» => rfl
  | remote => cases missing

theorem submitBlockResultArtifact_leaves (submits : SubmitsBlock operation submission authority) :
    (submitBlockResultArtifact digests submission authority).Keeps world (Leaves digests world operation) := by
  unfold submitBlockResultArtifact
  split
  · exact keeps_fail _
  apply keeps_load
  intro context after
  rw [keeps_lift_bind]
  intro parsed _
  rw [keeps_lift_bind]
  intro declared found
  split
  · exact keeps_fail _
  rename_i implementation
  rw [keeps_read_bind, keeps_lift_bind]
  intro decision admitted
  rw [withState_results] at admitted
  cases decision with
  | replayed => exact keeps_pure _
  | drifted _ reason =>
    obtain ⟨owned, same⟩ := admission_drifted admitted
    rw [same]
    exact after.refresh (.driftedSubmission reason submits owned) (fun _ => fail _)
  | admitted =>
    rw [keeps_lift_bind]
    intro runName _
    rw [keeps_lift_bind]
    intro run _
    rw [keeps_lift_bind]
    intro _ _
    rw [keeps_lift_bind]
    intro persisted _
    have kind : declared.isReview = false := by simpa using implementation
    cases persisted with
    | some =>
      apply after.quiet_bind (ResultsOnly.updateTaskIndex _ _)
      intro _ reached _ later
      exact completeSubmission_leaves later.loaded later.manifest submits (getBlock_ok found) kind admitted .persisted
    | none =>
      simp only
      split
      · exact keeps_fail _
      · exact submitNewRun_leaves after submits (getBlock_ok found) kind admitted
          (submissionTarget_identified _ _ _ _ _)

theorem finishReview_leaves {α : Type} {submission : ReviewSubmission}
    {attemptId : String} {outcome : RuntimeState} {value : α}
    (after : AfterLoad world context store) (submits : SubmitsReview operation submission)
    (known : context.graph.blocksByRef.get? submission.ref = some declared) (review : declared.isReview = true)
    (admitted : reviewAdmission context submission = .ok none)
    (decided : ReviewOutcome digests context world.results submission attemptId outcome) :
    (finishReview context submission attemptId outcome >>= fun _ => (pure value : Locked α)).Keeps store
      (Leaves digests world operation) := by
  have finished : (finishReview context submission attemptId outcome).Keeps store (Leaves digests world operation) := by
    unfold finishReview
    rw [keeps_lift_bind]
    intro edited released
    exact after.refresh (.reviewed submits known review admitted decided released) (fun _ => ResultsOnly.pure _)
  rw [Durable.keeps_bind]
  exact ⟨finished, fun _ _ _ => keeps_pure _⟩

theorem decideReview_leaves {submission : ReviewSubmission} {taskId attemptId : String}
    (after : AfterLoad world context store) (submits : SubmitsReview operation submission)
    (known : context.graph.blocksByRef.get? submission.ref = some declared) (review : declared.isReview = true)
    (admitted : reviewAdmission context submission = .ok none) :
    (decideReview context submission declared taskId attemptId
      (computeWorkRevision digests context.graph context.state submission.ref)).Keeps store
      (Leaves digests world operation) := by
  unfold decideReview
  rw [keeps_lift_bind]
  intro _ _
  split
  · apply after.quiet_bind (ResultsOnly.updateTaskIndex _ _)
    intro _ reached _ later
    exact finishReview_leaves later submits known review admitted .passed
  · split
    · apply after.quiet_bind (ResultsOnly.updateTaskIndex _ _)
      intro _ reached _ later
      exact finishReview_leaves later submits known review admitted .limitReached
    · split
      · exact finishReview_leaves after submits known review admitted (.hookFailed _)
      apply after.quiet_bind (ResultsOnly.nextFeedbackId _ _)
      intro feedbackId allocated fresh afterAllocation
      apply afterAllocation.quiet_bind (ResultsOnly.writeResults _)
      intro _ recorded _ afterArtifact
      apply afterArtifact.quiet_bind (ResultsOnly.updateTaskIndex _ _)
      intro _ indexed _ afterIndex
      exact finishReview_leaves afterIndex submits known review admitted (.opened (nextFeedbackId_fresh fresh))

theorem submitReviewResult_leaves {submission : ReviewSubmission} (submits : SubmitsReview operation submission) :
    (submitReviewResult digests submission).Keeps world (Leaves digests world operation) := by
  apply keeps_load
  intro context after
  rw [keeps_lift_bind]
  intro parsed refParsed
  obtain ⟨_, _⟩ := parsed
  rw [keeps_lift_bind]
  intro declared found
  split
  · exact keeps_fail _
  rename_i isReview
  have review : declared.isReview = true := by simpa using isReview
  have known := getBlock_ok found
  split
  · exact keeps_fail _
  rw [keeps_lift_bind]
  intro decision admitted
  cases decision with
  | some => exact keeps_pure _
  | none =>
    rw [keeps_read_bind]
    simp only [withState_results]
    split
    · apply after.quiet_bind (ResultsOnly.writeReviewAttempt _ _ _ _)
      intro attemptId reached _ later
      exact decideReview_leaves later submits known review admitted
    · rename_i attempt reuse
      have reused := (Option.filter_eq_some_iff.mp reuse).2
      apply after.quiet_bind (ResultsOnly.updateTaskIndex _ _)
      intro _ reached _ later
      split
      · rename_i feedback _ persisted
        apply later.quiet_bind (ResultsOnly.updateTaskIndex _ _)
        intro _ indexed _ afterIndex
        exact finishReview_leaves afterIndex submits known review admitted (.restored refParsed persisted reused)
      · exact finishReview_leaves later submits known review admitted .limitReplayed
      · exact decideReview_leaves later submits known review admitted

theorem submitFeedback_leaves (report : Bytes) :
    (submitFeedback digests report).Keeps world (Leaves digests world (.submitFeedback report)) := by
  apply keeps_load
  intro context after
  rw [keeps_lift_bind]
  intro current found
  obtain ⟨_, _⟩ := current
  simp only
  split
  · exact keeps_fail _
  rename_i taskId known
  rw [keeps_read_bind]
  apply after.quiet_bind (ResultsOnly.feedbackSubmission _ _ _ _ _ _)
  intro submissionId submitted _ afterSubmission
  apply afterSubmission.quiet_bind (ResultsOnly.updateTaskIndex _ _)
  intro _ indexed _ afterIndex
  apply afterIndex.quiet_bind (ResultsOnly.patchFeedbackArtifact _ _ _ _)
  intro _ patched _ afterPatch
  exact afterPatch.refresh (.feedbackAnswered submissionId found known) (fun _ => ResultsOnly.pure _)
end
end PlanWeave
