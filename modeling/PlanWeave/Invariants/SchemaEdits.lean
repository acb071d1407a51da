import PlanWeave.Invariants.Schema

namespace PlanWeave
open RuntimeState

section
variable {digests : Digests} {context : RuntimeContext} {results : Results} {operation : Operation}
  {stored edited written : RuntimeState}

theorem receipt_valid {block : BlockState} {receipt : RemoteOperationReceipt} (free : block.remoteOwnership = none)
    (running : block.remoteInterruption = none) (recorded : block.remoteOperationReceipt = some receipt)
    (status : block.status = receipt.outcome.status)
    (run : ∀ runId, receipt.outcome = .completed runId → block.lastRunId = some runId.text)
    (reservation : block.submissionRunId.isSome = true → block.submissionAttemptId.isSome = true) : block.Valid := by
  refine ⟨reservation, ?_, ?_, ?_, ?_⟩
  · rw [free]
    exact fun impossible => absurd impossible Bool.false_ne_true
  · rw [running]
    exact fun impossible => absurd impossible Bool.false_ne_true
  · intro found same
    rw [recorded] at same
    cases same
    exact status.symm
  · intro found runId same outcome
    rw [recorded] at same
    cases same
    exact run runId outcome

structure ReviewEffect (state : RuntimeState) (ref : String) (block : BlockState) (outcome : RuntimeState) : Prop where
  blocks : outcome.blocks = (state.setBlock ref block).blocks
  remote : SameRemote (state.block ref) block
  feedback : outcome.feedback = state.feedback ∨ (∃ feedbackId feedback, block.status = .inProgress ∧
    outcome.feedback = state.feedback.set feedbackId feedback ∧ feedback.sourceReviewBlockRef = ref)

variable {outcome state : RuntimeState} {submission : ReviewSubmission} {ref reason : String} {graph : Graph}
variable {ownership : RemoteIdentity}
variable {attemptId feedbackId : String} {kind : BlockKind} {current : RemoteIdentity} {runId : Option String}
  {feedback : FeedbackEnvelope}

theorem ReviewOutcome.effect
    (decided : ReviewOutcome digests context results submission attemptId outcome) :
    ∃ block, ReviewEffect context.state submission.ref block outcome := by
  cases decided with
  | restored => exact ⟨_, rfl, ⟨rfl, rfl, rfl, rfl, rfl⟩, .inr ⟨_, _, rfl, rfl, rfl⟩⟩
  | limitReplayed => exact ⟨_, rfl, ⟨rfl, rfl, rfl, rfl, rfl⟩, .inl rfl⟩
  | passed => exact ⟨_, rfl, ⟨rfl, rfl, rfl, rfl, rfl⟩, .inl rfl⟩
  | limitReached => exact ⟨_, rfl, ⟨rfl, rfl, rfl, rfl, rfl⟩, .inl rfl⟩
  | hookFailed => exact ⟨_, rfl, ⟨rfl, rfl, rfl, rfl, rfl⟩, .inl rfl⟩
  | opened => exact ⟨_, rfl, ⟨rfl, rfl, rfl, rfl, rfl⟩, .inr ⟨_, _, rfl, rfl, rfl⟩⟩

theorem ReviewEffect.block {block : BlockState}
    (effect : ReviewEffect state ref block outcome) : outcome.block ref = block := by
  unfold RuntimeState.block
  rw [effect.blocks]
  exact block_setBlock_self state ref block

theorem reviewAdmission_ok (admitted : reviewAdmission context submission = .ok none) :
    (submission.remote = none ∧ (context.state.block submission.ref).remoteOwnership = none ∧
      context.state.status submission.ref = .inProgress) ∨ (∃ identity current, submission.remote = some identity ∧
      (context.state.block submission.ref).remoteOwnership = some (.active current)) := by
  unfold reviewAdmission at admitted
  simp only at admitted
  split at admitted
  · rename_i isLocal
    split at admitted
    · cases admitted
    rename_i free
    split at admitted
    · cases admitted
    · rename_i status
      exact .inl ⟨isLocal, by simpa using free, not_not.mp status⟩
  · rename_i identity isRemote
    split at admitted
    · split at admitted
      · split at admitted <;> cases admitted
      · cases admitted
    · cases active : assertActiveRemoteBlockOwnership (context.state.block submission.ref) identity with
      | error => simp [active, Bind.bind, Except.bind] at admitted
      | ok current => exact .inr ⟨identity, current, isRemote, (assertActiveRemoteBlockOwnership_ok active).1⟩

theorem SchemaInvariant.effect {block : BlockState}
    (invariant : SchemaInvariant graph state) (review : graph.isReview ref = true) (valid : block.Valid)
    (unowned : block.Unowned) (blocks : outcome.blocks = (state.setBlock ref block).blocks)
    (feedback : outcome.feedback = state.feedback ∨
      ∃ feedbackId feedback, outcome.feedback = state.feedback.set feedbackId feedback ∧
        feedback.sourceReviewBlockRef = ref) : SchemaInvariant graph outcome := by
  rcases feedback with same | ⟨_, _, recorded, source⟩
  · exact invariant.setBlock valid (fun _ => unowned) blocks same
  have changed : SchemaInvariant graph (state.setBlock ref block) :=
    invariant.setBlock valid (fun _ => unowned) rfl rfl
  apply changed.setFeedback (source ▸ review) _ blocks recorded
  rw [source, block_setBlock_self]
  exact unowned

theorem reviewed_schema {declared : ManifestBlock}
    (invariant : SchemaInvariant context.graph context.state)
    (known : context.graph.blocksByRef.get? submission.ref = some declared) (isReview : declared.isReview = true)
    (admitted : reviewAdmission context submission = .ok none)
    (decided : ReviewOutcome digests context results submission attemptId outcome)
    (released : sealReview submission.remote submission.ref attemptId outcome = .ok edited) :
    SchemaInvariant context.graph edited := by
  have review : context.graph.isReview submission.ref = true := by
    unfold Graph.isReview
    rw [known]
    exact isReview
  obtain ⟨block, effect⟩ := decided.effect
  have valid := invariant.valid submission.ref
  rcases reviewAdmission_ok admitted with ⟨isLocal, free, status⟩ | ⟨identity, _, isRemote, owned⟩
  · rw [isLocal] at released
    cases released
    have unowned : (context.state.block submission.ref).Unowned := by
      apply valid.unowned free <;> (intro other; rw [RuntimeState.status, other] at status; cases status)
    exact invariant.effect review (effect.remote.valid unowned valid) (effect.remote.unowned unowned) effect.blocks
      (effect.feedback.imp_right (fun ⟨id, envelope, _, recorded, source⟩ => ⟨id, envelope, recorded, source⟩))
  · rw [isRemote] at released
    obtain ⟨final, ran, released⟩ := Checked.bind_ok.mp released
    cases released
    rw [effect.block] at ran
    have blocks : (outcome.setBlock submission.ref final).blocks =
        (context.state.setBlock submission.ref final).blocks := by
      simp only [effect.blocks, setBlock, OrderedMap.set_set]
    have reservation : block.submissionRunId.isSome = true → block.submissionAttemptId.isSome = true := by
      rw [effect.remote.run, effect.remote.attempt]
      exact valid.reservation
    rcases sealRemoteBlockOperationCompleted_ok ran with ⟨_, cleared⟩ | ⟨completed, _, same, sealed'⟩
    · subst cleared
      have unowned : (clearRemoteBlockOperationState block).Unowned := ⟨rfl, rfl, rfl⟩
      exact invariant.effect review (unowned.valid reservation) unowned blocks
        (effect.feedback.imp_right (fun ⟨id, envelope, _, recorded, source⟩ => ⟨id, envelope, recorded, source⟩))
    · subst sealed'
      have kept : outcome.feedback = context.state.feedback := by
        rcases effect.feedback with same | ⟨_, _, running, _⟩
        · exact same
        · rw [running] at completed
          cases completed
      have held : (context.state.block submission.ref).remoteOwnership.isSome = true := by rw [owned]; rfl
      refine invariant.setOwned ?_ held blocks kept
      refine receipt_valid rfl rfl rfl completed ?_ reservation
      intro runId same'
      cases same'
      exact congrArg some same.symm

theorem claimedBlockState_unowned {block : BlockState} (unowned : block.Unowned) (kind : BlockKind) (attempt : AttemptId) :
    (claimedBlockState block kind attempt).Unowned := by
  cases kind <;> exact ⟨unowned.ownership, unowned.interruption, unowned.receipt⟩

theorem claimedBlockState_reservation {block : BlockState} (valid : block.Valid) (kind : BlockKind) (attempt : AttemptId)
    (reserved : (claimedBlockState block kind attempt).submissionRunId.isSome = true) :
    (claimedBlockState block kind attempt).submissionAttemptId.isSome = true := by
  cases kind with
  | implementation => rfl
  | review => exact valid.reservation reserved

theorem SchemaInvariant.ready_unowned (invariant : SchemaInvariant graph state)
    (ready : state.status ref = .ready) : (state.block ref).Unowned := by
  apply (invariant.valid ref).unowned_of_idle
  rw [show (state.block ref).status = .ready from ready]
  rfl

theorem SchemaInvariant.claim (invariant : SchemaInvariant graph state)
    (ready : state.status ref = .ready) (kind : BlockKind) (attempt : AttemptId)
    (blocks : edited.blocks = (state.setBlock ref (claimedBlockState (state.block ref) kind attempt)).blocks)
    (feedback : edited.feedback = state.feedback) : SchemaInvariant graph edited :=
  invariant.setUnowned (claimedBlockState_unowned (invariant.ready_unowned ready) kind attempt)
    (claimedBlockState_reservation (invariant.valid ref) kind attempt) blocks feedback

theorem claimRef_writes (context : RuntimeContext) (options : ClaimOptions) (retained : List String) (ref : String) :
    (claimRef context options retained ref).blocks = (context.state.setBlock ref
      (claimedBlockState (context.state.block ref) (context.graph.kind ref) (options.attempts ref))).blocks ∧
    (claimRef context options retained ref).feedback = context.state.feedback := by
  unfold claimRef
  split <;> exact ⟨rfl, rfl⟩

section
variable (invariant : SchemaInvariant context.graph context.state)
include invariant

theorem claimBatch_schema {options : ClaimOptions} {retained : List String} :
    SchemaInvariant context.graph (claimBatch context options retained (selectedParallelBatchRefs digests context options)) := by
  generalize selected : selectedParallelBatchRefs digests context options = refs
  have block : ∀ ref, (claimBatch context options retained refs).block ref = if ref ∈ refs then
      claimedBlockState (context.state.block ref) (context.graph.kind ref) (options.attempts ref)
      else context.state.block ref := claimBatchRefs_block context.graph options refs context.state
  have feedback : (claimBatch context options retained refs).feedback = context.state.feedback :=
    claimBatchRefs_feedback context.graph options refs context.state
  have unowned : ∀ ref ∈ refs, (context.state.block ref).Unowned := by
    intro ref member
    rw [← selected] at member
    exact invariant.ready_unowned (selectedParallelBatchRefs_ready member)
  refine ⟨?_, ?_⟩
  · intro ref
    rw [block]
    split
    · rename_i member
      exact (claimedBlockState_unowned (unowned ref member) _ _).valid
        (claimedBlockState_reservation (invariant.valid ref) _ _)
    · exact invariant.valid ref
  · intro ref active
    unfold ActiveFeedback at active
    rw [feedback] at active
    obtain ⟨review, source⟩ := invariant.sources ref active
    refine ⟨review, ?_⟩
    rw [block]
    split
    · exact claimedBlockState_unowned source _ _
    · exact source

theorem submitted_schema {authority : SubmissionAuthority} {base : RuntimeState} {runId : RunName} {block : BlockState}
    (from' : ReservedFrom context ref runId base)
    (completed : submittedBlock authority .implementation (base.block ref) runId = .ok block) :
    SchemaInvariant context.graph (submittedState base ref block) := by
  have feedback : (submittedState base ref block).feedback = context.state.feedback := by cases from' <;> rfl
  have blocks : (submittedState base ref block).blocks = (context.state.setBlock ref block).blocks := by
    cases from' with
    | persisted => rfl
    | reserved attempt =>
      show ((withReservation context.state ref attempt runId).setBlock ref block).blocks = _
      exact congrArg RuntimeState.blocks (setBlock_setBlock context.state ref _ block)
  have reservation : (base.block ref).submissionRunId.isSome = true →
      (base.block ref).submissionAttemptId.isSome = true := by
    cases from' with
    | persisted => exact (invariant.valid ref).reservation
    | reserved =>
      intro _
      rw [withReservation, block_setBlock_self]
      rfl
  have ownership : (base.block ref).remoteOwnership = (context.state.block ref).remoteOwnership := by
    cases from' with
    | persisted => rfl
    | reserved =>
      rw [withReservation, block_setBlock_self]
  cases authority with
  | «local» =>
    have unowned : block.Unowned := by
      cases completed
      exact ⟨rfl, rfl, rfl⟩
    refine invariant.setUnowned unowned ?_ blocks feedback
    cases completed
    exact reservation
  | remote =>
    obtain ⟨⟨_, owned⟩, _, same, rfl⟩ := completeRemoteBlockOwnership_ok completed
    have held : (context.state.block ref).remoteOwnership.isSome = true := by rw [← ownership, owned]; rfl
    refine invariant.setOwned ?_ held blocks feedback
    refine receipt_valid rfl rfl rfl rfl ?_ reservation
    intro runId' outcome
    cases outcome
    exact congrArg some same.symm
end

theorem owned_valid {base block : BlockState} (valid : base.Valid) (owned : base.remoteOwnership.isSome = true)
    (attempt : block.submissionAttemptId = base.submissionAttemptId) (run : block.submissionRunId = base.submissionRunId)
    (receipt : block.remoteOperationReceipt = base.remoteOperationReceipt)
    (status : block.status = .inProgress ∨ block.status = .diverged)
    (interruption : block.remoteInterruption.isSome = true →
      block.status = .diverged ∧ block.remoteOwnership.any RemoteOwnership.isActive = true) : block.Valid := by
  have none := valid.receipt_none owned
  refine ⟨?_, fun _ => status, interruption, ?_, ?_⟩
  · rw [run, attempt]
    exact valid.reservation
  · rw [receipt, none]
    exact fun _ impossible => absurd impossible (by simp)
  · rw [receipt, none]
    exact fun _ _ impossible => absurd impossible (by simp)

theorem driftedBlock_valid {block : BlockState} (valid : block.Valid) (owned : block.remoteOwnership.isSome = true)
    (reason : String) : (driftedBlock block reason).Valid :=
  owned_valid valid owned rfl rfl rfl (.inr rfl) (fun impossible => absurd impossible Bool.false_ne_true)

theorem divergedBlock_schema {isReview : Bool} (invariant : SchemaInvariant context.graph context.state) :
    SchemaInvariant context.graph (divergedState context ref isReview reason) := by
  have valid := invariant.valid ref
  cases owned : (context.state.block ref).remoteOwnership with
  | none =>
    have shape : SameRemote (clearRemoteBlockOperationState (context.state.block ref))
        (divergedBlock (context.state.block ref) isReview reason) := by
      unfold divergedBlock
      simp only [owned, Option.isSome_none, Bool.false_eq_true, if_false]
      cases isReview <;> exact ⟨rfl, rfl, rfl, rfl, rfl⟩
    have unowned := shape.unowned ⟨rfl, rfl, rfl⟩
    refine invariant.setUnowned unowned ?_ rfl rfl
    rw [shape.run, shape.attempt]
    exact valid.reservation
  | some =>
    have shape : (divergedBlock (context.state.block ref) isReview reason).remoteOperationReceipt = none ∧
        (divergedBlock (context.state.block ref) isReview reason).remoteInterruption = none ∧
        (divergedBlock (context.state.block ref) isReview reason).status = .diverged ∧
        (divergedBlock (context.state.block ref) isReview reason).submissionRunId =
          (context.state.block ref).submissionRunId ∧
        (divergedBlock (context.state.block ref) isReview reason).submissionAttemptId =
          (context.state.block ref).submissionAttemptId := by
      unfold divergedBlock
      simp only [owned, Option.isSome_some, if_true]
      cases isReview <;> exact ⟨rfl, rfl, rfl, rfl, rfl⟩
    have held : (context.state.block ref).remoteOwnership.isSome = true := by simp [owned]
    obtain ⟨receipt, interruption, status, run, attempt⟩ := shape
    refine invariant.setOwned (owned_valid valid held attempt run ?_ (.inr status) ?_) held rfl rfl
    · rw [receipt, valid.receipt_none held]
    · rw [interruption]
      exact fun impossible => absurd impossible Bool.false_ne_true

theorem claimedFrom_unowned {existing current : BlockState} {restoration : Option Restoration}
    {prepared : BlockState} {requested : RemoteSource} (valid : existing.Valid)
    (starts : claimedFrom existing restoration = .ok current) (free : current.remoteOwnership = none)
    (taken : prepareRemoteBlockOwnership kind current requested = .ok prepared) :
    current.Unowned ∧ (current.submissionRunId.isSome = true → current.submissionAttemptId.isSome = true) := by
  obtain ⟨status, _⟩ := prepareRemoteBlockOwnership_free taken free
  have running : existing = current → current.Unowned := by
    intro same
    rw [same] at valid
    apply valid.unowned free <;> (intro other; rcases status with _ | ⟨_, _⟩ <;> simp_all)
  unfold claimedFrom at starts
  split at starts
  · cases starts
    exact ⟨running rfl, valid.reservation⟩
  split at starts
  · cases starts
    exact ⟨running rfl, valid.reservation⟩
  · obtain ⟨_, _, rfl⟩ := restoreStoppedRemoteBlock_ok starts
    exact ⟨⟨rfl, rfl, rfl⟩, valid.reservation⟩

theorem assertRemoteBlockDispatchable_ok {projectGuard : ProjectGraphClaimGuard}
    (dispatchable : assertRemoteBlockDispatchable digests context projectGuard ref = .ok ()) :
    (context.graph.isReview ref = true ∧ (reviewClaimForm digests context.graph context.state ref = .initial ∨
      reviewClaimForm digests context.graph context.state ref = .resume)) ∨
    (context.graph.isReview ref = false ∧ Dispatchable context [] ref) := by
  obtain ⟨_, _, dispatchable⟩ := Checked.bind_ok.mp dispatchable
  split at dispatchable
  · cases dispatchable
  split at dispatchable
  · cases dispatchable
  rename_i ready
  unfold remoteBlockDispatchReadiness at ready
  split at ready
  · cases ready
  rename_i block known
  have kindOf : context.graph.isReview ref = block.isReview := by
    unfold Graph.isReview
    rw [known]
    rfl
  split at ready
  · rename_i review
    refine .inl ⟨kindOf.trans review, ?_⟩
    split at ready
    · cases ready
    rename_i form
    cases found : reviewClaimForm digests context.graph context.state ref with
    | initial => exact .inl rfl
    | resume => exact .inr rfl
    | notClaimable reason => exact absurd found (form reason)
  · rename_i review
    split at ready
    · rename_i allowed
      exact .inr ⟨kindOf.trans (by simpa using review), canDispatchImplementationBlock_ok allowed⟩
    · cases ready

theorem remoteClaimedState_blocks (context : RuntimeContext) (kind : BlockKind) (current prepared : BlockState) (ref : String) :
    ∃ block, (remoteClaimedState digests context kind current prepared ref).blocks = (context.state.setBlock ref block).blocks ∧
      (block = prepared ∨ block = { prepared with pendingFeedbackId := none }) := by
  unfold remoteClaimedState
  split
  · refine ⟨{ prepared with pendingFeedbackId := none }, ?_, .inr rfl⟩
    unfold applyCurrentReviewResumeClaim
    simp only [block_setBlock_self, setBlock_setBlock]
  · exact ⟨prepared, rfl, .inl rfl⟩

theorem remoteClaimedState_feedback (context : RuntimeContext) (kind : BlockKind) (current prepared : BlockState)
    (ref : String) : (remoteClaimedState digests context kind current prepared ref).feedback = context.state.feedback := by
  unfold remoteClaimedState
  split <;> rfl

section
variable (invariant : SchemaInvariant context.graph context.state)
include invariant

theorem remoteClaimed_schema {claim : RemoteClaim} {current prepared : BlockState}
    (starts : claimedFrom (context.state.block claim.ref) claim.restoration = .ok current)
    (taken : prepareRemoteBlockOwnership (context.graph.kind claim.ref) current claim.ownership = .ok prepared)
    (dispatchable : current.remoteOwnership = none → assertRemoteBlockDispatchable digests
      { context with state := context.state.setBlock claim.ref current } claim.projectGuard claim.ref = .ok ()) :
    SchemaInvariant context.graph (remoteClaimedState digests
      { context with state := context.state.setBlock claim.ref current } (context.graph.kind claim.ref) current prepared
      claim.ref) := by
  obtain ⟨block, blocks, shape⟩ := @remoteClaimedState_blocks digests
    { context with state := context.state.setBlock claim.ref current } (context.graph.kind claim.ref) current prepared claim.ref
  have feedback := @remoteClaimedState_feedback digests
    { context with state := context.state.setBlock claim.ref current } (context.graph.kind claim.ref) current prepared claim.ref
  rw [setBlock_setBlock] at blocks
  have valid := invariant.valid claim.ref
  cases owned : current.remoteOwnership with
  | some =>
    have same := claimedFrom_owned starts (by simp [owned])
    obtain ⟨rfl, _, _⟩ := prepareRemoteBlockOwnership_owned taken owned
    have held : (context.state.block claim.ref).remoteOwnership.isSome = true := by rw [← same, owned]; rfl
    refine invariant.setOwned ?_ held blocks feedback
    rw [← same] at valid
    rcases shape with rfl | rfl
    · exact valid
    · exact ⟨valid.reservation, valid.ownership, valid.interruption, valid.receipt, valid.receiptRun⟩
  | none =>
    obtain ⟨unowned, reservation⟩ := claimedFrom_unowned valid starts owned taken
    obtain ⟨_, rfl⟩ := prepareRemoteBlockOwnership_free taken owned
    have waits : ¬ ActiveFeedback context.state claim.ref := by
      intro active
      rcases assertRemoteBlockDispatchable_ok (dispatchable owned) with ⟨_, initial | resume⟩ | ⟨implementation, _⟩
      · exact canClaimReviewBlock_answered (reviewClaimForm_initial initial).2.2 active
      · exact (reviewClaimForm_resume resume).2.2.2 active
      · have review := (invariant.sources claim.ref active).1
        rw [show context.graph.isReview claim.ref = false from implementation] at review
        cases review
    refine invariant.setBlock ?_ (fun active => absurd active waits) blocks feedback
    have fresh : ({ current with status := .inProgress, remoteOwnership := some (.preparing claim.ownership) } :
        BlockState).Valid := by
      refine ⟨reservation, fun _ => .inl rfl, ?_, ?_, ?_⟩
      · intro impossible
        rw [show (BlockState.remoteInterruption _) = _ from unowned.interruption] at impossible
        cases impossible
      · intro receipt impossible
        rw [show (BlockState.remoteOperationReceipt _) = _ from unowned.receipt] at impossible
        cases impossible
      · intro receipt run impossible
        rw [show (BlockState.remoteOperationReceipt _) = _ from unowned.receipt] at impossible
        cases impossible
    rcases shape with rfl | rfl
    · exact fresh
    · exact ⟨fresh.reservation, fresh.ownership, fresh.interruption, fresh.receipt, fresh.receiptRun⟩

theorem activated_schema {requested : RemoteIdentity} {block : BlockState}
    (taken : activateRemoteBlockOwnership (context.state.block ref) requested = .ok block) :
    SchemaInvariant context.graph (context.state.setBlock ref block) := by
  obtain ⟨_, owned, _, _, status, shape⟩ := activateRemoteBlockOwnership_ok taken
  have valid := invariant.valid ref
  have held : (context.state.block ref).remoteOwnership.isSome = true := by rw [owned]; rfl
  refine invariant.setOwned ?_ held rfl rfl
  rcases shape with rfl | rfl
  · exact valid
  refine owned_valid valid held rfl rfl rfl (.inl status) ?_
  intro interrupted
  have diverged := (valid.interruption interrupted).1
  rw [status] at diverged
  cases diverged
end

theorem SchemaInvariant.setActive (invariant : SchemaInvariant graph state)
    {block : BlockState}
    (owned : (state.block ref).remoteOwnership = some (.active current)) (valid : block.Valid)
    (blocks : edited.blocks = (state.setBlock ref block).blocks) (feedback : edited.feedback = state.feedback) :
    SchemaInvariant graph edited := by
  refine invariant.setOwned valid ?_ blocks feedback
  rw [owned]
  rfl

theorem active_isSome {block : BlockState}
    (owned : block.remoteOwnership = some (.active current)) : block.remoteOwnership.isSome = true := by
  rw [owned]
  rfl

theorem interrupted_valid {block stopped : BlockState} {interruption : RemoteInterruption}
    (valid : block.Valid)
    (ran : interruptRemoteBlockOwnership block ownership interruption reason runId = .ok stopped) : stopped.Valid := by
  obtain ⟨⟨_, owned⟩, _, _, rfl⟩ := interruptRemoteBlockOwnership_ok ran
  refine owned_valid valid (active_isSome owned) rfl rfl rfl (.inr rfl) ?_
  intro _
  refine ⟨rfl, ?_⟩
  rw [owned]
  rfl

theorem resumed_valid {block resumed : BlockState} (valid : block.Valid)
    (ran : resumeRemoteBlockOwnership block ownership = .ok resumed) : resumed.Valid := by
  obtain ⟨⟨_, owned⟩, _, rfl⟩ := resumeRemoteBlockOwnership_ok ran
  exact owned_valid valid (active_isSome owned) rfl rfl rfl (.inl rfl)
    (fun impossible => absurd impossible Bool.false_ne_true)

theorem retried_valid {block retried : BlockState} {dispatchId attemptId : OpaqueId}
    (valid : block.Valid) (ran : retryRemoteBlockOwnership block ownership dispatchId attemptId = .ok retried) :
    retried.Valid := by
  obtain ⟨⟨_, owned⟩, _, _, rfl⟩ := retryRemoteBlockOwnership_ok ran
  exact owned_valid valid (active_isSome owned) rfl rfl rfl (.inl rfl)
    (fun impossible => absurd impossible Bool.false_ne_true)

theorem failed_valid {block failed : BlockState}
    {failure : NormalizedFailure} (valid : block.Valid)
    (ran : failRemoteBlockOwnership kind block ownership failure reason runId = .ok failed) : failed.Valid := by
  obtain ⟨_, rfl⟩ := failRemoteBlockOwnership_ok ran
  refine receipt_valid rfl rfl rfl rfl ?_ valid.reservation
  intro run impossible
  cases impossible

theorem SchemaInvariant.updateFeedback (invariant : SchemaInvariant graph state)
    {changed : FeedbackEnvelope} (stored : state.feedback.get? feedbackId = some feedback)
    (active : feedback.isActive = true) (blocks : edited.blocks = state.blocks)
    (feedbacks : edited.feedback = state.feedback.set feedbackId changed)
    (same : changed.sourceReviewBlockRef = feedback.sourceReviewBlockRef) : SchemaInvariant graph edited := by
  obtain ⟨review, unowned⟩ := invariant.sources _ ⟨feedbackId, feedback, stored, active, rfl⟩
  refine invariant.setFeedback ?_ ?_ blocks feedbacks
  · rw [same]
    exact review
  · rw [same]
    exact unowned

theorem answered_schema {submissionId : String}
    (invariant : SchemaInvariant context.graph context.state)
    (stored : context.state.feedback.get? feedbackId = some feedback) (active : feedback.isActive = true) :
    SchemaInvariant context.graph (answeredState context.state feedbackId submissionId feedback) := by
  obtain ⟨_, unowned⟩ := invariant.sources _ ⟨feedbackId, feedback, stored, active, rfl⟩
  have changed : SchemaInvariant context.graph (context.state.setBlock feedback.sourceReviewBlockRef
      { context.state.block feedback.sourceReviewBlockRef with
        status := .inProgress
        activeFeedbackId := none
        pendingFeedbackId := some feedbackId }) := by
    refine invariant.setUnowned ?_ ?_ rfl rfl
    · exact ⟨unowned.ownership, unowned.interruption, unowned.receipt⟩
    · exact (invariant.valid feedback.sourceReviewBlockRef).reservation
  exact changed.updateFeedback stored active rfl rfl rfl

theorem resumeReview_schema (clear : Bool) (invariant : SchemaInvariant context.graph context.state) :
    SchemaInvariant context.graph (applyCurrentReviewResumeClaim context.state ref clear) := by
  have valid := invariant.valid ref
  refine @SchemaInvariant.setBlock { context.state.block ref with pendingFeedbackId := none } ref _ _ _ invariant ?_ ?_ rfl rfl
  · exact ⟨valid.reservation, valid.ownership, valid.interruption, valid.receipt, valid.receiptRun⟩
  · intro active
    obtain ⟨_, unowned⟩ := invariant.sources ref active
    exact ⟨unowned.ownership, unowned.interruption, unowned.receipt⟩

theorem released_schema (invariant : SchemaInvariant context.graph context.state) :
    SchemaInvariant context.graph (unblockedState context ref) :=
  @SchemaInvariant.setUnowned { withoutRemoteBlockOwnership (context.state.block ref)
    (claimableStatus context ref) with blockedReason := none } ref _ _ _ invariant ⟨rfl, rfl, rfl⟩ (invariant.valid ref).reservation rfl rfl

theorem resolvedBlock_schema (isReview : Bool) (invariant : SchemaInvariant context.graph context.state) :
    SchemaInvariant context.graph (context.state.setBlock ref (resolvedBlock context ref isReview)) := by
  have shape : SameRemote (clearRemoteBlockOperationState (context.state.block ref)) (resolvedBlock context ref isReview) := by
    cases isReview <;> exact ⟨rfl, rfl, rfl, rfl, rfl⟩
  refine invariant.setUnowned (shape.unowned ⟨rfl, rfl, rfl⟩) ?_ rfl rfl
  rw [shape.run, shape.attempt]
  exact (invariant.valid ref).reservation

theorem Edit.schema (edit : Edit digests context results operation edited)
    (invariant : SchemaInvariant context.graph context.state) (reconciled : Reconciled context.graph edited written)
    (loaded : Reconciled context.graph stored context.state)
    (clean : ∀ scope, operation = .resetMaxCycleReviews scope → ResetsClean context scope) :
    SchemaInvariant context.graph edited := by
  cases edit with
  | unchanged => exact invariant
  | idle => exact invariant.congr rfl rfl
  | @answer _ feedbackId feedback only =>
    have member : (feedbackId, feedback) ∈ activeOpenFeedback context.state := by
      rw [only]
      exact List.mem_singleton_self _
    obtain ⟨stored, active⟩ := mem_activeOpenFeedback.mp member
    exact invariant.updateFeedback stored active rfl rfl rfl
  | resumeReview clear => exact resumeReview_schema clear invariant
  | claimSequential _ _ ready =>
    exact invariant.claim (scopedReadyRefs_ready ready).status _ _ (claimRef_writes _ _ _ _).1 (claimRef_writes _ _ _ _).2
  | claimReview _ _ _ ready =>
    exact invariant.claim (scopedReadyRefs_ready ready).status _ _ (claimRef_writes _ _ _ _).1 (claimRef_writes _ _ _ _).2
  | claimBatch => exact claimBatch_schema invariant
  | dispatched dispatchable =>
    exact invariant.claim (canDispatchImplementationBlock_ok dispatchable).status .implementation _ rfl rfl
  | submitted _ _ _ _ from' completed => exact submitted_schema invariant from' completed
  | driftedSubmission reason _ owned =>
    exact invariant.setOwned (driftedBlock_valid (invariant.valid _) owned reason) owned rfl rfl
  | reviewed _ known review admitted decided released =>
    exact reviewed_schema invariant known review admitted decided released
  | feedbackAnswered _ current =>
    obtain ⟨pointed, stored⟩ := currentFeedback_ok current
    obtain ⟨_, same, active⟩ := loaded.current_active pointed
    rw [stored] at same
    cases same
    exact answered_schema invariant stored active
  | @blocked ref reason =>
    exact @SchemaInvariant.setUnowned { withoutRemoteBlockOwnership (context.state.block ref) .blocked
      with blockedReason := some (Text.trim reason) } ref _ _ _ invariant ⟨rfl, rfl, rfl⟩ (invariant.valid ref).reservation rfl rfl
  | diverged => exact divergedBlock_schema invariant
  | unblocked => exact released_schema invariant
  | released => exact (released_schema invariant).congr rfl rfl
  | resolved => exact resolvedBlock_schema _ invariant
  | reset scope => exact resetState_schema invariant reconciled (clean scope rfl)
  | remoteClaimed _ starts taken dispatchable => exact remoteClaimed_schema invariant starts taken dispatchable
  | drifted reason _ owned =>
    exact invariant.setOwned (driftedBlock_valid (invariant.valid _) owned reason) owned rfl rfl
  | activated taken => exact activated_schema invariant taken
  | interrupted stopped =>
    obtain ⟨⟨_, owned⟩, _⟩ := interruptRemoteBlockOwnership_ok stopped
    exact invariant.setActive owned (interrupted_valid (invariant.valid _) stopped) rfl rfl
  | resumed taken =>
    obtain ⟨⟨_, owned⟩, _⟩ := resumeRemoteBlockOwnership_ok taken
    exact invariant.setActive owned (resumed_valid (invariant.valid _) taken) rfl rfl
  | attemptRetried taken =>
    obtain ⟨⟨_, owned⟩, _⟩ := retryRemoteBlockOwnership_ok taken
    exact invariant.setActive owned (retried_valid (invariant.valid _) taken) rfl rfl
  | failed stopped =>
    obtain ⟨⟨_, owned⟩, _⟩ := failRemoteBlockOwnership_ok stopped
    exact invariant.setActive owned (failed_valid (invariant.valid _) stopped) rfl rfl
end
end PlanWeave
