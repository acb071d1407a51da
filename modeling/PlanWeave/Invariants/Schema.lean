import PlanWeave.Invariants.Guards
import PlanWeave.Invariants.EditedManifest

namespace PlanWeave
open List RuntimeState

/-- Every block passes its schema, and a review that waits for feedback carries no trace of a remote operation. -/
structure SchemaInvariant (graph : Graph) (state : RuntimeState) : Prop where
  valid : ∀ ref, (state.block ref).Valid
  sources : ∀ ref, ActiveFeedback state ref → graph.isReview ref = true ∧ (state.block ref).Unowned

variable {block : BlockState}

theorem BlockState.Valid.receipt_none (valid : block.Valid)
    (owned : block.remoteOwnership.isSome = true) : block.remoteOperationReceipt = none := by
  cases found : block.remoteOperationReceipt with
  | none => rfl
  | some receipt =>
    have same := valid.receipt receipt found
    rcases valid.ownership owned with status | status <;>
      rcases receipt.outcome.status_terminal with terminal | terminal <;>
      (rw [status, terminal] at same; cases same)

/-- Two blocks that differ in nothing that the schema looks at, except the status of an unowned block. -/
structure SameRemote (base block : BlockState) : Prop where
  ownership : block.remoteOwnership = base.remoteOwnership
  interruption : block.remoteInterruption = base.remoteInterruption
  receipt : block.remoteOperationReceipt = base.remoteOperationReceipt
  attempt : block.submissionAttemptId = base.submissionAttemptId
  run : block.submissionRunId = base.submissionRunId

theorem SameRemote.unowned {base : BlockState} (same : SameRemote base block) (unowned : base.Unowned) :
    block.Unowned :=
  ⟨same.ownership.trans unowned.ownership, same.interruption.trans unowned.interruption,
    same.receipt.trans unowned.receipt⟩

theorem SameRemote.valid {base : BlockState} (same : SameRemote base block) (unowned : base.Unowned)
    (valid : base.Valid) : block.Valid := by
  apply (same.unowned unowned).valid
  rw [same.run, same.attempt]
  exact valid.reservation

variable {ref : String}

namespace SchemaInvariant
variable {graph : Graph} {state edited written : RuntimeState}

section
variable (invariant : SchemaInvariant graph state)
include invariant

theorem congr (blocks : edited.blocks = state.blocks)
    (feedback : edited.feedback = state.feedback) : SchemaInvariant graph edited := by
  have block : ∀ ref, edited.block ref = state.block ref := by
    intro ref
    unfold RuntimeState.block
    rw [blocks]
  refine ⟨fun ref => block ref ▸ invariant.valid ref, ?_⟩
  intro ref active
  unfold ActiveFeedback at active
  rw [feedback] at active
  rw [block]
  exact invariant.sources ref active

theorem setBlock (valid : block.Valid)
    (unowned : ActiveFeedback state ref → block.Unowned)
    (blocks : edited.blocks = (state.setBlock ref block).blocks) (feedback : edited.feedback = state.feedback) :
    SchemaInvariant graph edited := by
  have changed : SchemaInvariant graph (state.setBlock ref block) := by
    refine ⟨blocks_setBlock invariant.valid valid, ?_⟩
    intro other active
    have source : ActiveFeedback state other := active
    refine ⟨(invariant.sources other source).1, ?_⟩
    rw [block_setBlock]
    split
    · rename_i same
      exact unowned (same ▸ source)
    · exact (invariant.sources other source).2
  exact changed.congr blocks feedback

theorem not_source (owned : (state.block ref).remoteOwnership.isSome = true) : ¬ ActiveFeedback state ref := by
  intro active
  rw [(invariant.sources ref active).2.ownership] at owned
  cases owned

theorem setOwned (valid : block.Valid)
    (owned : (state.block ref).remoteOwnership.isSome = true)
    (blocks : edited.blocks = (state.setBlock ref block).blocks) (feedback : edited.feedback = state.feedback) :
    SchemaInvariant graph edited :=
  invariant.setBlock valid (fun active => absurd active (invariant.not_source owned)) blocks feedback

theorem setUnowned (unowned : block.Unowned)
    (reservation : block.submissionRunId.isSome = true → block.submissionAttemptId.isSome = true)
    (blocks : edited.blocks = (state.setBlock ref block).blocks) (feedback : edited.feedback = state.feedback) :
    SchemaInvariant graph edited :=
  invariant.setBlock (unowned.valid reservation) (fun _ => unowned) blocks feedback

theorem setFeedback {feedbackId : String} {feedback : FeedbackEnvelope}
    (review : graph.isReview feedback.sourceReviewBlockRef = true)
    (unowned : (state.block feedback.sourceReviewBlockRef).Unowned) (blocks : edited.blocks = state.blocks)
    (feedbacks : edited.feedback = state.feedback.set feedbackId feedback) : SchemaInvariant graph edited := by
  have block : ∀ ref, edited.block ref = state.block ref := by
    intro ref
    unfold RuntimeState.block
    rw [blocks]
  refine ⟨fun ref => block ref ▸ invariant.valid ref, ?_⟩
  rintro ref ⟨id, envelope, found, active, source⟩
  rw [feedbacks, OrderedMap.get?_set] at found
  rw [block]
  split at found
  · cases found
    subst source
    exact ⟨review, unowned⟩
  · exact invariant.sources ref ⟨id, envelope, found, active, source⟩
end

theorem reconciled (invariant : SchemaInvariant graph edited) (reconciled : Reconciled graph edited written) :
    SchemaInvariant graph written := by
  have valid := reconciled.valid ((valid_iff_block edited).mpr invariant.valid)
  refine ⟨(valid_iff_block written).mp valid, ?_⟩
  rintro ref ⟨feedbackId, feedback, found, active, source⟩
  rw [reconciled.get?_feedback, Option.filter_eq_some_iff] at found
  obtain ⟨review, unowned⟩ := invariant.sources ref ⟨feedbackId, feedback, found.1, active, source⟩
  refine ⟨review, ?_⟩
  rcases reconciled.block_cases ref with ⟨_, settles⟩ | ⟨settles, _⟩
  · exact unowned.settles settles
  · exact blankBlock_unowned.settles settles

end SchemaInvariant

/-- No review that a reset of the scope touches carries the receipt of a remote operation. -/
def ResetsClean (context : RuntimeContext) (scope : ClaimScope) : Prop :=
  ∀ ref ∈ context.graph.blockRefsInManifestOrder.filter (resetsRef context scope),
    (context.state.block ref).remoteOperationReceipt = none

instance (context : RuntimeContext) (scope : ClaimScope) : Decidable (ResetsClean context scope) :=
  inferInstanceAs (Decidable (∀ _ ∈ _, _))

def ResetsCleanIn (world : World) (scope : ClaimScope) : Prop :=
  ∀ context, loadRuntimeContext world = .ok context → ResetsClean context scope

instance (world : World) (scope : ClaimScope) : Decidable (ResetsCleanIn world scope) :=
  match loaded : loadRuntimeContext world with
  | .error _ => isTrue (fun _ impossible => absurd (loaded.symm.trans impossible) (by simp))
  | .ok context => decidable_of_iff (ResetsClean context scope)
    ⟨fun clean _ same => (Except.ok.inj (loaded.symm.trans same)) ▸ clean, fun clean => clean context loaded⟩

def Operation.resets (world : World) : Operation → Option (World × ClaimScope)
  | .resetMaxCycleReviews scope => some (world, scope)
  | .retryReview ref cycles =>
    some ({ world with manifest := editMaxFeedbackCycles world.manifest ref cycles }, .block ref)
  | _ => none

def ResetsWithoutReceipt (world : World) (operation : Operation) : Prop :=
  ∀ reset ∈ operation.resets world, ResetsCleanIn reset.1 reset.2

instance (world : World) (operation : Operation) : Decidable (ResetsWithoutReceipt world operation) :=
  inferInstanceAs (Decidable (∀ _ ∈ _, _))

section
variable {context : RuntimeContext} {written : RuntimeState}

theorem resetRefs_block (context : RuntimeContext) (refs : List String) (state : RuntimeState) (ref : String) :
    (ref ∉ refs ∧ (refs.foldl (resetRef context) state).block ref = state.block ref) ∨
      (ref ∈ refs ∧ ∃ status, hasStartedBlock status = false ∧
        (refs.foldl (resetRef context) state).block ref = { withoutReviewOutcome (state.block ref) with
          status
          blockedReason := none }) := by
  induction refs generalizing state with
  | nil => exact .inl ⟨not_mem_nil, rfl⟩
  | cons first _ ih =>
    have idle : hasStartedBlock (claimableStatus { context with state } first) = false := by
      unfold claimableStatus
      split <;> rfl
    rw [foldl_cons]
    by_cases same : ref = first
    · subst same
      have step : (resetRef context state ref).block ref = { withoutReviewOutcome (state.block ref) with
          status := claimableStatus { context with state } ref
          blockedReason := none } := block_setBlock_self _ _ _
      refine .inr ⟨mem_cons_self, ?_⟩
      rcases ih (resetRef context state ref) with ⟨_, later⟩ | ⟨_, status, idleStatus, later⟩
      · exact ⟨_, idle, later.trans step⟩
      · refine ⟨status, idleStatus, ?_⟩
        rw [later, step]
        rfl
    · have step : (resetRef context state first).block ref = state.block ref :=
        block_setBlock_of_ne _ _ same
      rcases ih (resetRef context state first) with ⟨outside, later⟩ | ⟨inside, status, idleStatus, later⟩
      · exact .inl ⟨fun member => (mem_cons.mp member).elim same outside, later.trans step⟩
      · refine .inr ⟨mem_cons_of_mem _ inside, status, idleStatus, ?_⟩
        rw [later, step]

theorem resetRefs_feedback (context : RuntimeContext) (refs : List String) (state : RuntimeState) :
    (refs.foldl (resetRef context) state).feedback = state.feedback := by
  induction refs generalizing state with
  | nil => rfl
  | cons _ _ ih =>
    rw [foldl_cons, ih]
    rfl

theorem resetState_block (context : RuntimeContext) (refs : List String) (ref : String) :
    (resetState context refs).block ref = (refs.foldl (resetRef context) context.state).block ref := rfl

theorem resetState_get?_feedback (context : RuntimeContext) (refs : List String) (feedbackId : String) :
    (resetState context refs).feedback.get? feedbackId = (context.state.feedback.get? feedbackId).filter
      (fun feedback => feedback.sourceReviewBlockRef ∉ refs) := by
  unfold resetState
  rw [OrderedMap.get?_filter, resetRefs_feedback]

theorem resetState_active {refs : List String}
    (active : ActiveFeedback (resetState context refs) ref) : ActiveFeedback context.state ref ∧ ref ∉ refs := by
  obtain ⟨feedbackId, feedback, found, isActive, source⟩ := active
  rw [resetState_get?_feedback, Option.filter_eq_some_iff] at found
  exact ⟨⟨feedbackId, feedback, found.1, isActive, source⟩, source ▸ by simpa using found.2⟩

/-- A reset that reconciliation accepts keeps the schema when it resets no receipt. -/
theorem resetState_schema {refs : List String} (invariant : SchemaInvariant context.graph context.state)
    (reconciled : Reconciled context.graph (resetState context refs) written)
    (clean : ∀ ref ∈ refs, (context.state.block ref).remoteOperationReceipt = none) :
    SchemaInvariant context.graph (resetState context refs) := by
  refine ⟨?_, ?_⟩
  · intro ref
    rcases resetRefs_block context refs context.state ref with ⟨_, same⟩ | ⟨member, status, idle, same⟩
    · rw [resetState_block, same]
      exact invariant.valid ref
    have valid := invariant.valid ref
    have free : (context.state.block ref).remoteOwnership = none := by
      cases owned : (context.state.block ref).remoteOwnership with
      | none => rfl
      | some owner =>
        -- an owned block is never reset to an idle status: reconciliation refuses it
        have kept : ((resetState context refs).block ref).remoteOwnership = some owner := by
          rw [resetState_block, same]
          exact owned
        cases stored : (resetState context refs).blocks.get? ref with
        | none =>
          unfold RuntimeState.block at kept
          rw [stored] at kept
          cases kept
        | some block =>
          have found : (resetState context refs).block ref = block := by
            unfold RuntimeState.block
            rw [stored]
            rfl
          have refused := (reconciled.owned ref block stored (by rw [← found, kept]; rfl)).2
          rw [← found, resetState_block, same] at refused
          rcases refused with running | running <;> (simp only at running; rw [running] at idle; cases idle)
    have running : (context.state.block ref).remoteInterruption = none := by
      cases interrupted : (context.state.block ref).remoteInterruption with
      | none => rfl
      | some =>
        have active := (valid.interruption (by simp [interrupted])).2
        rw [free] at active
        cases active
    have unowned : (context.state.block ref).Unowned := ⟨free, running, clean ref member⟩
    rw [resetState_block, same]
    exact @SameRemote.valid _ (context.state.block ref) ⟨rfl, rfl, rfl, rfl, rfl⟩ unowned valid
  · intro ref active
    obtain ⟨source, outside⟩ := resetState_active active
    rcases resetRefs_block context refs context.state ref with ⟨_, same⟩ | ⟨member, _⟩
    · rw [resetState_block, same]
      exact invariant.sources ref source
    · exact absurd member outside
end
end PlanWeave
