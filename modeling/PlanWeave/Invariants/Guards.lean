import PlanWeave.Invariants.Blocks

namespace PlanWeave
open List Option

def ActiveFeedback (state : RuntimeState) (ref : String) : Prop :=
  ∃ feedbackId feedback, state.feedback.get? feedbackId = some feedback ∧ feedback.isActive = true ∧
    feedback.sourceReviewBlockRef = ref

variable {feedbackId ref : String} {state : RuntimeState} {context : RuntimeContext} {digests : Digests}
variable {options : ClaimOptions} {graph : Graph}
variable {feedback : FeedbackEnvelope}

theorem mem_activeOpenFeedback : (feedbackId, feedback) ∈ activeOpenFeedback state ↔
      state.feedback.get? feedbackId = some feedback ∧ feedback.isActive = true := by
  unfold activeOpenFeedback
  rw [mem_filter, OrderedMap.get?_eq_some_iff]

theorem activeOpenFeedback_nil (none : activeOpenFeedback state = []) (ref : String) : ¬ ActiveFeedback state ref := by
  rintro ⟨_, _, found, active, _⟩
  have member := mem_activeOpenFeedback.mpr ⟨found, active⟩
  rw [none] at member
  cases member

theorem openFeedbackForReview_none_iff : openFeedbackForReview state ref = none ↔ ¬ ActiveFeedback state ref := by
  unfold openFeedbackForReview ActiveFeedback
  simp only [find?_eq_none, Bool.and_eq_true, decide_eq_true_eq, not_and, OrderedMap.get?_eq_some_iff, not_exists]
  constructor
  · intro none feedbackId feedback member active source
    exact none (feedbackId, feedback) member source active
  · intro none entry member source active
    exact none entry.1 entry.2 member active source

structure ReadyToClaim (digests : Digests) (context : RuntimeContext) (ref : String) : Prop where
  listed : ref ∈ context.graph.blockRefsInManifestOrder
  status : context.state.status ref = .ready
  taskReady : taskDependenciesSatisfied context.graph context.state (context.graph.taskOfRef ref) = true
  reviewable : context.graph.isReview ref = true → canClaimReviewBlock digests context.graph context.state ref = true
  blockReady : context.graph.isReview ref = false → blockDependenciesCompleted context.graph context.state ref = true

theorem readyToClaim_of_ready (listed : ref ∈ context.graph.blockRefsInManifestOrder)
    (ready : blockReadyWithoutProjectBlockers digests context.graph context.state ref = true) :
    ReadyToClaim digests context ref := by
  unfold blockReadyWithoutProjectBlockers at ready
  simp only [Bool.and_eq_true, decide_eq_true_eq] at ready
  obtain ⟨⟨status, task⟩, rest⟩ := ready
  refine ⟨listed, status, task, ?_, ?_⟩
  · intro review
    rwa [if_pos review] at rest
  · intro review
    rwa [if_neg (by simp [review])] at rest

theorem scopedReadyRefs_ready
    (member : ref ∈ scopedReadyRefs digests context options) : ReadyToClaim digests context ref := by
  unfold scopedReadyRefs at member
  simp only [mem_filter, Bool.and_eq_true] at member
  exact readyToClaim_of_ready member.1 member.2.1.2

structure Dispatchable (context : RuntimeContext) (selected : List String) (ref : String) : Prop where
  owned : ∃ taskId, context.graph.blockTaskByRef.get? ref = some taskId
  implementation : context.graph.isImplementation ref = true
  status : context.state.status ref = .ready
  taskReady : taskDependenciesSatisfied context.graph context.state (context.graph.taskOfRef ref) = true
  blockReady : blockDependenciesCompleted context.graph context.state ref = true
  clear : ∀ current ∈ context.state.currentRefs, context.state.status current = .inProgress →
    refsConflict context.graph ref current = false
  apart : ∀ other ∈ selected, refsConflict context.graph ref other = false

theorem canDispatchImplementationBlock_ok {maxConcurrent : Nat} {selected : List String}
    (allowed : canDispatchImplementationBlock context.graph context.state maxConcurrent selected ref = true) :
    Dispatchable context selected ref := by
  unfold canDispatchImplementationBlock at allowed
  split at allowed
  · cases allowed
  rename_i taskId found
  have task : context.graph.taskOfRef ref = taskId := by
    unfold Graph.taskOfRef
    rw [found]
    rfl
  simp only [Bool.and_eq_true, decide_eq_true_eq, Bool.not_eq_true', List.any_eq_false, not_and,
    Bool.not_eq_true] at allowed
  obtain ⟨⟨⟨⟨⟨⟨implementation, status⟩, taskReady⟩, blockReady⟩, _⟩, clear⟩, apart⟩ := allowed
  exact ⟨⟨taskId, found⟩, implementation, status, task ▸ taskReady, blockReady, clear, apart⟩

theorem isReview_of_implementation (implementation : graph.isImplementation ref = true) :
    graph.isReview ref = false := by
  unfold Graph.isImplementation at implementation
  unfold Graph.isReview
  cases found : graph.blocksByRef.get? ref with
  | none => rfl
  | some => simpa [found, ManifestBlock.isImplementation] using implementation

structure Reviewable (graph : Graph) (state : RuntimeState) (ref : String) : Prop where
  required : graph.isRequiredReview ref = true
  quiet : ∀ other, ActiveFeedback state other → graph.blockTaskByRef.get? other ≠ graph.blockTaskByRef.get? ref
  implemented : ∀ other, graph.isImplementation other = true → other ∈ neighbors graph.blocksByTask (graph.taskOfRef ref) →
    state.status other = .completed

section
variable (allowed : canClaimReviewBlock digests graph state ref = true)
include allowed

theorem canClaimReviewBlock_ok : Reviewable graph state ref := by
  unfold canClaimReviewBlock at allowed
  split at allowed
  · cases allowed
  rename_i taskId found
  have task : graph.taskOfRef ref = taskId := by
    unfold Graph.taskOfRef
    rw [found]
    rfl
  simp only [Bool.and_eq_true, Bool.not_eq_true', List.any_eq_false, decide_eq_true_eq, List.all_eq_true,
    requiredImplementationRefs, List.mem_filter] at allowed
  obtain ⟨⟨⟨required, quiet⟩, implemented⟩, _⟩ := allowed
  refine ⟨required, ?_, ?_⟩
  · rintro _ ⟨feedbackId, feedback, stored, active, source⟩ same
    apply quiet (feedbackId, feedback) (mem_activeOpenFeedback.mpr ⟨stored, active⟩)
    rw [source, same, found]
  · intro other implementation member
    exact implemented other ⟨task ▸ member, implementation⟩

theorem canClaimReviewBlock_answered : ¬ ActiveFeedback state ref :=
  fun active => (canClaimReviewBlock_ok allowed).quiet ref active rfl
end

theorem reviewClaimForm_initial (form : reviewClaimForm digests graph state ref = .initial) :
    graph.isReview ref = true ∧ state.status ref = .ready ∧ canClaimReviewBlock digests graph state ref = true := by
  unfold reviewClaimForm at form
  split at form
  · cases form
  rename_i review
  split at form
  · rename_i status
    split at form
    · rename_i claimable
      exact ⟨by simpa using review, status, claimable⟩
    · cases form
  · split at form
    · split at form
      · cases form
      · split at form <;> cases form
    · cases form

theorem reviewClaimForm_resume (form : reviewClaimForm digests graph state ref = .resume) :
    graph.isReview ref = true ∧ state.status ref = .inProgress ∧ (state.block ref).remoteOwnership = none ∧
      ¬ ActiveFeedback state ref := by
  unfold reviewClaimForm at form
  split at form
  · cases form
  rename_i review
  split at form
  · split at form <;> cases form
  split at form
  · rename_i status
    split at form
    · cases form
    rename_i free
    split at form
    · cases form
    · rename_i answered
      exact ⟨by simpa using review, status, by simpa using free,
        openFeedbackForReview_none_iff.mp (by simpa using answered)⟩
  · cases form

theorem claimedBlockState_twice (block : BlockState) (kind : BlockKind) (attempt : AttemptId) :
    claimedBlockState (claimedBlockState block kind attempt) kind attempt = claimedBlockState block kind attempt := by
  cases kind <;> rfl

theorem claimBatchRefs_block (graph : Graph) (options : ClaimOptions) (refs : List String) (state : RuntimeState)
    (ref : String) :
    (refs.foldl (claimBatchRef graph options) state).block ref =
      if ref ∈ refs then claimedBlockState (state.block ref) (graph.kind ref) (options.attempts ref)
      else state.block ref := by
  induction refs generalizing state with
  | nil => simp
  | cons first _ ih =>
    rw [foldl_cons, ih]
    have step : (claimBatchRef graph options state first).block ref =
        if ref = first then claimedBlockState (state.block ref) (graph.kind ref) (options.attempts ref)
        else state.block ref := by
      show (state.setBlock first _).block ref = _
      rw [RuntimeState.block_setBlock]
      split
      · rename_i same
        rw [same]
      · rfl
    rw [step]
    by_cases same : ref = first
    · subst same
      simp only [if_true, mem_cons, true_or, claimedBlockState_twice, ite_self]
    · simp only [mem_cons, same, false_or, if_false]

theorem claimBatchRefs_feedback (graph : Graph) (options : ClaimOptions) (refs : List String) (state : RuntimeState) :
    (refs.foldl (claimBatchRef graph options) state).feedback = state.feedback := by
  induction refs generalizing state with
  | nil => rfl
  | cons _ _ ih =>
    rw [foldl_cons, ih]
    rfl

theorem mem_selectRefs {retained : List String} {refs selected : List String}
    (member : ref ∈ refs.foldl (selectRef context options retained) selected) :
    ref ∈ selected ∨ (ref ∈ refs ∧ ∃ earlier, Dispatchable context earlier ref) := by
  induction refs generalizing selected with
  | nil => exact .inl member
  | cons _ _ ih =>
    rw [foldl_cons] at member
    rcases ih member with early | ⟨later, dispatchable⟩
    · unfold selectRef at early
      split at early
      · rename_i chosen
        rcases mem_append.mp early with before | new
        · exact .inl before
        · rw [mem_singleton] at new
          subst new
          simp only [Bool.and_eq_true] at chosen
          exact .inr ⟨mem_cons_self, selected, canDispatchImplementationBlock_ok chosen.2⟩
      · exact .inl early
    · exact .inr ⟨mem_cons_of_mem _ later, dispatchable⟩

section
variable (member : ref ∈ selectedParallelBatchRefs digests context options)
include member

theorem mem_selectedParallelBatchRefs :
    ref ∈ context.graph.blockRefsInManifestOrder ∧ ((∃ earlier, Dispatchable context earlier ref) ∨
      (context.graph.isReview ref = true ∧ ReadyToClaim digests context ref)) := by
  have implementations : ∀ other, other ∈ context.graph.blockRefsInManifestOrder.foldl
      (selectRef context options (inProgressBlockRefs context.graph context.state)) [] →
      other ∈ context.graph.blockRefsInManifestOrder ∧ ((∃ earlier, Dispatchable context earlier other) ∨
        (context.graph.isReview other = true ∧ ReadyToClaim digests context other)) := by
    intro other inside
    rcases mem_selectRefs inside with impossible | ⟨listed, dispatchable⟩
    · cases impossible
    · exact ⟨listed, .inl dispatchable⟩
  unfold selectedParallelBatchRefs at member
  simp only at member
  split at member
  · exact implementations ref member
  split at member
  · rename_i reviewRef found
    rcases mem_append.mp member with early | new
    · exact implementations ref early
    rw [mem_singleton] at new
    subst new
    have listed := mem_of_find?_eq_some found
    have chosen := find?_some found
    simp only [Bool.and_eq_true] at chosen
    exact ⟨listed, .inr ⟨chosen.1.1.1.1.1, readyToClaim_of_ready listed chosen.1.1.1.2⟩⟩
  · exact implementations ref member

theorem selectedParallelBatchRefs_ready : context.state.status ref = .ready := by
  rcases (mem_selectedParallelBatchRefs member).2 with ⟨_, dispatchable⟩ | ⟨_, ready⟩
  · exact dispatchable.status
  · exact ready.status
end

theorem currentFeedback_ok (current : currentFeedback state = .ok (feedbackId, feedback)) :
    state.currentFeedbackId = some feedbackId ∧ state.feedback.get? feedbackId = some feedback := by
  unfold currentFeedback at current
  split at current
  · rename_i found
    simp only [Except.ok.injEq] at current
    subst current
    obtain ⟨_, pointed, mapped⟩ := bind_eq_some_iff.mp found
    obtain ⟨_, stored, same⟩ := map_eq_some_iff.mp mapped
    cases same
    exact ⟨pointed, stored⟩
  · cases current

theorem Reconciled.current_active {stored written : RuntimeState} (reconciled : Reconciled graph stored written)
    (current : written.currentFeedbackId = some feedbackId) :
    ∃ feedback, written.feedback.get? feedbackId = some feedback ∧ feedback.isActive = true := by
  rw [reconciled.currentFeedbackId] at current
  obtain ⟨_, active⟩ := filter_eq_some_iff.mp current
  rw [reconciled.feedback]
  unfold prunedState
  revert active
  cases OrderedMap.get? _ feedbackId with
  | none => intro impossible; cases impossible
  | some feedback => exact fun active => ⟨feedback, rfl, by simpa using active⟩

end PlanWeave
