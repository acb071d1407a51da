import PlanWeave.TaskManager.Effects

namespace PlanWeave
open Durable List Option ResultsOnly

section
variable {digests : Digests} {world : World} {context : RuntimeContext} {options : ClaimOptions} {results : Results}

def ClaimEffect.Edits (digests : Digests) (context : RuntimeContext) (results : Results) (options : ClaimOptions) :
    ClaimEffect → Prop
  | keep => True
  | refresh state => Edit digests context results (.claimNext options) state
  | answer _ _ state => Edit digests context results (.claimNext options) state

theorem parallelClaim_edits (parallel : options.parallel = true) (order : StartsWork digests context options) :
    (parallelClaim digests context options).1.Edits digests context results options := by
  unfold parallelClaim
  split
  · exact trivial
  simp only
  split
  · exact trivial
  split
  · rename_i selected
    split
    · rename_i ref found
      exact .claimReview parallel order selected (mem_of_find?_eq_some found) (find?_some found)
    split
    · exact trivial
    · rename_i retained
      split
      · exact trivial
      · exact .idle (by simpa using retained)
  · exact .claimBatch parallel order

theorem sequentialClaim_edits (sequential : options.parallel = false)
    (order : buildClaimOrder digests context options = .ok .ready) :
    (sequentialClaim digests context options).1.Edits digests context results options := by
  unfold sequentialClaim
  simp only
  split
  · rename_i ref found
    apply Edit.claimSequential sequential order
    rcases or_eq_some_iff.mp found with review | ⟨_, other⟩
    · exact mem_of_find?_eq_some review
    · exact mem_of_find?_eq_some other
  · split
    · exact trivial
    · exact .unchanged options

variable {feedbackId : String} {feedback : FeedbackEnvelope} {order : ClaimOrder}

def ClaimOrder.Decided (digests : Digests) (context : RuntimeContext) : ClaimOrder → Prop
  | .feedback feedbackId feedback _ _ => activeOpenFeedback context.state = [(feedbackId, feedback)]
  | .currentReview ref _ _ => reviewClaimForm digests context.graph context.state ref = .resume
  | _ => True

theorem feedbackOrder_decided (active : activeOpenFeedback context.state = [(feedbackId, feedback)])
    (built : feedbackOrder context options feedbackId feedback = .ok order) : order.Decided digests context := by
  unfold feedbackOrder at built
  simp only at built
  split at built
  · cases built
    exact trivial
  split at built
  · cases built
  · split at built
    · cases built
      exact trivial
    · cases built
      exact active

theorem currentBlockOrder_decided : (currentBlockOrder context options).Decided digests context := by
  unfold currentBlockOrder
  split
  · exact trivial
  split
  · exact trivial
  · split <;> exact trivial

theorem currentReviewOrder_decided (found : currentReviewOrder digests context options = some order) :
    order.Decided digests context := by
  unfold currentReviewOrder at found
  split at found
  · cases found
  simp only at found
  split at found
  · cases found
    exact trivial
  split at found
  · cases found
    exact trivial
  split at found
  · rename_i form
    split at found
    · cases found
      exact form
    split at found
    · cases found
      exact form
    · cases found
      exact form
  · cases found

theorem buildClaimOrder_decided (built : buildClaimOrder digests context options = .ok order) :
    order.Decided digests context := by
  unfold buildClaimOrder at built
  split at built
  · cases built
    exact trivial
  · rename_i active
    exact feedbackOrder_decided active built
  · cases built
    cases review : currentReviewOrder digests context options with
    | some => exact currentReviewOrder_decided review
    | none => exact currentBlockOrder_decided

theorem claimByOrder_edits (built : buildClaimOrder digests context options = .ok order) :
    (claimByOrder digests context options order).1.Edits digests context results options := by
  cases order with
  | blocked => exact trivial
  | feedback => exact .answer (buildClaimOrder_decided built)
  | currentReview _ clear => exact .resumeReview clear (buildClaimOrder_decided built)
  | currentBlock ref claim =>
    unfold claimByOrder
    simp only
    split
    · rename_i parallel
      exact parallelClaim_edits parallel (.inr ⟨ref, claim, built⟩)
    · exact trivial
  | ready =>
    unfold claimByOrder
    simp only
    split
    · rename_i parallel
      exact parallelClaim_edits parallel (.inl built)
    · rename_i sequential
      exact sequentialClaim_edits (by simpa using sequential) built

theorem ResultsOnly.patchFeedbackArtifact (taskId feedbackId : String) (status : FeedbackStatus)
    (latestSubmissionId : Option String) :
    ResultsOnly (patchFeedbackArtifact taskId feedbackId status latestSubmissionId) := by
  apply bind read
  intro world
  split
  · exact writeResults _
  · exact fail _

theorem applyClaim_leaves {store : World} (after : AfterLoad world context store) {effect : ClaimEffect × ClaimResult}
    (edits : effect.1.Edits digests context world.results options) :
    (applyClaim context effect).Keeps store (Leaves digests world (.claimNext options)) := by
  obtain ⟨effect, _⟩ := effect
  cases effect with
  | keep => exact keeps_pure _
  | refresh => exact after.refresh edits (fun _ => pure _)
  | answer =>
    apply after.quiet_bind (ResultsOnly.patchFeedbackArtifact _ _ _ _)
    intro _ patched _ afterPatch
    apply afterPatch.quiet_bind (ResultsOnly.updateTaskIndex _ _)
    intro _ indexed _ afterIndex
    exact afterIndex.refresh edits (fun _ => pure _)

theorem claimNext_leaves (options : ClaimOptions) :
    (claimNext digests options).Keeps world (Leaves digests world (.claimNext options)) := by
  unfold claimNext
  rw [keeps_loadRuntimeReadonly_bind]
  intro context loaded
  split
  · exact keeps_pure _
  rw [keeps_lift_bind]
  intro order built
  split
  · exact keeps_pure _
  rw [Durable.keeps_bind]
  have after : AfterLoad world context (world.withState context.state) := ⟨loaded, rfl, rfl⟩
  refine ⟨?_, ?_⟩
  · rw [keeps_when]
    intro _
    exact (keeps_write _).mpr after.leaves
  · intro _ reached wrote
    have same : world.withState context.state = reached := by
      rw [returns_when] at wrote
      split at wrote
      · exact (returns_write _).mp wrote
      · rename_i unchanged
        rw [← wrote]
        exact (loadRuntimeContext_ok loaded).written (by simpa using unchanged)
    subst same
    exact applyClaim_leaves after (claimByOrder_edits built)
end
end PlanWeave
