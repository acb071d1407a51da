import PlanWeave.TaskManager.RemoteEffects

namespace PlanWeave

theorem RuntimeState.valid_iff_block (state : RuntimeState) : state.Valid ↔ ∀ ref, (state.block ref).Valid := by
  constructor
  · intro valid ref
    unfold RuntimeState.block
    cases stored : state.blocks.get? ref with
    | some block => exact valid ref block stored
    | none => refine ⟨?_, ?_, ?_, ?_, ?_⟩ <;> intros <;> contradiction
  · intro valid ref block stored
    have found := valid ref
    unfold RuntimeState.block at found
    rw [stored] at found
    exact found

variable {block : BlockState}

theorem blocks_setBlock {state : RuntimeState} {property : BlockState → Prop} (all : ∀ ref, property (state.block ref))
    {ref : String} (changed : property block) (other : String) : property ((state.setBlock ref block).block other) := by
  rw [RuntimeState.block_setBlock]
  split
  · exact changed
  · exact all other

def blankBlock : BlockState := { status := .planned }

theorem keptBlock_cases (graph : Graph) (stored : RuntimeState) (ref : String) :
    keptBlock graph stored ref = stored.block ref ∨
      (keptBlock graph stored ref = blankBlock ∧ receiptDrifts graph ref (stored.block ref) = true) := by
  unfold keptBlock existingBlock RuntimeState.block
  cases found : stored.blocks.get? ref with
  | none => exact .inl rfl
  | some block =>
    simp only [Option.getD_some]
    cases drifts : receiptDrifts graph ref block with
    | true => exact .inr ⟨by simp [Option.filter, drifts, blankBlock], rfl⟩
    | false => exact .inl (by simp [Option.filter, drifts])

variable {graph : Graph} {stored written : RuntimeState} {base : BlockState}

theorem Reconciled.block_cases
    (reconciled : Reconciled graph stored written) (ref : String) :
    (ref ∈ graph.blockRefsInManifestOrder ∧ Settles (stored.block ref) (written.block ref)) ∨
      (Settles blankBlock (written.block ref) ∧
        (ref ∉ graph.blockRefsInManifestOrder ∨ receiptDrifts graph ref (stored.block ref) = true)) := by
  by_cases inside : ref ∈ graph.blockRefsInManifestOrder
  · obtain ⟨block, found, settles⟩ := reconciled.blocks ref inside
    have same : written.block ref = block := by
      unfold RuntimeState.block
      rw [found]
      rfl
    rw [same]
    rcases keptBlock_cases graph stored ref with kept | ⟨dropped, drifts⟩
    · exact .inl ⟨inside, kept ▸ settles⟩
    · exact .inr ⟨dropped ▸ settles, .inr drifts⟩
  · refine .inr ⟨?_, .inl inside⟩
    unfold RuntimeState.block
    rw [reconciled.absent ref inside]
    exact Settles.refl _

theorem Settles.keeps (settles : Settles base block) :
    block.remoteOwnership = base.remoteOwnership ∧ block.remoteInterruption = base.remoteInterruption ∧
      block.remoteOperationReceipt = base.remoteOperationReceipt ∧ block.activeFeedbackId = base.activeFeedbackId ∧
      block.completionReason = base.completionReason := by
  rw [settles.fields]
  exact ⟨rfl, rfl, rfl, rfl, rfl⟩

structure BlockState.Unowned (block : BlockState) : Prop where
  ownership : block.remoteOwnership = none
  interruption : block.remoteInterruption = none
  receipt : block.remoteOperationReceipt = none

theorem BlockState.Unowned.valid (unowned : block.Unowned)
    (reservation : block.submissionRunId.isSome = true → block.submissionAttemptId.isSome = true) : block.Valid := by
  refine ⟨reservation, ?_, ?_, ?_, ?_⟩
  · rw [unowned.ownership]
    exact fun impossible => absurd impossible (by decide)
  · rw [unowned.interruption]
    exact fun impossible => absurd impossible (by decide)
  · rw [unowned.receipt]
    exact fun _ impossible => absurd impossible (by simp)
  · rw [unowned.receipt]
    exact fun _ _ impossible => absurd impossible (by simp)

theorem ReceiptOutcome.status_terminal (outcome : ReceiptOutcome) : outcome.status = .completed ∨ outcome.status = .blocked := by
  cases outcome with
  | completed => exact .inl rfl
  | failed => exact .inr rfl

theorem BlockState.Valid.unowned (valid : block.Valid) (free : block.remoteOwnership = none)
    (completed : block.status ≠ .completed) (blocked : block.status ≠ .blocked) : block.Unowned := by
  refine ⟨free, ?_, ?_⟩
  · cases interrupted : block.remoteInterruption with
    | none => rfl
    | some =>
      have active := (valid.interruption (by simp [interrupted])).2
      rw [free] at active
      cases active
  · cases found : block.remoteOperationReceipt with
    | none => rfl
    | some receipt =>
      have status := valid.receipt receipt found
      rcases receipt.outcome.status_terminal with terminal | terminal
      · exact absurd (status ▸ terminal) completed
      · exact absurd (status ▸ terminal) blocked

theorem BlockState.Valid.unowned_of_idle (valid : block.Valid)
    (idle : hasStartedBlock block.status = false) : block.Unowned := by
  have free : block.remoteOwnership = none := by
    cases owned : block.remoteOwnership with
    | none => rfl
    | some =>
      rcases valid.ownership (by simp [owned]) with status | status <;> (rw [status] at idle; cases idle)
  apply valid.unowned free <;> (intro status; rw [status] at idle; cases idle)

theorem BlockState.Unowned.settles (unowned : base.Unowned) (settles : Settles base block) :
    block.Unowned := by
  obtain ⟨ownership, interruption, receipt, _⟩ := settles.keeps
  exact ⟨ownership.trans unowned.ownership, interruption.trans unowned.interruption, receipt.trans unowned.receipt⟩

theorem Settles.valid (settles : Settles base block) (valid : base.Valid) : block.Valid := by
  have fields := settles.fields
  rcases settles.status with same | ⟨idleBase, _⟩
  · rw [same] at fields
    exact fields.symm ▸ valid
  · apply ((valid.unowned_of_idle idleBase).settles settles).valid
    rw [fields]
    exact valid.reservation

theorem blankBlock_unowned : blankBlock.Unowned := ⟨rfl, rfl, rfl⟩

theorem blankBlock_valid : blankBlock.Valid := blankBlock_unowned.valid (fun impossible => absurd impossible (by decide))

theorem Reconciled.valid (reconciled : Reconciled graph stored written)
    (valid : stored.Valid) : written.Valid := by
  rw [RuntimeState.valid_iff_block] at valid ⊢
  intro ref
  rcases reconciled.block_cases ref with ⟨_, settles⟩ | ⟨settles, _⟩
  · exact settles.valid (valid ref)
  · exact settles.valid blankBlock_valid

theorem Reconciled.get?_feedback
    (reconciled : Reconciled graph stored written) (feedbackId : String) :
    written.feedback.get? feedbackId = (stored.feedback.get? feedbackId).filter
      (fun feedback => feedback.sourceReviewBlockRef ∈ graph.blockRefsInManifestOrder) := by
  rw [reconciled.feedback]
  unfold prunedState
  rw [OrderedMap.get?_filter]

theorem Loaded.reconciled {world : World} {context : RuntimeContext} (loaded : Loaded world context)
    (sound : context.graph.Sound) : Reconciled context.graph world.state context.state :=
  ensureStateForGraph_spec sound loaded.ensured

end PlanWeave
