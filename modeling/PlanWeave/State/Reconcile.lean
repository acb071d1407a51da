import PlanWeave.State.Ensure
import PlanWeave.Graph.Sound

namespace PlanWeave
open List RuntimeState

/-- Derivation moves a block between `planned` and `ready` and changes nothing else of it. -/
structure Settles (base block : BlockState) : Prop where
  fields : block = { base with status := block.status }
  status : block.status = base.status ∨
    (hasStartedBlock base.status = false ∧ hasStartedBlock block.status = false)

theorem Settles.refl (block : BlockState) : Settles block block := ⟨rfl, .inl rfl⟩

theorem Settles.trans {first second third : BlockState} (left : Settles first second) (right : Settles second third) :
    Settles first third := by
  refine ⟨by rw [right.fields, left.fields], ?_⟩
  rcases right.status with same | ⟨idle, still⟩
  · rw [same]
    exact left.status
  · exact .inr ⟨left.status.elim (fun same => same ▸ idle) And.left, still⟩

theorem Settles.started {base block : BlockState} (settles : Settles base block)
    (started : hasStartedBlock base.status = true ∨ hasStartedBlock block.status = true) : block = base := by
  have fields := settles.fields
  rcases settles.status with same | ⟨idleBase, idleBlock⟩
  · rwa [same] at fields
  · rw [idleBase, idleBlock] at started
    exact absurd started (by decide)

structure TaskDone (graph : Graph) (state : RuntimeState) (taskId : String) : Prop where
  settled : ∀ ref ∈ neighbors graph.blocksByTask taskId, state.status ref ≠ .inProgress
  answered : openFeedback graph state taskId = []
  implementations : ∀ ref ∈ neighbors graph.blocksByTask taskId, graph.isImplementation ref = true →
    state.status ref = .completed
  reviews : ∀ ref ∈ neighbors graph.blocksByTask taskId, graph.isRequiredReview ref = true →
    (state.block ref).completionReason = some .passed

/-- Stored `ready` and `implemented` marks say what they stand for. -/
structure Consistent (graph : Graph) (state : RuntimeState) : Prop where
  ready : ∀ ref, state.status ref = .ready →
    taskDependenciesSatisfied graph state (graph.taskOfRef ref) = true ∧ blockDependenciesCompleted graph state ref = true
  implemented : ∀ taskId, state.taskStatus taskId = .implemented →
    taskDependenciesSatisfied graph state taskId = true ∧ TaskDone graph state taskId

variable {graph : Graph} {taskId ref : String}
variable {state earlier : RuntimeState}

theorem taskDependenciesSatisfied_iff : taskDependenciesSatisfied graph state taskId = true ↔
      ∀ dependency ∈ neighbors graph.taskDependenciesByTask taskId, state.taskStatus dependency = .implemented := by
  simp [taskDependenciesSatisfied]

theorem blockDependenciesCompleted_iff : blockDependenciesCompleted graph state ref = true ↔
      ∀ dependency ∈ neighbors graph.blockDependenciesByRef ref, state.status dependency = .completed := by
  simp [blockDependenciesCompleted]

theorem aggregate_implemented_iff : (aggregateTaskStatus graph state taskId).status = .implemented ↔
      taskDependenciesSatisfied graph state taskId = true ∧ TaskDone graph state taskId := by
  unfold aggregateTaskStatus
  cases satisfied : taskDependenciesSatisfied graph state taskId with
  | false => simp
  | true =>
    by_cases running : ((neighbors graph.blocksByTask taskId).any (fun ref => state.status ref = .inProgress) ||
        decide (0 < (openFeedback graph state taskId).length)) = true
    · simp only [Bool.not_true, Bool.false_eq_true, if_false, running, if_true, reduceCtorEq, true_and, false_iff]
      intro done
      rw [Bool.or_eq_true, any_eq_true] at running
      rcases running with ⟨ref, member, status⟩ | waiting
      · exact done.settled ref member (by simpa using status)
      · rw [done.answered] at waiting
        simp at waiting
    · simp only [Bool.not_true, Bool.false_eq_true, if_false, running, true_and]
      simp only [Bool.or_eq_true, any_eq_true, decide_eq_true_eq, length_pos_iff, not_or, not_exists,
        not_and, not_not] at running
      by_cases finished : ((List.filter graph.isImplementation (neighbors graph.blocksByTask taskId)).all
          (fun ref => state.status ref = .completed) &&
        (List.filter graph.isRequiredReview (neighbors graph.blocksByTask taskId)).all
          (fun ref => (state.block ref).completionReason = some .passed)) = true
      · rw [if_pos finished]
        simp only [Bool.and_eq_true, all_eq_true, mem_filter, decide_eq_true_eq, and_imp] at finished
        exact ⟨fun _ => ⟨running.1, running.2, finished.1, finished.2⟩, fun _ => rfl⟩
      · rw [if_neg finished]
        simp only [Bool.and_eq_true, all_eq_true, mem_filter, decide_eq_true_eq, and_imp] at finished
        have open' : ¬ TaskDone graph state taskId := fun done => finished ⟨done.implementations, done.reviews⟩
        split <;> simp [open']

/-- How a state changes while its marks are derived: blocks go from `planned` to `ready`, and an
implemented task stays implemented. -/
structure Advances (earlier later : RuntimeState) : Prop where
  currentRefs : later.currentRefs = earlier.currentRefs
  currentFeedbackId : later.currentFeedbackId = earlier.currentFeedbackId
  currentReviewBlockRef : later.currentReviewBlockRef = earlier.currentReviewBlockRef
  feedback : later.feedback = earlier.feedback
  blocks : ∀ ref, later.blocks.get? ref = earlier.blocks.get? ref ∨
    ∃ block, earlier.blocks.get? ref = some block ∧ block.status = .planned ∧
      later.blocks.get? ref = some { block with status := .ready }
  tasks : ∀ taskId, earlier.taskStatus taskId = .implemented → later.taskStatus taskId = .implemented

theorem Advances.refl (state : RuntimeState) : Advances state state :=
  ⟨rfl, rfl, rfl, rfl, fun _ => .inl rfl, fun _ implemented => implemented⟩

theorem Advances.trans {first second third : RuntimeState} (left : Advances first second)
    (right : Advances second third) : Advances first third := by
  refine ⟨right.currentRefs.trans left.currentRefs, right.currentFeedbackId.trans left.currentFeedbackId,
    right.currentReviewBlockRef.trans left.currentReviewBlockRef, right.feedback.trans left.feedback, ?_,
    fun taskId implemented => right.tasks taskId (left.tasks taskId implemented)⟩
  intro ref
  rcases right.blocks ref with same | ⟨block, found, planned, promoted⟩
  · rcases left.blocks ref with same' | ⟨block, found, planned, promoted⟩
    · exact .inl (same.trans same')
    · exact .inr ⟨block, found, planned, same.trans promoted⟩
  · rcases left.blocks ref with same' | ⟨_, _, _, promoted'⟩
    · exact .inr ⟨block, same'.symm.trans found, planned, promoted⟩
    · rw [promoted'] at found
      cases found
      cases planned

variable {later : RuntimeState} {order : List String}

section
variable (advances : Advances earlier later)
include advances

theorem Advances.block (ref : String) :
    later.block ref = earlier.block ref ∨
      (earlier.status ref = .planned ∧ later.block ref = { earlier.block ref with status := .ready }) := by
  unfold RuntimeState.status RuntimeState.block
  rcases advances.blocks ref with same | ⟨_, found, planned, promoted⟩
  · exact .inl (by rw [same])
  · refine .inr ?_
    rw [found, promoted]
    exact ⟨planned, rfl⟩

theorem Advances.status
    {status : BlockStatus} (other : status ≠ .planned) (same : earlier.status ref = status) : later.status ref = status := by
  rcases advances.block ref with unchanged | ⟨planned, _⟩
  · unfold RuntimeState.status at same ⊢
    rw [unchanged, same]
  · exact absurd (same.symm.trans planned) other

theorem Advances.satisfied
    (satisfied : taskDependenciesSatisfied graph earlier taskId = true) :
    taskDependenciesSatisfied graph later taskId = true := by
  rw [taskDependenciesSatisfied_iff] at satisfied ⊢
  exact fun dependency member => advances.tasks dependency (satisfied dependency member)

theorem Advances.completed
    (completed : blockDependenciesCompleted graph earlier ref = true) :
    blockDependenciesCompleted graph later ref = true := by
  rw [blockDependenciesCompleted_iff] at completed ⊢
  exact fun dependency member => advances.status (by decide) (completed dependency member)
end

theorem openFeedback_congr {left right : RuntimeState} (same : left.feedback = right.feedback)
    (taskId : String) : openFeedback graph left taskId = openFeedback graph right taskId := by
  unfold openFeedback
  rw [same]

theorem Advances.done (advances : Advances earlier later)
    (done : TaskDone graph earlier taskId) : TaskDone graph later taskId := by
  refine ⟨?_, (openFeedback_congr advances.feedback taskId).trans done.answered, ?_, ?_⟩
  · intro ref member running
    rcases advances.block ref with unchanged | ⟨_, promoted⟩
    · unfold RuntimeState.status at running
      rw [unchanged] at running
      exact done.settled ref member running
    · unfold RuntimeState.status at running
      rw [promoted] at running
      cases running
  · exact fun ref member implementation => advances.status (by decide) (done.implementations ref member implementation)
  · intro ref member required
    have passed := done.reviews ref member required
    rcases advances.block ref with unchanged | ⟨_, promoted⟩
    · rw [unchanged, passed]
    · rw [promoted]
      exact passed

theorem Advances.consistent (advances : Advances earlier later)
    (consistent : Consistent graph earlier) (ready : ∀ ref, earlier.status ref ≠ .ready → later.status ref = .ready →
      taskDependenciesSatisfied graph later (graph.taskOfRef ref) = true ∧ blockDependenciesCompleted graph later ref = true)
    (implemented : ∀ taskId, earlier.taskStatus taskId ≠ .implemented → later.taskStatus taskId = .implemented →
      taskDependenciesSatisfied graph later taskId = true ∧ TaskDone graph later taskId) : Consistent graph later := by
  constructor
  · intro ref status
    by_cases before : earlier.status ref = .ready
    · obtain ⟨satisfied, completed⟩ := consistent.ready ref before
      exact ⟨advances.satisfied satisfied, advances.completed completed⟩
    · exact ready ref before status
  · intro taskId status
    by_cases before : earlier.taskStatus taskId = .implemented
    · obtain ⟨satisfied, done⟩ := consistent.implemented taskId before
      exact ⟨advances.satisfied satisfied, advances.done done⟩
    · exact implemented taskId before status

theorem taskStatus_aggregateTask (graph : Graph) (state : RuntimeState) (taskId other : String) :
    (aggregateTask graph state taskId).taskStatus other =
      if other = taskId then (aggregateTaskStatus graph state taskId).status else state.taskStatus other := by
  unfold aggregateTask taskStatus
  rw [OrderedMap.get?_set]
  split <;> rfl

section
variable (consistent : Consistent graph state)
include consistent

theorem aggregateTask_advances (taskId : String) : Advances state (aggregateTask graph state taskId) := by
  refine ⟨rfl, rfl, rfl, rfl, fun _ => .inl rfl, ?_⟩
  intro other implemented
  rw [taskStatus_aggregateTask]
  by_cases same : other = taskId
  · rw [if_pos same, aggregate_implemented_iff, ← same]
    exact consistent.implemented other implemented
  · rw [if_neg same]
    exact implemented

theorem aggregateTask_consistent (taskId : String) : Consistent graph (aggregateTask graph state taskId) := by
  have advances := aggregateTask_advances consistent taskId
  apply advances.consistent consistent
  · exact fun ref before after => absurd after before
  intro other before after
  rw [taskStatus_aggregateTask] at after
  split at after
  · rename_i same
    obtain ⟨satisfied, done⟩ := aggregate_implemented_iff.mp after
    rw [same]
    exact ⟨advances.satisfied satisfied, advances.done done⟩
  · exact absurd after before

theorem aggregateTasks_spec (order : List String) : Advances state (order.foldl (aggregateTask graph) state) ∧
      Consistent graph (order.foldl (aggregateTask graph) state) := by
  induction order generalizing state with
  | nil => exact ⟨Advances.refl state, consistent⟩
  | cons taskId _ ih =>
    obtain ⟨advances, result⟩ := ih (aggregateTask_consistent consistent taskId)
    exact ⟨(aggregateTask_advances consistent taskId).trans advances, result⟩
end

theorem promoteBlock_cases (graph : Graph) (taskId : String) (state : RuntimeState × Bool) (ref : String) :
    promoteBlock graph taskId state ref = state ∨
      (state.1.status ref = .planned ∧ blockDependenciesCompleted graph state.1 ref = true ∧
        promoteBlock graph taskId state ref = (state.1.setBlock ref { state.1.block ref with status := .ready }, true)) := by
  unfold promoteBlock
  split
  · rename_i promoted
    simp only [Bool.and_eq_true, decide_eq_true_eq] at promoted
    exact .inr ⟨promoted.1.1, promoted.1.2, rfl⟩
  · exact .inl rfl

theorem setReady_advances {block : BlockState}
    (stored : state.blocks.get? ref = some block) (planned : block.status = .planned) :
    Advances state (state.setBlock ref { block with status := .ready }) := by
  refine ⟨rfl, rfl, rfl, rfl, ?_, fun _ implemented => implemented⟩
  intro other
  unfold setBlock
  rw [OrderedMap.get?_set]
  split
  · rename_i same
    subst same
    exact .inr ⟨block, stored, planned, rfl⟩
  · exact .inl rfl

/-- Every block of the graph has an entry, and the marks are sound. -/
structure Placed (graph : Graph) (state : RuntimeState) : Prop where
  consistent : Consistent graph state
  stored : ∀ ref ∈ graph.blockRefsInManifestOrder, ∃ block, state.blocks.get? ref = some block

structure Promoting (graph : Graph) (taskId : String) (state : RuntimeState) : Prop extends Placed graph state where
  satisfied : taskDependenciesSatisfied graph state taskId = true

theorem Advances.stored (advances : Advances earlier later)
    (stored : ∃ block, earlier.blocks.get? ref = some block) : ∃ block, later.blocks.get? ref = some block := by
  obtain ⟨block, found⟩ := stored
  rcases advances.blocks ref with same | ⟨_, _, _, after⟩
  · exact ⟨block, same.trans found⟩
  · exact ⟨_, after⟩

theorem promoteBlock_step (filed : graph.Filed) {state : RuntimeState × Bool}
    (promoting : Promoting graph taskId state.1) (member : ref ∈ neighbors graph.blocksByTask taskId) :
    Advances state.1 (promoteBlock graph taskId state ref).1 ∧
      Promoting graph taskId (promoteBlock graph taskId state ref).1 := by
  have owned := (filed.taskRefs ref taskId).mpr member
  have owner : graph.taskOfRef ref = taskId := by
    unfold Graph.taskOfRef
    rw [owned]
    rfl
  rcases promoteBlock_cases graph taskId state ref with same | ⟨planned, completed, promoted⟩
  · rw [same]
    exact ⟨Advances.refl state.1, promoting⟩
  obtain ⟨block, stored⟩ := promoting.stored ref ((filed.owned ref).mpr ⟨taskId, owned⟩)
  have read : state.1.block ref = block := by
    unfold RuntimeState.block
    rw [stored]
    rfl
  have planned' : block.status = .planned := read ▸ planned
  have advances := setReady_advances stored planned'
  rw [promoted, read]
  refine ⟨advances, ⟨?_, fun other listed => advances.stored (promoting.stored other listed)⟩,
    advances.satisfied promoting.satisfied⟩
  apply advances.consistent promoting.consistent
  · intro other before after
    by_cases same : other = ref
    · rw [same, owner]
      exact ⟨advances.satisfied promoting.satisfied, advances.completed completed⟩
    · unfold RuntimeState.status at before after
      rw [block_setBlock_of_ne _ _ same] at after
      exact absurd after before
  · exact fun other before after => absurd after before

theorem promoteBlocks_spec (filed : graph.Filed) {state : RuntimeState × Bool}
    (promoting : Promoting graph taskId state.1) {refs : List String}
    (members : ∀ ref ∈ refs, ref ∈ neighbors graph.blocksByTask taskId) :
    Advances state.1 (refs.foldl (promoteBlock graph taskId) state).1 ∧
      Promoting graph taskId (refs.foldl (promoteBlock graph taskId) state).1 := by
  induction refs generalizing state with
  | nil => exact ⟨Advances.refl state.1, promoting⟩
  | cons ref _ ih =>
    obtain ⟨advances, next⟩ := promoteBlock_step filed promoting (members ref (by simp))
    obtain ⟨later, result⟩ := ih next (fun other member => members other (mem_cons_of_mem _ member))
    exact ⟨advances.trans later, result⟩

theorem promoteTask_step (filed : graph.Filed) {state : RuntimeState × Bool}
    (placed : Placed graph state.1) (taskId : String) :
    Advances state.1 (promoteTask graph state taskId).1 ∧ Placed graph (promoteTask graph state taskId).1 := by
  unfold promoteTask
  split
  · rename_i satisfied
    obtain ⟨advances, promoting⟩ := promoteBlocks_spec filed ⟨placed, satisfied⟩ (fun ref member => member)
    have later := aggregateTask_advances promoting.consistent taskId
    exact ⟨advances.trans later, aggregateTask_consistent promoting.consistent taskId,
      fun ref listed => later.stored (promoting.stored ref listed)⟩
  · exact ⟨Advances.refl state.1, placed⟩

theorem promoteBlocks_tasks (graph : Graph) (taskId : String) (state : RuntimeState × Bool) (refs : List String) :
    (refs.foldl (promoteBlock graph taskId) state).1.tasks = state.1.tasks ∧
      ((refs.foldl (promoteBlock graph taskId) state).2 = false → state.2 = false) := by
  induction refs generalizing state with
  | nil => exact ⟨rfl, fun quiet => quiet⟩
  | cons ref _ ih =>
    obtain ⟨tasks, quiet⟩ := ih (promoteBlock graph taskId state ref)
    rw [foldl_cons]
    rcases promoteBlock_cases graph taskId state ref with same | ⟨_, _, promoted⟩
    · rw [same] at tasks quiet ⊢
      exact ⟨tasks, quiet⟩
    · rw [promoted] at tasks quiet ⊢
      exact ⟨tasks, fun silent => by cases quiet silent⟩

theorem promoteTask_quiet {state : RuntimeState × Bool} (quiet : (promoteTask graph state taskId).2 = false) :
    state.2 = false ∧ ∀ other, (promoteTask graph state taskId).1.taskStatus other = state.1.taskStatus other := by
  unfold promoteTask at quiet ⊢
  split at quiet
  · rename_i satisfied
    obtain ⟨tasks, before⟩ := promoteBlocks_tasks graph taskId state (neighbors graph.blocksByTask taskId)
    simp only [Bool.or_eq_false_iff, decide_eq_false_iff_not, not_not] at quiet
    rw [if_pos satisfied]
    refine ⟨before quiet.1, ?_⟩
    intro other
    have same := quiet.2
    rw [tasks] at same
    by_cases here : other = taskId
    · unfold taskStatus
      rw [here, ← same]
    · rw [taskStatus_aggregateTask, if_neg here]
      unfold taskStatus
      rw [tasks]
  · rename_i unsatisfied
    rw [if_neg unsatisfied]
    exact ⟨quiet, fun _ => rfl⟩

theorem promoteTask_done (filed : graph.Filed) {state : RuntimeState × Bool}
    (placed : Placed graph state.1) (satisfied : taskDependenciesSatisfied graph state.1 taskId = true)
    (done : TaskDone graph state.1 taskId) : (promoteTask graph state taskId).1.taskStatus taskId = .implemented := by
  obtain ⟨advances, promoting⟩ := promoteBlocks_spec filed (⟨placed, satisfied⟩ : Promoting graph taskId state.1)
    (fun ref member => member)
  unfold promoteTask
  rw [if_pos satisfied]
  rw [taskStatus_aggregateTask, if_pos rfl, aggregate_implemented_iff]
  exact ⟨promoting.satisfied, advances.done done⟩

theorem promoteTasks_spec (filed : graph.Filed) {state : RuntimeState × Bool}
    (placed : Placed graph state.1) (order : List String) :
    Advances state.1 (order.foldl (promoteTask graph) state).1 ∧ Placed graph (order.foldl (promoteTask graph) state).1 := by
  induction order generalizing state with
  | nil => exact ⟨Advances.refl state.1, placed⟩
  | cons taskId _ ih =>
    obtain ⟨advances, next⟩ := promoteTask_step filed placed taskId
    obtain ⟨later, result⟩ := ih next
    exact ⟨advances.trans later, result⟩

theorem promoteTasks_quiet {state : RuntimeState × Bool}
    (quiet : (order.foldl (promoteTask graph) state).2 = false) :
    state.2 = false ∧ ∀ other, (order.foldl (promoteTask graph) state).1.taskStatus other = state.1.taskStatus other := by
  induction order generalizing state with
  | nil => exact ⟨quiet, fun _ => rfl⟩
  | cons _ _ ih =>
    obtain ⟨before, tail⟩ := ih quiet
    obtain ⟨start, head⟩ := promoteTask_quiet before
    exact ⟨start, fun other => (tail other).trans (head other)⟩

theorem promoteTasks_done (filed : graph.Filed) {state : RuntimeState × Bool}
    (placed : Placed graph state.1) (member : taskId ∈ order)
    (satisfied : taskDependenciesSatisfied graph state.1 taskId = true) (done : TaskDone graph state.1 taskId) :
    (order.foldl (promoteTask graph) state).1.taskStatus taskId = .implemented := by
  induction order generalizing state with
  | nil => cases member
  | cons first rest ih =>
    obtain ⟨advances, next⟩ := promoteTask_step filed placed first
    rw [foldl_cons]
    rcases mem_cons.mp member with same | later
    · obtain ⟨tail, _⟩ := promoteTasks_spec filed next rest
      apply tail.tasks
      rw [← same]
      exact promoteTask_done filed placed satisfied done
    · exact ih next later (advances.satisfied satisfied) (advances.done done)

theorem promote_spec (filed : graph.Filed) (passes : Nat)
    (placed : Placed graph state) : Advances state (promote graph passes state) ∧ Placed graph (promote graph passes state) := by
  induction passes generalizing state with
  | zero => exact ⟨Advances.refl state, placed⟩
  | succ _ ih =>
    have pass := @promoteTasks_spec graph filed (state, false) placed graph.taskNodesInManifestOrder
    unfold promote
    simp only
    split
    · obtain ⟨later, result⟩ := ih pass.2
      exact ⟨pass.1.trans later, result⟩
    · exact pass

end PlanWeave
