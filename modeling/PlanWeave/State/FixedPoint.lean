import PlanWeave.State.Derived

namespace PlanWeave
open List OrderedMap
variable {graph : Graph} {taskId ref : String} {state stored : RuntimeState}

structure Promoted (graph : Graph) (state : RuntimeState) (taskId : String) : Prop where
  satisfied : taskDependenciesSatisfied graph state taskId = true
  entry : state.tasks.get? taskId = some (aggregateTaskStatus graph state taskId)
  planned : ∀ ref ∈ neighbors graph.blocksByTask taskId, state.status ref = .planned →
    blockDependenciesCompleted graph state ref = true →
    graph.isReview ref = true ∧ hasOpenFeedbackForTask graph state taskId = true

/-- Only listed tasks have an entry, and those that wait for a dependency have theirs. -/
structure Marks (graph : Graph) (state : RuntimeState) : Prop where
  unlisted : ∀ taskId, taskId ∉ graph.taskNodesInManifestOrder → state.tasks.get? taskId = none
  waiting : ∀ taskId ∈ graph.taskNodesInManifestOrder, taskDependenciesSatisfied graph state taskId = false →
    state.tasks.get? taskId = some (aggregateTaskStatus graph state taskId)

structure Settled (graph : Graph) (state : RuntimeState) : Prop extends Marks graph state where
  promoted : ∀ taskId ∈ graph.taskNodesInManifestOrder, taskDependenciesSatisfied graph state taskId = true →
    Promoted graph state taskId

theorem aggregateTaskStatus_waiting (waiting : taskDependenciesSatisfied graph state taskId = false) :
    aggregateTaskStatus graph state taskId = { status := .planned, openFeedbackCount := (openFeedback graph state taskId).length } := by
  unfold aggregateTaskStatus
  simp [waiting]

structure ReadsAlike (graph graph' : Graph) : Prop where
  tasks : ∀ taskId, taskId ∈ graph.taskNodesInManifestOrder ↔ taskId ∈ graph'.taskNodesInManifestOrder
  refs : ∀ taskId ref, ref ∈ neighbors graph.blocksByTask taskId ↔ ref ∈ neighbors graph'.blocksByTask taskId
  blocks : ∀ ref, graph.blocksByRef.get? ref = graph'.blocksByRef.get? ref
  owners : ∀ ref, graph.blockTaskByRef.get? ref = graph'.blockTaskByRef.get? ref
  taskDependencies : ∀ taskId, neighbors graph.taskDependenciesByTask taskId = neighbors graph'.taskDependenciesByTask taskId
  blockDependencies : ∀ ref, neighbors graph.blockDependenciesByRef ref = neighbors graph'.blockDependenciesByRef ref

theorem ReadsAlike.refl (graph : Graph) : ReadsAlike graph graph :=
  ⟨fun _ => Iff.rfl, fun _ _ => Iff.rfl, fun _ => rfl, fun _ => rfl, fun _ => rfl, fun _ => rfl⟩

variable {items items' refs : List String} {test test' : String → Bool} {earlier later : RuntimeState}

theorem any_alike (members : ∀ item, item ∈ items ↔ item ∈ items')
    (same : ∀ item ∈ items, test item = test' item) : items.any test = items'.any test' := by
  rw [Bool.eq_iff_iff, any_eq_true, any_eq_true]
  constructor
  · exact fun ⟨item, member, passes⟩ => ⟨item, (members item).mp member, same item member ▸ passes⟩
  · exact fun ⟨item, member, passes⟩ =>
      ⟨item, (members item).mpr member, (same item ((members item).mpr member)).symm ▸ passes⟩

theorem all_alike (members : ∀ item, item ∈ items ↔ item ∈ items')
    (same : ∀ item ∈ items, test item = test' item) : items.all test = items'.all test' := by
  rw [all_eq_not_any_not, all_eq_not_any_not, any_alike members fun item member => by rw [same item member]]

theorem aggregateTaskStatus_alike {graph' : Graph} (alike : ReadsAlike graph graph') {left right : RuntimeState}
    (satisfied : taskDependenciesSatisfied graph left taskId = taskDependenciesSatisfied graph' right taskId)
    (feedback : left.feedback = right.feedback)
    (blocks : ∀ ref ∈ neighbors graph.blocksByTask taskId, Settles (left.block ref) (right.block ref)) :
    aggregateTaskStatus graph left taskId = aggregateTaskStatus graph' right taskId := by
  have status : ∀ test : BlockStatus → Bool, test .planned = false → test .ready = false →
      ∀ ref ∈ neighbors graph.blocksByTask taskId, test (left.status ref) = test (right.status ref) := by
    intro test planned ready ref member
    have idle : ∀ {status : BlockStatus}, hasStartedBlock status = false → test status = false := by
      intro status idle
      cases status <;> first | assumption | cases idle
    rcases (blocks ref member).status with same | ⟨idleLeft, idleRight⟩
    · exact congrArg test same.symm
    · exact (idle idleLeft).trans (idle idleRight).symm
  have feedbackOf : openFeedback graph left taskId = openFeedback graph' right taskId := by
    unfold openFeedback
    simp only [feedback, alike.owners]
  have implementations : graph.isImplementation = graph'.isImplementation := by
    funext ref
    rw [Graph.isImplementation, alike.blocks, Graph.isImplementation]
  have reviews : graph.isRequiredReview = graph'.isRequiredReview := by
    funext ref
    rw [Graph.isRequiredReview, alike.blocks, Graph.isRequiredReview]
  have filtered : ∀ (keep : String → Bool) ref, ref ∈ (neighbors graph.blocksByTask taskId).filter keep ↔
      ref ∈ (neighbors graph'.blocksByTask taskId).filter keep := by
    intro keep ref
    rw [mem_filter, mem_filter, alike.refs]
  have completed := all_alike (filtered graph'.isImplementation) fun ref member =>
    status (fun status => status = .completed) rfl rfl ref (mem_filter.mp member).1
  have passed : ((neighbors graph.blocksByTask taskId).filter graph'.isRequiredReview).all
      (fun ref => (left.block ref).completionReason = some .passed) =
      ((neighbors graph'.blocksByTask taskId).filter graph'.isRequiredReview).all
        (fun ref => (right.block ref).completionReason = some .passed) :=
    all_alike (filtered graph'.isRequiredReview) fun ref member => by rw [(blocks ref (mem_filter.mp member).1).fields]
  unfold aggregateTaskStatus
  simp only [satisfied, feedbackOf, implementations, reviews]
  rw [any_alike (alike.refs taskId) (status (fun status => status = .inProgress) rfl rfl),
    any_alike (alike.refs taskId) (status hasStartedBlock rfl rfl), completed, passed]

theorem Advances.completed_iff (advances : Advances earlier later) :
    blockDependenciesCompleted graph later ref = true ↔ blockDependenciesCompleted graph earlier ref = true := by
  refine ⟨fun completed => ?_, advances.completed⟩
  rw [blockDependenciesCompleted_iff] at completed ⊢
  intro dependency member
  have done := completed dependency member
  unfold RuntimeState.status at done ⊢
  rcases advances.block dependency with same | ⟨_, promoted⟩
  · rwa [← same]
  · rw [promoted] at done
    cases done

theorem Advances.planned (advances : Advances earlier later)
    (planned : later.status ref = .planned) : earlier.status ref = .planned := by
  unfold RuntimeState.status at planned ⊢
  rcases advances.block ref with same | ⟨before, _⟩
  · rwa [← same]
  · exact before

theorem Advances.open (advances : Advances earlier later) (taskId : String) :
    hasOpenFeedbackForTask graph later taskId = hasOpenFeedbackForTask graph earlier taskId := by
  unfold hasOpenFeedbackForTask
  rw [openFeedback_congr advances.feedback]

/-- A visited block that is still planned waits for a block or for the answer to its task's feedback. -/
theorem promoteBlock_planned {state : RuntimeState × Bool}
    (planned : (promoteBlock graph taskId state ref).1.status ref = .planned) :
    promoteBlock graph taskId state ref = state ∧ (blockDependenciesCompleted graph state.1 ref = true →
      graph.isReview ref = true ∧ hasOpenFeedbackForTask graph state.1 taskId = true) := by
  unfold promoteBlock at planned ⊢
  split at planned
  · unfold RuntimeState.status at planned
    rw [RuntimeState.block_setBlock_self] at planned
    cases planned
  · rename_i kept
    rw [if_neg kept]
    refine ⟨rfl, fun completed => ?_⟩
    simpa [planned, completed] using kept

theorem promoteBlocks_planned (filed : graph.Filed) {state : RuntimeState × Bool}
    (promoting : Promoting graph taskId state.1)
    (members : ∀ ref ∈ refs, ref ∈ neighbors graph.blocksByTask taskId) (member : ref ∈ refs)
    (planned : (refs.foldl (promoteBlock graph taskId) state).1.status ref = .planned)
    (completed : blockDependenciesCompleted graph (refs.foldl (promoteBlock graph taskId) state).1 ref = true) :
    graph.isReview ref = true ∧ hasOpenFeedbackForTask graph (refs.foldl (promoteBlock graph taskId) state).1 taskId = true := by
  induction refs generalizing state with
  | nil => cases member
  | cons first rest ih =>
    obtain ⟨advances, next⟩ := promoteBlock_step filed promoting (members first mem_cons_self)
    have among : ∀ ref ∈ rest, ref ∈ neighbors graph.blocksByTask taskId :=
      fun ref later => members ref (mem_cons_of_mem _ later)
    rcases mem_cons.mp member with rfl | later
    · have tail := (promoteBlocks_spec filed next among).1
      obtain ⟨_, waits⟩ := promoteBlock_planned (tail.planned planned)
      rw [foldl_cons, tail.open, advances.open]
      exact waits (advances.completed_iff.mp (tail.completed_iff.mp completed))
    · exact ih next among later planned completed

theorem promoteTask_promotes (filed : graph.Filed) {state : RuntimeState × Bool} (placed : Placed graph state.1)
    (satisfied : taskDependenciesSatisfied graph state.1 taskId = true) :
    Promoted graph (promoteTask graph state taskId).1 taskId := by
  have promoting : Promoting graph taskId state.1 := ⟨placed, satisfied⟩
  have next := (promoteBlocks_spec filed promoting (fun ref member => member)).2
  have waits := fun ref member => promoteBlocks_planned filed promoting (fun ref member => member)
    (show ref ∈ neighbors graph.blocksByTask taskId from member)
  unfold promoteTask
  rw [if_pos satisfied]
  generalize (neighbors graph.blocksByTask taskId).foldl (promoteBlock graph taskId) state = promoted at next waits
  have advances := aggregateTask_advances next.consistent taskId
  refine ⟨advances.satisfied next.satisfied, ?_, ?_⟩
  · show (promoted.1.tasks.set taskId _).get? taskId = _
    rw [get?_set_self, aggregateTaskStatus_alike (.refl graph)
      (next.satisfied.trans (advances.satisfied next.satisfied).symm) rfl (fun ref _ => Settles.refl _)]
  · exact fun ref member planned completed => waits ref member planned completed

theorem promoteBlocks_frame (graph : Graph) (taskId : String) (state : RuntimeState × Bool)
    (outside : ref ∉ refs) : (refs.foldl (promoteBlock graph taskId) state).1.block ref = state.1.block ref := by
  induction refs generalizing state with
  | nil => rfl
  | cons first _ ih =>
    rw [mem_cons, not_or] at outside
    rw [foldl_cons, ih _ outside.2]
    rcases promoteBlock_cases graph taskId state first with same | ⟨_, _, promoted⟩
    · rw [same]
    · rw [promoted, RuntimeState.block_setBlock_of_ne _ _ outside.1]

theorem promoteTask_frame (graph : Graph) (taskId : String) (state : RuntimeState × Bool) :
    (∀ ref, ref ∉ neighbors graph.blocksByTask taskId → (promoteTask graph state taskId).1.block ref = state.1.block ref) ∧
      ∀ other, other ≠ taskId → (promoteTask graph state taskId).1.tasks.get? other = state.1.tasks.get? other := by
  unfold promoteTask
  split
  · refine ⟨fun ref outside => promoteBlocks_frame graph taskId state outside, fun other different => ?_⟩
    show ((_ : RuntimeState).tasks.set taskId _).get? other = _
    rw [get?_set_of_ne _ _ different, (promoteBlocks_tasks graph taskId state _).1]
  · exact ⟨fun _ _ => rfl, fun _ _ => rfl⟩

theorem promoteTask_keeps (filed : graph.Filed) {state : RuntimeState × Bool} (placed : Placed graph state.1)
    (taskId : String) {other : String} (promoted : Promoted graph state.1 other) :
    Promoted graph (promoteTask graph state taskId).1 other := by
  by_cases same : other = taskId
  · subst same
    exact promoteTask_promotes filed placed promoted.satisfied
  obtain ⟨blocks, entries⟩ := promoteTask_frame graph taskId state
  have advances := (promoteTask_step filed placed taskId).1
  have kept : ∀ ref ∈ neighbors graph.blocksByTask other,
      Settles (state.1.block ref) ((promoteTask graph state taskId).1.block ref) := by
    intro ref member
    rw [blocks ref fun member' => same ?_]
    · exact Settles.refl _
    exact Option.some.inj (((filed.taskRefs ref other).mpr member).symm.trans ((filed.taskRefs ref taskId).mpr member'))
  have satisfied := advances.satisfied promoted.satisfied
  refine ⟨satisfied, ?_, ?_⟩
  · rw [entries other same, promoted.entry, aggregateTaskStatus_alike (.refl graph)
      (promoted.satisfied.trans satisfied.symm) advances.feedback.symm kept]
  · intro ref member planned completed
    rw [advances.open]
    exact promoted.planned ref member (advances.planned planned) (advances.completed_iff.mp completed)

variable {order : List String}

theorem promoteTasks_promote (filed : graph.Filed) {state : RuntimeState × Bool} (placed : Placed graph state.1)
    (due : (taskId ∈ order ∧ taskDependenciesSatisfied graph state.1 taskId = true) ∨
      Promoted graph state.1 taskId) : Promoted graph (order.foldl (promoteTask graph) state).1 taskId := by
  induction order generalizing state with
  | nil => exact due.resolve_left (fun impossible => by cases impossible.1)
  | cons first _ ih =>
    obtain ⟨advances, next⟩ := promoteTask_step filed placed first
    refine ih next ?_
    rcases due with ⟨member, satisfied⟩ | promoted
    · rcases mem_cons.mp member with rfl | later
      · exact .inr (promoteTask_promotes filed placed satisfied)
      · exact .inl ⟨later, advances.satisfied satisfied⟩
    · exact .inr (promoteTask_keeps filed placed first promoted)

theorem Advances.waiting (advances : Advances earlier later)
    (waiting : taskDependenciesSatisfied graph later taskId = false) :
    taskDependenciesSatisfied graph earlier taskId = false ∧
      aggregateTaskStatus graph later taskId = aggregateTaskStatus graph earlier taskId := by
  have before : taskDependenciesSatisfied graph earlier taskId = false := by
    by_contra satisfied
    rw [advances.satisfied (by simpa using satisfied)] at waiting
    cases waiting
  refine ⟨before, ?_⟩
  rw [aggregateTaskStatus_waiting waiting, aggregateTaskStatus_waiting before, openFeedback_congr advances.feedback]

theorem promoteTask_marks (filed : graph.Filed) {state : RuntimeState × Bool} (placed : Placed graph state.1)
    (listed : taskId ∈ graph.taskNodesInManifestOrder) (marks : Marks graph state.1) :
    Marks graph (promoteTask graph state taskId).1 := by
  have entries := (promoteTask_frame graph taskId state).2
  refine ⟨fun other outside => ?_, fun other inside waiting => ?_⟩
  · rw [entries other (fun same => outside (same ▸ listed))]
    exact marks.unlisted other outside
  obtain ⟨before, same⟩ := (promoteTask_step filed placed taskId).1.waiting waiting
  rw [same, ← marks.waiting other inside before]
  by_cases here : other = taskId
  · unfold promoteTask
    rw [if_neg (by rw [← here, before]; decide)]
  · exact entries other here

theorem promoteTasks_marks (filed : graph.Filed) {state : RuntimeState × Bool} (placed : Placed graph state.1)
    (listed : ∀ taskId ∈ order, taskId ∈ graph.taskNodesInManifestOrder) (marks : Marks graph state.1) :
    Marks graph (order.foldl (promoteTask graph) state).1 := by
  induction order generalizing state with
  | nil => exact marks
  | cons first _ ih =>
    exact ih (promoteTask_step filed placed first).2 (fun other later => listed other (mem_cons_of_mem _ later))
      (promoteTask_marks filed placed (listed first mem_cons_self) marks)

theorem promoteTasks_settled (filed : graph.Filed) (placed : Placed graph state) (marks : Marks graph state)
    (still : ∀ taskId, (graph.taskNodesInManifestOrder.foldl (promoteTask graph) (state, false)).1.taskStatus taskId =
      .implemented → state.taskStatus taskId = .implemented) :
    Settled graph (graph.taskNodesInManifestOrder.foldl (promoteTask graph) (state, false)).1 := by
  refine ⟨promoteTasks_marks filed placed (fun _ member => member) marks, fun taskId listed satisfied => ?_⟩
  refine promoteTasks_promote filed placed (.inl ⟨listed, ?_⟩)
  rw [taskDependenciesSatisfied_iff] at satisfied ⊢
  exact fun dependency member => still dependency (satisfied dependency member)

theorem Settled.promoteTask (settled : Settled graph state) (listed : taskId ∈ graph.taskNodesInManifestOrder) :
    promoteTask graph (state, false) taskId = (state, false) := by
  unfold PlanWeave.promoteTask
  split
  · rename_i satisfied
    have promoted := settled.promoted taskId listed satisfied
    have blocks : ∀ refs : List String, (∀ ref ∈ refs, ref ∈ neighbors graph.blocksByTask taskId) →
        refs.foldl (promoteBlock graph taskId) (state, false) = (state, false) := by
      intro refs members
      induction refs with
      | nil => rfl
      | cons ref _ ih =>
        have waits := promoted.planned ref (members ref mem_cons_self)
        rw [foldl_cons, show promoteBlock graph taskId (state, false) ref = (state, false) by
          unfold promoteBlock
          rw [if_neg]
          simpa using waits]
        exact ih fun other later => members other (mem_cons_of_mem _ later)
    have aggregated : aggregateTask graph state taskId = state := by
      unfold aggregateTask
      rw [set_of_get? promoted.entry]
    simp [blocks _ (fun _ member => member), aggregated]
  · rfl

theorem Settled.promote (settled : Settled graph state) (passes : Nat) : promote graph passes state = state := by
  have visits : ∀ order : List String, (∀ taskId ∈ order, taskId ∈ graph.taskNodesInManifestOrder) →
      order.foldl (PlanWeave.promoteTask graph) (state, false) = (state, false) := by
    intro order listed
    induction order with
    | nil => rfl
    | cons first _ ih =>
      rw [foldl_cons, settled.promoteTask (listed first mem_cons_self)]
      exact ih fun other later => listed other (mem_cons_of_mem _ later)
  cases passes with
  | zero => rfl
  | succ =>
    unfold PlanWeave.promote
    simp [visits _ (fun _ member => member)]

theorem promote_settled (filed : graph.Filed) (passes : Nat) (placed : Placed graph state) (marks : Marks graph state)
    (enough : (pendingTasks graph state (fun _ => True)).card < passes) : Settled graph (promote graph passes state) := by
  induction passes generalizing state with
  | zero => omega
  | succ _ ih =>
    obtain ⟨advances, next⟩ := @promoteTasks_spec graph filed (state, false) placed graph.taskNodesInManifestOrder
    have marked := @promoteTasks_marks graph _ filed (state, false) placed (fun _ member => member) marks
    have quiet := @promoteTasks_quiet graph graph.taskNodesInManifestOrder (state, false)
    have settles := promoteTasks_settled filed placed marks
    unfold promote
    generalize graph.taskNodesInManifestOrder.foldl (promoteTask graph) (state, false) = pass at advances next marked quiet settles
    by_cases still : ∀ taskId, pass.1.taskStatus taskId = .implemented → state.taskStatus taskId = .implemented
    · simp only [(settles still).promote, ite_self]
      exact settles still
    have changed : pass.2 = true := by
      by_contra silent
      exact still fun taskId implemented => ((quiet (by simpa using silent)).2 taskId).symm.trans implemented
    simp only [changed, if_true]
    refine ih next marked (lt_of_lt_of_le (Finset.card_lt_card ?_) (Nat.lt_succ_iff.mp enough))
    rw [not_forall] at still
    obtain ⟨taskId, newly⟩ := still
    rw [Classical.not_imp] at newly
    have listed : taskId ∈ graph.taskNodesInManifestOrder := by
      by_contra outside
      have implemented := newly.1
      unfold RuntimeState.taskStatus at implemented
      rw [marked.unlisted taskId outside] at implemented
      cases implemented
    rw [Finset.ssubset_iff_of_subset]
    · exact ⟨taskId, mem_pendingTasks.mpr ⟨listed, trivial, newly.2⟩, fun still => (mem_pendingTasks.mp still).2.2 newly.1⟩
    · intro other still
      obtain ⟨listed', _, unmarked⟩ := mem_pendingTasks.mp still
      exact mem_pendingTasks.mpr ⟨listed', trivial, fun before => unmarked (advances.tasks other before)⟩

theorem aggregateTasks_entry (placed : Consistent graph state) (outside : taskId ∉ order) :
    (order.foldl (aggregateTask graph) state).tasks.get? taskId = state.tasks.get? taskId := by
  induction order generalizing state with
  | nil => rfl
  | cons first _ ih =>
    rw [mem_cons, not_or] at outside
    rw [foldl_cons, ih (aggregateTask_consistent placed first) outside.2]
    exact get?_set_of_ne _ _ outside.1

theorem aggregateTasks_waiting (consistent : Consistent graph state) (member : taskId ∈ order)
    (waiting : taskDependenciesSatisfied graph (order.foldl (aggregateTask graph) state) taskId = false) :
    (order.foldl (aggregateTask graph) state).tasks.get? taskId =
      some (aggregateTaskStatus graph (order.foldl (aggregateTask graph) state) taskId) := by
  induction order generalizing state with
  | nil => cases member
  | cons first rest ih =>
    have next := aggregateTask_consistent consistent first
    by_cases later : taskId ∈ rest
    · exact ih next later waiting
    cases (mem_cons.mp member).resolve_right later
    have advances := (aggregateTask_advances consistent taskId).trans (aggregateTasks_spec next rest).1
    rw [foldl_cons] at waiting ⊢
    rw [aggregateTasks_entry next later, (advances.waiting waiting).2]
    exact get?_set_self _ _ _

theorem derivedState_settled (filed : graph.Filed) (stored : RuntimeState) : Settled graph (derivedState graph stored) := by
  obtain ⟨_, start, placed⟩ := aggregated_placed graph stored
  refine promote_settled filed _ placed ⟨fun taskId outside => ?_, fun taskId listed => ?_⟩
    (Nat.lt_succ_of_le (pendingTasks_card_le graph _ _))
  · unfold aggregatedState
    rw [aggregateTasks_entry start.consistent outside, (seededState_seeding graph stored).tasks]
    rfl
  · exact aggregateTasks_waiting start.consistent listed

end PlanWeave
