import PlanWeave.State.Reconcile

namespace PlanWeave
open OrderedMap RuntimeState
variable {graph : Graph} {taskId ref : String} {tasks : String → Prop} {state stored : RuntimeState}
variable {earlier later left right : RuntimeState}

theorem Advances.done_iff (advances : Advances earlier later)
    : TaskDone graph later taskId ↔ TaskDone graph earlier taskId := by
  refine ⟨?_, advances.done⟩
  intro done
  refine ⟨?_, (openFeedback_congr advances.feedback taskId).symm.trans done.answered, ?_, ?_⟩
  · intro ref member running
    exact done.settled ref member (advances.status (by decide) running)
  · intro ref member implementation
    have completed := done.implementations ref member implementation
    unfold RuntimeState.status at completed ⊢
    rcases advances.block ref with unchanged | ⟨_, promoted⟩
    · rw [← unchanged, completed]
    · rw [promoted] at completed
      cases completed
  · intro ref member required
    have passed := done.reviews ref member required
    rcases advances.block ref with unchanged | ⟨_, promoted⟩
    · rw [← unchanged, passed]
    · rw [promoted] at passed
      exact passed

structure DoneSet (graph : Graph) (state : RuntimeState) (tasks : String → Prop) : Prop where
  listed : ∀ taskId, tasks taskId → taskId ∈ graph.taskNodesInManifestOrder
  done : ∀ taskId, tasks taskId → TaskDone graph state taskId
  closed : ∀ taskId, tasks taskId → ∀ dependency ∈ neighbors graph.taskDependenciesByTask taskId, tasks dependency

theorem DoneSet.advance
    (set : DoneSet graph earlier tasks) (advances : Advances earlier later) : DoneSet graph later tasks :=
  ⟨set.listed, fun taskId member => advances.done (set.done taskId member), set.closed⟩

open Classical in
noncomputable def pendingTasks (graph : Graph) (state : RuntimeState) (tasks : String → Prop) : Finset String :=
  graph.taskNodesInManifestOrder.toFinset.filter (fun taskId => tasks taskId ∧ state.taskStatus taskId ≠ .implemented)

theorem mem_pendingTasks : taskId ∈ pendingTasks graph state tasks ↔
      taskId ∈ graph.taskNodesInManifestOrder ∧ tasks taskId ∧ state.taskStatus taskId ≠ .implemented := by
  simp [pendingTasks]

theorem pendingTasks_card_le (graph : Graph) (state : RuntimeState) (tasks : String → Prop) :
    (pendingTasks graph state tasks).card ≤ graph.taskNodesInManifestOrder.length := by
  classical
  exact (Finset.card_filter_le _ _).trans (List.toFinset_card_le _)

theorem promoteTasks_progress (sound : graph.Sound) (placed : Placed graph state)
    (set : DoneSet graph state tasks) (pending : (pendingTasks graph state tasks).Nonempty) :
    (graph.taskNodesInManifestOrder.foldl (promoteTask graph) (state, false)).2 = true ∧
      (pendingTasks graph (graph.taskNodesInManifestOrder.foldl (promoteTask graph) (state, false)).1 tasks).card <
        (pendingTasks graph state tasks).card := by
  obtain ⟨taskId, member, minimal⟩ := sound.acyclic.exists_minimal pending
  obtain ⟨listed, inside, unmarked⟩ := mem_pendingTasks.mp member
  have satisfied : taskDependenciesSatisfied graph state taskId = true := by
    rw [taskDependenciesSatisfied_iff]
    intro dependency step
    have outside := minimal dependency step
    rw [mem_pendingTasks] at outside
    by_contra unmarked'
    exact outside ⟨sound.dependencyListed taskId dependency step, set.closed taskId inside dependency step, unmarked'⟩
  have marked := @promoteTasks_done graph taskId graph.taskNodesInManifestOrder sound.filed (state, false) placed listed
    satisfied (set.done taskId inside)
  obtain ⟨advances, _⟩ := @promoteTasks_spec graph sound.filed (state, false) placed graph.taskNodesInManifestOrder
  constructor
  · by_contra quiet
    have same := (promoteTasks_quiet (by simpa using quiet)).2 taskId
    exact unmarked (same.symm.trans marked)
  · apply Finset.card_lt_card
    rw [Finset.ssubset_iff_of_subset]
    · refine ⟨taskId, member, ?_⟩
      intro still
      exact (mem_pendingTasks.mp still).2.2 marked
    · intro other still
      obtain ⟨listed', inside', unmarked'⟩ := mem_pendingTasks.mp still
      exact mem_pendingTasks.mpr ⟨listed', inside', fun before => unmarked' (advances.tasks other before)⟩

theorem promote_complete (sound : graph.Sound) (passes : Nat)
    (placed : Placed graph state) (set : DoneSet graph state tasks)
    (enough : (pendingTasks graph state tasks).card ≤ passes) (inside : tasks taskId) :
    (promote graph passes state).taskStatus taskId = .implemented := by
  have settled : ∀ {current : RuntimeState}, pendingTasks graph current tasks = ∅ →
      current.taskStatus taskId = .implemented := by
    intro current none
    by_contra unmarked
    have member : taskId ∈ pendingTasks graph current tasks :=
      mem_pendingTasks.mpr ⟨set.listed taskId inside, inside, unmarked⟩
    rw [none] at member
    cases member
  induction passes generalizing state with
  | zero => exact settled (Finset.card_eq_zero.mp (Nat.le_zero.mp enough))
  | succ passes ih =>
    by_cases pending : (pendingTasks graph state tasks).Nonempty
    · obtain ⟨changed, _⟩ := promoteTasks_progress sound placed set pending
      obtain ⟨advances, next⟩ := @promoteTasks_spec graph sound.filed (state, false) placed
        graph.taskNodesInManifestOrder
      unfold promote
      simp only [changed, if_true]
      exact ih next (set.advance advances) (by omega)
    · exact (promote_spec sound.filed (passes + 1) placed).1.tasks taskId (settled (Finset.not_nonempty_iff_eq_empty.mp pending))

/-- The block that derivation starts from: the stored one, or a new planned one. -/
def keptBlock (graph : Graph) (stored : RuntimeState) (ref : String) : BlockState :=
  (existingBlock graph stored ref).getD { status := .planned }

structure Pruned (graph : Graph) (stored next : RuntimeState) : Prop where
  currentRefs : next.currentRefs = (prunedState graph stored).currentRefs
  currentFeedbackId : next.currentFeedbackId = (prunedState graph stored).currentFeedbackId
  currentReviewBlockRef : next.currentReviewBlockRef = (prunedState graph stored).currentReviewBlockRef
  feedback : next.feedback = (prunedState graph stored).feedback

/-- The state of the first loop, in terms of the refs it has visited. -/
structure Seeding (graph : Graph) (stored : RuntimeState) (seen : String → Prop) (next : RuntimeState) : Prop
    extends Pruned graph stored next where
  tasks : next.tasks = ∅
  fresh : ∀ ref, ¬ seen ref → next.blocks.get? ref = none
  blocks : ∀ ref, seen ref → ∃ block, next.blocks.get? ref = some block ∧ Settles (keptBlock graph stored ref) block
  ready : ∀ ref, next.status ref = .ready →
    taskDependenciesSatisfied graph next (graph.taskOfRef ref) = true ∧ blockDependenciesCompleted graph next ref = true

theorem defaultBlockStatus_idle (graph : Graph) (state : RuntimeState) (ref : String) :
    hasStartedBlock (defaultBlockStatus graph state ref) = false := by
  unfold defaultBlockStatus
  split <;> rfl

theorem defaultBlockStatus_ready (ready : defaultBlockStatus graph state ref = .ready) :
    taskDependenciesSatisfied graph state (graph.taskOfRef ref) = true ∧ blockDependenciesCompleted graph state ref = true := by
  unfold defaultBlockStatus at ready
  split at ready
  · rename_i both
    simpa using both
  · cases ready

def seededBlock (graph : Graph) (stored next : RuntimeState) (ref : String) : BlockState :=
  let seeded := (existingBlock graph stored ref).getD { status := defaultBlockStatus graph next ref }
  if hasStartedBlock seeded.status then seeded
  else { seeded with status := defaultBlockStatus graph (next.setBlock ref seeded) ref }

theorem seedBlock_get? (graph : Graph) (stored next : RuntimeState) (ref other : String) :
    (seedBlock graph stored next ref).blocks.get? other =
      if other = ref then some (seededBlock graph stored next ref) else next.blocks.get? other := by
  unfold seedBlock seededBlock
  generalize (existingBlock graph stored ref).getD { status := defaultBlockStatus graph next ref } = seeded
  by_cases started : hasStartedBlock seeded.status = true
  · simp only [if_pos started]
    exact get?_set _ _ _ _
  · simp only [if_neg started]
    unfold setBlock
    simp only [get?_set]
    split <;> rfl

theorem seededBlock_settles (graph : Graph) (stored next : RuntimeState) (ref : String) :
    Settles (keptBlock graph stored ref) (seededBlock graph stored next ref) := by
  unfold keptBlock seededBlock
  cases existing : existingBlock graph stored ref with
  | none =>
    simp only [Option.getD_none, defaultBlockStatus_idle]
    exact ⟨rfl, .inr ⟨rfl, defaultBlockStatus_idle _ _ _⟩⟩
  | some =>
    simp only [Option.getD_some]
    split
    · exact ⟨rfl, .inl rfl⟩
    · rename_i idle
      exact ⟨rfl, .inr ⟨by simpa using idle, defaultBlockStatus_idle _ _ _⟩⟩

theorem seedBlock_frame (graph : Graph) (stored next : RuntimeState) (ref : String) :
    seedBlock graph stored next ref = { next with blocks := (seedBlock graph stored next ref).blocks } := by
  unfold seedBlock
  simp only
  split <;> rfl

theorem seedBlock_block (graph : Graph) (stored next : RuntimeState) (ref other : String) :
    (seedBlock graph stored next ref).block other =
      if other = ref then seededBlock graph stored next ref else next.block other := by
  unfold RuntimeState.block
  rw [seedBlock_get?]
  split <;> rfl

theorem seedBlock_satisfied (graph : Graph) (stored next : RuntimeState) (ref taskId : String) :
    taskDependenciesSatisfied graph (seedBlock graph stored next ref) taskId =
      taskDependenciesSatisfied graph next taskId := by
  rw [seedBlock_frame]
  rfl

variable {next : RuntimeState} {seen : String → Prop} {block : BlockState}

/-- Dependencies that were completed before the visit are completed after it: the visited block
had no entry, or one that had started. -/
theorem seedBlock_completed {other : String}
    (placed : next.status ref = .completed → (keptBlock graph stored ref).status = .completed)
    (completed : blockDependenciesCompleted graph next other = true) :
    blockDependenciesCompleted graph (seedBlock graph stored next ref) other = true := by
  rw [blockDependenciesCompleted_iff] at completed ⊢
  intro dependency member
  have done := completed dependency member
  unfold RuntimeState.status
  rw [seedBlock_block]
  split
  · rename_i same
    have kept := placed (same ▸ done)
    rw [(seededBlock_settles graph stored next ref).started (.inl (by rw [kept]; rfl))]
    exact kept
  · exact done

theorem seededBlock_ready (ready : (seededBlock graph stored next ref).status = .ready) :
    taskDependenciesSatisfied graph next (graph.taskOfRef ref) = true ∧ blockDependenciesCompleted graph next ref = true := by
  unfold seededBlock at ready
  generalize seeded : (existingBlock graph stored ref).getD { status := defaultBlockStatus graph next ref } = block at ready
  by_cases started : hasStartedBlock block.status = true
  · simp only [if_pos started] at ready
    rw [ready] at started
    cases started
  · simp only [if_neg started] at ready
    obtain ⟨satisfied, completed⟩ := defaultBlockStatus_ready ready
    refine ⟨satisfied, ?_⟩
    rw [blockDependenciesCompleted_iff] at completed ⊢
    intro dependency member
    have done := completed dependency member
    unfold RuntimeState.status at done ⊢
    rw [block_setBlock] at done
    split at done
    · rw [done] at started
      exact absurd rfl started
    · exact done

theorem Seeding.completed (seeding : Seeding graph stored seen next)
    (completed : next.status ref = .completed) : (keptBlock graph stored ref).status = .completed := by
  unfold RuntimeState.status RuntimeState.block at completed
  by_cases visited : seen ref
  · obtain ⟨_, found, settles⟩ := seeding.blocks ref visited
    rw [found, Option.getD_some] at completed
    rw [← settles.started (.inr (by rw [completed]; rfl)), completed]
  · rw [seeding.fresh ref visited] at completed
    cases completed

theorem Seeding.step (seeding : Seeding graph stored seen next) (ref : String) :
    Seeding graph stored (fun other => seen other ∨ other = ref) (seedBlock graph stored next ref) := by
  have frame := seedBlock_frame graph stored next ref
  refine ⟨⟨?_, ?_, ?_, ?_⟩, ?_, ?_, ?_, ?_⟩
  · rw [frame]
    exact seeding.currentRefs
  · rw [frame]
    exact seeding.currentFeedbackId
  · rw [frame]
    exact seeding.currentReviewBlockRef
  · rw [frame]
    exact seeding.feedback
  · rw [frame]
    exact seeding.tasks
  · intro other absent
    rw [not_or] at absent
    rw [seedBlock_get?, if_neg absent.2]
    exact seeding.fresh other absent.1
  · intro other visited
    rw [seedBlock_get?]
    by_cases same : other = ref
    · rw [if_pos same, same]
      exact ⟨_, rfl, seededBlock_settles graph stored next ref⟩
    · rw [if_neg same]
      exact seeding.blocks other (visited.resolve_right same)
  · intro other ready
    rw [seedBlock_satisfied]
    unfold RuntimeState.status at ready
    rw [seedBlock_block] at ready
    by_cases same : other = ref
    · rw [if_pos same] at ready
      obtain ⟨satisfied, completed⟩ := seededBlock_ready ready
      rw [same]
      exact ⟨satisfied, seedBlock_completed seeding.completed completed⟩
    · rw [if_neg same] at ready
      obtain ⟨satisfied, completed⟩ := seeding.ready other ready
      exact ⟨satisfied, seedBlock_completed seeding.completed completed⟩

theorem Seeding.all (seeding : Seeding graph stored seen next) (refs : List String) :
    Seeding graph stored (fun other => seen other ∨ other ∈ refs) (refs.foldl (seedBlock graph stored) next) := by
  induction refs generalizing next seen with
  | nil => simpa using seeding
  | cons ref rest ih =>
    have rest' := ih (seeding.step ref)
    have same : (fun other => (seen other ∨ other = ref) ∨ other ∈ rest) = (fun other => seen other ∨ other ∈ ref :: rest) := by
      funext other
      simp [or_assoc]
    rw [same] at rest'
    exact rest'

theorem Seeding.start (graph : Graph) (stored : RuntimeState) :
    Seeding graph stored (fun _ => False) (prunedState graph stored) := by
  refine ⟨⟨rfl, rfl, rfl, rfl⟩, rfl, fun _ _ => rfl, fun _ impossible => impossible.elim, ?_⟩
  intro ref ready
  cases ready

theorem seededState_seeding (graph : Graph) (stored : RuntimeState) :
    Seeding graph stored (fun ref => ref ∈ graph.blockRefsInManifestOrder) (seededState graph stored) := by
  have seeding := (Seeding.start graph stored).all graph.blockRefsInManifestOrder
  simp only [false_or] at seeding
  exact seeding

/-- What reconciliation gives: the pruned pointers, one settled block for each ref of the graph, and
marks that are sound and complete. -/
structure Reconciled (graph : Graph) (stored next : RuntimeState) : Prop extends Pruned graph stored next where
  owned : ∀ ref block, stored.blocks.get? ref = some block → block.remoteOwnership.isSome = true →
    ref ∈ graph.blockRefsInManifestOrder ∧ (block.status = .inProgress ∨ block.status = .diverged)
  absent : ∀ ref, ref ∉ graph.blockRefsInManifestOrder → next.blocks.get? ref = none
  blocks : ∀ ref ∈ graph.blockRefsInManifestOrder,
    ∃ block, next.blocks.get? ref = some block ∧ Settles (keptBlock graph stored ref) block
  consistent : Consistent graph next
  complete : ∀ tasks, DoneSet graph next tasks → ∀ taskId, tasks taskId → next.taskStatus taskId = .implemented

theorem Settles.promote {base : BlockState} (settles : Settles base block) (planned : block.status = .planned) :
    Settles base { block with status := .ready } := by
  have fields := settles.fields
  refine ⟨?_, .inr ⟨?_, rfl⟩⟩
  · rw [fields]
  · rcases settles.status with same | ⟨idle, _⟩
    · rw [← same, planned]
      rfl
    · exact idle

theorem assertOwnedBlocks_ok {entries : List (String × BlockState)}
    (accepted : assertOwnedBlocks graph entries = .ok ()) {entry : String × BlockState} (member : entry ∈ entries) :
    assertOwnedBlock graph entry.1 entry.2 = .ok () := by
  induction entries with
  | nil => cases member
  | cons first _ ih =>
    obtain ⟨_, head, accepted⟩ := Checked.bind_ok.mp accepted
    rcases List.mem_cons.mp member with same | later
    · rw [same, head]
    · exact ih accepted later

theorem assertOwnedBlock_ok
    (accepted : assertOwnedBlock graph ref block = .ok ()) (owned : block.remoteOwnership.isSome = true) :
    graph.blocksByRef.has ref = true ∧ (block.status = .inProgress ∨ block.status = .diverged) := by
  unfold assertOwnedBlock assertRemoteBlockOwnershipInvariant at accepted
  have some' : block.remoteOwnership.isNone = false := by simpa using owned
  rw [some', if_neg (by decide)] at accepted
  split at accepted
  · rename_i declared
    simp only [owned, Bool.true_and] at accepted
    split at accepted
    · cases accepted
    · rename_i status
      simp only [ne_eq, decide_not, Bool.and_eq_true, Bool.not_eq_true', decide_eq_false_iff_not, not_and, not_not] at status
      exact ⟨declared, or_iff_not_imp_left.mpr status⟩
  · cases accepted

theorem ensureStateForGraph_ok (accepted : ensureStateForGraph graph stored = .ok next) :
    assertOwnedBlocks graph stored.blocks.entries = .ok () ∧ next = derivedState graph stored := by
  obtain ⟨_, checked, accepted⟩ := Checked.bind_ok.mp accepted
  cases accepted
  exact ⟨checked, rfl⟩

theorem aggregated_placed (graph : Graph) (stored : RuntimeState) :
    Advances (seededState graph stored) (aggregatedState graph (seededState graph stored)) ∧
      Placed graph (seededState graph stored) ∧ Placed graph (aggregatedState graph (seededState graph stored)) := by
  have seeding := seededState_seeding graph stored
  have start : Placed graph (seededState graph stored) := by
    refine ⟨⟨seeding.ready, ?_⟩, fun ref member => (seeding.blocks ref member).imp (fun _ both => both.1)⟩
    intro taskId implemented
    unfold taskStatus at implemented
    rw [seeding.tasks] at implemented
    cases implemented
  obtain ⟨aggregated, consistent⟩ := aggregateTasks_spec start.consistent graph.taskNodesInManifestOrder
  exact ⟨aggregated, start, consistent, fun ref member => aggregated.stored (start.stored ref member)⟩

/-- What the three loops make of the blocks, whatever errors the graph has. -/
structure RebuiltBlocks (graph : Graph) (stored next : RuntimeState) : Prop extends Pruned graph stored next where
  absent : ∀ ref, ref ∉ graph.blockRefsInManifestOrder → next.blocks.get? ref = none
  blocks : ∀ ref ∈ graph.blockRefsInManifestOrder,
    ∃ block, next.blocks.get? ref = some block ∧ Settles (keptBlock graph stored ref) block
  consistent : Consistent graph next

theorem derivedState_rebuilt (filed : graph.Filed) (stored : RuntimeState) :
    RebuiltBlocks graph stored (derivedState graph stored) := by
  have seeding := seededState_seeding graph stored
  obtain ⟨aggregated, _, second⟩ := aggregated_placed graph stored
  obtain ⟨promoted, final⟩ := promote_spec filed (graph.taskNodesInManifestOrder.length + 1) second
  have advances := aggregated.trans promoted
  refine ⟨⟨advances.currentRefs.trans seeding.currentRefs, advances.currentFeedbackId.trans seeding.currentFeedbackId,
    advances.currentReviewBlockRef.trans seeding.currentReviewBlockRef, advances.feedback.trans seeding.feedback⟩,
    ?_, ?_, final.consistent⟩
  · intro ref outside
    have none := seeding.fresh ref outside
    rcases advances.blocks ref with same | ⟨_, found, _⟩
    · exact same.trans none
    · rw [none] at found
      cases found
  · intro ref inside
    obtain ⟨block, found, settles⟩ := seeding.blocks ref inside
    rcases advances.blocks ref with same | ⟨_, found', planned, after⟩
    · exact ⟨block, same.trans found, settles⟩
    · rw [found] at found'
      cases found'
      exact ⟨_, after, settles.promote planned⟩

theorem ensureStateForGraph_spec (sound : graph.Sound)
    (accepted : ensureStateForGraph graph stored = .ok next) : Reconciled graph stored next := by
  obtain ⟨checked, rfl⟩ := ensureStateForGraph_ok accepted
  obtain ⟨_, _, second⟩ := aggregated_placed graph stored
  have promoted := (promote_spec sound.filed (graph.taskNodesInManifestOrder.length + 1) second).1
  have rebuilt := derivedState_rebuilt sound.filed stored
  refine ⟨rebuilt.toPruned, ?_, rebuilt.absent, rebuilt.blocks, rebuilt.consistent, ?_⟩
  · intro ref block found owned
    have member := (get?_eq_some_iff _).mp found
    obtain ⟨declared, status⟩ := assertOwnedBlock_ok (assertOwnedBlocks_ok checked member) owned
    exact ⟨(sound.declared ref).mpr declared, status⟩
  · intro tasks set taskId inside
    exact promote_complete sound _ second ⟨set.listed, fun other member => promoted.done_iff.mp (set.done other member),
      set.closed⟩ (Nat.le_succ_of_le (pendingTasks_card_le graph _ tasks)) inside

theorem keptBlock_of_existing
    (existing : existingBlock graph stored ref = some block) : keptBlock graph stored ref = block := by
  unfold keptBlock
  rw [existing]
  rfl

theorem taskDependenciesSatisfied_setBlock (graph : Graph) (next : RuntimeState) (ref : String) (block : BlockState)
    (taskId : String) :
    taskDependenciesSatisfied graph (next.setBlock ref block) taskId = taskDependenciesSatisfied graph next taskId := rfl

theorem defaultBlockStatus_setBlock (next : RuntimeState) (ref : String) {left right : BlockState}
    (idleLeft : hasStartedBlock left.status = false) (idleRight : hasStartedBlock right.status = false) :
    defaultBlockStatus graph (next.setBlock ref left) ref = defaultBlockStatus graph (next.setBlock ref right) ref := by
  have same : blockDependenciesCompleted graph (next.setBlock ref left) ref =
      blockDependenciesCompleted graph (next.setBlock ref right) ref := by
    rw [Bool.eq_iff_iff, blockDependenciesCompleted_iff, blockDependenciesCompleted_iff]
    apply forall_congr'
    intro dependency
    apply imp_congr_right
    intro _
    unfold RuntimeState.status
    rw [block_setBlock, block_setBlock]
    split
    · constructor <;> intro completed
      · rw [completed] at idleLeft
        cases idleLeft
      · rw [completed] at idleRight
        cases idleRight
    · exact Iff.rfl
  unfold defaultBlockStatus
  rw [same, taskDependenciesSatisfied_setBlock, taskDependenciesSatisfied_setBlock]

theorem seededBlock_eq (graph : Graph) (stored next : RuntimeState) (ref : String) :
    seededBlock graph stored next ref =
      if hasStartedBlock (keptBlock graph stored ref).status then keptBlock graph stored ref
      else { keptBlock graph stored ref with
        status := defaultBlockStatus graph (next.setBlock ref (keptBlock graph stored ref)) ref } := by
  unfold seededBlock
  cases existing : existingBlock graph stored ref with
  | some =>
    rw [keptBlock_of_existing existing]
    rfl
  | none =>
    unfold keptBlock
    simp only [existing, Option.getD_none, defaultBlockStatus_idle]
    rw [@defaultBlockStatus_setBlock graph next ref { status := defaultBlockStatus graph next ref } { status := .planned }
      (defaultBlockStatus_idle _ _ _) rfl]
    rfl

theorem seedBlock_eq (graph : Graph) (stored next : RuntimeState) (ref : String) :
    seedBlock graph stored next ref = next.setBlock ref (seededBlock graph stored next ref) := by
  unfold seedBlock seededBlock
  simp only
  split
  · rfl
  · unfold setBlock
    simp only [set_set]

theorem seedBlock_congr (next : RuntimeState)
    (similar : Settles (keptBlock graph left ref) (keptBlock graph right ref)) :
    seedBlock graph left next ref = seedBlock graph right next ref := by
  rw [seedBlock_eq, seedBlock_eq, seededBlock_eq, seededBlock_eq]
  generalize keptBlock graph left ref = base at similar
  generalize keptBlock graph right ref = block at similar
  have fields := similar.fields
  rcases similar.status with same | ⟨idleBase, idleBlock⟩
  · rw [same] at fields
    rw [show block = base from fields]
  · rw [if_neg (by simp [idleBase]), if_neg (by simp [idleBlock]), defaultBlockStatus_setBlock next ref idleBase idleBlock,
      fields]

theorem seedBlocks_congr {refs : List String}
    (similar : ∀ ref ∈ refs, Settles (keptBlock graph left ref) (keptBlock graph right ref)) (next : RuntimeState) :
    refs.foldl (seedBlock graph left) next = refs.foldl (seedBlock graph right) next := by
  induction refs generalizing next with
  | nil => rw [List.foldl_nil, List.foldl_nil]
  | cons ref _ ih =>
    rw [List.foldl_cons, List.foldl_cons, seedBlock_congr next (similar ref List.mem_cons_self)]
    exact ih (fun other member => similar other (List.mem_cons_of_mem _ member)) _

theorem derivedState_congr (pruned : prunedState graph left = prunedState graph right)
    (similar : ∀ ref ∈ graph.blockRefsInManifestOrder, Settles (keptBlock graph left ref) (keptBlock graph right ref)) :
    derivedState graph left = derivedState graph right := by
  have seeded : seededState graph left = seededState graph right := by
    unfold seededState
    rw [pruned]
    exact seedBlocks_congr similar (prunedState graph right)
  unfold derivedState
  rw [seeded]

end PlanWeave
