import PlanWeave.Graph.SessionVerdict
import PlanWeave.State.FixedPoint

namespace PlanWeave
open List Option
variable {manifest : Manifest} {graph : Graph} {stored next : RuntimeState} {ref : String}

/-- What `ensureStateForManifest` asks of the remote-owned blocks of a stored state. -/
def OwnersActive (graph : Graph) (stored : RuntimeState) : Prop :=
  ∀ ref block, stored.blocks.get? ref = some block → block.remoteOwnership.isSome = true →
    ref ∈ graph.blockRefsInManifestOrder ∧ (block.status = .inProgress ∨ block.status = .diverged)

/-- The state that `ensureStateForManifest` makes of a stored one, the guard of the reviews apart. -/
structure FixedPoint (graph : Graph) (stored next : RuntimeState) : Prop where
  tasks : ∀ taskId ∈ graph.taskNodesInManifestOrder,
    next.tasks.get? taskId = some (aggregateTaskStatus graph next taskId)
  ready : ∀ ref ∈ graph.blockRefsInManifestOrder, next.status ref = .ready →
    taskDependenciesSatisfied graph next (graph.taskOfRef ref) = true ∧ blockDependenciesCompleted graph next ref = true
  planned : ∀ ref ∈ graph.blockRefsInManifestOrder, next.status ref = .planned →
    taskDependenciesSatisfied graph next (graph.taskOfRef ref) = true → blockDependenciesCompleted graph next ref = true →
    graph.isReview ref = true ∧ hasOpenFeedbackForTask graph next (graph.taskOfRef ref) = true
  started : ∀ ref ∈ graph.blockRefsInManifestOrder, hasStartedBlock (next.status ref) = true →
    next.blocks.get? ref = stored.blocks.get? ref
  kept : ∀ ref ∈ graph.blockRefsInManifestOrder, ∀ block, stored.blocks.get? ref = some block →
    hasStartedBlock block.status = true → receiptDrifts graph ref block = false → next.blocks.get? ref = some block
  tasksListed : ∀ taskId, taskId ∉ graph.taskNodesInManifestOrder → next.tasks.get? taskId = none
  blocksListed : ∀ ref, ref ∉ graph.blockRefsInManifestOrder → next.blocks.get? ref = none

/-- A ready review of a task with active feedback is one that the first loop made ready: its task depends on nothing, and
the blocks it depends on are completed and were visited before it. -/
def ReviewsGuarded (graph : Graph) (stored next : RuntimeState) : Prop :=
  ∀ ref ∈ graph.blockRefsInManifestOrder, graph.isReview ref = true → next.status ref = .ready →
    hasOpenFeedbackForTask graph next (graph.taskOfRef ref) = true →
    neighbors graph.taskDependenciesByTask (graph.taskOfRef ref) = [] ∧
      ∃ before after, graph.blockRefsInManifestOrder = before ++ ref :: after ∧
        ∀ dependency ∈ neighbors graph.blockDependenciesByRef ref,
          (keptBlock graph stored dependency).status = .completed ∧ dependency ∈ before

theorem existing_of_ne_default (other : keptBlock graph stored ref ≠ { status := .planned }) :
    stored.blocks.get? ref = some (keptBlock graph stored ref) := by
  unfold keptBlock at other ⊢
  cases existing : existingBlock graph stored ref with
  | none =>
    rw [existing] at other
    exact absurd rfl other
  | some => exact eq_some_of_filter_eq_some existing

theorem fixedPoint (filed : graph.Filed) (rebuilt : RebuiltBlocks graph stored next) (settled : Settled graph next) :
    FixedPoint graph stored next where
  tasks := by
    intro taskId listed
    cases satisfied : taskDependenciesSatisfied graph next taskId with
    | false => exact settled.waiting taskId listed satisfied
    | true => exact (settled.promoted taskId listed satisfied).entry
  ready := fun ref _ ready => rebuilt.consistent.ready ref ready
  planned := by
    intro ref inside planned satisfied completed
    obtain ⟨taskId, owner⟩ := (filed.owned ref).mp inside
    have named : graph.taskOfRef ref = taskId := by
      unfold Graph.taskOfRef
      rw [owner]
      rfl
    rw [named] at satisfied ⊢
    exact (settled.promoted taskId (filed.taskListed ref taskId owner) satisfied).planned ref
      ((filed.taskRefs ref taskId).mp owner) planned completed
  started := by
    intro ref inside started
    obtain ⟨block, found, settles⟩ := rebuilt.blocks ref inside
    unfold RuntimeState.status RuntimeState.block at started
    rw [found, getD_some] at started
    cases settles.started (.inr started)
    rw [found, existing_of_ne_default fun blank => by rw [blank] at started; cases started]
  kept := by
    intro ref inside block held started fits
    obtain ⟨_, found, settles⟩ := rebuilt.blocks ref inside
    have existing : existingBlock graph stored ref = some block := by
      unfold existingBlock
      rw [held]
      simp [Option.filter, fits]
    rw [keptBlock_of_existing existing] at settles
    rw [found, settles.started (.inl started)]
  tasksListed := settled.unlisted
  blocksListed := rebuilt.absent

theorem Settles.symm {base block : BlockState} (settles : Settles base block) : Settles block base := by
  refine ⟨?_, settles.status.imp Eq.symm And.symm⟩
  rw [settles.fields]

theorem keptBlock_fits (graph : Graph) (stored : RuntimeState) (ref : String) :
    receiptDrifts graph ref (keptBlock graph stored ref) = false := by
  unfold keptBlock existingBlock
  cases found : (stored.blocks.get? ref).filter (fun block => !receiptDrifts graph ref block) with
  | none => rfl
  | some => simpa using (filter_eq_some_iff.mp found).2

section
variable (rebuilt : RebuiltBlocks graph stored next)
include rebuilt

theorem RebuiltBlocks.kept (inside : ref ∈ graph.blockRefsInManifestOrder) :
    ∃ block, next.blocks.get? ref = some block ∧ receiptDrifts graph ref block = false ∧
      Settles (keptBlock graph stored ref) block ∧ keptBlock graph next ref = block := by
  obtain ⟨block, found, settles⟩ := rebuilt.blocks ref inside
  have fits : receiptDrifts graph ref block = false := by
    rw [settles.fields]
    exact keptBlock_fits graph stored ref
  refine ⟨block, found, fits, settles, keptBlock_of_existing ?_⟩
  unfold existingBlock
  rw [found]
  simp [Option.filter, fits]

theorem RebuiltBlocks.pruned : prunedState graph next = prunedState graph stored := by
  have feedback : (prunedState graph next).feedback = (prunedState graph stored).feedback := by
    unfold prunedState
    simp only [rebuilt.feedback]
    unfold prunedState
    simp only [OrderedMap.filter, List.filter_filter, Bool.and_self]
  have twice : ∀ (keep : String → Bool) (pointer : Option String),
      (pointer.filter keep).filter keep = pointer.filter keep := by
    intro keep pointer
    simp [Option.filter_filter]
  apply RuntimeState.ext
  · have current := rebuilt.currentRefs
    unfold prunedState at current ⊢
    simp only at current ⊢
    rw [current, List.filter_eq_self]
    intro ref member
    obtain ⟨_, inside⟩ := List.mem_filter.mp member
    simp only [Bool.and_eq_true, decide_eq_true_eq] at inside
    obtain ⟨_, found, fits, _⟩ := rebuilt.kept inside.1
    simp [inside.1, found, fits]
  · show next.currentFeedbackId.filter (fun id => ((prunedState graph next).feedback.get? id).any _) = _
    rw [rebuilt.currentFeedbackId, feedback]
    exact twice _ _
  · show next.currentReviewBlockRef.filter _ = _
    rw [rebuilt.currentReviewBlockRef]
    exact twice _ _
  · rfl
  · rfl
  · exact feedback

theorem RebuiltBlocks.again : derivedState graph next = derivedState graph stored := by
  refine derivedState_congr rebuilt.pruned fun ref inside => ?_
  obtain ⟨_, _, _, settles, kept⟩ := rebuilt.kept inside
  exact kept ▸ settles.symm

theorem RebuiltBlocks.owners (active : OwnersActive graph stored) : OwnersActive graph next := by
  intro ref block found owned
  have inside : ref ∈ graph.blockRefsInManifestOrder := by
    by_contra outside
    rw [rebuilt.absent ref outside] at found
    cases found
  obtain ⟨_, found', settles⟩ := rebuilt.blocks ref inside
  cases found.symm.trans found'
  have ownedKept : (keptBlock graph stored ref).remoteOwnership.isSome = true := by
    rwa [settles.fields] at owned
  have held := existing_of_ne_default fun blank => by rw [blank] at ownedKept; cases ownedKept
  have status := (active ref _ held ownedKept).2
  rw [settles.started (.inl (by rcases status with status | status <;> rw [status] <;> rfl))]
  exact ⟨inside, status⟩
end

theorem assertOwnedBlocks_iff {entries : List (String × BlockState)} : assertOwnedBlocks graph entries = .ok () ↔
    ∀ entry ∈ entries, assertOwnedBlock graph entry.1 entry.2 = .ok () := by
  refine ⟨fun accepted entry member => assertOwnedBlocks_ok accepted member, fun each => ?_⟩
  induction entries with
  | nil => rfl
  | cons entry _ ih =>
    unfold assertOwnedBlocks
    rw [each entry mem_cons_self]
    exact ih fun other member => each other (mem_cons_of_mem _ member)

theorem ownersActive_iff (filed : graph.Filed) (stored : RuntimeState) :
    assertOwnedBlocks graph stored.blocks.entries = .ok () ↔ OwnersActive graph stored := by
  rw [assertOwnedBlocks_iff]
  constructor
  · intro each ref block found owned
    obtain ⟨declared, status⟩ := assertOwnedBlock_ok (each _ ((OrderedMap.get?_eq_some_iff _).mp found)) owned
    exact ⟨(filed.declared ref).mpr declared, status⟩
  · intro active entry member
    unfold assertOwnedBlock assertRemoteBlockOwnershipInvariant
    cases owned : entry.2.remoteOwnership with
    | none => rfl
    | some =>
      obtain ⟨inside, status⟩ := active entry.1 entry.2 ((OrderedMap.get?_eq_some_iff _).mpr member) (by rw [owned]; rfl)
      rw [(filed.declared entry.1).mp inside]
      rcases status with status | status <;> simp [status]

theorem ensureStateForManifest_ok (compiled : compileTaskGraph manifest = .ok graph) :
    ensureStateForManifest manifest stored = .ok next ↔ OwnersActive graph stored ∧ next = derivedState graph stored := by
  have derived : ensureStateForManifest manifest stored = ensureStateForGraph graph stored := by
    unfold ensureStateForManifest
    rw [compiled]
    rfl
  rw [derived, ← ownersActive_iff (.of_compile compiled)]
  refine ⟨ensureStateForGraph_ok, ?_⟩
  rintro ⟨checked, rfl⟩
  unfold ensureStateForGraph
  rw [checked]
  rfl

theorem hasOpenFeedbackForTask_congr {left right : RuntimeState} (same : left.feedback = right.feedback) (taskId : String) :
    hasOpenFeedbackForTask graph left taskId = hasOpenFeedbackForTask graph right taskId := by
  unfold hasOpenFeedbackForTask
  rw [openFeedback_congr same]

theorem promote_keeps {keeps : RuntimeState → Prop}
    (blocks : ∀ taskId (state : RuntimeState × Bool), ∀ ref ∈ neighbors graph.blocksByTask taskId, keeps state.1 →
      keeps (promoteBlock graph taskId state ref).1)
    (tasks : ∀ taskId state, keeps state → keeps (aggregateTask graph state taskId)) (passes : Nat) {state : RuntimeState}
    (start : keeps state) : keeps (promote graph passes state) := by
  have visit : ∀ taskId (state : RuntimeState × Bool), keeps state.1 → keeps (promoteTask graph state taskId).1 := by
    intro taskId state held
    unfold promoteTask
    split
    · exact tasks taskId _ (List.foldlRecOn (motive := fun next => keeps next.1) _ _ held
        fun next held ref member => blocks taskId next ref member held)
    · exact held
  induction passes generalizing state with
  | zero => exact start
  | succ _ ih =>
    have pass : keeps (graph.taskNodesInManifestOrder.foldl (promoteTask graph) (state, false)).1 :=
      List.foldlRecOn (motive := fun next => keeps next.1) _ _ start fun next held taskId _ => visit taskId next held
    unfold promote
    simp only
    split
    · exact ih pass
    · exact pass

theorem guarded_planned (filed : graph.Filed) (review : graph.isReview ref = true)
    (unanswered : hasOpenFeedbackForTask graph (prunedState graph stored) (graph.taskOfRef ref) = true)
    (planned : (seededState graph stored).status ref = .planned) : (derivedState graph stored).status ref = .planned := by
  let keeps (state : RuntimeState) := state.feedback = (prunedState graph stored).feedback ∧ state.status ref = .planned
  have start : keeps (aggregatedState graph (seededState graph stored)) := List.foldlRecOn (motive := keeps) _ _
    ⟨(seededState_seeding graph stored).feedback, planned⟩ fun _ held _ _ => held
  refine (@promote_keeps graph keeps ?_ (fun _ _ held => held) _ _ start).2
  rintro taskId state other member ⟨feedback, planned⟩
  rcases promoteBlock_cases graph taskId state other with same | ⟨_, _, promoted⟩
  · rw [same]
    exact ⟨feedback, planned⟩
  refine ⟨by rw [promoted]; exact feedback, ?_⟩
  by_cases here : ref = other
  · subst here
    have owner : graph.taskOfRef ref = taskId := by
      unfold Graph.taskOfRef
      rw [(filed.taskRefs ref taskId).mpr member]
      rfl
    have still : hasOpenFeedbackForTask graph state.1 taskId = true := by
      rw [← owner, hasOpenFeedbackForTask_congr feedback]
      exact unanswered
    unfold promoteBlock
    rw [if_neg (by simp [review, still])]
    exact planned
  · rw [promoted]
    unfold RuntimeState.status at planned ⊢
    rw [RuntimeState.block_setBlock_of_ne _ _ here]
    exact planned

/-- The first loop makes a block ready when its task depends on nothing and the blocks it depends on are completed
and were visited before. -/
theorem seeded_ready_visited {before after : List String} (split : graph.blockRefsInManifestOrder = before ++ ref :: after)
    (alone : ref ∉ after) (idle : hasStartedBlock (keptBlock graph stored ref).status = false) :
    (seededState graph stored).status ref = .ready ↔ neighbors graph.taskDependenciesByTask (graph.taskOfRef ref) = [] ∧
      ∀ dependency ∈ neighbors graph.blockDependenciesByRef ref,
        (keptBlock graph stored dependency).status = .completed ∧ dependency ∈ before := by
  have seeding := (Seeding.start graph stored).all before
  simp only [false_or] at seeding
  unfold seededState
  rw [split, foldl_append, foldl_cons]
  generalize before.foldl (seedBlock graph stored) (prunedState graph stored) = next at seeding
  have later : ((after.foldl (seedBlock graph stored) (seedBlock graph stored next ref)).block ref) =
      seededBlock graph stored next ref := by
    refine List.foldlRecOn (motive := fun state : RuntimeState => state.block ref = seededBlock graph stored next ref) _ _
      (by rw [seedBlock_block, if_pos rfl]) fun state held other member => ?_
    rw [seedBlock_block, if_neg fun same : ref = other => alone (same ▸ member)]
    exact held
  unfold RuntimeState.status
  rw [later, seededBlock_eq, if_neg (by rw [idle]; decide)]
  have derived : defaultBlockStatus graph (next.setBlock ref (keptBlock graph stored ref)) ref = .ready ↔
      taskDependenciesSatisfied graph next (graph.taskOfRef ref) = true ∧
        blockDependenciesCompleted graph (next.setBlock ref (keptBlock graph stored ref)) ref = true := by
    unfold defaultBlockStatus
    rw [taskDependenciesSatisfied_setBlock, ← Bool.and_eq_true]
    split <;> simp_all
  refine derived.trans (and_congr ?_ ?_)
  · rw [taskDependenciesSatisfied_iff, eq_nil_iff_forall_not_mem]
    refine forall₂_congr fun dependency _ => ?_
    unfold RuntimeState.taskStatus
    rw [seeding.tasks]
    simp
  · rw [blockDependenciesCompleted_iff]
    refine forall₂_congr fun dependency member => ?_
    unfold RuntimeState.status
    rw [RuntimeState.block_setBlock]
    constructor
    · intro completed
      split at completed
      · rename_i same
        rw [completed] at idle
        cases idle
      · refine ⟨seeding.completed completed, ?_⟩
        by_contra unseen
        unfold RuntimeState.block at completed
        rw [seeding.fresh dependency unseen] at completed
        cases completed
    · rintro ⟨completed, seen⟩
      have apart : dependency ≠ ref := by
        rintro rfl
        rw [completed] at idle
        cases idle
      rw [if_neg apart]
      obtain ⟨block, found, settles⟩ := seeding.blocks dependency seen
      unfold RuntimeState.block
      rw [found, getD_some, settles.started (.inl (by rw [completed]; rfl)), completed]

theorem status_of_idle {state : RuntimeState} (idle : hasStartedBlock (keptBlock graph stored ref).status = false)
    (placed : ∃ block, state.blocks.get? ref = some block ∧ Settles (keptBlock graph stored ref) block) :
    state.status ref = .ready ∨ state.status ref = .planned := by
  obtain ⟨block, found, settles⟩ := placed
  have still : hasStartedBlock block.status = false := by
    rcases settles.status with same | ⟨_, still⟩
    · rw [same, idle]
    · exact still
  unfold RuntimeState.status RuntimeState.block
  rw [found, getD_some]
  cases status : block.status with
  | ready => exact .inl rfl
  | planned => exact .inr rfl
  | _ => rw [status] at still; cases still

theorem RebuiltBlocks.status_iff {next : RuntimeState} (rebuilt : RebuiltBlocks graph stored next)
    (inside : ref ∈ graph.blockRefsInManifestOrder) {status : BlockStatus} (started : hasStartedBlock status = true) :
    next.status ref = status ↔ (keptBlock graph stored ref).status = status := by
  obtain ⟨block, found, settles⟩ := rebuilt.blocks ref inside
  unfold RuntimeState.status RuntimeState.block
  rw [found, getD_some]
  exact ⟨fun same => settles.started (.inr (same ▸ started)) ▸ same, fun same => settles.started (.inl (same ▸ started)) ▸ same⟩

/-- A block that has not started is ready when it may be, or is a review that the first loop made ready. -/
theorem derived_ready_iff (filed : graph.Filed) (inside : ref ∈ graph.blockRefsInManifestOrder)
    (idle : hasStartedBlock (keptBlock graph stored ref).status = false) :
    (derivedState graph stored).status ref = .ready ↔
      if graph.isReview ref = true ∧ hasOpenFeedbackForTask graph (prunedState graph stored) (graph.taskOfRef ref) = true then
        (seededState graph stored).status ref = .ready
      else taskDependenciesSatisfied graph (derivedState graph stored) (graph.taskOfRef ref) = true ∧
        blockDependenciesCompleted graph (derivedState graph stored) ref = true := by
  have rebuilt := derivedState_rebuilt filed stored
  have fixed := fixedPoint filed rebuilt (derivedState_settled filed stored)
  split
  · rename_i guarded
    constructor
    · intro ready
      refine (status_of_idle idle ((seededState_seeding graph stored).blocks ref inside)).resolve_right fun planned => ?_
      rw [guarded_planned filed guarded.1 guarded.2 planned] at ready
      cases ready
    · intro ready
      obtain ⟨aggregated, _, placed⟩ := aggregated_placed graph stored
      exact (aggregated.trans (promote_spec filed _ placed).1).status (by decide) ready
  · rename_i free
    refine ⟨fixed.ready ref inside, fun may => ?_⟩
    refine (status_of_idle idle (rebuilt.blocks ref inside)).resolve_right fun planned => free ?_
    obtain ⟨review, unanswered⟩ := fixed.planned ref inside planned may.1 may.2
    rw [hasOpenFeedbackForTask_congr rebuilt.feedback] at unanswered
    exact ⟨review, unanswered⟩

theorem derivedState_guarded (filed : graph.Filed) (stored : RuntimeState) :
    ReviewsGuarded graph stored (derivedState graph stored) := by
  intro ref inside review ready unanswered
  have rebuilt := derivedState_rebuilt filed stored
  have idle : hasStartedBlock (keptBlock graph stored ref).status = false := by
    rw [← Bool.not_eq_true]
    intro started
    rw [(rebuilt.status_iff inside started).mpr rfl] at ready
    rw [ready] at started
    cases started
  rw [hasOpenFeedbackForTask_congr rebuilt.feedback] at unanswered
  have seeded := (derived_ready_iff filed inside idle).mp ready
  rw [if_pos ⟨review, unanswered⟩] at seeded
  obtain ⟨after, before, split, alone⟩ := eq_append_cons_of_mem (mem_reverse.mpr inside)
  have visited : graph.blockRefsInManifestOrder = before.reverse ++ ref :: after.reverse := by
    rw [← reverse_reverse graph.blockRefsInManifestOrder, split]
    simp
  obtain ⟨free, completed⟩ := (seeded_ready_visited visited (by simpa using alone) idle).mp seeded
  exact ⟨free, _, _, visited, completed⟩

/-- A state is reconciled when the manifest compiles and has the remote-owned blocks, running or stopped. Then the
passes end with nothing left to do, and reconciling again changes nothing. -/
theorem reconciliation_settles (manifest : Manifest) (stored : RuntimeState) :
    ((∃ next, ensureStateForManifest manifest stored = .ok next) ↔
      ∃ graph, compileTaskGraph manifest = .ok graph ∧ OwnersActive graph stored) ∧
    ∀ next, ensureStateForManifest manifest stored = .ok next → ∃ graph, compileTaskGraph manifest = .ok graph ∧
      FixedPoint graph stored next ∧ ReviewsGuarded graph stored next ∧
      ensureStateForManifest manifest next = .ok next := by
  cases compiled : compileTaskGraph manifest with
  | error =>
    have refused : ∀ next, ensureStateForManifest manifest stored ≠ .ok next := by
      intro next derived
      unfold ensureStateForManifest at derived
      rw [compiled] at derived
      cases derived
    exact ⟨⟨fun ⟨next, derived⟩ => absurd derived (refused next), fun ⟨_, impossible, _⟩ => by cases impossible⟩,
      fun next derived => absurd derived (refused next)⟩
  | ok graph =>
    have filed := Graph.Filed.of_compile compiled
    have rebuilt := derivedState_rebuilt filed stored
    refine ⟨⟨?_, ?_⟩, ?_⟩
    · rintro ⟨_, derived⟩
      exact ⟨graph, rfl, ((ensureStateForManifest_ok compiled).mp derived).1⟩
    · rintro ⟨_, same, active⟩
      cases same
      exact ⟨_, (ensureStateForManifest_ok compiled).mpr ⟨active, rfl⟩⟩
    · intro next derived
      obtain ⟨active, rfl⟩ := (ensureStateForManifest_ok compiled).mp derived
      exact ⟨graph, rfl, fixedPoint filed rebuilt (derivedState_settled filed stored), derivedState_guarded filed stored,
        (ensureStateForManifest_ok compiled).mpr ⟨rebuilt.owners active, rebuilt.again.symm⟩⟩

def reviewLast : Manifest := sampleManifest
  [sampleTask "T" [sampleImplementation "a", { sampleReview "r" {} with dependsOn := ["a"] }]] []

def answering : RuntimeState where
  blocks := .ofList [("T#a", { status := .completed })]
  feedback := .ofList [("F-1", ⟨.open, "T#r", none, ""⟩)]

def orphaned : RuntimeState where
  blocks := .ofList [("T#b", { status := .inProgress, remoteOwnership := some (.preparing
    { operationId := ⟨"operation", by decide⟩, sourceRevision := ⟨"revision", by decide⟩,
      graphFingerprint := ⟨"graph", by decide⟩ }) })]

theorem reconciliation_settles_answering : ∃ graph next, compileTaskGraph reviewLast = .ok graph ∧
    ensureStateForManifest reviewLast answering = .ok next ∧ FixedPoint graph answering next ∧
    ReviewsGuarded graph answering next := by
  have answered : (ensureStateForManifest reviewLast answering).toOption.isSome = true := by decide +kernel
  obtain ⟨next, found⟩ := isSome_iff_exists.mp answered
  have derived := Checked.toOption_eq_some.mp found
  obtain ⟨graph, compiled, fixed, guarded, _⟩ := (reconciliation_settles reviewLast answering).2 next derived
  exact ⟨graph, next, compiled, derived, fixed, guarded⟩

/-- The manifest has no block for what a remote operation owns in the state, so there is no state to reconcile to. -/
theorem orphaned_block_refused : compilesCleanly reviewLast = true ∧
    (ensureStateForManifest reviewLast orphaned).toOption = none := by
  decide +kernel

end PlanWeave
