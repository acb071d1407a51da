import PlanWeave.Graph.SessionDrain

namespace PlanWeave
open Checked List

structure Referable (manifest : Manifest) : Prop where
  distinct : (manifest.nodes.map ManifestTask.id).Nodup
  plain : ∀ task ∈ manifest.nodes, ∀ block ∈ task.blocks, PlainId task.id ∧ PlainId block.id

theorem manifestNodeSchema_blockIds {task : ManifestTask} (accepted : manifestNodeSchema task = true) :
    "" ∉ task.blocks.map ManifestBlock.id := by
  unfold manifestNodeSchema at accepted
  simp only [Bool.and_eq_true, all_eq_true] at accepted
  intro inside
  obtain ⟨block, member, empty⟩ := mem_map.mp inside
  have valid := accepted.2 block member
  unfold manifestBlockSchema at valid
  simp only [Bool.and_eq_true] at valid
  simpa [nonempty, empty] using valid.1.1.1.1.1

variable {before after left right manifest : Manifest} {graph : Graph} {session session' : Session}

theorem diff_node {operation : GraphEditOperation}
    (member : operation ∈ diffManifestToGraphOps before after) {node : ManifestTask}
    (origin : operation = .addNode node ∨ operation = .updateNode node) : node ∈ after.nodes := by
  unfold diffManifestToGraphOps at member
  simp only [mem_append] at member
  rcases member with ((removed | changed) | oldEdge) | newEdge
  · obtain ⟨_, _, same⟩ := mem_map.mp removed
    rcases origin with kind | kind <;> rw [kind] at same <;> cases same
  · obtain ⟨_, inside, same⟩ := mem_filterMap.mp changed
    unfold nodeChange at same
    split at same
    · cases same
      rcases origin with kind | kind
      · cases kind
        exact inside
      · cases kind
    · split at same
      · cases same
      cases same
      rcases origin with kind | kind
      · cases kind
      · cases kind
        exact inside
  · obtain ⟨_, _, same⟩ := mem_map.mp oldEdge
    rcases origin with kind | kind <;> rw [kind] at same <;> cases same
  · obtain ⟨_, _, same⟩ := mem_map.mp newEdge
    rcases origin with kind | kind <;> rw [kind] at same <;> cases same

theorem diff_named (schema : manifestSchema after = true) :
    ∀ operation ∈ diffManifestToGraphOps before after, NamedOperation operation := by
  intro operation member
  cases operation with
  | addNode =>
    have valid := manifestSchema_node schema (diff_node member (.inl rfl))
    exact ⟨manifestNodeSchema_id valid, manifestNodeSchema_blockIds valid⟩
  | updateNode =>
    have valid := manifestSchema_node schema (diff_node member (.inr rfl))
    exact ⟨manifestNodeSchema_id valid, manifestNodeSchema_blockIds valid⟩
  | removeNode => trivial
  | addEdge => trivial
  | removeEdge => trivial

theorem diff_plain (referable : Referable after) :
    ∀ operation ∈ diffManifestToGraphOps before after, PlainOperation operation := by
  intro operation member
  cases operation with
  | addNode node => exact referable.plain node (diff_node member (.inl rfl))
  | updateNode node => exact referable.plain node (diff_node member (.inr rfl))
  | removeNode => trivial
  | addEdge => trivial
  | removeEdge => trivial

theorem mem_nodes_congr (distinctLeft : (left.nodes.map ManifestTask.id).Nodup)
    (distinctRight : (right.nodes.map ManifestTask.id).Nodup) (same : ∀ id, taskOf left id = taskOf right id)
    (task : ManifestTask) : task ∈ left.nodes ↔ task ∈ right.nodes := by
  have inLeft := @taskOf_iff left task distinctLeft task.id
  have inRight := @taskOf_iff right task distinctRight task.id
  rw [same] at inLeft
  simp only [and_true] at inLeft inRight
  rw [← inLeft, inRight]

theorem entryOf_congr (indexableLeft : Indexable left) (indexableRight : Indexable right)
    (same : ∀ id, taskOf left id = taskOf right id) (ref : String) : entryOf left ref = entryOf right ref := by
  apply Option.ext
  rintro ⟨task, block⟩
  rw [entryOf_iff indexableLeft, entryOf_iff indexableRight,
    mem_nodes_congr indexableLeft.distinct indexableRight.distinct same]

variable {next : Manifest} {promptIssues : List Issue × List Issue}

theorem aligned_nodeIndexes (indexes : NodeIndexes graph manifest)
    (same : ∀ id, taskOf manifest id = taskOf next id) : NodeIndexes (alignGraphOrder graph next) next where
  nodes id := (indexes.nodes id).trans (same id)
  tasks id := (indexes.tasks id).trans (same id)
  taskOrder := rfl
  dependencyKeys id := by rw [← same]; exact indexes.dependencyKeys id
  dependentKeys id := by rw [← same]; exact indexes.dependentKeys id
  taskBlocks id := by rw [← same]; exact indexes.taskBlocks id
  reviewBlocks id := by rw [← same]; exact indexes.reviewBlocks id

theorem aligned_blockIndexes (indexes : BlockIndexes graph manifest)
    (same : ∀ ref, entryOf manifest ref = entryOf next ref) : BlockIndexes (alignGraphOrder graph next) next where
  refOrder := rfl
  blocks ref := by rw [← same]; exact indexes.blocks ref
  blockTask ref := by rw [← same]; exact indexes.blockTask ref
  blockDependencies ref := by rw [← same]; exact indexes.blockDependencies ref
  blockDependents ref := by rw [← same]; exact indexes.blockDependents ref
  sharedResources ref := by rw [← same]; exact indexes.sharedResources ref
  requiredCapabilities ref := by rw [← same]; exact indexes.requiredCapabilities ref

theorem drain_inv
    (drained : drainManifestChange promptIssues session next = .ok session') (clean : session'.diagnostics = []) :
    ∃ applied graph, (diffManifestToGraphOps session.manifest next).foldlM applyQueuedOperation (session, []) =
        .ok (applied, []) ∧ rebuildEdgeIndexes (alignGraphOrder applied.graph next) next = .ok graph ∧
      session'.graph = graph ∧ session'.manifest = next ∧ graph.errors ++ graph.warnings = [] := by
  obtain ⟨⟨applied, diagnostics⟩, ran, drained⟩ := bind_ok.mp drained
  dsimp only at drained
  split at drained
  · rename_i found
    obtain ⟨_, drained⟩ := rest_ok drained
    cases drained
    exact absurd clean found
  · rename_i none
    have empty : diagnostics = [] := by simpa using none
    subst empty
    obtain ⟨graph, rebuilt, drained⟩ := bind_ok.mp drained
    cases drained
    exact ⟨applied, graph, ran, rebuilt, rfl, rfl, clean⟩

theorem drain_mirror
    (mirror : Mirror session.graph session.manifest) (schema : manifestSchema next = true) (referable : Referable next)
    (drained : drainManifestChange promptIssues session next = .ok session') (clean : session'.diagnostics = []) :
    Mirror session'.graph session'.manifest ∧ session'.manifest = next := by
  obtain ⟨applied, _, ran, rebuilt, sameGraph, sameManifest, _⟩ := drain_inv drained clean
  obtain ⟨reached, edited⟩ := applyQueuedOperations_mirror mirror (diff_named schema) (diff_plain referable) ran
  have tasks : ∀ id, taskOf applied.manifest id = taskOf next id := by
    intro id
    rw [edited]
    exact taskOf_diff mirror.indexable.distinct referable.distinct id
  have indexable : Indexable next := by
    refine ⟨referable.distinct, fun task member => ?_⟩
    rw [← mem_nodes_congr reached.indexable.distinct referable.distinct tasks] at member
    exact reached.indexable.tasks task member
  have nodes := aligned_nodeIndexes reached.indexes.toNodeIndexes tasks
  have blocks := aligned_blockIndexes reached.indexes.toBlockIndexes (entryOf_congr reached.indexable indexable tasks)
  rw [rebuildEdgeIndexes_eq referable.distinct nodes] at rebuilt
  cases rebuilt
  rw [sameGraph, sameManifest]
  exact ⟨⟨{ rebuilt_taskIndexes referable.distinct nodes, rebuilt_blockIndexes blocks with }, indexable⟩, rfl⟩

structure SameIndexes (left right : Graph) : Prop where
  nodes : left.nodesById.Same right.nodesById
  tasks : left.tasksById.Same right.tasksById
  taskOrder : left.taskNodesInManifestOrder = right.taskNodesInManifestOrder
  dependencies : left.taskDependenciesByTask.Same right.taskDependenciesByTask
  dependents : left.taskDependentsByTask.Same right.taskDependentsByTask
  refOrder : left.blockRefsInManifestOrder = right.blockRefsInManifestOrder
  blocks : left.blocksByRef.Same right.blocksByRef
  blockTask : left.blockTaskByRef.Same right.blockTaskByRef
  taskBlocks : left.blocksByTask.Same right.blocksByTask
  reviewBlocks : left.reviewBlocksByTask.Same right.reviewBlocksByTask
  blockDependencies : left.blockDependenciesByRef.Same right.blockDependenciesByRef
  blockDependents : left.blockDependentsByRef.Same right.blockDependentsByRef
  sharedResources : left.sharedResourcesByBlockRef.Same right.sharedResourcesByBlockRef
  requiredCapabilities : left.requiredCapabilitiesByBlockRef.Same right.requiredCapabilitiesByBlockRef
  reachable : ∀ source target, left.taskReachable source target = right.taskReachable source target

theorem Indexes.same {left right : Graph} (first : Indexes left manifest)
    (second : Indexes right manifest) (named : "" ∉ manifest.nodes.map ManifestTask.id) : SameIndexes left right where
  nodes id := by rw [first.nodes, second.nodes]
  tasks id := by rw [first.tasks, second.tasks]
  taskOrder := by rw [first.taskOrder, second.taskOrder]
  dependencies id := by rw [first.dependencies, second.dependencies]
  dependents id := by rw [first.dependents, second.dependents]
  refOrder := by rw [first.refOrder, second.refOrder]
  blocks ref := by rw [first.blocks, second.blocks]
  blockTask ref := by rw [first.blockTask, second.blockTask]
  taskBlocks id := by rw [first.taskBlocks, second.taskBlocks]
  reviewBlocks id := by rw [first.reviewBlocks, second.reviewBlocks]
  blockDependencies ref := by rw [first.blockDependencies, second.blockDependencies]
  blockDependents ref := by rw [first.blockDependents, second.blockDependents]
  sharedResources ref := by rw [first.sharedResources, second.sharedResources]
  requiredCapabilities ref := by rw [first.requiredCapabilities, second.requiredCapabilities]
  reachable source target := by
    rw [Bool.eq_iff_iff, first.taskReachable_iff named, second.taskReachable_iff named]

def openSession (manifest : Manifest) (graph : Graph) : Session :=
  { graph, manifest, dirtyPromptRefs := [], diagnostics := graph.errors ++ graph.warnings }

/-- A sequence of manifests read from disk and drained, each with no diagnostics reported. -/
inductive Drains : Session → List Manifest → Session → Prop where
  | done (session : Session) : Drains session [] session
  | drain {session session' last : Session} {next : Manifest} {rest : List Manifest}
      {promptIssues : List Issue × List Issue} (schema : manifestSchema next = true)
      (drained : drainManifestChange promptIssues session next = .ok session')
      (clean : session'.diagnostics = []) (tail : Drains session' rest last) : Drains session (next :: rest) last

theorem drains_mirror {last : Session} {manifests : List Manifest} (run : Drains session manifests last)
    (mirror : Mirror session.graph session.manifest) (named : "" ∉ session.manifest.nodes.map ManifestTask.id)
    (referable : ∀ manifest ∈ manifests, Referable manifest) :
    Mirror last.graph last.manifest ∧ "" ∉ last.manifest.nodes.map ManifestTask.id ∧
      last.manifest = manifests.getLastD session.manifest := by
  induction run with
  | done => exact ⟨mirror, named, rfl⟩
  | drain schema drained clean _ ih =>
    obtain ⟨reached, same⟩ := drain_mirror mirror schema (referable _ (by simp)) drained clean
    obtain ⟨mirror', named', lastManifest⟩ := ih reached (by rw [same]; exact manifestSchema_named schema)
      (fun manifest member => referable manifest (mem_cons_of_mem _ member))
    refine ⟨mirror', named', ?_⟩
    rw [lastManifest, same]
    exact getLastD_cons.symm

/-- Draining any sequence of manifests with distinct, parsable ids leaves the graph that a full
compile of the last one gives. -/
theorem drained_session_equals_compile {start : Manifest} {graph : Graph}
    (compiled : compileTaskGraph start = .ok graph) (clean : graph.errors = [])
    {manifests : List Manifest} {last : Session} (run : Drains (openSession start graph) manifests last)
    (referable : ∀ manifest ∈ manifests, Referable manifest) :
    last.manifest = manifests.getLastD start ∧
      ∃ recompiled, compileTaskGraph last.manifest = .ok recompiled ∧ SameIndexes last.graph recompiled := by
  have valid := (compileTaskGraph_accepts_iff start).mp ⟨graph, compiled, clean⟩
  have mirror : Mirror graph start := ⟨compiled_indexes compiled valid.toIndexable, valid.toIndexable⟩
  obtain ⟨reached, named, lastManifest⟩ := drains_mirror run mirror valid.named referable
  refine ⟨lastManifest, _, compileTaskGraph_eq reached.indexable, ?_⟩
  exact reached.indexes.same (indexGraph_indexes reached.indexable) named

def oneTask : Manifest := sampleManifest [sampleTask "T" [sampleImplementation "a"]] []

/-- The task of `oneTask` kept and, under the same id, a changed copy of it. -/
def repeatedTask : Manifest :=
  sampleManifest [sampleTask "T" [sampleImplementation "a"], sampleTask "T" [sampleImplementation "b"]] []

def drainsCleanly (start next : Manifest) : Bool :=
  match compileTaskGraph start with
  | .error _ => false
  | .ok graph =>
    match drainManifestChange ([], []) (openSession start graph) next with
    | .error _ => false
    | .ok session => graph.errors = [] && session.diagnostics = []

theorem drainsCleanly_run {start : Manifest} (schema : manifestSchema next = true)
    (cleanly : drainsCleanly start next = true) :
    ∃ graph session, compileTaskGraph start = .ok graph ∧ graph.errors = [] ∧
      Drains (openSession start graph) [next] session := by
  unfold drainsCleanly at cleanly
  split at cleanly
  · cases cleanly
  rename_i graph compiled
  split at cleanly
  · cases cleanly
  · rename_i session drained
    simp only [Bool.and_eq_true, decide_eq_true_eq] at cleanly
    exact ⟨graph, session, compiled, cleanly.1, .drain schema drained cleanly.2 (.done session)⟩

theorem grownTasks_referable : Referable grownTasks := by
  constructor
  · decide +kernel
  · decide +kernel

theorem drained_session_equals_compile_grown : ∃ graph session, compileTaskGraph oneTask = .ok graph ∧
    graph.errors = [] ∧ Drains (openSession oneTask graph) [grownTasks] session ∧
    ∃ recompiled, compileTaskGraph session.manifest = .ok recompiled ∧ SameIndexes session.graph recompiled := by
  obtain ⟨graph, session, compiled, clean, run⟩ :=
    @drainsCleanly_run grownTasks oneTask (by decide +kernel) (by decide +kernel)
  refine ⟨graph, session, compiled, clean, run, ?_⟩
  apply (drained_session_equals_compile compiled clean run ?_).2
  intro manifest member
  rw [mem_singleton] at member
  exact member ▸ grownTasks_referable

def silentlyDiffers (start next : Manifest) : Bool :=
  match compileTaskGraph start with
  | .error _ => false
  | .ok graph =>
    match drainManifestChange ([], []) (openSession start graph) next, compileTaskGraph next with
    | .ok session, .ok recompiled => graph.errors = [] && session.diagnostics = [] &&
        session.graph.blockRefsInManifestOrder ≠ recompiled.blockRefsInManifestOrder
    | _, _ => false

theorem repeated_task_drains_silently : silentlyDiffers oneTask repeatedTask = true := by decide +kernel

theorem repeated_task_differs_from_compile : manifestSchema repeatedTask = true ∧
    ∃ graph session recompiled, compileTaskGraph oneTask = .ok graph ∧ graph.errors = [] ∧
      Drains (openSession oneTask graph) [repeatedTask] session ∧
      compileTaskGraph session.manifest = .ok recompiled ∧ ¬ SameIndexes session.graph recompiled := by
  have differs := repeated_task_drains_silently
  unfold silentlyDiffers at differs
  split at differs
  · cases differs
  rename_i graph compiled
  split at differs
  · rename_i session recompiled drained compiledNext
    simp only [Bool.and_eq_true, decide_eq_true_eq] at differs
    have schema : manifestSchema repeatedTask = true := by decide +kernel
    have same := (drain_inv drained differs.1.2).choose_spec.choose_spec.2.2.2.1
    refine ⟨schema, graph, session, recompiled, compiled, differs.1.1,
      .drain schema drained differs.1.2 (.done session), same ▸ compiledNext, ?_⟩
    intro indexes
    exact differs.2 indexes.refOrder
  · cases differs

end PlanWeave
