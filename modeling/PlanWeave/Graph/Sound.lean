import PlanWeave.Graph.Wellformed

namespace PlanWeave
open List Option OrderedMap

/-- What scheduling relies on in a compiled graph, in terms of its indexes alone. -/
structure Graph.Sound (graph : Graph) : Prop where
  refsDistinct : graph.blockRefsInManifestOrder.Nodup
  tasksDistinct : graph.taskNodesInManifestOrder.Nodup
  declared : ∀ ref, ref ∈ graph.blockRefsInManifestOrder ↔ graph.blocksByRef.has ref = true
  owned : ∀ ref, ref ∈ graph.blockRefsInManifestOrder ↔ ∃ taskId, graph.blockTaskByRef.get? ref = some taskId
  taskRefs : ∀ ref taskId, graph.blockTaskByRef.get? ref = some taskId ↔ ref ∈ neighbors graph.blocksByTask taskId
  taskListed : ∀ ref taskId, graph.blockTaskByRef.get? ref = some taskId → taskId ∈ graph.taskNodesInManifestOrder
  named : ∀ ref taskId, graph.blockTaskByRef.get? ref = some taskId → taskId ≠ ""
  dependencyListed : ∀ taskId, ∀ dependency ∈ neighbors graph.taskDependenciesByTask taskId,
    dependency ∈ graph.taskNodesInManifestOrder
  blockDependency : ∀ ref, ∀ dependency ∈ neighbors graph.blockDependenciesByRef ref,
    dependency ∈ graph.blockRefsInManifestOrder ∧
      graph.blockTaskByRef.get? dependency = graph.blockTaskByRef.get? ref
  acyclic : Search.Acyclic (Search.edge (neighbors graph.taskDependenciesByTask))
  reachable : ∀ source target, graph.taskReachable source target = true ↔
    Relation.TransGen (Search.edge (neighbors graph.taskDependenciesByTask)) source target

structure Graph.Filed (graph : Graph) : Prop where
  declared : ∀ ref, ref ∈ graph.blockRefsInManifestOrder ↔ graph.blocksByRef.has ref = true
  owned : ∀ ref, ref ∈ graph.blockRefsInManifestOrder ↔ ∃ taskId, graph.blockTaskByRef.get? ref = some taskId
  taskRefs : ∀ ref taskId, graph.blockTaskByRef.get? ref = some taskId ↔ ref ∈ neighbors graph.blocksByTask taskId
  taskListed : ∀ ref taskId, graph.blockTaskByRef.get? ref = some taskId → taskId ∈ graph.taskNodesInManifestOrder

variable {graph : Graph}

theorem Graph.Sound.filed (sound : graph.Sound) : graph.Filed :=
  ⟨sound.declared, sound.owned, sound.taskRefs, sound.taskListed⟩

variable {manifest : Manifest}

theorem visited_blocks {task : ManifestTask} (visited : task ∈ visitedTasks manifest) :
    (ofList ((visitedTasks manifest).map (fun task => (task.id, blockRefs task)))).get? task.id =
      some (blockRefs task) := by
  have known : (ofList ((visitedTasks manifest).map (fun task => (task.id, blockRefs task)))).has task.id =
      true := has_ofList.mpr (mem_map.mpr ⟨_, mem_map_of_mem visited, rfl⟩)
  obtain ⟨_, found⟩ := isSome_iff_exists.mp known
  obtain ⟨_, member, same⟩ := mem_map.mp (mem_of_ofList found)
  obtain ⟨sameId, rfl⟩ := Prod.mk.injEq .. ▸ same
  have stands := mem_visitedTasks.mp member
  rw [sameId, mem_visitedTasks.mp visited] at stands
  rw [found, Option.some.inj stands]

theorem Graph.Filed.of_compile (compiled : compileTaskGraph manifest = .ok graph) : graph.Filed := by
  obtain ⟨_, accepted, built⟩ := Checked.bind_ok.mp compiled
  cases built
  have keys : ∀ {ν : Type} (value : String × (ManifestTask × ManifestBlock) → ν) (ref : String),
      (ofList ((blockEntries (visitedTasks manifest)).map (fun entry => (entry.1, value entry)))).has ref =
        true ↔ ref ∈ (blockEntries (visitedTasks manifest)).map Prod.fst := by
    intro ν value ref
    rw [has_ofList, List.map_map]
    rfl
  have owner : ∀ ref taskId, (ofList ((blockEntries (visitedTasks manifest)).map
      (fun entry => (entry.1, entry.2.1.id)))).get? ref = some taskId →
      ∃ task ∈ visitedTasks manifest, ∃ block ∈ task.blocks, ref = blockRef task.id block.id ∧ taskId = task.id := by
    intro ref taskId found
    obtain ⟨⟨_, task, block⟩, member, same⟩ := List.mem_map.mp (mem_of_ofList found)
    cases same
    obtain ⟨memberTask, memberBlock, refOf⟩ := mem_blockEntries.mp member
    exact ⟨task, memberTask, block, memberBlock, refOf, rfl⟩
  have owned := keys (fun entry => entry.2.1.id)
  refine ⟨fun ref => (keys (fun entry => entry.2.2) ref).symm,
    fun ref => (owned ref).symm.trans Option.isSome_iff_exists, ?_, ?_⟩
  · intro ref taskId
    constructor
    · intro found
      obtain ⟨task, visited, _, member, rfl, rfl⟩ := owner ref taskId found
      show _ ∈ neighbors (ofList ((visitedTasks manifest).map (fun task => (task.id, blockRefs task)))) _
      unfold neighbors
      rw [visited_blocks visited]
      exact List.mem_map_of_mem member
    · intro member
      change ref ∈ neighbors (ofList ((visitedTasks manifest).map (fun task => (task.id, blockRefs task)))) _
        at member
      unfold neighbors at member
      cases found : (ofList ((visitedTasks manifest).map (fun task => (task.id, blockRefs task)))).get? taskId with
      | none =>
        rw [found] at member
        cases member
      | some =>
        rw [found] at member
        obtain ⟨task, visited, same⟩ := List.mem_map.mp (mem_of_ofList found)
        cases same
        obtain ⟨block, memberBlock, refOf⟩ := List.mem_map.mp member
        have listed : ref ∈ (blockEntries (visitedTasks manifest)).map Prod.fst :=
          List.mem_map.mpr ⟨(ref, task, block), mem_blockEntries.mpr ⟨visited, memberBlock, refOf.symm⟩, rfl⟩
        obtain ⟨taskId, held⟩ := Option.isSome_iff_exists.mp ((owned ref).mpr listed)
        obtain ⟨_, visited', _, memberBlock', refOf', rfl⟩ := owner ref taskId held
        have same := (blockRef_injective (mapM_indexable accepted visited memberBlock).1
          (mapM_indexable accepted visited' memberBlock').1 (refOf.trans refOf')).1
        rw [same]
        exact held
  · intro ref taskId found
    obtain ⟨task, visited, _, _, _, rfl⟩ := owner ref taskId found
    exact (nodeMap_has manifest task.id).mp (Option.isSome_of_mem (mem_visitedTasks.mp visited))

theorem Indexes.task_of_entry (indexable : Indexable manifest)
    (indexes : Indexes graph manifest) (ref taskId : String) :
    graph.blockTaskByRef.get? ref = some taskId ↔ ref ∈ neighbors graph.blocksByTask taskId := by
  unfold neighbors
  rw [indexes.blockTask, indexes.taskBlocks]
  constructor
  · intro found
    obtain ⟨⟨_, block⟩, entry, same⟩ := map_eq_some_iff.mp found
    obtain ⟨memberTask, memberBlock, sameRef⟩ := (entryOf_iff indexable).mp entry
    have listed := (taskOf_iff indexable.distinct).mpr ⟨memberTask, same⟩
    rw [listed]
    exact mem_map.mpr ⟨block, memberBlock, sameRef.symm⟩
  · intro member
    cases listed : taskOf manifest taskId with
    | none => simp [listed] at member
    | some =>
      obtain ⟨memberTask, sameTask⟩ := (taskOf_iff indexable.distinct).mp listed
      rw [listed] at member
      obtain ⟨_, memberBlock, sameRef⟩ := mem_map.mp member
      have entry := (entryOf_iff indexable).mpr ⟨memberTask, memberBlock, sameRef.symm⟩
      rw [entry]
      exact congrArg some sameTask

theorem Indexes.dependency_of_entry (indexable : Indexable manifest)
    (indexes : Indexes graph manifest) {ref dependency : String}
    (member : dependency ∈ neighbors graph.blockDependenciesByRef ref) : dependency ∈ graph.blockRefsInManifestOrder ∧
      graph.blockTaskByRef.get? dependency = graph.blockTaskByRef.get? ref := by
  obtain ⟨_, _, _, found, known⟩ := blockStep_entries indexable ((indexes.block_step indexable).mp member)
  constructor
  · rw [indexes.refOrder, ← entryOf_isSome, known]
    rfl
  · rw [indexes.blockTask, indexes.blockTask, known, found]
    rfl

theorem Graph.Sound.of_compile (compiled : compileTaskGraph manifest = .ok graph)
    (clean : graph.errors = []) : graph.Sound := by
  have valid := (compileTaskGraph_accepts_iff manifest).mp ⟨graph, compiled, clean⟩
  have indexes := compiled_indexes compiled valid.toIndexable
  have edges : Search.edge (neighbors graph.taskDependenciesByTask) = taskStep manifest := by
    funext source target
    exact propext (indexes.neighbors_eq source target)
  have owned : ∀ ref, ref ∈ graph.blockRefsInManifestOrder ↔ (entryOf manifest ref).isSome = true := by
    intro ref
    rw [indexes.refOrder, entryOf_isSome]
  have listed : ∀ ref taskId, graph.blockTaskByRef.get? ref = some taskId →
      taskId ∈ graph.taskNodesInManifestOrder := by
    intro ref taskId found
    rw [indexes.blockTask] at found
    obtain ⟨⟨_, _⟩, entry, same⟩ := map_eq_some_iff.mp found
    rw [indexes.taskOrder, ← same]
    exact mem_map_of_mem ((entryOf_iff valid.toIndexable).mp entry).1
  exact {
    refsDistinct := indexes.refOrder ▸ valid.toIndexable.refs_distinct
    tasksDistinct := indexes.taskOrder ▸ valid.distinct
    declared := fun ref => by rw [owned, has, indexes.blocks, isSome_map]
    owned := fun ref => by rw [owned, ← isSome_iff_exists, indexes.blockTask, isSome_map]
    taskRefs := indexes.task_of_entry valid.toIndexable
    taskListed := listed
    named := by
      intro ref taskId found empty
      have member := listed ref taskId found
      rw [indexes.taskOrder, empty] at member
      exact valid.named member
    dependencyListed := by
      intro taskId dependency member
      have step := (indexes.neighbors_eq taskId dependency).mp member
      obtain ⟨_, known, _⟩ := (indexes.task_edge taskId dependency).mpr step
      rw [has, indexes.dependencies, isSome_map, taskOf_isSome] at known
      rw [indexes.taskOrder]
      exact known
    blockDependency := fun ref dependency member => indexes.dependency_of_entry valid.toIndexable member
    acyclic := edges ▸ valid.tasksAcyclic
    reachable := by
      intro source target
      rw [edges]
      exact indexes.taskReachable_iff valid.named source target
  }

/-- A manifest compiles without errors exactly when it is well formed. Then the indexes read back its tasks, blocks and edges, and
what reaches what follows the dependencies. -/
theorem compiles_cleanly_iff_wellformed (manifest : Manifest) :
    ((∃ graph, compileTaskGraph manifest = .ok graph ∧ graph.errors = []) ↔ Wellformed manifest) ∧
    ∀ graph, compileTaskGraph manifest = .ok graph → graph.errors = [] → Indexes graph manifest ∧
      ∀ source target, (graph.taskReachable source target = true ↔ Relation.TransGen (taskStep manifest) source target) ∧
        (graph.blockReachable source target = true ↔ Relation.TransGen (blockStep manifest) source target) := by
  refine ⟨compileTaskGraph_accepts_iff manifest, fun graph compiled clean => ?_⟩
  have valid := (compileTaskGraph_accepts_iff manifest).mp ⟨graph, compiled, clean⟩
  have indexes := compiled_indexes compiled valid.toIndexable
  exact ⟨indexes, fun source target =>
    ⟨indexes.taskReachable_iff valid.named source target, indexes.blockReachable_iff valid.toIndexable source target⟩⟩

end PlanWeave
