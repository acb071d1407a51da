import PlanWeave.Graph.SessionSteps

namespace PlanWeave
open Checked List Option OrderedMap

structure NodeIndexes (graph : Graph) (manifest : Manifest) : Prop where
  nodes : ∀ id, graph.nodesById.get? id = taskOf manifest id
  tasks : ∀ id, graph.tasksById.get? id = taskOf manifest id
  taskOrder : graph.taskNodesInManifestOrder = manifest.nodes.map ManifestTask.id
  dependencyKeys : ∀ id, graph.taskDependenciesByTask.has id = (taskOf manifest id).isSome
  dependentKeys : ∀ id, graph.taskDependentsByTask.has id = (taskOf manifest id).isSome
  taskBlocks : ∀ id, graph.blocksByTask.get? id = (taskOf manifest id).map blockRefs
  reviewBlocks : ∀ id, graph.reviewBlocksByTask.get? id = (taskOf manifest id).map reviewRefs

variable {manifest : Manifest}

theorem TaskIndexes.toNodeIndexes {graph : Graph} (indexes : TaskIndexes graph manifest) :
    NodeIndexes graph manifest where
  nodes := indexes.nodes
  tasks := indexes.tasks
  taskOrder := indexes.taskOrder
  dependencyKeys id := by rw [has, indexes.dependencies, isSome_map]
  dependentKeys id := by rw [has, indexes.dependents, isSome_map]
  taskBlocks := indexes.taskBlocks
  reviewBlocks := indexes.reviewBlocks

def withEdges (graph : Graph) (edges : List ManifestEdge) : Graph :=
  { graph with
    taskDependenciesByTask := graph.taskDependenciesByTask.pushAll
      (edges.map (fun edge => (edge.source, edge.target)))
    taskDependentsByTask := graph.taskDependentsByTask.pushAll
      (edges.map (fun edge => (edge.target, edge.source))) }

variable {edge : ManifestEdge} {edges : List ManifestEdge} {map : OrderedMap String (List String)}
variable {node : ManifestTask}

theorem addEdgeIndexes_eq {graph : Graph} (source : graph.taskDependenciesByTask.has edge.source = true)
    (target : graph.taskDependentsByTask.has edge.target = true) :
    addEdgeIndexes graph edge = .ok (withEdges graph [edge]) := by
  simp [addEdgeIndexes, pushRequired_eq source, pushRequired_eq target, withEdges, pushAll,
    Bind.bind, Except.bind, Pure.pure, Except.pure]

theorem foldlM_addEdgeIndexes {graph : Graph}
    (sources : ∀ edge ∈ edges, graph.taskDependenciesByTask.has edge.source = true)
    (targets : ∀ edge ∈ edges, graph.taskDependentsByTask.has edge.target = true) :
    edges.foldlM addEdgeIndexes graph = .ok (withEdges graph edges) := by
  induction edges generalizing graph with
  | nil => simp [withEdges, pushAll, Pure.pure, Except.pure]
  | cons edge rest ih =>
    have joined : withEdges (withEdges graph [edge]) rest = withEdges graph (edge :: rest) := by
      simp [withEdges, pushAll]
    rw [foldlM_cons_ok (addEdgeIndexes_eq (sources edge (by simp)) (targets edge (by simp))), ← joined]
    apply ih
    · intro other member
      simpa only [withEdges, has_pushAll] using sources other (mem_cons_of_mem _ member)
    · intro other member
      simpa only [withEdges, has_pushAll] using targets other (mem_cons_of_mem _ member)

def clearEdges (graph : Graph) : Graph :=
  { graph with
    taskDependenciesByTask := graph.taskDependenciesByTask.setAll
      (graph.taskNodesInManifestOrder.map (fun id => (id, ([] : List String))))
    taskDependentsByTask := graph.taskDependentsByTask.setAll
      (graph.taskNodesInManifestOrder.map (fun id => (id, ([] : List String)))) }

section
variable (distinct : (manifest.nodes.map ManifestTask.id).Nodup)
include distinct

theorem cleared_get? (keys : ∀ id, map.has id = (taskOf manifest id).isSome) (id : String) :
    (map.setAll ((manifest.nodes.map ManifestTask.id).map (fun id => (id, ([] : List String))))).get? id =
      (taskOf manifest id).map (fun _ => []) := by
  rw [get?_setAll_of_distinct _ (by simpa [Function.comp_def] using distinct), find_empty]
  cases found : taskOf manifest id with
  | some =>
    have present : id ∈ manifest.nodes.map ManifestTask.id := by
      rw [← taskOf_isSome, found]
      rfl
    rw [if_pos present]
    rfl
  | none =>
    have absent : id ∉ manifest.nodes.map ManifestTask.id := by
      rw [← taskOf_isSome, found]
      simp
    have missing := keys id
    rw [found] at missing
    rw [if_neg absent, none_or]
    simpa [has] using missing

theorem rebuildEdgeIndexes_eq {graph : Graph} (indexes : NodeIndexes graph manifest) :
    rebuildEdgeIndexes graph manifest = .ok (withEdges (clearEdges graph) (connectedEdges manifest)) := by
  have edges := connected_eq indexes.nodes
  have ends : ∀ edge ∈ connectedEdges manifest,
      (taskOf manifest edge.source).isSome = true ∧ (taskOf manifest edge.target).isSome = true := by
    intro edge member
    have both := (mem_filter.mp member).2
    rwa [Bool.and_eq_true] at both
  show (connected graph.nodesById manifest.edges).foldlM addEdgeIndexes (clearEdges graph) = _
  rw [edges]
  apply foldlM_addEdgeIndexes
  · intro edge member
    unfold clearEdges has
    simp only [indexes.taskOrder]
    rw [cleared_get? distinct indexes.dependencyKeys, isSome_map]
    exact (ends edge member).1
  · intro edge member
    unfold clearEdges has
    simp only [indexes.taskOrder]
    rw [cleared_get? distinct indexes.dependentKeys, isSome_map]
    exact (ends edge member).2

theorem rebuilt_taskIndexes {graph : Graph}
    (indexes : NodeIndexes graph manifest) :
    TaskIndexes (withEdges (clearEdges graph) (connectedEdges manifest)) manifest where
  nodes := indexes.nodes
  tasks := indexes.tasks
  taskOrder := indexes.taskOrder
  dependencies id := by
    unfold withEdges clearEdges
    simp only [indexes.taskOrder]
    rw [get?_pushAll, cleared_get? distinct indexes.dependencyKeys, List.filter_map, List.map_map,
      Option.map_map]
    rfl
  dependents id := by
    unfold withEdges clearEdges
    simp only [indexes.taskOrder]
    rw [get?_pushAll, cleared_get? distinct indexes.dependentKeys, List.filter_map, List.map_map,
      Option.map_map]
    rfl
  taskBlocks := indexes.taskBlocks
  reviewBlocks := indexes.reviewBlocks
end

theorem rebuilt_blockIndexes {graph : Graph}
    (indexes : BlockIndexes graph manifest) : BlockIndexes (withEdges (clearEdges graph) edges) manifest where
  refOrder := indexes.refOrder
  blocks := indexes.blocks
  blockTask := indexes.blockTask
  blockDependencies := indexes.blockDependencies
  blockDependents := indexes.blockDependents
  sharedResources := indexes.sharedResources
  requiredCapabilities := indexes.requiredCapabilities

def setNodes (manifest : Manifest) (nodes : List ManifestTask) : Manifest := { manifest with nodes }

theorem taskOf_append (id : String) : taskOf (setNodes manifest (manifest.nodes ++ [node])) id =
      (taskOf manifest id).or (if node.id = id then some node else none) := by
  unfold taskOf setNodes
  simp only [map_append, find_append, map_cons, map_nil, find]

theorem taskOf_replaceFirst (member : node.id ∈ manifest.nodes.map ManifestTask.id) (id : String) :
    taskOf (setNodes manifest (replaceFirst node manifest.nodes)) id =
      if id = node.id then some node else taskOf manifest id := by
  unfold taskOf setNodes
  generalize manifest.nodes = nodes at member
  induction nodes with
  | nil => cases member
  | cons first rest ih =>
    by_cases same : first.id = node.id
    · by_cases wanted : id = node.id
      · simp [replaceFirst, same, wanted, find]
      · have other : ¬ node.id = id := fun equal => wanted equal.symm
        simp [replaceFirst, same, wanted, other, find]
    · have inside : node.id ∈ rest.map ManifestTask.id := by
        rcases mem_cons.mp member with equal | inside
        · exact absurd equal.symm same
        · exact inside
      by_cases found : first.id = id
      · have other : ¬ id = node.id := fun equal => same (found.trans equal)
        simp [replaceFirst, found, other, find]
      · simp only [replaceFirst, same, if_false, map_cons, find, found, ih inside]

theorem taskOf_filter (removed id : String) :
    taskOf (setNodes manifest (manifest.nodes.filter (fun item => item.id ≠ removed))) id =
      if id = removed then none else taskOf manifest id := by
  unfold taskOf setNodes
  induction manifest.nodes with
  | nil => simp [find]
  | cons first _ ih =>
    by_cases gone : first.id = removed
    · by_cases wanted : id = removed
      · rw [if_pos wanted] at ih ⊢
        simpa [gone] using ih
      · have other : ¬ removed = id := fun equal => wanted equal.symm
        rw [if_neg wanted] at ih ⊢
        simpa [gone, other, find] using ih
    · by_cases found : first.id = id
      · have other : ¬ id = removed := fun equal => gone (found.trans equal)
        simp [found, other, find]
      · simp only [gone, ne_eq, not_false_eq_true, decide_true, filter_cons_of_pos, map_cons,
          find, found, if_false]
        exact ih

theorem replaceFirst_ids (node : ManifestTask) (nodes : List ManifestTask) :
    (replaceFirst node nodes).map ManifestTask.id = nodes.map ManifestTask.id := by
  induction nodes with
  | nil => rfl
  | cons first _ ih =>
    by_cases same : first.id = node.id
    · simp [replaceFirst, same]
    · simp [replaceFirst, same, ih]

section WithTask
variable (graph : Graph) (task : ManifestTask)

theorem withTask_nodes (id : String) :
    (withTask graph task).nodesById.get? id = if id = task.id then some task else graph.nodesById.get? id :=
  get?_set _ _ _ _

theorem withTask_tasks (id : String) :
    (withTask graph task).tasksById.get? id = if id = task.id then some task else graph.tasksById.get? id :=
  get?_set _ _ _ _

theorem withTask_dependencyKeys (id : String) :
    (withTask graph task).taskDependenciesByTask.has id =
      (decide (id = task.id) || graph.taskDependenciesByTask.has id) :=
  has_set _ _ _ _

theorem withTask_dependentKeys (id : String) :
    (withTask graph task).taskDependentsByTask.has id =
      (decide (id = task.id) || graph.taskDependentsByTask.has id) :=
  has_set _ _ _ _

theorem set_pushAll_get? {key id : String} {items : List ManifestBlock} :
    ((map.set key []).pushAll (items.map (fun block => (key, blockRef key block.id)))).get? id =
      if id = key then some (items.map (fun block => blockRef key block.id)) else map.get? id := by
  have single := get?_pushAll_single (map.set key []) key id (items.map (fun block => blockRef key block.id))
  rw [List.map_map] at single
  show ((map.set key []).pushAll (items.map ((fun item => (key, item)) ∘ fun block => blockRef key block.id))).get? id = _
  rw [single, get?_set]
  by_cases same : id = key
  · simp [same]
  · simp [same]

theorem withTask_taskBlocks (id : String) :
    (withTask graph task).blocksByTask.get? id =
      if id = task.id then some (blockRefs task) else graph.blocksByTask.get? id :=
  set_pushAll_get?

theorem withTask_reviewBlocks (id : String) :
    (withTask graph task).reviewBlocksByTask.get? id =
      if id = task.id then some (reviewRefs task) else graph.reviewBlocksByTask.get? id :=
  set_pushAll_get?

end WithTask

theorem taskOf_append_fresh (fresh : node.id ∉ manifest.nodes.map ManifestTask.id) (id : String) :
    taskOf (setNodes manifest (manifest.nodes ++ [node])) id =
      if id = node.id then some node else taskOf manifest id := by
  rw [taskOf_append]
  by_cases same : id = node.id
  · have absent : taskOf manifest id = none := by
      rw [← not_isSome_iff_eq_none, taskOf_isSome, same]
      exact fresh
    rw [same] at absent ⊢
    simp [absent]
  · have other : ¬ node.id = id := fun equal => same equal.symm
    simp [same, other]

variable {refs : List String} {left right graph' : Graph} {key : String}

theorem NodeIndexes.of_withTask {graph : Graph} {manifest' : Manifest} {task : ManifestTask}
    (nodes : ∀ id, id ≠ task.id → graph.nodesById.get? id = taskOf manifest id)
    (tasks : ∀ id, id ≠ task.id → graph.tasksById.get? id = taskOf manifest id)
    (dependencyKeys : ∀ id, id ≠ task.id → graph.taskDependenciesByTask.has id = (taskOf manifest id).isSome)
    (dependentKeys : ∀ id, id ≠ task.id → graph.taskDependentsByTask.has id = (taskOf manifest id).isSome)
    (taskBlocks : ∀ id, id ≠ task.id → graph.blocksByTask.get? id = (taskOf manifest id).map blockRefs)
    (reviewBlocks : ∀ id, id ≠ task.id → graph.reviewBlocksByTask.get? id = (taskOf manifest id).map reviewRefs)
    (after : ∀ id, taskOf manifest' id = if id = task.id then some task else taskOf manifest id)
    {order : List String} (ordered : order = manifest'.nodes.map ManifestTask.id) :
    NodeIndexes { withTask graph task with taskNodesInManifestOrder := order, blockRefsInManifestOrder := refs }
      manifest' := by
  constructor
  case taskOrder => exact ordered
  all_goals
    intro id
    rw [after]
    by_cases same : id = task.id
    · simp only [same, if_true, withTask_nodes, withTask_tasks, withTask_dependencyKeys, withTask_dependentKeys,
        withTask_taskBlocks, withTask_reviewBlocks, decide_true, Bool.true_or, isSome_some, map_some]
    simp only [same, if_false, withTask_nodes, withTask_tasks, withTask_dependencyKeys, withTask_dependentKeys,
      withTask_taskBlocks, withTask_reviewBlocks, decide_false, Bool.false_or]
    first
      | exact nodes id same
      | exact tasks id same
      | exact dependencyKeys id same
      | exact dependentKeys id same
      | exact taskBlocks id same
      | exact reviewBlocks id same

theorem NodeIndexes.addNode {graph : Graph}
    (indexes : NodeIndexes graph manifest) (fresh : node.id ∉ manifest.nodes.map ManifestTask.id) :
    NodeIndexes (withTask (setNode graph node) node) (setNodes manifest (manifest.nodes ++ [node])) := by
  apply @NodeIndexes.of_withTask manifest (withTask (setNode graph node) node).blockRefsInManifestOrder _ _ node
    ?_ ?_ ?_ ?_ ?_ ?_ ?_ (withTask (setNode graph node) node).taskNodesInManifestOrder
  · show (if node.id ∈ graph.taskNodesInManifestOrder then _ else graph.taskNodesInManifestOrder ++ [node.id]) = _
    rw [indexes.taskOrder, if_neg fresh]
    simp [setNodes]
  · intro id different
    exact (get?_set_of_ne _ _ different).trans (indexes.nodes id)
  · intro id _
    exact indexes.tasks id
  · intro id _
    exact indexes.dependencyKeys id
  · intro id _
    exact indexes.dependentKeys id
  · intro id _
    exact indexes.taskBlocks id
  · intro id _
    exact indexes.reviewBlocks id
  · exact taskOf_append_fresh fresh

theorem removeTaskIndexes_eq {graph : Graph} {taskId : String}
    (found : graph.blocksByTask.get? taskId = some refs) :
    removeTaskIndexes graph taskId = .ok (withoutTask graph taskId refs, refs) := by
  simp only [removeTaskIndexes, requireMapValue_eq found, Bind.bind, Except.bind, Pure.pure, Except.pure]

theorem NodeIndexes.removeNode {graph : Graph} (indexes : NodeIndexes graph manifest)
    (nodeId : String) (refs : List String) : NodeIndexes (withoutTask graph nodeId refs)
      (setNodes manifest (manifest.nodes.filter (fun item => item.id ≠ nodeId))) := by
  constructor
  case taskOrder =>
    show graph.taskNodesInManifestOrder.filter _ = _
    rw [indexes.taskOrder, List.filter_map]
    rfl
  case nodes =>
    intro id
    rw [taskOf_filter, ← indexes.nodes]
    exact get?_erase _ _ _
  case tasks =>
    intro id
    rw [taskOf_filter, ← indexes.tasks]
    exact get?_erase _ _ _
  case dependencyKeys =>
    intro id
    show (graph.taskDependenciesByTask.erase nodeId).has id = _
    rw [taskOf_filter, has, get?_erase]
    by_cases same : id = nodeId
    · simp [same]
    · simpa [same, has] using indexes.dependencyKeys id
  case dependentKeys =>
    intro id
    show (graph.taskDependentsByTask.erase nodeId).has id = _
    rw [taskOf_filter, has, get?_erase]
    by_cases same : id = nodeId
    · simp [same]
    · simpa [same, has] using indexes.dependentKeys id
  case taskBlocks =>
    intro id
    show (graph.blocksByTask.erase nodeId).get? id = _
    rw [taskOf_filter, get?_erase, indexes.taskBlocks]
    by_cases same : id = nodeId <;> simp [same]
  case reviewBlocks =>
    intro id
    show (graph.reviewBlocksByTask.erase nodeId).get? id = _
    rw [taskOf_filter, get?_erase, indexes.reviewBlocks]
    by_cases same : id = nodeId <;> simp [same]

theorem NodeIndexes.updateNode {graph : Graph}
    (indexes : NodeIndexes graph manifest) (member : node.id ∈ manifest.nodes.map ManifestTask.id)
    (refs : List String) : NodeIndexes (alignGraphOrder (withTask (setNode (withoutTask graph node.id refs) node) node)
        (setNodes manifest (replaceFirst node manifest.nodes)))
      (setNodes manifest (replaceFirst node manifest.nodes)) := by
  have removed := indexes.removeNode node.id refs
  have others : ∀ id, id ≠ node.id → taskOf (setNodes manifest
      (manifest.nodes.filter (fun item => item.id ≠ node.id))) id = taskOf manifest id := by
    intro id different
    rw [taskOf_filter, if_neg different]
  apply @NodeIndexes.of_withTask manifest
  · intro id different
    rw [← others id different, ← removed.nodes]
    exact get?_set_of_ne _ _ different
  · intro id different
    rw [← others id different]
    exact removed.tasks id
  · intro id different
    rw [← others id different]
    exact removed.dependencyKeys id
  · intro id different
    rw [← others id different]
    exact removed.dependentKeys id
  · intro id different
    rw [← others id different]
    exact removed.taskBlocks id
  · intro id different
    rw [← others id different]
    exact removed.reviewBlocks id
  · exact taskOf_replaceFirst member
  · rfl

structure SameButEdges (left right : Graph) : Prop where
  rest : left = { right with
    taskDependenciesByTask := left.taskDependenciesByTask
    taskDependentsByTask := left.taskDependentsByTask }
  dependencyKeys : ∀ id, left.taskDependenciesByTask.has id = right.taskDependenciesByTask.has id
  dependentKeys : ∀ id, left.taskDependentsByTask.has id = right.taskDependentsByTask.has id

theorem NodeIndexes.sameButEdges (indexes : NodeIndexes right manifest)
    (same : SameButEdges left right) : NodeIndexes left manifest := by
  constructor
  case dependencyKeys =>
    intro id
    rw [same.dependencyKeys, indexes.dependencyKeys]
  case dependentKeys =>
    intro id
    rw [same.dependentKeys, indexes.dependentKeys]
  all_goals rw [same.rest]
  · exact indexes.nodes
  · exact indexes.tasks
  · exact indexes.taskOrder
  · exact indexes.taskBlocks
  · exact indexes.reviewBlocks

theorem BlockIndexes.sameButEdges (indexes : BlockIndexes right manifest)
    (same : SameButEdges left right) : BlockIndexes left manifest := by
  rw [same.rest]
  exact { indexes with }

theorem SameButEdges.trans {middle : Graph} (first : SameButEdges left middle)
    (second : SameButEdges middle right) : SameButEdges left right where
  rest := by
    rw [first.rest, second.rest]
  dependencyKeys id := (first.dependencyKeys id).trans (second.dependencyKeys id)
  dependentKeys id := (first.dependentKeys id).trans (second.dependentKeys id)

theorem requireMapValue_inv {ν : Type} {map : OrderedMap String ν} {indexName : String} {value : ν}
    (done : requireMapValue map key indexName = .ok value) : map.get? key = some value := by
  unfold requireMapValue at done
  split at done
  · rename_i found
    cases done
    exact found
  · cases done

theorem has_set_present {old new : List String}
    (found : map.get? key = some old) (id : String) : (map.set key new).has id = map.has id := by
  rw [has_set]
  by_cases same : id = key
  · simp [same, has, found]
  · simp [same]

theorem removeEdgeIndexes_same {graph : Graph}
    (done : removeEdgeIndexes graph edge = .ok graph') : SameButEdges graph' graph := by
  obtain ⟨_, foundSource, done⟩ := bind_ok.mp done
  obtain ⟨_, foundTarget, done⟩ := bind_ok.mp done
  cases done
  exact ⟨rfl, has_set_present (requireMapValue_inv foundSource), has_set_present (requireMapValue_inv foundTarget)⟩

theorem foldlM_removeEdgeIndexes_same {graph : Graph}
    (done : edges.foldlM removeEdgeIndexes graph = .ok graph') : SameButEdges graph' graph := by
  induction edges generalizing graph with
  | nil => cases done; exact ⟨rfl, fun _ => rfl, fun _ => rfl⟩
  | cons _ _ ih =>
    obtain ⟨_, first, tail⟩ := foldlM_cons_inv done
    exact (ih tail).trans (removeEdgeIndexes_same first)

theorem addEdgeIndexes_same {graph : Graph}
    (done : addEdgeIndexes graph edge = .ok graph') : SameButEdges graph' graph := by
  obtain ⟨_, first, done⟩ := bind_ok.mp done
  obtain ⟨_, found, first⟩ := bind_ok.mp first
  cases first
  obtain ⟨_, second, done⟩ := bind_ok.mp done
  obtain ⟨_, found', second⟩ := bind_ok.mp second
  cases second
  cases done
  exact ⟨rfl, has_set_present (requireMapValue_inv found), has_set_present (requireMapValue_inv found')⟩

theorem removeEdgeIndexes_ok {graph : Graph} (source : graph.taskDependenciesByTask.has edge.source = true)
    (target : graph.taskDependentsByTask.has edge.target = true) :
    ∃ graph', removeEdgeIndexes graph edge = .ok graph' := by
  obtain ⟨_, foundSource⟩ := isSome_iff_exists.mp source
  obtain ⟨_, foundTarget⟩ := isSome_iff_exists.mp target
  exact ⟨_, by
    simp only [removeEdgeIndexes, requireMapValue_eq foundSource, requireMapValue_eq foundTarget, Bind.bind,
      Except.bind, Pure.pure, Except.pure]
    rfl⟩

theorem foldlM_removeEdgeIndexes {graph : Graph}
    (sources : ∀ edge ∈ edges, graph.taskDependenciesByTask.has edge.source = true)
    (targets : ∀ edge ∈ edges, graph.taskDependentsByTask.has edge.target = true) :
    ∃ graph', edges.foldlM removeEdgeIndexes graph = .ok graph' := by
  induction edges generalizing graph with
  | nil => exact ⟨graph, rfl⟩
  | cons edge _ ih =>
    obtain ⟨next, removed⟩ := removeEdgeIndexes_ok (sources edge (by simp)) (targets edge (by simp))
    have same := removeEdgeIndexes_same removed
    obtain ⟨last, done⟩ := @ih next
      (fun other member => by rw [same.dependencyKeys]; exact sources other (mem_cons_of_mem _ member))
      (fun other member => by rw [same.dependentKeys]; exact targets other (mem_cons_of_mem _ member))
    exact ⟨last, by rw [foldlM_cons_ok removed, done]⟩

end PlanWeave
