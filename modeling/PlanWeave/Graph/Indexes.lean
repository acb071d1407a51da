import PlanWeave.Graph.Compile
import PlanWeave.Lib.Checked

namespace PlanWeave
open Function List Option OrderedMap Prod

/-- What `validateTaskBlocks` and the compiler both ask of block ids and dependencies. -/
structure BlocksKnown (task : ManifestTask) : Prop where
  distinct : (task.blocks.map ManifestBlock.id).Nodup
  known : ∀ block ∈ task.blocks, ∀ dependency ∈ block.dependsOn, dependency ∈ task.blocks.map ManifestBlock.id

structure TaskIndexable (task : ManifestTask) : Prop extends BlocksKnown task where
  plain : ∀ block ∈ task.blocks, PlainId task.id ∧ PlainId block.id

structure Indexable (manifest : Manifest) : Prop where
  distinct : (manifest.nodes.map ManifestTask.id).Nodup
  tasks : ∀ task ∈ manifest.nodes, TaskIndexable task

def taskOf (manifest : Manifest) (id : String) : Option ManifestTask :=
  find id (manifest.nodes.map (fun node => (node.id, node)))

def entryOf (manifest : Manifest) (ref : String) : Option (ManifestTask × ManifestBlock) :=
  find ref (blockEntries manifest.nodes)

def connectedEdges (manifest : Manifest) : List ManifestEdge :=
  manifest.edges.filter (fun edge => (taskOf manifest edge.source).isSome && (taskOf manifest edge.target).isSome)

def taskDependencies (manifest : Manifest) (id : String) : List String :=
  ((connectedEdges manifest).filter (fun edge => edge.source = id)).map ManifestEdge.target

def taskDependents (manifest : Manifest) (id : String) : List String :=
  ((connectedEdges manifest).filter (fun edge => edge.target = id)).map ManifestEdge.source

def blockRefs (task : ManifestTask) : List String :=
  task.blocks.map (fun block => blockRef task.id block.id)

def reviewRefs (task : ManifestTask) : List String :=
  (task.blocks.filter ManifestBlock.isReview).map (fun block => blockRef task.id block.id)

def blockDependencies (task : ManifestTask) (block : ManifestBlock) : List String :=
  block.dependsOn.map (blockRef task.id)

def blockDependents (task : ManifestTask) (block : ManifestBlock) : List String :=
  task.blocks.flatMap (fun other =>
    (other.dependsOn.filter (fun dependency => dependency = block.id)).map (fun _ => blockRef task.id other.id))

structure TaskIndexes (graph : Graph) (manifest : Manifest) : Prop where
  nodes : ∀ id, graph.nodesById.get? id = taskOf manifest id
  tasks : ∀ id, graph.tasksById.get? id = taskOf manifest id
  taskOrder : graph.taskNodesInManifestOrder = manifest.nodes.map ManifestTask.id
  dependencies : ∀ id, graph.taskDependenciesByTask.get? id =
    (taskOf manifest id).map (fun _ => taskDependencies manifest id)
  dependents : ∀ id, graph.taskDependentsByTask.get? id =
    (taskOf manifest id).map (fun _ => taskDependents manifest id)
  taskBlocks : ∀ id, graph.blocksByTask.get? id = (taskOf manifest id).map blockRefs
  reviewBlocks : ∀ id, graph.reviewBlocksByTask.get? id = (taskOf manifest id).map reviewRefs

structure BlockIndexes (graph : Graph) (manifest : Manifest) : Prop where
  refOrder : graph.blockRefsInManifestOrder = (blockEntries manifest.nodes).map fst
  blocks : ∀ ref, graph.blocksByRef.get? ref = (entryOf manifest ref).map Prod.snd
  blockTask : ∀ ref, graph.blockTaskByRef.get? ref = (entryOf manifest ref).map (fun entry => entry.1.id)
  blockDependencies : ∀ ref, graph.blockDependenciesByRef.get? ref =
    (entryOf manifest ref).map (fun entry => blockDependencies entry.1 entry.2)
  blockDependents : ∀ ref, graph.blockDependentsByRef.get? ref =
    (entryOf manifest ref).map (fun entry => blockDependents entry.1 entry.2)
  sharedResources : ∀ ref, graph.sharedResourcesByBlockRef.get? ref =
    (entryOf manifest ref).map (fun entry => sharedResourcesForBlock entry.2)
  requiredCapabilities : ∀ ref, graph.requiredCapabilitiesByBlockRef.get? ref =
    (entryOf manifest ref).map (fun entry => requiredCapabilitiesForBlock entry.2)

structure Indexes (graph : Graph) (manifest : Manifest) : Prop
    extends TaskIndexes graph manifest, BlockIndexes graph manifest

variable {manifest : Manifest} {task : ManifestTask} {block : ManifestBlock} {graph : Graph}

theorem taskOf_iff (distinct : (manifest.nodes.map ManifestTask.id).Nodup) {id : String} :
    taskOf manifest id = some task ↔ task ∈ manifest.nodes ∧ task.id = id := by
  have keys : ((manifest.nodes.map (fun node => (node.id, node))).map fst).Nodup := by
    simpa [comp_def] using distinct
  unfold taskOf
  rw [find_eq_some keys, List.mem_map]
  constructor
  · rintro ⟨_, member, same⟩
    simp only [Prod.mk.injEq] at same
    exact ⟨same.2 ▸ member, same.2 ▸ same.1⟩
  · rintro ⟨member, same⟩
    exact ⟨task, member, by rw [same]⟩

variable {ref : String} {tasks : List ManifestTask}

theorem mem_blockEntries : (ref, (task, block)) ∈ blockEntries tasks ↔
      task ∈ tasks ∧ block ∈ task.blocks ∧ ref = blockRef task.id block.id := by
  unfold blockEntries
  simp only [mem_flatMap, List.mem_map, Prod.mk.injEq]
  constructor
  · rintro ⟨_, memberTask, _, memberBlock, sameRef, sameTask, sameBlock⟩
    subst sameTask sameBlock
    exact ⟨memberTask, memberBlock, sameRef.symm⟩
  · rintro ⟨memberTask, memberBlock, sameRef⟩
    exact ⟨task, memberTask, block, memberBlock, sameRef.symm, rfl, rfl⟩

theorem BlocksKnown.refs_distinct (blocks : BlocksKnown task) : (blockRefs task).Nodup := by
  unfold blockRefs
  rw [show (fun block : ManifestBlock => blockRef task.id block.id) = blockRef task.id ∘ ManifestBlock.id from rfl,
    ← List.map_map]
  exact blocks.distinct.map (fun left right same => blockRef_right_injective same)

theorem blockEntries_distinct (distinct : (tasks.map ManifestTask.id).Nodup)
    (indexable : ∀ task ∈ tasks, TaskIndexable task) : ((blockEntries tasks).map fst).Nodup := by
  induction tasks with
  | nil => simp [blockEntries]
  | cons task rest ih =>
    rw [map_cons, nodup_cons] at distinct
    have tail := ih distinct.2 (fun other member => indexable other (mem_cons_of_mem _ member))
    have here := indexable task (by simp)
    have split : (blockEntries (task :: rest)).map fst = blockRefs task ++ (blockEntries rest).map fst := by
      simp [blockEntries, blockRefs, comp_def]
    rw [split, nodup_append]
    refine ⟨here.refs_distinct, tail, ?_⟩
    intro left ownMember right restMember same
    obtain ⟨block, memberBlock, refLeft⟩ := mem_map.mp ownMember
    obtain ⟨⟨_, other, inner⟩, member, refRight⟩ := mem_map.mp restMember
    obtain ⟨memberTask, memberInner, refInner⟩ := mem_blockEntries.mp member
    rw [← refLeft, ← refRight, refInner] at same
    have plainOwn := (here.plain block memberBlock).1
    have plainOther := ((indexable other (mem_cons_of_mem _ memberTask)).plain inner memberInner).1
    have sameTask := (blockRef_injective plainOwn plainOther same).1
    exact distinct.1 (sameTask ▸ mem_map_of_mem memberTask)

theorem Indexable.refs_distinct (indexable : Indexable manifest) : ((blockEntries manifest.nodes).map fst).Nodup :=
  blockEntries_distinct indexable.distinct indexable.tasks

theorem entryOf_iff (indexable : Indexable manifest) : entryOf manifest ref = some (task, block) ↔
      task ∈ manifest.nodes ∧ block ∈ task.blocks ∧ ref = blockRef task.id block.id := by
  unfold entryOf
  rw [find_eq_some indexable.refs_distinct, mem_blockEntries]

theorem visitedTasks_eq (distinct : (manifest.nodes.map ManifestTask.id).Nodup) :
    visitedTasks manifest = manifest.nodes := by
  have keys : ((manifest.nodes.map (fun node => (node.id, node))).map fst).Nodup := by
    simpa [comp_def] using distinct
  unfold visitedTasks
  rw [filterMap_map]
  have each : ∀ node ∈ manifest.nodes,
      ((ofList (manifest.nodes.map (fun node => (node.id, node)))).get? ∘ ManifestTask.id) node = some node := by
    intro node member
    show (ofList _).get? node.id = some node
    rw [get?_ofList keys]
    exact (taskOf_iff distinct).mpr ⟨member, rfl⟩
  rw [filterMap_congr each]
  exact filterMap_some

theorem knownBlockIds_eq (plain : ∀ block ∈ task.blocks, PlainId task.id ∧ PlainId block.id) :
    knownBlockIds task = .ok (task.blocks.map ManifestBlock.id) := by
  apply Checked.mapM_of_all
  intro block member
  have both := plain block member
  rw [parseBlockRef_blockRef both.1 both.2]
  rfl

def indexedTasks (manifest : Manifest) : List (ManifestTask × List String) :=
  manifest.nodes.map (fun task => (task, task.blocks.map ManifestBlock.id))

theorem knownTasks_eq (distinct : (manifest.nodes.map ManifestTask.id).Nodup)
    (plain : ∀ task ∈ manifest.nodes, ∀ block ∈ task.blocks, PlainId task.id ∧ PlainId block.id) :
    (visitedTasks manifest).mapM (fun task => do return (task, ← knownBlockIds task)) =
      (.ok (indexedTasks manifest) : Except String _) := by
  rw [visitedTasks_eq distinct]
  apply Checked.mapM_of_all
  intro task member
  rw [knownBlockIds_eq (plain task member)]
  rfl

theorem dependencyPairs_eq (indexable : Indexable manifest) :
    dependencyPairs (indexedTasks manifest) = manifest.nodes.flatMap (fun task => task.blocks.flatMap (fun block =>
      (blockDependencies task block).map (fun dependency => (blockRef task.id block.id, dependency)))) := by
  unfold dependencyPairs indexedTasks
  rw [flatMap_map]
  apply flatMap_congr
  intro task memberTask
  apply flatMap_congr
  intro block memberBlock
  have kept : block.dependsOn.filter (fun dependency => dependency ∈ task.blocks.map ManifestBlock.id) =
      block.dependsOn := by
    rw [filter_eq_self]
    intro dependency member
    simpa using (indexable.tasks task memberTask).known block memberBlock dependency member
  simp only [kept, blockDependencies, List.map_map, comp_def]

theorem find_empty {ids : List String} (id : String) :
    find id (ids.map (fun id => (id, ([] : List String)))) = if id ∈ ids then some [] else none := by
  induction ids with
  | nil => rfl
  | cons first _ ih =>
    by_cases same : first = id
    · simp [find, same]
    · have different : ¬ id = first := fun equal => same equal.symm
      simp only [map_cons, find, same, if_false, ih, mem_cons, different, false_or]

theorem emptyLists_get? (keys : List String) (key : String) :
    (emptyLists keys).get? key = if key ∈ keys then some [] else none := by
  have built := get?_setAll empty (keys.map (fun key => (key, ([] : List String)))) key
  rw [← map_reverse, find_empty, get?_empty, or_none] at built
  simp only [mem_reverse] at built
  exact built

theorem nodeMap_has (manifest : Manifest) (id : String) :
    (nodeMap manifest).has id = true ↔ id ∈ manifest.nodes.map ManifestTask.id := by
  rw [nodeMap, has_ofList, List.map_map]
  rfl

theorem mem_visitedTasks : task ∈ visitedTasks manifest ↔ (nodeMap manifest).get? task.id = some task := by
  unfold visitedTasks
  rw [mem_filterMap]
  constructor
  · rintro ⟨_, _, found⟩
    obtain ⟨_, _, same⟩ := mem_map.mp (mem_of_ofList found)
    cases same
    exact found
  · exact fun found => ⟨task.id, (nodeMap_has manifest task.id).mp (isSome_of_mem found), found⟩

theorem compiled_indexGraph (compiled : compileTaskGraph manifest = .ok graph) :
    ∃ known, graph = indexGraph manifest known := by
  obtain ⟨known, _, built⟩ := Checked.bind_ok.mp compiled
  cases built
  exact ⟨known, rfl⟩

theorem edgeLists_neighbors (manifest : Manifest) (ends : ManifestEdge → String × String) (id other : String)
    (listed : ∀ edge ∈ connected (nodeMap manifest) manifest.edges, (ends edge).1 ∈ manifest.nodes.map ManifestTask.id) :
    other ∈ neighbors ((emptyLists (manifest.nodes.map ManifestTask.id)).pushAll
        ((connected (nodeMap manifest) manifest.edges).map ends)) id ↔
      ∃ edge ∈ connected (nodeMap manifest) manifest.edges, ends edge = (id, other) := by
  unfold neighbors
  rw [get?_pushAll, emptyLists_get?]
  by_cases inside : id ∈ manifest.nodes.map ManifestTask.id
  · rw [if_pos inside, Option.map_some, List.nil_append, Option.getD_some]
    simp only [List.mem_map, List.mem_filter, decide_eq_true_eq]
    constructor
    · rintro ⟨_, ⟨⟨edge, member, same⟩, first⟩, second⟩
      exact ⟨edge, member, by rw [same, ← first, ← second]⟩
    · rintro ⟨edge, member, same⟩
      exact ⟨(id, other), ⟨⟨edge, member, same⟩, rfl⟩, rfl⟩
  · rw [if_neg inside, Option.map_none, Option.getD_none]
    simp only [not_mem_nil, false_iff]
    rintro ⟨edge, member, same⟩
    apply inside
    have known := listed edge member
    rw [same] at known
    exact known

def dependsOn (manifest : Manifest) (source target : String) : Prop :=
  ⟨source, target⟩ ∈ manifest.edges ∧ source ∈ manifest.nodes.map ManifestTask.id ∧
    target ∈ manifest.nodes.map ManifestTask.id

theorem mem_connected {edge : ManifestEdge} :
    edge ∈ connected (nodeMap manifest) manifest.edges ↔ dependsOn manifest edge.source edge.target := by
  unfold connected dependsOn
  rw [mem_filter, Bool.and_eq_true, nodeMap_has, nodeMap_has]

section
variable (compiled : compileTaskGraph manifest = .ok graph)
include compiled

theorem compiled_dependencies
    (source target : String) : target ∈ neighbors graph.taskDependenciesByTask source ↔ dependsOn manifest source target := by
  obtain ⟨_, rfl⟩ := compiled_indexGraph compiled
  refine (edgeLists_neighbors manifest (fun edge => (edge.source, edge.target)) source target
    (fun edge member => (mem_connected.mp member).2.1)).trans ?_
  constructor
  · rintro ⟨_, member, same⟩
    cases same
    exact mem_connected.mp member
  · exact fun step => ⟨⟨source, target⟩, mem_connected.mpr step, rfl⟩

theorem compiled_dependents
    (source target : String) : source ∈ neighbors graph.taskDependentsByTask target ↔ dependsOn manifest source target := by
  obtain ⟨_, rfl⟩ := compiled_indexGraph compiled
  refine (edgeLists_neighbors manifest (fun edge => (edge.target, edge.source)) target source
    (fun edge member => (mem_connected.mp member).2.2)).trans ?_
  constructor
  · rintro ⟨_, member, same⟩
    cases same
    exact mem_connected.mp member
  · exact fun step => ⟨⟨source, target⟩, mem_connected.mpr step, rfl⟩

theorem compiled_keys (id : String) : (graph.nodesById.has id = true ↔ id ∈ manifest.nodes.map ManifestTask.id) ∧
    (graph.tasksById.has id = true ↔ id ∈ manifest.nodes.map ManifestTask.id) ∧
    (graph.taskDependenciesByTask.has id = true ↔ id ∈ manifest.nodes.map ManifestTask.id) ∧
    (graph.taskDependentsByTask.has id = true ↔ id ∈ manifest.nodes.map ManifestTask.id) := by
  obtain ⟨_, rfl⟩ := compiled_indexGraph compiled
  have lists : ∀ pairs, ((emptyLists (manifest.nodes.map ManifestTask.id)).pushAll pairs).has id = true ↔
      id ∈ manifest.nodes.map ManifestTask.id := by
    intro pairs
    rw [has_pushAll, has, emptyLists_get?]
    split <;> simp_all
  exact ⟨nodeMap_has manifest id, nodeMap_has manifest id, lists _, lists _⟩
end

theorem compileTaskGraph_eq (indexable : Indexable manifest) :
    compileTaskGraph manifest = .ok (indexGraph manifest (indexedTasks manifest)) := by
  unfold compileTaskGraph
  rw [knownTasks_eq indexable.distinct (fun task member => (indexable.tasks task member).plain)]
  rfl

theorem flatMap_filter_single {α β : Type} {items : List α} {parts : α → List β} {keep : β → Bool} {item : α}
    (distinct : items.Nodup) (member : item ∈ items)
    (others : ∀ other ∈ items, other ≠ item → (parts other).filter keep = []) :
    (items.flatMap parts).filter keep = (parts item).filter keep := by
  induction items with
  | nil => cases member
  | cons first rest ih =>
    rw [nodup_cons] at distinct
    rw [flatMap_cons, filter_append]
    rcases mem_cons.mp member with same | member
    · have none : (rest.flatMap parts).filter keep = [] := by
        rw [filter_flatMap, flatMap_eq_nil_iff]
        intro other inside
        exact others other (mem_cons_of_mem _ inside) (fun equal => distinct.1 (same ▸ equal ▸ inside))
      rw [none, append_nil, same]
    · have different : first ≠ item := fun equal => distinct.1 (equal ▸ member)
      rw [others first (by simp) different, nil_append]
      exact ih distinct.2 member (fun other inside => others other (mem_cons_of_mem _ inside))

section
variable (indexable : Indexable manifest)
include indexable

theorem Indexable.nodes_distinct : manifest.nodes.Nodup :=
  List.Nodup.of_map _ indexable.distinct

theorem Indexable.same_task {left right : ManifestTask}
    (memberLeft : left ∈ manifest.nodes) (memberRight : right ∈ manifest.nodes) (same : left.id = right.id) :
    left = right := by
  have found := (taskOf_iff indexable.distinct).mpr ⟨memberLeft, same⟩
  rw [(taskOf_iff indexable.distinct).mpr ⟨memberRight, rfl⟩] at found
  exact (Option.some.inj found).symm

theorem dependencyPairs_source (memberTask : task ∈ manifest.nodes) (memberBlock : block ∈ task.blocks) :
    ((dependencyPairs (indexedTasks manifest)).filter (fun pair => pair.1 = blockRef task.id block.id)).map Prod.snd =
      blockDependencies task block := by
  have here := indexable.tasks task memberTask
  rw [dependencyPairs_eq indexable, flatMap_filter_single indexable.nodes_distinct memberTask,
    flatMap_filter_single (List.Nodup.of_map _ here.distinct) memberBlock]
  · simp [List.filter_map, comp_def]
  · intro other member different
    rw [filter_eq_nil_iff]
    intro pair inside
    obtain ⟨_, _, same⟩ := List.mem_map.mp inside
    subst same
    simp only [decide_eq_true_eq]
    intro equal
    exact different (inj_on_of_nodup_map here.distinct member memberBlock (blockRef_right_injective equal))
  · intro other member different
    rw [filter_eq_nil_iff]
    intro pair inside
    obtain ⟨inner, memberInner, inside⟩ := mem_flatMap.mp inside
    obtain ⟨_, _, same⟩ := List.mem_map.mp inside
    subst same
    simp only [decide_eq_true_eq]
    intro equal
    have plain := ((indexable.tasks other member).plain inner memberInner).1
    have sameTask := (blockRef_injective plain (here.plain block memberBlock).1 equal).1
    exact different (indexable.same_task member memberTask sameTask)

theorem dependencyPairs_target (memberTask : task ∈ manifest.nodes) (memberBlock : block ∈ task.blocks) :
    (((dependencyPairs (indexedTasks manifest)).map Prod.swap).filter
      (fun pair => pair.1 = blockRef task.id block.id)).map Prod.snd = blockDependents task block := by
  have here := indexable.tasks task memberTask
  rw [List.filter_map, List.map_map, dependencyPairs_eq indexable,
    flatMap_filter_single indexable.nodes_distinct memberTask]
  · unfold blockDependents
    rw [List.filter_flatMap, map_flatMap]
    apply flatMap_congr
    intro other _
    have same : ∀ dependency, (blockRef task.id dependency = blockRef task.id block.id) ↔ dependency = block.id :=
      fun dependency => ⟨blockRef_right_injective, fun equal => by rw [equal]⟩
    simp [blockDependencies, List.filter_map, comp_def, same]
  · intro other member different
    rw [filter_eq_nil_iff]
    intro pair inside
    obtain ⟨inner, memberInner, inside⟩ := mem_flatMap.mp inside
    obtain ⟨_, memberDependency, same⟩ := List.mem_map.mp inside
    obtain ⟨_, _, sameDependency⟩ := List.mem_map.mp memberDependency
    subst same sameDependency
    simp only [comp_apply, fst_swap, decide_eq_true_eq]
    intro equal
    have plain := ((indexable.tasks other member).plain inner memberInner).1
    have sameTask := (blockRef_injective plain (here.plain block memberBlock).1 equal).1
    exact different (indexable.same_task member memberTask sameTask)

theorem entry_index {ν : Type} (value : ManifestTask × ManifestBlock → ν) (ref : String) :
    (ofList ((blockEntries manifest.nodes).map (fun entry => (entry.1, value entry.2)))).get? ref =
      (entryOf manifest ref).map value := by
  rw [get?_ofList (by simpa [comp_def] using indexable.refs_distinct)]
  exact find_map ref (fun _ => value) (blockEntries manifest.nodes)

theorem task_index {ν : Type} (value : ManifestTask → ν) (id : String) :
    (ofList (manifest.nodes.map (fun task => (task.id, value task)))).get? id =
      (taskOf manifest id).map value := by
  rw [get?_ofList (by simpa [comp_def] using indexable.distinct)]
  have mapped := find_map id (fun _ => value) (manifest.nodes.map (fun node => (node.id, node)))
  rw [List.map_map] at mapped
  exact mapped
end

theorem taskOf_isSome {id : String} : (taskOf manifest id).isSome = true ↔ id ∈ manifest.nodes.map ManifestTask.id := by
  unfold taskOf
  rw [Option.isSome_iff_ne_none, ne_eq, find_eq_none, not_not, List.map_map]
  rfl

theorem entryOf_isSome : (entryOf manifest ref).isSome = true ↔ ref ∈ (blockEntries manifest.nodes).map fst := by
  unfold entryOf
  rw [isSome_iff_ne_none, ne_eq, find_eq_none, not_not]

theorem task_lists (pairs : List (String × String)) (id : String) :
    ((emptyLists (manifest.nodes.map ManifestTask.id)).pushAll pairs).get? id =
      (taskOf manifest id).map (fun _ => (pairs.filter (fun pair => pair.1 = id)).map Prod.snd) := by
  rw [get?_pushAll, emptyLists_get?]
  cases found : taskOf manifest id with
  | none =>
    have absent : id ∉ manifest.nodes.map ManifestTask.id := by
      rw [← taskOf_isSome, found]
      simp
    rw [if_neg absent]
    rfl
  | some =>
    have present : id ∈ manifest.nodes.map ManifestTask.id := by
      rw [← taskOf_isSome, found]
      rfl
    rw [if_pos present]
    rfl

theorem block_lists (indexable : Indexable manifest) (pairs : List (String × String))
    {value : ManifestTask × ManifestBlock → List String} (each : ∀ task ∈ manifest.nodes, ∀ block ∈ task.blocks,
      (pairs.filter (fun pair => pair.1 = blockRef task.id block.id)).map Prod.snd = value (task, block))
    (ref : String) : ((emptyLists ((blockEntries manifest.nodes).map fst)).pushAll pairs).get? ref =
      (entryOf manifest ref).map value := by
  rw [get?_pushAll, emptyLists_get?]
  cases found : entryOf manifest ref with
  | none =>
    have absent : ref ∉ (blockEntries manifest.nodes).map fst := by
      rw [← entryOf_isSome, found]
      simp
    rw [if_neg absent]
    rfl
  | some =>
    have present : ref ∈ (blockEntries manifest.nodes).map fst := by
      rw [← entryOf_isSome, found]
      rfl
    obtain ⟨memberTask, memberBlock, same⟩ := (entryOf_iff indexable).mp found
    rw [if_pos present]
    simp only [map_some, nil_append, same, each _ memberTask _ memberBlock]

theorem connected_eq {nodesById : OrderedMap String ManifestTask}
    (nodes : ∀ id, nodesById.get? id = taskOf manifest id) :
    connected nodesById manifest.edges = connectedEdges manifest := by
  apply filter_congr
  intro edge _
  simp only [has, nodes]

section
variable (indexable : Indexable manifest)
include indexable

theorem indexGraph_taskIndexes : TaskIndexes (indexGraph manifest (indexedTasks manifest)) manifest := by
  have visited := visitedTasks_eq indexable.distinct
  have nodes : ∀ id, (ofList (manifest.nodes.map (fun node => (node.id, node)))).get? id =
      taskOf manifest id := by
    intro id
    rw [task_index indexable (fun task => task) id, Option.map_id']
  have edges := connected_eq nodes
  constructor
  case nodes => exact nodes
  case tasks => exact nodes
  case taskOrder => rfl
  case dependencies =>
    intro id
    show ((emptyLists _).pushAll ((connected _ manifest.edges).map _)).get? id = _
    rw [edges, task_lists, List.filter_map, List.map_map]
    rfl
  case dependents =>
    intro id
    show ((emptyLists _).pushAll ((connected _ manifest.edges).map _)).get? id = _
    rw [edges, task_lists, List.filter_map, List.map_map]
    rfl
  case taskBlocks =>
    intro id
    show (ofList ((visitedTasks manifest).map _)).get? id = _
    rw [visited]
    exact task_index indexable blockRefs id
  case reviewBlocks =>
    intro id
    show (ofList ((visitedTasks manifest).map _)).get? id = _
    rw [visited]
    exact task_index indexable reviewRefs id

theorem indexGraph_blockIndexes : BlockIndexes (indexGraph manifest (indexedTasks manifest)) manifest := by
  have visited := visitedTasks_eq indexable.distinct
  constructor
  case refOrder =>
    show (blockEntries (visitedTasks manifest)).map fst = _
    rw [visited]
  case blocks =>
    intro ref
    show (ofList ((blockEntries (visitedTasks manifest)).map _)).get? ref = _
    rw [visited]
    exact entry_index indexable Prod.snd ref
  case blockTask =>
    intro ref
    show (ofList ((blockEntries (visitedTasks manifest)).map _)).get? ref = _
    rw [visited]
    exact entry_index indexable (fun entry => entry.1.id) ref
  case blockDependencies =>
    intro ref
    show ((emptyLists ((blockEntries (visitedTasks manifest)).map fst)).pushAll _).get? ref = _
    rw [visited]
    exact block_lists indexable _ (fun task memberTask block memberBlock =>
      dependencyPairs_source indexable memberTask memberBlock) ref
  case blockDependents =>
    intro ref
    show ((emptyLists ((blockEntries (visitedTasks manifest)).map fst)).pushAll _).get? ref = _
    rw [visited]
    exact block_lists indexable _ (fun task memberTask block memberBlock =>
      dependencyPairs_target indexable memberTask memberBlock) ref
  case sharedResources =>
    intro ref
    show (ofList ((blockEntries (visitedTasks manifest)).map _)).get? ref = _
    rw [visited]
    exact entry_index indexable (fun entry => sharedResourcesForBlock entry.2) ref
  case requiredCapabilities =>
    intro ref
    show (ofList ((blockEntries (visitedTasks manifest)).map _)).get? ref = _
    rw [visited]
    exact entry_index indexable (fun entry => requiredCapabilitiesForBlock entry.2) ref

theorem indexGraph_indexes : Indexes (indexGraph manifest (indexedTasks manifest)) manifest :=
  { indexGraph_taskIndexes indexable, indexGraph_blockIndexes indexable with }
end
end PlanWeave
