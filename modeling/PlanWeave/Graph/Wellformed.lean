import PlanWeave.Graph.Indexes

namespace PlanWeave
open List Option Search

def taskStep (manifest : Manifest) (source target : String) : Prop :=
  target ∈ taskDependencies manifest source

def blockStep (manifest : Manifest) (source target : String) : Prop :=
  ∃ task ∈ manifest.nodes, ∃ block ∈ task.blocks,
    source = blockRef task.id block.id ∧ target ∈ blockDependencies task block

structure Wellformed (manifest : Manifest) : Prop extends Indexable manifest where
  edgeKeys : (manifest.edges.map edgeKey).Nodup
  edgeSource : ∀ edge ∈ manifest.edges, edge.source ∈ manifest.nodes.map ManifestTask.id
  edgeTarget : ∀ edge ∈ manifest.edges, edge.target ∈ manifest.nodes.map ManifestTask.id
  tasksAcyclic : Search.Acyclic (taskStep manifest)
  blocksAcyclic : Search.Acyclic (blockStep manifest)
  implemented : ∀ task ∈ manifest.nodes, ∃ block ∈ task.blocks, block.isImplementation = true

variable {seen items : List String}

theorem repeats_nil_iff :
    repeats seen items = [] ↔ items.Nodup ∧ ∀ item ∈ items, item ∉ seen := by
  induction items generalizing seen with
  | nil => simp [repeats]
  | cons item _ ih =>
    by_cases inside : item ∈ seen
    · simp [repeats, inside]
    simp only [repeats, inside, if_false, ih, nodup_cons, mem_cons]
    constructor
    · rintro ⟨distinct, fresh⟩
      refine ⟨⟨fun member => fresh item member (.inl rfl), distinct⟩, ?_⟩
      intro other member
      rcases member with same | member
      · exact same ▸ inside
      · exact fun old => fresh other member (.inr old)
    · rintro ⟨⟨absent, distinct⟩, fresh⟩
      refine ⟨distinct, fun other member => not_or.mpr ⟨fun same => absent (same ▸ member), fresh other (.inr member)⟩⟩

theorem uniqueInOrder_nil_iff : uniqueInOrder items = [] ↔ items = [] := by
  cases items <;> simp [uniqueInOrder]

variable {manifest : Manifest} {graph : Graph}

theorem nodeIdErrors_nil_iff : nodeIdErrors manifest = [] ↔ (manifest.nodes.map ManifestTask.id).Nodup := by
  unfold nodeIdErrors
  rw [map_eq_nil_iff, uniqueInOrder_nil_iff, repeats_nil_iff]
  simp

variable {tasks : List ManifestTask} {adjacency : OrderedMap String (List String)}

theorem blockIdErrors_nil_iff :
    blockIdErrors tasks = [] ↔ ∀ task ∈ tasks, (task.blocks.map ManifestBlock.id).Nodup := by
  unfold blockIdErrors
  rw [flatMap_eq_nil_iff]
  simp only [map_eq_nil_iff, repeats_nil_iff, not_mem_nil, not_false_eq_true, implies_true, and_true]

theorem missingDependencyErrors_nil_iff :
    missingDependencyErrors (indexedTasks manifest) = [] ↔ ∀ task ∈ manifest.nodes, ∀ block ∈ task.blocks,
      ∀ dependency ∈ block.dependsOn, dependency ∈ task.blocks.map ManifestBlock.id := by
  unfold missingDependencyErrors indexedTasks
  simp only [flatMap_map, flatMap_eq_nil_iff, map_eq_nil_iff, filter_eq_nil_iff,
    decide_eq_true_eq, not_not]

theorem edgeErrors_nil_iff {nodesById : OrderedMap String ManifestTask}
    {edges : List ManifestEdge} : edgeErrors nodesById seen edges = [] ↔
      (edges.map edgeKey).Nodup ∧ (∀ edge ∈ edges, edgeKey edge ∉ seen) ∧
        (∀ edge ∈ edges, nodesById.has edge.source = true ∧ nodesById.has edge.target = true) := by
  induction edges generalizing seen with
  | nil => simp [edgeErrors]
  | cons _ _ ih =>
    simp only [edgeErrors, List.append_eq_nil_iff, ih, ite_eq_right_iff, List.cons_ne_self,
      imp_false, ite_eq_left_iff, Bool.not_eq_true, Bool.not_eq_false, List.map_cons, List.nodup_cons,
      List.mem_cons, not_or, List.mem_map, not_exists, not_and, forall_eq_or_imp]
    constructor
    · rintro ⟨⟨⟨fresh, source⟩, target⟩, distinct, later, ends⟩
      exact ⟨⟨fun other member => (later other member).1, distinct⟩,
        ⟨fresh, fun other member => (later other member).2⟩, ⟨source, target⟩, ends⟩
    · rintro ⟨⟨absent, distinct⟩, ⟨fresh, later⟩, ⟨source, target⟩, ends⟩
      exact ⟨⟨⟨fresh, source⟩, target⟩, distinct,
        fun other member => ⟨absent other member, later other member⟩, ends⟩

theorem implementationErrors_nil_iff {blocksByRef : OrderedMap String ManifestBlock}
    (known : ∀ task ∈ tasks, ∀ block ∈ task.blocks, blocksByRef.get? (blockRef task.id block.id) = some block) :
    implementationErrors blocksByRef tasks = [] ↔
      ∀ task ∈ tasks, ∃ block ∈ task.blocks, block.isImplementation = true := by
  unfold implementationErrors
  simp only [List.map_eq_nil_iff, List.filter_eq_nil_iff, Bool.not_eq_true', Bool.not_eq_false, List.any_eq_true]
  refine forall₂_congr fun task member => exists_congr fun block => and_congr_right fun inside => ?_
  rw [known task member block inside, Option.any_some]

theorem cycleErrors_nil_iff {code subject path : String} {cycle : Option (List String)} :
    cycleErrors code subject path cycle = [] ↔ cycle = none := by
  cases cycle <;> simp [cycleErrors]

theorem findCycle_searched (adjacency : OrderedMap String (List String)) :
    Search.SearchedRoots adjacency.has (neighbors adjacency) adjacency.keys [] (findCycle adjacency) := by
  have distinct : adjacency.keys.Nodup := adjacency.distinct
  apply searchRoots_searched distinct (fun _ => adjacency.has_iff) ?_ (fun _ member => member)
  unfold searchFuel
  omega

theorem findCycle_none_iff :
    findCycle adjacency = none ↔ Search.Acyclic (knownEdge adjacency.has (neighbors adjacency)) :=
  (findCycle_searched adjacency).none_iff (fun _ => adjacency.has_iff)

theorem reachable_iff
    (closed : ∀ id, ∀ next ∈ neighbors adjacency id, adjacency.has next = true) (named : adjacency.has "" = false)
    (source target : String) : reachable adjacency source target = true ↔
      Relation.TransGen (Search.edge (neighbors adjacency)) source target := by
  have distinct : adjacency.keys.Nodup := adjacency.distinct
  have opened : ∀ id next, next ∈ neighbors adjacency id → adjacency.has id = true := by
    intro id next step
    unfold neighbors at step
    unfold OrderedMap.has
    cases found : adjacency.get? id with
    | none => simp [found] at step
    | some => rfl
  have decides : adjacency.has source = true → adjacency.has target = true →
      (worklist (neighbors adjacency) target (searchFuel adjacency) [""] (neighbors adjacency source).reverse = true ↔
        Relation.TransGen (Search.edge (neighbors adjacency)) source target) := by
    intro hasSource hasTarget
    apply worklist_iff distinct ?_ (adjacency.has_iff.mp hasSource)
    · intro node empty
      rw [mem_singleton] at empty
      rw [eq_nil_iff_forall_not_mem]
      intro next step
      have present := opened node next step
      rw [empty, named] at present
      cases present
    · rw [mem_singleton]
      intro empty
      rw [empty, named] at hasTarget
      cases hasTarget
    · have part := weight_remove (neighbors adjacency) (fun _ => false) (fun node => decide (node = source))
        distinct (adjacency.has_iff.mp hasSource) rfl (by simp)
      unfold searchFuel
      omega
    · intro node _ next step
      exact adjacency.has_iff.mp (closed node next step)
  unfold reachable
  rw [Bool.and_eq_true, Bool.and_eq_true]
  constructor
  · rintro ⟨⟨hasSource, hasTarget⟩, found⟩
    exact (decides hasSource hasTarget).mp found
  intro path
  obtain ⟨first, step, _⟩ := (Relation.TransGen.head'_iff).mp path
  obtain ⟨last, _, final⟩ := (Relation.TransGen.tail'_iff).mp path
  have hasSource := opened source first step
  have hasTarget := closed last target final
  exact ⟨⟨hasSource, hasTarget⟩, (decides hasSource hasTarget).mpr path⟩

theorem Acyclic.congr {left right : String → String → Prop} (same : ∀ source target, left source target ↔ right source target) :
    Search.Acyclic left ↔ Search.Acyclic right := by
  have equal : left = right := by
    funext source target
    exact propext (same source target)
  rw [equal]

section
variable (indexes : TaskIndexes graph manifest)
include indexes

theorem TaskIndexes.task_edge (source target : String) :
    knownEdge graph.taskDependenciesByTask.has (neighbors graph.taskDependenciesByTask) source target ↔
      taskStep manifest source target := by
  unfold knownEdge taskStep neighbors OrderedMap.has
  rw [indexes.dependencies, indexes.dependencies]
  simp only [isSome_map]
  constructor
  · rintro ⟨known, _, step⟩
    obtain ⟨_, found⟩ := isSome_iff_exists.mp known
    rw [found] at step
    exact step
  · intro step
    obtain ⟨edge, member, same⟩ := mem_map.mp step
    obtain ⟨inside, source'⟩ := mem_filter.mp member
    obtain ⟨_, ends⟩ := mem_filter.mp inside
    rw [Bool.and_eq_true] at ends
    have from' : edge.source = source := by simpa using source'
    rw [from', same] at ends
    obtain ⟨_, found⟩ := isSome_iff_exists.mp ends.1
    refine ⟨ends.1, ends.2, ?_⟩
    rw [found]
    exact step

theorem TaskIndexes.neighbors_eq
    (source target : String) : target ∈ neighbors graph.taskDependenciesByTask source ↔ taskStep manifest source target := by
  rw [← indexes.task_edge]
  constructor
  · intro step
    unfold neighbors at step
    rw [indexes.dependencies] at step
    cases found : taskOf manifest source with
    | none => simp [found] at step
    | some =>
      rw [found] at step
      exact (indexes.task_edge source target).mpr step
  · intro known
    exact known.2.2

theorem TaskIndexes.taskReachable_iff (named : "" ∉ manifest.nodes.map ManifestTask.id) (source target : String) :
    graph.taskReachable source target = true ↔ Relation.TransGen (taskStep manifest) source target := by
  have same : Search.edge (neighbors graph.taskDependenciesByTask) = taskStep manifest := by
    funext source target
    exact propext (indexes.neighbors_eq source target)
  rw [← same]
  apply reachable_iff
  · intro id next step
    exact ((indexes.task_edge id next).mpr ((indexes.neighbors_eq id next).mp step)).2.1
  · rw [← taskOf_isSome] at named
    rw [OrderedMap.has, indexes.dependencies, isSome_map]
    simpa using named
end

theorem Indexes.block_step (indexable : Indexable manifest) (indexes : Indexes graph manifest) {source target : String} :
    target ∈ neighbors graph.blockDependenciesByRef source ↔ blockStep manifest source target := by
  unfold blockStep neighbors
  rw [indexes.blockDependencies]
  constructor
  · intro step
    cases found : entryOf manifest source with
    | none => simp [found] at step
    | some =>
      obtain ⟨memberTask, memberBlock, same⟩ := (entryOf_iff indexable).mp found
      rw [found] at step
      exact ⟨_, memberTask, _, memberBlock, same, step⟩
  · rintro ⟨_, memberTask, _, memberBlock, same, step⟩
    rw [(entryOf_iff indexable).mpr ⟨memberTask, memberBlock, same⟩]
    exact step

theorem blockStep_entries (indexable : Indexable manifest) {source target : String} (step : blockStep manifest source target) :
    ∃ task block other, entryOf manifest source = some (task, block) ∧ entryOf manifest target = some (task, other) := by
  obtain ⟨task, memberTask, block, memberBlock, same, listed⟩ := step
  obtain ⟨dependency, listed, sameTarget⟩ := mem_map.mp listed
  have known := (indexable.tasks task memberTask).known block memberBlock dependency listed
  obtain ⟨other, memberOther, sameId⟩ := mem_map.mp known
  refine ⟨task, block, other, (entryOf_iff indexable).mpr ⟨memberTask, memberBlock, same⟩, ?_⟩
  exact (entryOf_iff indexable).mpr ⟨memberTask, memberOther, by rw [← sameTarget, sameId]⟩

theorem Indexes.block_edge (indexable : Indexable manifest)
    (indexes : Indexes graph manifest) (source target : String) :
    knownEdge graph.blockDependenciesByRef.has (neighbors graph.blockDependenciesByRef) source target ↔
      blockStep manifest source target := by
  unfold knownEdge OrderedMap.has
  rw [indexes.block_step indexable, indexes.blockDependencies, indexes.blockDependencies, isSome_map, isSome_map]
  refine ⟨fun known => known.2.2, fun step => ?_⟩
  obtain ⟨_, _, _, found, known⟩ := blockStep_entries indexable step
  rw [found, known]
  exact ⟨rfl, rfl, step⟩

theorem Indexes.blockReachable_iff (indexable : Indexable manifest) (indexes : Indexes graph manifest) (source target : String) :
    graph.blockReachable source target = true ↔ Relation.TransGen (blockStep manifest) source target := by
  have same : Search.edge (neighbors graph.blockDependenciesByRef) = blockStep manifest :=
    funext₂ fun _ _ => propext (indexes.block_step indexable)
  rw [← same]
  apply reachable_iff
  · intro id next step
    exact ((indexes.block_edge indexable id next).mpr (same ▸ step)).2.1
  · rw [OrderedMap.has, indexes.blockDependencies, isSome_map]
    cases found : entryOf manifest "" with
    | none => rfl
    | some =>
      have named := congrArg String.toList ((entryOf_iff indexable).mp found).2.2
      simp [blockRef] at named

theorem mapM_indexable {known : List (ManifestTask × List String)}
    (accepted : (visitedTasks manifest).mapM (fun task => do return (task, ← knownBlockIds task)) =
      (.ok known : Except String _))
    {task : ManifestTask} (member : task ∈ visitedTasks manifest) {block : ManifestBlock}
    (memberBlock : block ∈ task.blocks) : PlainId task.id ∧ PlainId block.id := by
  obtain ⟨_, _, parsed⟩ := Checked.mapM_member accepted member
  obtain ⟨_, ids, -⟩ := Checked.bind_ok.mp parsed
  obtain ⟨_, _, parsed⟩ := Checked.mapM_member ids memberBlock
  obtain ⟨_, pair, -⟩ := Checked.bind_ok.mp parsed
  exact plain_of_parseBlockRef pair

theorem indexGraph_errors (manifest : Manifest) (indexable : Indexable manifest) :
    (indexGraph manifest (indexedTasks manifest)).errors = [] ↔ Wellformed manifest := by
  have indexes := indexGraph_indexes indexable
  have visited := visitedTasks_eq indexable.distinct
  have errors : (indexGraph manifest (indexedTasks manifest)).errors =
      nodeIdErrors manifest ++ blockIdErrors manifest.nodes ++ missingDependencyErrors (indexedTasks manifest) ++
      edgeErrors (indexGraph manifest (indexedTasks manifest)).nodesById [] manifest.edges ++
      cycleErrors "depends_on_cycle" "Task" "edges"
        (findCycle (indexGraph manifest (indexedTasks manifest)).taskDependenciesByTask) ++
      cycleErrors "block_depends_on_cycle" "Block" "blocks"
        (findCycle (indexGraph manifest (indexedTasks manifest)).blockDependenciesByRef) ++
      implementationErrors (indexGraph manifest (indexedTasks manifest)).blocksByRef manifest.nodes := by
    rw [← visited]
    rfl
  have blocks : ∀ task ∈ manifest.nodes, ∀ block ∈ task.blocks,
      (indexGraph manifest (indexedTasks manifest)).blocksByRef.get? (blockRef task.id block.id) = some block := by
    intro task member block inside
    rw [indexes.blocks, (entryOf_iff indexable).mpr ⟨member, inside, rfl⟩]
    rfl
  have known : ∀ id, (indexGraph manifest (indexedTasks manifest)).nodesById.has id = true ↔
      id ∈ manifest.nodes.map ManifestTask.id := by
    intro id
    unfold OrderedMap.has
    rw [indexes.nodes, taskOf_isSome]
  rw [errors]
  simp only [append_eq_nil_iff, nodeIdErrors_nil_iff, blockIdErrors_nil_iff, missingDependencyErrors_nil_iff,
    edgeErrors_nil_iff, cycleErrors_nil_iff, findCycle_none_iff, implementationErrors_nil_iff blocks, known,
    Acyclic.congr indexes.task_edge, Acyclic.congr (indexes.block_edge indexable)]
  constructor
  · rintro ⟨⟨⟨⟨_, keys, _, ends⟩, tasksAcyclic⟩, blocksAcyclic⟩, implemented⟩
    exact { indexable with
      edgeKeys := keys
      edgeSource := fun edge member => (ends edge member).1
      edgeTarget := fun edge member => (ends edge member).2
      tasksAcyclic, blocksAcyclic, implemented }
  · intro valid
    refine ⟨⟨⟨⟨⟨⟨indexable.distinct, fun task member => (indexable.tasks task member).distinct⟩,
      fun task member => (indexable.tasks task member).known⟩, valid.edgeKeys, fun _ _ => not_mem_nil,
      fun edge member => ⟨valid.edgeSource edge member, valid.edgeTarget edge member⟩⟩,
      valid.tasksAcyclic⟩, valid.blocksAcyclic⟩, valid.implemented⟩

theorem compileTaskGraph_accepts_iff (manifest : Manifest) :
    (∃ graph, compileTaskGraph manifest = .ok graph ∧ graph.errors = []) ↔ Wellformed manifest := by
  constructor
  · rintro ⟨_, compiled, clean⟩
    obtain ⟨tasks, known, built⟩ := Checked.bind_ok.mp compiled
    cases built
    have parts := clean
    unfold indexGraph at parts
    simp only [append_eq_nil_iff] at parts
    have distinct := nodeIdErrors_nil_iff.mp parts.1.1.1.1.1.1
    have visited := visitedTasks_eq distinct
    have plain : ∀ task ∈ manifest.nodes, ∀ block ∈ task.blocks, PlainId task.id ∧ PlainId block.id :=
      fun task member block memberBlock => mapM_indexable known (visited ▸ member) memberBlock
    have gathered : tasks = indexedTasks manifest := by
      rw [knownTasks_eq distinct plain] at known
      exact (Except.ok.inj known).symm
    subst gathered
    have indexable : Indexable manifest := ⟨distinct, fun task member =>
      ⟨⟨blockIdErrors_nil_iff.mp parts.1.1.1.1.1.2 task (visited ▸ member),
        missingDependencyErrors_nil_iff.mp parts.1.1.1.1.2 task member⟩, plain task member⟩⟩
    exact (indexGraph_errors manifest indexable).mp clean
  · intro valid
    exact ⟨_, compileTaskGraph_eq valid.toIndexable, (indexGraph_errors manifest valid.toIndexable).mpr valid⟩

theorem Wellformed.named (valid : Wellformed manifest) : "" ∉ manifest.nodes.map ManifestTask.id := by
  intro inside
  obtain ⟨task, member, empty⟩ := mem_map.mp inside
  obtain ⟨block, memberBlock, _⟩ := valid.implemented task member
  exact ((valid.tasks task member).plain block memberBlock).1.1 empty

theorem compiled_indexes (compiled : compileTaskGraph manifest = .ok graph)
    (indexable : Indexable manifest) : Indexes graph manifest := by
  rw [compileTaskGraph_eq indexable] at compiled
  cases compiled
  exact indexGraph_indexes indexable

end PlanWeave
