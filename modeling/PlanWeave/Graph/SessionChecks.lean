import PlanWeave.Graph.SessionBlocks

namespace PlanWeave
open List OrderedMap

def idStep (task : ManifestTask) (source target : String) : Prop :=
  ∃ block ∈ task.blocks, block.id = source ∧ target ∈ block.dependsOn

def scanPairs (task : ManifestTask) : List (ManifestBlock × String) :=
  task.blocks.flatMap (fun block => block.dependsOn.map (fun dependency => (block, dependency)))

def scanPair (task : ManifestTask) (blockIds : List String) (scan : OrderedMap String (List String) × List Issue)
    (pair : ManifestBlock × String) : OrderedMap String (List String) × List Issue :=
  scanDependency task blockIds pair.1 scan pair.2

theorem scanBlocks_eq (task : ManifestTask) (blockIds : List String) (blocks : List ManifestBlock)
    (scan : OrderedMap String (List String) × List Issue) :
    blocks.foldl (scanBlock task blockIds) scan =
      (blocks.flatMap (fun block => block.dependsOn.map (fun dependency => (block, dependency)))).foldl
        (scanPair task blockIds) scan := by
  induction blocks generalizing scan with
  | nil => rfl
  | cons _ _ ih =>
    rw [foldl_cons, flatMap_cons, foldl_append, ih, foldl_map]
    rfl

structure ScanSound (blockIds : List String) (adjacency : OrderedMap String (List String)) : Prop where
  keys : ∀ id, adjacency.has id = true ↔ id ∈ blockIds
  closed : ∀ id, ∀ next ∈ neighbors adjacency id, next ∈ blockIds
  acyclic : Search.Acyclic (Search.edge (neighbors adjacency))

variable {source target : String} {graph : Graph}

theorem neighbors_push {adjacency : OrderedMap String (List String)}
    (present : adjacency.has source = true) (left right : String) :
    right ∈ neighbors (adjacency.push source target) left ↔
      right ∈ neighbors adjacency left ∨ (left = source ∧ right = target) := by
  unfold neighbors
  rw [get?_push]
  by_cases same : left = source
  · obtain ⟨_, found⟩ := Option.isSome_iff_exists.mp present
    subst same
    simp [found]
  · cases adjacency.get? left <;> simp [same]

theorem scanPair_issues (task : ManifestTask) (blockIds : List String) (pairs : List (ManifestBlock × String))
    (scan : OrderedMap String (List String) × List Issue) (found : scan.2 ≠ []) :
    (pairs.foldl (scanPair task blockIds) scan).2 ≠ [] := by
  induction pairs generalizing scan with
  | nil => exact found
  | cons _ _ ih =>
    rw [foldl_cons]
    apply ih
    unfold scanPair scanDependency
    split
    · simp
    · split
      · simp
      · exact found

variable {task : ManifestTask} {manifest : Manifest}

theorem scan_clean_iff {blockIds : List String} (named : "" ∉ blockIds)
    {pairs : List (ManifestBlock × String)} (listed : ∀ pair ∈ pairs, pair.1.id ∈ blockIds)
    {adjacency : OrderedMap String (List String)} (sound : ScanSound blockIds adjacency) :
    (pairs.foldl (scanPair task blockIds) (adjacency, [])).2 = [] ↔ (∀ pair ∈ pairs, pair.2 ∈ blockIds) ∧
        Search.Acyclic (fun source target => Search.edge (neighbors adjacency) source target ∨
          ∃ pair ∈ pairs, pair.1.id = source ∧ pair.2 = target) := by
  induction pairs generalizing adjacency with
  | nil =>
    have same : Search.Acyclic (fun source target => Search.edge (neighbors adjacency) source target ∨
        ∃ pair ∈ ([] : List (ManifestBlock × String)), pair.1.id = source ∧ pair.2 = target) :=
      sound.acyclic.mono (fun source target step => step.elim id (fun ⟨_, inside, _⟩ => absurd inside not_mem_nil))
    exact ⟨fun _ => ⟨by simp, same⟩, fun _ => rfl⟩
  | cons pair rest ih =>
    obtain ⟨block, dependency⟩ := pair
    have present := (sound.keys block.id).mpr (listed (block, dependency) (by simp))
    have searched := reachable_iff (fun id next step => (sound.keys next).mpr (sound.closed id next step))
      (by rw [← Bool.not_eq_true, sound.keys]; exact named) dependency block.id
    rw [foldl_cons]
    by_cases known : dependency ∈ blockIds
    · by_cases loop : dependency = block.id ∨ reachable adjacency dependency block.id = true
      · have step : scanPair task blockIds (adjacency, []) (block, dependency) = (adjacency,
            [issue "block_depends_on_cycle" s!"Block dependency cycle detected in task '{task.id}'."
              s!"nodes.{task.id}.blocks"]) := by
          simp [scanPair, scanDependency, known, loop]
        have kept := scanPair_issues task blockIds rest (scanPair task blockIds (adjacency, []) (block, dependency))
          (by rw [step]; simp)
        refine ⟨fun clean => absurd clean kept, fun ⟨_, acyclic⟩ => ?_⟩
        exfalso
        have back : Relation.ReflTransGen (Search.edge (neighbors adjacency)) dependency block.id := by
          rcases loop with same | found
          · exact same ▸ .refl
          · exact (searched.mp found).to_reflTransGen
        apply acyclic block.id
        exact Relation.TransGen.head' (.inr ⟨(block, dependency), by simp, rfl, rfl⟩)
          (Relation.ReflTransGen.mono (fun _ _ step => .inl step) _ _ back)
      · have step : scanPair task blockIds (adjacency, []) (block, dependency) =
            (adjacency.push block.id dependency, []) := by
          simp [scanPair, scanDependency, known, loop]
        have grown : Search.edge (neighbors (adjacency.push block.id dependency)) =
            fun left right => Search.edge (neighbors adjacency) left right ∨ (left = block.id ∧ right = dependency) := by
          funext left right
          exact propext (neighbors_push present left right)
        have free : ¬ Relation.ReflTransGen (Search.edge (neighbors adjacency)) dependency block.id := by
          intro back
          apply loop
          rcases Relation.reflTransGen_iff_eq_or_transGen.mp back with same | path
          · exact .inl same.symm
          · exact .inr (searched.mpr path)
        have sound' : ScanSound blockIds (adjacency.push block.id dependency) := by
          constructor
          · intro id
            rw [has_push]
            exact sound.keys id
          · intro id next inside
            rcases (neighbors_push present id next).mp inside with old | ⟨_, same⟩
            · exact sound.closed id next old
            · exact same ▸ known
          · rw [grown]
            exact sound.acyclic.insert_iff.mpr free
        rw [step, ih (fun pair inside => listed pair (mem_cons_of_mem _ inside)) sound', grown]
        have same : (fun source target => (Search.edge (neighbors adjacency) source target ∨
              (source = block.id ∧ target = dependency)) ∨ ∃ pair ∈ rest, pair.1.id = source ∧ pair.2 = target) =
            fun source target => Search.edge (neighbors adjacency) source target ∨
              ∃ pair ∈ (block, dependency) :: rest, pair.1.id = source ∧ pair.2 = target := by
          funext source target
          apply propext
          simp only [mem_cons, exists_eq_or_imp, or_assoc, eq_comm]
        rw [same]
        simp [known]
    · have step : (scanPair task blockIds (adjacency, []) (block, dependency)).2 ≠ [] := by
        simp [scanPair, scanDependency, known]
      have kept := scanPair_issues task blockIds rest _ step
      refine ⟨fun clean => absurd clean kept, fun ⟨inside, _⟩ => ?_⟩
      exact absurd (inside (block, dependency) (by simp)) known

theorem emptyLists_neighbors (ids : List String) (source target : String) :
    target ∉ neighbors (emptyLists ids) source := by
  unfold neighbors
  rw [emptyLists_get?]
  split <;> simp

theorem emptyLists_sound (ids : List String) : ScanSound ids (emptyLists ids) := by
  constructor
  · intro id
    rw [has, emptyLists_get?]
    by_cases inside : id ∈ ids <;> simp [inside]
  · intro id next inside
    exact absurd inside (emptyLists_neighbors ids id next)
  · intro node loop
    obtain ⟨next, step, _⟩ := (Relation.TransGen.head'_iff).mp loop
    exact emptyLists_neighbors ids node next step

theorem scanPairs_listed (task : ManifestTask) :
    ∀ pair ∈ scanPairs task, pair.1.id ∈ task.blocks.map ManifestBlock.id := by
  intro pair inside
  obtain ⟨_, member, listed⟩ := mem_flatMap.mp inside
  obtain ⟨_, _, same⟩ := mem_map.mp listed
  subst same
  exact mem_map_of_mem member

theorem idStep_pair (step : idStep task source target) :
    ∃ pair ∈ scanPairs task, pair.1.id = source ∧ pair.2 = target := by
  obtain ⟨block, member, same, listed⟩ := step
  exact ⟨(block, target), mem_flatMap.mpr ⟨block, member, mem_map.mpr ⟨target, listed, rfl⟩⟩, same, rfl⟩

theorem validateTaskBlocks_clean_iff (named : "" ∉ task.blocks.map ManifestBlock.id) :
    validateTaskBlocks task = [] ↔ BlocksKnown task ∧ Search.Acyclic (idStep task) := by
  have scanned : (∀ pair ∈ scanPairs task, pair.2 ∈ task.blocks.map ManifestBlock.id) ↔ ∀ block ∈ task.blocks,
      ∀ dependency ∈ block.dependsOn, dependency ∈ task.blocks.map ManifestBlock.id := by
    simp only [scanPairs, mem_flatMap, mem_map, forall_exists_index, and_imp]
    constructor
    · intro all block member dependency listed
      exact all (block, dependency) block member dependency listed rfl
    · intro all pair block member dependency listed same
      subst same
      exact all block member dependency listed
  unfold validateTaskBlocks
  simp only [append_eq_nil_iff, map_eq_nil_iff, repeats_nil_iff]
  rw [scanBlocks_eq]
  constructor
  · rintro ⟨⟨distinct, _⟩, clean⟩
    have start := emptyLists_sound (task.blocks.map ManifestBlock.id)
    have listed : ∀ pair ∈ scanPairs task, pair.1.id ∈ task.blocks.map ManifestBlock.id := scanPairs_listed task
    obtain ⟨known, acyclic⟩ := (scan_clean_iff named listed start).mp clean
    exact ⟨⟨distinct, scanned.mp known⟩, acyclic.mono (fun source target step => .inr (idStep_pair step))⟩
  · rintro ⟨blocks, acyclic⟩
    have start := emptyLists_sound (task.blocks.map ManifestBlock.id)
    refine ⟨⟨blocks.distinct, by simp⟩, (scan_clean_iff named (scanPairs_listed task) start).mpr
      ⟨scanned.mpr blocks.known, acyclic.mono ?_⟩⟩
    intro source target step
    rcases step with none | ⟨_, inside, same, same'⟩
    · exact absurd none (emptyLists_neighbors _ source target)
    · obtain ⟨block, member, listed⟩ := mem_flatMap.mp inside
      obtain ⟨_, memberDependency, equal⟩ := mem_map.mp listed
      subst equal
      exact ⟨block, member, same, same' ▸ memberDependency⟩

/-- Adding an edge closes a cycle exactly when the reachability check finds its way back. -/
theorem findCycle_push_iff {adjacency : OrderedMap String (List String)}
    (closed : ∀ id, ∀ next ∈ neighbors adjacency id, adjacency.has next = true) (named : adjacency.has "" = false)
    (acyclic : findCycle adjacency = none) (knownSource : adjacency.has source = true)
    (knownTarget : adjacency.has target = true) :
    findCycle (adjacency.push source target) ≠ none ↔ source = target ∨ reachable adjacency target source = true := by
  have opened : Search.knownEdge adjacency.has (neighbors adjacency) = Search.edge (neighbors adjacency) := by
    funext left right
    apply propext
    refine ⟨fun known => known.2.2, fun step => ⟨?_, closed left right step, step⟩⟩
    unfold Search.edge neighbors at step
    unfold has
    cases found : adjacency.get? left with
    | none => simp [found] at step
    | some => rfl
  have grown : Search.knownEdge (adjacency.push source target).has (neighbors (adjacency.push source target)) =
      fun left right => Search.edge (neighbors adjacency) left right ∨ (left = source ∧ right = target) := by
    funext left right
    rw [← opened]
    unfold Search.knownEdge
    simp only [has_push, neighbors_push knownSource]
    apply propext
    constructor
    · rintro ⟨hasLeft, hasRight, old | new⟩
      · exact .inl ⟨hasLeft, hasRight, old⟩
      · exact .inr new
    · rintro (⟨hasLeft, hasRight, old⟩ | ⟨same, same'⟩)
      · exact ⟨hasLeft, hasRight, .inl old⟩
      · exact ⟨same ▸ knownSource, same' ▸ knownTarget, .inr ⟨same, same'⟩⟩
  rw [findCycle_none_iff, opened] at acyclic
  rw [ne_eq, findCycle_none_iff, grown, acyclic.insert_iff, not_not, Relation.reflTransGen_iff_eq_or_transGen,
    reachable_iff closed named]

structure TaskAdjacency (graph : Graph) : Prop where
  keys : ∀ id, graph.nodesById.has id = graph.taskDependenciesByTask.has id
  closed : ∀ id, ∀ next ∈ neighbors graph.taskDependenciesByTask id, graph.taskDependenciesByTask.has next = true
  named : graph.taskDependenciesByTask.has "" = false

theorem manifestSchema_named (schema : manifestSchema manifest = true) : "" ∉ manifest.nodes.map ManifestTask.id := by
  intro inside
  obtain ⟨_, member, empty⟩ := mem_map.mp inside
  exact manifestNodeSchema_id (manifestSchema_node schema member) empty

theorem TaskIndexes.adjacency (indexes : TaskIndexes graph manifest)
    (schema : manifestSchema manifest = true) : TaskAdjacency graph := by
  constructor
  · intro id
    rw [has, has, indexes.nodes, indexes.dependencies, Option.isSome_map]
  · intro id next step
    exact ((indexes.task_edge id next).mpr ((indexes.neighbors_eq id next).mp step)).2.1
  · have named := manifestSchema_named schema
    rw [← taskOf_isSome] at named
    rw [has, indexes.dependencies, Option.isSome_map]
    simpa using named

theorem compiled_adjacency (compiled : compileTaskGraph manifest = .ok graph)
    (schema : manifestSchema manifest = true) : TaskAdjacency graph := by
  constructor
  · intro id
    rw [Bool.eq_iff_iff, (compiled_keys compiled id).1, (compiled_keys compiled id).2.2.1]
  · intro id next step
    exact (compiled_keys compiled next).2.2.1.mpr ((compiled_dependencies compiled id next).mp step).2.2
  · rw [← Bool.not_eq_true, (compiled_keys compiled "").2.2.1]
    exact manifestSchema_named schema

def sampleImplementation (id : String) : ManifestBlock :=
  { id, type := .implementation none none, title := id, prompt := "nodes/" ++ id ++ ".md" }

def sampleTask (id : String) (blocks : List ManifestBlock) : ManifestTask :=
  { id, title := id, prompt := "nodes/" ++ id ++ "/task.md", acceptance := ["done"], blocks }

def sampleManifest (nodes : List ManifestTask) (edges : List ManifestEdge) : Manifest :=
  { title := "Plan", description := "", parallelEnabled := true, maxConcurrent := 2, nodes, edges }

def grownTasks : Manifest :=
  sampleManifest [sampleTask "U" [sampleImplementation "a"], sampleTask "T" [sampleImplementation "b"]] [⟨"U", "T"⟩]

theorem findCycle_exact :
    (∀ adjacency : OrderedMap String (List String),
      Search.SearchedRoots adjacency.has (neighbors adjacency) adjacency.keys [] (findCycle adjacency) ∧
      (findCycle adjacency = none ↔ Search.Acyclic (Search.knownEdge adjacency.has (neighbors adjacency))) ∧
      ∀ cycle, findCycle adjacency = some cycle →
        Search.ClosedWalk (Search.knownEdge adjacency.has (neighbors adjacency)) cycle) ∧
    (∀ manifest graph, manifestSchema manifest = true →
      (compileTaskGraph manifest = .ok graph ∨ TaskIndexes graph manifest) →
      findCycle graph.taskDependenciesByTask = none → ∀ edge,
        graph.nodesById.has edge.source = true → graph.nodesById.has edge.target = true →
        (validateEdge graph edge ≠ [] ↔
          findCycle (graph.taskDependenciesByTask.push edge.source edge.target) ≠ none)) := by
  constructor
  · intro adjacency
    have searched := findCycle_searched adjacency
    refine ⟨searched, findCycle_none_iff, ?_⟩
    intro cycle found
    exact searched.closedWalk found (fun root => adjacency.has_iff.mpr)
  · intro manifest graph schema origin acyclic edge hasSource hasTarget
    have adjacency : TaskAdjacency graph := by
      rcases origin with compiled | indexes
      · exact compiled_adjacency compiled schema
      · exact indexes.adjacency schema
    have knownSource := hasSource
    have knownTarget := hasTarget
    rw [adjacency.keys] at knownSource knownTarget
    rw [findCycle_push_iff adjacency.closed adjacency.named acyclic knownSource knownTarget]
    unfold validateEdge Graph.taskReachable
    simp only [hasSource, hasTarget, Bool.true_eq_false, if_false]
    split
    · rename_i rejected
      simp [rejected]
    · rename_i accepted
      simp [accepted]

theorem findCycle_exact_grown : ∃ graph, compileTaskGraph grownTasks = .ok graph ∧
    findCycle (graph.taskDependenciesByTask.push "T" "U") ≠ none := by
  have checks : (compileTaskGraph grownTasks).toOption.any (fun graph => findCycle graph.taskDependenciesByTask = none ∧
    graph.nodesById.has "T" = true ∧ graph.nodesById.has "U" = true ∧ validateEdge graph ⟨"T", "U"⟩ ≠ []) = true := by
    decide +kernel
  cases compiled : compileTaskGraph grownTasks with
  | error => rw [compiled] at checks; cases checks
  | ok graph =>
    rw [compiled] at checks
    obtain ⟨acyclic, hasSource, hasTarget, rejected⟩ := of_decide_eq_true checks
    have schema : manifestSchema grownTasks = true := by decide +kernel
    exact ⟨graph, rfl, (findCycle_exact.2 _ graph schema (.inl compiled) acyclic ⟨"T", "U"⟩ hasSource hasTarget).mp rejected⟩

end PlanWeave
