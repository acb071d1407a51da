import PlanWeave.Graph.SessionEquivalence

namespace PlanWeave
open GraphEditOperation List

def edgeStep (edges : List ManifestEdge) (source target : String) : Prop := ⟨source, target⟩ ∈ edges

variable {manifest : Manifest} {edges : List ManifestEdge}

theorem Editable.taskStep_iff (editable : Editable manifest) (source target : String) :
    taskStep manifest source target ↔ edgeStep manifest.edges source target := by
  unfold taskStep edgeStep taskDependencies connectedEdges
  simp only [mem_map, mem_filter, decide_eq_true_eq, Bool.and_eq_true]
  constructor
  · rintro ⟨_, ⟨⟨member, _⟩, same⟩, same'⟩
    subst same same'
    exact member
  · intro member
    exact ⟨⟨source, target⟩, ⟨⟨member, taskOf_isSome.mpr (editable.source _ member),
      taskOf_isSome.mpr (editable.target _ member)⟩, rfl⟩, rfl⟩

theorem Editable.taskStep_eq (editable : Editable manifest) : taskStep manifest = edgeStep manifest.edges := by
  funext source target
  exact propext (editable.taskStep_iff source target)

theorem Wellformed.editable (valid : Wellformed manifest) : Editable manifest :=
  ⟨valid.distinct, valid.named, valid.edgeSource, valid.edgeTarget⟩

theorem allAccepted_removeNodes {ids : List String} (distinct : ids.Nodup)
    (listed : ∀ id ∈ ids, id ∈ manifest.nodes.map ManifestTask.id) :
    AllAccepted manifest (ids.map removeNode) := by
  induction ids generalizing manifest with
  | nil => trivial
  | cons id _ ih =>
    rw [nodup_cons] at distinct
    refine ⟨listed id (by simp), ih distinct.2 ?_⟩
    intro other member
    have different : other ≠ id := fun same => distinct.1 (same ▸ member)
    have kept : taskOf (editManifest manifest (.removeNode id)) other = taskOf manifest other :=
      (taskOf_filter id other).trans (if_neg different)
    rw [← taskOf_isSome, kept, taskOf_isSome]
    exact listed other (mem_cons_of_mem _ member)

theorem edges_removeNodes (ids : List String) (manifest : Manifest) (edge : ManifestEdge) :
    edge ∈ ((ids.map removeNode).foldl editManifest manifest).edges ↔
      edge ∈ manifest.edges ∧ edge.source ∉ ids ∧ edge.target ∉ ids := by
  induction ids generalizing manifest with
  | nil => simp
  | cons _ _ ih =>
    rw [map_cons, foldl_cons, ih]
    simp only [editManifest, mem_filter, decide_eq_true_eq, not_or, mem_cons]
    tauto

theorem edges_removeNodes_distinct {ids : List String} (distinct : manifest.edges.Nodup) :
    ((ids.map removeNode).foldl editManifest manifest).edges.Nodup := by
  induction ids generalizing manifest with
  | nil => exact distinct
  | cons _ _ ih =>
    rw [map_cons, foldl_cons]
    exact ih (distinct.filter _)

def freshIds (before : Manifest) (nodes : List ManifestTask) : List String :=
  (nodes.filter (fun node => (taskOf before node.id).isNone)).map ManifestTask.id

section
variable {before : Manifest} {node : ManifestTask} {rest : List ManifestTask}

theorem freshIds_new (found : taskOf before node.id = none) : freshIds before (node :: rest) = node.id :: freshIds before rest := by
  simp [freshIds, found]

theorem freshIds_old {previous : ManifestTask} (found : taskOf before node.id = some previous) :
    freshIds before (node :: rest) = freshIds before rest := by
  simp [freshIds, found]
end

theorem ids_addNode (node : ManifestTask) (manifest : Manifest) :
    (editManifest manifest (.addNode node)).nodes.map ManifestTask.id = manifest.nodes.map ManifestTask.id ++ [node.id] := by
  simp [editManifest, setNodes]

theorem ids_updateNode (node : ManifestTask) (manifest : Manifest) :
    (editManifest manifest (.updateNode node)).nodes.map ManifestTask.id = manifest.nodes.map ManifestTask.id :=
  replaceFirst_ids node manifest.nodes

theorem nodeChange_cases (before : Manifest) (node : ManifestTask) :
    ((nodeMap before).get? node.id = none ∧ nodeChange before node = some (.addNode node)) ∨
      ((nodeMap before).get? node.id = some node ∧ nodeChange before node = none) ∨
      ∃ previous, (nodeMap before).get? node.id = some previous ∧ previous ≠ node ∧
        nodeChange before node = some (.updateNode node) := by
  unfold nodeChange
  split
  · rename_i found
    exact .inl ⟨found, rfl⟩
  · rename_i previous found
    split
    · rename_i same
      exact .inr (.inl ⟨same ▸ found, rfl⟩)
    · rename_i different
      exact .inr (.inr ⟨previous, found, different, rfl⟩)

theorem allAccepted_nodeChanges {before : Manifest} (distinctBefore : (before.nodes.map ManifestTask.id).Nodup)
    {nodes : List ManifestTask}
    (kept : ∀ node ∈ nodes, (taskOf before node.id).isSome = true → node.id ∈ manifest.nodes.map ManifestTask.id) :
    AllAccepted manifest (nodes.filterMap (nodeChange before)) ↔
      (freshIds before nodes).Nodup ∧ (∀ id ∈ freshIds before nodes, id ∉ manifest.nodes.map ManifestTask.id) ∧
        (∀ node ∈ nodes, taskOf before node.id ≠ some node → validateTaskBlocks node = []) := by
  induction nodes generalizing manifest with
  | nil => simp [AllAccepted, freshIds]
  | cons node rest ih =>
    have keptRest := fun (other : ManifestTask) (member : other ∈ rest) => kept other (mem_cons_of_mem _ member)
    have change := nodeChange_cases before node
    rw [nodeMap_get? distinctBefore] at change
    rcases change with ⟨found, changed⟩ | ⟨found, unchanged⟩ | ⟨previous, found, different, changed⟩
    · rw [filterMap_cons_some changed, AllAccepted, ih, freshIds_new found, ids_addNode]
      · simp only [Accepts, nodup_cons, mem_cons, mem_append, not_mem_nil, or_false,
          forall_eq_or_imp, found, ne_eq, reduceCtorEq, not_false_eq_true, forall_const, not_or]
        constructor
        · rintro ⟨⟨absent, clean⟩, distinct, later, blocks⟩
          exact ⟨⟨fun inside => (later node.id inside).2 rfl, distinct⟩, ⟨absent, fun id inside => (later id inside).1⟩,
            clean, blocks⟩
        · rintro ⟨⟨outside, distinct⟩, ⟨absent, later⟩, clean, blocks⟩
          exact ⟨⟨absent, clean⟩, distinct, fun id inside => ⟨later id inside, fun same => outside (same ▸ inside)⟩, blocks⟩
      · intro other member present
        rw [ids_addNode]
        exact mem_append_left _ (keptRest other member present)
    · rw [filterMap_cons_none unchanged, ih keptRest, freshIds_old found]
      simp [found]
    · have listed := kept node (by simp) (by rw [found]; rfl)
      rw [filterMap_cons_some changed, AllAccepted, ih, ids_updateNode, freshIds_old found]
      · simp only [Accepts, listed, true_and, mem_cons, forall_eq_or_imp, found, ne_eq, Option.some.injEq,
          different, not_false_eq_true, forall_const]
        tauto
      · intro other member present
        rw [ids_updateNode]
        exact keptRest other member present

theorem nodeChanges_keep_edges (before : Manifest) (nodes : List ManifestTask) (manifest : Manifest) :
    ((nodes.filterMap (nodeChange before)).foldl editManifest manifest).edges = manifest.edges := by
  induction nodes generalizing manifest with
  | nil => rfl
  | cons node _ ih =>
    rcases nodeChange_cases before node with ⟨_, changed⟩ | ⟨_, unchanged⟩ | ⟨_, _, _, changed⟩
    · rw [filterMap_cons_some changed, foldl_cons, ih]
      rfl
    · rw [filterMap_cons_none unchanged, ih]
    · rw [filterMap_cons_some changed, foldl_cons, ih]
      rfl

theorem nodeChanges_ids {before : Manifest} (distinctBefore : (before.nodes.map ManifestTask.id).Nodup)
    (nodes : List ManifestTask) (manifest : Manifest) (id : String) :
    id ∈ ((nodes.filterMap (nodeChange before)).foldl editManifest manifest).nodes.map ManifestTask.id ↔
      id ∈ manifest.nodes.map ManifestTask.id ∨ id ∈ freshIds before nodes := by
  induction nodes generalizing manifest with
  | nil => simp [freshIds]
  | cons node rest ih =>
    have change := nodeChange_cases before node
    rw [nodeMap_get? distinctBefore] at change
    rcases change with ⟨found, changed⟩ | ⟨found, unchanged⟩ | ⟨_, found, _, changed⟩
    · rw [filterMap_cons_some changed, foldl_cons, ih, ids_addNode, freshIds_new found]
      simp only [mem_append, mem_cons, not_mem_nil, or_false, or_assoc]
    · rw [filterMap_cons_none unchanged, ih, freshIds_old found]
    · rw [filterMap_cons_some changed, foldl_cons, ih, ids_updateNode, freshIds_old found]

theorem allAccepted_removeEdges (edges : List ManifestEdge) (manifest : Manifest) :
    AllAccepted manifest (edges.map removeEdge) := by
  induction edges generalizing manifest with
  | nil => trivial
  | cons _ _ ih => exact ⟨trivial, ih _⟩

theorem edges_removeEdges (distinct : manifest.edges.Nodup) (edge : ManifestEdge) :
    edge ∈ ((edges.map removeEdge).foldl editManifest manifest).edges ↔
      edge ∈ manifest.edges ∧ edge ∉ edges := by
  induction edges generalizing manifest with
  | nil => simp
  | cons first _ ih =>
    rw [map_cons, foldl_cons, ih (distinct.erase first)]
    simp only [editManifest, distinct.mem_erase_iff, mem_cons, not_or]
    tauto

theorem nodes_removeEdges (edges : List ManifestEdge) (manifest : Manifest) :
    ((edges.map removeEdge).foldl editManifest manifest).nodes = manifest.nodes := by
  apply nodes_edgeOperations
  intro operation member
  obtain ⟨edge, _, same⟩ := mem_map.mp member
  exact ⟨edge, .inr same.symm⟩

/-- New edges pass one by one exactly when they are new, distinct, join tasks and close no cycle. -/
theorem allAccepted_addEdges (editable : Editable manifest) (acyclic : Search.Acyclic (edgeStep manifest.edges)) :
    AllAccepted manifest (edges.map addEdge) ↔
      edges.Nodup ∧ (∀ edge ∈ edges, edge ∉ manifest.edges) ∧
        (∀ edge ∈ edges, edge.source ∈ manifest.nodes.map ManifestTask.id ∧
          edge.target ∈ manifest.nodes.map ManifestTask.id) ∧ Search.Acyclic (edgeStep (manifest.edges ++ edges)) := by
  induction edges generalizing manifest with
  | nil => simp [AllAccepted, acyclic]
  | cons edge rest ih =>
    rw [map_cons, AllAccepted]
    have grown : edgeStep (manifest.edges ++ [edge]) =
        fun left right => edgeStep manifest.edges left right ∨ (left = edge.source ∧ right = edge.target) := by
      funext left right
      apply propext
      unfold edgeStep
      rw [mem_append, mem_singleton]
      constructor
      · intro member
        rcases member with old | new
        · exact .inl old
        · rw [← new]
          exact .inr ⟨rfl, rfl⟩
      · intro member
        rcases member with old | ⟨same, same'⟩
        · exact .inl old
        · subst same same'
          exact .inr rfl
    have joined : manifest.edges ++ edge :: rest = (manifest.edges ++ [edge]) ++ rest := by simp
    constructor
    · rintro ⟨accepts, later⟩
      have next := editable.edit accepts trivial
      obtain ⟨fresh, source, target, free⟩ := accepts
      rw [editable.taskStep_eq] at free
      have acyclicNext : Search.Acyclic (edgeStep (editManifest manifest (.addEdge edge)).edges) := by
        show Search.Acyclic (edgeStep (manifest.edges ++ [edge]))
        rw [grown]
        exact acyclic.insert_iff.mpr free
      obtain ⟨distinct, outside, ends, whole⟩ := (ih next acyclicNext).mp later
      have absent : ∀ other ∈ rest, other ∉ manifest.edges ∧ other ≠ edge := by
        intro other member
        have missing := outside other member
        simp only [editManifest, mem_append, mem_singleton, not_or] at missing
        exact missing
      refine ⟨nodup_cons.mpr ⟨fun member => (absent edge member).2 rfl, distinct⟩, ?_, ?_, ?_⟩
      · intro other member
        rcases mem_cons.mp member with same | member
        · exact same ▸ fresh
        · exact (absent other member).1
      · intro other member
        rcases mem_cons.mp member with same | member
        · exact same ▸ ⟨source, target⟩
        · exact ends other member
      · rw [joined]
        exact whole
    · rintro ⟨distinct, outside, ends, whole⟩
      rw [nodup_cons] at distinct
      rw [joined] at whole
      have acyclicNext : Search.Acyclic (edgeStep (manifest.edges ++ [edge])) :=
        whole.mono (fun left right step => mem_append_left rest step)
      have free : ¬ Relation.ReflTransGen (taskStep manifest) edge.target edge.source := by
        rw [editable.taskStep_eq]
        rw [grown] at acyclicNext
        exact acyclic.insert_iff.mp acyclicNext
      have accepts : Accepts manifest (.addEdge edge) :=
        ⟨outside edge (by simp), (ends edge (by simp)).1, (ends edge (by simp)).2, free⟩
      refine ⟨accepts, (ih (editable.edit accepts trivial) acyclicNext).mpr ⟨distinct.2, ?_, ?_, whole⟩⟩
      · intro other member
        simp only [editManifest, mem_append, mem_singleton, not_or]
        exact ⟨outside other (mem_cons_of_mem _ member), fun same => distinct.1 (same ▸ member)⟩
      · intro other member
        exact ends other (mem_cons_of_mem _ member)

def keptEdges (before after : Manifest) : List ManifestEdge :=
  before.edges.filter (fun edge => edgeKey edge ∈ after.edges.map edgeKey ∧
    edge.source ∈ after.nodes.map ManifestTask.id ∧ edge.target ∈ after.nodes.map ManifestTask.id)

structure ChangesChecked (before after : Manifest) : Prop where
  ids : (freshIds before after.nodes).Nodup
  blocks : ∀ node ∈ after.nodes, taskOf before node.id ≠ some node → BlocksKnown node ∧ Search.Acyclic (idStep node)
  edges : (addedEdges before after).Nodup
  ends : ∀ edge ∈ addedEdges before after, edge.source ∈ after.nodes.map ManifestTask.id ∧
    edge.target ∈ after.nodes.map ManifestTask.id

theorem Editable.edits {operations : List GraphEditOperation} (editable : Editable manifest)
    (accepted : AllAccepted manifest operations) (named : ∀ operation ∈ operations, NamedOperation operation) :
    Editable (operations.foldl editManifest manifest) := by
  induction operations generalizing manifest with
  | nil => exact editable
  | cons operation _ ih =>
    exact ih (editable.edit accepted.1 (named operation (by simp))) accepted.2
      (fun other member => named other (mem_cons_of_mem _ member))

def removedIds (before after : Manifest) : List String :=
  (before.nodes.filter (fun node => (nodeMap after).has node.id = false)).map ManifestTask.id

theorem removedNodes_eq (before after : Manifest) :
    removedNodes before after = (removedIds before after).map removeNode := by
  unfold removedNodes removedIds
  rw [map_map]
  rfl

theorem mem_removedIds (before after : Manifest) (id : String) :
    id ∈ removedIds before after ↔ id ∈ before.nodes.map ManifestTask.id ∧ id ∉ after.nodes.map ManifestTask.id := by
  unfold removedIds
  rw [← nodeMap_has after]
  simp only [mem_map, mem_filter, decide_eq_true_eq, Bool.not_eq_true]
  constructor
  · rintro ⟨node, ⟨member, gone⟩, same⟩
    exact ⟨⟨node, member, same⟩, same ▸ gone⟩
  · rintro ⟨⟨node, member, same⟩, gone⟩
    exact ⟨node, ⟨member, same ▸ gone⟩, same⟩

def operationsBeforeNewEdges (before after : Manifest) : List GraphEditOperation :=
  removedNodes before after ++ after.nodes.filterMap (nodeChange before) ++ removedEdges before after

/-- The manifest between the operations of a diff, where the new edges still have to go in. -/
def beforeNewEdges (before after : Manifest) : Manifest :=
  (operationsBeforeNewEdges before after).foldl editManifest before

section Diff
variable {before after : Manifest}

theorem afterRemovals_ids (id : String) :
    id ∈ ((removedNodes before after).foldl editManifest before).nodes.map ManifestTask.id ↔
      id ∈ before.nodes.map ManifestTask.id ∧ id ∈ after.nodes.map ManifestTask.id := by
  rw [removedNodes_eq, ← taskOf_isSome, taskOf_removeNodes]
  have gone := mem_removedIds before after id
  by_cases removed : id ∈ removedIds before after
  · rw [if_pos removed]
    have facts := gone.mp removed
    simp only [Option.isSome_none, Bool.false_eq_true, false_iff, not_and]
    exact fun _ => facts.2
  · rw [if_neg removed, taskOf_isSome]
    rw [gone, not_and, not_not] at removed
    exact ⟨fun old => ⟨old, removed old⟩, fun both => both.1⟩

theorem freshIds_outside : ∀ id ∈ freshIds before after.nodes,
    id ∉ ((removedNodes before after).foldl editManifest before).nodes.map ManifestTask.id := by
  intro id fresh inside
  obtain ⟨_, member, same⟩ := mem_map.mp fresh
  have new := (mem_filter.mp member).2
  have old := taskOf_isSome.mpr ((afterRemovals_ids id).mp inside).1
  rw [← same] at old
  rw [Option.isNone_iff_eq_none] at new
  rw [new] at old
  cases old

variable (valid : Wellformed before)
include valid

theorem beforeNewEdges_ids (id : String) :
    id ∈ (beforeNewEdges before after).nodes.map ManifestTask.id ↔ id ∈ after.nodes.map ManifestTask.id := by
  unfold beforeNewEdges operationsBeforeNewEdges removedEdges
  rw [foldl_append, nodes_removeEdges, foldl_append, nodeChanges_ids valid.distinct, removedNodes_eq,
    ← taskOf_isSome, taskOf_removeNodes]
  have fresh : id ∈ freshIds before after.nodes ↔ id ∈ after.nodes.map ManifestTask.id ∧ taskOf before id = none := by
    unfold freshIds
    simp only [mem_map, mem_filter, Option.isNone_iff_eq_none]
    constructor
    · rintro ⟨node, ⟨member, new⟩, same⟩
      exact ⟨⟨node, member, same⟩, same ▸ new⟩
    · rintro ⟨⟨node, member, same⟩, new⟩
      exact ⟨node, ⟨member, same ▸ new⟩, same⟩
  rw [fresh]
  have gone := mem_removedIds before after id
  by_cases kept : id ∈ after.nodes.map ManifestTask.id
  · have stays : id ∉ removedIds before after := fun inside => (gone.mp inside).2 kept
    rw [if_neg stays]
    cases taskOf before id <;> simp [kept]
  · by_cases old : id ∈ before.nodes.map ManifestTask.id
    · rw [if_pos (gone.mpr ⟨old, kept⟩)]
      simp [kept]
    have missing : taskOf before id = none := by
      rw [← Option.not_isSome_iff_eq_none, taskOf_isSome]
      exact old
    rw [missing]
    simp [kept]

theorem beforeNewEdges_edges (edge : ManifestEdge) :
    edge ∈ (beforeNewEdges before after).edges ↔ edge ∈ keptEdges before after := by
  have distinct : before.edges.Nodup := List.Nodup.of_map _ valid.edgeKeys
  unfold beforeNewEdges operationsBeforeNewEdges removedEdges
  rw [foldl_append, edges_removeEdges, foldl_append, nodeChanges_keep_edges, removedNodes_eq,
    edges_removeNodes]
  · unfold keptEdges
    simp only [mem_filter, mem_removedIds, decide_eq_true_eq, not_and, not_not]
    constructor
    · rintro ⟨⟨member, source, target⟩, key⟩
      exact ⟨member, key member, source (valid.edgeSource edge member), target (valid.edgeTarget edge member)⟩
    · rintro ⟨member, key, source, target⟩
      exact ⟨⟨member, fun _ => source, fun _ => target⟩, fun _ => key⟩
  · rw [foldl_append, nodeChanges_keep_edges, removedNodes_eq]
    exact edges_removeNodes_distinct distinct

theorem allAccepted_beforeNewEdges (schema : manifestSchema after = true) :
    AllAccepted before (operationsBeforeNewEdges before after) ↔
      (freshIds before after.nodes).Nodup ∧ ∀ node ∈ after.nodes, taskOf before node.id ≠ some node →
        BlocksKnown node ∧ Search.Acyclic (idStep node) := by
  have removals : AllAccepted before (removedNodes before after) := by
    rw [removedNodes_eq]
    apply allAccepted_removeNodes
    · exact valid.distinct.sublist (filter_sublist.map _)
    · intro id member
      exact ((mem_removedIds before after id).mp member).1
  have changes := @allAccepted_nodeChanges ((removedNodes before after).foldl editManifest before) before
    valid.distinct after.nodes (by
      intro node member old
      rw [afterRemovals_ids]
      exact ⟨taskOf_isSome.mp old, mem_map_of_mem member⟩)
  have blocksClean : ∀ node ∈ after.nodes, validateTaskBlocks node = [] ↔
      BlocksKnown node ∧ Search.Acyclic (idStep node) := fun node member =>
    validateTaskBlocks_clean_iff (manifestNodeSchema_blockIds (manifestSchema_node schema member))
  unfold operationsBeforeNewEdges removedEdges
  rw [allAccepted_append, allAccepted_append, changes]
  simp only [removals, allAccepted_removeEdges, true_and, and_true]
  constructor
  · rintro ⟨distinct, _, blocks⟩
    exact ⟨distinct, fun node member new => (blocksClean node member).mp (blocks node member new)⟩
  · rintro ⟨distinct, blocks⟩
    exact ⟨distinct, freshIds_outside, fun node member new => (blocksClean node member).mpr (blocks node member new)⟩

theorem beforeNewEdges_step (edges : List ManifestEdge) :
    edgeStep ((beforeNewEdges before after).edges ++ edges) = edgeStep (keptEdges before after ++ edges) := by
  funext source target
  apply propext
  unfold edgeStep
  rw [mem_append, beforeNewEdges_edges valid, mem_append]

theorem beforeNewEdges_acyclic : Search.Acyclic (edgeStep (beforeNewEdges before after).edges) := by
  have acyclic := valid.tasksAcyclic
  rw [valid.editable.taskStep_eq] at acyclic
  refine acyclic.mono (fun source target step => ?_)
  have kept := (beforeNewEdges_edges valid _).mp step
  exact (mem_filter.mp kept).1

theorem addedEdges_outside : ∀ edge ∈ addedEdges before after, edge ∉ (beforeNewEdges before after).edges := by
  intro edge new old
  have kept := (mem_filter.mp ((beforeNewEdges_edges valid edge).mp old)).1
  have absent := (mem_filter.mp new).2
  simp only [decide_eq_true_eq] at absent
  exact absent (mem_map_of_mem kept)

theorem diff_accepted_iff (schema : manifestSchema after = true) :
    AllAccepted before (diffManifestToGraphOps before after) ↔
      ChangesChecked before after ∧ Search.Acyclic (edgeStep (keptEdges before after ++ addedEdges before after)) := by
  have firstThree := @allAccepted_beforeNewEdges before after valid schema
  have editable : AllAccepted before (operationsBeforeNewEdges before after) → Editable (beforeNewEdges before after) :=
    fun accepted => valid.editable.edits accepted
      (fun operation member => diff_named schema operation (mem_append_left _ member))
  have keptAcyclic := @beforeNewEdges_acyclic before after valid
  have split : AllAccepted before (diffManifestToGraphOps before after) ↔
      AllAccepted before (operationsBeforeNewEdges before after) ∧
        AllAccepted (beforeNewEdges before after) ((addedEdges before after).map addEdge) := allAccepted_append
  rw [split]
  constructor
  · rintro ⟨accepted, added⟩
    obtain ⟨ids, blocks⟩ := firstThree.mp accepted
    obtain ⟨edges, _, ends, acyclic⟩ := (allAccepted_addEdges (editable accepted) keptAcyclic).mp added
    rw [beforeNewEdges_step valid] at acyclic
    refine ⟨⟨ids, blocks, edges, fun edge member => ?_⟩, acyclic⟩
    have both := ends edge member
    rwa [beforeNewEdges_ids valid, beforeNewEdges_ids valid] at both
  · rintro ⟨checked, acyclic⟩
    have accepted := firstThree.mpr ⟨checked.ids, checked.blocks⟩
    refine ⟨accepted, (allAccepted_addEdges (editable accepted) keptAcyclic).mpr
      ⟨checked.edges, addedEdges_outside valid, ?_, ?_⟩⟩
    · intro edge member
      rw [beforeNewEdges_ids valid, beforeNewEdges_ids valid]
      exact checked.ends edge member
    · rw [beforeNewEdges_step valid]
      exact acyclic

end Diff
end PlanWeave
