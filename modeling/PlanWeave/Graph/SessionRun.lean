import PlanWeave.Graph.SessionChecks

namespace PlanWeave
open Checked List Option

def editManifest (manifest : Manifest) : GraphEditOperation → Manifest
  | .addNode node => setNodes manifest (manifest.nodes ++ [node])
  | .updateNode node => setNodes manifest (replaceFirst node manifest.nodes)
  | .removeNode nodeId => { manifest with
      nodes := manifest.nodes.filter (fun item => item.id ≠ nodeId)
      edges := manifest.edges.filter (fun edge => ¬ (edge.source = nodeId ∨ edge.target = nodeId)) }
  | .addEdge edge => { manifest with edges := manifest.edges ++ [edge] }
  | .removeEdge edge => { manifest with edges := manifest.edges.erase edge }

def Accepts (manifest : Manifest) : GraphEditOperation → Prop
  | .addNode node => node.id ∉ manifest.nodes.map ManifestTask.id ∧ validateTaskBlocks node = []
  | .updateNode node => node.id ∈ manifest.nodes.map ManifestTask.id ∧ validateTaskBlocks node = []
  | .removeNode nodeId => nodeId ∈ manifest.nodes.map ManifestTask.id
  | .addEdge edge => edge ∉ manifest.edges ∧ edge.source ∈ manifest.nodes.map ManifestTask.id ∧
      edge.target ∈ manifest.nodes.map ManifestTask.id ∧
      ¬ Relation.ReflTransGen (taskStep manifest) edge.target edge.source
  | .removeEdge _ => True

structure Editable (manifest : Manifest) : Prop where
  distinct : (manifest.nodes.map ManifestTask.id).Nodup
  named : "" ∉ manifest.nodes.map ManifestTask.id
  source : ∀ edge ∈ manifest.edges, edge.source ∈ manifest.nodes.map ManifestTask.id
  target : ∀ edge ∈ manifest.edges, edge.target ∈ manifest.nodes.map ManifestTask.id

def NamedOperation : GraphEditOperation → Prop
  | .addNode node => node.id ≠ "" ∧ "" ∉ node.blocks.map ManifestBlock.id
  | .updateNode node => node.id ≠ "" ∧ "" ∉ node.blocks.map ManifestBlock.id
  | _ => True

variable {manifest : Manifest} {session' : Session} {operations : List GraphEditOperation}

theorem Editable.edit (editable : Editable manifest) {operation : GraphEditOperation}
    (accepts : Accepts manifest operation) (named : NamedOperation operation) :
    Editable (editManifest manifest operation) := by
  cases operation with
  | addNode node =>
    have ids : (editManifest manifest (.addNode node)).nodes.map ManifestTask.id =
        manifest.nodes.map ManifestTask.id ++ [node.id] := by
      simp [editManifest, setNodes]
    constructor
    · rw [ids, nodup_append]
      refine ⟨editable.distinct, by simp, ?_⟩
      intro left inside right single same
      rw [mem_singleton] at single
      exact accepts.1 (single ▸ same ▸ inside)
    · rw [ids, mem_append, mem_singleton, not_or]
      exact ⟨editable.named, fun empty => named.1 empty.symm⟩
    · intro edge member
      rw [ids]
      exact mem_append_left _ (editable.source edge member)
    · intro edge member
      rw [ids]
      exact mem_append_left _ (editable.target edge member)
  | updateNode node =>
    have ids : (editManifest manifest (.updateNode node)).nodes.map ManifestTask.id =
        manifest.nodes.map ManifestTask.id := replaceFirst_ids node manifest.nodes
    constructor
    · rw [ids]; exact editable.distinct
    · rw [ids]; exact editable.named
    · intro edge member
      rw [ids]
      exact editable.source edge member
    · intro edge member
      rw [ids]
      exact editable.target edge member
  | removeNode nodeId =>
    have ids : ∀ id, id ∈ (editManifest manifest (.removeNode nodeId)).nodes.map ManifestTask.id ↔
        id ∈ manifest.nodes.map ManifestTask.id ∧ id ≠ nodeId := by
      intro id
      simp only [editManifest, List.mem_map, List.mem_filter, ne_eq, decide_eq_true_eq]
      constructor
      · rintro ⟨node, ⟨member, different⟩, same⟩
        exact ⟨⟨node, member, same⟩, same ▸ different⟩
      · rintro ⟨⟨node, member, same⟩, different⟩
        exact ⟨node, ⟨member, same ▸ different⟩, same⟩
    have kept : ∀ edge ∈ (editManifest manifest (.removeNode nodeId)).edges,
        edge ∈ manifest.edges ∧ edge.source ≠ nodeId ∧ edge.target ≠ nodeId := by
      intro edge member
      simpa [editManifest, not_or] using member
    constructor
    · exact editable.distinct.sublist (filter_sublist.map _)
    · rw [ids]
      exact fun inside => editable.named inside.1
    · intro edge member
      rw [ids]
      exact ⟨editable.source edge (kept edge member).1, (kept edge member).2.1⟩
    · intro edge member
      rw [ids]
      exact ⟨editable.target edge (kept edge member).1, (kept edge member).2.2⟩
  | addEdge =>
    refine ⟨editable.distinct, editable.named, ?_, ?_⟩
    · intro other member
      rcases mem_append.mp member with old | new
      · exact editable.source other old
      · rw [mem_singleton] at new
        exact new ▸ accepts.2.1
    · intro other member
      rcases mem_append.mp member with old | new
      · exact editable.target other old
      · rw [mem_singleton] at new
        exact new ▸ accepts.2.2.1
  | removeEdge =>
    exact ⟨editable.distinct, editable.named, fun other member => editable.source other (mem_of_mem_erase member),
      fun other member => editable.target other (mem_of_mem_erase member)⟩

structure Applied (session session' : Session) (operation : GraphEditOperation) : Prop where
  manifest : session'.manifest = editManifest session.manifest operation
  nodes : NodeIndexes session'.graph session'.manifest
  blocks : Indexable session.manifest → Indexable session'.manifest →
    BlockIndexes session.graph session.manifest → BlockIndexes session'.graph session'.manifest
  errors : session'.graph.errors = session.graph.errors
  warnings : session'.graph.warnings = session.graph.warnings

variable {graph : Graph} {progress progress' : Session × List Issue}

theorem NodeIndexes.of_edges (nodes : NodeIndexes graph manifest)
    (edges : List ManifestEdge) : NodeIndexes graph { manifest with edges } := { nodes with }

theorem BlockIndexes.of_edges (blocks : BlockIndexes graph manifest)
    (edges : List ManifestEdge) : BlockIndexes graph { manifest with edges } := { blocks with }

variable {operation : GraphEditOperation}

section Step
variable {session : Session} (indexes : TaskIndexes session.graph session.manifest)
  (editable : Editable session.manifest)
include indexes

theorem nodesById_has (id : String) :
    session.graph.nodesById.has id = true ↔ id ∈ session.manifest.nodes.map ManifestTask.id := by
  rw [OrderedMap.has, indexes.nodes, taskOf_isSome]

variable {node : ManifestTask} {edge : ManifestEdge}

theorem addNode_accepted (accepts : Accepts session.manifest (.addNode node)) (named : NamedOperation (.addNode node)) :
    ∃ session', applyGraphEditOperation session (.addNode node) = .ok (session', []) ∧
      Applied session session' (.addNode node) := by
  obtain ⟨fresh, clean⟩ := accepts
  have blocks := ((validateTaskBlocks_clean_iff named.2).mp clean).1
  have absent : session.graph.nodesById.has node.id = false := by
    rw [← Bool.not_eq_true, nodesById_has indexes]
    exact fresh
  have nodes := indexes.toNodeIndexes.addNode fresh
  have refs : (withTask (setNode session.graph node) node).blocksByTask.get? node.id = some (blockRefs node) := by
    rw [withTask_taskBlocks, if_pos rfl]
  refine ⟨_, by
    simp only [applyGraphEditOperation, absent, clean, addTaskIndexes_eq _ blocks, requireMapValue_eq refs,
      Bool.false_eq_true, if_false, ne_eq, not_true_eq_false, Bind.bind, Except.bind, Pure.pure, Except.pure]
    rfl, ?_⟩
  exact ⟨rfl, nodes, fun indexable indexable' old => old.addNode indexable indexable', rfl, rfl⟩

theorem updateNode_accepted (accepts : Accepts session.manifest (.updateNode node))
    (named : NamedOperation (.updateNode node)) :
    ∃ session', applyGraphEditOperation session (.updateNode node) = .ok (session', []) ∧
      Applied session session' (.updateNode node) := by
  obtain ⟨listed, clean⟩ := accepts
  have blocks := ((validateTaskBlocks_clean_iff named.2).mp clean).1
  have present : session.manifest.nodes.any (fun item => item.id = node.id) = true := by
    obtain ⟨item, member, same⟩ := mem_map.mp listed
    exact any_eq_true.mpr ⟨item, member, by simpa using same⟩
  obtain ⟨previous, found⟩ := isSome_iff_exists.mp (taskOf_isSome.mpr listed)
  have removedRefs : session.graph.blocksByTask.get? node.id = some (blockRefs previous) := by
    rw [indexes.taskBlocks, found]
    rfl
  have nodes := indexes.toNodeIndexes.updateNode listed (blockRefs previous)
  have refs : (alignGraphOrder (withTask (setNode (withoutTask session.graph node.id (blockRefs previous)) node) node)
      (setNodes session.manifest (replaceFirst node session.manifest.nodes))).blocksByTask.get? node.id =
        some (blockRefs node) := by
    show (withTask _ node).blocksByTask.get? node.id = _
    rw [withTask_taskBlocks, if_pos rfl]
  refine ⟨_, by
    simp only [applyGraphEditOperation, present, clean, removeTaskIndexes_eq removedRefs, addTaskIndexes_eq _ blocks,
      if_false, ne_eq, not_true_eq_false, Bool.true_eq_false, Bind.bind, Except.bind, Pure.pure, Except.pure]
    erw [requireMapValue_eq refs], ?_⟩
  refine ⟨rfl, nodes, fun indexable indexable' old => ?_, rfl, rfl⟩
  obtain ⟨memberPrevious, same⟩ := (taskOf_iff indexable.distinct).mp found
  exact old.updateNode indexable memberPrevious same indexable'

variable {nodeId : String} {diagnostics : List Issue}

theorem removeNode_applied
    (done : applyGraphEditOperation session (.removeNode nodeId) = .ok (session', [])) :
    Applied session session' (.removeNode nodeId) := by
  have nodes := indexes.toNodeIndexes
  simp only [applyGraphEditOperation] at done
  split at done
  · cases done
  obtain ⟨unlinked, removed, done⟩ := bind_ok.mp done
  have same := foldlM_removeEdgeIndexes_same removed
  have unlinkedNodes := nodes.sameButEdges same
  obtain ⟨_, removedTask, done⟩ := bind_ok.mp done
  obtain ⟨task, found⟩ : ∃ task, taskOf session.manifest nodeId = some task := by
    cases found : taskOf session.manifest nodeId with
    | some task => exact ⟨task, rfl⟩
    | none =>
      have missing := unlinkedNodes.taskBlocks nodeId
      rw [found] at missing
      simp only [removeTaskIndexes, requireMapValue, missing, map_none, Bind.bind, Except.bind] at removedTask
      cases removedTask
  have removedRefs : unlinked.blocksByTask.get? nodeId = some (blockRefs task) := by
    rw [unlinkedNodes.taskBlocks, found]
    rfl
  rw [removeTaskIndexes_eq removedRefs] at removedTask
  cases removedTask
  cases done
  refine ⟨rfl, ?_, fun indexable _ old => ?_, ?_, ?_⟩
  · have gone := unlinkedNodes.removeNode nodeId (blockRefs task)
    exact { gone with }
  · obtain ⟨memberTask, sameId⟩ := (taskOf_iff indexable.distinct).mp found
    subst sameId
    have gone := (old.sameButEdges same).removeNode indexable memberTask
    exact { gone with }
  · show unlinked.errors = session.graph.errors
    rw [same.rest]
  · show unlinked.warnings = session.graph.warnings
    rw [same.rest]

theorem applied_edges {operation : GraphEditOperation} {edges : List ManifestEdge} (same : SameButEdges graph session.graph)
    (edited : { session.manifest with edges } = editManifest session.manifest operation) :
    Applied session { session with graph, manifest := { session.manifest with edges } } operation :=
  ⟨edited, (indexes.toNodeIndexes.sameButEdges same).of_edges _, fun _ _ old => (old.sameButEdges same).of_edges _,
    by rw [same.rest], by rw [same.rest]⟩

theorem addEdge_applied (done : applyGraphEditOperation session (.addEdge edge) = .ok (session', [])) :
    Applied session session' (.addEdge edge) := by
  simp only [applyGraphEditOperation] at done
  split at done
  · cases done
  split at done
  · rename_i found
    simp only [Pure.pure, Except.pure, Except.ok.injEq, Prod.mk.injEq] at done
    exact absurd done.2 found
  · obtain ⟨graph, added, done⟩ := bind_ok.mp done
    cases done
    exact applied_edges indexes (addEdgeIndexes_same added) rfl

theorem removeEdge_applied (done : applyGraphEditOperation session (.removeEdge edge) = .ok (session', [])) :
    Applied session session' (.removeEdge edge) := by
  simp only [applyGraphEditOperation] at done
  split at done
  · obtain ⟨graph, removed, done⟩ := bind_ok.mp done
    cases done
    exact applied_edges indexes (removeEdgeIndexes_same removed) rfl
  · rename_i absent
    cases done
    refine ⟨?_, indexes.toNodeIndexes, fun _ _ old => old, rfl, rfl⟩
    simp only [editManifest, erase_of_not_mem absent]

theorem addNode_refused (refuses : ¬ Accepts session.manifest (.addNode node)) : ∃ diagnostics, diagnostics ≠ [] ∧
      applyGraphEditOperation session (.addNode node) = .ok (session, diagnostics) := by
  by_cases present : session.graph.nodesById.has node.id = true
  · exact ⟨_, cons_ne_nil _ _, by simp only [applyGraphEditOperation, present, if_true]; rfl⟩
  · have fresh : node.id ∉ session.manifest.nodes.map ManifestTask.id := by
      rwa [← nodesById_has indexes]
    have found : validateTaskBlocks node ≠ [] := fun clean => refuses ⟨fresh, clean⟩
    exact ⟨_, found, by simp only [applyGraphEditOperation, present, found, if_true, ne_eq, not_false_eq_true]; rfl⟩

omit indexes in
theorem updateNode_refused (refuses : ¬ Accepts session.manifest (.updateNode node)) : ∃ diagnostics, diagnostics ≠ [] ∧
      applyGraphEditOperation session (.updateNode node) = .ok (session, diagnostics) := by
  cases present : session.manifest.nodes.any (fun item => item.id = node.id) with
  | false => exact ⟨_, cons_ne_nil _ _, by simp only [applyGraphEditOperation, present, if_true]; rfl⟩
  | true =>
    have listed : node.id ∈ session.manifest.nodes.map ManifestTask.id := by
      obtain ⟨item, member, same⟩ := any_eq_true.mp present
      exact mem_map.mpr ⟨item, member, by simpa using same⟩
    have found : validateTaskBlocks node ≠ [] := fun clean => refuses ⟨listed, clean⟩
    exact ⟨_, found, by simp only [applyGraphEditOperation, present, found, if_true, if_false, ne_eq,
      not_false_eq_true, Bool.true_eq_false]; rfl⟩

theorem operation_applied (named : NamedOperation operation)
    (done : applyGraphEditOperation session operation = .ok (session', [])) : Applied session session' operation := by
  cases operation with
  | addNode node =>
    by_cases accepts : Accepts session.manifest (.addNode node)
    · obtain ⟨_, ran, applied⟩ := addNode_accepted indexes accepts named
      rw [ran] at done
      cases done
      exact applied
    · obtain ⟨_, found, refused⟩ := addNode_refused indexes accepts
      rw [refused] at done
      cases done
      exact absurd rfl found
  | updateNode node =>
    by_cases accepts : Accepts session.manifest (.updateNode node)
    · obtain ⟨_, ran, applied⟩ := updateNode_accepted indexes accepts named
      rw [ran] at done
      cases done
      exact applied
    · obtain ⟨_, found, refused⟩ := updateNode_refused accepts
      rw [refused] at done
      cases done
      exact absurd rfl found
  | removeNode => exact removeNode_applied indexes done
  | addEdge => exact addEdge_applied indexes done
  | removeEdge => exact removeEdge_applied indexes done

include editable in
theorem removeNode_accepted (accepts : Accepts session.manifest (.removeNode nodeId)) :
    ∃ session', applyGraphEditOperation session (.removeNode nodeId) = .ok (session', []) := by
  have present := (nodesById_has indexes nodeId).mpr accepts
  obtain ⟨task, found⟩ := isSome_iff_exists.mp (taskOf_isSome.mpr accepts)
  have nodes := indexes.toNodeIndexes
  obtain ⟨unlinked, removed⟩ := @foldlM_removeEdgeIndexes
    (session.manifest.edges.filter (fun edge => edge.source = nodeId ∨ edge.target = nodeId)) session.graph
    (fun edge member => by
      rw [nodes.dependencyKeys, taskOf_isSome]
      exact editable.source edge (mem_filter.mp member).1)
    (fun edge member => by
      rw [nodes.dependentKeys, taskOf_isSome]
      exact editable.target edge (mem_filter.mp member).1)
  have removedRefs : unlinked.blocksByTask.get? nodeId = some (blockRefs task) := by
    rw [(nodes.sameButEdges (foldlM_removeEdgeIndexes_same removed)).taskBlocks, found]
    rfl
  exact ⟨_, by
    simp only [applyGraphEditOperation, present, if_false, Bool.true_eq_false, removed,
      removeTaskIndexes_eq removedRefs, Bind.bind, Except.bind, Pure.pure, Except.pure]
    rfl⟩

include editable in
theorem validateEdge_clean_iff (edge : ManifestEdge) :
    validateEdge session.graph edge = [] ↔ edge.source ∈ session.manifest.nodes.map ManifestTask.id ∧
      edge.target ∈ session.manifest.nodes.map ManifestTask.id ∧
      ¬ Relation.ReflTransGen (taskStep session.manifest) edge.target edge.source := by
  have source := nodesById_has indexes edge.source
  have target := nodesById_has indexes edge.target
  have reach := indexes.taskReachable_iff editable.named edge.target edge.source
  have loop : (edge.source = edge.target ∨ session.graph.taskReachable edge.target edge.source = true) ↔
      Relation.ReflTransGen (taskStep session.manifest) edge.target edge.source := by
    rw [reach, Relation.reflTransGen_iff_eq_or_transGen]
  rw [← source, ← target, ← loop]
  unfold validateEdge
  by_cases hasSource : session.graph.nodesById.has edge.source = true
  · by_cases hasTarget : session.graph.nodesById.has edge.target = true
    · by_cases cycle : edge.source = edge.target ∨ session.graph.taskReachable edge.target edge.source = true
      · simp only [hasSource, hasTarget, cycle, Bool.true_eq_false, if_false, if_true]
        simp
      · simp only [hasSource, hasTarget, cycle, Bool.true_eq_false, if_false]
        simp
    · simp [hasSource, hasTarget]
  · simp [hasSource]

include editable in
theorem addEdge_accepted (accepts : Accepts session.manifest (.addEdge edge)) :
    ∃ session', applyGraphEditOperation session (.addEdge edge) = .ok (session', []) := by
  obtain ⟨fresh, source, target, free⟩ := accepts
  have clean := (validateEdge_clean_iff indexes editable edge).mpr ⟨source, target, free⟩
  have nodes := indexes.toNodeIndexes
  have added := @addEdgeIndexes_eq edge session.graph
    (by rw [nodes.dependencyKeys, taskOf_isSome]; exact source)
    (by rw [nodes.dependentKeys, taskOf_isSome]; exact target)
  exact ⟨_, by
    simp only [applyGraphEditOperation, fresh, clean, added, if_false, ne_eq, not_true_eq_false, Bind.bind,
      Except.bind, Pure.pure, Except.pure]
    rfl⟩

include editable in
theorem removeEdge_accepted (edge : ManifestEdge) :
    ∃ session', applyGraphEditOperation session (.removeEdge edge) = .ok (session', []) := by
  have nodes := indexes.toNodeIndexes
  by_cases member : edge ∈ session.manifest.edges
  · obtain ⟨graph, removed⟩ := @removeEdgeIndexes_ok edge session.graph
      (by rw [nodes.dependencyKeys, taskOf_isSome]; exact editable.source edge member)
      (by rw [nodes.dependentKeys, taskOf_isSome]; exact editable.target edge member)
    exact ⟨_, by
      simp only [applyGraphEditOperation, member, removed, if_true, Bind.bind, Except.bind, Pure.pure, Except.pure]
      rfl⟩
  · exact ⟨session, by simp only [applyGraphEditOperation, member, if_false, Pure.pure, Except.pure]⟩

include editable in
theorem operation_accepted (accepts : Accepts session.manifest operation) (named : NamedOperation operation) :
    ∃ session', applyGraphEditOperation session operation = .ok (session', []) := by
  cases operation with
  | addNode => exact (addNode_accepted indexes accepts named).imp (fun _ both => both.1)
  | updateNode => exact (updateNode_accepted indexes accepts named).imp (fun _ both => both.1)
  | removeNode => exact removeNode_accepted indexes editable accepts
  | addEdge => exact addEdge_accepted indexes editable accepts
  | removeEdge edge => exact removeEdge_accepted indexes editable edge

include editable in
theorem operation_refused (refuses : ¬ Accepts session.manifest operation) :
    ∃ diagnostics, diagnostics ≠ [] ∧ applyGraphEditOperation session operation = .ok (session, diagnostics) := by
  cases operation with
  | addNode => exact addNode_refused indexes refuses
  | updateNode => exact updateNode_refused refuses
  | removeNode nodeId =>
    have absent : session.graph.nodesById.has nodeId = false := by
      rw [← Bool.not_eq_true, nodesById_has indexes]
      exact refuses
    exact ⟨_, cons_ne_nil _ _, by simp only [applyGraphEditOperation, absent, if_true]; rfl⟩
  | addEdge edge =>
    by_cases present : edge ∈ session.manifest.edges
    · exact ⟨_, cons_ne_nil _ _, by simp only [applyGraphEditOperation, present, if_true]; rfl⟩
    · have found : validateEdge session.graph edge ≠ [] :=
        fun clean => refuses ⟨present, (validateEdge_clean_iff indexes editable edge).mp clean⟩
      exact ⟨_, found, by simp only [applyGraphEditOperation, present, found, if_true, if_false, ne_eq,
        not_false_eq_true]; rfl⟩
  | removeEdge => exact absurd trivial refuses

include editable in
theorem applyQueuedOperation_accepted
    (accepts : Accepts session.manifest operation) (named : NamedOperation operation) :
    ∃ session', applyQueuedOperation (session, diagnostics) operation = .ok (session', diagnostics) ∧
      Applied session session' operation ∧ TaskIndexes session'.graph session'.manifest := by
  obtain ⟨next, done⟩ := operation_accepted indexes editable accepts named
  have applied := operation_applied indexes named done
  have distinct : (next.manifest.nodes.map ManifestTask.id).Nodup := by
    rw [applied.manifest]
    exact (editable.edit accepts named).distinct
  have rebuilt := rebuildEdgeIndexes_eq distinct applied.nodes
  have tasks := rebuilt_taskIndexes distinct applied.nodes
  refine ⟨_, by
    simp only [applyQueuedOperation, done, rebuilt, Bind.bind, Except.bind, Pure.pure, Except.pure, append_nil]
    rfl, ?_, tasks⟩
  exact ⟨applied.manifest, tasks.toNodeIndexes,
    fun indexable indexable' old => rebuilt_blockIndexes (applied.blocks indexable indexable' old),
    applied.errors, applied.warnings⟩

include editable in
theorem applyQueuedOperation_refused
    (refuses : ¬ Accepts session.manifest operation) {progress : Session × List Issue}
    (done : applyQueuedOperation (session, diagnostics) operation = .ok progress) : progress.2 ≠ [] := by
  obtain ⟨_, some, refused⟩ := operation_refused indexes editable refuses
  obtain ⟨_, ran, done⟩ := bind_ok.mp done
  obtain ⟨_, done⟩ := rest_ok done
  cases refused.symm.trans ran
  cases done
  simp [some]

end Step

theorem applyQueuedOperation_keeps
    (done : applyQueuedOperation progress operation = .ok progress') (found : progress.2 ≠ []) : progress'.2 ≠ [] := by
  obtain ⟨_, _, done⟩ := rest_ok₂ done
  cases done
  simp [found]

theorem applyQueuedOperations_keeps
    (done : operations.foldlM applyQueuedOperation progress = .ok progress') (found : progress.2 ≠ []) :
    progress'.2 ≠ [] := by
  induction operations generalizing progress with
  | nil => cases done; exact found
  | cons _ _ ih =>
    obtain ⟨_, first, tail⟩ := foldlM_cons_inv done
    exact ih tail (applyQueuedOperation_keeps first found)

def AllAccepted : Manifest → List GraphEditOperation → Prop
  | _, [] => True
  | manifest, operation :: rest => Accepts manifest operation ∧ AllAccepted (editManifest manifest operation) rest

theorem allAccepted_append {first second : List GraphEditOperation} : AllAccepted manifest (first ++ second) ↔
      AllAccepted manifest first ∧ AllAccepted (first.foldl editManifest manifest) second := by
  induction first generalizing manifest with
  | nil => simp [AllAccepted]
  | cons _ _ ih => simp only [cons_append, AllAccepted, ih, foldl_cons, and_assoc]

section
variable (named : ∀ operation ∈ operations, NamedOperation operation)
include named

theorem allAccepted_of_applied {session : Session}
    (indexes : TaskIndexes session.graph session.manifest) (editable : Editable session.manifest)
    (done : operations.foldlM applyQueuedOperation (session, []) = .ok (session', [])) :
    AllAccepted session.manifest operations := by
  induction operations generalizing session with
  | nil => trivial
  | cons operation _ ih =>
    obtain ⟨⟨_, _⟩, first, tail⟩ := foldlM_cons_inv done
    by_cases accepts : Accepts session.manifest operation
    · have namedHere := named operation (by simp)
      obtain ⟨_, ran, spec, tasks⟩ := applyQueuedOperation_accepted indexes editable accepts namedHere
      rw [ran] at first
      cases first
      have rest' := ih (fun other member => named other (mem_cons_of_mem _ member)) tasks
        (by rw [spec.manifest]; exact editable.edit accepts namedHere) tail
      rw [spec.manifest] at rest'
      exact ⟨accepts, rest'⟩
    · exact absurd rfl (applyQueuedOperations_keeps tail (applyQueuedOperation_refused indexes editable accepts first))

theorem applied_of_allAccepted {session : Session}
    (indexes : TaskIndexes session.graph session.manifest) (editable : Editable session.manifest)
    (accepted : AllAccepted session.manifest operations) :
    ∃ session', operations.foldlM applyQueuedOperation (session, []) = .ok (session', []) ∧
      TaskIndexes session'.graph (operations.foldl editManifest session.manifest) ∧
      session'.graph.errors = session.graph.errors ∧ session'.graph.warnings = session.graph.warnings := by
  induction operations generalizing session with
  | nil => exact ⟨session, rfl, indexes, rfl, rfl⟩
  | cons operation _ ih =>
    have namedHere := named operation (by simp)
    obtain ⟨_, ran, spec, tasks⟩ :=
      @applyQueuedOperation_accepted operation session indexes editable [] accepted.1 namedHere
    obtain ⟨session', done, reached, errors, warnings⟩ :=
      ih (fun other member => named other (mem_cons_of_mem _ member)) tasks
        (by rw [spec.manifest]; exact editable.edit accepted.1 namedHere) (by rw [spec.manifest]; exact accepted.2)
    refine ⟨session', by rw [foldlM_cons_ok ran, done], ?_, ?_, ?_⟩
    · rw [foldl_cons, ← spec.manifest]
      exact reached
    · rw [errors, spec.errors]
    · rw [warnings, spec.warnings]
end
end PlanWeave
