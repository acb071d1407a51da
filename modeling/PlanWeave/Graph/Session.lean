import PlanWeave.Graph.Compile
import PlanWeave.ManifestSchema

namespace PlanWeave

structure Session where
  graph : Graph
  manifest : Manifest
  dirtyPromptRefs : List String
  diagnostics : List Issue

inductive GraphEditOperation where
  | addNode (node : ManifestTask)
  | updateNode (node : ManifestTask)
  | removeNode (nodeId : String)
  | addEdge (edge : ManifestEdge)
  | removeEdge (edge : ManifestEdge)

def requireMapValue {ν : Type} (map : OrderedMap String ν) (key indexName : String) : Except String ν :=
  match map.get? key with
  | some value => .ok value
  | none => .error s!"Internal graph invariant violated: missing key '{key}' in {indexName}."

def pushRequired (map : OrderedMap String (List String)) (key value indexName : String) :
    Except String (OrderedMap String (List String)) := do
  return map.set key ((← requireMapValue map key indexName) ++ [value])

def addBlockIndexes (taskId : String) (graph : Graph) (block : ManifestBlock) : Except String Graph := do
  let ref := blockRef taskId block.id
  let blocksByTask ← pushRequired graph.blocksByTask taskId ref "blocksByTask"
  let reviewBlocksByTask ←
    if block.isReview then pushRequired graph.reviewBlocksByTask taskId ref "reviewBlocksByTask"
    else .ok graph.reviewBlocksByTask
  return { graph with
    blockRefsInManifestOrder := graph.blockRefsInManifestOrder ++ [ref]
    blocksByRef := graph.blocksByRef.set ref block
    blockTaskByRef := graph.blockTaskByRef.set ref taskId
    blocksByTask
    blockDependenciesByRef := graph.blockDependenciesByRef.set ref (block.dependsOn.map (blockRef taskId))
    blockDependentsByRef := graph.blockDependentsByRef.set ref []
    reviewBlocksByTask
    sharedResourcesByBlockRef := graph.sharedResourcesByBlockRef.set ref (sharedResourcesForBlock block)
    requiredCapabilitiesByBlockRef := graph.requiredCapabilitiesByBlockRef.set ref (requiredCapabilitiesForBlock block) }

def wireBlockDependencyIndexes (taskId : String) (graph : Graph) (block : ManifestBlock) : Except String Graph := do
  let ref := blockRef taskId block.id
  let dependencies ← requireMapValue graph.blockDependenciesByRef ref "blockDependenciesByRef"
  let dependents ← dependencies.foldlM (fun map dependencyRef =>
    pushRequired map dependencyRef ref "blockDependentsByRef") graph.blockDependentsByRef
  return { graph with blockDependentsByRef := dependents }

def withoutTask (graph : Graph) (taskId : String) (removedRefs : List String) : Graph :=
  { graph with
    blocksByRef := graph.blocksByRef.eraseAll removedRefs
    blockTaskByRef := graph.blockTaskByRef.eraseAll removedRefs
    blockDependenciesByRef := graph.blockDependenciesByRef.eraseAll removedRefs
    blockDependentsByRef := (graph.blockDependentsByRef.eraseAll removedRefs).mapValues
      (fun refs => refs.filter (fun ref => ref ∉ removedRefs))
    sharedResourcesByBlockRef := graph.sharedResourcesByBlockRef.eraseAll removedRefs
    requiredCapabilitiesByBlockRef := graph.requiredCapabilitiesByBlockRef.eraseAll removedRefs
    blockRefsInManifestOrder := graph.blockRefsInManifestOrder.filter (fun ref => ref ∉ removedRefs)
    nodesById := graph.nodesById.erase taskId
    tasksById := graph.tasksById.erase taskId
    taskNodesInManifestOrder := graph.taskNodesInManifestOrder.filter (fun id => id ≠ taskId)
    taskDependenciesByTask := graph.taskDependenciesByTask.erase taskId
    taskDependentsByTask := graph.taskDependentsByTask.erase taskId
    blocksByTask := graph.blocksByTask.erase taskId
    reviewBlocksByTask := graph.reviewBlocksByTask.erase taskId }

def removeTaskIndexes (graph : Graph) (taskId : String) : Except String (Graph × List String) := do
  let removedRefs ← requireMapValue graph.blocksByTask taskId "blocksByTask"
  return (withoutTask graph taskId removedRefs, removedRefs)

def openTask (graph : Graph) (task : ManifestTask) : Graph :=
  { graph with
    nodesById := graph.nodesById.set task.id task
    tasksById := graph.tasksById.set task.id task
    taskNodesInManifestOrder :=
      if task.id ∈ graph.taskNodesInManifestOrder then graph.taskNodesInManifestOrder
      else graph.taskNodesInManifestOrder ++ [task.id]
    taskDependenciesByTask := graph.taskDependenciesByTask.set task.id (neighbors graph.taskDependenciesByTask task.id)
    taskDependentsByTask := graph.taskDependentsByTask.set task.id (neighbors graph.taskDependentsByTask task.id)
    blocksByTask := graph.blocksByTask.set task.id []
    reviewBlocksByTask := graph.reviewBlocksByTask.set task.id [] }

def addTaskIndexes (graph : Graph) (task : ManifestTask) : Except String Graph := do
  let indexed ← task.blocks.foldlM (addBlockIndexes task.id) (openTask graph task)
  task.blocks.foldlM (wireBlockDependencyIndexes task.id) indexed

/-- One dependency of the block cycle scan: the adjacency built so far and the issues found. -/
def scanDependency (task : ManifestTask) (blockIds : List String) (block : ManifestBlock)
    (scan : OrderedMap String (List String) × List Issue) (dependencyId : String) :
    OrderedMap String (List String) × List Issue :=
  if dependencyId ∉ blockIds then
    (scan.1, scan.2 ++ [issue "block_dependency_missing"
      s!"Block '{task.id}#{block.id}' depends on missing block '{dependencyId}' in the same task node."
      (blockRef task.id block.id)])
  else if dependencyId = block.id ∨ reachable scan.1 dependencyId block.id = true then
    (scan.1, scan.2 ++ [issue "block_depends_on_cycle"
      s!"Block dependency cycle detected in task '{task.id}'." s!"nodes.{task.id}.blocks"])
  else (scan.1.push block.id dependencyId, scan.2)

def scanBlock (task : ManifestTask) (blockIds : List String)
    (scan : OrderedMap String (List String) × List Issue) (block : ManifestBlock) :
    OrderedMap String (List String) × List Issue :=
  block.dependsOn.foldl (scanDependency task blockIds block) scan

def validateTaskBlocks (task : ManifestTask) : List Issue :=
  let blockIds := task.blocks.map ManifestBlock.id
  let duplicates := (repeats [] blockIds).map (fun id => issue "block_id_duplicate"
    s!"Block id '{id}' is duplicated in task '{task.id}'." s!"nodes.{task.id}.blocks")
  duplicates ++ (task.blocks.foldl (scanBlock task blockIds) (emptyLists blockIds, [])).2

def alignGraphOrder (graph : Graph) (manifest : Manifest) : Graph :=
  { graph with
    taskNodesInManifestOrder := manifest.nodes.map ManifestTask.id
    blockRefsInManifestOrder := (blockEntries manifest.nodes).map Prod.fst }

def validateEdge (graph : Graph) (edge : ManifestEdge) : List Issue :=
  if graph.nodesById.has edge.source = false then
    [issue "edge_from_missing" s!"Edge references missing from node '{edge.source}'." "edges"]
  else if graph.nodesById.has edge.target = false then
    [issue "edge_to_missing" s!"Edge references missing to node '{edge.target}'." "edges"]
  else if edge.source = edge.target ∨ graph.taskReachable edge.target edge.source = true then
    [issue "depends_on_cycle"
      s!"Task dependency cycle detected by edge '{edge.source}' -> '{edge.target}'." "edges"]
  else []

def addEdgeIndexes (graph : Graph) (edge : ManifestEdge) : Except String Graph := do
  let dependencies ← pushRequired graph.taskDependenciesByTask edge.source edge.target "taskDependenciesByTask"
  let dependents ← pushRequired graph.taskDependentsByTask edge.target edge.source "taskDependentsByTask"
  return { graph with taskDependenciesByTask := dependencies, taskDependentsByTask := dependents }

def removeEdgeIndexes (graph : Graph) (edge : ManifestEdge) : Except String Graph := do
  let dependencies ← requireMapValue graph.taskDependenciesByTask edge.source "taskDependenciesByTask"
  let dependents ← requireMapValue graph.taskDependentsByTask edge.target "taskDependentsByTask"
  return { graph with
    taskDependenciesByTask := graph.taskDependenciesByTask.set edge.source (dependencies.erase edge.target)
    taskDependentsByTask := graph.taskDependentsByTask.set edge.target (dependents.erase edge.source) }

def rebuildEdgeIndexes (graph : Graph) (manifest : Manifest) : Except String Graph :=
  let cleared := graph.taskNodesInManifestOrder.map (fun id => (id, ([] : List String)))
  (connected graph.nodesById manifest.edges).foldlM addEdgeIndexes { graph with
    taskDependenciesByTask := graph.taskDependenciesByTask.setAll cleared
    taskDependentsByTask := graph.taskDependentsByTask.setAll cleared }

def addRefs (refs items : List String) : List String :=
  items.foldl (fun refs item => if item ∈ refs then refs else refs ++ [item]) refs

def replaceFirst (node : ManifestTask) : List ManifestTask → List ManifestTask
  | [] => []
  | first :: rest => if first.id = node.id then node :: rest else first :: replaceFirst node rest

def setNode (graph : Graph) (node : ManifestTask) : Graph :=
  { graph with nodesById := graph.nodesById.set node.id node }

def applyGraphEditOperation (session : Session) : GraphEditOperation → Except String (Session × List Issue)
  | .addNode node => do
    if session.graph.nodesById.has node.id then
      return (session, [issue "node_id_duplicate" s!"Node '{node.id}' already exists." "nodes"])
    let diagnostics := validateTaskBlocks node
    if diagnostics ≠ [] then
      return (session, diagnostics)
    let manifest := { session.manifest with nodes := session.manifest.nodes ++ [node] }
    let graph ← addTaskIndexes (setNode session.graph node) node
    let refs ← requireMapValue graph.blocksByTask node.id "blocksByTask"
    return ({ session with graph, manifest, dirtyPromptRefs := addRefs session.dirtyPromptRefs refs }, [])
  | .updateNode node => do
    if (session.manifest.nodes.any (fun item => item.id = node.id)) = false then
      return (session, [issue "node_missing" s!"Node '{node.id}' does not exist." "nodes"])
    let diagnostics := validateTaskBlocks node
    if diagnostics ≠ [] then
      return (session, diagnostics)
    let (removed, removedRefs) ← removeTaskIndexes session.graph node.id
    let manifest := { session.manifest with nodes := replaceFirst node session.manifest.nodes }
    let kept := session.dirtyPromptRefs.filter (fun ref => ref ∉ removedRefs)
    let added ← addTaskIndexes (setNode removed node) node
    let graph := alignGraphOrder added manifest
    let refs ← requireMapValue graph.blocksByTask node.id "blocksByTask"
    return ({ session with graph, manifest, dirtyPromptRefs := addRefs kept refs }, [])
  | .removeNode nodeId => do
    if session.graph.nodesById.has nodeId = false then
      return (session, [issue "node_missing" s!"Node '{nodeId}' does not exist." "nodes"])
    let touches := fun (edge : ManifestEdge) => edge.source = nodeId ∨ edge.target = nodeId
    let unlinked ← (session.manifest.edges.filter touches).foldlM removeEdgeIndexes session.graph
    let (graph, removedRefs) ← removeTaskIndexes unlinked nodeId
    let manifest := { session.manifest with
      nodes := session.manifest.nodes.filter (fun item => item.id ≠ nodeId)
      edges := session.manifest.edges.filter (fun edge => ¬ touches edge) }
    let kept := session.dirtyPromptRefs.filter (fun ref => ref ∉ removedRefs)
    return ({ session with graph, manifest, dirtyPromptRefs := kept }, [])
  | .addEdge edge => do
    if edge ∈ session.manifest.edges then
      return (session, [issue "edge_duplicate" "Edge already exists." "edges"])
    let diagnostics := validateEdge session.graph edge
    if diagnostics ≠ [] then
      return (session, diagnostics)
    let graph ← addEdgeIndexes session.graph edge
    return ({ session with graph, manifest := { session.manifest with edges := session.manifest.edges ++ [edge] } }, [])
  | .removeEdge edge => do
    if edge ∈ session.manifest.edges then
      let graph ← removeEdgeIndexes session.graph edge
      return ({ session with graph, manifest := { session.manifest with edges := session.manifest.edges.erase edge } }, [])
    return (session, [])

def applyQueuedOperation (progress : Session × List Issue) (operation : GraphEditOperation) :
    Except String (Session × List Issue) := do
  let (session, diagnostics) ← applyGraphEditOperation progress.1 operation
  let graph ← rebuildEdgeIndexes session.graph session.manifest
  return ({ session with graph }, progress.2 ++ diagnostics)

def removedNodes (before after : Manifest) : List GraphEditOperation :=
  (before.nodes.filter (fun node => (nodeMap after).has node.id = false)).map (fun node => .removeNode node.id)

def nodeChange (before : Manifest) (node : ManifestTask) : Option GraphEditOperation :=
  match (nodeMap before).get? node.id with
  | none => some (.addNode node)
  | some previous => if previous = node then none else some (.updateNode node)

def removedEdges (before after : Manifest) : List GraphEditOperation :=
  (before.edges.filter (fun edge => edgeKey edge ∉ after.edges.map edgeKey)).map .removeEdge

def addedEdges (before after : Manifest) : List ManifestEdge :=
  after.edges.filter (fun edge => edgeKey edge ∉ before.edges.map edgeKey)

def diffManifestToGraphOps (before after : Manifest) : List GraphEditOperation :=
  removedNodes before after ++ after.nodes.filterMap (nodeChange before) ++
    removedEdges before after ++ (addedEdges before after).map .addEdge

/-- A session compiled from the package. `promptIssues` are the errors and warnings of the prompt
files, which the package compiler adds to the graph's own. -/
def rebuildSession (promptIssues : List Issue × List Issue) (manifest : Manifest) : Except String Session := do
  let compiled ← compileTaskGraph manifest
  let graph := { compiled with
    errors := compiled.errors ++ promptIssues.1
    warnings := compiled.warnings ++ promptIssues.2 }
  let dirtyPromptRefs := addRefs [] graph.blockRefsInManifestOrder
  return { graph, manifest, dirtyPromptRefs, diagnostics := graph.errors ++ graph.warnings }

/-- `drainGraphReadQueue` on a changed manifest file. -/
def drainManifestChange (promptIssues : List Issue × List Issue) (session : Session) (nextManifest : Manifest) :
    Except String Session := do
  let (applied, diagnostics) ←
    (diffManifestToGraphOps session.manifest nextManifest).foldlM applyQueuedOperation (session, [])
  if diagnostics ≠ [] then
    let rebuilt ← rebuildSession promptIssues nextManifest
    return { rebuilt with diagnostics }
  let graph ← rebuildEdgeIndexes (alignGraphOrder applied.graph nextManifest) nextManifest
  return { applied with graph, manifest := nextManifest, diagnostics := graph.errors ++ graph.warnings }

end PlanWeave
