import PlanWeave.Manifest
import PlanWeave.Lib.OrderedMap
import PlanWeave.Lib.Search

namespace PlanWeave
open OrderedMap

/-- The compiled execution graph. Task nodes are the only nodes, so `nodesById` and `tasksById`
hold the same entries; both are kept because the session updates them separately. -/
structure Graph where
  nodesById : OrderedMap String ManifestTask
  taskNodesInManifestOrder : List String
  tasksById : OrderedMap String ManifestTask
  taskDependenciesByTask : OrderedMap String (List String)
  taskDependentsByTask : OrderedMap String (List String)
  blockRefsInManifestOrder : List String
  blocksByRef : OrderedMap String ManifestBlock
  blockTaskByRef : OrderedMap String String
  blocksByTask : OrderedMap String (List String)
  blockDependenciesByRef : OrderedMap String (List String)
  blockDependentsByRef : OrderedMap String (List String)
  reviewBlocksByTask : OrderedMap String (List String)
  sharedResourcesByBlockRef : OrderedMap String (List String)
  requiredCapabilitiesByBlockRef : OrderedMap String (List String)
  errors : List Issue
  warnings : List Issue
deriving DecidableEq

def uniqueInOrder : List String → List String
  | [] => []
  | item :: rest => item :: (uniqueInOrder rest).filter (fun other => other ≠ item)

def sharedResourcesForBlock (block : ManifestBlock) : List String :=
  match block.type with
  | .implementation _ sharedResources => uniqueInOrder (sharedResources.getD [])
  | .review _ => []

def requiredCapabilitiesForBlock (block : ManifestBlock) : List String :=
  match block.type with
  | .implementation requirements _ => requirements.getD []
  | .review _ => []

def edgeKey (edge : ManifestEdge) : String :=
  edge.source ++ "\x00" ++ "depends_on" ++ "\x00" ++ edge.target

def neighbors (adjacency : OrderedMap String (List String)) (id : String) : List String :=
  (adjacency.get? id).getD []

def searchFuel (adjacency : OrderedMap String (List String)) : Nat :=
  2 * Search.weight (neighbors adjacency) adjacency.keys (fun _ => false) + 1

def findCycle (adjacency : OrderedMap String (List String)) : Option (List String) :=
  Search.searchRoots adjacency.has (neighbors adjacency) (searchFuel adjacency) adjacency.keys []

/-- The empty id counts as visited: the source's loop skips a falsy id. -/
def reachable (adjacency : OrderedMap String (List String)) (source target : String) : Bool :=
  adjacency.has source && adjacency.has target &&
    Search.worklist (neighbors adjacency) target (searchFuel adjacency) [""] (neighbors adjacency source).reverse

def Graph.taskReachable (graph : Graph) (source target : String) : Bool :=
  reachable graph.taskDependenciesByTask source target

def Graph.blockReachable (graph : Graph) (source target : String) : Bool :=
  reachable graph.blockDependenciesByRef source target

def repeats (seen : List String) : List String → List String
  | [] => []
  | item :: rest => if item ∈ seen then item :: repeats seen rest else repeats (item :: seen) rest

def nodeIdErrors (manifest : Manifest) : List Issue :=
  (uniqueInOrder (repeats [] (manifest.nodes.map ManifestTask.id))).map
    (fun id => issue "node_id_duplicate" s!"Node id '{id}' is duplicated." "nodes")

/-- The tasks of a manifest by id; the last node of an id stands. -/
def nodeMap (manifest : Manifest) : OrderedMap String ManifestTask :=
  ofList (manifest.nodes.map (fun node => (node.id, node)))

/-- The tasks that the compile loops visit: one for each id in manifest order, read through
`tasksById`, where the last node of an id stands. -/
def visitedTasks (manifest : Manifest) : List ManifestTask :=
  (manifest.nodes.map ManifestTask.id).filterMap
    (ofList (manifest.nodes.map (fun node => (node.id, node)))).get?

def blockEntries (tasks : List ManifestTask) : List (String × (ManifestTask × ManifestBlock)) :=
  tasks.flatMap (fun task => task.blocks.map (fun block => (blockRef task.id block.id, (task, block))))

def blockIdErrors (tasks : List ManifestTask) : List Issue :=
  tasks.flatMap (fun task => (repeats [] (task.blocks.map ManifestBlock.id)).map
    (fun id => issue "block_id_duplicate" s!"Block id '{id}' is duplicated in task '{task.id}'."
      s!"nodes.{task.id}.blocks"))

def knownBlockIds (task : ManifestTask) : Except String (List String) :=
  task.blocks.mapM (fun block => do return (← parseBlockRef (blockRef task.id block.id)).2)

def missingDependencyErrors (known : List (ManifestTask × List String)) : List Issue :=
  known.flatMap (fun entry => entry.1.blocks.flatMap (fun block =>
    (block.dependsOn.filter (fun dependency => dependency ∉ entry.2)).map (fun dependency =>
      issue "block_dependency_missing"
        s!"Block '{blockRef entry.1.id block.id}' depends on missing block '{dependency}' in the same task node."
        (blockRef entry.1.id block.id))))

def dependencyPairs (known : List (ManifestTask × List String)) : List (String × String) :=
  known.flatMap (fun entry => entry.1.blocks.flatMap (fun block =>
    (block.dependsOn.filter (fun dependency => dependency ∈ entry.2)).map (fun dependency =>
      (blockRef entry.1.id block.id, blockRef entry.1.id dependency))))

def edgeErrors (nodesById : OrderedMap String ManifestTask) (seen : List String) : List ManifestEdge → List Issue
  | [] => []
  | edge :: rest =>
    (if edgeKey edge ∈ seen then
      [issue "edge_duplicate" s!"Edge '{edge.source} --depends_on--> {edge.target}' is duplicated." "edges"] else []) ++
    (if nodesById.has edge.source then [] else
      [issue "edge_from_missing" s!"Edge references missing from node '{edge.source}'." "edges"]) ++
    (if nodesById.has edge.target then [] else
      [issue "edge_to_missing" s!"Edge references missing to node '{edge.target}'." "edges"]) ++
    edgeErrors nodesById (edgeKey edge :: seen) rest

def connected (nodesById : OrderedMap String ManifestTask) (edges : List ManifestEdge) : List ManifestEdge :=
  edges.filter (fun edge => nodesById.has edge.source && nodesById.has edge.target)

def cycleErrors (code subject path : String) (cycle : Option (List String)) : List Issue :=
  match cycle with
  | none => []
  | some ids =>
    let cycle := String.intercalate " -> " ids
    [issue code s!"{subject} dependency cycle detected: {cycle}." path]

def implementationErrors (blocksByRef : OrderedMap String ManifestBlock) (tasks : List ManifestTask) : List Issue :=
  (tasks.filter (fun task => !task.blocks.any (fun block =>
      (blocksByRef.get? (blockRef task.id block.id)).any ManifestBlock.isImplementation))).map (fun task =>
    issue "task_without_implementation_block" s!"Task '{task.id}' must contain an implementation block." task.id)

def emptyLists (keys : List String) : OrderedMap String (List String) :=
  ofList (keys.map (fun key => (key, [])))

def indexGraph (manifest : Manifest) (known : List (ManifestTask × List String)) : Graph :=
  let nodesById := ofList (manifest.nodes.map (fun node => (node.id, node)))
  let order := manifest.nodes.map ManifestTask.id
  let tasks := visitedTasks manifest
  let entries := blockEntries tasks
  let refs := entries.map Prod.fst
  let blocksByRef := ofList (entries.map (fun entry => (entry.1, entry.2.2)))
  let pairs := dependencyPairs known
  let edges := connected nodesById manifest.edges
  let taskDependenciesByTask := (emptyLists order).pushAll (edges.map (fun edge => (edge.source, edge.target)))
  let taskDependentsByTask := (emptyLists order).pushAll (edges.map (fun edge => (edge.target, edge.source)))
  let blockDependenciesByRef := (emptyLists refs).pushAll pairs
  let blockDependentsByRef := (emptyLists refs).pushAll (pairs.map Prod.swap)
  {
    nodesById
    taskNodesInManifestOrder := order
    tasksById := nodesById
    taskDependenciesByTask
    taskDependentsByTask
    blockRefsInManifestOrder := refs
    blocksByRef
    blockTaskByRef := ofList (entries.map (fun entry => (entry.1, entry.2.1.id)))
    blocksByTask := ofList (tasks.map (fun task =>
      (task.id, task.blocks.map (fun block => blockRef task.id block.id))))
    blockDependenciesByRef
    blockDependentsByRef
    reviewBlocksByTask := ofList (tasks.map (fun task =>
      (task.id, (task.blocks.filter ManifestBlock.isReview).map (fun block => blockRef task.id block.id))))
    sharedResourcesByBlockRef := ofList
      (entries.map (fun entry => (entry.1, sharedResourcesForBlock entry.2.2)))
    requiredCapabilitiesByBlockRef := ofList
      (entries.map (fun entry => (entry.1, requiredCapabilitiesForBlock entry.2.2)))
    errors := nodeIdErrors manifest ++ blockIdErrors tasks ++ missingDependencyErrors known ++
      edgeErrors nodesById [] manifest.edges ++
      cycleErrors "depends_on_cycle" "Task" "edges" (findCycle taskDependenciesByTask) ++
      cycleErrors "block_depends_on_cycle" "Block" "blocks" (findCycle blockDependenciesByRef) ++
      implementationErrors blocksByRef tasks
    warnings := []
  }

/-- Throws when a ref does not parse, as the source does for an id that holds a `#`. -/
def compileTaskGraph (manifest : Manifest) : Except String Graph := do
  let known ← (visitedTasks manifest).mapM (fun task => do return (task, ← knownBlockIds task))
  return indexGraph manifest known

end PlanWeave
