import PlanWeave.Graph.Session
import PlanWeave.Graph.Wellformed

namespace PlanWeave
open Checked List OrderedMap
variable {ν : Type} {key indexName : String} {graph : Graph} {blocks : List ManifestBlock}

theorem requireMapValue_eq {map : OrderedMap String ν} {value : ν}
    (found : map.get? key = some value) : requireMapValue map key indexName = .ok value := by
  rw [requireMapValue, found]

variable {map : OrderedMap String (List String)} {block : ManifestBlock} {task : ManifestTask}

theorem pushRequired_eq {value : String}
    (present : map.has key = true) : pushRequired map key value indexName = .ok (map.push key value) := by
  obtain ⟨_, found⟩ := Option.isSome_iff_exists.mp present
  rw [pushRequired, requireMapValue_eq found, push_of_get? found]
  rfl

theorem foldlM_pushRequired {α : Type}
    {key value : α → String} {items : List α} (present : ∀ item ∈ items, map.has (key item) = true) :
    items.foldlM (fun map item => pushRequired map (key item) (value item) indexName) map =
      .ok (map.pushAll (items.map (fun item => (key item, value item)))) := by
  induction items generalizing map with
  | nil => rfl
  | cons item _ ih =>
    rw [foldlM_cons_ok (pushRequired_eq (present item (by simp)))]
    apply ih
    intro other member
    rw [has_push]
    exact present other (mem_cons_of_mem _ member)

def withBlocks (taskId : String) (graph : Graph) (blocks : List ManifestBlock) : Graph :=
  { graph with
    blockRefsInManifestOrder := graph.blockRefsInManifestOrder ++ blocks.map (fun block => blockRef taskId block.id)
    blocksByRef := graph.blocksByRef.setAll (blocks.map (fun block => (blockRef taskId block.id, block)))
    blockTaskByRef := graph.blockTaskByRef.setAll (blocks.map (fun block => (blockRef taskId block.id, taskId)))
    blocksByTask := graph.blocksByTask.pushAll (blocks.map (fun block => (taskId, blockRef taskId block.id)))
    blockDependenciesByRef := graph.blockDependenciesByRef.setAll
      (blocks.map (fun block => (blockRef taskId block.id, block.dependsOn.map (blockRef taskId))))
    blockDependentsByRef := graph.blockDependentsByRef.setAll (blocks.map (fun block => (blockRef taskId block.id, [])))
    reviewBlocksByTask := graph.reviewBlocksByTask.pushAll
      ((blocks.filter ManifestBlock.isReview).map (fun block => (taskId, blockRef taskId block.id)))
    sharedResourcesByBlockRef := graph.sharedResourcesByBlockRef.setAll
      (blocks.map (fun block => (blockRef taskId block.id, sharedResourcesForBlock block)))
    requiredCapabilitiesByBlockRef := graph.requiredCapabilitiesByBlockRef.setAll
      (blocks.map (fun block => (blockRef taskId block.id, requiredCapabilitiesForBlock block))) }

theorem withBlocks_cons (taskId : String) (graph : Graph) (block : ManifestBlock) (rest : List ManifestBlock) :
    withBlocks taskId (withBlocks taskId graph [block]) rest = withBlocks taskId graph (block :: rest) := by
  cases kind : block.isReview <;> simp [withBlocks, setAll, pushAll, kind]

variable {taskId : String}

theorem addBlockIndexes_eq (block : ManifestBlock)
    (opened : graph.blocksByTask.has taskId = true) (reviewsOpened : graph.reviewBlocksByTask.has taskId = true) :
    addBlockIndexes taskId graph block = .ok (withBlocks taskId graph [block]) := by
  cases kind : block.isReview <;>
    simp [addBlockIndexes, withBlocks, setAll, pushAll, pushRequired_eq opened,
      pushRequired_eq reviewsOpened, kind, Bind.bind, Except.bind, Pure.pure, Except.pure]

theorem foldlM_addBlockIndexes
    (opened : graph.blocksByTask.has taskId = true) (reviewsOpened : graph.reviewBlocksByTask.has taskId = true) :
    blocks.foldlM (addBlockIndexes taskId) graph = .ok (withBlocks taskId graph blocks) := by
  induction blocks generalizing graph with
  | nil => simp [withBlocks, setAll, pushAll, Pure.pure, Except.pure]
  | cons block rest ih =>
    rw [foldlM_cons_ok (addBlockIndexes_eq block opened reviewsOpened), ← withBlocks_cons taskId graph block rest]
    apply ih
    · simpa [withBlocks, pushAll] using opened
    · cases kind : block.isReview <;> simpa [withBlocks, pushAll, kind] using reviewsOpened

def wirePairs (taskId : String) (blocks : List ManifestBlock) : List (String × String) :=
  blocks.flatMap (fun block => block.dependsOn.map (fun dependency =>
    (blockRef taskId dependency, blockRef taskId block.id)))

def withWires (taskId : String) (graph : Graph) (blocks : List ManifestBlock) : Graph :=
  { graph with blockDependentsByRef := graph.blockDependentsByRef.pushAll (wirePairs taskId blocks) }

theorem wireBlockDependencyIndexes_eq
    (listed : graph.blockDependenciesByRef.get? (blockRef taskId block.id) =
      some (block.dependsOn.map (blockRef taskId)))
    (known : ∀ dependency ∈ block.dependsOn, graph.blockDependentsByRef.has (blockRef taskId dependency) = true) :
    wireBlockDependencyIndexes taskId graph block = .ok (withWires taskId graph [block]) := by
  simp only [wireBlockDependencyIndexes, requireMapValue_eq listed, foldlM_map, Bind.bind, Except.bind,
    Pure.pure, Except.pure]
  rw [foldlM_pushRequired known]
  simp [withWires, wirePairs]

theorem foldlM_wireBlockDependencyIndexes
    (listed : ∀ block ∈ blocks, graph.blockDependenciesByRef.get? (blockRef taskId block.id) =
      some (block.dependsOn.map (blockRef taskId))) (known : ∀ block ∈ blocks, ∀ dependency ∈ block.dependsOn,
      graph.blockDependentsByRef.has (blockRef taskId dependency) = true) :
    blocks.foldlM (wireBlockDependencyIndexes taskId) graph = .ok (withWires taskId graph blocks) := by
  induction blocks generalizing graph with
  | nil => simp [withWires, wirePairs, pushAll, Pure.pure, Except.pure]
  | cons block rest ih =>
    have joined : withWires taskId (withWires taskId graph [block]) rest = withWires taskId graph (block :: rest) := by
      simp [withWires, wirePairs, pushAll]
    rw [foldlM_cons_ok (wireBlockDependencyIndexes_eq (listed block (by simp)) (known block (by simp))), ← joined]
    apply ih
    · intro other member
      exact listed other (mem_cons_of_mem _ member)
    · intro other member dependency inside
      have present := known other (mem_cons_of_mem _ member) dependency inside
      simpa only [withWires, has_pushAll] using present

def withTask (graph : Graph) (task : ManifestTask) : Graph :=
  withWires task.id (withBlocks task.id (openTask graph task) task.blocks) task.blocks

theorem find_block (blocks : BlocksKnown task) (value : ManifestBlock → ν) (member : block ∈ task.blocks) :
    find (blockRef task.id block.id)
      (task.blocks.map (fun block => (blockRef task.id block.id, value block))) = some (value block) := by
  have keys : ((task.blocks.map (fun block => (blockRef task.id block.id, value block))).map Prod.fst).Nodup := by
    simpa [Function.comp_def, blockRefs] using blocks.refs_distinct
  rw [find_eq_some keys]
  exact mem_map.mpr ⟨block, member, rfl⟩

theorem addTaskIndexes_eq (graph : Graph) (blocks : BlocksKnown task) :
    addTaskIndexes graph task = .ok (withTask graph task) := by
  have keys : ∀ (ν : Type) (value : ManifestBlock → ν),
      ((task.blocks.map (fun block => (blockRef task.id block.id, value block))).map Prod.fst).Nodup := by
    intro ν value
    simpa [Function.comp_def, blockRefs] using blocks.refs_distinct
  have indexed := @foldlM_addBlockIndexes (openTask graph task) task.blocks task.id
    (by simp [openTask, has]) (by simp [openTask, has])
  have wired := @foldlM_wireBlockDependencyIndexes (withBlocks task.id (openTask graph task) task.blocks) task.blocks
    task.id ?_ ?_
  · unfold addTaskIndexes
    show (do
      let indexed ← task.blocks.foldlM (addBlockIndexes task.id) (openTask graph task)
      task.blocks.foldlM (wireBlockDependencyIndexes task.id) indexed) = _
    rw [indexed]
    exact wired
  · intro block member
    show (graph.blockDependenciesByRef.setAll _).get? _ = _
    rw [get?_setAll_of_distinct _ (keys _ _), find_block blocks _ member]
    rfl
  · intro block member dependency inside
    obtain ⟨_, memberOther, same⟩ := mem_map.mp (blocks.known block member dependency inside)
    show (graph.blockDependentsByRef.setAll _).has _ = true
    rw [has, get?_setAll_of_distinct _ (keys _ _), ← same,
      find_block blocks (fun _ => ([] : List String)) memberOther]
    rfl

end PlanWeave
