import PlanWeave.Graph.SessionRefinement

namespace PlanWeave
open Function List Option OrderedMap

def ownEntry (task : ManifestTask) (ref : String) : Option (ManifestTask × ManifestBlock) :=
  OrderedMap.find ref (blockEntries [task])

theorem blockEntries_single (task : ManifestTask) :
    blockEntries [task] = task.blocks.map (fun block => (blockRef task.id block.id, (task, block))) := by
  simp [blockEntries]

theorem ownEntry_map {ν : Type} (task : ManifestTask) (value : ManifestBlock → ν) (ref : String) :
    OrderedMap.find ref (task.blocks.map (fun block => (blockRef task.id block.id, value block))) =
      (ownEntry task ref).map (fun entry => value entry.2) := by
  have mapped := find_map ref (fun _ (entry : ManifestTask × ManifestBlock) => value entry.2)
    (blockEntries [task])
  rw [blockEntries_single, List.map_map] at mapped
  rw [ownEntry, blockEntries_single, ← mapped]
  rfl

variable {block : ManifestBlock} {ref : String}

theorem ownEntry_iff {task : ManifestTask} (blocks : BlocksKnown task) {owner : ManifestTask} :
    ownEntry task ref = some (owner, block) ↔ owner = task ∧ block ∈ task.blocks ∧ ref = blockRef task.id block.id := by
  have keys : ((blockEntries [task]).map Prod.fst).Nodup := by
    rw [blockEntries_single]
    simpa [comp_def, blockRefs] using blocks.refs_distinct
  unfold ownEntry
  rw [find_eq_some keys, mem_blockEntries, mem_singleton]
  constructor
  · rintro ⟨same, member, ref'⟩
    subst same
    exact ⟨rfl, member, ref'⟩
  · rintro ⟨same, member, ref'⟩
    subst same
    exact ⟨rfl, member, ref'⟩

theorem ownEntry_none {task : ManifestTask} (absent : ownEntry task ref = none)
    (member : block ∈ task.blocks) : ref ≠ blockRef task.id block.id := by
  intro same
  unfold ownEntry at absent
  rw [find_eq_none, blockEntries_single] at absent
  apply absent
  simp only [List.map_map, List.mem_map, comp_apply]
  exact ⟨block, member, same.symm⟩

section WithTask
variable {graph : Graph} {task : ManifestTask} (blocks : BlocksKnown task)
include blocks

theorem setAll_own {ν : Type} (map : OrderedMap String ν) (value : ManifestBlock → ν) (ref : String) :
    (map.setAll (task.blocks.map (fun block => (blockRef task.id block.id, value block)))).get? ref =
      ((ownEntry task ref).map (fun entry => value entry.2)).or (map.get? ref) := by
  rw [get?_setAll_of_distinct, ownEntry_map]
  simpa [comp_def, blockRefs] using blocks.refs_distinct

omit blocks in
theorem wirePairs_own :
    ((wirePairs task.id task.blocks).filter (fun pair => pair.1 = blockRef task.id block.id)).map Prod.snd =
      blockDependents task block := by
  unfold wirePairs blockDependents
  rw [List.filter_flatMap, List.map_flatMap]
  apply List.flatMap_congr
  intro other _
  have same : ∀ dependency, (blockRef task.id dependency = blockRef task.id block.id) ↔ dependency = block.id :=
    fun dependency => ⟨blockRef_right_injective, fun equal => by rw [equal]⟩
  simp [List.filter_map, comp_def, same]

theorem wirePairs_foreign (foreign : ownEntry task ref = none) :
    (wirePairs task.id task.blocks).filter (fun pair => pair.1 = ref) = [] := by
  rw [filter_eq_nil_iff]
  intro pair inside
  obtain ⟨other, member, inside⟩ := mem_flatMap.mp inside
  obtain ⟨dependency, listed, same⟩ := mem_map.mp inside
  obtain ⟨_, memberTarget, sameId⟩ := mem_map.mp (blocks.known other member dependency listed)
  subst same
  simp only [decide_eq_true_eq]
  intro equal
  exact ownEntry_none foreign memberTarget (by rw [← equal, sameId])

theorem wired_own (map : OrderedMap String (List String)) (ref : String) :
    ((map.setAll (task.blocks.map (fun block => (blockRef task.id block.id, [])))).pushAll
      (wirePairs task.id task.blocks)).get? ref =
      ((ownEntry task ref).map (fun entry => blockDependents entry.1 entry.2)).or (map.get? ref) := by
  rw [get?_pushAll, setAll_own blocks map (fun _ => [])]
  cases own : ownEntry task ref with
  | none =>
    rw [wirePairs_foreign blocks own]
    simp
  | some entry =>
    obtain ⟨_, _⟩ := entry
    obtain ⟨sameTask, _, sameRef⟩ := (ownEntry_iff blocks).mp own
    subst sameTask sameRef
    simp [wirePairs_own]

theorem BlockIndexes.of_withTask {manifest manifest' : Manifest} (indexes : BlockIndexes graph manifest)
    (entries : ∀ ref, entryOf manifest' ref = (ownEntry task ref).or (entryOf manifest ref))
    {order refs : List String} (ordered : refs = (blockEntries manifest'.nodes).map Prod.fst) :
    BlockIndexes { withTask graph task with taskNodesInManifestOrder := order, blockRefsInManifestOrder := refs }
      manifest' := by
  have owner : ∀ ref, ∀ entry, ownEntry task ref = some entry → entry.1 = task := by
    intro ref entry own
    exact ((ownEntry_iff blocks).mp (show ownEntry task ref = some (entry.1, entry.2) from own)).1
  constructor
  case refOrder => exact ordered
  case blocks =>
    intro ref
    show (graph.blocksByRef.setAll _).get? ref = _
    rw [setAll_own blocks _ (fun block => block), entries, map_or, indexes.blocks]
  case blockTask =>
    intro ref
    show (graph.blockTaskByRef.setAll _).get? ref = _
    rw [setAll_own blocks _ (fun _ => task.id), entries, map_or, indexes.blockTask]
    cases own : ownEntry task ref with
    | none => rfl
    | some entry => simp [owner ref entry own]
  case blockDependencies =>
    intro ref
    show (graph.blockDependenciesByRef.setAll _).get? ref = _
    rw [setAll_own blocks _ (fun block => block.dependsOn.map (blockRef task.id)), entries, map_or,
      indexes.blockDependencies]
    cases own : ownEntry task ref with
    | none => rfl
    | some entry => simp [owner ref entry own, PlanWeave.blockDependencies]
  case blockDependents =>
    intro ref
    show ((graph.blockDependentsByRef.setAll _).pushAll _).get? ref = _
    rw [wired_own blocks, entries, map_or, indexes.blockDependents]
  case sharedResources =>
    intro ref
    show (graph.sharedResourcesByBlockRef.setAll _).get? ref = _
    rw [setAll_own blocks, entries, map_or, indexes.sharedResources]
  case requiredCapabilities =>
    intro ref
    show (graph.requiredCapabilitiesByBlockRef.setAll _).get? ref = _
    rw [setAll_own blocks, entries, map_or, indexes.requiredCapabilities]

end WithTask

variable {manifest : Manifest}

theorem entryOf_insert {manifest' : Manifest} {task : ManifestTask} (indexable : Indexable manifest)
    (indexable' : Indexable manifest')
    (nodes : ∀ node, node ∈ manifest'.nodes ↔ node = task ∨ node ∈ manifest.nodes) (ref : String) :
    entryOf manifest' ref = (ownEntry task ref).or (entryOf manifest ref) := by
  have blocks := (indexable'.tasks task ((nodes task).mpr (.inl rfl))).toBlocksKnown
  cases own : ownEntry task ref with
  | some entry =>
    obtain ⟨owner, _⟩ := entry
    obtain ⟨same, member, ref'⟩ := (ownEntry_iff blocks).mp own
    subst same
    rw [(entryOf_iff indexable').mpr ⟨(nodes owner).mpr (.inl rfl), member, ref'⟩]
    rfl
  | none =>
    rw [none_or]
    apply Option.ext
    rintro ⟨owner, block⟩
    rw [entryOf_iff indexable', entryOf_iff indexable, nodes]
    constructor
    · rintro ⟨membership, member, ref'⟩
      rcases membership with same | old
      · subst same
        exact absurd ref' (ownEntry_none own member)
      · exact ⟨old, member, ref'⟩
    · rintro ⟨old, rest⟩
      exact ⟨.inr old, rest⟩

theorem Indexable.of_nodes {nodes : List ManifestTask}
    (distinct : (nodes.map ManifestTask.id).Nodup) (tasks : ∀ task ∈ nodes, TaskIndexable task) :
    Indexable (setNodes manifest nodes) := ⟨distinct, tasks⟩

theorem Indexable.without (indexable : Indexable manifest) (removed : String) :
    Indexable (setNodes manifest (manifest.nodes.filter (fun item => item.id ≠ removed))) :=
  .of_nodes (indexable.distinct.sublist (filter_sublist.map _))
    (fun task member => indexable.tasks task (mem_filter.mp member).1)

theorem BlockIndexes.marked {graph : Graph} (indexes : BlockIndexes graph manifest)
    (node : ManifestTask) : BlockIndexes (setNode graph node) manifest := { indexes with }

theorem BlockIndexes.addNode {graph : Graph} {node : ManifestTask}
    (indexes : BlockIndexes graph manifest) (indexable : Indexable manifest)
    (indexable' : Indexable (setNodes manifest (manifest.nodes ++ [node]))) :
    BlockIndexes (withTask (setNode graph node) node) (setNodes manifest (manifest.nodes ++ [node])) := by
  have blocks := (indexable'.tasks node (by simp [setNodes])).toBlocksKnown
  apply @BlockIndexes.of_withTask _ node blocks manifest _ (indexes.marked node) ?_
    (withTask (setNode graph node) node).taskNodesInManifestOrder
    (withTask (setNode graph node) node).blockRefsInManifestOrder
  · show graph.blockRefsInManifestOrder ++ _ = _
    rw [indexes.refOrder]
    simp [setNodes, blockEntries, comp_def]
  · apply entryOf_insert indexable indexable'
    intro task
    simp [setNodes, or_comm]

theorem Indexable.foreign_ref (indexable : Indexable manifest) {task other : ManifestTask}
    (memberTask : task ∈ manifest.nodes) (memberOther : other ∈ manifest.nodes)
    (memberBlock : block ∈ other.blocks) (listed : blockRef other.id block.id ∈ blockRefs task) : other = task := by
  obtain ⟨inner, memberInner, same⟩ := mem_map.mp listed
  have plain := ((indexable.tasks task memberTask).plain inner memberInner).1
  have plainOther := ((indexable.tasks other memberOther).plain block memberBlock).1
  exact indexable.same_task memberOther memberTask (blockRef_injective plain plainOther same).1.symm

theorem entryOf_without (indexable : Indexable manifest) {task : ManifestTask}
    (memberTask : task ∈ manifest.nodes) (ref : String) :
    entryOf (setNodes manifest (manifest.nodes.filter (fun item => item.id ≠ task.id))) ref =
      if ref ∈ blockRefs task then none else entryOf manifest ref := by
  apply Option.ext
  rintro ⟨owner, block⟩
  show entryOf _ ref = some (owner, block) ↔ (if ref ∈ blockRefs task then none else entryOf manifest ref) =
    some (owner, block)
  rw [entryOf_iff (indexable.without task.id)]
  by_cases own : ref ∈ blockRefs task
  · simp only [own, if_true, reduceCtorEq, iff_false]
    rintro ⟨membership, member, same⟩
    obtain ⟨memberOwner, different⟩ := mem_filter.mp membership
    subst same
    have equal := indexable.foreign_ref memberTask memberOwner member own
    simp [equal] at different
  · simp only [own, if_false]
    rw [entryOf_iff indexable]
    constructor
    · rintro ⟨membership, rest⟩
      exact ⟨(mem_filter.mp membership).1, rest⟩
    rintro ⟨memberOwner, member, same⟩
    refine ⟨mem_filter.mpr ⟨memberOwner, ?_⟩, member, same⟩
    simp only [ne_eq, decide_eq_true_eq]
    intro sameId
    have equal := indexable.same_task memberOwner memberTask sameId
    subst equal
    exact own (same ▸ mem_map.mpr ⟨block, member, rfl⟩)

theorem blockDependents_own {task : ManifestTask}
    (member : ref ∈ blockDependents task block) : ref ∈ blockRefs task := by
  obtain ⟨other, memberOther, inside⟩ := mem_flatMap.mp member
  obtain ⟨_, _, same⟩ := mem_map.mp inside
  exact mem_map.mpr ⟨other, memberOther, same⟩

theorem BlockIndexes.removeNode {graph : Graph} {task : ManifestTask}
    (indexes : BlockIndexes graph manifest) (indexable : Indexable manifest) (memberTask : task ∈ manifest.nodes) :
    BlockIndexes (withoutTask graph task.id (blockRefs task))
      (setNodes manifest (manifest.nodes.filter (fun item => item.id ≠ task.id))) := by
  have after := entryOf_without indexable memberTask
  have erased : ∀ {ν : Type} (map : OrderedMap String ν) (value : ManifestTask × ManifestBlock → ν)
      (lookup : ∀ ref, map.get? ref = (entryOf manifest ref).map value) (ref : String),
      (map.eraseAll (blockRefs task)).get? ref =
        (if ref ∈ blockRefs task then none else entryOf manifest ref).map value := by
    intro ν map value lookup ref
    rw [get?_eraseAll, lookup]
    split <;> rfl
  constructor
  case refOrder =>
    show graph.blockRefsInManifestOrder.filter _ = (blockEntries (manifest.nodes.filter _)).map Prod.fst
    rw [indexes.refOrder]
    have part : ∀ nodes : List ManifestTask, (∀ node ∈ nodes, node ∈ manifest.nodes) →
        ((blockEntries nodes).map Prod.fst).filter (fun ref => ref ∉ blockRefs task) =
          (blockEntries (nodes.filter (fun item => item.id ≠ task.id))).map Prod.fst := by
      intro nodes inside
      induction nodes with
      | nil => rfl
      | cons node rest ih =>
        have tail := ih (fun other member => inside other (mem_cons_of_mem _ member))
        have split : (blockEntries (node :: rest)).map Prod.fst = blockRefs node ++ (blockEntries rest).map Prod.fst := by
          simp [blockEntries, blockRefs, comp_def]
        rw [split, filter_append, tail]
        by_cases same : node.id = task.id
        · have equal := indexable.same_task (inside node (by simp)) memberTask same
          subst equal
          have gone : (blockRefs node).filter (fun ref => ref ∉ blockRefs node) = [] := by
            rw [filter_eq_nil_iff]
            intro ref member
            simpa using member
          rw [gone]
          simp
        · have kept : (blockRefs node).filter (fun ref => ref ∉ blockRefs task) = blockRefs node := by
            rw [filter_eq_self]
            intro ref member
            simp only [decide_eq_true_eq]
            intro listed
            obtain ⟨_, memberBlock, sameRef⟩ := mem_map.mp member
            have equal := indexable.foreign_ref memberTask (inside node (by simp)) memberBlock (sameRef ▸ listed)
            exact same (by rw [equal])
          rw [kept, filter_cons_of_pos (by simpa using same)]
          simp [blockEntries, blockRefs, comp_def]
    exact part manifest.nodes (fun _ member => member)
  case blocks =>
    intro ref
    rw [after]
    exact erased _ _ indexes.blocks ref
  case blockTask =>
    intro ref
    rw [after]
    exact erased _ _ indexes.blockTask ref
  case blockDependencies =>
    intro ref
    rw [after]
    exact erased _ _ indexes.blockDependencies ref
  case blockDependents =>
    intro ref
    rw [after]
    show ((graph.blockDependentsByRef.eraseAll _).mapValues _).get? ref = _
    rw [get?_mapValues, erased _ _ indexes.blockDependents]
    by_cases own : ref ∈ blockRefs task
    · simp [own]
    simp only [own, if_false]
    cases found : entryOf manifest ref with
    | none => rfl
    | some entry =>
      obtain ⟨_, block⟩ := entry
      obtain ⟨memberOwner, member, same⟩ := (entryOf_iff indexable).mp found
      simp only [map_some, Option.some.injEq, filter_eq_self]
      intro dependent inside
      simp only [decide_eq_true_eq]
      intro listed
      obtain ⟨_, memberInner, sameRef⟩ := mem_map.mp (blockDependents_own inside)
      have equal := indexable.foreign_ref memberTask memberOwner memberInner (sameRef ▸ listed)
      subst equal
      exact own (same ▸ mem_map.mpr ⟨block, member, rfl⟩)
  case sharedResources =>
    intro ref
    rw [after]
    exact erased _ _ indexes.sharedResources ref
  case requiredCapabilities =>
    intro ref
    rw [after]
    exact erased _ _ indexes.requiredCapabilities ref

theorem BlockIndexes.updateNode {graph : Graph} {previous node : ManifestTask}
    (indexes : BlockIndexes graph manifest) (indexable : Indexable manifest) (memberTask : previous ∈ manifest.nodes)
    (same : previous.id = node.id) (indexable' : Indexable (setNodes manifest (replaceFirst node manifest.nodes))) :
    BlockIndexes (alignGraphOrder (withTask (setNode (withoutTask graph node.id (blockRefs previous)) node) node)
        (setNodes manifest (replaceFirst node manifest.nodes)))
      (setNodes manifest (replaceFirst node manifest.nodes)) := by
  have listed : node.id ∈ manifest.nodes.map ManifestTask.id := same ▸ mem_map_of_mem memberTask
  have membership : ∀ task, task ∈ replaceFirst node manifest.nodes ↔
      task = node ∨ task ∈ manifest.nodes.filter (fun item => item.id ≠ node.id) := by
    intro task
    have lookup := taskOf_replaceFirst listed task.id
    have member' := @taskOf_iff (setNodes manifest (replaceFirst node manifest.nodes)) task indexable'.distinct task.id
    rw [lookup] at member'
    simp only [and_true] at member'
    rw [show task ∈ replaceFirst node manifest.nodes ↔ _ from member'.symm]
    by_cases sameId : task.id = node.id
    · simp [sameId, eq_comm]
    · have member := @taskOf_iff manifest task indexable.distinct task.id
      simp only [and_true] at member
      have different : task ≠ node := fun equal => sameId (by rw [equal])
      simp [sameId, different, member]
  have removed := indexes.removeNode indexable memberTask
  rw [same] at removed
  have filtered := indexable.without node.id
  have blocks := (indexable'.tasks node ((membership node).mpr (.inl rfl))).toBlocksKnown
  apply @BlockIndexes.of_withTask _ node blocks _ _ (removed.marked node)
  · exact entryOf_insert filtered indexable' membership
  · rfl

end PlanWeave
