import PlanWeave.Graph.SessionVerdict

namespace PlanWeave
open List Option OrderedMap

/-- The task and what depends on it, over one graph; what is marked already is not walked again. -/
def addTaskDependents (graph : Graph) (taskId : String) (affected : List String) : List String :=
  Search.flood (fun id => id = "") (neighbors graph.taskDependentsByTask) (searchFuel graph.taskDependentsByTask)
    affected [taskId]

def affectedTaskIdsForEdge (edge : ManifestEdge) (graph : Graph) (affected : List String) : List String :=
  if graph.tasksById.has edge.source then addTaskDependents graph edge.source affected else affected

def affectedTaskIdsForNode (before after : Manifest) (beforeGraph afterGraph : Graph) (affected : List String)
    (nodeId : String) : List String :=
  if (nodeMap before).get? nodeId = (nodeMap after).get? nodeId then affected
  else
    let affected := if beforeGraph.tasksById.has nodeId then addTaskDependents beforeGraph nodeId affected else affected
    let affected := if afterGraph.tasksById.has nodeId then addTaskDependents afterGraph nodeId affected else affected
    if !beforeGraph.tasksById.has nodeId && !afterGraph.tasksById.has nodeId then
      ((before.edges ++ after.edges).filter (fun edge => edge.source = nodeId || edge.target = nodeId)).foldl
        (fun affected edge => affectedTaskIdsForEdge edge afterGraph (affectedTaskIdsForEdge edge beforeGraph affected))
        affected
    else affected

def edgeMap (manifest : Manifest) : OrderedMap String ManifestEdge :=
  OrderedMap.ofList (manifest.edges.map (fun edge => (edgeKey edge, edge)))

def affectedTaskIdsForEdgeKey (before after : Manifest) (beforeGraph afterGraph : Graph) (affected : List String)
    (key : String) : List String :=
  if (edgeMap before).has key && (edgeMap after).has key then affected
  else
    match ((edgeMap before).get? key).or ((edgeMap after).get? key) with
    | none => affected
    | some edge => affectedTaskIdsForEdge edge afterGraph (affectedTaskIdsForEdge edge beforeGraph affected)

def affectedTaskIdsForManifestChange (before after : Manifest) (beforeGraph afterGraph : Graph) : List String :=
  let nodeIds := uniqueInOrder ((nodeMap before).keys ++ (nodeMap after).keys)
  let edgeKeys := uniqueInOrder ((edgeMap before).keys ++ (edgeMap after).keys)
  let ofNodes := nodeIds.foldl (affectedTaskIdsForNode before after beforeGraph afterGraph) []
  (edgeKeys.foldl (affectedTaskIdsForEdgeKey before after beforeGraph afterGraph) ofNodes).filter
    (fun taskId => beforeGraph.tasksById.has taskId || afterGraph.tasksById.has taskId)

def affectedTaskIds (before after : Manifest) : Except String (List String) := do
  let beforeGraph ← compileTaskGraph before
  let afterGraph ← compileTaskGraph after
  return affectedTaskIdsForManifestChange before after beforeGraph afterGraph

/-- The least set with every task that was added, removed or changed and the source of every dependency
edge that was added or removed, closed under dependence in both manifests. -/
inductive Affected (before after : Manifest) : String → Prop
  | node {id : String} (changed : (nodeMap before).get? id ≠ (nodeMap after).get? id) : Affected before after id
  | removedEdge {edge : ManifestEdge} (old : edge ∈ before.edges) (gone : edge ∉ after.edges)
      (task : (nodeMap before).has edge.source = true ∨ (nodeMap after).has edge.source = true) :
      Affected before after edge.source
  | addedEdge {edge : ManifestEdge} (fresh : edge ∉ before.edges) (new : edge ∈ after.edges)
      (task : (nodeMap before).has edge.source = true ∨ (nodeMap after).has edge.source = true) :
      Affected before after edge.source
  | dependedBefore {source target : String} (member : Affected before after target)
      (step : dependsOn before source target) : Affected before after source
  | dependedAfter {source target : String} (member : Affected before after target)
      (step : dependsOn after source target) : Affected before after source

def LoneEdge (before after : Manifest) (edge : ManifestEdge) : Prop :=
  (edge ∈ before.edges ∧ edge ∉ after.edges) ∨ (edge ∉ before.edges ∧ edge ∈ after.edges)

/-- No added or removed edge shares its key with another edge: their ids hold no NUL that could move the separator. -/
def FaithfulKeys (before after : Manifest) : Prop :=
  ∀ edge ∈ before.edges ++ after.edges, LoneEdge before after edge →
    ∀ other ∈ before.edges ++ after.edges, edgeKey edge = edgeKey other → edge = other

instance (before after : Manifest) : Decidable (FaithfulKeys before after) :=
  have (edge : ManifestEdge) : Decidable (LoneEdge before after edge) := inferInstanceAs (Decidable (_ ∨ _))
  inferInstanceAs (Decidable (∀ edge ∈ _, LoneEdge before after edge → ∀ other ∈ _, edgeKey edge = edgeKey other → edge = other))

variable {key : String}

theorem edgeMap_has {manifest : Manifest} :
    (edgeMap manifest).has key = true ↔ ∃ edge ∈ manifest.edges, edgeKey edge = key := by
  have built : (edgeMap manifest).get? key = _ := get?_setAll OrderedMap.empty _ key
  rw [get?_empty, or_none] at built
  rw [OrderedMap.has, isSome_iff_ne_none, built, ne_eq, find_eq_none, not_not]
  simp

theorem find_mem {ν : Type} {value : ν} {entries : List (String × ν)}
    (found : OrderedMap.find key entries = some value) : (key, value) ∈ entries := by
  induction entries with
  | nil => cases found
  | cons entry _ ih =>
    by_cases same : entry.1 = key
    · simp only [OrderedMap.find, same, if_true, Option.some.injEq] at found
      rw [← same, ← found]
      exact mem_cons_self
    · simp only [OrderedMap.find, same, if_false] at found
      exact mem_cons_of_mem _ (ih found)

theorem edgeMap_get? {manifest : Manifest} {edge : ManifestEdge}
    (found : (edgeMap manifest).get? key = some edge) : edge ∈ manifest.edges ∧ edgeKey edge = key := by
  have built : (edgeMap manifest).get? key = _ := get?_setAll OrderedMap.empty _ key
  rw [get?_empty, or_none, found] at built
  obtain ⟨_, member, same⟩ := mem_map.mp (mem_reverse.mp (find_mem built.symm))
  simp only [Prod.mk.injEq] at same
  rw [← same.2]
  exact ⟨member, same.1⟩

theorem mem_uniqueInOrder {items : List String} {item : String} : item ∈ uniqueInOrder items ↔ item ∈ items := by
  induction items with
  | nil => simp [uniqueInOrder]
  | cons first _ ih =>
    simp only [uniqueInOrder, mem_cons, mem_filter, ih, decide_eq_true_eq]
    by_cases same : item = first <;> simp [same]

theorem changed_has {before after : Manifest} {id : String} (changed : (nodeMap before).get? id ≠ (nodeMap after).get? id) :
    (nodeMap before).has id = true ∨ (nodeMap after).has id = true := by
  unfold OrderedMap.has
  by_contra none
  simp only [not_or, Bool.not_eq_true, isSome_eq_false_iff, isNone_iff_eq_none] at none
  exact changed (none.1.trans none.2.symm)

structure Marked (before after : Manifest) (affected : List String) : Prop where
  sound : ∀ id ∈ affected, Affected before after id
  settled : ∀ id ∈ affected, ∃ manifest, (manifest = before ∨ manifest = after) ∧
    id ∈ manifest.nodes.map ManifestTask.id ∧ ∀ source, dependsOn manifest source id → source ∈ affected

structure MarksRoots (before after : Manifest) (affected next : List String) (roots : String → Prop) : Prop where
  marked : Marked before after next
  grown : affected ⊆ next
  reached : ∀ root, roots root → root ∈ next

def NodeKnown (before after : Manifest) (id : String) : Prop := (nodeMap before).has id = true ∨ (nodeMap after).has id = true

section
variable {before after : Manifest} {edge : ManifestEdge}

theorem LoneEdge.listed (single : LoneEdge before after edge) : edge ∈ before.edges ++ after.edges :=
  mem_append.mpr (single.imp And.left And.right)

/-- A key that only one of the manifests has stands for an edge that was added or removed. -/
theorem lone_of_key (found : ((edgeMap before).get? key).or ((edgeMap after).get? key) = some edge)
    (single : ((edgeMap before).has key && (edgeMap after).has key) = false) : edgeKey edge = key ∧ LoneEdge before after edge := by
  rw [Bool.and_eq_false_iff] at single
  rcases or_eq_some_iff.mp found with old | ⟨none, new⟩
  · obtain ⟨member, same⟩ := edgeMap_get? old
    refine ⟨same, .inl ⟨member, fun other => ?_⟩⟩
    have has := edgeMap_has.mpr ⟨edge, member, same⟩
    have has' := edgeMap_has.mpr ⟨edge, other, same⟩
    simp [has, has'] at single
  · obtain ⟨member, same⟩ := edgeMap_get? new
    refine ⟨same, .inr ⟨fun other => ?_, member⟩⟩
    have has := edgeMap_has.mpr ⟨edge, other, same⟩
    rw [OrderedMap.has, none] at has
    cases has

theorem FaithfulKeys.not_shared (faithful : FaithfulKeys before after) (single : LoneEdge before after edge) :
    ¬ ((edgeMap before).has (edgeKey edge) && (edgeMap after).has (edgeKey edge)) = true := by
  rw [Bool.and_eq_true]
  rintro ⟨inBefore, inAfter⟩
  obtain ⟨left, memberLeft, sameLeft⟩ := edgeMap_has.mp inBefore
  obtain ⟨right, memberRight, sameRight⟩ := edgeMap_has.mp inAfter
  have equalLeft := faithful edge single.listed single left (mem_append_left _ memberLeft) sameLeft.symm
  have equalRight := faithful edge single.listed single right (mem_append_right _ memberRight) sameRight.symm
  rcases single with ⟨_, gone⟩ | ⟨fresh, _⟩
  · exact gone (equalRight ▸ memberRight)
  · exact fresh (equalLeft ▸ memberLeft)
end

section Walks
variable {before after manifest : Manifest} {graph beforeGraph afterGraph : Graph} {affected : List String}
  (schemaBefore : manifestSchema before = true) (schemaAfter : manifestSchema after = true)
  (compiledBefore : compileTaskGraph before = .ok beforeGraph) (compiledAfter : compileTaskGraph after = .ok afterGraph)

theorem Marked.walk (marked : Marked before after affected) (side : manifest = before ∨ manifest = after)
    (schema : manifestSchema manifest = true) (compiled : compileTaskGraph manifest = .ok graph) {root : String}
    (known : root ∈ manifest.nodes.map ManifestTask.id) (justified : Affected before after root) :
    MarksRoots before after affected (addTaskDependents graph root affected) (· = root) := by
  have distinct : graph.taskDependentsByTask.keys.Nodup := graph.taskDependentsByTask.distinct
  have keys : ∀ id, id ∈ graph.taskDependentsByTask.keys ↔ id ∈ manifest.nodes.map ManifestTask.id :=
    fun id => (has_iff _).symm.trans (compiled_keys compiled id).2.2.2
  have named : ∀ id ∈ manifest.nodes.map ManifestTask.id, decide (id = "") = false := by
    intro id member
    rw [decide_eq_false_iff_not]
    exact fun empty => manifestSchema_named schema (empty ▸ member)
  have weighed := Search.weight_remove (neighbors graph.taskDependentsByTask) (fun _ => false)
    (fun node => decide (node = root)) distinct ((keys root).mpr known) rfl (by simp)
  have bound := Search.weight_le (neighbors graph.taskDependentsByTask) graph.taskDependentsByTask.keys
    (fun node => decide (node ∈ affected))
  obtain ⟨kept, taken, settled⟩ := @Search.flood_closed _ _ graph.taskDependentsByTask.keys affected
    (searchFuel graph.taskDependentsByTask) (neighbors graph.taskDependentsByTask) (fun id => decide (id = "")) distinct
    (fun node _ next step => (keys next).mpr ((compiled_dependents compiled next node).mp step).2.1) [root]
    (by unfold searchFuel; simp only [length_singleton]; omega)
    (fun node member => mem_singleton.mp member ▸ (keys root).mpr known)
  refine ⟨⟨?_, ?_⟩, kept, fun _ same => same ▸ taken root mem_cons_self (named root known)⟩
  · apply Search.flood_sound ?_ marked.sound (fun id member => mem_singleton.mp member ▸ justified)
    intro id member next step
    have depends := (compiled_dependents compiled next id).mp step
    rcases side with rfl | rfl
    · exact .dependedBefore member depends
    · exact .dependedAfter member depends
  · intro id member
    rcases settled id member with old | ⟨inside, successors⟩
    · obtain ⟨other, side', listed, dependents⟩ := marked.settled id old
      exact ⟨other, side', listed, fun source step => kept source (dependents source step)⟩
    · refine ⟨manifest, side, (keys id).mp inside, fun source step => ?_⟩
      exact successors source ((compiled_dependents compiled source id).mpr step) (named source step.2.1)

theorem Marked.walked (marked : Marked before after affected) (side : manifest = before ∨ manifest = after)
    (schema : manifestSchema manifest = true) (compiled : compileTaskGraph manifest = .ok graph) {root : String}
    (justified : root ∈ manifest.nodes.map ManifestTask.id → Affected before after root) :
    MarksRoots before after affected (if graph.tasksById.has root then addTaskDependents graph root affected else affected)
      fun other => other = root ∧ root ∈ manifest.nodes.map ManifestTask.id := by
  have inside := (compiled_keys compiled root).2.1
  split
  · rename_i present
    have known := inside.mp present
    obtain ⟨kept, grown, reached⟩ := marked.walk side schema compiled known (justified known)
    exact ⟨kept, grown, fun other => reached other ∘ And.left⟩
  · rename_i absent
    exact ⟨marked, List.Subset.refl _, fun _ known => absurd (inside.mpr known.2) absent⟩

theorem Marked.visits {β : Type} {visit : List String → β → List String} {roots : β → String → Prop} {items : List β}
    (each : ∀ affected, ∀ item ∈ items, Marked before after affected →
      MarksRoots before after affected (visit affected item) (roots item))
    (marked : Marked before after affected) :
    MarksRoots before after affected (items.foldl visit affected) fun root => ∃ item ∈ items, roots item root := by
  induction items generalizing affected with
  | nil => exact ⟨marked, List.Subset.refl _, by simp⟩
  | cons first _ ih =>
    obtain ⟨once, grown, reached⟩ := each affected first mem_cons_self marked
    obtain ⟨last, grown', reached'⟩ := ih (fun affected item member => each affected item (mem_cons_of_mem _ member)) once
    refine ⟨last, List.Subset.trans grown grown', ?_⟩
    rintro root ⟨item, member, justified⟩
    rcases mem_cons.mp member with rfl | member
    · exact grown' (reached root justified)
    · exact reached' root ⟨item, member, justified⟩

include schemaBefore schemaAfter compiledBefore compiledAfter

theorem Marked.both (marked : Marked before after affected) {root : String}
    (justified : NodeKnown before after root → Affected before after root) :
    let first := if beforeGraph.tasksById.has root then addTaskDependents beforeGraph root affected else affected
    let second := if afterGraph.tasksById.has root then addTaskDependents afterGraph root first else first
    MarksRoots before after affected second fun other => other = root ∧ NodeKnown before after root := by
  intro first second
  unfold NodeKnown at *
  rw [nodeMap_has, nodeMap_has] at *
  obtain ⟨kept, grown, reached⟩ := marked.walked (.inl rfl) schemaBefore compiledBefore (justified ∘ .inl)
  obtain ⟨kept', grown', reached'⟩ := kept.walked (.inr rfl) schemaAfter compiledAfter (justified ∘ .inr)
  refine ⟨kept', List.Subset.trans grown grown', ?_⟩
  rintro other ⟨same, inside | inside⟩
  · exact grown' (reached other ⟨same, inside⟩)
  · exact reached' other ⟨same, inside⟩

theorem Marked.node (marked : Marked before after affected) {nodeId : String}
    (listed : nodeId ∈ (nodeMap before).keys ++ (nodeMap after).keys) :
    MarksRoots before after affected (affectedTaskIdsForNode before after beforeGraph afterGraph affected nodeId) fun root =>
      root = nodeId ∧ (nodeMap before).get? nodeId ≠ (nodeMap after).get? nodeId := by
  have present : NodeKnown before after nodeId := (mem_append.mp listed).imp (has_iff _).mpr (has_iff _).mpr
  have task : (!beforeGraph.tasksById.has nodeId && !afterGraph.tasksById.has nodeId) = false := by
    have inBefore := (compiled_keys compiledBefore nodeId).2.1
    have inAfter := (compiled_keys compiledAfter nodeId).2.1
    rw [NodeKnown, nodeMap_has, nodeMap_has, ← inBefore, ← inAfter] at present
    rcases present with here | here <;> simp [here]
  unfold affectedTaskIdsForNode
  by_cases changed : (nodeMap before).get? nodeId = (nodeMap after).get? nodeId
  · rw [if_pos changed]
    exact ⟨marked, List.Subset.refl _, fun root reason => absurd changed reason.2⟩
  rw [if_neg changed]
  simp only [task, Bool.false_eq_true, if_false]
  obtain ⟨kept, grown, reached⟩ := marked.both schemaBefore schemaAfter compiledBefore compiledAfter
    (fun _ => Affected.node changed)
  exact ⟨kept, grown, fun root reason => reached root ⟨reason.1, present⟩⟩

theorem Marked.edgeKey (faithful : FaithfulKeys before after) (marked : Marked before after affected) (key : String) :
    MarksRoots before after affected (affectedTaskIdsForEdgeKey before after beforeGraph afterGraph affected key) fun root =>
      ∃ edge, root = edge.source ∧ PlanWeave.edgeKey edge = key ∧ LoneEdge before after edge ∧ NodeKnown before after edge.source := by
  unfold affectedTaskIdsForEdgeKey
  split
  · rename_i shared
    refine ⟨marked, List.Subset.refl _, ?_⟩
    rintro _ ⟨edge, _, rfl, single, _⟩
    exact absurd shared (faithful.not_shared single)
  rename_i single
  split
  · rename_i none
    refine ⟨marked, List.Subset.refl _, ?_⟩
    rintro _ ⟨edge, _, same, side, _⟩
    rw [or_eq_none_iff] at none
    have has : (edgeMap before).has key = true ∨ (edgeMap after).has key = true :=
      side.imp (fun both => edgeMap_has.mpr ⟨edge, both.1, same⟩) (fun both => edgeMap_has.mpr ⟨edge, both.2, same⟩)
    simp [OrderedMap.has, none.1, none.2] at has
  · rename_i edge found
    obtain ⟨same, side⟩ := lone_of_key found (by simpa using single)
    obtain ⟨kept, grown, reached⟩ := marked.both schemaBefore schemaAfter compiledBefore compiledAfter (fun task =>
      side.elim (fun both => .removedEdge both.1 both.2 task) (fun both => .addedEdge both.1 both.2 task))
    refine ⟨kept, grown, ?_⟩
    rintro _ ⟨other, rfl, same', side', task⟩
    have equal := faithful other side'.listed side' edge side.listed (same'.trans same.symm)
    subst equal
    exact reached _ ⟨rfl, task⟩

omit schemaBefore schemaAfter in
theorem Affected.task {id : String} (reason : Affected before after id) :
    (beforeGraph.tasksById.has id || afterGraph.tasksById.has id) = true := by
  rw [Bool.or_eq_true, (compiled_keys compiledBefore id).2.1, (compiled_keys compiledAfter id).2.1, ← nodeMap_has, ← nodeMap_has]
  cases reason with
  | node changed => exact changed_has changed
  | removedEdge _ _ task => exact task
  | addedEdge _ _ task => exact task
  | dependedBefore _ step => exact .inl ((nodeMap_has _ _).mpr step.2.1)
  | dependedAfter _ step => exact .inr ((nodeMap_has _ _).mpr step.2.1)

theorem affected_marked (faithful : FaithfulKeys before after) :
    Marked before after (affectedTaskIdsForManifestChange before after beforeGraph afterGraph) ∧
    (∀ id, (nodeMap before).get? id ≠ (nodeMap after).get? id →
      id ∈ affectedTaskIdsForManifestChange before after beforeGraph afterGraph) ∧
    (∀ edge, LoneEdge before after edge → NodeKnown before after edge.source →
      edge.source ∈ affectedTaskIdsForManifestChange before after beforeGraph afterGraph) := by
  have start : Marked before after [] := ⟨by simp, by simp⟩
  have nodeVisits := fun affected nodeId (listed : nodeId ∈ uniqueInOrder ((nodeMap before).keys ++ (nodeMap after).keys))
      (marked : Marked before after affected) =>
    marked.node schemaBefore schemaAfter compiledBefore compiledAfter (mem_uniqueInOrder.mp listed)
  have edgeVisits := fun affected key (_ : key ∈ uniqueInOrder ((edgeMap before).keys ++ (edgeMap after).keys))
      (marked : Marked before after affected) =>
    marked.edgeKey schemaBefore schemaAfter compiledBefore compiledAfter faithful key
  obtain ⟨ofNodes, _, nodes⟩ := Marked.visits nodeVisits start
  obtain ⟨marked, grown, edges⟩ := Marked.visits edgeVisits ofNodes
  have whole : affectedTaskIdsForManifestChange before after beforeGraph afterGraph =
      (uniqueInOrder ((edgeMap before).keys ++ (edgeMap after).keys)).foldl
        (affectedTaskIdsForEdgeKey before after beforeGraph afterGraph)
        ((uniqueInOrder ((nodeMap before).keys ++ (nodeMap after).keys)).foldl
          (affectedTaskIdsForNode before after beforeGraph afterGraph) []) :=
    filter_eq_self.mpr (fun id member => (marked.sound id member).task compiledBefore compiledAfter)
  rw [whole]
  refine ⟨marked, ?_, ?_⟩
  · intro id changed
    apply grown
    have listed : id ∈ (nodeMap before).keys ++ (nodeMap after).keys := by
      rw [mem_append, ← has_iff, ← has_iff]
      exact changed_has changed
    exact nodes id ⟨id, mem_uniqueInOrder.mpr listed, rfl, changed⟩
  · intro edge side task
    refine edges edge.source ⟨PlanWeave.edgeKey edge, ?_, edge, rfl, rfl, side, task⟩
    rw [mem_uniqueInOrder, mem_append, ← has_iff, ← has_iff]
    exact side.imp (fun both => edgeMap_has.mpr ⟨edge, both.1, rfl⟩) (fun both => edgeMap_has.mpr ⟨edge, both.2, rfl⟩)

theorem affected_tasks_exact (faithful : FaithfulKeys before after) (id : String) :
    id ∈ affectedTaskIdsForManifestChange before after beforeGraph afterGraph ↔ Affected before after id := by
  obtain ⟨marked, nodes, edges⟩ := affected_marked schemaBefore schemaAfter compiledBefore compiledAfter faithful
  refine ⟨marked.sound id, fun reason => ?_⟩
  -- a dependent that the walk of the other manifest misses lost or gained an edge or is itself new or gone
  have missed : ∀ {source target : String} {first second : Manifest},
      ((first = before ∧ second = after) ∨ (first = after ∧ second = before)) → dependsOn first source target →
      target ∈ second.nodes.map ManifestTask.id → ¬ dependsOn second source target →
      source ∈ affectedTaskIdsForManifestChange before after beforeGraph afterGraph := by
    intro source target first second sides step present absent
    have task : (nodeMap before).has source = true ∨ (nodeMap after).has source = true := by
      rcases sides with ⟨rfl, rfl⟩ | ⟨rfl, rfl⟩
      · exact .inl ((nodeMap_has _ _).mpr step.2.1)
      · exact .inr ((nodeMap_has _ _).mpr step.2.1)
    by_cases inside : source ∈ second.nodes.map ManifestTask.id
    · have gone : ⟨source, target⟩ ∉ second.edges := fun edge => absent ⟨edge, inside, present⟩
      apply edges ⟨source, target⟩ ?_ task
      rcases sides with ⟨rfl, rfl⟩ | ⟨rfl, rfl⟩
      · exact .inl ⟨step.1, gone⟩
      · exact .inr ⟨gone, step.1⟩
    · apply nodes source
      have here := (nodeMap_has first source).mpr step.2.1
      rw [← nodeMap_has, OrderedMap.has, Bool.not_eq_true, isSome_eq_false_iff, isNone_iff_eq_none] at inside
      rcases sides with ⟨rfl, rfl⟩ | ⟨rfl, rfl⟩
      · rw [inside]
        exact isSome_iff_ne_none.mp here
      · rw [inside]
        exact (isSome_iff_ne_none.mp here).symm
  have closed : ∀ {source target : String} {manifest : Manifest}, (manifest = before ∨ manifest = after) →
      target ∈ affectedTaskIdsForManifestChange before after beforeGraph afterGraph → dependsOn manifest source target →
      source ∈ affectedTaskIdsForManifestChange before after beforeGraph afterGraph := by
    intro source target manifest side member step
    obtain ⟨other, side', present, dependents⟩ := marked.settled target member
    by_cases both : dependsOn other source target
    · exact dependents source both
    rcases side with rfl | rfl <;> rcases side' with rfl | rfl
    · exact absurd step both
    · exact missed (.inl ⟨rfl, rfl⟩) step present both
    · exact missed (.inr ⟨rfl, rfl⟩) step present both
    · exact absurd step both
  induction reason with
  | node changed => exact nodes _ changed
  | removedEdge old gone task => exact edges _ (.inl ⟨old, gone⟩) task
  | addedEdge fresh new task => exact edges _ (.inr ⟨fresh, new⟩) task
  | dependedBefore _ step ih => exact closed (.inl rfl) ih step
  | dependedAfter _ step ih => exact closed (.inr rfl) ih step

end Walks

def fourTasks : List ManifestTask :=
  ["a", "a\x00depends_on\x00b", "b\x00depends_on\x00c", "c"].map (fun id => sampleTask id [sampleImplementation "work"])

/-- One edge is replaced by another edge of the same key. -/
theorem affected_tasks_hidden_edge :
    manifestSchema (sampleManifest fourTasks [⟨"a", "b\x00depends_on\x00c"⟩]) = true ∧
    manifestSchema (sampleManifest fourTasks [⟨"a\x00depends_on\x00b", "c"⟩]) = true ∧
    affectedTaskIds (sampleManifest fourTasks [⟨"a", "b\x00depends_on\x00c"⟩])
      (sampleManifest fourTasks [⟨"a\x00depends_on\x00b", "c"⟩]) = .ok [] ∧
    Affected (sampleManifest fourTasks [⟨"a", "b\x00depends_on\x00c"⟩])
      (sampleManifest fourTasks [⟨"a\x00depends_on\x00b", "c"⟩]) "a" := by
  refine ⟨by decide +kernel, by decide +kernel, by decide +kernel, ?_⟩
  apply @Affected.removedEdge _ _ ⟨"a", "b\x00depends_on\x00c"⟩ (by decide) (by decide)
  decide +kernel

theorem affected_tasks_exact_grown :
    let before := sampleManifest (["A", "B", "C"].map (fun id => sampleTask id [sampleImplementation "a"])) [⟨"C", "B"⟩]
    let after := { before with edges := [⟨"C", "B"⟩, ⟨"B", "A"⟩] }
    ∀ id, id ∈ ["B", "C"] ↔ Affected before after id := by
  intro before after id
  have compiledBefore : compileTaskGraph before = .ok (indexGraph before (indexedTasks before)) := by decide +kernel
  have compiledAfter : compileTaskGraph after = .ok (indexGraph after (indexedTasks after)) := by decide +kernel
  have found : affectedTaskIdsForManifestChange before after (indexGraph before (indexedTasks before))
      (indexGraph after (indexedTasks after)) = ["B", "C"] := by decide +kernel
  rw [← found]
  exact affected_tasks_exact (by decide +kernel) (by decide +kernel) compiledBefore compiledAfter (by decide +kernel) id

end PlanWeave
