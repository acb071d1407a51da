import PlanWeave.RunIndex.IndexTree

namespace PlanWeave
open LevelTree List

section Chunks
variable {α β : Type}

theorem chunks_flatten {size : Nat} (positive : 0 < size) : ∀ {fuel : Nat} {values : List α}, values.length ≤ fuel →
    (chunks size fuel values).flatten = values
  | 0, values, enough => by
    rw [length_eq_zero_iff.mp (Nat.le_zero.mp enough)]
    rfl
  | fuel + 1, [], _ => rfl
  | fuel + 1, value :: rest, enough => by
    have shorter : ((value :: rest).drop size).length ≤ fuel := by
      rw [length_drop]
      omega
    show (value :: rest).take size ++ (chunks size fuel ((value :: rest).drop size)).flatten = _
    rw [chunks_flatten positive shorter, take_append_drop]

theorem chunks_bounds {size : Nat} (positive : 0 < size) : ∀ {fuel : Nat} {values : List α},
    ∀ chunk ∈ chunks size fuel values, chunk ≠ [] ∧ chunk.length ≤ size ∧ ∀ item ∈ chunk, item ∈ values
  | 0, _, chunk, member => by cases member
  | fuel + 1, [], chunk, member => by cases member
  | fuel + 1, value :: rest, chunk, member => by
    rcases mem_cons.mp member with first | later
    · subst first
      refine ⟨?_, by rw [length_take]; omega, fun _ => mem_of_mem_take⟩
      intro empty
      have none := congrArg length empty
      simp only [length_take, length_cons, length_nil] at none
      omega
    · obtain ⟨nonempty, small, inside⟩ := chunks_bounds positive chunk later
      exact ⟨nonempty, small, fun item found => mem_of_mem_drop (inside item found)⟩

theorem chunks_map (size : Nat) (f : α → β) : ∀ (fuel : Nat) (values : List α),
    chunks size fuel (values.map f) = (chunks size fuel values).map (map f)
  | 0, _ => rfl
  | _ + 1, [] => rfl
  | fuel + 1, value :: rest => by
    have next := chunks_map size f fuel ((value :: rest).drop size)
    rw [map_drop] at next
    show ((value :: rest).map f).take size :: chunks size fuel (((value :: rest).map f).drop size) = _
    rw [next, ← map_take]
    rfl

theorem chunks_length_le {size : Nat} (positive : 0 < size) : ∀ {fuel : Nat} {values : List α},
    (chunks size fuel values).length ≤ values.length
  | 0, _ => Nat.zero_le _
  | _ + 1, [] => Nat.zero_le _
  | fuel + 1, value :: rest => by
    show (chunks size fuel ((value :: rest).drop size)).length + 1 ≤ _
    have later := @chunks_length_le size positive fuel ((value :: rest).drop size)
    rw [length_drop, length_cons] at later
    rw [length_cons]
    omega

end Chunks

variable {host : IndexHost} {level : Nat} {trees : List PageTree} {pages : List BlockRunPage}

theorem bounded_chunks (bounded : ∀ tree ∈ trees, BoundedTree level tree) (fuel : Nat) :
    ∀ part ∈ chunks blockRunIndexTreeFanout fuel trees, BoundedTree (level + 1) (.node part) := by
  intro part member
  obtain ⟨nonempty, small, inside⟩ := chunks_bounds (by decide) part member
  exact ⟨nonempty, small, fun item found => bounded item (inside item found)⟩

structure Raised (host : IndexHost) (level : Nat) (trees : List PageTree) (top : Nat) (raised : List PageTree)
    (nodes : List TreeNode) : Prop where
  bounded : ∀ tree ∈ raised, BoundedTree top tree
  pages : (raised.map (leaves top)).flatten = (trees.map (leaves level)).flatten
  covered : ∀ payload ∈ (raised.map (payloads host top)).flatten,
    identified host payload ∈ nodes ∨ payload ∈ (trees.map (payloads host level)).flatten
  addressed : ∀ node ∈ nodes, ∃ payload, node = identified host payload ∧ treePayloadSchema payload = true
  count : raised.length ≤ trees.length

theorem buildInternalLevels_ok : ∀ (levels : Nat) {level : Nat} {trees : List PageTree}, level + levels ≤ topLevel →
    (∀ tree ∈ trees, BoundedTree level tree) → (∀ page ∈ (trees.map (leaves level)).flatten, PageFilled page) →
    ∃ nodes raised, buildInternalLevels host (range' (level + 1) levels) (trees.map (refOf host level)) =
        .ok (nodes, raised.map (refOf host (level + levels))) ∧
      Raised host level trees (level + levels) raised nodes
  | 0, level, trees, _, bounded, _ => by
    refine ⟨[], trees, rfl, ?_⟩
    exact { bounded := bounded, pages := rfl, covered := fun payload found => .inr found
            addressed := fun node member => absurd member not_mem_nil, count := Nat.le_refl _ }
  | levels + 1, level, trees, depth, bounded, filled => by
    have parts_bounded := bounded_chunks bounded trees.length
    have whole : (chunks blockRunIndexTreeFanout trees.length trees).flatten = trees :=
      chunks_flatten (by decide) (Nat.le_refl trees.length)
    have same_pages : (((chunks blockRunIndexTreeFanout trees.length trees).map LevelTree.node).map (leaves (level + 1))).flatten =
        (trees.map (leaves level)).flatten := by
      rw [flatten_leaves, whole]
    have parts_filled : ∀ part ∈ chunks blockRunIndexTreeFanout trees.length trees,
        ∀ page ∈ leaves (level + 1) (.node part), PageFilled page := by
      intro part member page found
      apply filled
      rw [← same_pages, map_map]
      exact mem_flatten.mpr ⟨_, mem_map_of_mem member, found⟩
    have made : nodeGroups (internalNode host (level + 1))
        (chunks blockRunIndexTreeFanout (trees.map (refOf host level)).length (trees.map (refOf host level))) = .ok
        ((chunks blockRunIndexTreeFanout trees.length trees).map fun part =>
          identified host (payloadOf host (level + 1) (.node part)),
        (chunks blockRunIndexTreeFanout trees.length trees).map fun part => refOf host (level + 1) (.node part)) := by
      rw [length_map, chunks_map]
      exact nodeGroups_ok (fun part member => internalNode_ok (parts_bounded part member) (parts_filled part member)
        (show level + 1 ≤ topLevel by omega)) parts_bounded
    have nodes_bounded : ∀ tree ∈ (chunks blockRunIndexTreeFanout trees.length trees).map LevelTree.node,
        BoundedTree (level + 1) tree := by
      intro tree member
      obtain ⟨part, part_member, rfl⟩ := mem_map.mp member
      exact parts_bounded part part_member
    obtain ⟨nodes, raised, ran, above⟩ :=
      buildInternalLevels_ok levels (show level + 1 + levels ≤ topLevel by omega) nodes_bounded (by rw [same_pages]; exact filled)
    rw [map_map] at ran
    have levels_eq : level + 1 + levels = level + (levels + 1) := by omega
    rw [levels_eq] at ran above
    refine ⟨((chunks blockRunIndexTreeFanout trees.length trees).map fun part =>
      identified host (payloadOf host (level + 1) (.node part))) ++ nodes, raised, ?_, ?_⟩
    · show (nodeGroups (internalNode host (level + 1)) _ >>= _) = _
      rw [made]
      show (buildInternalLevels host (range' (level + 1 + 1) levels) _ >>= _) = _
      rw [show (map (fun part => refOf host (level + 1) (.node part)) (chunks blockRunIndexTreeFanout trees.length trees)) =
        map (refOf host (level + 1) ∘ LevelTree.node) (chunks blockRunIndexTreeFanout trees.length trees) from rfl, ran]
      rfl
    · refine { bounded := above.bounded, pages := above.pages.trans same_pages, covered := ?_, addressed := ?_, count := ?_ }
      · intro payload found
        rcases above.covered payload found with new | old
        · exact .inl (mem_append_right _ new)
        obtain ⟨_, group_member, inside⟩ := mem_flatten.mp old
        obtain ⟨_, tree_member, rfl⟩ := mem_map.mp group_member
        obtain ⟨part, part_member, rfl⟩ := mem_map.mp tree_member
        rcases mem_cons.mp inside with here | deeper
        · rw [here]
          exact .inl (mem_append_left _ (mem_map_of_mem part_member))
        obtain ⟨_, inner_member, listed⟩ := mem_flatten.mp deeper
        obtain ⟨child, child_member, rfl⟩ := mem_map.mp inner_member
        have member : child ∈ trees := by
          rw [← whole]
          exact mem_flatten.mpr ⟨part, part_member, child_member⟩
        exact .inr (mem_flatten.mpr ⟨_, mem_map_of_mem member, listed⟩)
      · intro node member
        rcases mem_append.mp member with here | later
        · obtain ⟨part, part_member, rfl⟩ := mem_map.mp here
          exact ⟨_, rfl, schema_payloadOf (parts_bounded part part_member) (parts_filled part part_member)
            (show level + 1 ≤ topLevel by omega)⟩
        · exact above.addressed node later
      · refine above.count.trans ?_
        rw [length_map]
        exact chunks_length_le (by decide)

structure Built (host : IndexHost) (pages : List BlockRunPage) (children : List PageTree) (build : TreeBuild) : Prop where
  fits : children.length ≤ blockRunIndexTreeFanout
  bounded : ∀ child ∈ children, BoundedTree topLevel child
  pages : indexPages children = pages
  root : build.rootNodeId = rootIdOf host children
  covered : children ≠ [] → ∀ payload ∈ rootPayloads host children, identified host payload ∈ build.nodes
  addressed : ∀ node ∈ build.nodes, ∃ payload, node = identified host payload ∧ treePayloadSchema payload = true

theorem buildLevels_ok (filled : ∀ page ∈ pages, PageFilled page) :
    ∃ leafNodes leafRefs nodes children,
      nodeGroups (fun group => .ok (leafNode host group))
        (chunks blockRunIndexTreeFanout (pages.map (descriptorOf host)).length (pages.map (descriptorOf host))) =
        .ok (leafNodes, leafRefs) ∧
      buildInternalLevels host (range' 1 topLevel) leafRefs = .ok (nodes, children.map (refOf host topLevel)) ∧
      (∀ child ∈ children, BoundedTree topLevel child) ∧ indexPages children = pages ∧ children.length ≤ pages.length ∧
      (∀ payload ∈ (children.map (payloads host topLevel)).flatten, identified host payload ∈ leafNodes ++ nodes) ∧
      ∀ node ∈ leafNodes ++ nodes, ∃ payload, node = identified host payload ∧ treePayloadSchema payload = true := by
  have whole : (chunks blockRunIndexTreeFanout pages.length pages).flatten = pages :=
    chunks_flatten (by decide) (Nat.le_refl pages.length)
  have leaf_bounded : ∀ part ∈ chunks blockRunIndexTreeFanout pages.length pages, BoundedTree 0 (.leaf part) := by
    intro part member
    obtain ⟨nonempty, small, _⟩ := chunks_bounds (by decide) part member
    exact ⟨nonempty, small⟩
  have leaf_filled : ∀ part ∈ chunks blockRunIndexTreeFanout pages.length pages, ∀ page ∈ part, PageFilled page := by
    intro part member page found
    obtain ⟨_, _, inside⟩ := chunks_bounds (by decide) part member
    exact filled page (inside page found)
  have made : nodeGroups (fun group => .ok (leafNode host group))
      (chunks blockRunIndexTreeFanout (pages.map (descriptorOf host)).length (pages.map (descriptorOf host))) = .ok
      ((chunks blockRunIndexTreeFanout pages.length pages).map fun part => identified host (payloadOf host 0 (.leaf part)),
        (chunks blockRunIndexTreeFanout pages.length pages).map fun part => refOf host 0 (.leaf part)) := by
    rw [length_map, chunks_map]
    exact nodeGroups_ok (fun _ _ => rfl) leaf_bounded
  have leaf_pages : (((chunks blockRunIndexTreeFanout pages.length pages).map LevelTree.leaf).map (leaves 0)).flatten = pages := by
    rw [map_map]
    exact (congrArg flatten (map_id _)).trans whole
  have trees_bounded : ∀ tree ∈ (chunks blockRunIndexTreeFanout pages.length pages).map LevelTree.leaf, BoundedTree 0 tree := by
    intro tree member
    obtain ⟨part, part_member, rfl⟩ := mem_map.mp member
    exact leaf_bounded part part_member
  obtain ⟨nodes, children, ran, raised⟩ :=
    buildInternalLevels_ok topLevel (Nat.le_of_eq (Nat.zero_add _)) trees_bounded (by rw [leaf_pages]; exact filled)
  rw [Nat.zero_add, map_map] at ran
  rw [Nat.zero_add] at raised
  refine ⟨_, _, nodes, children, made, ran, raised.bounded, raised.pages.trans leaf_pages, ?_, ?_, ?_⟩
  · refine raised.count.trans ?_
    rw [length_map]
    exact chunks_length_le (by decide)
  · intro payload found
    rcases raised.covered payload found with new | old
    · exact mem_append_right _ new
    obtain ⟨_, group_member, inside⟩ := mem_flatten.mp old
    obtain ⟨_, tree_member, rfl⟩ := mem_map.mp group_member
    obtain ⟨_, part_member, rfl⟩ := mem_map.mp tree_member
    rw [mem_singleton.mp inside]
    exact mem_append_left _ (mem_map_of_mem part_member)
  · intro node member
    rcases mem_append.mp member with here | later
    · obtain ⟨part, part_member, rfl⟩ := mem_map.mp here
      exact ⟨_, rfl, schema_payloadOf (leaf_bounded part part_member) (leaf_filled part part_member) (by decide)⟩
    · exact raised.addressed node later

theorem buildTree_ok (filled : ∀ page ∈ pages, PageFilled page) :
    (∀ build, buildBlockRunIndexV5Tree host (pages.map (descriptorOf host)) = .ok build → ∃ children, Built host pages children build) ∧
      (pages.length ≤ 1 → ∃ build, buildBlockRunIndexV5Tree host (pages.map (descriptorOf host)) = .ok build) := by
  by_cases empty : pages = []
  · subst empty
    refine ⟨?_, fun _ => ⟨_, rfl⟩⟩
    intro build built
    cases built
    exact ⟨[], { fits := Nat.zero_le _, bounded := fun child member => absurd member not_mem_nil, pages := rfl, root := rfl
                 covered := fun nonempty => absurd rfl nonempty, addressed := fun node member => absurd member not_mem_nil }⟩
  · obtain ⟨leafNodes, leafRefs, nodes, children, made, ran, bounded, same_pages, count, covered, addressed⟩ := buildLevels_ok filled
    have nonempty : children ≠ [] := by
      intro none
      rw [none] at same_pages
      exact empty same_pages.symm
    have run : buildBlockRunIndexV5Tree host (pages.map (descriptorOf host)) = (do
        assertBlockRunIndexV5PageCapacity (pages.map (descriptorOf host)).length
        if blockRunIndexTreeFanout < (children.map (refOf host topLevel)).length then
          throw s!"Block run index exceeds v5 tree capacity of {blockRunIndexMaxPages} pages."
        return { rootNodeId := some (nodeObjectId host (rootPayload host children))
                 nodes := leafNodes ++ nodes ++ [identified host (rootPayload host children)] : TreeBuild }) := by
      unfold buildBlockRunIndexV5Tree
      rw [if_neg (fun none => empty (map_eq_nil_iff.mp none)), made]
      show (assertBlockRunIndexV5PageCapacity _ >>= fun _ => buildInternalLevels host (range' 1 topLevel) leafRefs >>= _) = _
      rw [ran]
      rfl
    rw [run]
    have result : ∀ fits : children.length ≤ blockRunIndexTreeFanout, Built host pages children
        { rootNodeId := some (nodeObjectId host (rootPayload host children))
          nodes := leafNodes ++ nodes ++ [identified host (rootPayload host children)] } := by
      intro fits
      refine { fits := fits, bounded := bounded, pages := same_pages, root := ?_, covered := ?_, addressed := ?_ }
      · rw [rootIdOf, if_neg nonempty]
      · intro _ payload found
        rcases mem_cons.mp found with top | deeper
        · rw [top]
          exact mem_append_right _ (by simp)
        · exact mem_append_left _ (covered payload deeper)
      · intro node member
        rcases mem_append.mp member with old | new
        · exact addressed node old
        rw [mem_singleton.mp new]
        refine ⟨_, rfl, ?_⟩
        have positive := length_pos_of_ne_nil nonempty
        have counts : (children.map (refOf host topLevel)).all (fun child => 0 < child.pageCount) = true := refs_positive bounded
        simp only [rootPayload, treePayloadSchema, length_map, Bool.and_eq_true, decide_eq_true_eq]
        exact ⟨⟨positive, fits⟩, counts⟩
    constructor
    · intro build built
      obtain ⟨_, _, rest⟩ := Checked.bind_ok.mp built
      split at rest
      · cases rest
      · rename_i small
        cases rest
        rw [length_map] at small
        exact ⟨children, result (Nat.not_lt.mp small)⟩
    · intro few
      have small : children.length ≤ blockRunIndexTreeFanout := (count.trans few).trans (by decide)
      have capacity : assertBlockRunIndexV5PageCapacity (pages.map (descriptorOf host)).length = .ok () := by
        unfold assertBlockRunIndexV5PageCapacity
        rw [if_neg]
        rw [length_map]
        have large : 1 ≤ blockRunIndexMaxPages := by decide
        omega
      refine ⟨{ rootNodeId := some (nodeObjectId host (rootPayload host children))
                nodes := leafNodes ++ nodes ++ [identified host (rootPayload host children)] }, ?_⟩
      rw [capacity]
      rw [if_neg (by rw [length_map]; omega)]
      rfl

end PlanWeave
