import PlanWeave.RunIndex.TreeSpec

namespace PlanWeave
open LevelTree List

def topLevel : Nat := blockRunIndexTreeDepth - 2

def indexPages (children : List PageTree) : List BlockRunPage := (children.map (leaves topLevel)).flatten

variable (host : IndexHost)

def rootPayload (children : List PageTree) : TreePayload := .root (children.map (refOf host topLevel))

def rootPayloads (children : List PageTree) : List TreePayload :=
  rootPayload host children :: (children.map (payloads host topLevel)).flatten

def rootIdOf (children : List PageTree) : Option String :=
  if children = [] then none else some (nodeObjectId host (rootPayload host children))

structure IndexShape (children : List PageTree) : Prop where
  fits : children.length ≤ blockRunIndexTreeFanout
  bounded : ∀ child ∈ children, BoundedTree topLevel child
  filled : ∀ page ∈ indexPages children, PageFilled page
  ordered : Chronological host (indexPages children).flatten

structure IndexTree (store : IndexStore) (rootNodeId : Option String) (children : List PageTree) : Prop where
  root : rootNodeId = rootIdOf host children
  shape : IndexShape host children
  nodes : children ≠ [] → ∀ payload ∈ rootPayloads host children,
    store.nodes.get? (nodeObjectId host payload) = some (identified host payload)
  objects : ∀ page ∈ indexPages children, store.objects.get? (pageObjectId host page) = some (storedPage host page)

variable {host} {store : IndexStore} {rootNodeId : Option String} {children : List PageTree} {page : BlockRunPage}

namespace IndexTree

theorem storedTree (indexed : IndexTree host store rootNodeId children) {child : PageTree} (member : child ∈ children) :
    StoredTree host store topLevel child where
  bounded := indexed.shape.bounded child member
  filled := fun page found => indexed.shape.filled page (mem_flatten.mpr ⟨_, mem_map_of_mem member, found⟩)
  nodes := fun payload found => indexed.nodes (ne_nil_of_mem member) payload
    (mem_cons_of_mem _ (mem_flatten.mpr ⟨_, mem_map_of_mem member, found⟩))

theorem rootId (indexed : IndexTree host store rootNodeId children) (nonempty : children ≠ []) :
    rootNodeId = some (nodeObjectId host (rootPayload host children)) := by
  rw [indexed.root, rootIdOf, if_neg nonempty]

theorem rootId_empty (indexed : IndexTree host store rootNodeId []) : rootNodeId = none := by
  rw [indexed.root, rootIdOf, if_pos rfl]

theorem schema_root (shape : IndexShape host children) (nonempty : children ≠ []) :
    treePayloadSchema (rootPayload host children) = true := by
  have positive := length_pos_of_ne_nil nonempty
  have counts : (children.map (refOf host topLevel)).all (fun child => 0 < child.pageCount) = true :=
    refs_positive shape.bounded
  simp only [rootPayload, treePayloadSchema, length_map, Bool.and_eq_true, decide_eq_true_eq]
  exact ⟨⟨positive, shape.fits⟩, counts⟩

theorem readRoot (indexed : IndexTree host store rootNodeId children) (nonempty : children ≠ []) :
    readBlockRunIndexV5TreeNode host store (nodeObjectId host (rootPayload host children)) =
      .ok (identified host (rootPayload host children)) :=
  readTreeNode_ok (indexed.nodes nonempty _ mem_cons_self) (schema_root indexed.shape nonempty)

theorem readPage (indexed : IndexTree host store rootNodeId children) (member : page ∈ indexPages children) :
    readV4PageObject host store (descriptorOf host page) = .ok page :=
  readV4PageObject_ok (indexed.shape.filled page member) (indexed.objects page member)

end IndexTree

variable {others : List PageTree}

theorem rootIdOf_injective (free : host.CollisionFree) (shape : IndexShape host children)
    (other_shape : IndexShape host others) (same : rootIdOf host children = rootIdOf host others) : children = others := by
  unfold rootIdOf at same
  by_cases empty : children = []
  · by_cases other_empty : others = []
    · rw [empty, other_empty]
    · rw [if_pos empty, if_neg other_empty] at same
      cases same
  · by_cases other_empty : others = []
    · rw [if_neg empty, if_pos other_empty] at same
      cases same
    rw [if_neg empty, if_neg other_empty, Option.some.injEq] at same
    have payload := nodeObjectId_injective free same
    simp only [rootPayload, TreePayload.root.injEq] at payload
    refine map_injective_on (fun child child_member other other_member referred => ?_) payload
    exact payloadOf_injective free topLevel (shape.bounded child child_member) (other_shape.bounded other other_member)
      (nodeObjectId_injective free (congrArg TreeChild.objectId referred))

theorem IndexTree.unique (free : host.CollisionFree) {other : IndexStore}
    (indexed : IndexTree host store rootNodeId children) (again : IndexTree host other rootNodeId others) : children = others :=
  rootIdOf_injective free indexed.shape again.shape (indexed.root.symm.trans again.root)

section Order
variable {pages : List BlockRunPage}

theorem firstCursor_mem (nonempty : page ≠ []) : ∃ entry ∈ page, entry.cursor = firstCursor page := by
  obtain ⟨first, _, first_same, _⟩ := Parts.exists_ends nonempty
  exact ⟨first, mem_of_head? first_same, by simp [firstCursor, first_same]⟩

theorem lastCursor_mem (nonempty : page ≠ []) : ∃ entry ∈ page, entry.cursor = lastCursor page := by
  obtain ⟨_, last, _, last_same⟩ := Parts.exists_ends nonempty
  exact ⟨last, mem_of_getLast? last_same, by simp [lastCursor, last_same]⟩

variable {entry : BlockRunIndexEntry}

theorem first_upto (ordered : Chronological host page) (member : entry ∈ page) :
    Upto host (firstCursor page) entry.cursor := by
  cases page with
  | nil => cases member
  | cons =>
    rcases mem_cons.mp member with same | later
    · rw [same]
      exact Upto.refl _
    · exact (pairwise_cons.mp ordered).1 entry later

theorem upto_last (ordered : Chronological host page) (member : entry ∈ page) :
    Upto host entry.cursor (lastCursor page) := by
  rcases eq_nil_or_concat page with empty | ⟨front, last, same⟩
  · rw [empty] at member
    cases member
  rw [concat_eq_append] at same
  subst same
  have final : lastCursor (front ++ [last]) = last.cursor := by simp [lastCursor]
  rw [final]
  rcases mem_append.mp member with earlier | here
  · exact (pairwise_append.mp ordered).2.2 entry earlier last (by simp)
  · rw [mem_singleton.mp here]
    exact Upto.refl _

section
variable (ordered : Chronological host pages.flatten)
include ordered

theorem Chronological.of_page (member : page ∈ pages) : Chronological host page :=
  List.Pairwise.sublist (sublist_flatten_of_mem member) ordered

section
variable (filled : ∀ page ∈ pages, page ≠ [])
include filled

theorem Chronological.ends : EndsOrdered host pages := by
  induction pages with
  | nil => exact List.Pairwise.nil
  | cons page _ ih =>
    have parts := pairwise_append.mp ordered
    refine pairwise_cons.mpr ⟨?_, ih parts.2.1 fun other member => filled other (mem_cons_of_mem _ member)⟩
    intro other member
    obtain ⟨left, left_member, left_same⟩ := lastCursor_mem (filled page (by simp))
    obtain ⟨right, right_member, right_same⟩ := lastCursor_mem (filled other (mem_cons_of_mem _ member))
    rw [← left_same, ← right_same]
    exact parts.2.2 left left_member right (mem_flatten.mpr ⟨other, member, right_member⟩)

theorem pagesFirst_upto (member : page ∈ pages) : Upto host (pagesFirst pages) (firstCursor page) := by
  cases pages with
  | nil => cases member
  | cons head =>
    show Upto host (firstCursor head) _
    rcases mem_cons.mp member with same | later
    · rw [same]
      exact Upto.refl _
    have parts := pairwise_append.mp ordered
    obtain ⟨left, left_member, left_same⟩ := firstCursor_mem (filled head (by simp))
    obtain ⟨right, right_member, right_same⟩ := firstCursor_mem (filled page member)
    rw [← left_same, ← right_same]
    exact parts.2.2 left left_member right (mem_flatten.mpr ⟨page, later, right_member⟩)

theorem upto_pagesLast (member : page ∈ pages) : Upto host (lastCursor page) (pagesLast pages) := by
  rcases eq_nil_or_concat pages with empty | ⟨front, last, same⟩
  · rw [empty] at member
    cases member
  rw [concat_eq_append] at same
  subst same
  have final : pagesLast (front ++ [last]) = lastCursor last := by simp [pagesLast]
  rw [final]
  rcases mem_append.mp member with earlier | here
  · have ends := (ordered.ends filled)
    exact (pairwise_append.mp ends).2.2 page earlier last (by simp)
  · rw [mem_singleton.mp here]
    exact Upto.refl _
end
end
end Order

theorem IndexShape.ends (shape : IndexShape host children) : EndsOrdered host (indexPages children) :=
  shape.ordered.ends fun page member => (shape.filled page member).1

namespace IndexTree

theorem locate (indexed : IndexTree host store rootNodeId children) (nonempty : children ≠ []) (cursor : BlockRunLogicalCursor)
    (found : (indexPages children)[locatedAt host cursor (indexPages children)]? = some page) :
    locateBlockRunIndexV5Descriptor host store (nodeObjectId host (rootPayload host children)) cursor =
      .ok { pageIndex := locatedAt host cursor (indexPages children), descriptor := descriptorOf host page } := by
  have inner := locateChildren_ok nonempty (fun child member => indexed.storedTree member) (Nat.le_refl _)
    (fun child member => locateBelow_ok cursor (indexed.storedTree member) (Nat.le_refl _)) indexed.shape.ends 0 found
  unfold locateBlockRunIndexV5Descriptor
  rw [indexed.readRoot nonempty]
  simp only [Nat.zero_add] at inner
  exact inner

theorem descriptorAt (indexed : IndexTree host store rootNodeId children) {index : Nat}
    (found : (indexPages children)[index]? = some page) :
    readBlockRunIndexV5DescriptorAt host store (nodeObjectId host (rootPayload host children)) index =
      .ok (descriptorOf host page) := by
  have nonempty : children ≠ [] := by
    intro empty
    rw [empty] at found
    cases found
  have inner := descriptorChildren_ok (fun child member => indexed.storedTree member) (Nat.le_refl _)
    (fun child member => descriptorBelow_ok index (indexed.storedTree member) (Nat.le_refl _)) found
  unfold readBlockRunIndexV5DescriptorAt
  rw [indexed.readRoot nonempty]
  exact inner

end IndexTree

def retiredRoot (host : IndexHost) (children : List PageTree) : RetiredObject where
  objectId := nodeObjectId host (rootPayload host children)
  level := (blockRunIndexTreeDepth - 1 : Nat)
  first := pagesFirst (indexPages children)
  last := pagesLast (indexPages children)

def retiredPageOf (host : IndexHost) (page : BlockRunPage) : RetiredObject where
  objectId := pageObjectId host page
  level := -1
  first := firstCursor page
  last := lastCursor page

inductive Retired (host : IndexHost) : RetiredObject → Prop where
  | page (page : BlockRunPage) (filled : PageFilled page) : Retired host (retiredPageOf host page)
  | node (level : Nat) (tree : PageTree) (depth : level ≤ topLevel) (bounded : BoundedTree level tree) :
    Retired host (retiredNode host level tree)
  | root (children : List PageTree) : Retired host (retiredRoot host children)

structure IndexRebuilt (host : IndexHost) (children next : List PageTree) (build : TreeBuild) : Prop where
  root : build.rootNodeId = rootIdOf host next
  covered : next ≠ [] → ∀ payload ∈ rootPayloads host next,
    identified host payload ∈ build.nodes ∨ payload ∈ rootPayloads host children
  addressed : ∀ node ∈ build.nodes, ∃ payload, node = identified host payload ∧ treePayloadSchema payload = true
  retired : ∀ candidate ∈ build.retiredObjects, Retired host candidate ∧ 0 ≤ candidate.level ∧
    candidate.level ≤ (blockRunIndexTreeDepth - 1 : Nat)
  count : build.retiredObjects.length = blockRunIndexTreeDepth

def treeCapacityError : String := s!"Block run index v5 supports at most {blockRunIndexMaxPages} pages."

namespace IndexTree
variable {replacement : List BlockRunPage} {index : Nat}

theorem retiredRoot_ok (indexed : IndexTree host store rootNodeId children) (nonempty : children ≠ []) :
    retiredObjectForNode (identified host (rootPayload host children)) = .ok (retiredRoot host children) := by
  have reference : refForNode (identified host (rootPayload host children)) = _ :=
    refForChildren_ok _ nonempty indexed.shape.bounded
  unfold retiredObjectForNode
  rw [reference]
  rfl

def nextChildren (children : List PageTree) (index : Nat) (replacement : List BlockRunPage) : List PageTree :=
  match Parts.select (children.map fun child => (leaves topLevel child).length) index with
  | none => children
  | some (position, inner) =>
    match children[position]? with
    | none => children
    | some child =>
      Parts.splice children position (splice blockRunIndexTreeFanout topLevel child inner replacement)

theorem nextChildren_split {before after : List PageTree} {child : PageTree} {inner : Nat}
    (split : children = before ++ child :: after)
    (selected : Parts.select (children.map fun child => (leaves topLevel child).length) index = some (before.length, inner)) :
    nextChildren children index replacement =
      before ++ splice blockRunIndexTreeFanout topLevel child inner replacement ++ after := by
  have found : children[before.length]? = some child := by rw [split]; simp
  simp only [nextChildren, selected, found]
  rw [split, Parts.splice_middle]

theorem indexPages_nextChildren (inside : index < (indexPages children).length) :
    indexPages (nextChildren children index replacement) = Parts.splice (indexPages children) index replacement := by
  obtain ⟨_, _, _, _, split, selected, inner_lt, position⟩ := select_child inside
  rw [nextChildren_split split selected, position]
  unfold indexPages
  rw [split, map_append, map_append, flatten_append, flatten_append,
    leaves_splice blockRunIndexTreeFanout topLevel replacement inner_lt, ← Parts.splice_append _ _ _ inner_lt]
  simp

theorem bounded_nextChildren (short : replacement.length ≤ blockRunIndexTreeFanout + 1) (inside : index < (indexPages children).length)
    (bounded : ∀ child ∈ children, BoundedTree topLevel child) :
    ∀ child ∈ nextChildren children index replacement, BoundedTree topLevel child := by
  obtain ⟨_, child, _, _, split, selected, inner_lt, _⟩ := select_child inside
  rw [nextChildren_split split selected]
  intro piece member
  simp only [mem_append] at member
  rcases member with (front | middle) | back
  · exact bounded piece (by rw [split]; simp [front])
  · exact splice_bounded (by decide) topLevel short inner_lt (bounded child (by rw [split]; simp)) piece middle
  · exact bounded piece (by rw [split]; simp [back])

/-- The replacement cuts every node on the way to the page, and so asks for one more child of the full root. -/
def TreeTight (children : List PageTree) (count index : Nat) : Prop :=
  children.length = blockRunIndexTreeFanout ∧
    ∃ position inner child, Parts.select (children.map fun child => (leaves topLevel child).length) index =
        some (position, inner) ∧
      children[position]? = some child ∧ PathTight blockRunIndexTreeFanout count topLevel child inner

theorem overflows_iff (shape : IndexShape host children) (inside : index < (indexPages children).length) :
    blockRunIndexTreeFanout < (nextChildren children index replacement).length ↔
      TreeTight children replacement.length index := by
  obtain ⟨before, child, after, inner, split, selected, inner_lt, _⟩ := select_child inside
  have fits := shape.fits
  have pieces := splice_length_le blockRunIndexTreeFanout topLevel child inner replacement
  have two := splice_two_iff topLevel replacement inner_lt (shape.bounded child (by rw [split]; simp))
  have length : children.length = before.length + after.length + 1 := by
    rw [split, length_append, length_cons]
    omega
  have found : children[before.length]? = some child := by rw [split]; simp
  rw [nextChildren_split split selected]
  simp only [length_append]
  constructor
  · intro grown
    exact ⟨by omega, before.length, inner, child, selected, found, two.mp (by omega)⟩
  · rintro ⟨full, position, inner', child', selected', found', tight⟩
    obtain ⟨rfl, rfl⟩ := Prod.mk.inj (Option.some.inj (selected.symm.trans selected'))
    obtain rfl := Option.some.inj (found.symm.trans found')
    have doubled := two.mpr tight
    omega

theorem update (indexed : IndexTree host store rootNodeId children) (short : replacement.length ≤ blockRunIndexTreeFanout + 1)
    (replacement_filled : ∀ page ∈ replacement, PageFilled page) (inside : index < (indexPages children).length) :
    if blockRunIndexTreeFanout < (nextChildren children index replacement).length then
      updateBlockRunIndexV5Tree host store (nodeObjectId host (rootPayload host children)) index
        (replacement.map (descriptorOf host)) = .error treeCapacityError
    else ∃ build, updateBlockRunIndexV5Tree host store (nodeObjectId host (rootPayload host children)) index
        (replacement.map (descriptorOf host)) = .ok build ∧
      IndexRebuilt host children (nextChildren children index replacement) build := by
  obtain ⟨before, child, after, inner, split, selected, picked, inner_lt, _⟩ :=
    selectChildAt_ok index inside
  have member : child ∈ children := by rw [split]; simp
  have nonempty := ne_nil_of_mem member
  obtain ⟨update, updated, rebuilt⟩ :=
    updateBelow_ok index short replacement_filled (indexed.storedTree member) (Nat.le_refl _) inner inner_lt
  have next : nextChildren children index replacement = _ := nextChildren_split split picked
  have run : updateBlockRunIndexV5Tree host store (nodeObjectId host (rootPayload host children)) index
        (replacement.map (descriptorOf host)) =
      (do
        let refs := (nextChildren children index replacement).map (refOf host topLevel)
        let retiredObjects := retiredRoot host children :: update.retired
        if refs.length = 0 then return { rootNodeId := none, nodes := update.nodes, retiredObjects }
        if blockRunIndexTreeFanout < refs.length then throw treeCapacityError
        let next := rootNode host refs
        return { rootNodeId := some next.objectId, nodes := update.nodes ++ [next], retiredObjects }) := by
    unfold updateBlockRunIndexV5Tree
    rw [indexed.readRoot nonempty]
    show (selectChildAt index (children.map (refOf host topLevel)) index >>= _) = _
    rw [selected]
    show (readBlockRunIndexV5TreeNode host store (refOf host topLevel child).objectId >>= _) = _
    rw [(indexed.storedTree member).read (Nat.le_refl _)]
    show (updateBelow host store index _ topLevel (identified host (payloadOf host topLevel child)) inner >>= _) = _
    rw [updated]
    rw [indexed.retiredRoot_ok nonempty, next, ← updateChildren_ok split rebuilt]
    rfl
  have retired : ∀ candidate ∈ retiredRoot host children :: update.retired, Retired host candidate ∧ 0 ≤ candidate.level ∧
      candidate.level ≤ (blockRunIndexTreeDepth - 1 : Nat) := by
    intro candidate candidate_member
    rcases mem_cons.mp candidate_member with top | deeper
    · rw [top]
      exact ⟨.root children, Int.natCast_nonneg _, Int.le_refl _⟩
    · obtain ⟨level, tree, depth, bounded, same⟩ := rebuilt.retired candidate deeper
      rw [same]
      refine ⟨.node level tree depth bounded, Int.natCast_nonneg _, ?_⟩
      exact Int.ofNat_le.mpr (Nat.le_succ_of_le depth)
  have count : (retiredRoot host children :: update.retired).length = blockRunIndexTreeDepth := by
    rw [length_cons, rebuilt.count]
    rfl
  split
  · rename_i full
    rw [run]
    have filled : ¬ ((nextChildren children index replacement).map (refOf host topLevel)).length = 0 := by
      rw [length_map]
      omega
    rw [if_neg filled, if_pos (by rw [length_map]; exact full)]
    rfl
  · rename_i fits
    rw [run]
    by_cases empty : nextChildren children index replacement = []
    · refine ⟨{ rootNodeId := none, nodes := update.nodes, retiredObjects := retiredRoot host children :: update.retired },
        by rw [empty]; rfl, ?_⟩
      exact { root := by rw [empty]; rfl, covered := fun filled => absurd empty filled
              addressed := rebuilt.addressed, retired := retired, count := count }
    · have filled : ¬ ((nextChildren children index replacement).map (refOf host topLevel)).length = 0 := by
        rw [length_map]
        exact fun none => empty (length_eq_zero_iff.mp none)
      refine ⟨{ rootNodeId := some (nodeObjectId host (rootPayload host (nextChildren children index replacement)))
                nodes := update.nodes ++ [identified host (rootPayload host (nextChildren children index replacement))]
                retiredObjects := retiredRoot host children :: update.retired }, ?_, ?_⟩
      · rw [if_neg filled, if_neg (by rw [length_map]; exact fits)]
        rfl
      refine { root := ?_, covered := ?_, addressed := ?_, retired := retired, count := count }
      · rw [rootIdOf, if_neg empty]
      · intro _ payload found
        rcases mem_cons.mp found with top | deeper
        · rw [top]
          exact .inl (mem_append_right _ (by simp))
        have sources : ∀ item ∈ nextChildren children index replacement, item ∈
            before ++ splice blockRunIndexTreeFanout topLevel child inner replacement ++ after := by
          rw [next]
          exact fun _ listed => listed
        rcases covered_children split rebuilt sources payload deeper with new | old
        · exact .inl (mem_append_left _ new)
        · exact .inr (mem_cons_of_mem _ old)
      · intro node node_member
        rcases mem_append.mp node_member with old | new
        · exact rebuilt.addressed node old
        rw [mem_singleton.mp new]
        refine ⟨_, rfl, ?_⟩
        have positive := length_pos_of_ne_nil empty
        have counts : ((nextChildren children index replacement).map (refOf host topLevel)).all
            (fun child => 0 < child.pageCount) = true :=
          refs_positive (bounded_nextChildren short inside indexed.shape.bounded)
        simp only [rootPayload, treePayloadSchema, length_map, Bool.and_eq_true, decide_eq_true_eq]
        exact ⟨⟨positive, Nat.not_lt.mp fits⟩, counts⟩

end IndexTree
end PlanWeave
