import PlanWeave.RunIndex.Shape

namespace PlanWeave
open LevelTree List
variable {host : IndexHost} {store : IndexStore} {level : Nat} {tree : PageTree} {page : BlockRunPage} {pages : List BlockRunPage}

structure StoredTree (host : IndexHost) (store : IndexStore) (level : Nat) (tree : PageTree) : Prop where
  bounded : BoundedTree level tree
  filled : ∀ page ∈ leaves level tree, PageFilled page
  nodes : NodesStored host store level tree

theorem StoredTree.read (stored : StoredTree host store level tree) (depth : level ≤ blockRunIndexTreeDepth - 2) :
    readBlockRunIndexV5TreeNode host store (refOf host level tree).objectId = .ok (identified host (payloadOf host level tree)) :=
  readTreeNode_ok (stored.nodes _ (payload_mem_payloads stored.bounded)) (schema_payloadOf stored.bounded stored.filled depth)

variable {children : List PageTree} {cursor : BlockRunLogicalCursor} {index : Nat}

theorem StoredTree.child (stored : StoredTree host store (level + 1) (.node children))
    {child : PageTree} (member : child ∈ children) : StoredTree host store level child where
  bounded := stored.bounded.2.2 child member
  filled := fun page inside => stored.filled page (mem_flatten.mpr ⟨_, mem_map_of_mem member, inside⟩)
  nodes := stored.nodes.child member

def reaches (host : IndexHost) (cursor : BlockRunLogicalCursor) (page : BlockRunPage) : Bool :=
  Upto host cursor (lastCursor page)

def locatedAt (host : IndexHost) (cursor : BlockRunLogicalCursor) (pages : List BlockRunPage) : Nat :=
  Parts.pick (reaches host cursor) pages

def EndsOrdered (host : IndexHost) (pages : List BlockRunPage) : Prop :=
  pages.Pairwise fun left right => Upto host (lastCursor left) (lastCursor right)

theorem EndsOrdered.reaches (ordered : EndsOrdered host pages) (cursor : BlockRunLogicalCursor) :
    pages.Pairwise fun left right => reaches host cursor left = true → reaches host cursor right = true := by
  refine ordered.imp ?_
  intro left right upto reached
  exact decide_eq_true ((of_decide_eq_true reached).trans upto)

theorem refs_pageCount (level : Nat) (children : List PageTree) :
    ((children.map (refOf host level)).map TreeChild.pageCount).sum = (children.map (leaves level)).flatten.length := by
  rw [length_flatten, map_map, map_map]
  rfl

theorem last_reaches (nonempty : pages ≠ []) :
    pages.getLast?.any (reaches host cursor) = decide (Upto host cursor (pagesLast pages)) := by
  obtain ⟨_, _, _, last_same⟩ := Parts.exists_ends nonempty
  simp [pagesLast, last_same, reaches]

theorem selectChild_ok (cursor : BlockRunLogicalCursor) (nonempty : children ≠ [])
    (bounded : ∀ child ∈ children, BoundedTree level child)
    (ordered : EndsOrdered host (children.map (leaves level)).flatten) :
    ∃ before child after, children = before ++ child :: after ∧
      selectChild host cursor (children.map (refOf host level)) =
        .ok ((before.map (leaves level)).flatten.length, refOf host level child) ∧
      locatedAt host cursor (children.map (leaves level)).flatten =
        (before.map (leaves level)).flatten.length + locatedAt host cursor (leaves level child) := by
  have parts_nonempty : children.map (leaves level) ≠ [] := fun empty => nonempty (map_eq_nil_iff.mp empty)
  obtain ⟨_, _, _, same, picked, position⟩ :=
    Parts.pick_split parts_nonempty (head_flatten_leaves bounded) (ordered.reaches cursor)
  obtain ⟨before, _, children_split, front_same, back_same⟩ := map_eq_append_iff.mp same
  obtain ⟨child, after, back_split, child_same, _⟩ := map_eq_cons_iff.mp back_same
  subst front_same child_same children_split back_split
  refine ⟨before, child, after, rfl, ?_, position⟩
  have selected : Parts.pick (fun child : TreeChild => decide (Upto host cursor child.last))
      ((before ++ child :: after).map (refOf host level)) = before.length := by
    rw [Parts.pick_map] at picked ⊢
    rw [length_map] at picked
    rw [← picked]
    refine Parts.pick_congr fun tree member => ?_
    exact (last_reaches (leaves_ne_nil (bounded tree member))).symm
  have found : ((before ++ child :: after).map (refOf host level))[before.length]? = some (refOf host level child) := by simp
  have preceding : (((before ++ child :: after).map (refOf host level)).take before.length) = before.map (refOf host level) := by
    simp
  simp only [selectChild, selected, found, preceding, refs_pageCount]

theorem locatedAt_lt (cursor : BlockRunLogicalCursor) (nonempty : pages ≠ []) : locatedAt host cursor pages < pages.length :=
  Parts.pick_lt nonempty

theorem getElem?_flatten_child {before after : List PageTree} {child : PageTree}
    (inside : index < (leaves level child).length) :
    ((before ++ child :: after).map (leaves level)).flatten[(before.map (leaves level)).flatten.length + index]? =
      (leaves level child)[index]? := by
  rw [map_append, flatten_append, getElem?_append_right (Nat.le_add_right _ _), Nat.add_sub_cancel_left,
    map_cons, flatten_cons, getElem?_append_left inside]

def Locates (host : IndexHost) (store : IndexStore) (cursor : BlockRunLogicalCursor) (level : Nat) (tree : PageTree) : Prop :=
  EndsOrdered host (leaves level tree) → ∀ pageIndex page, (leaves level tree)[locatedAt host cursor (leaves level tree)]? = some page →
    locateBelow host store cursor level (identified host (payloadOf host level tree)) pageIndex =
      .ok { pageIndex := pageIndex + locatedAt host cursor (leaves level tree), descriptor := descriptorOf host page }

theorem locateChildren_ok (nonempty : children ≠ [])
    (stored : ∀ child ∈ children, StoredTree host store level child) (depth : level ≤ blockRunIndexTreeDepth - 2)
    (locates : ∀ child ∈ children, Locates host store cursor level child)
    (ordered : EndsOrdered host (children.map (leaves level)).flatten) (pageIndex : Nat)
    (found : (children.map (leaves level)).flatten[locatedAt host cursor (children.map (leaves level)).flatten]? = some page) :
    (do
      let (preceding, child) ← selectChild host cursor (children.map (refOf host level))
      let below ← readBlockRunIndexV5TreeNode host store child.objectId
      locateBelow host store cursor level below (pageIndex + preceding)) =
      .ok { pageIndex := pageIndex + locatedAt host cursor (children.map (leaves level)).flatten,
            descriptor := descriptorOf host page } := by
  obtain ⟨_, child, _, split, selected, position⟩ :=
    selectChild_ok cursor nonempty (fun child member => (stored child member).bounded) ordered
  have member : child ∈ children := by rw [split]; simp
  have inner_ordered : EndsOrdered host (leaves level child) :=
    List.Pairwise.sublist (sublist_flatten_of_mem (mem_map_of_mem member)) ordered
  have inside : locatedAt host cursor (leaves level child) < _ := locatedAt_lt cursor (leaves_ne_nil (stored child member).bounded)
  rw [position, split, getElem?_flatten_child inside] at found
  rw [selected]
  show (readBlockRunIndexV5TreeNode host store (refOf host level child).objectId >>= _) = _
  rw [(stored child member).read depth]
  refine (locates child member inner_ordered _ page found).trans ?_
  rw [position, Nat.add_assoc]

theorem locateBelow_ok (cursor : BlockRunLogicalCursor) : ∀ {level : Nat} {tree : PageTree},
    StoredTree host store level tree → level ≤ blockRunIndexTreeDepth - 2 → Locates host store cursor level tree
  | 0, .leaf pages, _, _ => by
    intro _ pageIndex page found
    have selected : Parts.pick (fun descriptor : PageDescriptor => decide (Upto host cursor descriptor.last))
        (pages.map (descriptorOf host)) = locatedAt host cursor pages := Parts.pick_map _ _ _
    have at_page : (pages.map (descriptorOf host))[locatedAt host cursor pages]? = some (descriptorOf host page) := by
      rw [getElem?_map]
      exact congrArg (Option.map (descriptorOf host)) found
    simp only [locateBelow, identified, payloadOf, selected, at_page]
    rfl
  | 0, .node _, stored, _ => False.elim stored.bounded
  | level + 1, .leaf _, stored, _ => False.elim stored.bounded
  | level + 1, .node children, stored, depth => by
    intro ordered pageIndex page found
    have inner := locateChildren_ok stored.bounded.1 (fun child member => stored.child member) (Nat.le_of_succ_le depth)
      (fun child member => locateBelow_ok cursor (stored.child member) (Nat.le_of_succ_le depth)) ordered pageIndex found
    refine Eq.trans ?_ inner
    show (do
      if level + 1 ≠ level + 1 then throw "Block run index v5 internal tree level is invalid."
      let (preceding, child) ← selectChild host cursor (children.map (refOf host level))
      let below ← readBlockRunIndexV5TreeNode host store child.objectId
      locateBelow host store cursor level below (pageIndex + preceding)) = _
    rw [if_neg (fun different => different rfl)]

theorem selectChildAt_ok (pageIndex : Nat)
    (inside : index < (children.map (leaves level)).flatten.length) :
    ∃ before child after inner, children = before ++ child :: after ∧
      selectChildAt pageIndex (children.map (refOf host level)) index = .ok (before.length, refOf host level child, inner) ∧
      Parts.select (children.map fun child => (leaves level child).length) index = some (before.length, inner) ∧
      inner < (leaves level child).length ∧ index = (before.map (leaves level)).flatten.length + inner := by
  obtain ⟨before, child, after, inner, split, selected, inner_lt, position⟩ := select_child inside
  refine ⟨before, child, after, inner, split, ?_, selected, inner_lt, position⟩
  have counts : (children.map (refOf host level)).map TreeChild.pageCount = children.map fun child => (leaves level child).length := by
    rw [map_map]
    rfl
  have found : (children.map (refOf host level))[before.length]? = some (refOf host level child) := by simp [split]
  simp only [selectChildAt, counts, selected, found]

theorem descriptorChildren_ok {pageIndex : Nat}
    (stored : ∀ child ∈ children, StoredTree host store level child) (depth : level ≤ blockRunIndexTreeDepth - 2)
    (describes : ∀ child ∈ children, ∀ inner page, (leaves level child)[inner]? = some page →
      descriptorBelow host store pageIndex level (identified host (payloadOf host level child)) inner = .ok (descriptorOf host page))
    (found : (children.map (leaves level)).flatten[index]? = some page) :
    (do
      let (_, child, inner) ← selectChildAt pageIndex (children.map (refOf host level)) index
      let below ← readBlockRunIndexV5TreeNode host store child.objectId
      descriptorBelow host store pageIndex level below inner) = .ok (descriptorOf host page) := by
  obtain ⟨inside, _⟩ := List.getElem?_eq_some_iff.mp found
  obtain ⟨_, child, _, inner, split, selected, _, inner_lt, position⟩ := selectChildAt_ok pageIndex inside
  have member : child ∈ children := by rw [split]; simp
  rw [position, split, getElem?_flatten_child inner_lt] at found
  rw [selected]
  show (readBlockRunIndexV5TreeNode host store (refOf host level child).objectId >>= _) = _
  rw [(stored child member).read depth]
  exact describes child member inner page found

theorem descriptorBelow_ok (pageIndex : Nat) : ∀ {level : Nat} {tree : PageTree},
    StoredTree host store level tree → level ≤ blockRunIndexTreeDepth - 2 →
    ∀ remaining page, (leaves level tree)[remaining]? = some page →
    descriptorBelow host store pageIndex level (identified host (payloadOf host level tree)) remaining =
      .ok (descriptorOf host page)
  | 0, .leaf pages, _, _ => by
    intro remaining page found
    have at_page : (pages.map (descriptorOf host))[remaining]? = some (descriptorOf host page) := by
      rw [getElem?_map]
      exact congrArg (Option.map (descriptorOf host)) found
    simp only [descriptorBelow, identified, payloadOf, at_page]
  | 0, .node _, stored, _ => False.elim stored.bounded
  | level + 1, .leaf _, stored, _ => False.elim stored.bounded
  | level + 1, .node children, stored, depth => by
    intro remaining page found
    have inner := descriptorChildren_ok (fun child member => stored.child member) (Nat.le_of_succ_le depth)
      (fun child member => descriptorBelow_ok pageIndex (stored.child member) (Nat.le_of_succ_le depth)) found
    refine Eq.trans ?_ inner
    show (do
      if level + 1 ≠ level + 1 then throw "Block run index v5 internal tree level is invalid."
      let (_, child, inner) ← selectChildAt pageIndex (children.map (refOf host level)) remaining
      let below ← readBlockRunIndexV5TreeNode host store child.objectId
      descriptorBelow host store pageIndex level below inner) = _
    rw [if_neg (fun different => different rfl)]

def retiredNode (host : IndexHost) (level : Nat) (tree : PageTree) : RetiredObject where
  objectId := nodeObjectId host (payloadOf host level tree)
  level := level
  first := pagesFirst (leaves level tree)
  last := pagesLast (leaves level tree)

theorem retiredObjectForNode_ok (bounded : BoundedTree level tree) :
    retiredObjectForNode (identified host (payloadOf host level tree)) = .ok (retiredNode host level tree) := by
  unfold retiredObjectForNode
  rw [refForNode_ok bounded]
  rw [show nodeLevel (identified host (payloadOf host level tree)).payload = level from nodeLevel_payloadOf bounded]
  rfl

theorem nodeGroups_ok {α β : Type} {make : List α → Except String TreeNode} {parts : List β} {group : β → List α}
    {piece : β → PageTree}
    (made : ∀ part ∈ parts, make (group part) = .ok (identified host (payloadOf host level (piece part))))
    (bounded : ∀ part ∈ parts, BoundedTree level (piece part)) :
    nodeGroups make (parts.map group) = .ok (parts.map fun part => identified host (payloadOf host level (piece part)),
      parts.map fun part => refOf host level (piece part)) := by
  unfold nodeGroups
  have nodes : (parts.map group).mapM make = .ok (parts.map fun part => identified host (payloadOf host level (piece part))) := by
    rw [mapM_map]
    exact Checked.mapM_of_all made
  have refs : (parts.map fun part => identified host (payloadOf host level (piece part))).mapM refForNode =
      .ok (parts.map fun part => refOf host level (piece part)) := by
    rw [mapM_map]
    exact Checked.mapM_of_all fun part member => refForNode_ok (bounded part member)
  rw [nodes]
  show ((parts.map fun part => identified host (payloadOf host level (piece part))).mapM refForNode >>= _) = _
  rw [refs]
  rfl

structure Rebuilt (host : IndexHost) (level : Nat) (tree : PageTree) (pieces : List PageTree) (update : PathUpdate) : Prop where
  refs : update.refs = pieces.map (refOf host level)
  covered : ∀ piece ∈ pieces, ∀ payload ∈ payloads host level piece,
    identified host payload ∈ update.nodes ∨ payload ∈ payloads host level tree
  addressed : ∀ node ∈ update.nodes, ∃ payload, node = identified host payload ∧ treePayloadSchema payload = true
  retired : ∀ candidate ∈ update.retired, ∃ below subtree, below ≤ level ∧ BoundedTree below subtree ∧
    candidate = retiredNode host below subtree
  count : update.retired.length = level + 1

theorem internalNode_ok (bounded : BoundedTree (level + 1) (.node children))
    (filled : ∀ page ∈ leaves (level + 1) (.node children), PageFilled page) (depth : level + 1 ≤ blockRunIndexTreeDepth - 2) :
    internalNode host (level + 1) (children.map (refOf host level)) =
      .ok (identified host (payloadOf host (level + 1) (.node children))) := by
  have schema : treePayloadSchema (payloadOf host (level + 1) (.node children)) = true := schema_payloadOf bounded filled depth
  exact if_pos schema

section Update
variable {replacement : List BlockRunPage} (pageIndex : Nat)

theorem mem_leaves_splice {index : Nat} (inside : index < (leaves level tree).length) {piece : PageTree}
    (member : piece ∈ splice blockRunIndexTreeFanout level tree index replacement) :
    ∀ page ∈ leaves level piece, page ∈ leaves level tree ∨ page ∈ replacement := by
  intro page found
  have source : page ∈ Parts.splice (leaves level tree) index replacement := by
    rw [← leaves_splice blockRunIndexTreeFanout level replacement inside]
    exact mem_flatten.mpr ⟨_, mem_map_of_mem member, found⟩
  simp only [Parts.splice, mem_append] at source
  rcases source with (front | middle) | back
  · exact .inl (mem_of_mem_take front)
  · exact .inr middle
  · exact .inl (mem_of_mem_drop back)

variable {remaining : Nat} {children before after pieces : List PageTree} {update : PathUpdate}

theorem updateLeaf_ok (short : replacement.length ≤ blockRunIndexTreeFanout + 1) (replacement_filled : ∀ page ∈ replacement, PageFilled page)
    (stored : StoredTree host store 0 (.leaf pages)) (inside : remaining < pages.length) :
    ∃ update, updateBelow host store pageIndex (replacement.map (descriptorOf host)) 0
        (identified host (payloadOf host 0 (.leaf pages))) remaining = .ok update ∧
      Rebuilt host 0 (.leaf pages) (splice blockRunIndexTreeFanout 0 (.leaf pages) remaining replacement) update := by
  have bounded := splice_bounded (by decide) 0 short inside stored.bounded
  have groups : Parts.overflow blockRunIndexTreeFanout
      (Parts.splice (pages.map (descriptorOf host)) remaining (replacement.map (descriptorOf host))) =
      (Parts.overflow blockRunIndexTreeFanout (Parts.splice pages remaining replacement)).map (List.map (descriptorOf host)) := by
    rw [Parts.splice_map, Parts.overflow_map]
  have made : nodeGroups (fun group => .ok (leafNode host group))
      ((Parts.overflow blockRunIndexTreeFanout (Parts.splice pages remaining replacement)).map (List.map (descriptorOf host))) =
      .ok ((Parts.overflow blockRunIndexTreeFanout (Parts.splice pages remaining replacement)).map
          fun part => identified host (payloadOf host 0 (.leaf part)),
        (Parts.overflow blockRunIndexTreeFanout (Parts.splice pages remaining replacement)).map
          fun part => refOf host 0 (.leaf part)) :=
    nodeGroups_ok (fun _ _ => rfl) fun part member => bounded _ (mem_map_of_mem member)
  refine ⟨⟨(Parts.overflow blockRunIndexTreeFanout (Parts.splice pages remaining replacement)).map
      fun part => refOf host 0 (.leaf part), (Parts.overflow blockRunIndexTreeFanout (Parts.splice pages remaining replacement)).map
      fun part => identified host (payloadOf host 0 (.leaf part)), [retiredNode host 0 (.leaf pages)]⟩, ?_, ?_⟩
  · show (retiredObjectForNode (identified host (payloadOf host 0 (.leaf pages))) >>= _) = _
    rw [retiredObjectForNode_ok stored.bounded]
    show (nodeGroups (fun group => .ok (leafNode host group)) (Parts.overflow blockRunIndexTreeFanout
      (Parts.splice (pages.map (descriptorOf host)) remaining (replacement.map (descriptorOf host)))) >>= _) = _
    rw [groups, made]
    rfl
  · constructor
    case refs => simp [splice, map_map, Function.comp_def]
    case covered =>
      intro piece member payload inner
      obtain ⟨_, part_member, rfl⟩ := mem_map.mp member
      rw [mem_singleton.mp inner]
      exact .inl (mem_map_of_mem part_member)
    case addressed =>
      intro node member
      obtain ⟨part, part_member, rfl⟩ := mem_map.mp member
      refine ⟨_, rfl, schema_payloadOf (bounded _ (mem_map_of_mem part_member)) ?_ (by decide)⟩
      intro page found
      have piece_member : .leaf part ∈ splice blockRunIndexTreeFanout 0 (.leaf pages) remaining replacement :=
        mem_map_of_mem part_member
      rcases mem_leaves_splice inside piece_member page found with old | new
      · exact stored.filled page old
      · exact replacement_filled page new
    case retired =>
      intro candidate member
      exact ⟨0, .leaf pages, Nat.le_refl 0, stored.bounded, mem_singleton.mp member⟩
    case count => rfl

theorem updateChildren_ok {child : PageTree}
    (split : children = before ++ child :: after) (rebuilt : Rebuilt host level child pieces update) :
    Parts.splice (children.map (refOf host level)) before.length update.refs =
      (before ++ pieces ++ after).map (refOf host level) := by
  rw [rebuilt.refs, Parts.splice_map, split, Parts.splice_middle]

theorem covered_children {child : PageTree}
    (split : children = before ++ child :: after) (rebuilt : Rebuilt host level child pieces update) {part : List PageTree}
    (inside : ∀ item ∈ part, item ∈ before ++ pieces ++ after) :
    ∀ payload ∈ (part.map (payloads host level)).flatten,
      identified host payload ∈ update.nodes ∨ payload ∈ (children.map (payloads host level)).flatten := by
  intro payload found
  obtain ⟨_, group_member, found⟩ := mem_flatten.mp found
  obtain ⟨item, item_member, rfl⟩ := mem_map.mp group_member
  have kept : ∀ other ∈ children, payload ∈ payloads host level other → payload ∈ (children.map (payloads host level)).flatten :=
    fun other member listed => mem_flatten.mpr ⟨_, mem_map_of_mem member, listed⟩
  have source := inside item item_member
  simp only [mem_append] at source
  rcases source with (front | middle) | back
  · exact .inr (kept item (by rw [split]; simp [front]) found)
  · rcases rebuilt.covered item middle payload found with new | old
    · exact .inl new
    · exact .inr (kept child (by rw [split]; simp) old)
  · exact .inr (kept item (by rw [split]; simp [back]) found)

theorem updateNode_ok (short : replacement.length ≤ blockRunIndexTreeFanout + 1) (replacement_filled : ∀ page ∈ replacement, PageFilled page)
    (stored : StoredTree host store (level + 1) (.node children))
    (depth : level + 1 ≤ blockRunIndexTreeDepth - 2) (inside : remaining < (children.map (leaves level)).flatten.length)
    (updates : ∀ child ∈ children, ∀ inner, inner < (leaves level child).length →
      ∃ update, updateBelow host store pageIndex (replacement.map (descriptorOf host)) level
          (identified host (payloadOf host level child)) inner = .ok update ∧
        Rebuilt host level child (splice blockRunIndexTreeFanout level child inner replacement) update) :
    ∃ update, updateBelow host store pageIndex (replacement.map (descriptorOf host)) (level + 1)
        (identified host (payloadOf host (level + 1) (.node children))) remaining = .ok update ∧
      Rebuilt host (level + 1) (.node children)
        (splice blockRunIndexTreeFanout (level + 1) (.node children) remaining replacement) update := by
  have bounded := splice_bounded (by decide) (level + 1) short inside stored.bounded
  have sources : ∀ piece ∈ splice blockRunIndexTreeFanout (level + 1) (.node children) remaining replacement,
      ∀ page ∈ leaves (level + 1) piece, PageFilled page := by
    intro piece member page found
    rcases mem_leaves_splice inside member page found with old | new
    · exact stored.filled page old
    · exact replacement_filled page new
  obtain ⟨before, child, after, inner, split, selected, picked, inner_lt, _⟩ := selectChildAt_ok pageIndex inside
  have member : child ∈ children := by rw [split]; simp
  obtain ⟨update, updated, rebuilt⟩ := updates child member inner inner_lt
  have pieces : splice blockRunIndexTreeFanout (level + 1) (.node children) remaining replacement =
      (Parts.overflow blockRunIndexTreeFanout
        (before ++ splice blockRunIndexTreeFanout level child inner replacement ++ after)).map .node := by
    rw [split] at picked ⊢
    exact splice_child picked replacement
  rw [pieces] at bounded sources ⊢
  have made : nodeGroups (internalNode host (level + 1))
      ((Parts.overflow blockRunIndexTreeFanout
        (before ++ splice blockRunIndexTreeFanout level child inner replacement ++ after)).map (List.map (refOf host level))) = _ :=
    nodeGroups_ok (fun part part_member => internalNode_ok (bounded _ (mem_map_of_mem part_member))
      (sources _ (mem_map_of_mem part_member)) depth) fun part part_member => bounded _ (mem_map_of_mem part_member)
  refine ⟨⟨(Parts.overflow blockRunIndexTreeFanout
        (before ++ splice blockRunIndexTreeFanout level child inner replacement ++ after)).map
        fun part => refOf host (level + 1) (.node part),
      update.nodes ++ (Parts.overflow blockRunIndexTreeFanout
        (before ++ splice blockRunIndexTreeFanout level child inner replacement ++ after)).map
        fun part => identified host (payloadOf host (level + 1) (.node part)),
      retiredNode host (level + 1) (.node children) :: update.retired⟩, ?_, ?_⟩
  · show (if level + 1 ≠ level + 1 then _ else _) = _
    rw [if_neg (fun different => different rfl)]
    show (selectChildAt pageIndex (children.map (refOf host level)) remaining >>= _) = _
    rw [selected]
    show (readBlockRunIndexV5TreeNode host store (refOf host level child).objectId >>= _) = _
    rw [(stored.child member).read (Nat.le_of_succ_le depth)]
    show (updateBelow host store pageIndex _ level (identified host (payloadOf host level child)) inner >>= _) = _
    rw [updated]
    rw [retiredObjectForNode_ok stored.bounded]
    show (nodeGroups (internalNode host (level + 1)) (Parts.overflow blockRunIndexTreeFanout
      (Parts.splice (children.map (refOf host level)) before.length update.refs)) >>= _) = _
    rw [updateChildren_ok split rebuilt, Parts.overflow_map, made]
    rfl
  · constructor
    case refs => simp [map_map, Function.comp_def]
    case covered =>
      intro piece piece_member payload found
      obtain ⟨part, part_member, rfl⟩ := mem_map.mp piece_member
      rcases mem_cons.mp found with top | deeper
      · rw [top]
        exact .inl (mem_append_right _ (mem_map_of_mem part_member))
      have parts_inside : ∀ item ∈ part, item ∈
          before ++ splice blockRunIndexTreeFanout level child inner replacement ++ after := by
        intro item item_member
        rw [← Parts.overflow_flatten blockRunIndexTreeFanout (before ++ _ ++ after)]
        exact mem_flatten.mpr ⟨part, part_member, item_member⟩
      rcases covered_children split rebuilt parts_inside payload deeper with new | old
      · exact .inl (mem_append_left _ new)
      · exact .inr (mem_cons_of_mem _ old)
    case addressed =>
      intro node node_member
      rcases mem_append.mp node_member with old | new
      · exact rebuilt.addressed node old
      · obtain ⟨_, part_member, rfl⟩ := mem_map.mp new
        exact ⟨_, rfl, schema_payloadOf (bounded _ (mem_map_of_mem part_member))
          (sources _ (mem_map_of_mem part_member)) depth⟩
    case retired =>
      intro candidate candidate_member
      rcases mem_cons.mp candidate_member with top | deeper
      · exact ⟨level + 1, .node children, Nat.le_refl _, stored.bounded, top⟩
      · obtain ⟨below, subtree, bound, subtree_bounded, same⟩ := rebuilt.retired candidate deeper
        exact ⟨below, subtree, Nat.le_succ_of_le bound, subtree_bounded, same⟩
    case count => rw [length_cons, rebuilt.count]

theorem updateBelow_ok (short : replacement.length ≤ blockRunIndexTreeFanout + 1) (replacement_filled : ∀ page ∈ replacement, PageFilled page) :
    ∀ {level : Nat} {tree : PageTree}, StoredTree host store level tree → level ≤ blockRunIndexTreeDepth - 2 →
    ∀ remaining, remaining < (leaves level tree).length →
    ∃ update, updateBelow host store pageIndex (replacement.map (descriptorOf host)) level
        (identified host (payloadOf host level tree)) remaining = .ok update ∧
      Rebuilt host level tree (splice blockRunIndexTreeFanout level tree remaining replacement) update
  | 0, .leaf _, stored, _ => fun _ inside => updateLeaf_ok pageIndex short replacement_filled stored inside
  | 0, .node _, stored, _ => False.elim stored.bounded
  | _ + 1, .leaf _, stored, _ => False.elim stored.bounded
  | _ + 1, .node _, stored, depth => fun _ inside =>
    updateNode_ok pageIndex short replacement_filled stored depth inside fun _ member =>
      updateBelow_ok short replacement_filled (stored.child member) (Nat.le_of_succ_le depth)

end Update
end PlanWeave
