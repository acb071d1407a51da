import PlanWeave.RunIndex.IndexTree

namespace PlanWeave
open LevelTree List
variable {host : IndexHost} {store : IndexStore} {level : Nat} {tree : PageTree} {page : BlockRunPage} {pages : List BlockRunPage}
  {children : List PageTree} {rootNodeId : Option String} {candidate : RetiredObject}

theorem assertDescriptorOrder_ok (ordered : Chronological host pages.flatten) (filled : ∀ page ∈ pages, page ≠ []) :
    assertDescriptorOrder host (pages.map (descriptorOf host)) = .ok () := by
  have ranges : (pages.map (descriptorOf host)).any (fun descriptor => !decide (Upto host descriptor.first descriptor.last)) = false := by
    rw [any_eq_false]
    intro descriptor member
    obtain ⟨page, page_member, rfl⟩ := mem_map.mp member
    obtain ⟨_, entry_member, same⟩ := lastCursor_mem (filled page page_member)
    have upto : Upto host (firstCursor page) (lastCursor page) := by
      rw [← same]
      exact first_upto (ordered.of_page page_member) entry_member
    show ¬ (!decide (Upto host (firstCursor page) (lastCursor page))) = true
    rw [decide_eq_true upto]
    decide
  have adjacent : ((pages.map (descriptorOf host)).zip (pages.map (descriptorOf host)).tail).any
      (fun pair => !decide (Upto host pair.1.last pair.2.first)) = false := by
    clear ranges
    induction pages with
    | nil => rfl
    | cons page rest ih =>
      cases rest with
      | nil => rfl
      | cons next =>
        have parts := pairwise_append.mp ordered
        obtain ⟨left, left_member, left_same⟩ := lastCursor_mem (filled page (by simp))
        obtain ⟨right, right_member, right_same⟩ := firstCursor_mem (filled next (by simp))
        have upto : Upto host (lastCursor page) (firstCursor next) := by
          rw [← left_same, ← right_same]
          exact parts.2.2 left left_member right (mem_flatten.mpr ⟨next, by simp, right_member⟩)
        have later := ih parts.2.1 fun other member => filled other (mem_cons_of_mem _ member)
        simp only [map_cons, tail_cons, zip_cons_cons, any_cons, Bool.or_eq_false_iff]
        refine ⟨?_, later⟩
        show (!decide (Upto host (lastCursor page) (firstCursor next))) = false
        rw [decide_eq_true upto]
        rfl
  unfold assertDescriptorOrder
  rw [ranges, adjacent]
  rfl

theorem sameCursorPosition_self (cursor : BlockRunLogicalCursor) : sameCursorPosition host cursor cursor = true := by
  unfold sameCursorPosition
  rw [@Std.ReflCmp.compare_self _ (compareBlockRunChronology host)]
  rfl

theorem assertChildClosure_ok (nonempty : leaves level tree ≠ []) :
    assertChildClosure host (refOf host level tree) ((leaves level tree).map (descriptorOf host)) = .ok () := by
  obtain ⟨_, _, first_same, last_same⟩ := Parts.exists_ends nonempty
  simp [assertChildClosure, refOf, childRef, pagesFirst, pagesLast, first_same, last_same, descriptorOf, sameCursorPosition_self]

theorem collectChildren_ok {collect : String → Except String (List PageDescriptor × List String)}
    (nonempty : ∀ child ∈ children, leaves level child ≠ [])
    (collects : ∀ child ∈ children, collect (refOf host level child).objectId =
      .ok ((leaves level child).map (descriptorOf host), (payloads host level child).map (nodeObjectId host)))
    (ordered : Chronological host (children.map (leaves level)).flatten.flatten)
    (filled : ∀ page ∈ (children.map (leaves level)).flatten, page ≠ []) :
    collectChildren host collect (children.map (refOf host level)) =
      .ok ((children.map (leaves level)).flatten.map (descriptorOf host),
        (children.map (payloads host level)).flatten.map (nodeObjectId host)) := by
  have nested : (children.map (refOf host level)).mapM (fun child => do
      let below ← collect child.objectId
      assertChildClosure host child below.1
      return below) = Except.ok (children.map fun child =>
        ((leaves level child).map (descriptorOf host), (payloads host level child).map (nodeObjectId host))) := by
    rw [mapM_map]
    refine Checked.mapM_of_all fun child member => ?_
    show (collect (refOf host level child).objectId >>= _) = _
    rw [collects child member]
    show (assertChildClosure host _ ((leaves level child).map (descriptorOf host)) >>= _) = _
    rw [assertChildClosure_ok (nonempty child member)]
    rfl
  have descriptors : (((children.map fun child =>
      ((leaves level child).map (descriptorOf host), (payloads host level child).map (nodeObjectId host))).map Prod.fst)).flatten =
      (children.map (leaves level)).flatten.map (descriptorOf host) := by
    rw [map_map, map_flatten, map_map]
    rfl
  have nodes : (((children.map fun child =>
      ((leaves level child).map (descriptorOf host), (payloads host level child).map (nodeObjectId host))).map Prod.snd)).flatten =
      (children.map (payloads host level)).flatten.map (nodeObjectId host) := by
    rw [map_map, map_flatten, map_map]
    rfl
  unfold collectChildren
  rw [nested]
  show (assertDescriptorOrder host _ >>= _) = _
  rw [descriptors, assertDescriptorOrder_ok ordered filled, ← nodes]
  rfl

theorem collectDescriptors_ok : ∀ {level : Nat} {tree : PageTree}, StoredTree host store level tree →
    level ≤ blockRunIndexTreeDepth - 2 → Chronological host (leaves level tree).flatten →
    collectDescriptors host store level (refOf host level tree).objectId =
      .ok ((leaves level tree).map (descriptorOf host), (payloads host level tree).map (nodeObjectId host))
  | 0, .leaf pages, stored, depth, ordered => by
    unfold collectDescriptors
    rw [stored.read depth]
    have checked : assertDescriptorOrder host (pages.map (descriptorOf host)) = .ok () :=
      assertDescriptorOrder_ok ordered fun page member => (stored.filled page member).1
    show (assertDescriptorOrder host (pages.map (descriptorOf host)) >>= _) = _
    rw [checked]
    rfl
  | 0, .node _, stored, _, _ => False.elim stored.bounded
  | _ + 1, .leaf _, stored, _, _ => False.elim stored.bounded
  | level + 1, .node children, stored, depth, ordered => by
    have below : ∀ child ∈ children, collectDescriptors host store level (refOf host level child).objectId =
        .ok ((leaves level child).map (descriptorOf host), (payloads host level child).map (nodeObjectId host)) := by
      intro child member
      refine collectDescriptors_ok (stored.child member) (Nat.le_of_succ_le depth) ?_
      refine List.Pairwise.sublist ?_ ordered
      exact List.Sublist.flatten (sublist_flatten_of_mem (mem_map_of_mem member))
    have inner := collectChildren_ok (fun child member => leaves_ne_nil (stored.child member).bounded) below ordered
      fun page member => (stored.filled page member).1
    unfold collectDescriptors
    rw [stored.read depth]
    show (if level + 1 ≠ level + 1 then _ else _) = _
    rw [if_neg (fun different => different rfl)]
    show (collectChildren host (collectDescriptors host store level) (children.map (refOf host level)) >>= _) = _
    rw [inner]
    rfl

theorem IndexTree.collect (indexed : IndexTree host store rootNodeId children) :
    readAllBlockRunIndexV5Descriptors host store rootNodeId = .ok ((indexPages children).map (descriptorOf host),
      if children = [] then [] else (rootPayloads host children).map (nodeObjectId host)) := by
  by_cases empty : children = []
  · subst empty
    rw [indexed.rootId_empty]
    rfl
  · have below : ∀ child ∈ children, collectDescriptors host store topLevel (refOf host topLevel child).objectId =
        .ok ((leaves topLevel child).map (descriptorOf host), (payloads host topLevel child).map (nodeObjectId host)) := by
      intro child member
      refine collectDescriptors_ok (indexed.storedTree member) (Nat.le_refl _) ?_
      refine List.Pairwise.sublist ?_ indexed.shape.ordered
      exact List.Sublist.flatten (sublist_flatten_of_mem (mem_map_of_mem member))
    have inner := collectChildren_ok (fun child member => leaves_ne_nil (indexed.shape.bounded child member)) below
      indexed.shape.ordered fun page member => (indexed.shape.filled page member).1
    rw [indexed.rootId empty, if_neg empty]
    unfold readAllBlockRunIndexV5Descriptors
    simp only [indexed.readRoot empty]
    show (collectChildren host (collectDescriptors host store topLevel) (children.map (refOf host topLevel)) >>= _) = _
    rw [inner]
    rfl

def payloadsBelow (host : IndexHost) : Nat → PageTree → List TreePayload
  | level + 1, .node children => (children.map (payloads host level)).flatten
  | _, _ => []

/-- The object stands strictly below a node: as a page, or as a node. -/
def StandsBelow (host : IndexHost) (level : Nat) (tree : PageTree) (candidate : RetiredObject) : Prop :=
  (candidate.level = -1 ∧ ∃ page ∈ leaves level tree, pageObjectId host page = candidate.objectId) ∨
    (0 ≤ candidate.level ∧ ∃ payload ∈ payloadsBelow host level tree, nodeObjectId host payload = candidate.objectId)

theorem payloads_subtree : ∀ {level : Nat} {tree : PageTree}, BoundedTree level tree →
    ∀ payload ∈ payloads host level tree, ∃ below subtree, BoundedTree below subtree ∧ payload = payloadOf host below subtree ∧
      (∀ page ∈ leaves below subtree, page ∈ leaves level tree) ∧
      (payload = payloadOf host level tree ∨ below < level)
  | 0, tree, bounded => by
    intro payload member
    rw [mem_singleton.mp member]
    exact ⟨0, tree, bounded, rfl, fun _ found => found, .inl rfl⟩
  | _ + 1, .leaf _, bounded => False.elim bounded
  | level + 1, .node children, bounded => by
    intro payload member
    rcases mem_cons.mp member with top | deeper
    · exact ⟨level + 1, .node children, bounded, top, fun _ found => found, .inl top⟩
    obtain ⟨_, group_member, inside⟩ := mem_flatten.mp deeper
    obtain ⟨child, child_member, rfl⟩ := mem_map.mp group_member
    obtain ⟨below, subtree, subtree_bounded, same, pages_inside, position⟩ :=
      payloads_subtree (bounded.2.2 child child_member) payload inside
    refine ⟨below, subtree, subtree_bounded, same, ?_, .inr ?_⟩
    · intro page found
      exact mem_flatten.mpr ⟨_, mem_map_of_mem child_member, pages_inside page found⟩
    rcases position with top | _
    · have levels := congrArg nodeLevel (same.symm.trans top)
      rw [nodeLevel_payloadOf subtree_bounded, nodeLevel_payloadOf (bounded.2.2 child child_member)] at levels
      omega
    · omega

variable {payload : TreePayload} {visit : String → Except String Bool}

theorem payloads_level (bounded : BoundedTree level tree) (member : payload ∈ payloads host level tree) :
    nodeLevel payload ≤ level := by
  obtain ⟨_, _, subtree_bounded, same, _, position⟩ := payloads_subtree bounded payload member
  rcases position with top | _
  · rw [top, nodeLevel_payloadOf bounded]
  · rw [same, nodeLevel_payloadOf subtree_bounded]
    omega

theorem payloadOf_ne_root (bounded : BoundedTree level tree) : payloadOf host level tree ≠ rootPayload host children := by
  cases level with
  | zero =>
    cases tree with
    | leaf => exact TreePayload.noConfusion
    | node => cases bounded
  | succ =>
    cases tree with
    | leaf => cases bounded
    | node => exact TreePayload.noConfusion

theorem Retired.level_eq (free : host.CollisionFree) (retired : Retired host candidate) (node : 0 ≤ candidate.level)
    (same : nodeObjectId host payload = candidate.objectId) : candidate.level = nodeLevel payload := by
  cases retired with
  | page => exact absurd node (show ¬ (0 : Int) ≤ -1 by decide)
  | node _ _ _ bounded =>
    rw [nodeObjectId_injective free same, nodeLevel_payloadOf bounded]
    rfl
  | root =>
    rw [nodeObjectId_injective free same]
    rfl

theorem Retired.level_nonneg (retired : Retired host candidate) (other : candidate.level ≠ -1) : 0 ≤ candidate.level := by
  cases retired with
  | page => exact absurd rfl other
  | node level => exact Int.natCast_nonneg level
  | root => exact Int.natCast_nonneg _

theorem Retired.contained (free : host.CollisionFree) (retired : Retired host candidate) (bounded : BoundedTree level tree)
    (filled : ∀ page ∈ leaves level tree, PageFilled page)
    (ordered : Chronological host (leaves level tree).flatten) (stands : StandsBelow host level tree candidate ∨
      (0 ≤ candidate.level ∧ ∃ payload ∈ payloads host level tree, nodeObjectId host payload = candidate.objectId)) :
    rangeContains host (refOf host level tree) candidate = true := by
  have nonempty : ∀ page ∈ leaves level tree, page ≠ [] := fun page member => (filled page member).1
  have spans : ∀ first ∈ leaves level tree, ∀ last ∈ leaves level tree, candidate.first = firstCursor first →
      candidate.last = lastCursor last → rangeContains host (refOf host level tree) candidate = true := by
    intro first first_member last last_member first_same last_same
    unfold rangeContains
    rw [first_same, last_same, Bool.and_eq_true, decide_eq_true_eq, decide_eq_true_eq]
    exact ⟨pagesFirst_upto ordered nonempty first_member, upto_pagesLast ordered nonempty last_member⟩
  have as_node : 0 ≤ candidate.level → ∀ payload ∈ payloads host level tree, nodeObjectId host payload = candidate.objectId →
      rangeContains host (refOf host level tree) candidate = true := by
    intro node payload member same
    obtain ⟨_, _, subtree_bounded, payload_same, pages_inside, _⟩ := payloads_subtree bounded payload member
    obtain ⟨first, last, first_same, last_same⟩ := Parts.exists_ends (leaves_ne_nil subtree_bounded)
    cases retired with
    | page => exact absurd node (show ¬ (0 : Int) ≤ -1 by decide)
    | root =>
      have payloads_same := nodeObjectId_injective free same
      rw [payload_same] at payloads_same
      exact absurd payloads_same (payloadOf_ne_root subtree_bounded)
    | node _ _ _ other_bounded =>
      have payloads_same := nodeObjectId_injective free same
      rw [payload_same] at payloads_same
      obtain ⟨range_first, range_last⟩ := range_of_payload subtree_bounded other_bounded payloads_same
      refine spans first (pages_inside first (mem_of_head? first_same)) last
        (pages_inside last (mem_of_getLast? last_same)) ?_ ?_
      · show pagesFirst _ = _
        rw [← range_first, pagesFirst, first_same]
        rfl
      · show pagesLast _ = _
        rw [← range_last, pagesLast, last_same]
        rfl
  rcases stands with (⟨is_page, page, member, same⟩ | ⟨node, payload, member, same⟩) | ⟨node, payload, member, same⟩
  · cases retired with
    | page other =>
      have pages_same : page = other := pageObjectId_injective free same
      subst pages_same
      exact spans page member page member rfl rfl
    | node other_level => exact absurd is_page (by show (other_level : Int) ≠ -1; omega)
    | root => exact absurd is_page (show (4 : Int) ≠ -1 by decide)
  · refine as_node node payload ?_ same
    cases level with
    | zero => cases member
    | succ =>
      cases tree with
      | leaf => cases bounded
      | node => exact mem_cons_of_mem _ member
  · exact as_node node payload member same

def StandsAmong (host : IndexHost) (level : Nat) (children : List PageTree) (candidate : RetiredObject) : Prop :=
  (candidate.level = -1 ∧ ∃ page ∈ (children.map (leaves level)).flatten, pageObjectId host page = candidate.objectId) ∨
    (0 ≤ candidate.level ∧ ∃ payload ∈ (children.map (payloads host level)).flatten,
      nodeObjectId host payload = candidate.objectId)

theorem standsAmong_iff : StandsAmong host level children candidate ↔
    ∃ child ∈ children, StandsBelow host level child candidate ∨
      (0 ≤ candidate.level ∧ ∃ payload ∈ payloads host level child, nodeObjectId host payload = candidate.objectId) := by
  constructor
  · rintro (⟨is_page, page, member, same⟩ | ⟨node, payload, member, same⟩)
    · obtain ⟨_, group_member, inside⟩ := mem_flatten.mp member
      obtain ⟨child, child_member, rfl⟩ := mem_map.mp group_member
      exact ⟨child, child_member, .inl (.inl ⟨is_page, page, inside, same⟩)⟩
    · obtain ⟨_, group_member, inside⟩ := mem_flatten.mp member
      obtain ⟨child, child_member, rfl⟩ := mem_map.mp group_member
      exact ⟨child, child_member, .inr ⟨node, payload, inside, same⟩⟩
  · rintro ⟨child, child_member, (⟨is_page, page, member, same⟩ | ⟨node, payload, member, same⟩) | ⟨node, payload, member, same⟩⟩
    · exact .inl ⟨is_page, page, mem_flatten.mpr ⟨_, mem_map_of_mem child_member, member⟩, same⟩
    · refine .inr ⟨node, payload, mem_flatten.mpr ⟨_, mem_map_of_mem child_member, ?_⟩, same⟩
      cases level with
      | zero => cases member
      | succ =>
        cases child with
        | leaf => cases member
        | node => exact mem_cons_of_mem _ member
    · exact .inr ⟨node, payload, mem_flatten.mpr ⟨_, mem_map_of_mem child_member, member⟩, same⟩

theorem visitChildren_ok (candidate : RetiredObject) {below : PageTree → Prop}
    (visits : ∀ child ∈ children, ∃ answer, visit (refOf host level child).objectId = .ok answer ∧ (answer = true ↔ below child)) :
    ∃ answer, visitChildren host candidate visit (children.map (refOf host level)) = .ok answer ∧
      (answer = true ↔ ∃ child ∈ children, rangeContains host (refOf host level child) candidate = true ∧ below child) := by
  induction children with
  | nil => exact ⟨false, rfl, by simp⟩
  | cons child _ ih =>
    obtain ⟨later, later_ran, later_iff⟩ := ih fun other member => visits other (mem_cons_of_mem _ member)
    by_cases contains : rangeContains host (refOf host level child) candidate = true
    · obtain ⟨here, here_ran, here_iff⟩ := visits child (by simp)
      cases here with
      | true =>
        refine ⟨true, ?_, ?_⟩
        · simp only [map_cons, visitChildren, contains, if_true, here_ran]
          rfl
        · simp only [true_iff]
          exact ⟨child, by simp, contains, here_iff.mp rfl⟩
      | false =>
        refine ⟨later, ?_, ?_⟩
        · simp only [map_cons, visitChildren, contains, if_true, here_ran]
          exact later_ran
        · have missing : ¬ below child := fun found => Bool.false_ne_true (here_iff.mpr found)
          simp [later_iff, missing]
    · refine ⟨later, ?_, ?_⟩
      · simp only [map_cons, visitChildren, contains]
        exact later_ran
      · simp [later_iff, contains]

section Search
variable (free : host.CollisionFree) (retired : Retired host candidate)

def Searches (host : IndexHost) (store : IndexStore) (candidate : RetiredObject) (level : Nat) (tree : PageTree) : Prop :=
  ∃ answer, visitNode host store candidate level (refOf host level tree).objectId = .ok answer ∧
    (answer = true ↔ StandsBelow host level tree candidate)

include free retired in
theorem searchChildren_ok (bounded : ∀ child ∈ children, BoundedTree level child)
    (filled : ∀ page ∈ (children.map (leaves level)).flatten, PageFilled page)
    (ordered : Chronological host (children.map (leaves level)).flatten.flatten)
    (visits : ∀ child ∈ children, ∃ answer, visit (refOf host level child).objectId = .ok answer ∧
      (answer = true ↔ StandsBelow host level child candidate)) :
    ∃ answer, searchChildren host candidate visit level (children.map (refOf host level)) = .ok answer ∧
      (answer = true ↔ StandsAmong host level children candidate) := by
  unfold searchChildren
  by_cases here : candidate.level = level
  · rw [if_pos here]
    refine ⟨_, rfl, ?_⟩
    have node : 0 ≤ candidate.level := here ▸ Int.natCast_nonneg level
    rw [any_map, any_eq_true]
    constructor
    · intro found
      obtain ⟨child, member, same⟩ := found
      exact .inr ⟨node, _, mem_flatten.mpr ⟨_, mem_map_of_mem member, payload_mem_payloads (bounded child member)⟩,
        of_decide_eq_true same⟩
    · rintro (⟨_, _⟩ | ⟨_, payload, found, same⟩)
      · omega
      obtain ⟨_, group_member, inside⟩ := mem_flatten.mp found
      obtain ⟨child, member, rfl⟩ := mem_map.mp group_member
      obtain ⟨_, _, subtree_bounded, payload_same, _, position⟩ :=
        payloads_subtree (bounded child member) payload inside
      have levels := retired.level_eq free node same
      rcases position with top | _
      · refine ⟨child, member, decide_eq_true ?_⟩
        show nodeObjectId host (payloadOf host level child) = candidate.objectId
        rw [← top]
        exact same
      · rw [payload_same, nodeLevel_payloadOf subtree_bounded] at levels
        omega
  · rw [if_neg here]
    by_cases higher : candidate.level > level
    · rw [if_pos higher]
      refine ⟨false, rfl, ?_⟩
      simp only [Bool.false_eq_true, false_iff]
      rintro (⟨_, _⟩ | ⟨node, _, found, same⟩)
      · omega
      obtain ⟨_, group_member, inside⟩ := mem_flatten.mp found
      obtain ⟨child, member, rfl⟩ := mem_map.mp group_member
      have levels := retired.level_eq free node same
      have low := payloads_level (bounded child member) inside
      omega
    · rw [if_neg higher]
      obtain ⟨answer, ran, answers⟩ := visitChildren_ok candidate visits
      refine ⟨answer, ran, answers.trans ?_⟩
      rw [standsAmong_iff]
      constructor
      · intro found
        obtain ⟨child, member, _, stands⟩ := found
        exact ⟨child, member, .inl stands⟩
      · intro found
        obtain ⟨child, member, stands⟩ := found
        have child_filled : ∀ page ∈ leaves level child, PageFilled page := fun page inside =>
          filled page (mem_flatten.mpr ⟨_, mem_map_of_mem member, inside⟩)
        have child_ordered : Chronological host (leaves level child).flatten :=
          List.Pairwise.sublist (List.Sublist.flatten (sublist_flatten_of_mem (mem_map_of_mem member))) ordered
        refine ⟨child, member, retired.contained free (bounded child member) child_filled child_ordered stands, ?_⟩
        rcases stands with below | ⟨node, payload, inside, same⟩
        · exact below
        have levels := retired.level_eq free node same
        obtain ⟨_, _, subtree_bounded, payload_same, _, position⟩ :=
          payloads_subtree (bounded child member) payload inside
        rw [payload_same, nodeLevel_payloadOf subtree_bounded] at levels
        rcases position with top | _
        · have top_level := congrArg nodeLevel (payload_same.symm.trans top)
          rw [nodeLevel_payloadOf subtree_bounded, nodeLevel_payloadOf (bounded child member)] at top_level
          omega
        · refine .inr ⟨node, payload, ?_, same⟩
          cases level with
          | zero => omega
          | succ =>
            cases child with
            | leaf => cases bounded _ member
            | node =>
              rcases mem_cons.mp inside with top | deeper
              · have top_level := congrArg nodeLevel (payload_same.symm.trans top)
                rw [nodeLevel_payloadOf subtree_bounded, nodeLevel_payloadOf (bounded _ member)] at top_level
                omega
              · exact deeper

include free retired in
theorem visitNode_ok : ∀ {level : Nat} {tree : PageTree}, StoredTree host store level tree →
    level ≤ blockRunIndexTreeDepth - 2 → Chronological host (leaves level tree).flatten →
    Searches host store candidate level tree
  | 0, .leaf pages, stored, depth, _ => by
    unfold Searches visitNode searchNode
    rw [stored.read depth]
    by_cases is_page : candidate.level = -1
    · refine ⟨(pages.map (descriptorOf host)).any fun descriptor => descriptor.objectId = candidate.objectId, ?_, ?_⟩
      · show (do
          if candidate.level ≠ -1 then return false
          return (pages.map (descriptorOf host)).any fun descriptor => descriptor.objectId = candidate.objectId) = _
        rw [if_neg (fun other => other is_page)]
        rfl
      · rw [any_map, any_eq_true]
        constructor
        · intro found
          obtain ⟨page, member, same⟩ := found
          exact .inl ⟨is_page, page, member, of_decide_eq_true same⟩
        · rintro (⟨_, page, member, same⟩ | ⟨_, _, member, _⟩)
          · exact ⟨page, member, decide_eq_true same⟩
          · cases member
    · refine ⟨false, ?_, ?_⟩
      · show (do
          if candidate.level ≠ -1 then return false
          return (pages.map (descriptorOf host)).any fun descriptor => descriptor.objectId = candidate.objectId) = _
        rw [if_pos is_page]
        rfl
      · simp only [Bool.false_eq_true, false_iff]
        rintro (⟨same, _⟩ | ⟨_, _, member, _⟩)
        · exact is_page same
        · cases member
  | 0, .node _, stored, _, _ => False.elim stored.bounded
  | _ + 1, .leaf _, stored, _, _ => False.elim stored.bounded
  | level + 1, .node children, stored, depth, ordered => by
    have inner : ∀ child ∈ children, Searches host store candidate level child := by
      intro child member
      refine visitNode_ok (stored.child member) (Nat.le_of_succ_le depth) ?_
      exact List.Pairwise.sublist (List.Sublist.flatten (sublist_flatten_of_mem (mem_map_of_mem member))) ordered
    unfold Searches visitNode searchNode
    rw [stored.read depth]
    exact searchChildren_ok free retired stored.bounded.2.2 stored.filled ordered inner

def treeReferencesFully (host : IndexHost) (store : IndexStore) (rootNodeId : Option String) (candidate : RetiredObject) :
    Except String Bool := do
  let (descriptors, nodes) ← readAllBlockRunIndexV5Descriptors host store rootNodeId
  return if candidate.level = -1 then descriptors.any fun descriptor => descriptor.objectId = candidate.objectId
    else nodes.any fun objectId => objectId = candidate.objectId

/-- The object is in the tree: as a page, or as a node or the root. -/
def StandsIn (host : IndexHost) (children : List PageTree) (candidate : RetiredObject) : Prop :=
  if candidate.level = -1 then ∃ page ∈ indexPages children, pageObjectId host page = candidate.objectId
  else children ≠ [] ∧ ∃ payload ∈ rootPayloads host children, nodeObjectId host payload = candidate.objectId

theorem treeReferencesFully_ok (candidate : RetiredObject) (indexed : IndexTree host store rootNodeId children) :
    ∃ answer, treeReferencesFully host store rootNodeId candidate = .ok answer ∧
      (answer = true ↔ StandsIn host children candidate) := by
  unfold treeReferencesFully StandsIn
  rw [indexed.collect]
  refine ⟨_, rfl, ?_⟩
  by_cases is_page : candidate.level = -1
  · simp only [if_pos is_page, any_map, any_eq_true, Function.comp_apply, decide_eq_true_eq]
    rfl
  · by_cases empty : children = []
    · simp [is_page, empty]
    · rw [if_neg is_page, if_neg is_page, if_neg empty, any_map, any_eq_true]
      simp only [Function.comp_apply, decide_eq_true_eq, ne_eq, empty, not_false_eq_true, true_and]

include free retired in
theorem referencesObject_ok (indexed : IndexTree host store rootNodeId children) :
    ∃ answer, blockRunIndexV5TreeReferencesObject host store rootNodeId candidate = .ok answer ∧
      (answer = true ↔ StandsIn host children candidate) := by
  unfold StandsIn
  by_cases empty : children = []
  · subst empty
    rw [indexed.rootId_empty]
    refine ⟨false, rfl, ?_⟩
    simp [indexPages]
  · rw [indexed.rootId empty]
    unfold blockRunIndexV5TreeReferencesObject
    by_cases top : candidate.level = (blockRunIndexTreeDepth - 1 : Nat)
    · have other : ¬ candidate.level = -1 := by rw [top]; decide
      have node : 0 ≤ candidate.level := by rw [top]; decide
      simp only [if_pos top, if_neg other]
      refine ⟨_, rfl, ?_⟩
      rw [decide_eq_true_eq]
      constructor
      · intro same
        exact ⟨empty, _, mem_cons_self, same⟩
      rintro ⟨_, _, member, same⟩
      rcases mem_cons.mp member with root | deeper
      · rw [← root]
        exact same
      obtain ⟨_, group_member, inside⟩ := mem_flatten.mp deeper
      obtain ⟨child, child_member, rfl⟩ := mem_map.mp group_member
      have levels := retired.level_eq free node same
      have low := payloads_level (indexed.shape.bounded child child_member) inside
      rw [top] at levels
      have depth : topLevel < blockRunIndexTreeDepth - 1 := by decide
      omega
    · simp only [if_neg top]
      have inner : ∀ child ∈ children, Searches host store candidate topLevel child := by
        intro child member
        refine visitNode_ok free retired (indexed.storedTree member) (Nat.le_refl _) ?_
        exact List.Pairwise.sublist (List.Sublist.flatten (sublist_flatten_of_mem (mem_map_of_mem member)))
          indexed.shape.ordered
      obtain ⟨answer, ran, answers⟩ := searchChildren_ok free retired indexed.shape.bounded indexed.shape.filled
        indexed.shape.ordered inner
      refine ⟨answer, ?_, answers.trans ?_⟩
      · show searchNode host store candidate (visitNode host store candidate topLevel) _ = _
        unfold searchNode
        rw [indexed.readRoot empty]
        exact ran
      · unfold StandsAmong
        by_cases is_page : candidate.level = -1
        · simp only [is_page, true_and, if_true, show ¬ (0 : Int) ≤ -1 by decide, false_and, or_false]
          rfl
        · simp only [is_page, false_and, false_or, if_false]
          constructor
          · rintro ⟨_, payload, member, same⟩
            exact ⟨empty, payload, mem_cons_of_mem _ member, same⟩
          rintro ⟨_, payload, member, same⟩
          have node : 0 ≤ candidate.level := retired.level_nonneg is_page
          rcases mem_cons.mp member with root | deeper
          · have levels := retired.level_eq free node same
            rw [root] at levels
            exact absurd levels top
          · exact ⟨node, payload, deeper, same⟩

include free retired in
theorem referencesObject_eq_fully (indexed : IndexTree host store rootNodeId children) :
    blockRunIndexV5TreeReferencesObject host store rootNodeId candidate = treeReferencesFully host store rootNodeId candidate := by
  obtain ⟨_, pruned_ran, pruned_iff⟩ := referencesObject_ok free retired indexed
  obtain ⟨_, full_ran, full_iff⟩ := treeReferencesFully_ok candidate indexed
  rw [pruned_ran, full_ran]
  exact congrArg _ (Bool.eq_iff_iff.mpr (pruned_iff.trans full_iff.symm))

end Search
end PlanWeave
