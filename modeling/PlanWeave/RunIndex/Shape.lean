import PlanWeave.RunIndex.Mutation
import PlanWeave.Lib.Checked

namespace PlanWeave
open LevelTree List

/-- The tree of an index with its pages at the leaves. Its payloads and object ids follow from the pages. -/
abbrev PageTree := LevelTree BlockRunPage

def firstCursor (page : BlockRunPage) : BlockRunLogicalCursor := (page.head?.map BlockRunIndexEntry.cursor).getD default

def lastCursor (page : BlockRunPage) : BlockRunLogicalCursor := (page.getLast?.map BlockRunIndexEntry.cursor).getD default

def pagesFirst (pages : List BlockRunPage) : BlockRunLogicalCursor := (pages.head?.map firstCursor).getD default

def pagesLast (pages : List BlockRunPage) : BlockRunLogicalCursor := (pages.getLast?.map lastCursor).getD default

def PageFilled (page : BlockRunPage) : Prop := page ≠ [] ∧ page.length ≤ blockRunIndexPageSize

def BoundedTree (level : Nat) (tree : PageTree) : Prop := Bounded blockRunIndexTreeFanout level tree

variable (host : IndexHost)

def descriptorOf (page : BlockRunPage) : PageDescriptor where
  objectId := pageObjectId host page
  count := page.length
  first := firstCursor page
  last := lastCursor page

def childRef (payload : TreePayload) (pages : List BlockRunPage) : TreeChild where
  objectId := nodeObjectId host payload
  pageCount := pages.length
  first := pagesFirst pages
  last := pagesLast pages

def payloadOf : Nat → PageTree → TreePayload
  | 0, .leaf pages => .leaf (pages.map (descriptorOf host))
  | level + 1, .node children =>
    .internal (level + 1) (children.map fun child => childRef host (payloadOf level child) (leaves level child))
  | _, _ => .leaf []

def refOf (level : Nat) (tree : PageTree) : TreeChild := childRef host (payloadOf host level tree) (leaves level tree)

def payloads : Nat → PageTree → List TreePayload
  | 0, tree => [payloadOf host 0 tree]
  | level + 1, .node children => payloadOf host (level + 1) (.node children) :: (children.map (payloads level)).flatten
  | _, _ => []

def storedPage (page : BlockRunPage) : PageObject where
  objectId := pageObjectId host page
  checksum := host.pageChecksum page
  entries := page

def NodesStored (store : IndexStore) (level : Nat) (tree : PageTree) : Prop :=
  ∀ payload ∈ payloads host level tree, store.nodes.get? (nodeObjectId host payload) = some (identified host payload)

def Chronological (entries : BlockRunPage) : Prop :=
  entries.Pairwise fun left right => Upto host left.cursor right.cursor

variable {host} {store : IndexStore} {level : Nat} {tree : PageTree} {page : BlockRunPage} {pages : List BlockRunPage}

theorem payload_mem_payloads (bounded : BoundedTree level tree) : payloadOf host level tree ∈ payloads host level tree := by
  cases level with
  | zero => exact mem_singleton_self _
  | succ =>
    cases tree with
    | leaf => cases bounded
    | node => exact mem_cons_self

variable {children : List PageTree}

theorem NodesStored.child (stored : NodesStored host store (level + 1) (.node children))
    {child : PageTree} (member : child ∈ children) : NodesStored host store level child := by
  intro payload inside
  apply stored
  exact mem_cons_of_mem _ (mem_flatten.mpr ⟨_, mem_map_of_mem member, inside⟩)

theorem pageDescriptor_ok (nonempty : page ≠ []) : pageDescriptor host page = .ok (descriptorOf host page) := by
  obtain ⟨_, _, first_same, last_same⟩ := Parts.exists_ends nonempty
  simp [pageDescriptor, descriptorOf, firstCursor, lastCursor, first_same, last_same]

theorem readV4PageObject_ok (filled : PageFilled page)
    (stored : store.objects.get? (pageObjectId host page) = some (storedPage host page)) :
    readV4PageObject host store (descriptorOf host page) = .ok page := by
  obtain ⟨nonempty, small⟩ := filled
  obtain ⟨_, _, first_same, last_same⟩ := Parts.exists_ends nonempty
  have short : ¬ blockRunIndexPageSize < page.length := Nat.not_lt.mpr small
  simp [readV4PageObject, descriptorOf, stored, storedPage, short, first_same, last_same, firstCursor, lastCursor]

variable {parts : List (List BlockRunPage)}

theorem pagesFirst_flatten (nonempty : ∀ part ∈ parts, part ≠ []) :
    pagesFirst parts.flatten = (parts.head?.map pagesFirst).getD default := by
  cases parts with
  | nil => rfl
  | cons part =>
    obtain ⟨_, _, same⟩ := exists_cons_of_ne_nil (nonempty part (by simp))
    simp [pagesFirst, same]

theorem pagesLast_flatten (nonempty : ∀ part ∈ parts, part ≠ []) :
    pagesLast parts.flatten = (parts.getLast?.map pagesLast).getD default := by
  rcases eq_nil_or_concat parts with empty | ⟨_, last, same⟩
  · subst empty
    rfl
  · subst same
    have filled := nonempty last (by simp)
    simp [pagesLast, getLast?_append, getLast?_eq_some_getLast filled]

theorem schema_leaf (nonempty : pages ≠ []) (small : pages.length ≤ blockRunIndexTreeFanout)
    (filled : ∀ page ∈ pages, PageFilled page) : treePayloadSchema (.leaf (pages.map (descriptorOf host))) = true := by
  have positive := length_pos_of_ne_nil nonempty
  simp only [treePayloadSchema, length_map, Bool.and_eq_true, decide_eq_true_eq, all_eq_true, mem_map]
  refine ⟨⟨positive, small⟩, ?_⟩
  intro descriptor source
  obtain ⟨page, member, rfl⟩ := source
  obtain ⟨page_nonempty, page_small⟩ := filled page member
  exact ⟨length_pos_of_ne_nil page_nonempty, page_small⟩

theorem refs_positive (bounded : ∀ child ∈ children, BoundedTree level child) :
    (children.map (refOf host level)).all (fun child => 0 < child.pageCount) = true := by
  simp only [all_eq_true, mem_map, decide_eq_true_eq]
  intro child source
  obtain ⟨tree, member, rfl⟩ := source
  exact length_pos_of_ne_nil (leaves_ne_nil (bounded tree member))

theorem schema_payloadOf (bounded : BoundedTree level tree) (filled : ∀ page ∈ leaves level tree, PageFilled page)
    (depth : level ≤ blockRunIndexTreeDepth - 2) : treePayloadSchema (payloadOf host level tree) = true := by
  cases level with
  | zero =>
    cases tree with
    | leaf => exact schema_leaf bounded.1 bounded.2 filled
    | node => cases bounded
  | succ level =>
    cases tree with
    | leaf => cases bounded
    | node children =>
      obtain ⟨nonempty, small, inner⟩ := bounded
      have positive := length_pos_of_ne_nil nonempty
      have counts : (children.map (refOf host level)).all (fun child => 0 < child.pageCount) = true := refs_positive inner
      simp only [payloadOf, treePayloadSchema, length_map, Bool.and_eq_true, decide_eq_true_eq]
      exact ⟨⟨⟨⟨by omega, depth⟩, positive⟩, small⟩, counts⟩

theorem schema_payloads : ∀ {level : Nat} {tree : PageTree}, BoundedTree level tree →
    (∀ page ∈ leaves level tree, PageFilled page) → level ≤ blockRunIndexTreeDepth - 2 →
    ∀ payload ∈ payloads host level tree, treePayloadSchema payload = true
  | 0, tree, bounded, filled, depth, payload, member => by
    rw [mem_singleton.mp member]
    exact schema_payloadOf bounded filled depth
  | _ + 1, .leaf _, bounded, _, _, _, _ => False.elim bounded
  | level + 1, .node children, bounded, filled, depth, payload, member => by
    rcases mem_cons.mp member with top | deeper
    · rw [top]
      exact schema_payloadOf bounded filled depth
    · obtain ⟨_, group_member, inside⟩ := mem_flatten.mp deeper
      obtain ⟨child, child_member, rfl⟩ := mem_map.mp group_member
      refine schema_payloads (bounded.2.2 child child_member) (fun page found => filled page ?_) (by omega) payload inside
      exact mem_flatten.mpr ⟨_, mem_map_of_mem child_member, found⟩

theorem readTreeNode_ok {payload : TreePayload}
    (stored : store.nodes.get? (nodeObjectId host payload) = some (identified host payload))
    (schema : treePayloadSchema payload = true) :
    readBlockRunIndexV5TreeNode host store (nodeObjectId host payload) = .ok (identified host payload) := by
  simp [readBlockRunIndexV5TreeNode, stored, identified, schema]

theorem head_flatten_leaves (bounded : ∀ child ∈ children, BoundedTree level child) :
    ∀ part ∈ children.map (leaves level), part ≠ [] := by
  intro part member
  obtain ⟨child, inside, rfl⟩ := mem_map.mp member
  exact leaves_ne_nil (bounded child inside)

theorem refForChildren_ok (objectId : String) (nonempty : children ≠ [])
    (bounded : ∀ child ∈ children, BoundedTree level child) :
    refForChildren objectId (children.map (refOf host level)) = .ok {
      objectId, pageCount := ((children.map (leaves level)).flatten).length
      first := pagesFirst (children.map (leaves level)).flatten, last := pagesLast (children.map (leaves level)).flatten } := by
  obtain ⟨_, _, first_same, last_same⟩ := Parts.exists_ends nonempty
  have counts : ((children.map (refOf host level)).map TreeChild.pageCount).sum =
      ((children.map (leaves level)).flatten).length := by
    rw [length_flatten, map_map, map_map]
    rfl
  rw [pagesFirst_flatten (head_flatten_leaves bounded), pagesLast_flatten (head_flatten_leaves bounded)]
  simp only [refForChildren, head?_map, getLast?_map, first_same, last_same, Option.map_some, counts]
  rfl

section
variable (bounded : BoundedTree level tree)
include bounded

theorem refForNode_ok : refForNode (identified host (payloadOf host level tree)) = .ok (refOf host level tree) := by
  cases level with
  | zero =>
    cases tree with
    | leaf =>
      obtain ⟨_, _, first_same, last_same⟩ := Parts.exists_ends bounded.1
      simp [refForNode, identified, payloadOf, refOf, childRef, leaves, pagesFirst, pagesLast, first_same, last_same,
        descriptorOf]
    | node => cases bounded
  | succ =>
    cases tree with
    | leaf => cases bounded
    | node => exact refForChildren_ok _ bounded.1 bounded.2.2

theorem range_of_payload {other : PageTree} {otherLevel : Nat}
    (other_bounded : BoundedTree otherLevel other) (same : payloadOf host level tree = payloadOf host otherLevel other) :
    pagesFirst (leaves level tree) = pagesFirst (leaves otherLevel other) ∧
      pagesLast (leaves level tree) = pagesLast (leaves otherLevel other) := by
  have reference : refForNode (identified host (payloadOf host level tree)) = _ := refForNode_ok bounded
  rw [same, refForNode_ok other_bounded, Except.ok.injEq] at reference
  exact ⟨(congrArg TreeChild.first reference).symm, (congrArg TreeChild.last reference).symm⟩

theorem nodeLevel_payloadOf : nodeLevel (payloadOf host level tree) = level := by
  cases level with
  | zero =>
    cases tree with
    | leaf => rfl
    | node => cases bounded
  | succ =>
    cases tree with
    | leaf => cases bounded
    | node => rfl
end

theorem nodeObjectId_injective (free : host.CollisionFree) : Function.Injective (nodeObjectId host) := by
  intro left right same
  apply free.nodes
  exact String.append_right_inj "sha256-" |>.mp same

theorem pageObjectId_injective (free : host.CollisionFree) : Function.Injective (pageObjectId host) := by
  intro left right same
  apply free.pages
  exact String.append_right_inj "sha256-" |>.mp same

theorem map_injective_on {α β : Type} {f : α → β} : ∀ {items others : List α},
    (∀ item ∈ items, ∀ other ∈ others, f item = f other → item = other) → items.map f = others.map f → items = others
  | [], [], _, _ => rfl
  | [], _ :: _, _, same => by cases same
  | _ :: _, [], _, same => by cases same
  | item :: items, other :: others, injective, same => by
    rw [map_cons, map_cons, List.cons.injEq] at same
    obtain ⟨first, rest⟩ := same
    rw [injective item (by simp) other (by simp) first]
    congr 1
    exact map_injective_on (fun left left_member right right_member =>
      injective left (mem_cons_of_mem _ left_member) right (mem_cons_of_mem _ right_member)) rest

theorem payloadOf_injective (free : host.CollisionFree) : ∀ (level : Nat) {tree other : PageTree},
    BoundedTree level tree → BoundedTree level other → payloadOf host level tree = payloadOf host level other → tree = other
  | 0, .leaf pages, .leaf others, _, _, same => by
    simp only [payloadOf, TreePayload.leaf.injEq] at same
    congr 1
    refine map_injective_on (fun page _ other _ described => ?_) same
    exact pageObjectId_injective free (congrArg PageDescriptor.objectId described)
  | 0, .node _, _, bounded, _, _ => by cases bounded
  | 0, .leaf _, .node _, _, bounded, _ => by cases bounded
  | level + 1, .leaf _, _, bounded, _, _ => by cases bounded
  | level + 1, .node _, .leaf _, _, bounded, _ => by cases bounded
  | level + 1, .node children, .node others, bounded, other_bounded, same => by
    simp only [payloadOf, TreePayload.internal.injEq, true_and] at same
    congr 1
    refine map_injective_on (fun child child_member other other_member referred => ?_) same
    exact payloadOf_injective free level (bounded.2.2 child child_member) (other_bounded.2.2 other other_member)
      (nodeObjectId_injective free (congrArg TreeChild.objectId referred))

end PlanWeave
