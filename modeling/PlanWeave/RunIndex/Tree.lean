import PlanWeave.Lib.LevelTree
import PlanWeave.RunIndex.Schema

namespace PlanWeave

/-- `nodes/<objectId>.json`. -/
structure TreeNode where
  payload : TreePayload
  objectId : String
  checksum : String

/-- `objects/<objectId>.json`. -/
structure PageObject where
  objectId : String
  checksum : String
  entries : BlockRunPage

/-- `generations/<generation>`: `manifest.json` and `retirement.json`. -/
structure Generation where
  manifest : Option BlockRunIndexManifest := none
  retirement : Option (List RetiredObject) := none

/-- `current.json`. Of an index of version 3 or 4 only the entries that its pages hold are kept. -/
inductive IndexPointer where
  | legacy (entries : BlockRunPage)
  | v5 (currentGeneration : String) (previousGeneration : Option String)
deriving DecidableEq

structure IndexStore where
  pointer : Option IndexPointer := none
  generations : OrderedMap String Generation := ∅
  objects : OrderedMap String PageObject := ∅
  nodes : OrderedMap String TreeNode := ∅

structure DescriptorLocation where
  pageIndex : Nat
  descriptor : PageDescriptor

structure TreeBuild where
  rootNodeId : Option String
  nodes : List TreeNode
  retiredObjects : List RetiredObject := []

/-- The bounds that the node schemas put on a payload; the format of object ids is that of the digests. -/
def treePayloadSchema : TreePayload → Bool
  | .root children =>
    1 ≤ children.length && children.length ≤ blockRunIndexTreeFanout && children.all fun child => 0 < child.pageCount
  | .internal level children =>
    1 ≤ level && level ≤ blockRunIndexTreeDepth - 2 && 1 ≤ children.length &&
      children.length ≤ blockRunIndexTreeFanout && children.all fun child => 0 < child.pageCount
  | .leaf descriptors =>
    1 ≤ descriptors.length && descriptors.length ≤ blockRunIndexTreeFanout &&
      descriptors.all fun descriptor => 0 < descriptor.count && descriptor.count ≤ blockRunIndexPageSize

def assertBlockRunIndexV5PageCapacity (pageCount : Nat) : Except String Unit :=
  if blockRunIndexMaxPages < pageCount then
    .error s!"Block run index v5 supports at most {blockRunIndexMaxPages} pages; received {pageCount}."
  else .ok ()

variable (host : IndexHost)

def pageDescriptor (entries : BlockRunPage) : Except String PageDescriptor :=
  match entries.head?, entries.getLast? with
  | some first, some last =>
    .ok { objectId := pageObjectId host entries, count := entries.length, first := first.cursor, last := last.cursor }
  | _, _ => .error "Cannot describe an empty block run index page."

def identified (payload : TreePayload) : TreeNode where
  payload := payload
  objectId := nodeObjectId host payload
  checksum := host.nodeChecksum payload

def leafNode (descriptors : List PageDescriptor) : TreeNode := identified host (.leaf descriptors)

def internalNode (level : Nat) (children : List TreeChild) : Except String TreeNode :=
  if treePayloadSchema (.internal level children) then .ok (identified host (.internal level children))
  else .error "Block run index v5 internal node does not match its schema."

def rootNode (children : List TreeChild) : TreeNode := identified host (.root children)

def refForChildren (objectId : String) (children : List TreeChild) : Except String TreeChild :=
  match children.head?, children.getLast? with
  | some first, some last =>
    .ok { objectId, pageCount := (children.map TreeChild.pageCount).sum, first := first.first, last := last.last }
  | _, _ => .error "Block run index v5 tree node cannot be empty."

def refForNode (node : TreeNode) : Except String TreeChild :=
  match node.payload with
  | .leaf descriptors =>
    match descriptors.head?, descriptors.getLast? with
    | some first, some last =>
      .ok { objectId := node.objectId, pageCount := descriptors.length, first := first.first, last := last.last }
    | _, _ => .error "Block run index v5 leaf cannot be empty."
  | .internal _ children => refForChildren node.objectId children
  | .root children => refForChildren node.objectId children

def nodeLevel : TreePayload → Nat
  | .root _ => blockRunIndexTreeDepth - 1
  | .internal level _ => level
  | .leaf _ => 0

def retiredObjectForNode (node : TreeNode) : Except String RetiredObject := do
  let reference ← refForNode node
  return { objectId := node.objectId, level := nodeLevel node.payload, first := reference.first, last := reference.last }

def readBlockRunIndexV5TreeNode (store : IndexStore) (objectId : String) : Except String TreeNode :=
  match store.nodes.get? objectId with
  | none => .error s!"Block run index v5 tree node '{objectId}' is missing."
  | some node =>
    if !treePayloadSchema node.payload then .error s!"Block run index v5 tree node '{objectId}' does not match its schema."
    else if node.objectId ≠ objectId ∨ node.checksum ≠ host.nodeChecksum node.payload ∨
        objectId ≠ nodeObjectId host node.payload then
      .error s!"Block run index v5 tree node '{objectId}' checksum mismatch."
    else .ok node

def chunks {α : Type} (size : Nat) : Nat → List α → List (List α)
  | 0, _ => []
  | _, [] => []
  | fuel + 1, values => values.take size :: chunks size fuel (values.drop size)

def nodeGroups {α : Type} (make : List α → Except String TreeNode) (groups : List (List α)) :
    Except String (List TreeNode × List TreeChild) := do
  let nodes ← groups.mapM make
  let refs ← nodes.mapM refForNode
  return (nodes, refs)

def buildInternalLevels : List Nat → List TreeChild → Except String (List TreeNode × List TreeChild)
  | [], refs => .ok ([], refs)
  | level :: levels, refs => do
    let (nodes, refs) ← nodeGroups (internalNode host level) (chunks blockRunIndexTreeFanout refs.length refs)
    let (above, top) ← buildInternalLevels levels refs
    return (nodes ++ above, top)

def buildBlockRunIndexV5Tree (descriptors : List PageDescriptor) : Except String TreeBuild := do
  if descriptors = [] then return { rootNodeId := none, nodes := [] }
  assertBlockRunIndexV5PageCapacity descriptors.length
  let (leaves, refs) ← nodeGroups (fun group => .ok (leafNode host group))
    (chunks blockRunIndexTreeFanout descriptors.length descriptors)
  let (internal, refs) ← buildInternalLevels host ((List.range (blockRunIndexTreeDepth - 2)).map (· + 1)) refs
  if blockRunIndexTreeFanout < refs.length then
    throw s!"Block run index exceeds v5 tree capacity of {blockRunIndexMaxPages} pages."
  let root := rootNode host refs
  return { rootNodeId := some root.objectId, nodes := leaves ++ internal ++ [root] }

def assertDescriptorOrder (descriptors : List PageDescriptor) : Except String Unit := do
  if descriptors.any fun descriptor => !decide (Upto host descriptor.first descriptor.last) then
    throw "Block run index v5 descriptor cursor range is invalid."
  if (descriptors.zip descriptors.tail).any fun pair => !decide (Upto host pair.1.last pair.2.first) then
    throw "Block run index v5 descriptors are not ordered."

def sameCursorPosition (left right : BlockRunLogicalCursor) : Bool :=
  compareBlockRunChronology host left right = .eq

def assertChildClosure (child : TreeChild) (descriptors : List PageDescriptor) : Except String Unit :=
  match descriptors.head?, descriptors.getLast? with
  | some first, some last =>
    if child.pageCount = descriptors.length ∧ sameCursorPosition host child.first first.first ∧
        sameCursorPosition host child.last last.last then .ok ()
    else .error s!"Block run index v5 child '{child.objectId}' closure is invalid."
  | _, _ => .error s!"Block run index v5 child '{child.objectId}' closure is invalid."

/-- The descriptors below a node and the ids of the nodes that were read, in the order of the traversal. -/
def collectChildren (collect : String → Except String (List PageDescriptor × List String)) (children : List TreeChild) :
    Except String (List PageDescriptor × List String) := do
  let nested ← children.mapM fun child => do
    let below ← collect child.objectId
    assertChildClosure host child below.1
    return below
  let descriptors := (nested.map Prod.fst).flatten
  assertDescriptorOrder host descriptors
  return (descriptors, (nested.map Prod.snd).flatten)

def collectDescriptors (store : IndexStore) : Nat → String → Except String (List PageDescriptor × List String)
  | 0, objectId => do
    let node ← readBlockRunIndexV5TreeNode host store objectId
    match node.payload with
    | .leaf descriptors =>
      assertDescriptorOrder host descriptors
      return (descriptors, [objectId])
    | _ => throw "Block run index v5 tree depth is invalid."
  | level + 1, objectId => do
    let node ← readBlockRunIndexV5TreeNode host store objectId
    match node.payload with
    | .internal found children =>
      if found ≠ level + 1 then throw "Block run index v5 internal tree level is invalid."
      let (descriptors, nodes) ← collectChildren host (collectDescriptors store level) children
      return (descriptors, objectId :: nodes)
    | _ => throw "Block run index v5 internal tree level is invalid."

def readAllBlockRunIndexV5Descriptors (store : IndexStore) (rootNodeId : Option String) :
    Except String (List PageDescriptor × List String) :=
  match rootNodeId with
  | none => .ok ([], [])
  | some rootNodeId => do
    let node ← readBlockRunIndexV5TreeNode host store rootNodeId
    match node.payload with
    | .root children =>
      let (descriptors, nodes) ←
        collectChildren host (collectDescriptors host store (blockRunIndexTreeDepth - 2)) children
      return (descriptors, rootNodeId :: nodes)
    | _ => throw "Block run index v5 root node is invalid."

def outOfBounds (pageIndex : Nat) : String := s!"Block run index page index {pageIndex} is out of bounds."

def selectChildAt (pageIndex : Nat) (children : List TreeChild) (remaining : Nat) : Except String (Nat × TreeChild × Nat) :=
  match Parts.select (children.map TreeChild.pageCount) remaining with
  | none => .error (outOfBounds pageIndex)
  | some (position, inner) =>
    match children[position]? with
    | none => .error (outOfBounds pageIndex)
    | some child => .ok (position, child, inner)

def descriptorBelow (store : IndexStore) (pageIndex : Nat) : Nat → TreeNode → Nat → Except String PageDescriptor
  | 0, node, remaining =>
    match node.payload with
    | .leaf descriptors =>
      match descriptors[remaining]? with
      | some descriptor => .ok descriptor
      | none => .error (outOfBounds pageIndex)
    | _ => .error "Block run index v5 leaf level is invalid."
  | level + 1, node, remaining =>
    match node.payload with
    | .internal found children => do
      if found ≠ level + 1 then throw "Block run index v5 internal tree level is invalid."
      let (_, child, inner) ← selectChildAt pageIndex children remaining
      let below ← readBlockRunIndexV5TreeNode host store child.objectId
      descriptorBelow store pageIndex level below inner
    | _ => .error "Block run index v5 internal tree level is invalid."

def readBlockRunIndexV5DescriptorAt (store : IndexStore) (rootNodeId : String) (pageIndex : Nat) :
    Except String PageDescriptor := do
  let root ← readBlockRunIndexV5TreeNode host store rootNodeId
  match root.payload with
  | .root children =>
    let (_, child, inner) ← selectChildAt pageIndex children pageIndex
    let below ← readBlockRunIndexV5TreeNode host store child.objectId
    descriptorBelow host store pageIndex (blockRunIndexTreeDepth - 2) below inner
  | _ => throw "Block run index v5 root node is invalid."

/-- The first child that does not end before the cursor, else the last; with the pages that precede it. -/
def selectChild (cursor : BlockRunLogicalCursor) (children : List TreeChild) : Except String (Nat × TreeChild) :=
  let selected := Parts.pick (fun child => Upto host cursor child.last) children
  match children[selected]? with
  | none => .error "Block run index v5 tree node has no selectable child."
  | some child => .ok (((children.take selected).map TreeChild.pageCount).sum, child)

def locateBelow (store : IndexStore) (cursor : BlockRunLogicalCursor) :
    Nat → TreeNode → Nat → Except String DescriptorLocation
  | 0, node, pageIndex =>
    match node.payload with
    | .leaf descriptors =>
      let selected := Parts.pick (fun descriptor => Upto host cursor descriptor.last) descriptors
      match descriptors[selected]? with
      | some descriptor => .ok { pageIndex := pageIndex + selected, descriptor }
      | none => .error "Block run index v5 leaf has no selectable descriptor."
    | _ => .error "Block run index v5 leaf level is invalid."
  | level + 1, node, pageIndex =>
    match node.payload with
    | .internal found children => do
      if found ≠ level + 1 then throw "Block run index v5 internal tree level is invalid."
      let (preceding, child) ← selectChild host cursor children
      let below ← readBlockRunIndexV5TreeNode host store child.objectId
      locateBelow store cursor level below (pageIndex + preceding)
    | _ => .error "Block run index v5 internal tree level is invalid."

def locateBlockRunIndexV5Descriptor (store : IndexStore) (rootNodeId : String) (cursor : BlockRunLogicalCursor) :
    Except String DescriptorLocation := do
  let root ← readBlockRunIndexV5TreeNode host store rootNodeId
  match root.payload with
  | .root children =>
    let (preceding, child) ← selectChild host cursor children
    let below ← readBlockRunIndexV5TreeNode host store child.objectId
    locateBelow host store cursor (blockRunIndexTreeDepth - 2) below preceding
  | _ => throw "Block run index v5 root node is invalid."

def rangeContains (container : TreeChild) (candidate : RetiredObject) : Bool :=
  decide (Upto host container.first candidate.first) && decide (Upto host candidate.last container.last)

def visitChildren (candidate : RetiredObject) (visit : String → Except String Bool) : List TreeChild → Except String Bool
  | [] => .ok false
  | child :: rest =>
    if rangeContains host child candidate then do
      if ← visit child.objectId then return true
      visitChildren candidate visit rest
    else visitChildren candidate visit rest

def searchChildren (candidate : RetiredObject) (visit : String → Except String Bool) (childLevel : Nat)
    (children : List TreeChild) : Except String Bool :=
  if candidate.level = childLevel then .ok (children.any fun child => child.objectId = candidate.objectId)
  else if candidate.level > childLevel then .ok false
  else visitChildren host candidate visit children

def searchNode (store : IndexStore) (candidate : RetiredObject) (visit : String → Except String Bool) (objectId : String) :
    Except String Bool := do
  let node ← readBlockRunIndexV5TreeNode host store objectId
  match node.payload with
  | .leaf descriptors =>
    if candidate.level ≠ -1 then return false
    return descriptors.any fun descriptor => descriptor.objectId = candidate.objectId
  | .root children => searchChildren host candidate visit (blockRunIndexTreeDepth - 2) children
  | .internal level children => searchChildren host candidate visit (level - 1) children

/-- The search from a node; below it stand at most the given number of levels. -/
def visitNode (store : IndexStore) (candidate : RetiredObject) : Nat → String → Except String Bool
  | 0 => searchNode host store candidate fun _ => .ok false
  | levels + 1 => searchNode host store candidate (visitNode store candidate levels)

def blockRunIndexV5TreeReferencesObject (store : IndexStore) (rootNodeId : Option String) (candidate : RetiredObject) :
    Except String Bool :=
  match rootNodeId with
  | none => .ok false
  | some rootNodeId =>
    if candidate.level = (blockRunIndexTreeDepth - 1 : Nat) then .ok (rootNodeId = candidate.objectId)
    else visitNode host store candidate (blockRunIndexTreeDepth - 1) rootNodeId

structure PathUpdate where
  refs : List TreeChild
  nodes : List TreeNode
  retired : List RetiredObject

def updateBelow (store : IndexStore) (pageIndex : Nat) (replacement : List PageDescriptor) :
    Nat → TreeNode → Nat → Except String PathUpdate
  | 0, node, remaining =>
    match node.payload with
    | .leaf descriptors => do
      let retired ← retiredObjectForNode node
      let groups := Parts.overflow blockRunIndexTreeFanout (Parts.splice descriptors remaining replacement)
      let (nodes, refs) ← nodeGroups (fun group => .ok (leafNode host group)) groups
      return { refs, nodes, retired := [retired] }
    | _ => .error "Block run index v5 leaf level is invalid."
  | level + 1, node, remaining =>
    match node.payload with
    | .internal found children => do
      if found ≠ level + 1 then throw "Block run index v5 internal tree level is invalid."
      let (position, child, inner) ← selectChildAt pageIndex children remaining
      let below ← readBlockRunIndexV5TreeNode host store child.objectId
      let updated ← updateBelow store pageIndex replacement level below inner
      let retired ← retiredObjectForNode node
      let groups := Parts.overflow blockRunIndexTreeFanout (Parts.splice children position updated.refs)
      let (nodes, refs) ← nodeGroups (internalNode host (level + 1)) groups
      return { refs, nodes := updated.nodes ++ nodes, retired := retired :: updated.retired }
    | _ => .error "Block run index v5 internal tree level is invalid."

def updateBlockRunIndexV5Tree (store : IndexStore) (rootNodeId : String) (pageIndex : Nat)
    (replacement : List PageDescriptor) : Except String TreeBuild := do
  let root ← readBlockRunIndexV5TreeNode host store rootNodeId
  match root.payload with
  | .root children =>
    let (position, child, inner) ← selectChildAt pageIndex children pageIndex
    let below ← readBlockRunIndexV5TreeNode host store child.objectId
    let updated ← updateBelow host store pageIndex replacement (blockRunIndexTreeDepth - 2) below inner
    let retired ← retiredObjectForNode root
    let retiredObjects := retired :: updated.retired
    let children := Parts.splice children position updated.refs
    if children.length = 0 then return { rootNodeId := none, nodes := updated.nodes, retiredObjects }
    if blockRunIndexTreeFanout < children.length then
      throw s!"Block run index v5 supports at most {blockRunIndexMaxPages} pages."
    let next := rootNode host children
    return { rootNodeId := some next.objectId, nodes := updated.nodes ++ [next], retiredObjects }
  | _ => throw "Block run index v5 root node is invalid."

end PlanWeave
