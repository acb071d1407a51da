import Mathlib.Algebra.BigOperators.Group.List.Basic
import PlanWeave.RunIndex.LiveObjects

namespace PlanWeave
open IndexTree LevelTree List Nat

def IndexStore.withTree (host : IndexHost) (pages : List BlockRunPage) (nodes : List TreeNode) (store : IndexStore) :
    IndexStore :=
  { store with
    nodes := store.nodes.setAll (nodes.map fun node => (node.objectId, node))
    objects := store.objects.setAll (pages.map fun page => (pageObjectId host page, storedPage host page)) }

/-- What may stand in the place of a page: filled pages, not more than a node holds, in order with the pages around. -/
structure Replaceable (host : IndexHost) (pages : List BlockRunPage) (index : Nat) (replacement : List BlockRunPage) :
    Prop where
  inside : index < pages.length
  short : replacement.length ≤ blockRunIndexTreeFanout
  filled : ∀ page ∈ replacement, PageFilled page
  ordered : Chronological host (Parts.splice pages index replacement).flatten

/-- A freshly built tree and what a sequence of updates makes of it, with the pages that its leaves spell. -/
inductive TreeRun (host : IndexHost) : IndexStore → Option String → List BlockRunPage → Prop where
  | built {store : IndexStore} {pages : List BlockRunPage} {build : TreeBuild} (filled : ∀ page ∈ pages, PageFilled page)
      (ordered : Chronological host pages.flatten)
      (made : buildBlockRunIndexV5Tree host (pages.map (descriptorOf host)) = .ok build) :
      TreeRun host (store.withTree host pages build.nodes) build.rootNodeId pages
  | updated {store : IndexStore} {rootId : String} {pages replacement : List BlockRunPage} {index : Nat} {build : TreeBuild}
      (run : TreeRun host store (some rootId) pages) (replaceable : Replaceable host pages index replacement)
      (made : updateBlockRunIndexV5Tree host store rootId index (replacement.map (descriptorOf host)) = .ok build) :
      TreeRun host (store.withTree host replacement build.nodes) build.rootNodeId (Parts.splice pages index replacement)

variable {host : IndexHost} {store : IndexStore} {rootNodeId : Option String} {rootId : String} {build : TreeBuild}
  {children : List PageTree} {pages replacement : List BlockRunPage} {nodes : List TreeNode} {index : Nat}

section
variable (free : host.CollisionFree)
include free

theorem IndexTree.written (addressed : ∀ node ∈ nodes, ∃ payload, node = identified host payload ∧ treePayloadSchema payload = true)
    (root : rootNodeId = rootIdOf host children) (shape : IndexShape host children)
    (noded : children ≠ [] → ∀ payload ∈ rootPayloads host children,
      store.nodes.get? (nodeObjectId host payload) = some (identified host payload) ∨ identified host payload ∈ nodes)
    (paged : ∀ page ∈ indexPages children,
      store.objects.get? (pageObjectId host page) = some (storedPage host page) ∨ page ∈ pages) :
    IndexTree host (store.withTree host pages nodes) rootNodeId children where
  root := root
  shape := shape
  nodes nonempty payload found := by
    refine OrderedMap.get?_setAll_of ?_ ((noded nonempty payload found).imp_right fun new => mem_map.mpr ⟨_, new, rfl⟩)
    intro pair member same
    obtain ⟨node, node_member, rfl⟩ := mem_map.mp member
    obtain ⟨other, rfl, -⟩ := addressed node node_member
    exact congrArg (identified host) (nodeObjectId_injective free same)
  objects page found := by
    refine OrderedMap.get?_setAll_of ?_ ((paged page found).imp_right fun new => mem_map.mpr ⟨_, new, rfl⟩)
    intro pair member same
    obtain ⟨other, -, rfl⟩ := mem_map.mp member
    exact congrArg (storedPage host) (pageObjectId_injective free same)

theorem build_indexed (filled : ∀ page ∈ pages, PageFilled page) (ordered : Chronological host pages.flatten)
    (made : buildBlockRunIndexV5Tree host (pages.map (descriptorOf host)) = .ok build) :
    ∃ children, IndexTree host (store.withTree host pages build.nodes) build.rootNodeId children ∧
      indexPages children = pages := by
  obtain ⟨children, built⟩ := (buildTree_ok filled).1 build made
  have same := built.pages
  refine ⟨children, IndexTree.written free built.addressed built.root ⟨built.fits, built.bounded, ?_, ?_⟩
    (fun nonempty payload found => .inr (built.covered nonempty payload found)) (fun page found => .inr (same ▸ found)), same⟩
  · rwa [same]
  · rwa [same]

/-- An update is refused when it cuts every node on its way, and else the store holds the old tree and the new one. -/
theorem update_indexed (indexed : IndexTree host store (some rootId) children)
    (replaceable : Replaceable host (indexPages children) index replacement) :
    (TreeTight children replacement.length index →
      updateBlockRunIndexV5Tree host store rootId index (replacement.map (descriptorOf host)) = .error treeCapacityError) ∧
    (¬ TreeTight children replacement.length index → ∃ build,
      updateBlockRunIndexV5Tree host store rootId index (replacement.map (descriptorOf host)) = .ok build ∧
      indexPages (nextChildren children index replacement) = Parts.splice (indexPages children) index replacement ∧
      IndexTree host (store.withTree host replacement build.nodes) build.rootNodeId
        (nextChildren children index replacement) ∧
      IndexTree host (store.withTree host replacement build.nodes) (some rootId) children) := by
  obtain ⟨inside, short, filled, ordered⟩ := replaceable
  have nonempty : children ≠ [] := by
    rintro rfl
    exact not_lt_zero _ inside
  obtain rfl : rootId = _ := Option.some.inj (indexed.rootId nonempty)
  have outcome := indexed.update (le_succ_of_le short) filled inside
  have exceeds : _ ↔ TreeTight children replacement.length index := overflows_iff indexed.shape inside
  refine ⟨fun tight => by rwa [if_pos (exceeds.mpr tight)] at outcome, fun spare => ?_⟩
  have fits : ¬ blockRunIndexTreeFanout < (nextChildren children index replacement).length := fun grown => spare (exceeds.mp grown)
  rw [if_neg fits] at outcome
  obtain ⟨build, updated, rebuilt⟩ := outcome
  have spelled : indexPages (nextChildren children index replacement) = _ := indexPages_nextChildren inside
  have known : ∀ page ∈ indexPages (nextChildren children index replacement),
      page ∈ indexPages children ∨ page ∈ replacement := by
    intro page found
    simp only [spelled, Parts.splice, mem_append] at found
    rcases found with (front | middle) | back
    · exact .inl (mem_of_mem_take front)
    · exact .inr middle
    · exact .inl (mem_of_mem_drop back)
  refine ⟨build, updated, spelled, IndexTree.written free rebuilt.addressed rebuilt.root ⟨not_lt.mp fits,
      bounded_nextChildren (le_succ_of_le short) inside indexed.shape.bounded, ?_, by rwa [spelled]⟩
      (fun filled payload found => ((rebuilt.covered filled payload found).imp_right (indexed.nodes nonempty payload)).symm)
      fun page found => (known page found).imp_left (indexed.objects page),
    IndexTree.written free rebuilt.addressed indexed.root indexed.shape
      (fun _ payload found => .inl (indexed.nodes nonempty payload found)) fun page found => .inl (indexed.objects page found)⟩
  intro page found
  exact (known page found).elim (indexed.shape.filled page) (filled page)

theorem TreeRun.indexed {root : Option String} (run : TreeRun host store root pages) :
    ∃ children, IndexTree host store root children ∧ indexPages children = pages := by
  induction run with
  | built filled ordered made => exact build_indexed free filled ordered made
  | updated run replaceable made ih =>
    obtain ⟨children, indexed, rfl⟩ := ih
    obtain ⟨refused, done⟩ := update_indexed free indexed replaceable
    obtain ⟨build, updated, spelled, next, -⟩ := done fun tight => by cases made.symm.trans (refused tight)
    cases made.symm.trans updated
    exact ⟨_, next, spelled⟩

/-- An update that finds room on its way makes a well-formed tree of the spliced pages and leaves the old one readable; the tree is read by position and by cursor as its list of pages. -/
theorem tree_update_splices_pages (indexed : IndexTree host store (some rootId) children) :
    (∀ index replacement, Replaceable host (indexPages children) index replacement →
      ¬ TreeTight children replacement.length index → ∃ build next,
        updateBlockRunIndexV5Tree host store rootId index (replacement.map (descriptorOf host)) = .ok build ∧
        IndexTree host (store.withTree host replacement build.nodes) build.rootNodeId next ∧
        indexPages next = Parts.splice (indexPages children) index replacement ∧
        (readAllBlockRunIndexV5Descriptors host (store.withTree host replacement build.nodes) build.rootNodeId).map Prod.fst =
          .ok ((Parts.splice (indexPages children) index replacement).map (descriptorOf host)) ∧
        (readAllBlockRunIndexV5Descriptors host (store.withTree host replacement build.nodes) (some rootId)).map Prod.fst =
          .ok ((indexPages children).map (descriptorOf host))) ∧
    (∀ (k : Nat) page, (indexPages children)[k]? = some page →
      readBlockRunIndexV5DescriptorAt host store rootId k = .ok (descriptorOf host page)) ∧
    (∀ cursor, ∃ page, (indexPages children)[locatedAt host cursor (indexPages children)]? = some page ∧
      locateBlockRunIndexV5Descriptor host store rootId cursor =
        .ok { pageIndex := locatedAt host cursor (indexPages children), descriptor := descriptorOf host page }) ∧
    ∀ (other : IndexStore) pages build, (∀ page ∈ pages, PageFilled page) → Chronological host pages.flatten →
      buildBlockRunIndexV5Tree host (pages.map (descriptorOf host)) = .ok build →
      (readAllBlockRunIndexV5Descriptors host (other.withTree host pages build.nodes) build.rootNodeId).map Prod.fst =
        .ok (pages.map (descriptorOf host)) := by
  have nonempty : children ≠ [] := by
    rintro rfl
    cases indexed.rootId_empty
  obtain rfl : rootId = _ := Option.some.inj (indexed.rootId nonempty)
  refine ⟨fun index replacement replaceable spare => ?_, fun k page found => indexed.descriptorAt found, fun cursor => ?_,
    fun other pages build filled ordered made => ?_⟩
  · obtain ⟨build, updated, spelled, next, old⟩ := (update_indexed free indexed replaceable).2 spare
    exact ⟨build, _, updated, next, spelled, by rw [next.collect, spelled]; rfl, by rw [old.collect]; rfl⟩
  · have some : indexPages children ≠ [] := by
      obtain ⟨child, member⟩ := exists_mem_of_ne_nil children nonempty
      intro empty
      exact leaves_ne_nil (indexed.shape.bounded child member) (flatten_eq_nil_iff.mp empty _ (mem_map_of_mem member))
    have within : locatedAt host cursor (indexPages children) < _ := locatedAt_lt cursor some
    have found := getElem?_eq_getElem within
    exact ⟨_, found, indexed.locate nonempty cursor found⟩
  · obtain ⟨_, next, spelled⟩ : ∃ children, IndexTree host (other.withTree host pages build.nodes) build.rootNodeId children ∧ _ :=
      build_indexed free filled ordered made
    rw [next.collect, spelled]
    rfl

/-- What the capacity error says: the pages would not fit the tree. -/
def KeepsCapacity (host : IndexHost) (store : IndexStore) (rootId : String) (pages : List BlockRunPage) (index : Nat)
    (replacement : List BlockRunPage) : Prop :=
  updateBlockRunIndexV5Tree host store rootId index (replacement.map (descriptorOf host)) = .error treeCapacityError →
    blockRunIndexMaxPages < (Parts.splice pages index replacement).length

/-- In every run, an update is refused below the capacity exactly when it asks the full root for one more child: the
nodes on its way are full, however empty the others are. -/
theorem keepsCapacity_iff {root : Option String} (run : TreeRun host store root pages) :
    ∃ children, IndexTree host store root children ∧ indexPages children = pages ∧
      ∀ rootId index replacement, root = some rootId → Replaceable host pages index replacement →
        (KeepsCapacity host store rootId pages index replacement ↔
          (TreeTight children replacement.length index →
            blockRunIndexMaxPages < (Parts.splice pages index replacement).length)) := by
  obtain ⟨children, indexed, rfl⟩ := run.indexed free
  refine ⟨children, indexed, rfl, ?_⟩
  rintro rootId index replacement rfl replaceable
  obtain ⟨refused, done⟩ := update_indexed free indexed replaceable
  refine ⟨fun holds tight => holds (refused tight), fun holds error => holds ?_⟩
  by_contra spare
  obtain ⟨_, updated, -⟩ := done spare
  cases error.symm.trans updated
end

def frontPage (n : Nat) : BlockRunPage := [⟨s!"RUN-{n}", 0, -n, s!"T-001#B-001::RUN-{n}", false⟩]

def frontPages : Nat → List BlockRunPage
  | 0 => [frontPage 0]
  | n + 1 => frontPage (n + 1) :: frontPages n

theorem frontPages_later : ∀ {n : Nat} {entry : BlockRunIndexEntry}, entry ∈ (frontPages n).flatten → -(n : Int) ≤ entry.orderedAt
  | 0, entry, member => by
    obtain rfl : entry = _ := by simpa [frontPages, frontPage] using member
    exact Int.le_refl _
  | n + 1, entry, member => by
    rcases mem_cons.mp member with rfl | later
    · exact Int.le_refl _
    · have bound := frontPages_later later
      omega

theorem frontPages_chronological (n : Nat) : Chronological host (frontPages n).flatten := by
  induction n with
  | zero => exact pairwise_singleton _ _
  | succ n ih =>
    refine pairwise_cons.mpr ⟨fun entry later => ?_, ih⟩
    have bound := frontPages_later later
    have earlier : compare (-((n + 1 : Nat) : Int)) entry.orderedAt = .lt := Int.compare_eq_lt.mpr (by omega)
    show ((compare (-((n + 1 : Nat) : Int)) entry.orderedAt).then _).isLE = true
    rw [earlier]
    rfl

theorem frontPage_filled (n : Nat) : PageFilled (frontPage n) := ⟨cons_ne_nil _ _, le_of_ble_eq_true rfl⟩

theorem frontPages_splice : ∀ n, Parts.splice (frontPages n) 0 [frontPage (n + 1), frontPage n] = frontPages (n + 1)
  | 0 => rfl
  | _ + 1 => rfl

theorem frontPages_length : ∀ n, (frontPages n).length = n + 1
  | 0 => rfl
  | n + 1 => congrArg (· + 1) (frontPages_length n)

theorem frontPages_replaceable (n : Nat) : Replaceable host (frontPages n) 0 [frontPage (n + 1), frontPage n] where
  inside := by cases n <;> exact succ_pos _
  short := le_of_ble_eq_true rfl
  filled := by simp [frontPage_filled]
  ordered := by
    rw [frontPages_splice]
    exact frontPages_chronological (n + 1)

theorem frontSum_nextChildren (shape : IndexShape host children) (inside : 0 < (indexPages children).length)
    (two : replacement.length = 2) (spare : ¬ TreeTight children replacement.length 0) :
    frontSum (topLevel + 1) (.node (nextChildren children 0 replacement)) = frontSum (topLevel + 1) (.node children) + 1 := by
  have fits : (nextChildren children 0 replacement).length ≤ blockRunIndexTreeFanout :=
    not_lt.mp fun grown => spare ((overflows_iff shape inside).mp grown)
  have nonempty : children ≠ [] := by
    rintro rfl
    cases inside
  have bounded : BoundedTree (topLevel + 1) (.node children) := ⟨nonempty, shape.fits, shape.bounded⟩
  obtain ⟨first, rest, front, sizes⟩ := splice_front (topLevel + 1) two bounded
  obtain ⟨_, _, _, _, rfl, selected, -, -⟩ := select_child inside
  rw [splice_child selected, ← nextChildren_split rfl selected, Parts.overflow, if_pos fits] at front
  split at front
  · cases front
  · obtain ⟨rfl, rfl⟩ := cons.inj front
    exact sizes

theorem TreeRun.rooted (free : host.CollisionFree) {root : Option String} {n : Nat} (run : TreeRun host store root (frontPages n)) :
    ∃ rootId children, root = some rootId ∧ IndexTree host store (some rootId) children ∧ indexPages children = frontPages n := by
  obtain ⟨children, indexed, spelled⟩ := run.indexed free
  have nonempty : children ≠ [] := by
    rintro rfl
    cases n <;> cases spelled
  obtain rfl := indexed.rootId nonempty
  exact ⟨_, children, rfl, indexed, spelled⟩

theorem front_built (free : host.CollisionFree) : ∃ store rootId, TreeRun host store (some rootId) (frontPages 0) := by
  have filled : ∀ page ∈ frontPages 0, PageFilled page := fun page member => mem_singleton.mp member ▸ frontPage_filled 0
  obtain ⟨build, made⟩ : ∃ build, buildBlockRunIndexV5Tree host _ = .ok build := (buildTree_ok filled).2 (le_refl 1)
  have run : TreeRun host (IndexStore.withTree host _ build.nodes {}) _ _ := .built filled (frontPages_chronological 0) made
  obtain ⟨rootId, _, same, -⟩ := run.rooted free
  exact ⟨_, rootId, same ▸ run⟩

structure RefusesFront (host : IndexHost) (n : Nat) (store : IndexStore) (rootId : String) (children : List PageTree) :
    Prop where
  run : TreeRun host store (some rootId) (frontPages n)
  indexed : IndexTree host store (some rootId) children
  spelled : indexPages children = frontPages n
  tight : TreeTight children 2 0

theorem front_reaches (free : host.CollisionFree) (n : Nat) : (∃ store rootId children, TreeRun host store (some rootId) (frontPages n) ∧
      IndexTree host store (some rootId) children ∧ indexPages children = frontPages n ∧
      n ≤ frontSum (topLevel + 1) (.node children)) ∨
    ∃ m < n, ∃ store rootId children, RefusesFront host m store rootId children := by
  induction n with
  | zero =>
    obtain ⟨store, rootId, run⟩ := front_built free
    obtain ⟨_, children, ⟨⟩, indexed, spelled⟩ := run.rooted free
    exact .inl ⟨store, rootId, children, run, indexed, spelled, zero_le _⟩
  | succ n ih =>
    rcases ih with ⟨store, rootId, children, run, indexed, spelled, sizes⟩ | ⟨m, earlier, refused⟩
    · by_cases tight : TreeTight children 2 0
      · exact .inr ⟨n, lt_succ_self n, store, rootId, children, run, indexed, spelled, tight⟩
      · have replaceable : Replaceable host (indexPages children) 0 [frontPage (n + 1), frontPage n] :=
          spelled.symm ▸ frontPages_replaceable n
        obtain ⟨build, updated, next_spelled, next, -⟩ := (update_indexed free indexed replaceable).2 tight
        have next_run := TreeRun.updated run (frontPages_replaceable n) updated
        rw [frontPages_splice] at next_run
        obtain ⟨nextId, _, same, -, -⟩ := next_run.rooted free
        rw [same] at next_run next
        rw [spelled, frontPages_splice] at next_spelled
        refine .inl ⟨_, nextId, _, next_run, next, next_spelled, ?_⟩
        have grown : frontSum (topLevel + 1) (.node (nextChildren children 0 [frontPage (n + 1), frontPage n])) = _ :=
          frontSum_nextChildren indexed.shape replaceable.inside rfl tight
        exact grown.symm ▸ succ_le_succ sizes
    · exact .inr ⟨m, lt_succ_of_lt earlier, refused⟩

/-- A node holds at most 64 children, and five nodes stand on the way to the first page. -/
theorem front_refused (free : host.CollisionFree) : ∃ n ≤ 320, ∃ store rootId children, RefusesFront host n store rootId children := by
  rcases front_reaches free 321 with ⟨_, _, children, _, indexed, spelled, sizes⟩ | ⟨n, within, refused⟩
  · have nonempty : children ≠ [] := by
      rintro rfl
      cases spelled
    have bounded : BoundedTree (topLevel + 1) (.node children) := ⟨nonempty, indexed.shape.fits, indexed.shape.bounded⟩
    exact absurd (sizes.trans (frontSum_le bounded)) (by decide)
  · exact ⟨n, le_of_lt_succ within, refused⟩

/-- Runs that arrive in reverse order: one of the first 322 pages is refused, of a capacity of 64⁵. -/
theorem reverse_order_exhausts_tree : ∃ n ≤ 320, ∃ store rootId, TreeRun sampleIndexHost store (some rootId) (frontPages n) ∧
    Replaceable sampleIndexHost (frontPages n) 0 [frontPage (n + 1), frontPage n] ∧
    ¬ KeepsCapacity sampleIndexHost store rootId (frontPages n) 0 [frontPage (n + 1), frontPage n] := by
  obtain ⟨n, within, store, rootId, children, run, indexed, spelled, tight⟩ := front_refused sampleIndexHost_free
  refine ⟨n, within, store, rootId, run, frontPages_replaceable n, fun keeps => ?_⟩
  have kept := keeps ((update_indexed sampleIndexHost_free indexed (spelled ▸ frontPages_replaceable n)).1 tight)
  have small : (frontPages (n + 1)).length = n + 2 := frontPages_length (n + 1)
  rw [frontPages_splice, small] at kept
  have large : 322 < blockRunIndexMaxPages := by decide
  omega

theorem few_spare (indexed : IndexTree host store (some rootId) children) {n count : Nat}
    (spelled : indexPages children = frontPages n) (few : n + 1 < blockRunIndexTreeFanout) : ¬ TreeTight children count index := by
  intro tight
  have each : ∀ size ∈ children.map fun child => (leaves topLevel child).length, 1 ≤ size := by
    intro size member
    obtain ⟨child, inside, rfl⟩ := mem_map.mp member
    exact length_pos_of_ne_nil (leaves_ne_nil (indexed.shape.bounded child inside))
  have sizes := length_le_sum_of_one_le _ each
  have pages := congrArg List.length spelled
  rw [frontPages_length, indexPages, length_flatten, map_map] at pages
  rw [length_map, tight.1] at sizes
  exact absurd (sizes.trans (le_of_eq pages)) (not_le.mpr few)

theorem front_updated (free : host.CollisionFree) {n : Nat} (few : n + 1 < blockRunIndexTreeFanout) :
    ∃ store rootId children, TreeRun host store (some rootId) (frontPages n) ∧
      IndexTree host store (some rootId) children ∧ indexPages children = frontPages n := by
  rcases front_reaches free n with ⟨store, rootId, children, run, indexed, spelled, -⟩ | ⟨m, earlier, _, _, _, refused⟩
  · exact ⟨store, rootId, children, run, indexed, spelled⟩
  · exact absurd refused.tight (few_spare refused.indexed refused.spelled (by omega))

theorem keepsCapacity_iff_fifth_page : ∃ store rootId children, TreeRun sampleIndexHost store (some rootId) (frontPages 3) ∧
    indexPages children = frontPages 3 ∧ (KeepsCapacity sampleIndexHost store rootId (frontPages 3) 0 [frontPage 4, frontPage 3] ↔
      (TreeTight children 2 0 → blockRunIndexMaxPages < 5)) := by
  obtain ⟨store, rootId, _, run, -⟩ := front_updated (n := 3) sampleIndexHost_free (by decide)
  obtain ⟨children, -, spelled, iff⟩ := keepsCapacity_iff sampleIndexHost_free run
  exact ⟨store, rootId, children, run, spelled, iff rootId 0 _ rfl (frontPages_replaceable 3)⟩

/-- Pages out of order spell no tree. -/
theorem unordered_pages_spell_no_tree : (∃ store rootId children, IndexTree sampleIndexHost store (some rootId) children ∧
      indexPages children = frontPages 3) ∧ (∀ page ∈ [frontPage 3, frontPage 4], PageFilled page) ∧
    ¬ ∃ children, IndexShape sampleIndexHost children ∧
      indexPages children = Parts.splice (frontPages 3) 0 [frontPage 3, frontPage 4] := by
  refine ⟨?_, by simp [frontPage_filled], ?_⟩
  · obtain ⟨store, rootId, children, -, indexed, spelled⟩ := front_updated (n := 3) sampleIndexHost_free (by decide)
    exact ⟨store, rootId, children, indexed, spelled⟩
  · rintro ⟨children, shape, spelled⟩
    have ordered := shape.ordered
    rw [spelled] at ordered
    exact absurd (rel_of_pairwise_cons ordered mem_cons_self) (by decide)

theorem tree_update_splices_fifth_page : ∃ store rootId build next, TreeRun sampleIndexHost store (some rootId) (frontPages 3) ∧
    updateBlockRunIndexV5Tree sampleIndexHost store rootId 0 ([frontPage 4, frontPage 3].map (descriptorOf sampleIndexHost)) =
      .ok build ∧
    IndexTree sampleIndexHost (store.withTree sampleIndexHost [frontPage 4, frontPage 3] build.nodes) build.rootNodeId next ∧
    indexPages next = frontPages 4 := by
  obtain ⟨store, rootId, children, run, indexed, spelled⟩ := front_updated (n := 3) sampleIndexHost_free (by decide)
  have replaceable : Replaceable sampleIndexHost (indexPages children) 0 [frontPage 4, frontPage 3] :=
    spelled ▸ frontPages_replaceable 3
  obtain ⟨build, next, updated, tree, spliced, -⟩ := (tree_update_splices_pages sampleIndexHost_free indexed).1 0 _ replaceable
    (few_spare indexed spelled (by decide))
  rw [spelled, frontPages_splice] at spliced
  exact ⟨store, rootId, build, next, run, updated, tree, spliced⟩

end PlanWeave
