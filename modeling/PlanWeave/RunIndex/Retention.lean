import PlanWeave.RunIndex.Operations
import PlanWeave.RunIndex.PlanSpec
import PlanWeave.RunIndex.TreeSearch

namespace PlanWeave
open Durable IndexStore List OrderedMap

def IndexStore.manifestOf (store : IndexStore) (generation : String) : Option BlockRunIndexManifest :=
  (store.generations.get? generation).bind Generation.manifest

def IndexStore.retirementOf (store : IndexStore) (generation : String) : Option (List RetiredObject) :=
  (store.generations.get? generation).bind Generation.retirement

def IndexStore.liveGenerations (store : IndexStore) : List String :=
  match store.pointer with
  | some (.v5 currentGeneration previousGeneration) => currentGeneration :: previousGeneration.toList
  | _ => []

variable {host : IndexHost} {store left : IndexStore} {children : List PageTree} {rootNodeId : Option String}
  {sound : BlockRunIndexManifest → List BlockRunPage → Prop} {condition : Prop}

structure Addressed (host : IndexHost) (store : IndexStore) : Prop where
  nodes : ∀ objectId node, store.nodes.get? objectId = some node →
    ∃ payload, node = identified host payload ∧ objectId = nodeObjectId host payload
  objects : ∀ objectId page, store.objects.get? objectId = some page →
    ∃ entries, page = storedPage host entries ∧ objectId = pageObjectId host entries

def TrueRecord (host : IndexHost) (objects : List RetiredObject) : Prop :=
  retirementSchema objects = true ∧ ∀ candidate ∈ objects, Retired host candidate

/-- The live generations are complete and sound, objects are content-addressed, and retirement records tell the truth. -/
structure Retains (host : IndexHost) (sound : BlockRunIndexManifest → List BlockRunPage → Prop) (store : IndexStore) : Prop where
  addressed : Addressed host store
  retirements : ∀ generation objects, store.retirementOf generation = some objects → TrueRecord host objects
  live : ∀ generation ∈ store.liveGenerations, ∃ manifest children, store.manifestOf generation = some manifest ∧
    IndexTree host store manifest.rootNodeId children ∧ sound manifest (indexPages children)
  legacy : ∀ entries, store.pointer = some (.legacy entries) → ∀ manifest, sound manifest [entries]

structure Grown (store left : IndexStore) : Prop where
  pointer : left.pointer = store.pointer
  generations : left.generations = store.generations
  nodes : ∀ objectId node, store.nodes.get? objectId = some node → left.nodes.get? objectId = some node
  objects : ∀ objectId page, store.objects.get? objectId = some page → left.objects.get? objectId = some page

theorem Grown.refl (store : IndexStore) : Grown store store := ⟨rfl, rfl, fun _ _ found => found, fun _ _ found => found⟩

theorem Grown.trans {middle : IndexStore} (first : Grown store middle) (second : Grown middle left) : Grown store left where
  pointer := second.pointer.trans first.pointer
  generations := second.generations.trans first.generations
  nodes := fun objectId node found => second.nodes objectId node (first.nodes objectId node found)
  objects := fun objectId page found => second.objects objectId page (first.objects objectId page found)

theorem IndexTree.of_objects (indexed : IndexTree host store rootNodeId children)
    (nodes : children ≠ [] → ∀ payload ∈ rootPayloads host children, ∀ node,
      store.nodes.get? (nodeObjectId host payload) = some node → left.nodes.get? (nodeObjectId host payload) = some node)
    (objects : ∀ page ∈ indexPages children, ∀ stored,
      store.objects.get? (pageObjectId host page) = some stored → left.objects.get? (pageObjectId host page) = some stored) :
    IndexTree host left rootNodeId children where
  root := indexed.root
  shape := indexed.shape
  nodes := fun nonempty payload found => nodes nonempty payload found _ (indexed.nodes nonempty payload found)
  objects := fun page found => objects page found _ (indexed.objects page found)

theorem IndexTree.grow (indexed : IndexTree host store rootNodeId children) (grown : Grown store left) :
    IndexTree host left rootNodeId children :=
  indexed.of_objects (fun _ _ _ node found => grown.nodes _ node found) fun _ _ stored found => grown.objects _ stored found

theorem Retains.delete (retains : Retains host sound store) (pointer : left.pointer = store.pointer)
    (generations : left.generations = store.generations) (addressed : Addressed host left)
    (kept : ∀ generation ∈ store.liveGenerations, ∀ manifest children, store.manifestOf generation = some manifest →
      IndexTree host store manifest.rootNodeId children → IndexTree host left manifest.rootNodeId children) : Retains host sound left where
  addressed := addressed
  retirements := fun generation objects found => by
    unfold retirementOf at found
    rw [generations] at found
    exact retains.retirements generation objects found
  live := fun generation member => by
    unfold liveGenerations at member
    rw [pointer] at member
    obtain ⟨manifest, children, found, indexed, held⟩ := retains.live generation member
    refine ⟨manifest, children, ?_, kept generation member manifest children found indexed, held⟩
    unfold manifestOf
    rw [generations]
    exact found
  legacy := fun entries legacy => retains.legacy entries (pointer ▸ legacy)

theorem Retains.grow (retains : Retains host sound store) (grown : Grown store left) (addressed : Addressed host left) :
    Retains host sound left :=
  retains.delete grown.pointer grown.generations addressed fun _ _ _ _ _ indexed => indexed.grow grown

theorem setObject_grown (addressed : Addressed host store) {entries : BlockRunPage}
    (absent : store.objects.get? (pageObjectId host entries) = none) :
    Grown store (store.setObject (storedPage host entries)) ∧ Addressed host (store.setObject (storedPage host entries)) := by
  exact ⟨⟨rfl, rfl, fun _ _ found => found, get?_set_kept absent⟩,
    ⟨addressed.nodes, forall_get?_set addressed.objects ⟨entries, rfl, rfl⟩⟩⟩

theorem setNode_grown (addressed : Addressed host store) {payload : TreePayload}
    (absent : store.nodes.get? (nodeObjectId host payload) = none) :
    Grown store (store.setNode (identified host payload)) ∧ Addressed host (store.setNode (identified host payload)) := by
  exact ⟨⟨rfl, rfl, get?_set_kept absent, fun _ _ found => found⟩,
    ⟨forall_get?_set addressed.nodes ⟨payload, rfl, rfl⟩, addressed.objects⟩⟩

variable {ν : Type} {key objectId : String}

theorem has_false {map : OrderedMap String ν} (absent : (!map.has key) = true) : map.get? key = none := by
  unfold OrderedMap.has at absent
  cases found : map.get? key with
  | none => rfl
  | some => rw [found] at absent; cases absent

theorem has_true {map : OrderedMap String ν} (present : (!map.has key) = false) :
    ∃ value, map.get? key = some value := by
  unfold OrderedMap.has at present
  cases found : map.get? key with
  | none => rw [found] at present; cases present
  | some value => exact ⟨value, rfl⟩

section
variable (free : host.CollisionFree)
include free

section
variable (retains : Retains host sound store)
include retains

theorem storePage_completes (entries : BlockRunPage) :
    (when (!store.objects.has (pageObjectId host entries)) (write fun store =>
      store.setObject { objectId := pageObjectId host entries, checksum := host.pageChecksum entries, entries }) :
      Indexing Unit).Completes condition store (Retains host sound) fun _ left => Retains host sound left ∧
        left.objects.get? (pageObjectId host entries) = some (storedPage host entries) ∧ Grown store left := by
  refine completes_when (fun needed => ?_) fun present => ?_
  · obtain ⟨grown, addressed⟩ := setObject_grown retains.addressed (has_false needed)
    have kept := retains.grow grown addressed
    exact completes_write kept ⟨kept, get?_set_self _ _ _, grown⟩
  · obtain ⟨page, found⟩ := has_true present
    obtain ⟨_, same, key⟩ := retains.addressed.objects _ page found
    have content := pageObjectId_injective free key
    subst content
    rw [same] at found
    exact ⟨retains, found, Grown.refl store⟩

theorem writePageObject_completes {entries : BlockRunPage} (filled : PageFilled entries) :
    (writePageObject host (pageObjectId host entries) entries).Completes condition store (Retains host sound) fun _ left =>
      Retains host sound left ∧ left.objects.get? (pageObjectId host entries) = some (storedPage host entries) ∧ Grown store left := by
  refine completes_read_bind ?_
  refine (storePage_completes free retains entries).bind fun _ reached holds => ?_
  refine completes_read_bind (completes_lift_bind (fun _ => ⟨_, pageDescriptor_ok filled.1⟩) fun descriptor described => ?_)
  cases (pageDescriptor_ok filled.1).symm.trans described
  exact completes_lift_bind (fun _ => ⟨_, readV4PageObject_ok filled holds.2.1⟩) fun _ _ => completes_pure holds

theorem storeNode_completes (payload : TreePayload) :
    (when (!store.nodes.has (identified host payload).objectId)
      (write fun store => store.setNode (identified host payload)) : Indexing Unit).Completes condition store
      (Retains host sound) fun _ left => Retains host sound left ∧
        left.nodes.get? (nodeObjectId host payload) = some (identified host payload) ∧ Grown store left := by
  refine completes_when (fun needed => ?_) fun present => ?_
  · obtain ⟨grown, addressed⟩ := setNode_grown retains.addressed (has_false needed)
    have kept := retains.grow grown addressed
    exact completes_write kept ⟨kept, get?_set_self _ _ _, grown⟩
  · obtain ⟨node, found⟩ := has_true present
    obtain ⟨other, same, key⟩ := retains.addressed.nodes _ node found
    have content : payload = other := nodeObjectId_injective free key
    subst content
    rw [same] at found
    exact ⟨retains, found, Grown.refl store⟩

theorem writeTreeNode_completes {payload : TreePayload} (schema : treePayloadSchema payload = true) :
    (writeTreeNode host (identified host payload)).Completes condition store (Retains host sound) fun _ left =>
      Retains host sound left ∧ left.nodes.get? (nodeObjectId host payload) = some (identified host payload) ∧ Grown store left := by
  refine completes_read_bind ?_
  refine (storeNode_completes free retains payload).bind fun _ reached holds => completes_read_bind ?_
  exact completes_lift_bind (fun _ => ⟨_, readTreeNode_ok holds.2.1 schema⟩) fun _ _ => completes_pure holds

theorem writePages_completes {newPages : OrderedMap String BlockRunPage}
    (keyed : ∀ key page, newPages.get? key = some page → key = pageObjectId host page ∧ PageFilled page) :
    (forEach newPages.entries fun page => writePageObject host page.1 page.2).Completes condition store
      (Retains host sound) fun _ left =>
      Retains host sound left ∧ (∀ key page, newPages.get? key = some page → left.objects.get? key = some (storedPage host page)) ∧
        Grown store left := by
  refine (completes_forEach_each (Retains host sound) Grown
    (fun entry left => left.objects.get? entry.1 = some (storedPage host entry.2)) retains Grown.refl
    (fun _ _ _ => Grown.trans) (fun entry _ _ found grown => grown.objects entry.1 (storedPage host entry.2) found) ?_).mono ?_
  · intro entry member reached holds
    obtain ⟨key, filled⟩ := keyed entry.1 entry.2 (newPages.get?_eq_some_iff.mpr member)
    rw [key]
    exact writePageObject_completes free holds filled
  · rintro _ _ ⟨kept, done, grown⟩
    exact ⟨kept, fun key page found => done (key, page) (newPages.get?_eq_some_iff.mp found), grown⟩

theorem writeNodes_completes {nodes : List TreeNode}
    (addressed : ∀ node ∈ nodes, ∃ payload, node = identified host payload ∧ treePayloadSchema payload = true) :
    (forEach nodes (writeTreeNode host)).Completes condition store (Retains host sound) fun _ left =>
      Retains host sound left ∧ (∀ node ∈ nodes, left.nodes.get? node.objectId = some node) ∧ Grown store left := by
  refine completes_forEach_each (Retains host sound) Grown (fun node left => left.nodes.get? node.objectId = some node) retains
    Grown.refl (fun _ _ _ => Grown.trans) (fun node _ _ found grown => grown.nodes node.objectId node found) ?_
  intro node member reached holds
  obtain ⟨payload, same, schema⟩ := addressed node member
  rw [same]
  exact writeTreeNode_completes free holds schema
end
end

section Generations
variable {generation other : String} {change : Generation → Generation}

theorem setGeneration_files (store : IndexStore) (generation other : String) (change : Generation → Generation) :
    (store.setGeneration generation change).generations.get? other =
      if other = generation then some (change ((store.generations.get? generation).getD {})) else store.generations.get? other :=
  get?_set _ _ _ _

theorem manifestOf_setGeneration_self (store : IndexStore) (generation : String) (change : Generation → Generation) :
    (store.setGeneration generation change).manifestOf generation =
      (change ((store.generations.get? generation).getD {})).manifest := by
  unfold manifestOf
  rw [setGeneration_files, if_pos rfl]
  rfl

theorem manifestOf_setGeneration_of_ne (store : IndexStore) (change : Generation → Generation) (different : other ≠ generation) :
    (store.setGeneration generation change).manifestOf other = store.manifestOf other := by
  unfold manifestOf
  rw [setGeneration_files, if_neg different]

theorem manifestOf_getD (store : IndexStore) (generation : String) :
    ((store.generations.get? generation).getD {}).manifest = store.manifestOf generation := by
  unfold manifestOf
  cases store.generations.get? generation <;> rfl

theorem retirementOf_getD (store : IndexStore) (generation : String) :
    ((store.generations.get? generation).getD {}).retirement = store.retirementOf generation := by
  unfold retirementOf
  cases store.generations.get? generation <;> rfl

theorem IndexTree.same_objects (indexed : IndexTree host store rootNodeId children) (nodes : left.nodes = store.nodes)
    (objects : left.objects = store.objects) : IndexTree host left rootNodeId children :=
  indexed.of_objects (fun _ _ _ _ found => nodes ▸ found) fun _ _ _ found => objects ▸ found

section
variable (retains : Retains host sound store)
include retains

theorem Retains.setGeneration (manifest : generation ∈ store.liveGenerations → ∃ manifest children,
      (change ((store.generations.get? generation).getD {})).manifest = some manifest ∧
        IndexTree host store manifest.rootNodeId children ∧ sound manifest (indexPages children))
    (retirement : ∀ objects, (change ((store.generations.get? generation).getD {})).retirement = some objects →
      TrueRecord host objects) : Retains host sound (store.setGeneration generation change) where
  addressed := ⟨retains.addressed.nodes, retains.addressed.objects⟩
  retirements := fun other objects found => by
    unfold retirementOf at found
    rw [setGeneration_files] at found
    split at found
    · exact retirement objects found
    · exact retains.retirements other objects found
  live := fun other member => by
    by_cases same : other = generation
    · subst same
      obtain ⟨given, children, found, indexed, held⟩ := manifest member
      exact ⟨given, children, (manifestOf_setGeneration_self store other change).trans found, indexed.same_objects rfl rfl, held⟩
    · obtain ⟨given, children, found, indexed, held⟩ := retains.live other member
      exact ⟨given, children, (manifestOf_setGeneration_of_ne store change same).trans found, indexed.same_objects rfl rfl, held⟩
  legacy := retains.legacy

theorem Retains.setGeneration_keep (keeps : ∀ files, (change files).manifest = files.manifest)
    (retirement : ∀ objects, (change ((store.generations.get? generation).getD {})).retirement = some objects →
      TrueRecord host objects) : Retains host sound (store.setGeneration generation change) := by
  refine retains.setGeneration (fun member => ?_) retirement
  obtain ⟨manifest, children, found, indexed, held⟩ := retains.live generation member
  refine ⟨manifest, children, ?_, indexed, held⟩
  rw [keeps, manifestOf_getD]
  exact found

theorem Retains.retirement_kept (generation : String) :
    ∀ objects, ((store.generations.get? generation).getD {}).retirement = some objects → TrueRecord host objects := by
  intro objects found
  rw [retirementOf_getD] at found
  exact retains.retirements generation objects found
end

theorem manifestOf_dropGeneration_of_ne (store : IndexStore) (different : other ≠ generation) :
    (store.dropGeneration generation).manifestOf other = store.manifestOf other := by
  unfold manifestOf
  rw [show (store.dropGeneration generation).generations.get? other = store.generations.get? other from
    (get?_erase _ _ _).trans (if_neg different)]

theorem Retains.dropGeneration (retains : Retains host sound store) (dead : generation ∉ store.liveGenerations) :
    Retains host sound (store.dropGeneration generation) where
  addressed := ⟨retains.addressed.nodes, retains.addressed.objects⟩
  retirements := fun other objects found => by
    obtain ⟨files, listed, recorded⟩ := Option.bind_eq_some_iff.mp found
    exact retains.retirements other objects (Option.bind_eq_some_iff.mpr ⟨files, get?_of_erase listed, recorded⟩)
  live := fun other member => by
    have different : other ≠ generation := fun same => dead (same ▸ member)
    obtain ⟨manifest, children, found, indexed, held⟩ := retains.live other member
    exact ⟨manifest, children, (manifestOf_dropGeneration_of_ne store different).trans found, indexed.same_objects rfl rfl, held⟩
  legacy := retains.legacy

structure Spared (generation : String) (store left : IndexStore) : Prop where
  pointer : left.pointer = store.pointer
  nodes : left.nodes = store.nodes
  objects : left.objects = store.objects
  manifests : ∀ other, other ≠ generation → left.manifestOf other = store.manifestOf other

theorem removeGeneration_completes (retains : Retains host sound store) (dead : generation ∉ store.liveGenerations) :
    (removeGeneration generation).Completes condition store (Retains host sound) fun _ left =>
      Retains host sound left ∧ Spared generation store left := by
  have first : Retains host sound (store.setGeneration generation fun files => { files with manifest := none }) :=
    retains.setGeneration (fun member => absurd member dead) (retains.retirement_kept generation)
  refine completes_write_bind first ?_
  have second : Retains host sound ((store.setGeneration generation fun files => { files with manifest := none }).setGeneration
      generation fun files => { files with retirement := none }) :=
    first.setGeneration (fun member => absurd member dead) fun objects cleared => absurd cleared (by simp)
  refine completes_write_bind second ?_
  have third := second.dropGeneration dead
  refine completes_write third ⟨third, ⟨rfl, rfl, rfl, ?_⟩⟩
  intro other different
  rw [manifestOf_dropGeneration_of_ne _ different, manifestOf_setGeneration_of_ne _ _ different,
    manifestOf_setGeneration_of_ne _ _ different]

end Generations

theorem IndexTree.dropObject (indexed : IndexTree host store rootNodeId children)
    (unused : ∀ page ∈ indexPages children, pageObjectId host page ≠ objectId) :
    IndexTree host (store.dropObject objectId) rootNodeId children := by
  refine indexed.of_objects (fun _ _ _ _ found => found) fun page member stored found => ?_
  exact ((get?_erase _ _ _).trans (if_neg (unused page member))).trans found

theorem IndexTree.dropNode (indexed : IndexTree host store rootNodeId children)
    (unused : children ≠ [] → ∀ payload ∈ rootPayloads host children, nodeObjectId host payload ≠ objectId) :
    IndexTree host (store.dropNode objectId) rootNodeId children := by
  refine indexed.of_objects (fun nonempty payload member node found => ?_) fun _ _ _ found => found
  exact ((get?_erase _ _ _).trans (if_neg (unused nonempty payload member))).trans found

theorem Addressed.dropObject (addressed : Addressed host store) (objectId : String) : Addressed host (store.dropObject objectId) where
  nodes := addressed.nodes
  objects := fun key page found => addressed.objects key page (get?_of_erase found)

theorem Addressed.dropNode (addressed : Addressed host store) (objectId : String) : Addressed host (store.dropNode objectId) where
  nodes := fun key node found => addressed.nodes key node (get?_of_erase found)
  objects := addressed.objects

structure Maintaining (host : IndexHost) (sound : BlockRunIndexManifest → List BlockRunPage → Prop)
    (currentGeneration previousGeneration : String)
    (currentManifest previousManifest : BlockRunIndexManifest) (store : IndexStore) : Prop where
  retains : Retains host sound store
  pointer : store.pointer = some (.v5 currentGeneration (some previousGeneration))
  current : store.manifestOf currentGeneration = some currentManifest
  previous : store.manifestOf previousGeneration = some previousManifest

section Maintenance
variable {currentGeneration previousGeneration : String} {currentManifest previousManifest : BlockRunIndexManifest}
  {candidate : RetiredObject}

variable {previous : Option String}

theorem liveGenerations_of_pointer (pointer : store.pointer = some (.v5 currentGeneration previous)) :
    store.liveGenerations = currentGeneration :: previous.toList := by
  unfold liveGenerations
  rw [pointer]

theorem assertPublishedV5Pointer_completes {invariant during : IndexStore → Prop} (holds : during store)
    (pointer : store.pointer = some (.v5 currentGeneration previous)) :
    (assertPublishedV5Pointer currentGeneration previous).Completes condition store invariant fun _ left => during left := by
  refine completes_read_bind ?_
  rw [if_pos pointer]
  exact completes_pure holds

variable {names : List String} {generation : String}

theorem ne_of_other {name : String}
    (member : name ∈ names.filter fun generation => generation ≠ currentGeneration && generation ≠ previousGeneration) :
    name ≠ currentGeneration ∧ name ≠ previousGeneration := by
  simpa using (mem_filter.mp member).2

variable {manifest : BlockRunIndexManifest}
variable (maintaining : Maintaining host sound currentGeneration previousGeneration currentManifest previousManifest store)
include maintaining

theorem Maintaining.live (member : generation ∈ store.liveGenerations)
    (found : store.manifestOf generation = some manifest) : manifest = currentManifest ∨ manifest = previousManifest := by
  rw [liveGenerations_of_pointer maintaining.pointer] at member
  simp only [Option.toList_some, mem_cons, not_mem_nil, or_false] at member
  rcases member with same | same
  · rw [same, maintaining.current] at found
    exact .inl (Option.some.inj found).symm
  · rw [same, maintaining.previous] at found
    exact .inr (Option.some.inj found).symm

theorem Maintaining.unreferenced (free : host.CollisionFree) (retired : Retired host candidate)
    (byCurrent : blockRunIndexV5TreeReferencesObject host store currentManifest.rootNodeId candidate = .ok false)
    (byPrevious : blockRunIndexV5TreeReferencesObject host store previousManifest.rootNodeId candidate = .ok false)
    (member : generation ∈ store.liveGenerations)
    (found : store.manifestOf generation = some manifest) (indexed : IndexTree host store manifest.rootNodeId children) :
    ¬ StandsIn host children candidate := by
  obtain ⟨_, ran, answers⟩ := referencesObject_ok free retired indexed
  intro stands
  have hit := answers.mpr stands
  subst hit
  rcases maintaining.live member found with same | same
  · rw [same, byCurrent] at ran
    cases ran
  · rw [same, byPrevious] at ran
    cases ran

theorem Maintaining.search (free : host.CollisionFree) (retired : Retired host candidate) :
    (∃ answer, blockRunIndexV5TreeReferencesObject host store currentManifest.rootNodeId candidate = .ok answer) ∧
      ∃ answer, blockRunIndexV5TreeReferencesObject host store previousManifest.rootNodeId candidate = .ok answer := by
  have live := liveGenerations_of_pointer maintaining.pointer
  obtain ⟨_, _, current_found, current_indexed, _⟩ := maintaining.retains.live currentGeneration (by rw [live]; simp)
  obtain ⟨_, _, previous_found, previous_indexed, _⟩ := maintaining.retains.live previousGeneration (by rw [live]; simp)
  cases maintaining.current.symm.trans current_found
  cases maintaining.previous.symm.trans previous_found
  obtain ⟨current_answer, current_ran, _⟩ := referencesObject_ok free retired current_indexed
  obtain ⟨previous_answer, previous_ran, _⟩ := referencesObject_ok free retired previous_indexed
  exact ⟨⟨current_answer, current_ran⟩, ⟨previous_answer, previous_ran⟩⟩

theorem retireObject_completes (free : host.CollisionFree) (retired : Retired host candidate) :
    (retireObject host currentManifest.rootNodeId previousManifest.rootNodeId candidate).Completes condition store (Retains host sound) fun _ left =>
      Maintaining host sound currentGeneration previousGeneration currentManifest previousManifest left := by
  obtain ⟨current_answers, previous_answers⟩ := maintaining.search free retired
  refine completes_read_bind (completes_lift_bind (fun _ => current_answers) fun byCurrent current_ran =>
    completes_lift_bind (fun _ => previous_answers) fun byPrevious previous_ran => ?_)
  refine completes_when (fun unreferenced => ?_) fun _ => maintaining
  simp only [Bool.not_eq_true', Bool.or_eq_false_iff] at unreferenced
  obtain ⟨rfl, rfl⟩ := unreferenced
  have missing : ∀ generation ∈ store.liveGenerations, ∀ manifest children, store.manifestOf generation = some manifest →
      IndexTree host store manifest.rootNodeId children → ¬ StandsIn host children candidate :=
    fun generation member manifest children found indexed =>
      maintaining.unreferenced free retired current_ran previous_ran member found indexed
  by_cases is_page : candidate.level = -1
  · have kept : Retains host sound (store.dropObject candidate.objectId) := by
      refine maintaining.retains.delete rfl rfl (maintaining.retains.addressed.dropObject _) ?_
      intro generation member manifest children found indexed
      refine indexed.dropObject fun page page_member same => missing generation member manifest children found indexed ?_
      unfold StandsIn
      rw [if_pos is_page]
      exact ⟨page, page_member, same⟩
    refine completes_write ?_ ?_
    · rw [if_pos is_page]
      exact kept
    · rw [if_pos is_page]
      exact ⟨kept, maintaining.pointer, maintaining.current, maintaining.previous⟩
  · have kept : Retains host sound (store.dropNode candidate.objectId) := by
      refine maintaining.retains.delete rfl rfl (maintaining.retains.addressed.dropNode _) ?_
      intro generation member manifest children found indexed
      refine indexed.dropNode fun nonempty payload payload_member same =>
        missing generation member manifest children found indexed ?_
      unfold StandsIn
      rw [if_neg is_page]
      exact ⟨nonempty, payload, payload_member, same⟩
    refine completes_write ?_ ?_
    · rw [if_neg is_page]
      exact kept
    · rw [if_neg is_page]
      exact ⟨kept, maintaining.pointer, maintaining.current, maintaining.previous⟩

theorem removeOtherGenerations_completes
    (others : ∀ name ∈ names, name ≠ currentGeneration ∧ name ≠ previousGeneration) :
    (forEach names removeGeneration).Completes condition store (Retains host sound) fun _ left =>
      Maintaining host sound currentGeneration previousGeneration currentManifest previousManifest left := by
  refine completes_forEach _ maintaining fun name member reached holds => ?_
  obtain ⟨not_current, not_previous⟩ := others name member
  have dead : name ∉ reached.liveGenerations := by
    rw [liveGenerations_of_pointer holds.pointer]
    simp [not_current, not_previous]
  refine (removeGeneration_completes holds.retains dead).mono ?_
  rintro _ _ ⟨kept, spared⟩
  exact {
    retains := kept, pointer := spared.pointer.trans holds.pointer
    current := (spared.manifests _ (Ne.symm not_current)).trans holds.current
    previous := (spared.manifests _ (Ne.symm not_previous)).trans holds.previous }

theorem incrementallyMaintain_completes (free : host.CollisionFree) {retirement : List RetiredObject}
    (retired : ∀ candidate ∈ retirement, Retired host candidate) :
    (incrementallyMaintainPublishedGeneration host currentGeneration previousGeneration currentManifest previousManifest
      retirement).Completes condition store (Retains host sound) fun _ left =>
        Maintaining host sound currentGeneration previousGeneration currentManifest previousManifest left := by
  refine (assertPublishedV5Pointer_completes maintaining maintaining.pointer).bind fun _ reached holds => ?_
  refine completes_read_bind ?_
  refine (removeOtherGenerations_completes holds fun _ => ne_of_other).bind fun _ reached holds => ?_
  refine (completes_forEach _ holds fun candidate member reached holds =>
    retireObject_completes holds free (retired candidate member)).bind fun _ reached holds => ?_
  refine (assertPublishedV5Pointer_completes holds holds.pointer).bind fun _ reached holds => ?_
  have kept : Retains host sound (reached.setGeneration previousManifest.generation fun files => { files with retirement := none }) :=
    holds.retains.setGeneration_keep (fun _ => rfl) fun objects cleared => absurd cleared (by simp)
  have manifest_kept : ∀ generation, (reached.setGeneration previousManifest.generation
      fun files => { files with retirement := none }).manifestOf generation = reached.manifestOf generation := by
    intro generation
    by_cases same : generation = previousManifest.generation
    · rw [same, manifestOf_setGeneration_self]
      exact manifestOf_getD _ _
    · exact manifestOf_setGeneration_of_ne _ _ same
  refine completes_write kept ?_
  exact ⟨kept, holds.pointer, (manifest_kept _).trans holds.current, (manifest_kept _).trans holds.previous⟩

omit maintaining

theorem readV5Manifest_some (ran : readV5Manifest store generation = .ok manifest) :
    store.manifestOf generation = some manifest ∧ manifest.generation = generation ∧
      blockRunIndexManifestSchema manifest = true := by
  unfold readV5Manifest at ran
  split at ran
  · cases ran
  rename_i stored found
  split at ran
  · cases ran
  rename_i schema
  split at ran
  · cases ran
  rename_i named
  split at ran
  · cases ran
  split at ran
  · cases ran
  split at ran
  · cases ran
  · cases ran
    refine ⟨found, not_not.mp named, ?_⟩
    simpa using schema

theorem readRetirement_some {objects : List RetiredObject}
    (ran : readRetirement store generation = .ok (some objects)) : store.retirementOf generation = some objects := by
  unfold readRetirement at ran
  split at ran
  · cases ran
  rename_i stored found
  split at ran
  · cases ran
    exact found
  · cases ran

structure Publishing (host : IndexHost) (sound : BlockRunIndexManifest → List BlockRunPage → Prop)
    (currentGeneration : String) (previousGeneration : Option String)
    (currentManifest : BlockRunIndexManifest) (store : IndexStore) : Prop where
  retains : Retains host sound store
  pointer : store.pointer = some (.v5 currentGeneration previousGeneration)
  current : store.manifestOf currentGeneration = some currentManifest

theorem maintainPending_completes (free : host.CollisionFree) {previousGeneration : Option String} {force : Bool}
    (publishing : Publishing host sound currentGeneration previousGeneration currentManifest store)
    (reads : condition → ∀ name, previousGeneration = some name →
      (∃ record, readRetirement store name = .ok record) ∧ ∃ manifest, readV5Manifest store name = .ok manifest) :
    (maintainPendingV5Retirement host currentGeneration previousGeneration currentManifest force).Completes condition store
      (Retains host sound) fun _ left => Publishing host sound currentGeneration previousGeneration currentManifest left := by
  cases previousGeneration with
  | none => exact completes_pure publishing
  | some previousGeneration =>
    refine completes_read_bind (completes_lift_bind (fun holds => (reads holds _ rfl).1) fun retirement retirement_ran => ?_)
    refine completes_when (fun _ => ?_) fun _ => publishing
    refine completes_lift_bind (fun holds => (reads holds _ rfl).2) fun previousManifest previous_ran => ?_
    have retired : ∀ candidate ∈ retirement.getD [], Retired host candidate := by
      cases retirement with
      | none => exact fun candidate member => absurd member not_mem_nil
      | some objects => exact (publishing.retains.retirements previousGeneration objects (readRetirement_some retirement_ran)).2
    have maintaining : Maintaining host sound currentGeneration previousGeneration currentManifest previousManifest store :=
      ⟨publishing.retains, publishing.pointer, publishing.current, (readV5Manifest_some previous_ran).1⟩
    refine (incrementallyMaintain_completes maintaining free retired).mono ?_
    intro _ left holds
    exact ⟨holds.retains, holds.pointer, holds.current⟩

end Maintenance
end PlanWeave
