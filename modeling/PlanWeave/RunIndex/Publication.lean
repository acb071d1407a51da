import PlanWeave.RunIndex.Retention

namespace PlanWeave
open Checked Durable List
variable {host : IndexHost} {store left : IndexStore} {children next : List PageTree} {rootNodeId : Option String}
  {generation currentGeneration : String} {previousGeneration : Option String} {manifest : BlockRunIndexManifest}
  {sound : BlockRunIndexManifest → List BlockRunPage → Prop} {condition : Prop}

def Covers (host : IndexHost) (closure : LiveClosure) (children : List PageTree) : Prop :=
  (∀ page ∈ indexPages children, pageObjectId host page ∈ closure.objects) ∧
    (children ≠ [] → ∀ payload ∈ rootPayloads host children, nodeObjectId host payload ∈ closure.nodes)

def CoversAll (host : IndexHost) (store : IndexStore) (closure : LiveClosure) : Prop :=
  ∀ generation ∈ closure.generations, ∀ manifest children, store.manifestOf generation = some manifest →
    IndexTree host store manifest.rootNodeId children → Covers host closure children

theorem liveGeneration_covers {closure grown : LiveClosure} (covered : CoversAll host store closure)
    (ran : liveGeneration host store closure generation = .ok grown) :
    CoversAll host store grown ∧ generation ∈ grown.generations ∧ ∀ other ∈ closure.generations, other ∈ grown.generations := by
  unfold liveGeneration at ran
  by_cases known : generation ∈ closure.generations
  · rw [if_pos known] at ran
    cases ran
    exact ⟨covered, known, fun _ member => member⟩
  · rw [if_neg known] at ran
    obtain ⟨_, manifest_ran, ran⟩ := Checked.bind_ok.mp ran
    obtain ⟨⟨_, _⟩, collected, ran⟩ := Checked.bind_ok.mp ran
    simp only at ran
    split at ran
    · cases ran
    split at ran
    · cases ran
    cases ran
    refine ⟨?_, by simp, fun other member => by simp [member]⟩
    intro other member given children found indexed
    rcases mem_append.mp member with old | new
    · obtain ⟨objects, node_ids⟩ := covered other old given children found indexed
      exact ⟨fun page inside => mem_append_left _ (objects page inside),
        fun nonempty payload inside => mem_append_left _ (node_ids nonempty payload inside)⟩
    · rw [mem_singleton.mp new, (readV5Manifest_some manifest_ran).1] at found
      cases found
      rw [indexed.collect] at collected
      cases collected
      refine ⟨fun page inside => mem_append_right _ ?_, fun nonempty payload inside => mem_append_right _ ?_⟩
      · rw [map_map]
        exact mem_map.mpr ⟨page, inside, rfl⟩
      · rw [if_neg nonempty]
        exact mem_map_of_mem inside

theorem verifyV5LiveClosure_covers {closure : LiveClosure}
    (ran : verifyV5LiveClosure host store currentGeneration previousGeneration = .ok closure) :
    CoversAll host store closure ∧ ∀ generation ∈ currentGeneration :: previousGeneration.toList, generation ∈ closure.generations := by
  have start : CoversAll host store ⟨[], [], []⟩ := fun generation member => absurd member not_mem_nil
  obtain ⟨_, first_ran, ran⟩ := foldlM_cons_inv ran
  obtain ⟨first_covered, first_known, _⟩ := liveGeneration_covers start first_ran
  cases previousGeneration with
  | none =>
    cases ran
    refine ⟨first_covered, fun generation member => ?_⟩
    rw [mem_singleton.mp member]
    exact first_known
  | some =>
    obtain ⟨_, second_ran, ran⟩ := foldlM_cons_inv ran
    cases ran
    obtain ⟨second_covered, second_known, kept⟩ := liveGeneration_covers first_covered second_ran
    refine ⟨second_covered, fun generation member => ?_⟩
    simp only [Option.toList_some, mem_cons, not_mem_nil, or_false] at member
    rcases member with same | same
    · rw [same]
      exact kept _ first_known
    · rw [same]
      exact second_known

structure Collecting (host : IndexHost) (sound : BlockRunIndexManifest → List BlockRunPage → Prop)
    (closure : LiveClosure) (currentGeneration : String) (previousGeneration : Option String)
    (manifest : BlockRunIndexManifest) (store : IndexStore) : Prop where
  publishing : Publishing host sound currentGeneration previousGeneration manifest store
  known : ∀ generation ∈ store.liveGenerations, generation ∈ closure.generations
  covered : CoversAll host store closure

section Collecting
variable {closure : LiveClosure}
variable {objectId : String}

theorem IndexTree.back (indexed : IndexTree host (store.dropObject objectId) rootNodeId children) :
    IndexTree host store rootNodeId children := by
  exact indexed.of_objects (fun _ _ _ _ found => found) fun _ _ _ found => OrderedMap.get?_of_erase found

theorem IndexTree.back_node (indexed : IndexTree host (store.dropNode objectId) rootNodeId children) :
    IndexTree host store rootNodeId children := by
  exact indexed.of_objects (fun _ _ _ _ found => OrderedMap.get?_of_erase found) fun _ _ _ found => found

section
variable (collecting : Collecting host sound closure currentGeneration previousGeneration manifest store)
include collecting

theorem Collecting.dropObject (garbage : objectId ∉ closure.objects) :
    Collecting host sound closure currentGeneration previousGeneration manifest (store.dropObject objectId) where
  publishing := {
    retains := collecting.publishing.retains.delete rfl rfl (collecting.publishing.retains.addressed.dropObject objectId)
      fun generation member given children found indexed => indexed.dropObject fun page inside same =>
        garbage (same ▸ (collecting.covered generation (collecting.known generation member) given children found indexed).1 page inside)
    pointer := collecting.publishing.pointer
    current := collecting.publishing.current }
  known := collecting.known
  covered := fun generation member given children found indexed =>
    collecting.covered generation member given children found indexed.back

theorem Collecting.dropNode (garbage : objectId ∉ closure.nodes) :
    Collecting host sound closure currentGeneration previousGeneration manifest (store.dropNode objectId) where
  publishing := {
    retains := collecting.publishing.retains.delete rfl rfl (collecting.publishing.retains.addressed.dropNode objectId)
      fun generation member given children found indexed => indexed.dropNode fun nonempty payload inside same =>
        garbage (same ▸ (collecting.covered generation (collecting.known generation member) given children found indexed).2
          nonempty payload inside)
    pointer := collecting.publishing.pointer
    current := collecting.publishing.current }
  known := collecting.known
  covered := fun generation member given children found indexed =>
    collecting.covered generation member given children found indexed.back_node

theorem Collecting.removeGeneration {name : String} (garbage : name ∉ closure.generations) :
    (PlanWeave.removeGeneration name).Completes condition store (Retains host sound) fun _ left =>
      Collecting host sound closure currentGeneration previousGeneration manifest left := by
  have dead : name ∉ store.liveGenerations := fun member => garbage (collecting.known name member)
  refine (removeGeneration_completes collecting.publishing.retains dead).mono ?_
  rintro _ _ ⟨kept, spared⟩
  have not_current : currentGeneration ≠ name := by
    intro same
    apply dead
    rw [liveGenerations_of_pointer collecting.publishing.pointer, ← same]
    exact mem_cons_self
  exact {
    publishing := ⟨kept, spared.pointer.trans collecting.publishing.pointer,
      (spared.manifests _ not_current).trans collecting.publishing.current⟩
    known := fun generation member => by
      unfold IndexStore.liveGenerations at member
      rw [spared.pointer] at member
      exact collecting.known generation member
    covered := fun generation member given children found indexed => by
      have different : generation ≠ name := fun same => garbage (same ▸ member)
      rw [spared.manifests generation different] at found
      exact collecting.covered generation member given children found (indexed.same_objects spared.nodes.symm spared.objects.symm) }

theorem garbageCollect_completes :
    (garbageCollect currentGeneration previousGeneration closure).Completes condition store (Retains host sound) fun _ left =>
      Publishing host sound currentGeneration previousGeneration manifest left := by
  refine completes_read_bind ?_
  refine (completes_forEach _ collecting fun name member reached holds => holds.removeGeneration ?_).bind
    fun _ reached holds => ?_
  · exact of_decide_eq_true (mem_filter.mp member).2
  refine completes_read_bind ?_
  refine (completes_forEach _ holds fun objectId member reached holds => ?_).bind fun _ reached holds => ?_
  · have dropped := holds.dropObject (of_decide_eq_true (mem_filter.mp member).2)
    exact completes_write dropped.publishing.retains dropped
  refine completes_read_bind ?_
  refine (completes_forEach _ holds fun objectId member reached holds => ?_).bind fun _ reached holds => ?_
  · have dropped := holds.dropNode (of_decide_eq_true (mem_filter.mp member).2)
    exact completes_write dropped.publishing.retains dropped
  exact assertPublishedV5Pointer_completes holds.publishing holds.publishing.pointer
end
end Collecting

theorem collect_ensures (publishing : Publishing host sound currentGeneration previousGeneration manifest store) :
    (do
      let closure ← Durable.lift (verifyV5LiveClosure host store currentGeneration previousGeneration)
      garbageCollect currentGeneration previousGeneration closure : Indexing Unit).Ensures store (Retains host sound) fun _ left =>
        Publishing host sound currentGeneration previousGeneration manifest left := by
  refine ensures_lift_bind fun closure ran => ?_
  obtain ⟨covered, known⟩ := verifyV5LiveClosure_covers ran
  refine (garbageCollect_completes { publishing := publishing, known := ?_, covered := covered } :
    Completes True _ _ _ _).toEnsures
  rw [liveGenerations_of_pointer publishing.pointer]
  exact known

theorem Retains.publishing (retains : Retains host sound store) (pointer : store.pointer = some (.v5 currentGeneration previousGeneration)) :
    ∃ manifest, Publishing host sound currentGeneration previousGeneration manifest store := by
  have member : currentGeneration ∈ store.liveGenerations := by
    rw [liveGenerations_of_pointer pointer]
    exact mem_cons_self
  obtain ⟨manifest, _, found, _⟩ := retains.live currentGeneration member
  exact ⟨manifest, retains, pointer, found⟩

theorem maintainBlockRunIndex_ensures (retains : Retains host sound store) :
    (maintainBlockRunIndex host).Ensures store (Retains host sound) fun _ left => Retains host sound left := by
  refine ensures_read_bind ?_
  split
  · rename_i pointer
    obtain ⟨_, publishing⟩ := retains.publishing pointer
    exact (collect_ensures publishing).mono fun _ left holds => holds.retains
  · exact ensures_pure retains

theorem maintainAfterPublish_completes (free : host.CollisionFree) {retires : Bool}
    (publishing : Publishing host sound generation previousGeneration manifest store)
    (reads : condition → retires = true ∧ ∃ name, previousGeneration = some name ∧
      (∃ record, readRetirement store name = .ok record) ∧ ∃ manifest, readV5Manifest store name = .ok manifest) :
    (maintainAfterPublish host generation previousGeneration manifest retires).Completes condition store (Retains host sound)
      fun _ left => Publishing host sound generation previousGeneration manifest left := by
  unfold maintainAfterPublish
  split
  · refine maintainPending_completes free publishing fun holds name named => ?_
    obtain ⟨_, _, same, answers⟩ := reads holds
    cases named.symm.trans same
    exact answers
  · rename_i collects
    refine ⟨ensures_read_bind (collect_ensures publishing), fun holds => ?_⟩
    obtain ⟨retires, _, same, _⟩ := reads holds
    rw [retires, same] at collects
    exact absurd rfl collects

theorem Drafts.indexTree {newPages : OrderedMap String BlockRunPage} {tree : TreeBuild} {retirement : List RetiredObject}
    (drafts : Drafts host children next newPages tree retirement) (base : IndexTree host store rootNodeId children)
    (pages : ∀ key page, newPages.get? key = some page → store.objects.get? key = some (storedPage host page))
    (nodes : ∀ node ∈ tree.nodes, store.nodes.get? node.objectId = some node) :
    IndexTree host store tree.rootNodeId next where
  root := drafts.root
  shape := drafts.shape
  nodes := fun nonempty payload found => by
    rcases drafts.nodes nonempty payload found with new | old
    · exact nodes _ new
    · exact base.nodes old.1 payload old.2
  objects := fun page found => by
    rcases drafts.pages page found with new | old
    · exact pages _ page new
    · exact base.objects page old

theorem Retains.setPointer (retains : Retains host sound store)
    (live : ∀ name ∈ generation :: previousGeneration.toList, ∃ manifest children, store.manifestOf name = some manifest ∧
      IndexTree host store manifest.rootNodeId children ∧ sound manifest (indexPages children)) :
    Retains host sound (store.setPointer (.v5 generation previousGeneration)) where
  addressed := ⟨retains.addressed.nodes, retains.addressed.objects⟩
  retirements := retains.retirements
  live := fun name member => by
    obtain ⟨manifest, children, found, indexed, held⟩ := live name member
    exact ⟨manifest, children, found, indexed.same_objects rfl rfl, held⟩
  legacy := fun entries pointer => by cases pointer

theorem checkedManifest_ok {draft : DraftManifest} (ran : checkedManifest generation draft rootNodeId = .ok manifest) :
    manifest = { generation, total := draft.total, pageCount := draft.pageCount, maxRetryIndex := draft.maxRetryIndex
                 head := draft.head, latestArtifact := draft.latestArtifact, rootNodeId } ∧
      blockRunIndexManifestSchema manifest = true := by
  unfold checkedManifest at ran
  simp only at ran
  split at ran
  · rename_i schema
    cases ran
    exact ⟨rfl, schema⟩
  · cases ran

theorem writeRetirement_completes {retirement : Option (List RetiredObject)} (retains : Retains host sound store)
    (retired : ∀ candidate ∈ retirement.getD [], Retired host candidate)
    (schema : condition → ∀ objects, retirement = some objects → retirementSchema objects = true) :
    (writeRetirement generation retirement).Completes condition store (Retains host sound) fun _ left =>
      Retains host sound left ∧ left.pointer = store.pointer ∧ left.nodes = store.nodes ∧ left.objects = store.objects ∧
        ∀ other, other ≠ generation → left.generations.get? other = store.generations.get? other := by
  cases retirement with
  | none => exact completes_pure ⟨retains, rfl, rfl, rfl, fun _ _ => rfl⟩
  | some objects =>
    refine completes_lift_bind (fun holds => ⟨(), if_pos (schema holds objects rfl)⟩) fun _ checked => ?_
    have schema : retirementSchema objects = true := by
      by_contra refused
      rw [if_neg refused] at checked
      cases checked
    have kept : Retains host sound (store.setGeneration generation fun files => { files with retirement := some objects }) := by
      refine retains.setGeneration_keep (fun _ => rfl) fun recorded found => ?_
      cases found
      exact ⟨schema, retired⟩
    refine completes_write kept ⟨kept, rfl, rfl, rfl, fun other different => ?_⟩
    rw [setGeneration_files, if_neg different]

def GenerationDraft.built (host : IndexHost) (draft : GenerationDraft) : Except String TreeBuild :=
  match draft.tree with
  | some tree => .ok tree
  | none => buildBlockRunIndexV5Tree host draft.sourcePages

def Publishes (host : IndexHost) (sound : BlockRunIndexManifest → List BlockRunPage → Prop) (children : List PageTree)
    (generation : String) (previousGeneration : Option String) (draft : GenerationDraft) (left : IndexStore) : Prop :=
  ∃ tree next manifest, draft.built host = .ok tree ∧
    Drafts host children next draft.newPages tree (draft.retirement.getD []) ∧
    checkedManifest generation draft.manifest tree.rootNodeId = .ok manifest ∧
    Publishing host sound generation previousGeneration manifest left

section
variable (same : left.generations.get? generation = store.generations.get? generation)
include same

theorem readV5Manifest_congr : readV5Manifest left generation = readV5Manifest store generation := by
  unfold readV5Manifest
  rw [same]

theorem readRetirement_congr : readRetirement left generation = readRetirement store generation := by
  unfold readRetirement
  rw [same]
end

structure Publishable (host : IndexHost) (store : IndexStore) (generation : String) (previous : Option IndexSnapshot)
    (draft : GenerationDraft) : Prop where
  built : ∃ tree, draft.built host = .ok tree
  checked : ∀ tree, draft.built host = .ok tree →
    ∃ manifest, checkedManifest generation draft.manifest tree.rootNodeId = .ok manifest
  retires : ∃ objects, draft.retirement = some objects ∧ retirementSchema objects = true
  previous : ∃ name, snapshotGeneration previous = some name ∧ name ≠ generation ∧
    (∃ record, readRetirement store name = .ok record) ∧ ∃ manifest, readV5Manifest store name = .ok manifest

theorem publishGeneration_completes (free : host.CollisionFree) {previous : Option IndexSnapshot} {draft : GenerationDraft}
    (retains : Retains host sound store) (base : IndexTree host store rootNodeId children)
    (live : ∀ name, snapshotGeneration previous = some name → name ∈ store.liveGenerations)
    (keyed : ∀ key page, draft.newPages.get? key = some page → key = pageObjectId host page ∧ PageFilled page)
    (drafts : ∀ tree, draft.built host = .ok tree →
      ∃ next, Drafts host children next draft.newPages tree (draft.retirement.getD []) ∧
        ∀ manifest, checkedManifest generation draft.manifest tree.rootNodeId = .ok manifest → sound manifest (indexPages next)) :
    (publishGeneration host generation previous draft).Completes (Publishable host store generation previous draft) store
      (Retains host sound) fun _ left => Publishes host sound children generation (snapshotGeneration previous) draft left := by
  have opened : Retains host sound (store.setGeneration generation id) :=
    retains.setGeneration_keep (fun _ => rfl) (retains.retirement_kept generation)
  have opened_base : IndexTree host (store.setGeneration generation id) rootNodeId children := base.same_objects rfl rfl
  refine completes_write_bind opened ?_
  refine (writePages_completes free opened keyed).bind fun _ paged ⟨paged_retains, pages, paged_grown⟩ => ?_
  refine completes_lift_bind Publishable.built fun tree built => ?_
  obtain ⟨next, drafted, held⟩ := drafts tree built
  refine (writeNodes_completes free paged_retains drafted.addressed).bind fun _ noded ⟨noded_retains, nodes, noded_grown⟩ => ?_
  have indexed : IndexTree host noded tree.rootNodeId next :=
    drafted.indexTree (opened_base.grow (paged_grown.trans noded_grown))
      (fun key page found => noded_grown.objects key _ (pages key page found)) nodes
  refine (writeRetirement_completes noded_retains drafted.retired fun publishable objects same => ?_).bind
    fun _ retired ⟨retired_retains, pointer_same, nodes_same, objects_same, files_same⟩ => ?_
  · obtain ⟨_, retires, schema⟩ := publishable.retires
    cases same.symm.trans retires
    exact schema
  have retired_indexed := indexed.same_objects nodes_same objects_same
  refine completes_lift_bind (fun publishable => publishable.checked tree built) fun manifest checked => ?_
  obtain ⟨manifest_same, _⟩ := checkedManifest_ok checked
  have root_same : manifest.rootNodeId = tree.rootNodeId := by rw [manifest_same]
  have manifested : Retains host sound (retired.setGeneration generation fun files => { files with manifest := some manifest }) :=
    retired_retains.setGeneration (fun _ => ⟨manifest, next, rfl, root_same ▸ retired_indexed, held manifest checked⟩)
      (retired_retains.retirement_kept generation)
  refine completes_write_bind manifested ?_
  have manifest_found : (retired.setGeneration generation fun files => { files with manifest := some manifest }).manifestOf
      generation = some manifest := manifestOf_setGeneration_self _ _ _
  have live_same : retired.liveGenerations = store.liveGenerations := by
    unfold IndexStore.liveGenerations
    rw [pointer_same, noded_grown.pointer, paged_grown.pointer]
    rfl
  have pointed : Retains host sound ((retired.setGeneration generation fun files =>
      { files with manifest := some manifest }).setPointer (.v5 generation (snapshotGeneration previous))) := by
    refine manifested.setPointer ?_
    intro name member
    rcases mem_cons.mp member with same | retained
    · rw [same]
      exact ⟨manifest, next, manifest_found, root_same ▸ retired_indexed.same_objects rfl rfl, held manifest checked⟩
    · refine manifested.live name ?_
      show name ∈ retired.liveGenerations
      rw [live_same]
      exact live name (Option.mem_toList.mp retained)
  refine completes_write_bind pointed ?_
  refine ((maintainAfterPublish_completes free ⟨pointed, rfl, manifest_found⟩ fun publishable => ?_).mono ?_).recover_fail
  -- The generation that was current is the previous one now, and its files are as they were.
  · obtain ⟨_, retires, _⟩ := publishable.retires
    obtain ⟨name, named, apart, record, read⟩ := publishable.previous
    have files : (retired.setGeneration generation fun files => { files with manifest := some manifest }).generations.get? name =
        store.generations.get? name := by
      rw [setGeneration_files, if_neg apart, files_same _ apart, noded_grown.generations, paged_grown.generations,
        setGeneration_files, if_neg apart]
    exact ⟨by rw [retires]; rfl, name, named, (readRetirement_congr files).symm ▸ record, (readV5Manifest_congr files).symm ▸ read⟩
  exact fun _ left publishing => ⟨tree, next, manifest, built, drafted, checked, publishing⟩

end PlanWeave
