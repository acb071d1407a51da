import Mathlib.Tactic.DeriveEncodable
import PlanWeave.Lib.RecordedDigest
import PlanWeave.RunIndex.Runs

namespace PlanWeave
open List
variable {host : IndexHost} {store : IndexStore}

theorem Admitted.unrestricted (host : IndexHost) (store : IndexStore) (snapshot : IndexSnapshot)
    (mutation : BlockRunIndexMutation) : Admitted host Unrestricted store snapshot mutation :=
  ⟨fun _ _ _ _ _ => trivial, fun _ _ _ _ _ _ _ _ _ => trivial⟩

theorem mutateRequired_ensures (free : host.CollisionFree) {migration generation failure : String} {root : RunRoot} {runId : String}
    {mutation : BlockRunFacts → BlockRunIndexMutation} (retains : Retains host Unrestricted store) :
    (do
      let snapshot ← requireSnapshot host migration root failure
      let facts ← Durable.lift (readRunFacts root runId)
      mutateBlockRunIndex host generation snapshot (mutation facts) : Indexing Unit).Ensures store (Retains host Unrestricted)
      fun _ left => Retains host Unrestricted left := by
  refine (requireSnapshot_ensures free retains fun _ _ _ _ => trivial).bind fun snapshot reached ⟨kept, read, _⟩ => ?_
  refine Durable.ensures_lift_bind fun facts _ => ?_
  exact mutateBlockRunIndex_ensures free kept read (Admitted.unrestricted host reached snapshot (mutation facts))

theorem performIndexing_ensures (free : host.CollisionFree) (operation : IndexOperation) (retains : Retains host Unrestricted store) :
    (performIndexing host operation).Ensures store (Retains host Unrestricted) fun _ left => Retains host Unrestricted left := by
  cases operation with
  | rebuild =>
    refine Durable.ensures_read_bind (Durable.ensures_lift_bind fun snapshot read => ?_)
    refine (migrateExistingRuns_ensures free retains (readSnapshot_known read) fun _ _ _ => trivial).mono ?_
    exact fun _ left holds => holds.1
  | prepare =>
    refine Durable.ensures_read_bind (Durable.ensures_lift_bind fun snapshot _ => ?_)
    cases snapshot with
    | none =>
      refine (migrateExistingRuns_ensures free retains (knownSnapshot_none store) fun _ _ _ => trivial).mono ?_
      exact fun _ left holds => holds.1
    | some => exact maintainBlockRunIndex_ensures retains
  | upsert => exact mutateRequired_ensures free retains
  | recordArtifact =>
    refine Durable.ensures_read_bind (Durable.ensures_lift_bind fun snapshot read => ?_)
    cases snapshot with
    | none => exact Durable.ensures_fail _
    | some snapshot =>
      refine Durable.ensures_lift_bind fun facts _ => ?_
      exact mutateBlockRunIndex_ensures free retains read (Admitted.unrestricted host store snapshot _)
  | remove => exact mutateRequired_ensures free retains
  | maintain => exact maintainBlockRunIndex_ensures retains

/-- A directory that no version 5 index was published in: objects of an older version may be there. -/
structure Unpublished (host : IndexHost) (store : IndexStore) : Prop where
  pointer : store.liveGenerations = []
  retirements : ∀ generation, store.retirementOf generation = none
  addressed : Addressed host store

theorem Unpublished.retains (unpublished : Unpublished host store) : Retains host Unrestricted store where
  addressed := unpublished.addressed
  retirements := fun generation objects found => by
    rw [unpublished.retirements generation] at found
    cases found
  live := fun generation member => by
    rw [unpublished.pointer] at member
    cases member
  legacy := fun _ _ _ => trivial

/-- A generation is complete: its manifest is there, and a full traversal reads every node and page below its root. -/
def GenerationComplete (host : IndexHost) (store : IndexStore) (generation : String) : Prop :=
  ∃ manifest descriptors nodes, store.manifestOf generation = some manifest ∧
    readAllBlockRunIndexV5Descriptors host store manifest.rootNodeId = .ok (descriptors, nodes) ∧
    (∀ objectId ∈ nodes, ∃ node, readBlockRunIndexV5TreeNode host store objectId = .ok node) ∧
    ∀ descriptor ∈ descriptors, ∃ page, readV4PageObject host store descriptor = .ok page

/-- The pruned search for a retired object in the tree of a generation answers as the full traversal. -/
def SearchExact (host : IndexHost) (store : IndexStore) (generation : String) (candidate : RetiredObject) : Prop :=
  ∀ manifest, store.manifestOf generation = some manifest →
    blockRunIndexV5TreeReferencesObject host store manifest.rootNodeId candidate =
      treeReferencesFully host store manifest.rootNodeId candidate

theorem IndexTree.readNode {rootNodeId : Option String} {children : List PageTree} (indexed : IndexTree host store rootNodeId children)
    (nonempty : children ≠ []) {payload : TreePayload} (member : payload ∈ rootPayloads host children) :
    readBlockRunIndexV5TreeNode host store (nodeObjectId host payload) = .ok (identified host payload) := by
  refine readTreeNode_ok (indexed.nodes nonempty payload member) ?_
  rcases mem_cons.mp member with root | deeper
  · rw [root]
    exact IndexTree.schema_root indexed.shape nonempty
  · obtain ⟨_, group_member, inside⟩ := mem_flatten.mp deeper
    obtain ⟨_, child_member, rfl⟩ := mem_map.mp group_member
    exact schema_payloads (indexed.storedTree child_member).bounded (indexed.storedTree child_member).filled (Nat.le_refl _)
      payload inside

theorem Retains.complete {sound : BlockRunIndexManifest → List BlockRunPage → Prop} (retains : Retains host sound store)
    {generation : String} (live : generation ∈ store.liveGenerations) : GenerationComplete host store generation := by
  obtain ⟨manifest, children, found, indexed, _⟩ := retains.live generation live
  refine ⟨manifest, _, _, found, indexed.collect, fun objectId member => ?_, fun descriptor member => ?_⟩
  · by_cases empty : children = []
    · rw [if_pos empty] at member
      cases member
    · rw [if_neg empty] at member
      obtain ⟨_, inside, rfl⟩ := mem_map.mp member
      exact ⟨_, indexed.readNode empty inside⟩
  · obtain ⟨page, inside, rfl⟩ := mem_map.mp member
    exact ⟨page, indexed.readPage inside⟩

/-- In every run of index operations, each of them stopped after any of its writes and deletions, the current and the retained
previous generation are complete, and the search that decides deletions is exact. -/
theorem live_generations_are_complete (free : host.CollisionFree) {start : IndexStore} (unpublished : Unpublished host start)
    (run : Durable.Reaches (performIndexing host) (fun _ _ => True) start store) :
    ∀ generation ∈ store.liveGenerations, GenerationComplete host store generation ∧
      ∀ holder objects, store.retirementOf holder = some objects → ∀ candidate ∈ objects,
        SearchExact host store generation candidate := by
  have retains : Retains host Unrestricted store := by
    refine run.holds_of_keeps unpublished.retains fun reached operation holds _ => ?_
    exact (performIndexing_ensures free operation holds).keeps
  intro generation live
  refine ⟨retains.complete live, fun holder objects recorded candidate member manifest found => ?_⟩
  obtain ⟨_, _, given_found, indexed, _⟩ := retains.live generation live
  cases given_found.symm.trans found
  exact referencesObject_eq_fully free ((retains.retirements holder objects recorded).2 candidate member) indexed

deriving instance Encodable for BlockRunLogicalCursor, BlockRunIndexEntry, PageDescriptor, TreeChild, TreePayload

def recordedHost (pageDigests : List (BlockRunPage × String)) (nodeDigests : List (TreePayload × String)) : IndexHost where
  localeCompare := compare
  consistent := inferInstance
  pageChecksum := RecordedDigest.digest pageDigests
  nodeChecksum := RecordedDigest.digest nodeDigests

def chainDigests (payload : TreePayload) (pages : Nat) (first last : BlockRunLogicalCursor) :
    Nat → List String → List (TreePayload × String)
  | _, [] => []
  | level, digest :: rest =>
    (payload, digest) :: chainDigests
      (if level = topLevel then .root [⟨"sha256-" ++ digest, pages, first, last⟩]
        else .internal (level + 1) [⟨"sha256-" ++ digest, pages, first, last⟩]) pages first last (level + 1) rest

def recordedDescriptor (page : BlockRunPage × String) : List PageDescriptor :=
  match page.1.head?, page.1.getLast? with
  | some first, some last => [⟨"sha256-" ++ page.2, page.1.length, first.cursor, last.cursor⟩]
  | _, _ => []

/-- A host with the digests of trees that share their first pages: of the last page of each and its nodes, leaf first. -/
def recordedTrees (firstPages : List (BlockRunPage × String)) (trees : List (BlockRunPage × String × List String)) : IndexHost :=
  recordedHost (firstPages ++ trees.map fun tree => (tree.1, tree.2.1)) <| trees.flatMap fun tree =>
    let descriptors := (firstPages ++ [(tree.1, tree.2.1)]).flatMap recordedDescriptor
    match descriptors.head?, descriptors.getLast? with
    | some first, some last => chainDigests (.leaf descriptors) descriptors.length first.first last.last 0 tree.2.2
    | _, _ => []

def samplePage (hasArtifact : Bool) : BlockRunPage := [⟨"RUN-1", 1, 1, "T-001#B-001::RUN-1", hasArtifact⟩]

def sampleIndexHost : IndexHost := recordedTrees []
  [(samplePage false, "054a2c6d5f25724794264f12a8d4f83d27995c69f7418db7348914bf763b7457",
      ["e3bc72a072c2fa74ae5fd1efd57988513c55baf65884a453631a585d17449037",
        "d83a02ce4706bd5934642c9bcc2c4e430916c8f7a6ac6066ae408a761f484be1",
        "eaf32c0984bdacfccffe3dc416c39a0bf2dcf8238048931d76356bf5b690e72a",
        "1061599a6c49d29ab41ff8e92c55f9f4f5b6c5f41178c68e2475e0491eb1ebe1",
        "c57d1f7435eed8b4e78d17ab79122bc8b6f0f799aec648e264d7fed44b44c329"]),
    (samplePage true, "c47a9d10da6de42a766b6a461c0e4d8fcd75dfbdec860b5f5de0829fb5e01e51",
      ["4f0b7ae4b07c0a5917f0341d1ec7a79e73154ec60cfab756320f0d9685e77221",
        "9e3d82206ce6fe5fa4b61f940f2ec9a18558febbdaec215e126072cbd9cdeeef",
        "459c763d6d31880b626a1b9394ad0203a16e45ca8f3117418d662821aae572c4",
        "c9841740172fc91408db63a9847f7794ced396a359e96901a352ba0065b1b96e",
        "74e9517c482af76512b9bf9c878b3b2deaef5ba011e0fa719ba695e7de5aee82"])]

theorem sampleIndexHost_free : sampleIndexHost.CollisionFree where
  pages := RecordedDigest.digest_injective (by decide +kernel) (by decide +kernel)
  nodes := RecordedDigest.digest_injective (by decide +kernel) (by decide +kernel)

theorem unpublished_empty (host : IndexHost) : Unpublished host {} where
  pointer := rfl
  retirements := fun _ => rfl
  addressed := ⟨fun _ _ found => (nomatch found), fun _ _ found => (nomatch found)⟩

def sampleRoot : RunRoot where
  blockRef := "T-001#B-001"
  runs := OrderedMap.set ∅ "RUN-1" {}

def sampleIndexing : List IndexOperation :=
  [.upsert "generation-1" "generation-2" sampleRoot "RUN-1" none, .recordArtifact "generation-3" sampleRoot "RUN-1"]

def sampleIndexStore : IndexStore := Durable.runAll (performIndexing sampleIndexHost) sampleIndexing {}

theorem live_generations_are_complete_sample :
    sampleIndexStore.liveGenerations = ["generation-3", "generation-1"] ∧
      ∀ generation ∈ sampleIndexStore.liveGenerations, GenerationComplete sampleIndexHost sampleIndexStore generation ∧
        ∀ holder objects, sampleIndexStore.retirementOf holder = some objects → ∀ candidate ∈ objects,
          SearchExact sampleIndexHost sampleIndexStore generation candidate := by
  refine ⟨by decide +kernel, ?_⟩
  have allowed : Durable.AllowedRun (performIndexing sampleIndexHost) (fun _ _ => True) sampleIndexing {} :=
    ⟨trivial, trivial, trivial⟩
  exact live_generations_are_complete sampleIndexHost_free (unpublished_empty sampleIndexHost) allowed.reaches

end PlanWeave
