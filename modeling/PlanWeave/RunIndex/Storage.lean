import PlanWeave.Lib.Durable
import PlanWeave.RunIndex.Mutation

namespace PlanWeave
open Durable

abbrev Indexing (α : Type) := Durable IndexStore String α

inductive IndexSnapshot where
  | legacy (entries : BlockRunPage)
  | v5 (currentGeneration : String) (previousGeneration : Option String) (manifest : BlockRunIndexManifest)

structure GenerationDraft where
  manifest : DraftManifest
  newPages : OrderedMap String BlockRunPage
  tree : Option TreeBuild := none
  sourcePages : List PageDescriptor := []
  retirement : Option (List RetiredObject) := none

structure LiveClosure where
  generations : List String
  objects : List String
  nodes : List String

def blockRunIndexManifestSchema (manifest : BlockRunIndexManifest) : Bool :=
  manifest.pageCount ≤ blockRunIndexMaxPages &&
    if manifest.total = 0 then
      manifest.pageCount = 0 && manifest.rootNodeId.isNone && manifest.head.isNone && manifest.latestArtifact.isNone
    else
      0 < manifest.pageCount && manifest.rootNodeId.isSome && manifest.head.isSome &&
        (manifest.total + blockRunIndexPageSize - 1) / blockRunIndexPageSize ≤ manifest.pageCount &&
        manifest.pageCount ≤ manifest.total

def retirementSchema (objects : List RetiredObject) : Bool :=
  objects.length ≤ blockRunIndexTreeDepth + 1 &&
    objects.all fun candidate => -1 ≤ candidate.level && candidate.level ≤ (blockRunIndexTreeDepth - 1 : Nat)

def generationIncomplete (generation : String) : String := s!"generation '{generation}' is incomplete"

def readV5Manifest (store : IndexStore) (generation : String) : Except String BlockRunIndexManifest :=
  match (store.generations.get? generation).bind Generation.manifest with
  | none => .error (generationIncomplete generation)
  | some manifest =>
    if !blockRunIndexManifestSchema manifest then .error "v5 manifest does not match its schema"
    else if manifest.generation ≠ generation then .error (generationIncomplete generation)
    else if (manifest.total = 0) ≠ (manifest.rootNodeId = none) then .error "v5 manifest root does not match its total"
    else if (manifest.total = 0) ≠ (manifest.head = none) then .error "v5 manifest head does not match its total"
    else if manifest.latestArtifact.any fun entry => !entry.hasArtifact then
      .error "v5 manifest latestArtifact is not an artifact entry"
    else .ok manifest

def readRetirement (store : IndexStore) (generation : String) : Except String (Option (List RetiredObject)) :=
  match (store.generations.get? generation).bind Generation.retirement with
  | none => .ok none
  | some objects => if retirementSchema objects then .ok (some objects) else .error "retirement does not match its schema"

def readBlockRunIndexSnapshot (store : IndexStore) : Except String (Option IndexSnapshot) :=
  match store.pointer with
  | none => .ok none
  | some (.legacy entries) => .ok (some (.legacy entries))
  | some (.v5 currentGeneration previousGeneration) => do
    let manifest ← readV5Manifest store currentGeneration
    return some (.v5 currentGeneration previousGeneration manifest)

namespace IndexStore

def setGeneration (store : IndexStore) (generation : String) (change : Generation → Generation) : IndexStore :=
  { store with
    generations := store.generations.set generation (change ((store.generations.get? generation).getD {})) }

def setObject (store : IndexStore) (page : PageObject) : IndexStore :=
  { store with objects := store.objects.set page.objectId page }

def setNode (store : IndexStore) (node : TreeNode) : IndexStore :=
  { store with nodes := store.nodes.set node.objectId node }

def setPointer (store : IndexStore) (pointer : IndexPointer) : IndexStore := { store with pointer := some pointer }

def dropGeneration (store : IndexStore) (generation : String) : IndexStore :=
  { store with generations := store.generations.erase generation }

def dropObject (store : IndexStore) (objectId : String) : IndexStore :=
  { store with objects := store.objects.erase objectId }

def dropNode (store : IndexStore) (objectId : String) : IndexStore := { store with nodes := store.nodes.erase objectId }

end IndexStore

variable (host : IndexHost)

def writePageObject (objectId : String) (entries : BlockRunPage) : Indexing Unit := do
  let store ← read
  when (!store.objects.has objectId)
    (write fun store => store.setObject { objectId, checksum := host.pageChecksum entries, entries })
  let store ← read
  let descriptor ← lift (pageDescriptor host entries)
  let _ ← lift (readV4PageObject host store descriptor)

def writeTreeNode (node : TreeNode) : Indexing Unit := do
  let store ← read
  when (!store.nodes.has node.objectId) (write fun store => store.setNode node)
  let store ← read
  let _ ← lift (readBlockRunIndexV5TreeNode host store node.objectId)

def removeGeneration (generation : String) : Indexing Unit := do
  write fun store => store.setGeneration generation fun files => { files with manifest := none }
  write fun store => store.setGeneration generation fun files => { files with retirement := none }
  write fun store => store.dropGeneration generation

def liveGeneration (store : IndexStore) (closure : LiveClosure) (generation : String) : Except String LiveClosure := do
  if generation ∈ closure.generations then return closure
  let manifest ← readV5Manifest store generation
  let (descriptors, nodes) ← readAllBlockRunIndexV5Descriptors host store manifest.rootNodeId
  if descriptors.length ≠ manifest.pageCount ∨ (descriptors.map PageDescriptor.count).sum ≠ manifest.total then
    throw s!"generation '{generation}' tree totals are invalid"
  if descriptors.any fun descriptor => !store.objects.has descriptor.objectId then
    throw s!"generation '{generation}' references a missing page object"
  return {
    generations := closure.generations ++ [generation]
    objects := closure.objects ++ descriptors.map PageDescriptor.objectId
    nodes := closure.nodes ++ nodes }

def verifyV5LiveClosure (store : IndexStore) (currentGeneration : String) (previousGeneration : Option String) :
    Except String LiveClosure :=
  (currentGeneration :: previousGeneration.toList).foldlM (liveGeneration host store) ⟨[], [], []⟩

def assertPublishedV5Pointer (currentGeneration : String) (previousGeneration : Option String) : Indexing Unit := do
  let store ← read
  lift (if store.pointer = some (.v5 currentGeneration previousGeneration) then .ok ()
    else .error "pointer changed during locked maintenance")

def garbageCollect (currentGeneration : String) (previousGeneration : Option String) (closure : LiveClosure) :
    Indexing Unit := do
  let store ← read
  forEach (store.generations.keys.filter fun generation => generation ∉ closure.generations) removeGeneration
  let store ← read
  forEach (store.objects.keys.filter fun objectId => objectId ∉ closure.objects)
    fun objectId => write fun store => store.dropObject objectId
  let store ← read
  forEach (store.nodes.keys.filter fun objectId => objectId ∉ closure.nodes)
    fun objectId => write fun store => store.dropNode objectId
  assertPublishedV5Pointer currentGeneration previousGeneration

def retireObject (currentRoot previousRoot : Option String) (candidate : RetiredObject) : Indexing Unit := do
  let store ← read
  let referencedByCurrent ← lift (blockRunIndexV5TreeReferencesObject host store currentRoot candidate)
  let referencedByPrevious ← lift (blockRunIndexV5TreeReferencesObject host store previousRoot candidate)
  when (!(referencedByCurrent || referencedByPrevious))
    (write fun store =>
      if candidate.level = -1 then store.dropObject candidate.objectId else store.dropNode candidate.objectId)

def incrementallyMaintainPublishedGeneration (currentGeneration previousGeneration : String)
    (currentManifest previousManifest : BlockRunIndexManifest) (retirement : List RetiredObject) : Indexing Unit := do
  assertPublishedV5Pointer currentGeneration (some previousGeneration)
  let store ← read
  forEach
    (store.generations.keys.filter fun generation => generation ≠ currentGeneration && generation ≠ previousGeneration)
    removeGeneration
  forEach retirement (retireObject host currentManifest.rootNodeId previousManifest.rootNodeId)
  assertPublishedV5Pointer currentGeneration (some previousGeneration)
  write fun store =>
    store.setGeneration previousManifest.generation fun files => { files with retirement := none }

def maintainPendingV5Retirement (currentGeneration : String) (previousGeneration : Option String)
    (currentManifest : BlockRunIndexManifest) (force : Bool) : Indexing Unit :=
  match previousGeneration with
  | none => pure ()
  | some previousGeneration => do
    let store ← read
    let retirement ← lift (readRetirement store previousGeneration)
    when (retirement.isSome || force) do
      let previousManifest ← lift (readV5Manifest store previousGeneration)
      incrementallyMaintainPublishedGeneration host currentGeneration previousGeneration currentManifest previousManifest
        (retirement.getD [])

/-- The full collection of a published index; an index of version 3 or 4 is left as it is. -/
def maintainBlockRunIndex : Indexing Unit := do
  let store ← read
  match store.pointer with
  | some (.v5 currentGeneration previousGeneration) =>
    let closure ← lift (verifyV5LiveClosure host store currentGeneration previousGeneration)
    garbageCollect currentGeneration previousGeneration closure
  | _ => pure ()

def snapshotGeneration : Option IndexSnapshot → Option String
  | some (.v5 currentGeneration _ _) => some currentGeneration
  | _ => none

def partialMaintenance (cause : String) : String := s!"Block run index mutation committed, but maintenance failed: {cause}"

def checkedManifest (generation : String) (draft : DraftManifest) (rootNodeId : Option String) :
    Except String BlockRunIndexManifest :=
  let manifest : BlockRunIndexManifest := {
    generation, total := draft.total, pageCount := draft.pageCount, maxRetryIndex := draft.maxRetryIndex
    head := draft.head, latestArtifact := draft.latestArtifact, rootNodeId }
  if blockRunIndexManifestSchema manifest then .ok manifest else .error "v5 manifest does not match its schema"

def writeRetirement (generation : String) (retirement : Option (List RetiredObject)) : Indexing Unit :=
  match retirement with
  | none => pure ()
  | some objects => do
    lift (if retirementSchema objects then .ok () else .error "retirement does not match its schema")
    write fun store => store.setGeneration generation fun files => { files with retirement := some objects }

/-- What follows the new pointer: the pending retirement of a draft that has one, else the full collection. -/
def maintainAfterPublish (generation : String) (previousGeneration : Option String) (manifest : BlockRunIndexManifest)
    (retires : Bool) : Indexing Unit :=
  if retires && previousGeneration.isSome then
    maintainPendingV5Retirement host generation previousGeneration manifest true
  else do
    let store ← read
    let closure ← lift (verifyV5LiveClosure host store generation previousGeneration)
    garbageCollect generation previousGeneration closure

def publishGeneration (generation : String) (previous : Option IndexSnapshot) (draft : GenerationDraft) : Indexing Unit := do
  write fun store => store.setGeneration generation id
  forEach draft.newPages.entries fun page => writePageObject host page.1 page.2
  let tree ← lift (match draft.tree with
    | some tree => .ok tree
    | none => buildBlockRunIndexV5Tree host draft.sourcePages)
  forEach tree.nodes (writeTreeNode host)
  writeRetirement generation draft.retirement
  let manifest ← lift (checkedManifest generation draft.manifest tree.rootNodeId)
  write fun store => store.setGeneration generation fun files => { files with manifest := some manifest }
  let previousGeneration := snapshotGeneration previous
  write fun store => store.setPointer (.v5 generation previousGeneration)
  recover (maintainAfterPublish host generation previousGeneration manifest draft.retirement.isSome)
    fun cause => fail (partialMaintenance cause)

def maxRetryIndexOf (entries : BlockRunPage) : Nat := (entries.map BlockRunIndexEntry.retryIndex).foldl max 0

def fullGenerationDraft (rawEntries : BlockRunPage) : Except String GenerationDraft := do
  let entries := sortEntries host rawEntries
  let pages := chunks blockRunIndexPageSize entries.length entries
  let descriptors ← pages.mapM (pageDescriptor host)
  return {
    manifest := {
      total := entries.length, pageCount := descriptors.length, maxRetryIndex := maxRetryIndexOf entries
      head := entries.getLast?, latestArtifact := (entries.filter BlockRunIndexEntry.hasArtifact).getLast? }
    newPages := (descriptors.zip pages).foldl (fun recorded page => recorded.set page.1.objectId page.2) ∅
    sourcePages := descriptors }

def replaceBlockRunIndexWithV5 (generation : String) (previous : Option IndexSnapshot) (entries : BlockRunPage) :
    Indexing Unit := do
  let draft ← lift (fullGenerationDraft host entries)
  publishGeneration host generation previous draft

/-- The mutation of a plain list of entries, where a new run gets the retry index after the given one. -/
def mutateEntriesAfter (maxRetryIndex : Nat) (entries : BlockRunPage) (mutation : BlockRunIndexMutation) : Except String BlockRunPage :=
  match entries[runPosition entries mutation.runId]?, mutation with
  | none, .remove _ _ => .ok entries
  | none, .markArtifact _ runId => .error (missingRun runId)
  | none, .upsert facts => .ok (entries ++ [facts.indexed (maxRetryIndex + 1)])
  | some _, .remove _ runId => .ok (entries.filter fun entry => entry.runId ≠ runId)
  | some existing, .markArtifact _ runId => .ok (entries.set (runPosition entries runId) existing.marked)
  | some existing, .upsert facts =>
    .ok (entries.set (runPosition entries facts.runId)
      { existing with hasArtifact := existing.hasArtifact || facts.hasArtifact })

def mutateEntries (entries : BlockRunPage) (mutation : BlockRunIndexMutation) : Except String BlockRunPage :=
  mutateEntriesAfter (maxRetryIndexOf entries) entries mutation

def MutationDraft.generation (draft : MutationDraft) : GenerationDraft where
  manifest := draft.manifest
  newPages := draft.newPages
  tree := some draft.tree
  retirement := some draft.retirement

def publishPlan (generation : String) (snapshot : IndexSnapshot) (plan : MutationPlan) : Indexing Unit :=
  match plan with
  | .unchanged => pure ()
  | .publish draft => publishGeneration host generation (some snapshot) draft.generation

def mutateV5 (generation currentGeneration : String) (previousGeneration : Option String)
    (manifest : BlockRunIndexManifest) (mutation : BlockRunIndexMutation) : Indexing Unit := do
  maintainPendingV5Retirement host currentGeneration previousGeneration manifest false
  let store ← read
  let plan ← lift (planBlockRunIndexV5Mutation host store manifest mutation)
  publishPlan host generation (.v5 currentGeneration previousGeneration manifest) plan

def mutateBlockRunIndex (generation : String) (snapshot : IndexSnapshot) (mutation : BlockRunIndexMutation) : Indexing Unit :=
  match snapshot with
  | .v5 currentGeneration previousGeneration manifest =>
    mutateV5 host generation currentGeneration previousGeneration manifest mutation
  | .legacy entries => do
    let next ← lift (mutateEntries entries mutation)
    let draft ← lift (fullGenerationDraft host next)
    publishGeneration host generation (some snapshot) draft

end PlanWeave
