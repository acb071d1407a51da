import PlanWeave.RunIndex.Tree

namespace PlanWeave

inductive BlockRunIndexMutation where
  | upsert (entry : BlockRunFacts)
  | markArtifact (cursor : BlockRunLogicalCursor) (runId : String)
  | remove (cursor : BlockRunLogicalCursor) (runId : String)

namespace BlockRunIndexMutation

def cursor : BlockRunIndexMutation → BlockRunLogicalCursor
  | upsert entry => entry.toBlockRunLogicalCursor
  | markArtifact cursor _ => cursor
  | remove cursor _ => cursor

def runId : BlockRunIndexMutation → String
  | upsert entry => entry.runId
  | markArtifact _ runId => runId
  | remove _ runId => runId

end BlockRunIndexMutation

structure DraftManifest where
  total : Nat
  pageCount : Nat
  maxRetryIndex : Nat
  head : Option BlockRunIndexEntry
  latestArtifact : Option BlockRunIndexEntry

structure MutationDraft where
  manifest : DraftManifest
  newPages : OrderedMap String BlockRunPage
  tree : TreeBuild
  retirement : List RetiredObject

inductive MutationPlan where
  | unchanged
  | publish (draft : MutationDraft)

structure PageChange where
  replacement : List PageDescriptor
  newPages : OrderedMap String BlockRunPage
  total : Nat
  maxRetryIndex : Nat
  head : Option BlockRunIndexEntry
  latestArtifact : Option BlockRunIndexEntry

variable (host : IndexHost)

def readV4PageObject (store : IndexStore) (descriptor : PageDescriptor) : Except String BlockRunPage :=
  match store.objects.get? descriptor.objectId with
  | none => .error s!"page object '{descriptor.objectId}' is missing"
  | some page =>
    if blockRunIndexPageSize < page.entries.length then
      .error s!"page object '{descriptor.objectId}' does not match its schema"
    else if page.objectId ≠ descriptor.objectId ∨ page.objectId ≠ pageObjectId host page.entries ∨
        page.checksum ≠ host.pageChecksum page.entries then
      .error s!"page object '{descriptor.objectId}' checksum mismatch"
    else match page.entries.head?, page.entries.getLast? with
      | some first, some last =>
        if page.entries.length ≠ descriptor.count ∨ first.cursor ≠ descriptor.first ∨ last.cursor ≠ descriptor.last then
          .error s!"page object '{descriptor.objectId}' does not match its descriptor"
        else .ok page.entries
      | _, _ => .error s!"page object '{descriptor.objectId}' is empty"

def missingRun (runId : String) : String := s!"Run '{runId}' is missing from the block run index."

def recordPage (entries : BlockRunPage) (newPages : OrderedMap String BlockRunPage) :
    Except String (PageDescriptor × OrderedMap String BlockRunPage) := do
  let descriptor ← pageDescriptor host entries
  return (descriptor, newPages.set descriptor.objectId entries)

section Replacement
variable (store : IndexStore) (manifest : BlockRunIndexManifest) (targetPageIndex : Nat)
  (replacement : List PageDescriptor) (newPages : OrderedMap String BlockRunPage)

def descriptorAfterReplacement (pageIndex : Nat) : Except String PageDescriptor :=
  match if targetPageIndex ≤ pageIndex then replacement[pageIndex - targetPageIndex]? else none with
  | some descriptor => .ok descriptor
  | none =>
    let previousPageIndex := if pageIndex < targetPageIndex then pageIndex else pageIndex + 1 - replacement.length
    match manifest.rootNodeId with
    | none => .error "Block run index v5 manifest root is missing."
    | some rootNodeId => readBlockRunIndexV5DescriptorAt host store rootNodeId previousPageIndex

def entriesAfterReplacement (pageIndex : Nat) : Except String BlockRunPage := do
  let descriptor ← descriptorAfterReplacement host store manifest targetPageIndex replacement pageIndex
  match newPages.get? descriptor.objectId with
  | some entries => return entries
  | none => readV4PageObject host store descriptor

def findLatestArtifact : Nat → Except String (Option BlockRunIndexEntry)
  | 0 => .ok none
  | pageIndex + 1 => do
    let entries ← entriesAfterReplacement host store manifest targetPageIndex replacement newPages pageIndex
    match (entries.filter BlockRunIndexEntry.hasArtifact).getLast? with
    | some entry => return some entry
    | none => findLatestArtifact pageIndex

def readHeadAfterReplacement (pageCount : Nat) : Except String (Option BlockRunIndexEntry) := do
  if pageCount = 0 then return none
  let entries ← entriesAfterReplacement host store manifest targetPageIndex replacement newPages (pageCount - 1)
  return entries.getLast?

end Replacement

def sameRun (entry : Option BlockRunIndexEntry) (runId : String) : Bool := entry.map BlockRunIndexEntry.runId = some runId

def laterEntry (entry : BlockRunIndexEntry) (kept : Option BlockRunIndexEntry) : Option BlockRunIndexEntry :=
  match kept with
  | none => some entry
  | some other => if Before host other.cursor entry.cursor then some entry else some other

variable (store : IndexStore) (manifest : BlockRunIndexManifest) (location : DescriptorLocation) (pageEntries : BlockRunPage)

def remainingPage (remaining : BlockRunPage) : Except String (List PageDescriptor × OrderedMap String BlockRunPage) :=
  if remaining.length = 0 then .ok ([], ∅)
  else do
    let (descriptor, newPages) ← recordPage host remaining ∅
    return ([descriptor], newPages)

section Removal
variable (removed : BlockRunIndexEntry) (replacement : List PageDescriptor) (newPages : OrderedMap String BlockRunPage)

def headAfterRemoval : Except String (Option BlockRunIndexEntry) :=
  if sameRun manifest.head removed.runId then
    readHeadAfterReplacement host store manifest location.pageIndex replacement newPages
      (manifest.pageCount + replacement.length - 1)
  else .ok manifest.head

def latestArtifactAfterRemoval : Except String (Option BlockRunIndexEntry) :=
  if sameRun manifest.latestArtifact removed.runId then
    findLatestArtifact host store manifest location.pageIndex replacement newPages
      (manifest.pageCount + replacement.length - 1)
  else .ok manifest.latestArtifact

end Removal

def removeFromPage (removed : BlockRunIndexEntry) : Except String PageChange := do
  let (replacement, newPages) ← remainingPage host (pageEntries.filter fun entry => entry.runId ≠ removed.runId)
  let head ← headAfterRemoval host store manifest location removed replacement newPages
  let latestArtifact ← latestArtifactAfterRemoval host store manifest location removed replacement newPages
  return { replacement, newPages, total := manifest.total - 1, maxRetryIndex := manifest.maxRetryIndex, head, latestArtifact }

def markInPage (existingIndex : Nat) (existing : BlockRunIndexEntry) (marks : Bool) : Except String (Option PageChange) :=
  if (existing.hasArtifact || marks) = existing.hasArtifact then .ok none
  else do
    let (descriptor, newPages) ← recordPage host (pageEntries.set existingIndex existing.marked) ∅
    return some {
      replacement := [descriptor], newPages, total := manifest.total, maxRetryIndex := manifest.maxRetryIndex
      head := if sameRun manifest.head existing.runId then some existing.marked else manifest.head
      latestArtifact := laterEntry host existing.marked manifest.latestArtifact }

/-- A new run after everything in a full last page. -/
def isSequentialFullAppend (entry : BlockRunIndexEntry) : Bool :=
  decide (location.pageIndex = manifest.pageCount - 1) && decide (pageEntries.length = blockRunIndexPageSize) &&
    pageEntries.getLast?.any fun last => decide (Before host last.cursor entry.cursor)

def recordSorted (updatedEntries : BlockRunPage) : Except String (List PageDescriptor × OrderedMap String BlockRunPage) :=
  if updatedEntries.length ≤ blockRunIndexPageSize then do
    let (descriptor, newPages) ← recordPage host updatedEntries ∅
    return ([descriptor], newPages)
  else do
    let (first, newPages) ← recordPage host (updatedEntries.take ((updatedEntries.length + 1) / 2)) ∅
    let (second, newPages) ← recordPage host (updatedEntries.drop ((updatedEntries.length + 1) / 2)) newPages
    return ([first, second], newPages)

def insertIntoPage (entry : BlockRunIndexEntry) : Except String (List PageDescriptor × OrderedMap String BlockRunPage) :=
  if isSequentialFullAppend host manifest location pageEntries entry then do
    let (descriptor, newPages) ← recordPage host [entry] ∅
    return ([location.descriptor, descriptor], newPages)
  else recordSorted host (sortEntries host (pageEntries ++ [entry]))

def insertChange (entry : BlockRunIndexEntry) : Except String PageChange := do
  let (replacement, newPages) ← insertIntoPage host manifest location pageEntries entry
  return {
    replacement, newPages, total := manifest.total + 1, maxRetryIndex := entry.retryIndex
    head := laterEntry host entry manifest.head
    latestArtifact := if entry.hasArtifact then laterEntry host entry manifest.latestArtifact else manifest.latestArtifact }

def runPosition (entries : BlockRunPage) (runId : String) : Nat := entries.findIdx fun entry => entry.runId = runId

def planAbsentRun : BlockRunIndexMutation → Except String (Option PageChange)
  | .markArtifact _ runId => .error (missingRun runId)
  | .remove _ _ => .ok none
  | .upsert facts => some <$> insertChange host manifest location pageEntries (facts.indexed (manifest.maxRetryIndex + 1))

def planExistingRun (existing : BlockRunIndexEntry) : BlockRunIndexMutation → Except String (Option PageChange)
  | .remove _ _ => some <$> removeFromPage host store manifest location pageEntries existing
  | .markArtifact _ runId => markInPage host manifest pageEntries (runPosition pageEntries runId) existing true
  | .upsert facts => markInPage host manifest pageEntries (runPosition pageEntries facts.runId) existing facts.hasArtifact

def planPageChange (mutation : BlockRunIndexMutation) : Except String (Option PageChange) :=
  match pageEntries[runPosition pageEntries mutation.runId]? with
  | none => planAbsentRun host manifest location pageEntries mutation
  | some existing => planExistingRun host store manifest location pageEntries existing mutation

def retiredPage (replacement : List PageDescriptor) : List RetiredObject :=
  if replacement.any fun descriptor => descriptor.objectId = location.descriptor.objectId then []
  else [{ objectId := location.descriptor.objectId, level := -1,
          first := location.descriptor.first, last := location.descriptor.last }]

def firstRunDraft (entry : BlockRunIndexEntry) : Except String MutationDraft := do
  let descriptor ← pageDescriptor host [entry]
  let tree ← buildBlockRunIndexV5Tree host [descriptor]
  return {
    manifest := {
      total := 1, pageCount := 1, maxRetryIndex := entry.retryIndex, head := some entry
      latestArtifact := if entry.hasArtifact then some entry else none }
    newPages := OrderedMap.set ∅ descriptor.objectId [entry], tree, retirement := [] }

def planBlockRunIndexV5Mutation (mutation : BlockRunIndexMutation) : Except String MutationPlan := do
  if manifest.pageCount = 0 then
    match mutation with
    | .markArtifact _ runId => throw (missingRun runId)
    | .remove _ _ => return .unchanged
    | .upsert facts => return .publish (← firstRunDraft host (facts.indexed (manifest.maxRetryIndex + 1)))
  else
    match manifest.rootNodeId with
    | none => throw "Block run index v5 manifest root is missing."
    | some rootNodeId =>
      let location ← locateBlockRunIndexV5Descriptor host store rootNodeId mutation.cursor
      let pageEntries ← readV4PageObject host store location.descriptor
      match ← planPageChange host store manifest location pageEntries mutation with
      | none => return .unchanged
      | some change =>
        let tree ← updateBlockRunIndexV5Tree host store rootNodeId location.pageIndex change.replacement
        return .publish {
          manifest := {
            total := change.total, pageCount := manifest.pageCount + change.replacement.length - 1
            maxRetryIndex := change.maxRetryIndex, head := change.head, latestArtifact := change.latestArtifact }
          newPages := change.newPages, tree
          retirement := tree.retiredObjects ++ retiredPage location change.replacement }

end PlanWeave
