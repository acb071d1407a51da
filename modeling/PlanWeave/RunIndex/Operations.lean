import PlanWeave.RunIndex.Storage

namespace PlanWeave
open Durable

/-- The fields of `metadata.json` that the index reads; a time is none when `Date.parse` reads none from it. -/
structure RunChronologyMetadata where
  ref : Option String := none
  startedAt : Option Int := none
  submittedAt : Option Int := none
  finishedAt : Option Int := none
  artifactReference : Bool := false

/-- A run directory: `metadata.json`, whether `report.md` exists, and its modification time. -/
structure IndexedRunFolder where
  metadata : Option RunChronologyMetadata := none
  report : Bool := false
  mtime : Int := 0

structure RunRoot where
  blockRef : String
  runs : OrderedMap String IndexedRunFolder

def chronologyCandidates (metadata : Option RunChronologyMetadata) : List (Option Int) :=
  match metadata with
  | none => []
  | some metadata => [metadata.startedAt, metadata.submittedAt, metadata.finishedAt]

/-- `/^RUN-(\d+)$/i`. -/
def runOrdinal (runId : String) : Option Nat :=
  match runId.toList with
  | r :: u :: n :: '-' :: digits =>
    if r.toUpper = 'R' ∧ u.toUpper = 'U' ∧ n.toUpper = 'N' ∧ digits ≠ [] ∧ digits.all Char.isDigit then
      some (digits.foldl (fun value digit => 10 * value + (digit.toNat - '0'.toNat)) 0)
    else none
  | _ => none

def maxInstant : Int := 8640000000000000

def isoInstant (instant : Int) : Except String Int :=
  if maxInstant < instant ∨ instant < -maxInstant then .error "Invalid time value" else .ok instant

/-- The instant of a run: the first time of its metadata, else its ordinal, else when its directory was modified. -/
def runInstant (folder : Option IndexedRunFolder) (runId : String) : Except String Int :=
  match (chronologyCandidates (folder.bind IndexedRunFolder.metadata)).findSome? id, runOrdinal runId, folder with
  | some instant, _, _ => isoInstant instant
  | none, some ordinal, _ => isoInstant ordinal
  | none, none, some folder => isoInstant folder.mtime
  | none, none, none => .error s!"Run '{runId}' does not exist."

def runRef (root : RunRoot) (metadata : Option RunChronologyMetadata) : String :=
  match metadata.bind RunChronologyMetadata.ref with
  | some ref => if ref = "" then root.blockRef else ref
  | none => root.blockRef

def runHasArtifact (folder : Option IndexedRunFolder) : Bool :=
  (folder.map IndexedRunFolder.report).getD false ||
    ((folder.bind IndexedRunFolder.metadata).map RunChronologyMetadata.artifactReference).getD false

def readRunFacts (root : RunRoot) (runId : String) : Except String BlockRunFacts := do
  let orderedAt ← runInstant (root.runs.get? runId) runId
  return {
    orderedAt, stableIdentity := runRef root ((root.runs.get? runId).bind IndexedRunFolder.metadata) ++ "::" ++ runId
    runId, hasArtifact := runHasArtifact (root.runs.get? runId) }

def runIds (root : RunRoot) : List String := root.runs.keys.filter fun name => !name.startsWith "."

def numbered (entries : BlockRunPage) : BlockRunPage :=
  entries.mapIdx fun index entry => { entry with retryIndex := index + 1 }

def migratedEntries (host : IndexHost) (root : RunRoot) : Except String BlockRunPage := do
  let facts ← (runIds root).mapM (readRunFacts root)
  return numbered (sortEntries host (facts.mapIdx fun index fact => fact.indexed (index + 1)))

variable (host : IndexHost)

def migrateExistingRuns (generation : String) (root : RunRoot) (previous : Option IndexSnapshot) : Indexing Unit := do
  let entries ← lift (migratedEntries host root)
  replaceBlockRunIndexWithV5 host generation previous entries

def rebuildBlockRunIndex (generation : String) (root : RunRoot) : Indexing Unit := do
  let store ← read
  let previous ← lift (readBlockRunIndexSnapshot store)
  migrateExistingRuns host generation root previous

def initializeBlockRunIndex (generation : String) (root : RunRoot) : Indexing Unit := do
  let store ← read
  match ← lift (readBlockRunIndexSnapshot store) with
  | none => migrateExistingRuns host generation root none
  | some _ => maintainBlockRunIndex host

/-- The snapshot to mutate; a directory without an index is indexed first. -/
def requireSnapshot (generation : String) (root : RunRoot) (failure : String) : Indexing IndexSnapshot := do
  let store ← read
  let snapshot ← lift (readBlockRunIndexSnapshot store)
  when snapshot.isNone (migrateExistingRuns host generation root none)
  let store ← read
  match ← lift (readBlockRunIndexSnapshot store) with
  | some snapshot => pure snapshot
  | none => fail failure

def upsertBlockRunInIndex (migration generation : String) (root : RunRoot) (runId : String) (hasArtifact : Option Bool) :
    Indexing Unit := do
  let snapshot ← requireSnapshot host migration root "Failed to initialize block run index."
  let facts ← lift (readRunFacts root runId)
  mutateBlockRunIndex host generation snapshot
    (.upsert { facts with hasArtifact := facts.hasArtifact || hasArtifact = some true })

def recordBlockRunArtifactInIndex (generation : String) (root : RunRoot) (runId : String) : Indexing Unit := do
  let store ← read
  match ← lift (readBlockRunIndexSnapshot store) with
  | none => fail "Block run index is missing."
  | some snapshot =>
    let facts ← lift (readRunFacts root runId)
    mutateBlockRunIndex host generation snapshot (.markArtifact facts.toBlockRunLogicalCursor runId)

def removeBlockRunFromIndex (migration generation : String) (root : RunRoot) (runId : String) : Indexing Unit := do
  let snapshot ← requireSnapshot host migration root "Block run index is missing."
  let facts ← lift (readRunFacts root runId)
  mutateBlockRunIndex host generation snapshot (.remove facts.toBlockRunLogicalCursor runId)

/-- The operations on the index of a block, with the run directories they find and the generation names they draw. -/
inductive IndexOperation where
  | rebuild (generation : String) (root : RunRoot)
  | prepare (generation : String) (root : RunRoot)
  | upsert (migration generation : String) (root : RunRoot) (runId : String) (hasArtifact : Option Bool)
  | recordArtifact (generation : String) (root : RunRoot) (runId : String)
  | remove (migration generation : String) (root : RunRoot) (runId : String)
  | maintain

def performIndexing : IndexOperation → Indexing Unit
  | .rebuild generation root => rebuildBlockRunIndex host generation root
  | .prepare generation root => initializeBlockRunIndex host generation root
  | .upsert migration generation root runId hasArtifact =>
    upsertBlockRunInIndex host migration generation root runId hasArtifact
  | .recordArtifact generation root runId => recordBlockRunArtifactInIndex host generation root runId
  | .remove migration generation root runId => removeBlockRunFromIndex host migration generation root runId
  | .maintain => maintainBlockRunIndex host

end PlanWeave
