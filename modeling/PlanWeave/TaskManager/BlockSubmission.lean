import PlanWeave.TaskManager.ResultIndex
import PlanWeave.TaskManager.BlockStatus

namespace PlanWeave
open Durable

inductive SubmissionArtifact where
  | legacy (bytes : Bytes)
  | verified (reference : ArtifactReference) (bytes : Bytes)

def SubmissionArtifact.bytes : SubmissionArtifact → Bytes
  | legacy bytes => bytes
  | verified _ bytes => bytes

def SubmissionArtifact.matchesBytes (digests : Digests) : SubmissionArtifact → Bool
  | legacy _ => true
  | verified reference bytes => reference.sha256 = digests.sha256 bytes && reference.sizeBytes = bytes.length

inductive SubmissionAuthority where
  | «local»
  | remote (identity : RemoteIdentity) (source : Except String RemoteBlockSourceEvidence)

def SubmissionAuthority.isLocal : SubmissionAuthority → Bool
  | «local» => true
  | remote _ _ => false

structure BlockSubmission where
  ref : String
  artifact : SubmissionArtifact
  runId : Option String := none
  submissionAttemptId : Option AttemptId := none
  randomAttempt : AttemptId

structure SubmitResult where
  ref : String
  runId : String
  status : BlockStatus

def RUNNER_ARTIFACT_MAX_CONTENT_BYTES : Nat := 768 * 1024

def readVerifiedArtifactReference (digests : Digests) (value : Option ArtifactReference) (report : Bytes) :
    Except String ArtifactReference :=
  match value with
  | none => .error "Persisted runner artifact reference is corrupt."
  | some reference =>
    if RUNNER_ARTIFACT_MAX_CONTENT_BYTES < report.length then .error "Materialized artifact exceeds 786432 bytes."
    else if report.length ≠ reference.sizeBytes then
      .error "Referenced artifact size does not match its verified materialization."
    else if digests.sha256 report ≠ reference.sha256 then
      .error "Referenced artifact digest does not match its verified materialization."
    else .ok reference

def runHasSubmittedResult (digests : Digests) (folder : RunFolder) (ref runId : String) (artifact : SubmissionArtifact) :
    Except String Bool :=
  match folder.metadata, folder.report with
  | some metadata, some report =>
    if metadata.ref ≠ some ref ∨ metadata.runId.map RunName.text ≠ some runId then .ok false
    else if metadata.reportHash ≠ some (digests.sha256 artifact.bytes) then .ok false
    else do
      match artifact with
      | .legacy _ => pure ()
      | .verified reference _ =>
        let persisted ← readVerifiedArtifactReference digests metadata.artifactReference report
        if persisted ≠ reference then
          .error s!"Persisted artifact reference for run '{runId}' does not match submission."
      if report ≠ artifact.bytes then .error s!"Persisted report for run '{runId}' does not match its submitted hash."
      else .ok true
  | _, _ => .ok false

def parseRunName (value : String) : Option RunName :=
  if plain : submissionRunIdSchema value = true then some ⟨value, plain⟩ else none

/-- The run that carries a submission attempt; two of them are an error. -/
def findAttemptRun (runs : OrderedMap RunName RunFolder) (attemptId : AttemptId) : Except String (Option RunName) :=
  match (runs.entries.filter (fun entry =>
    entry.2.metadata.any (fun metadata => metadata.submissionAttemptId = some attemptId))).map Prod.fst with
  | [] => .ok none
  | [runId] => .ok (some runId)
  | _ => .error "Multiple RUN records belong to the same submission attempt."

def ambiguousRun (block : BlockState) (entry : RunName × RunFolder) : Option String :=
  if some entry.1.text = block.lastRunId then none
  else
    let name := entry.1.text
    match entry.2.metadata with
    | none => some s!"Submission identity is ambiguous for incomplete run '{name}'; its owning claim must be proven before retrying."
    | some metadata =>
      if metadata.submissionAttemptId.isNone then
        some s!"Submission identity is ambiguous for legacy run '{name}'; its owning claim must be proven before retrying."
      else none

structure SubmissionRun where
  candidate : Option RunName
  metadata : ImplementationRunMetadata
  directoryExists : Bool

structure SubmissionTarget where
  ref : String
  taskId : String
  blockId : String
  block : BlockState
  attemptId : Option AttemptId
  isLocal : Bool

def SubmissionTarget.reserved (target : SubmissionTarget) : Option RunName :=
  if target.block.submissionAttemptId = target.attemptId then target.block.submissionRunId else none

def candidateRun (runs : OrderedMap RunName RunFolder) (target : SubmissionTarget) (runId : Option RunName) :
    Except String (Option RunName) :=
  match runId.or target.reserved with
  | some candidate => .ok (some candidate)
  | none =>
    match (if target.block.status = .completed then target.block.lastRunId.bind parseRunName else none) with
    | some candidate => .ok (some candidate)
    | none => do
      match ← target.attemptId.elim (.ok none) (findAttemptRun runs) with
      | some candidate => .ok (some candidate)
      | none =>
        if target.isLocal && target.block.status = .inProgress then
          match runs.entries.findSome? (ambiguousRun target.block) with
          | some problem => .error problem
          | none => .ok none
        else .ok none

def identityConflict (target : SubmissionTarget) (candidate : RunName) (metadata : ImplementationRunMetadata) :
    Option String :=
  if metadata.ref.any (fun ref => ref ≠ target.ref) then some "ref"
  else if metadata.taskId.any (fun taskId => taskId ≠ target.taskId) then some "taskId"
  else if metadata.blockId.any (fun blockId => blockId ≠ target.blockId) then some "blockId"
  else if metadata.runId.any (fun runId => runId ≠ candidate) then some "runId"
  else none

def assertCandidate (target : SubmissionTarget) (candidate : RunName) (run : SubmissionRun) : Except String Unit :=
  let name := candidate.text
  match identityConflict target candidate run.metadata with
  | some key => .error s!"Run '{name}' identity conflicts with submission ({key})."
  | none =>
    if run.metadata.submissionAttemptId.isSome ∧ run.metadata.submissionAttemptId ≠ target.attemptId ∧
        ¬ (target.attemptId = none ∧ target.block.status = .completed ∧ some name = target.block.lastRunId) then
      .error s!"Run '{name}' attempt conflicts with submission."
    else if run.metadata.submissionAttemptId = none ∧ target.block.status = .inProgress ∧ run.directoryExists = true ∧
        target.reserved ≠ some candidate then
      .error s!"Submission identity is ambiguous for legacy run '{name}'; its owning claim must have a persisted reservation before retrying."
    else if run.metadata.submissionAttemptId = none ∧ run.metadata.reportHash.isSome ∧ target.block.status = .inProgress ∧
        some name = target.block.lastRunId then
      .error s!"Submission identity is ambiguous for historical run '{name}'; prepare a new execution for this claim before submitting."
    else .ok ()

def resolveSubmissionRun (runs : OrderedMap RunName RunFolder) (target : SubmissionTarget) (runId : Option RunName) :
    Except String SubmissionRun := do
  match runId, target.reserved with
  | some wanted, some reserved =>
    if wanted ≠ reserved then
      let name := wanted.text
      let other := reserved.text
      .error s!"Run '{name}' conflicts with submission run '{other}'."
  | _, _ => pure ()
  let candidate ← candidateRun runs target runId
  let folder := candidate.bind runs.get?
  let run : SubmissionRun := {
    candidate
    metadata := (folder.bind RunFolder.metadata).getD {}
    directoryExists := folder.isSome
  }
  match candidate with
  | some name => assertCandidate target name run
  | none => pure ()
  if target.block.status = .completed ∧ candidate.map RunName.text ≠ target.block.lastRunId then
    let name := (candidate.map RunName.text).getD "undefined"
    .error s!"Run '{name}' conflicts with completed submission."
  else return run

def controlPlaneText : ControlPlane → String
  | .collaboration => "collaboration"
  | .owner => "owner"

/-- The submission attempt of a remote operation, a JSON array. Opaque identifiers need no escapes. -/
def remoteAttemptText (identity : RemoteIdentity) : String :=
  "[\"" ++ String.intercalate "\",\"" [identity.operationId.text,
    controlPlaneText (identity.controlPlane.getD .collaboration), identity.sourceRevision.text,
    identity.graphFingerprint.text, identity.dispatchId.text, identity.executionAttemptId.text] ++ "\"]"

theorem remoteAttemptText_ne_empty (identity : RemoteIdentity) : remoteAttemptText identity ≠ "" := by
  intro empty
  have chars := congrArg String.toList empty
  simp [remoteAttemptText, String.toList_append] at chars

def remoteAttemptId (identity : RemoteIdentity) : AttemptId := ⟨remoteAttemptText identity, remoteAttemptText_ne_empty identity⟩

/-- A remote identity that names an immutable snapshot is only held to the graph fingerprint. -/
def sameRemoteBlockAuthority (current : RemoteBlockSourceEvidence) (requested : RemoteSource) : Bool :=
  if "snapshot:".toList <+: requested.sourceRevision.text.toList then
    current.graphFingerprint = requested.graphFingerprint
  else current.sourceRevision = requested.sourceRevision && current.graphFingerprint = requested.graphFingerprint

inductive Admission where
  | replayed (runId : String)
  | drifted (state : RuntimeState) (reason : String)
  | admitted

def remoteCanSubmit (block : BlockState) : Bool :=
  block.status = .inProgress || (block.status = .diverged && block.remoteInterruption.any RemoteInterruption.resumable)

def runNamed (runs : OrderedMap RunName RunFolder) (name : String) : RunFolder :=
  ((parseRunName name).bind runs.get?).getD {}

def remoteReplay (digests : Digests) (results : Results) (submission : BlockSubmission) (identity : RemoteIdentity)
    (receipt : RemoteOperationReceipt) : Except String Admission :=
  let ref := submission.ref
  match receipt.outcome with
  | .completed runId =>
    if !matchesRemoteOperationReceipt receipt identity then
      .error s!"Remote completion for '{ref}' conflicts with its terminal operation receipt."
    else do
      if ← runHasSubmittedResult digests (runNamed (results.runsOf ref) runId.text) ref runId.text submission.artifact then
        return .replayed runId.text
      else .error s!"Remote completion receipt for '{ref}' does not match the submitted report."
  | .failed _ => .error s!"Remote completion for '{ref}' conflicts with its terminal operation receipt."

def remoteAdmission (digests : Digests) (context : RuntimeContext) (results : Results) (submission : BlockSubmission)
    (identity : RemoteIdentity) (source : Except String RemoteBlockSourceEvidence) : Except String Admission :=
  let ref := submission.ref
  let block := context.state.block ref
  match block.remoteOperationReceipt with
  | some receipt => remoteReplay digests results submission identity receipt
  | none => do
    let _ ← assertActiveRemoteBlockOwnership block identity
    if !remoteCanSubmit block then .error s!"Block '{ref}' must be in_progress before submit-result."
    else
      let current ← source
      if !sameRemoteBlockAuthority current identity.toRemoteSource then
        let reason := s!"Remote source changed before completion of '{ref}'."
        let drifted ← markRemoteBlockOwnershipSourceDrift block current reason
        return .drifted (context.state.setBlock ref drifted) reason
      else return .admitted

def localAdmission (context : RuntimeContext) (submission : BlockSubmission) : Except String Admission :=
  let ref := submission.ref
  let block := context.state.block ref
  if block.remoteOwnership.isSome then
    .error s!"Remote-owned block '{ref}' must be completed through the remote operation port."
  else if block.remoteOperationReceipt.isSome then
    .error s!"Remote-completed block '{ref}' cannot be replayed through local submit-result."
  else if block.status ≠ .inProgress ∧ block.status ≠ .completed then
    .error s!"Block '{ref}' must be in_progress before submit-result."
  else if submission.submissionAttemptId.isSome ∧ block.submissionAttemptId ≠ submission.submissionAttemptId then
    .error s!"Executor claim '{ref}' attempt conflicts with current submission."
  else .ok .admitted

def admission (digests : Digests) (context : RuntimeContext) (results : Results) (submission : BlockSubmission)
    (authority : SubmissionAuthority) : Except String Admission :=
  match authority with
  | .local => localAdmission context submission
  | .remote identity source => remoteAdmission digests context results submission identity source

def submissionTarget (context : RuntimeContext) (submission : BlockSubmission) (authority : SubmissionAuthority)
    (taskId blockId : String) : SubmissionTarget :=
  let block := context.state.block submission.ref
  {
    ref := submission.ref
    taskId
    blockId
    block
    attemptId := match authority with
      | .local => block.submissionAttemptId
      | .remote identity _ => some (remoteAttemptId identity)
    isLocal := authority.isLocal
  }

def requestedRunName (submission : BlockSubmission) : Except String (Option RunName) :=
  match submission.runId with
  | none => .ok none
  | some runId =>
    match parseRunName runId with
    | some name => .ok (some name)
    | none => .error "Submission runId must be a non-hidden single directory name."

def assertSameReport (digests : Digests) (submission : BlockSubmission) (run : SubmissionRun) : Except String Unit :=
  let reportHash := digests.sha256 submission.artifact.bytes
  let name := (run.candidate.map RunName.text).getD "undefined"
  if run.metadata.reportHash.any (fun hash => hash ≠ reportHash) ||
      run.metadata.submissionReportHash.any (fun hash => hash ≠ reportHash) then
    .error s!"Run '{name}' report conflicts with submission."
  else .ok ()

def persistedRun (digests : Digests) (results : Results) (submission : BlockSubmission) (run : SubmissionRun) :
    Except String (Option RunName) :=
  match run.candidate with
  | none => .ok none
  | some candidate => do
    let folder := ((results.runsOf submission.ref).get? candidate).getD {}
    if ← runHasSubmittedResult digests folder submission.ref candidate.text submission.artifact then return some candidate
    else return none

def submittedBlock (authority : SubmissionAuthority) (kind : BlockKind) (block : BlockState) (runId : RunName) :
    Except String BlockState :=
  match authority with
  | .local => .ok { withoutRemoteBlockOwnership block .completed with lastRunId := some runId.text }
  | .remote identity _ => completeRemoteBlockOwnership kind block identity runId.text

def submittedState (state : RuntimeState) (ref : String) (block : BlockState) : RuntimeState :=
  { state.setBlock ref block with currentRefs := state.currentRefs.filter (fun current => current ≠ ref) }

def completeSubmission (context : RuntimeContext) (ref : String) (authority : SubmissionAuthority) (state : RuntimeState)
    (runId : RunName) : Locked SubmitResult := do
  let block ← lift (submittedBlock authority .implementation (state.block ref) runId)
  let _ ← writeRefreshed context (submittedState state ref block)
  return { ref, runId := runId.text, status := .completed }

def recordPersistedRun (ref : String) (runId : RunName) (index : TaskResultIndex) : TaskResultIndex :=
  { index with
    latestRunByBlock := index.latestRunByBlock.set ref runId
    counts := if index.latestRunByBlock.get? ref = some runId then index.counts
      else { index.counts with runs := index.counts.runs + 1 } }

def recordNewRun (ref : String) (runId : RunName) (index : TaskResultIndex) : TaskResultIndex :=
  { index with
    latestRunByBlock := index.latestRunByBlock.set ref runId
    counts := { index.counts with runs := index.counts.runs + 1 } }

def replacePersistedRun (context : RuntimeContext) (ref taskId : String) (authority : SubmissionAuthority)
    (runId : RunName) : Locked SubmitResult := do
  updateTaskIndex taskId (recordPersistedRun ref runId)
  completeSubmission context ref authority context.state runId

def withAttempt (state : RuntimeState) (ref : String) (attempt : AttemptId) : RuntimeState :=
  state.setBlock ref { state.block ref with submissionAttemptId := some attempt }

def withReservation (state : RuntimeState) (ref : String) (attempt : AttemptId) (runId : RunName) : RuntimeState :=
  state.setBlock ref { state.block ref with
    submissionAttemptId := some attempt
    submissionRunId := some runId }

def writeRunMetadata (ref : String) (runId : RunName) (metadata : ImplementationRunMetadata) : Locked Unit :=
  writeResults (fun results => results.setRun ref runId
    { ((results.runsOf ref).get? runId).getD {} with metadata := some metadata })

def writeRunReport (ref : String) (runId : RunName) (bytes : Bytes) : Locked Unit :=
  writeResults (fun results => results.setRun ref runId
    { ((results.runsOf ref).get? runId).getD {} with report := some bytes })

def reservationMetadata (target : SubmissionTarget) (run : SubmissionRun) (runId : RunName) (attempt : AttemptId)
    (reportHash : String) : ImplementationRunMetadata :=
  { run.metadata with
    ref := some target.ref
    taskId := some target.taskId
    blockId := some target.blockId
    runId := some runId
    submissionAttemptId := some attempt
    submissionReportHash := some reportHash }

def materializeReport (digests : Digests) (submission : BlockSubmission) (runId : RunName) :
    Locked (Option ArtifactReference) := do
  let bytes := submission.artifact.bytes
  match submission.artifact with
  | .legacy _ =>
    writeRunReport submission.ref runId bytes
    return none
  | .verified _ _ =>
    if RUNNER_ARTIFACT_MAX_CONTENT_BYTES < bytes.length then fail "Materialized artifact exceeds 786432 bytes."
    else
      writeRunReport submission.ref runId bytes
      return some { sha256 := digests.sha256 bytes, sizeBytes := bytes.length }

def sealedMetadata (previous : ImplementationRunMetadata) (target : SubmissionTarget) (runId : RunName)
    (attempt : AttemptId) (reportHash : String) (reference : Option ArtifactReference) : ImplementationRunMetadata :=
  { previous with
    ref := some target.ref
    taskId := some target.taskId
    blockId := some target.blockId
    runId := some runId
    reportHash := some reportHash
    submissionAttemptId := some attempt
    artifactReference := reference.or previous.artifactReference }

/-- The directory of the run: the reserved one, a requested one, or a new one. -/
def openRunDirectory (ref : String) (run : SubmissionRun) : Locked RunName :=
  match run.candidate with
  | none => allocateRunId ref
  | some candidate => do
    when (!run.directoryExists) (writeResults (fun results => results.setRun ref candidate {}))
    return candidate

/-- Reserve a run, write the report, seal it, count it and complete the block, in this order. -/
def submitNewRun (digests : Digests) (context : RuntimeContext) (submission : BlockSubmission)
    (authority : SubmissionAuthority) (target : SubmissionTarget) (run : SubmissionRun) : Locked SubmitResult := do
  let ref := submission.ref
  let reportHash := digests.sha256 submission.artifact.bytes
  let attempt := target.attemptId.getD submission.randomAttempt
  when target.attemptId.isNone (writeState (withAttempt context.state ref attempt))
  let runId ← openRunDirectory ref run
  writeRunMetadata ref runId (reservationMetadata target run runId attempt reportHash)
  let reserved := withReservation context.state ref attempt runId
  writeState reserved
  let reference ← materializeReport digests submission runId
  let world ← read
  let previous := (((world.results.runsOf ref).get? runId).bind RunFolder.metadata).getD {}
  writeRunMetadata ref runId (sealedMetadata previous target runId attempt reportHash reference)
  updateTaskIndex target.taskId (recordNewRun ref runId)
  completeSubmission context ref authority reserved runId

def submitBlockResultArtifact (digests : Digests) (submission : BlockSubmission) (authority : SubmissionAuthority) :
    Locked SubmitResult := do
  let ref := submission.ref
  if !submission.artifact.matchesBytes digests then
    fail "Verified implementation artifact reference does not match its bytes."
  else
    let context ← loadRuntime
    let (taskId, blockId) ← lift (parseBlockRef ref)
    let block ← lift (getBlock context.graph ref)
    if block.isReview then fail "submit-result only accepts implementation blocks."
    else
      let world ← read
      match ← lift (admission digests context world.results submission authority) with
      | .replayed runId => return { ref, runId, status := .completed }
      | .drifted state reason =>
        let _ ← writeRefreshed context state
        fail reason
      | .admitted =>
        let runName ← lift (requestedRunName submission)
        let target := submissionTarget context submission authority taskId blockId
        let run ← lift (resolveSubmissionRun (world.results.runsOf ref) target runName)
        lift (assertSameReport digests submission run)
        match ← lift (persistedRun digests world.results submission run) with
        | some persisted => replacePersistedRun context ref taskId authority persisted
        | none =>
          if authority.isLocal && context.state.status ref ≠ .inProgress then
            fail s!"Block '{ref}' must be in_progress before submit-result."
          else submitNewRun digests context submission authority target run

end PlanWeave
