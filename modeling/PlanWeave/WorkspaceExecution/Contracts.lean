import PlanWeave.Lib.Json
import PlanWeave.Lib.OrderedMap
import PlanWeave.Lib.Text

namespace PlanWeave.WorkspaceExecution

/-- What names the remote authority; `subjectId` is the workspace, or the person who owns the canvas. -/
structure RemoteLocator where
  ownerCanvas : Bool
  connectionProfileId : String
  serverOrigin : String
  subjectId : String
  projectId : String
  canvasId : String
deriving DecidableEq

structure AuthorityRevisions where
  responsibilityRevision : Nat
  reviewerRevision : Nat
  executionTargetRevision : Nat
deriving DecidableEq

structure RemoteBinding where
  bindingId : String
  locator : RemoteLocator
  blockRef : String
  authorityRevisions : AuthorityRevisions
  contentRevision : String
  graphFingerprint : String
deriving DecidableEq

structure ExecutionRequest where
  authority : RemoteLocator
  blockRef : String
  effectiveExecutor : Bool

structure DispatchIntent where
  projectId : String
  canvasId : String
  blockRef : String
  agentEndpointId : String
  idempotencyKey : String
  expectedRevisions : AuthorityRevisions
  contentRevision : String
  graphFingerprint : String
deriving DecidableEq

inductive HandlePhase where
  | operation
  | attempt
  | acpSession
deriving DecidableEq

structure RemoteHandle where
  phase : HandlePhase
  runSessionId : Nat
  authorityBindingId : String
  blockRef : String
  operationId : String
  operationRevision : Nat
  dispatchId : String
  executionAttemptId : Option String
  attemptStateVersion : Option Nat
  leaseId : Option String
  agentEndpointId : String
  eventCursor : Nat
deriving DecidableEq

inductive OperationState where
  | running
  | actionRequired
  | interrupted
  | completed
  | failed
  | cancelled
deriving DecidableEq

structure OperationAttempt where
  dispatchId : String
  executionAttemptId : String
  stateVersion : Nat
  leaseId : Option String
deriving DecidableEq

structure OperationDiagnostics where
  revision : Nat
  attemptId : String
  workspaceId : String
  projectId : String
  canvasId : String
  endpointId : String
  authorityRevisions : Option AuthorityRevisions
  contentRevision : String
  fingerprint : String
  errorCode : Option String
deriving DecidableEq

structure OperationObservation where
  operationId : String
  projectId : String
  canvasId : String
  blockRef : String
  state : OperationState
  dispatchId : String
  executionAttemptId : String
  attempt : OperationAttempt
  endpointId : Option String
  failureCode : Option String
  diagnostics : Option OperationDiagnostics
deriving DecidableEq

inductive Terminal where
  | running
  | completed
  | failed (errorCode : String)
  | cancelled

def Terminal.terminal : Terminal → Bool
  | running => false
  | _ => true

def terminalForObservation (observation : OperationObservation) : Terminal :=
  match observation.state with
  | .completed => .completed
  | .failed =>
    .failed ((observation.failureCode.or (observation.diagnostics.bind (·.errorCode))).getD "remote_operation_failed")
  | .cancelled => .cancelled
  | _ => .running

structure AdapterSnapshot where
  handle : RemoteHandle
  observation : OperationObservation
deriving DecidableEq

def AdapterSnapshot.terminal (snapshot : AdapterSnapshot) : Terminal := terminalForObservation snapshot.observation

/-- What a response answers; the hash of it is the key of an interaction record. -/
structure InteractionIdentity where
  operationId : String
  dispatchId : String
  leaseId : String
  executionAttemptId : String
  acpSessionId : String
  actionId : String
deriving DecidableEq

structure InteractionRequest where
  dispatchId : String
  leaseId : String
  executionAttemptId : String
  acpSessionId : String
  actionId : String
  expiresAt : Nat
  prompt : String
deriving DecidableEq

structure InteractionResponse where
  dispatchId : String
  leaseId : String
  executionAttemptId : String
  acpSessionId : String
  actionId : String
  answer : String
deriving DecidableEq

inductive InteractionStatus where
  | pending
  | settled
  | expired
deriving DecidableEq

structure InteractionView where
  operationId : String
  request : InteractionRequest
  status : InteractionStatus
  settlement : Option InteractionResponse
deriving DecidableEq

def InteractionRequest.identity (operationId : String) (request : InteractionRequest) : InteractionIdentity :=
  ⟨operationId, request.dispatchId, request.leaseId, request.executionAttemptId, request.acpSessionId, request.actionId⟩

def InteractionResponse.identity (operationId : String) (response : InteractionResponse) : InteractionIdentity :=
  ⟨operationId, response.dispatchId, response.leaseId, response.executionAttemptId, response.acpSessionId, response.actionId⟩

def InteractionView.key (view : InteractionView) : InteractionIdentity := view.request.identity view.operationId

structure ResponseIntent where
  request : InteractionRequest
  response : InteractionResponse
deriving DecidableEq

structure InteractionRecord where
  status : InteractionStatus
  responseIntent : Option ResponseIntent
deriving DecidableEq

abbrev InteractionRecords : Type := OrderedMap InteractionIdentity InteractionRecord

structure Diagnostic where
  code : String
  message : String
deriving DecidableEq

inductive EvidenceStatus where
  | pending
  | complete
  | incomplete
deriving DecidableEq

structure Evidence where
  status : EvidenceStatus
  diagnostics : List Diagnostic
deriving DecidableEq

structure SessionState where
  binding : RemoteBinding
  dispatchIntent : Option DispatchIntent
  observedOperationId : Option String
  handle : Option RemoteHandle
  interactions : InteractionRecords
  evidence : Evidence
deriving DecidableEq

inductive SessionPhase where
  | created
  | running
  | blocked
  | completed
  | failed
  | stopped
deriving DecidableEq

def SessionPhase.terminal : SessionPhase → Bool
  | completed | failed | stopped => true
  | _ => false

/-- A run session; other kinds than remote executions have no execution state here. -/
structure SessionRecord where
  sessionId : Nat
  stateVersion : Nat
  blockRef : String
  phase : SessionPhase
  finishedAt : Option Nat
  error : Option String
  workspaceExecution : Option SessionState
deriving DecidableEq

/-- An error; `typed` for a `WorkspaceExecutionError`, whose code is always there. -/
structure ExecutionError where
  typed : Bool
  code : Option String
  message : String
deriving DecidableEq

def ExecutionError.ofCode (code : String) : ExecutionError := ⟨true, some code, code⟩

/-- `/^[a-z][a-z0-9_]{0,127}$/`. -/
def safeCode (code : String) : Bool :=
  match code.toList with
  | [] => false
  | first :: rest =>
    first.isLower && rest.length ≤ 127 && rest.all fun letter => letter.isLower || letter.isDigit || letter = '_'

def workspaceExecutionPortError (error : ExecutionError) (code : String) : ExecutionError :=
  if error.typed then error else .ofCode ((error.code.filter safeCode).getD code)

def diagnosticOf (error : ExecutionError) : Diagnostic :=
  ⟨if error.typed then error.code.getD "" else "remote_evidence_incomplete", error.message⟩

def textWithin (bound : Nat) (text : String) : Bool :=
  let length := (Json.utf16 (Text.trim text)).length
  0 < length && length ≤ bound

def Diagnostic.fits (diagnostic : Diagnostic) : Bool := textWithin 256 diagnostic.code && textWithin 4096 diagnostic.message

namespace SessionState

def intentMatches (binding : RemoteBinding) (intent : DispatchIntent) : Bool :=
  intent.projectId = binding.locator.projectId && intent.canvasId = binding.locator.canvasId &&
    intent.blockRef = binding.blockRef && intent.expectedRevisions = binding.authorityRevisions &&
    intent.contentRevision = binding.contentRevision && intent.graphFingerprint = binding.graphFingerprint

/-- `workspaceExecutionSessionStateSchema` of a remote binding. -/
def valid (state : SessionState) : Bool :=
  (state.handle.all fun handle =>
    handle.authorityBindingId = state.binding.bindingId && handle.blockRef = state.binding.blockRef &&
      state.observedOperationId.all (· = handle.operationId)) &&
    state.dispatchIntent.isSome != state.observedOperationId.isSome &&
    state.dispatchIntent.all (intentMatches state.binding) &&
    state.interactions.size ≤ 10000 && state.evidence.diagnostics.length ≤ 100 &&
    state.evidence.diagnostics.all Diagnostic.fits

end SessionState

/-- The error of a state that the schema refuses; its message lists the issues. -/
def invalidState : ExecutionError := ⟨false, none, "workspace_execution_session_state"⟩

def parseState (state : SessionState) : Except ExecutionError SessionState :=
  if state.valid then .ok state else .error invalidState

def resumeMismatch : ExecutionError := .ofCode "workspace_execution_resume_mismatch"

def remoteIntent (binding : RemoteBinding) (endpointId idempotencyKey : String) : DispatchIntent :=
  { projectId := binding.locator.projectId
    canvasId := binding.locator.canvasId
    blockRef := binding.blockRef
    agentEndpointId := endpointId
    idempotencyKey
    expectedRevisions := binding.authorityRevisions
    contentRevision := binding.contentRevision
    graphFingerprint := binding.graphFingerprint }

def remoteSessionState (binding : RemoteBinding) (intent : Option DispatchIntent) (handle : Option RemoteHandle)
    (previous : Option SessionState) (observedOperationId : Option String) : Except ExecutionError SessionState :=
  parseState
    { binding
      dispatchIntent := intent
      observedOperationId
      handle
      interactions := (previous.map (·.interactions)).getD ∅
      evidence := (previous.map (·.evidence)).getD ⟨.pending, []⟩ }

def terminalPhase : Terminal → SessionPhase
  | .completed => .completed
  | .cancelled => .stopped
  | _ => .failed

def expirePending (record : InteractionRecord) : InteractionRecord :=
  if record.status = .pending then { record with status := .expired } else record

def terminalInteractions (interactions : InteractionRecords) : InteractionRecords := interactions.mapValues expirePending

/-- What a page says about an interaction: a pending record keeps its response intent, others are not touched again. -/
def recordView (records : InteractionRecords) (view : InteractionView) : InteractionRecords :=
  match records.get? view.key with
  | none => records.set view.key ⟨view.status, none⟩
  | some previous =>
    if previous.status = .pending then
      records.set view.key ⟨view.status, if view.status = .pending then previous.responseIntent else none⟩
    else records

def interactionRecords (existing : InteractionRecords) (views : List InteractionView) : InteractionRecords :=
  views.foldl recordView existing

def RemoteHandle.attemptVersion (handle : RemoteHandle) : Int := (handle.attemptStateVersion.map Int.ofNat).getD (-1)

/-- The identity of an operation's execution that must not change under a call. -/
def RemoteHandle.sameExecution (left right : RemoteHandle) : Bool :=
  left.operationId = right.operationId && left.dispatchId = right.dispatchId &&
    left.executionAttemptId = right.executionAttemptId && left.leaseId = right.leaseId

def operationRevision (observation : OperationObservation) : Except ExecutionError Nat :=
  match observation.diagnostics with
  | some diagnostics => .ok diagnostics.revision
  | none => .error (.ofCode "remote_operation_revision_missing")

def observationMatches (observation : OperationObservation) (binding : RemoteBinding) (operationId : Option String)
    (endpointId : String) (readCompletedHistory : Bool) : Bool :=
  match observation.diagnostics with
  | none => false
  | some diagnostics =>
    operationId.all (observation.operationId = ·) && observation.projectId = binding.locator.projectId &&
      observation.canvasId = binding.locator.canvasId && observation.blockRef = binding.blockRef &&
      observation.dispatchId = observation.attempt.dispatchId &&
      observation.executionAttemptId = observation.attempt.executionAttemptId &&
      diagnostics.attemptId = observation.executionAttemptId &&
      (binding.locator.ownerCanvas || diagnostics.workspaceId = binding.locator.subjectId) &&
      diagnostics.projectId = binding.locator.projectId && diagnostics.canvasId = binding.locator.canvasId &&
      diagnostics.endpointId = endpointId && observation.endpointId = some endpointId &&
      (readCompletedHistory && (terminalForObservation observation).terminal ||
        diagnostics.authorityRevisions = some binding.authorityRevisions &&
          diagnostics.contentRevision = binding.contentRevision && diagnostics.fingerprint = binding.graphFingerprint)

def assertObservationIdentity (observation : OperationObservation) (binding : RemoteBinding) (operationId : Option String)
    (endpointId : String) (readCompletedHistory : Bool) : Except ExecutionError Unit :=
  if observationMatches observation binding operationId endpointId readCompletedHistory then .ok ()
  else if operationId.isNone then .error (.ofCode "remote_dispatch_acceptance_mismatch") else .error resumeMismatch

def handleFromObservation (prior : Option RemoteHandle) (runSessionId : Nat) (binding : RemoteBinding)
    (agentEndpointId : String) (observation : OperationObservation) : Except ExecutionError RemoteHandle := do
  let revision ← operationRevision observation
  let attemptChanged := prior.any (·.executionAttemptId ≠ some observation.executionAttemptId)
  if prior.any (revision < ·.operationRevision) then throw (.ofCode "remote_operation_observation_stale")
  if prior.any (revision = ·.operationRevision) && attemptChanged then throw (.ofCode "remote_attempt_revision_stale")
  if prior.any fun handle => handle.executionAttemptId = some observation.executionAttemptId &&
      handle.attemptStateVersion.any (observation.attempt.stateVersion < ·) then
    throw (.ofCode "remote_attempt_revision_stale")
  return {
    phase := if prior.any (·.phase = .acpSession) && !attemptChanged then .acpSession else .attempt
    runSessionId
    authorityBindingId := binding.bindingId
    blockRef := binding.blockRef
    operationId := observation.operationId
    operationRevision := revision
    dispatchId := observation.dispatchId
    executionAttemptId := some observation.executionAttemptId
    attemptStateVersion := some observation.attempt.stateVersion
    leaseId := observation.attempt.leaseId
    agentEndpointId
    eventCursor := if attemptChanged then 0 else (prior.map (·.eventCursor)).getD 0 }

def snapshotFromObservation (observation : OperationObservation) (binding : RemoteBinding) (runSessionId : Nat)
    (endpointId : String) (prior : Option RemoteHandle) (readCompletedHistory : Bool) : Except ExecutionError AdapterSnapshot := do
  assertObservationIdentity observation binding (prior.map (·.operationId)) endpointId readCompletedHistory
  let handle ← handleFromObservation prior runSessionId binding endpointId observation
  return { handle, observation }

/-- One page of the events of an attempt: the cursors of its events and those up to which events were dropped. -/
structure EventReplay where
  executionAttemptId : String
  afterCursor : Nat
  cursor : Nat
  highWatermark : Nat
  hasMore : Bool
  events : List Nat
  droppedThrough : List Nat

def replayReaches (from_ : Nat) : List Nat → Option Nat
  | [] => some from_
  | event :: rest => if event = from_ + 1 then replayReaches event rest else none

def assertReplayCursorDomain (replay : EventReplay) (requestedCursor : Nat) : Except ExecutionError Unit :=
  let gap : ExecutionError := .ofCode "remote_event_cursor_gap"
  if replay.afterCursor ≠ requestedCursor || replay.cursor < requestedCursor || replay.highWatermark < replay.cursor ||
      replay.hasMore ≠ decide (replay.cursor < replay.highWatermark) then .error gap
  else
    match replayReaches (replay.droppedThrough.foldl max requestedCursor) replay.events with
    | none => .error gap
    | some reached => if replay.cursor = reached then .ok () else .error gap

end PlanWeave.WorkspaceExecution
