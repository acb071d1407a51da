import PlanWeave.WorkspaceExecution.Checkpoint

namespace PlanWeave.WorkspaceExecution

structure ExecutionResult where
  handle : RemoteHandle
  session : SessionRecord

/-- Where a caller wants the evidence from: an attempt and a cursor of its events. -/
structure EvidenceCursor where
  executionAttemptId : Option String
  eventCursor : Nat

section Adapter
variable (ports : CallPorts)

/-- The replays of the events of an attempt from a cursor on; `page` counts the requests. -/
def replayEvents (handle : RemoteHandle) (page afterCursor : Nat) : Nat → ExecutionProgram Nat
  | 0 => .throws .unfinished
  | rounds + 1 => do
    let replay := ports.replays page
    (pure () : ExecutionProgram Unit).orFail (portFailure ports .replay "remote_replay_unavailable")
    demand (handle.executionAttemptId = some replay.executionAttemptId) .evidence (.ofCode "remote_attempt_changed")
    checked .evidence (assertReplayCursorDomain replay afterCursor)
    mayFail ports .evidence
    if replay.hasMore then
      demand (replay.cursor ≠ replay.afterCursor) .evidence (.ofCode "remote_event_cursor_gap")
      replayEvents handle (page + 1) replay.cursor rounds
    else pure replay.cursor

def readInteractionSnapshot (operationId : String) (cursor : Nat) : Nat → ExecutionProgram (List InteractionView)
  | 0 => .throws .unfinished
  | rounds + 1 => do
    let aborted := portFailure ports .interactions "remote_interactions_unavailable"
    (pure () : ExecutionProgram Unit).orFail aborted
    let (views, next) ← queryInteractions ports operationId cursor
    (pure () : ExecutionProgram Unit).orFail aborted
    match next with
    | none => pure views
    | some next => do
      demand (cursor < next) .interactions (.ofCode "remote_interaction_snapshot_unstable")
      let others ← readInteractionSnapshot operationId next rounds
      pure (views ++ others)

def InteractionView.belongsTo (handle : RemoteHandle) (view : InteractionView) : Bool :=
  view.operationId = handle.operationId && view.request.dispatchId = handle.dispatchId &&
    handle.executionAttemptId = some view.request.executionAttemptId && handle.leaseId.all (· = view.request.leaseId)

def readInteractions (binding : RemoteBinding) (handle : RemoteHandle) : ExecutionProgram (List InteractionView) := do
  demand (handle.authorityBindingId = binding.bindingId) .interactions resumeMismatch
  let views ← readInteractionSnapshot ports handle.operationId 0 ports.rounds
  demand (views.all (·.belongsTo handle)) .interactions resumeMismatch
  pure views

/-- `inspectExisting`: the observation of an operation with the endpoint that runs it. -/
def inspectExisting (binding : RemoteBinding) (operationId : String) : ExecutionProgram (OperationObservation × String) := do
  let observation ← observe ports operationId
  match observation.endpointId.filter (· ≠ "") with
  | none => refuse .query resumeMismatch
  | some endpointId => do
    checked .query (assertObservationIdentity observation binding (some operationId) endpointId true)
    pure (observation, endpointId)

def launch (caller : Nat) (binding : RemoteBinding) (session : SessionRecord) (intent : DispatchIntent) :
    ExecutionProgram AdapterSnapshot := do
  let observation ← dispatch ports caller session.sessionId intent
  checked .command
    (snapshotFromObservation observation binding session.sessionId ports.agentEndpointId none false)

def recover (binding : RemoteBinding) (session : SessionRecord) (intent : DispatchIntent) :
    ExecutionProgram (Option AdapterSnapshot) := do
  match ← queryRecover ports intent.idempotencyKey with
  | none => pure none
  | some observation => do
    let snapshot ← checked .query
      (snapshotFromObservation observation binding session.sessionId intent.agentEndpointId none false)
    pure (some snapshot)

def follow (binding : RemoteBinding) (handle : RemoteHandle) : ExecutionProgram AdapterSnapshot := do
  demand (handle.authorityBindingId = binding.bindingId) .query resumeMismatch
  let observation ← observe ports handle.operationId
  checked .query
    (snapshotFromObservation observation binding handle.runSessionId handle.agentEndpointId (some handle) false)

/-- The evidence of a handle: how far its events go, and its interactions. -/
def gatherEvidence (binding : RemoteBinding) (handle : RemoteHandle) :
    ExecutionProgram (RemoteHandle × List InteractionView) := do
  let cursor ← replayEvents ports handle 0 handle.eventCursor ports.rounds
  let views ← readInteractions ports binding handle
  demand handle.executionAttemptId.isSome .evidence invalidState
  pure ({ handle with phase := .acpSession, eventCursor := cursor }, views)

def respondRemote (binding : RemoteBinding) (sessionId : Nat) (handle : RemoteHandle) (response : InteractionResponse) :
    ExecutionProgram InteractionView := do
  demand (handle.authorityBindingId = binding.bindingId && handle.executionAttemptId = some response.executionAttemptId)
    .response resumeMismatch
  let view ← sendResponse ports sessionId handle.operationId response
  demand (view.key = response.identity handle.operationId && view.status = .settled && view.settlement = some response)
    .response resumeMismatch
  pure view

end Adapter

section Coordinator
variable (ports : CallPorts)

def replayHandle (handle : RemoteHandle) (evidenceCursor : Option EvidenceCursor) : RemoteHandle :=
  match evidenceCursor with
  | none => handle
  | some cursor =>
    { handle with eventCursor := if cursor.executionAttemptId = handle.executionAttemptId then cursor.eventCursor else 0 }

def collectEvidence (binding : RemoteBinding) (session : SessionRecord) (handle : RemoteHandle)
    (evidenceCursor : Option EvidenceCursor) : ExecutionProgram ExecutionResult :=
  Process.tryCatch (do
    let (handle, views) ← gatherEvidence ports binding (replayHandle handle evidenceCursor)
    let persisted ← persistRemoteEvidence ports session handle views
    mayFail ports .evidence
    pure ⟨handle, persisted⟩) fun failure =>
  match failure with
  | .unfinished => .throws .unfinished
  | .refused _ error => do
    let persisted ← persistRemoteEvidenceDiagnostic ports session error
    match persisted.handle with
    | some handle => pure ⟨handle, persisted⟩
    | none => refuse .diagnostics invalidState

def acceptCheckpoint (binding : RemoteBinding) (session : SessionRecord) (snapshot : AdapterSnapshot)
    (evidenceCursor : Option EvidenceCursor) : ExecutionProgram ExecutionResult := do
  let persisted ← persistRemoteObservation ports binding session snapshot
  match persisted.handle with
  | none => refuse .coordinator invalidState
  | some handle => do
    -- The event of the checkpoint and the projected events can fail, and change no session.
    if handle.operationRevision = snapshot.handle.operationRevision &&
        (!persisted.phase.terminal || snapshot.terminal.terminal) then mayFail ports .sessions
    mayFail ports .coordinator
    collectEvidence ports binding persisted handle evidenceCursor

def ensureWorkAuthority : ExecutionProgram Unit :=
  (pure () : ExecutionProgram Unit).orFail (portFailure ports .authority "work_authority_unavailable")

def listCatalog : ExecutionProgram Unit :=
  (pure () : ExecutionProgram Unit).orFail (portFailure ports .catalog "remote_catalog_unavailable")

def resumeOrRecover (caller : Nat) (binding : RemoteBinding) (session : SessionRecord) (request : Option ExecutionRequest)
    (evidenceCursor : Option EvidenceCursor) : ExecutionProgram ExecutionResult :=
  match session.handle with
  | some handle =>
    if session.phase.terminal then collectEvidence ports binding session handle evidenceCursor
    else do
      let snapshot ← follow ports binding handle
      acceptCheckpoint ports binding session snapshot evidenceCursor
  | none =>
    match session.dispatchIntent with
    | none => refuse .coordinator resumeMismatch
    | some intent => do
      match ← recover ports binding session intent with
      | some recovered => acceptCheckpoint ports binding session recovered evidenceCursor
      | none => do
        demand (request.any (·.effectiveExecutor)) .coordinator resumeMismatch
        listCatalog ports
        demand (ports.agentEndpointId = intent.agentEndpointId) .coordinator resumeMismatch
        ensureWorkAuthority ports
        let relaunched ← launch ports caller binding session intent
        acceptCheckpoint ports binding session relaunched none

def resolveBinding (authority : RemoteLocator) (blockRef : String) : ExecutionProgram RemoteBinding := do
  mayFail ports .authority
  demand (ports.binding.locator = authority && ports.binding.blockRef = blockRef) .authority
    (.ofCode "workspace_execution_authority_mismatch")
  pure ports.binding

/-- `requestMatchesStoredBinding` and `bindingMatchesSession`, for the binding that the session has stored. -/
def sessionBinding (request : ExecutionRequest) (session : SessionRecord) : ExecutionProgram RemoteBinding :=
  match session.workspaceExecution with
  | none => refuse .coordinator resumeMismatch
  | some state => do
    demand (state.binding.locator = request.authority && session.blockRef = request.blockRef) .coordinator resumeMismatch
    pure state.binding

def followCall (caller : Nat) (request : ExecutionRequest) (sessionId : Nat) : ExecutionProgram ExecutionResult := do
  let session ← getSession ports sessionId
  let binding ← sessionBinding request session
  ensureWorkAuthority ports
  resumeOrRecover ports caller binding session (some request) none

def inspectSession (binding : RemoteBinding) (session : SessionRecord) : ExecutionProgram (Option AdapterSnapshot) :=
  match session.handle with
  | some handle => some <$> follow ports binding handle
  | none =>
    match session.dispatchIntent with
    | some intent => recover ports binding session intent
    | none => pure none

def recoverForCancellation (request : ExecutionRequest) (sessionId : Nat) : ExecutionProgram (Option ExecutionResult) := do
  let session ← getSession ports sessionId
  let binding ← sessionBinding request session
  ensureWorkAuthority ports
  match ← inspectSession ports binding session with
  | none => pure none
  | some snapshot => do
    demand (session.handle.all (·.sameExecution snapshot.handle)) .coordinator resumeMismatch
    let persisted ← persistRemoteObservation ports binding session snapshot
    match persisted.handle with
    | some handle => pure (some ⟨handle, persisted⟩)
    | none => refuse .coordinator invalidState

/-- The first session of the scope that is not terminal, which has to be of the binding. -/
def findScopedSession (bindingId blockRef : String) : ExecutionProgram (Option SessionRecord) := do
  let sessions ← listSessions ports
  match sessions.find? fun session => !session.phase.terminal && session.blockRef = blockRef with
  | none => pure none
  | some session => do
    demand (session.workspaceExecution.any (·.binding.bindingId = bindingId)) .coordinator resumeMismatch
    pure (some session)

/-- A key of `randomUUID`: no session has it yet. -/
def freshKey : ExecutionProgram String :=
  Process.observe fun store =>
    if store.sessions.values.any fun session => session.dispatchIntent.any (·.idempotencyKey = ports.generatedKey) then
      .error .unfinished
    else .ok ports.generatedKey

def newSession (blockRef : String) (state : SessionState) : SessionRecord :=
  { sessionId := 0, stateVersion := 0, blockRef, phase := .running, finishedAt := none, error := none,
    workspaceExecution := some state }

def dispatchNew (caller : Nat) (binding : RemoteBinding) (request : ExecutionRequest) (dispatchKey : Option String) :
    ExecutionProgram ExecutionResult := do
  ensureWorkAuthority ports
  listCatalog ports
  let key ← match dispatchKey with
    | some key => pure key
    | none => freshKey ports
  let intent := remoteIntent binding ports.agentEndpointId key
  let state ← checked .coordinator (remoteSessionState binding (some intent) none none none)
  let session ← createSession ports .dispatching (newSession request.blockRef state)
  let snapshot ← launch ports caller binding session intent
  acceptCheckpoint ports binding session snapshot none

/-- `execute` under the lock of the scope, where no session of the dispatch key is found. -/
def executeScoped (caller : Nat) (binding : RemoteBinding) (request : ExecutionRequest) (dispatchKey : Option String) :
    ExecutionProgram ExecutionResult := do
  match ← findScopedSession ports binding.bindingId request.blockRef with
  | some session => do
    demand dispatchKey.isNone .coordinator resumeMismatch
    resumeOrRecover ports caller binding session (some request) none
  | none => dispatchNew ports caller binding request dispatchKey

def sessionOfKey (key : String) : ExecutionProgram (Option SessionRecord) := do
  let sessions ← listSessions ports
  match sessions.filter fun session => session.dispatchIntent.any (·.idempotencyKey = key) with
  | [] => pure none
  | [session] => pure (some session)
  | _ => refuse .coordinator resumeMismatch

def execute (caller : Nat) (request : ExecutionRequest) (dispatchKey : Option String) : ExecutionProgram ExecutionResult := do
  let binding ← resolveBinding ports request.authority request.blockRef
  withScopeLock ports caller request.blockRef do
    demand request.effectiveExecutor .coordinator (.ofCode "workspace_execution_authority_mismatch")
    let existing ← match dispatchKey with
      | some key => sessionOfKey ports key
      | none => pure none
    match existing with
    | some session => do
      match ← recoverForCancellation ports request session.sessionId with
      | some recovered => pure recovered
      | none => refuse .coordinator (.ofCode "remote_dispatch_unavailable")
    | none => executeScoped ports caller binding request dispatchKey

/-- The session names the operation: it observes it, or its handle is of it. -/
def SessionRecord.names (session : SessionRecord) (operationId : String) : Bool :=
  session.observedOperationId = some operationId || session.handle.any (·.operationId = operationId)

/-- The session that observes an operation goes on; its binding may be an older one once both are at their end. -/
def observeStored (caller : Nat) (binding : RemoteBinding) (authority : RemoteLocator) (blockRef : String) (observation : OperationObservation)
    (session : SessionRecord) (evidenceCursor : EvidenceCursor) : ExecutionProgram ExecutionResult :=
  match session.workspaceExecution with
  | none => refuse .coordinator resumeMismatch
  | some state => do
    let completedHistory := session.phase.terminal && (terminalForObservation observation).terminal
    demand (state.binding.locator = authority && state.binding.blockRef = blockRef &&
      (completedHistory || state.binding.bindingId = binding.bindingId) && session.blockRef = blockRef) .coordinator
      resumeMismatch
    resumeOrRecover ports caller (if completedHistory then state.binding else binding) session none (some evidenceCursor)

def observeNew (binding : RemoteBinding) (blockRef operationId : String) (observation : OperationObservation)
    (endpointId : String) (evidenceCursor : EvidenceCursor) : ExecutionProgram ExecutionResult := do
  let state ← checked .coordinator (remoteSessionState binding none none none (some operationId))
  let session ← createSession ports .observing (newSession blockRef state)
  let snapshot ← checked .query (snapshotFromObservation observation binding session.sessionId endpointId none true)
  acceptCheckpoint ports binding session snapshot (some evidenceCursor)

def observeExisting (caller : Nat) (authority : RemoteLocator) (blockRef operationId : String)
    (evidenceCursor : EvidenceCursor) : ExecutionProgram ExecutionResult := do
  let binding ← resolveBinding ports authority blockRef
  let (observation, endpointId) ← inspectExisting ports binding operationId
  withScopeLock ports caller blockRef do
    let sessions ← listSessions ports
    match sessions.filter (·.names operationId) with
    | [] => observeNew ports binding blockRef operationId observation endpointId evidenceCursor
    | [session] => observeStored ports caller binding authority blockRef observation session evidenceCursor
    | _ => refuse .coordinator resumeMismatch

structure Synchronized where
  session : SessionRecord
  handle : RemoteHandle
  binding : RemoteBinding
  views : List InteractionView

def statusIn (records : InteractionRecords) (view : InteractionView) : Except ExecutionError InteractionView :=
  match records.get? view.key with
  | some record => .ok { view with status := record.status }
  | none => .error resumeMismatch

def synchronizeInteractions (request : ExecutionRequest) (sessionId : Nat) : ExecutionProgram Synchronized := do
  let session ← getSession ports sessionId
  let binding ← sessionBinding request session
  match session.handle with
  | none => refuse .coordinator resumeMismatch
  | some handle => do
    mayFail ports .coordinator
    let page ← readInteractions ports binding handle
    mayFail ports .coordinator
    let now ← readClock
    let persisted ← persistRemoteInteractions ports session handle page now
    let shown ← checked .coordinator ((page.map (expireView now)).mapM (statusIn persisted.interactions))
    pure ⟨persisted, handle, binding, shown⟩

/-- The response has to fit the request it answers; `parseInteractionSettlementForRequest`. -/
def settlementForRequest (request : InteractionRequest) (response : InteractionResponse) : Except ExecutionError InteractionResponse :=
  if request.identity "" = response.identity "" then .ok response else .error resumeMismatch

def checkpointFailed : Failure → Failure
  | .unfinished => .unfinished
  | .refused _ _ => .refused .coordinator ⟨true, some "remote_interaction_checkpoint_failed",
      "Remote response accepted; synchronize this same interaction before retrying."⟩

def respond (request : ExecutionRequest) (sessionId : Nat) (response : InteractionResponse) :
    ExecutionProgram InteractionView := do
  let synchronized ← synchronizeInteractions ports request sessionId
  let handle := synchronized.handle
  let key := response.identity handle.operationId
  mayFail ports .coordinator
  match synchronized.session.interactions.get? key with
  | none => refuse .coordinator resumeMismatch
  | some record => do
    let pending := synchronized.views.find? fun view => view.key = key && view.status = .pending
    demand (record.status = .pending) .coordinator resumeMismatch
    demand (record.responseIntent.all (·.response = response)) .coordinator (.ofCode "remote_interaction_response_conflict")
    match (pending.map (·.request)).or (record.responseIntent.map (·.request)) with
    | none => refuse .coordinator resumeMismatch
    | some asked => do
      let settlement ← checked .coordinator (settlementForRequest asked response)
      demand (settlement.dispatchId = handle.dispatchId && handle.executionAttemptId = some settlement.executionAttemptId &&
        handle.leaseId.all (settlement.leaseId = ·)) .coordinator resumeMismatch
      let prepared ← persistRemoteResponseIntent ports synchronized.session handle key ⟨asked, settlement⟩
      mayFail ports .coordinator
      let view ← respondRemote ports synchronized.binding sessionId handle settlement
      let _ ← (persistRemoteInteraction ports prepared view).tryCatch fun reason => .throws (checkpointFailed reason)
      mayFail ports .coordinator
      pure view

end Coordinator

inductive ExecutionOperation where
  | execute (ports : CallPorts) (request : ExecutionRequest) (dispatchKey : Option String)
  | follow (ports : CallPorts) (request : ExecutionRequest) (sessionId : Nat)
  | recoverForCancellation (ports : CallPorts) (request : ExecutionRequest) (sessionId : Nat)
  | observeExisting (ports : CallPorts) (authority : RemoteLocator) (blockRef operationId : String)
      (evidenceCursor : EvidenceCursor)
  | synchronizeInteractions (ports : CallPorts) (request : ExecutionRequest) (sessionId : Nat)
  | respond (ports : CallPorts) (request : ExecutionRequest) (sessionId : Nat) (response : InteractionResponse)
  | report (operationId : String) (observation : OperationObservation) (views : List InteractionView)
  | tick (clock : Nat)

inductive ExecutionAnswer where
  | result (result : Option ExecutionResult)
  | synchronized (synchronized : Synchronized)
  | resolved (view : InteractionView)
  | done

def ExecutionOperation.body (caller : Nat) : ExecutionOperation → ExecutionProgram ExecutionAnswer
  | execute ports request dispatchKey => do
    let result ← WorkspaceExecution.execute ports caller request dispatchKey
    pure (.result (some result))
  | follow ports request sessionId => do
    let result ← followCall ports caller request sessionId
    pure (.result (some result))
  | recoverForCancellation ports request sessionId => do
    let result ← WorkspaceExecution.recoverForCancellation ports request sessionId
    pure (.result result)
  | observeExisting ports authority blockRef operationId evidenceCursor => do
    let result ← WorkspaceExecution.observeExisting ports caller authority blockRef operationId evidenceCursor
    pure (.result (some result))
  | synchronizeInteractions ports request sessionId => do
    let synchronized ← WorkspaceExecution.synchronizeInteractions ports request sessionId
    pure (.synchronized synchronized)
  | respond ports request sessionId response => do
    let view ← WorkspaceExecution.respond ports request sessionId response
    pure (.resolved view)
  | report operationId observation views => do
    Process.change (·.report operationId observation views)
    pure .done
  | tick clock => do
    Process.change fun store : ExecutionStore => { store with clock }
    pure .done

abbrev ExecutionRun : Type := SharedRun ExecutionOperation ExecutionStore Failure ExecutionAnswer

def ExecutionRun.after (events : List (SharedEvent ExecutionOperation)) (store : ExecutionStore) : ExecutionRun :=
  Runs.run (CustodyRun.step ExecutionOperation.body fun caller store => store.release caller) events (SharedRun.start store)

end PlanWeave.WorkspaceExecution
