import PlanWeave.WorkspaceExecution.Sessions

namespace PlanWeave.WorkspaceExecution

namespace SessionRecord

def handle (record : SessionRecord) : Option RemoteHandle := record.workspaceExecution.bind (·.handle)

def interactions (record : SessionRecord) : InteractionRecords := (record.workspaceExecution.map (·.interactions)).getD ∅

def dispatchIntent (record : SessionRecord) : Option DispatchIntent := record.workspaceExecution.bind (·.dispatchIntent)

def observedOperationId (record : SessionRecord) : Option String :=
  record.workspaceExecution.bind (·.observedOperationId)

def withState (record : SessionRecord) (state : SessionState) : SessionRecord :=
  { record with workspaceExecution := some state }

end SessionRecord

abbrev SessionPatch : Type := SessionRecord → SessionRecord

section Loops
variable (ports : CallPorts) (cause : WriteCause) (decide : SessionRecord → ExecutionProgram (Option SessionPatch))

/-- A loop that starts from a record that was read before and reads it again after a conflict; no patch ends it. -/
def persistFrom (current : SessionRecord) : Nat → ExecutionProgram SessionRecord
  | 0 => .throws .unfinished
  | rounds + 1 => do
    match ← decide current with
    | none => pure current
    | some patch =>
      match ← updateSession ports cause current.sessionId current.stateVersion patch with
      | some updated => pure updated
      | none => do
        let next ← getSession ports current.sessionId
        persistFrom next rounds

/-- A loop that reads the record in every round, and `rereads` it after a conflict. -/
def persistReading (rereads : Bool) (sessionId : Nat) : Nat → ExecutionProgram SessionRecord
  | 0 => .throws .unfinished
  | rounds + 1 => do
    let current ← getSession ports sessionId
    match ← decide current with
    | none => pure current
    | some patch =>
      match ← updateSession ports cause current.sessionId current.stateVersion patch with
      | some updated => pure updated
      | none =>
        if rereads then do
          let _ ← getSession ports sessionId
          persistReading rereads sessionId rounds
        else persistReading rereads sessionId rounds

end Loops

/-- The stored handle is newer than the observed one, or the observation says nothing new. -/
def observationSuperseded (stored : RemoteHandle) (snapshot : AdapterSnapshot) : Bool :=
  let sameRevision := decide (stored.operationRevision = snapshot.handle.operationRevision)
  snapshot.handle.operationRevision < stored.operationRevision ||
    sameRevision && snapshot.handle.attemptVersion < stored.attemptVersion ||
    sameRevision && stored.attemptVersion = snapshot.handle.attemptVersion && !snapshot.terminal.terminal

def observedRecord (state : SessionState) (snapshot : AdapterSnapshot) (now : Option Nat) (current : SessionRecord) :
    SessionRecord :=
  let terminal := snapshot.terminal
  { current with
    workspaceExecution := some
      (if terminal.terminal then { state with interactions := terminalInteractions state.interactions } else state)
    phase :=
      if terminal.terminal then terminalPhase terminal
      else if snapshot.observation.state = .interrupted then .blocked else .running
    finishedAt := if terminal.terminal then now else current.finishedAt
    error := match terminal with
      | .failed errorCode => some errorCode
      | _ => current.error }

section Persist
variable (ports : CallPorts)

def observationPatch (binding : RemoteBinding) (snapshot : AdapterSnapshot) (current : SessionRecord) :
    ExecutionProgram (Option SessionPatch) := do
  if current.phase.terminal || current.handle.any (observationSuperseded · snapshot) then pure none
  else
    demand (current.dispatchIntent.isSome || current.observedOperationId = some snapshot.handle.operationId) .coordinator
      resumeMismatch
    let state ← checked .coordinator (remoteSessionState binding current.dispatchIntent (some snapshot.handle)
      current.workspaceExecution current.observedOperationId)
    let now ← if snapshot.terminal.terminal then some <$> readClock else pure none
    pure (some (observedRecord state snapshot now))

def persistRemoteObservation (binding : RemoteBinding) (original : SessionRecord) (snapshot : AdapterSnapshot) :
    ExecutionProgram SessionRecord :=
  persistReading ports (.observation original snapshot) (observationPatch binding snapshot) true original.sessionId ports.rounds

/-- The stored handle has gone beyond the one that the evidence was collected for. -/
def evidenceSuperseded (stored handle : RemoteHandle) : Bool :=
  handle.operationRevision < stored.operationRevision || stored.executionAttemptId ≠ handle.executionAttemptId ||
    (stored.attemptStateVersion.any fun before => handle.attemptStateVersion.any (· < before)) ||
    handle.eventCursor < stored.eventCursor

def evidencePatch (handle : RemoteHandle) (views : List InteractionView) (current : SessionRecord) :
    ExecutionProgram (Option SessionPatch) :=
  match current.workspaceExecution with
  | none => pure none
  | some state =>
    match state.handle with
    | none => pure none
    | some stored => do
      if evidenceSuperseded stored handle then pure none
      else
        let next ← checked .evidence (parseState
          { state with
            handle := some handle
            interactions := interactionRecords state.interactions views
            evidence := ⟨.complete, state.evidence.diagnostics⟩ })
        pure (some (·.withState next))

def persistRemoteEvidence (original : SessionRecord) (handle : RemoteHandle) (views : List InteractionView) :
    ExecutionProgram SessionRecord :=
  persistFrom ports (.evidence handle views) (evidencePatch handle views) original ports.rounds

def lastHundred (diagnostics : List Diagnostic) : List Diagnostic := diagnostics.drop (diagnostics.length - 100)

def diagnosticPatch (error : ExecutionError) (current : SessionRecord) : ExecutionProgram (Option SessionPatch) :=
  match current.workspaceExecution with
  | none => pure none
  | some state => do
    let diagnostics := lastHundred (state.evidence.diagnostics ++ [diagnosticOf error])
    let next ← checked .diagnostics (parseState { state with evidence := ⟨.incomplete, diagnostics⟩ })
    pure (some (·.withState next))

def persistRemoteEvidenceDiagnostic (original : SessionRecord) (error : ExecutionError) : ExecutionProgram SessionRecord :=
  persistFrom ports (.diagnostic error) (diagnosticPatch error) original ports.rounds

def interactionPatch (view : InteractionView) (current : SessionRecord) : ExecutionProgram (Option SessionPatch) :=
  match current.workspaceExecution with
  | none => refuse .coordinator resumeMismatch
  | some state => do
    let next ← checked .coordinator (parseState
      { state with interactions := interactionRecords state.interactions [view] })
    pure (some (·.withState next))

def persistRemoteInteraction (original : SessionRecord) (view : InteractionView) : ExecutionProgram SessionRecord :=
  persistFrom ports (.interaction view) (interactionPatch view) original ports.rounds

def boundTo (stored handle : RemoteHandle) : Bool :=
  stored.authorityBindingId = handle.authorityBindingId && stored.sameExecution handle

def expireView (now : Nat) (view : InteractionView) : InteractionView :=
  if view.status = .pending && view.request.expiresAt ≤ now then { view with status := .expired } else view

def interactionsPatch (handle : RemoteHandle) (views : List InteractionView) (current : SessionRecord) :
    ExecutionProgram (Option SessionPatch) :=
  match current.workspaceExecution with
  | none => refuse .coordinator resumeMismatch
  | some state => do
    demand (state.handle.any (boundTo · handle)) .coordinator resumeMismatch
    let records := interactionRecords state.interactions views
    let next ← checked .coordinator (parseState
      { state with interactions := if current.phase.terminal then terminalInteractions records else records })
    pure (some (·.withState next))

def persistRemoteInteractions (original : SessionRecord) (handle : RemoteHandle) (page : List InteractionView) (now : Nat) :
    ExecutionProgram SessionRecord :=
  persistReading ports (.interactions handle page now) (interactionsPatch handle (page.map (expireView now))) false
    original.sessionId ports.rounds

def setResponseIntent (interactions : InteractionRecords) (key : InteractionIdentity) (intent : ResponseIntent) :
    InteractionRecords :=
  match interactions.get? key with
  | some record => interactions.set key { record with responseIntent := some intent }
  | none => interactions

def responseIntentPatch (handle : RemoteHandle) (key : InteractionIdentity) (intent : ResponseIntent)
    (current : SessionRecord) : ExecutionProgram (Option SessionPatch) := do
  mayFail ports .coordinator
  match current.workspaceExecution with
  | none => refuse .coordinator resumeMismatch
  | some state =>
    match state.interactions.get? key with
    | none => refuse .coordinator resumeMismatch
    | some record => do
      demand (record.status = .pending && !current.phase.terminal && state.handle.any (boundTo · handle) &&
        intent.request.identity handle.operationId = key) .coordinator resumeMismatch
      match record.responseIntent with
      | some stored => do
        demand (stored = intent) .coordinator (.ofCode "remote_interaction_response_conflict")
        pure none
      | none => do
        let now ← readClock
        demand (now < intent.request.expiresAt) .coordinator (.ofCode "remote_interaction_expired")
        let next ← checked .coordinator (parseState
          { state with interactions := setResponseIntent state.interactions key intent })
        pure (some (·.withState next))

def persistRemoteResponseIntent (original : SessionRecord) (handle : RemoteHandle) (key : InteractionIdentity)
    (intent : ResponseIntent) : ExecutionProgram SessionRecord :=
  persistReading ports (.responseIntent key intent) (responseIntentPatch ports handle key intent) false
    original.sessionId ports.rounds

end Persist
end PlanWeave.WorkspaceExecution
