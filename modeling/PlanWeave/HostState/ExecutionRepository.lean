import PlanWeave.HostState.Executions

namespace PlanWeave

namespace AgentHostState
variable (limits : AgentHostLimits)

def setRow (state : AgentHostState) (row : ExecutionRow) : AgentHostState :=
  { state with executions := state.executions.put row }

def require (state : AgentHostState) (sequence : Nat) : Except HostStateError ExecutionRow :=
  match state.executions.find sequence with
  | some row => .ok row
  | none => .error .executionNotFound

def findByIdentity (state : AgentHostState) (identity : LeaseIdentity) : Option ExecutionRow :=
  state.executions.rows.find? fun row => row.identity = identity

def findByAttempt (state : AgentHostState) (attempt : OpaqueId × OpaqueId) : Option ExecutionRow :=
  state.executions.rows.find? fun row => row.attempt = attempt

def list (state : AgentHostState) (statuses : AgentHostExecutionStatus → Bool) : List ExecutionRow :=
  (state.executions.rows.filter fun row => statuses row.status).insertionSort fun left right =>
    left.sequence ≤ right.sequence

/-- A new execution, or nothing when the command is known. The columns that `insert` compares are copies of the command,
its lease apart. -/
def insert (state : AgentHostState) (sequence : Nat) (command : ExecuteBlockCommand) :
    Except HostStateError (AgentHostState × Bool) :=
  match state.findByAttempt command.identity.attempt with
  | some existing =>
    if existing.command ≠ command ∨ existing.leaseId ≠ command.identity.leaseId then .error .executionIdentityConflict
    else .ok (state, false)
  | none =>
    .ok (state.setRow {
      sequence := sequence
      command := command
      leaseId := command.identity.leaseId
      leaseExpiresAt := command.leaseExpiresAt
      status := .accepted
      acpSessionId := none
      capabilitySnapshot := none
      recoveryId := none
      eventProtocolVersion := none
      eventCursor := 0
      actionCursor := 0
      cancellationIntent := none
      recoveryIntent := none
      terminal := none
      terminalAcknowledgedAt := none }, true)

def transition (state : AgentHostState) (sequence : Nat) (next : AgentHostExecutionStatus) :
    Except HostStateError AgentHostState := do
  let current ← state.require sequence
  if current.status = next then return state
  else if next ∈ current.status.transitions then return state.setRow { current with status := next }
  else .error (.executionTransitionInvalid current.status next)

def recordSession (state : AgentHostState) (sequence : Nat) (sessionId : String) (snapshot : AcpCapabilitySnapshot)
    (recoveryId : String) : Except HostStateError AgentHostState := do
  if sessionId.length = 0 ∨ 1024 < sessionId.length then .error .schemaRejected
  else if limits.maxCapabilitiesBytes < limits.capabilitiesBytes snapshot then .error .executionCapabilitiesTooLarge
  else
    let current ← state.require sequence
    let known := current.acpSessionId.isSome
    if known ∧ ¬ (current.acpSessionId = some sessionId ∧
        current.capabilitySnapshot.any (·.sameCapabilities snapshot) ∧ current.recoveryId = some recoveryId) then
      .error .executionSessionIdentityConflict
    else if known ∧ current.capabilitySnapshot = some snapshot then return state
    else if current.status = .preparing ∨ current.status = .running ∨ current.status = .interactionWait then
      return state.setRow { current with
        acpSessionId := some sessionId, capabilitySnapshot := some snapshot, recoveryId := some recoveryId }
    else .error .executionSessionStateInvalid

def advanceEventCursor (state : AgentHostState) (sequence afterCursor cursor : Nat) :
    Except HostStateError AgentHostState :=
  match state.executions.find sequence with
  | none => .error .executionEventCursorConflict
  | some current =>
    if current.eventCursor = afterCursor then .ok (state.setRow { current with eventCursor := cursor })
    else .error .executionEventCursorConflict

def pinEventProtocolVersion (state : AgentHostState) (sequence version : Nat) :
    Except HostStateError (AgentHostState × Nat) := do
  let current ← state.require sequence
  match current.eventProtocolVersion with
  | some pinned => return (state, pinned)
  | none => return (state.setRow { current with eventProtocolVersion := some version }, version)

def recordAction (state : AgentHostState) (sequence : Nat) (leaseId : OpaqueId) (sessionId actionId : String)
    (kind : InteractionActionKind) (deadline : Timestamp) (request : InteractionRequest) :
    Except HostStateError (AgentHostState × Bool) := do
  if actionId.length = 0 ∨ 128 < actionId.length then .error .schemaRejected
  else
    let current ← state.require sequence
    if current.leaseId ≠ leaseId then .error .executionActionStaleLease
    else if current.acpSessionId ≠ some sessionId then .error .executionActionStaleSession
    else
      match state.actions.find (sequence, sessionId, actionId) with
      | some existing =>
        if existing.leaseId ≠ leaseId ∨ existing.kind ≠ kind ∨ existing.deadline ≠ deadline ∨
            existing.request ≠ request then
          .error .executionActionIdentityConflict
        else return (state, false)
      | none =>
        if limits.maxActionsPerExecution ≤ state.actions.count (fun row => row.executionSequence = sequence) then
          .error .executionActionRetentionLimitExceeded
        else
          let action : ActionRow := ⟨sequence, leaseId, sessionId, actionId, kind, deadline, request, none⟩
          let state := { state with actions := state.actions.put action }
          return (state.setRow { current with actionCursor := current.actionCursor + 1 }, true)

def settleAction (state : AgentHostState) (sequence : Nat) (settlement : InteractionSettlement) (settledAt : Timestamp)
    (allowExpired : Bool) : Except HostStateError (AgentHostState × Bool) := do
  let current ← state.require sequence
  if current.leaseId ≠ settlement.identity.leaseId then .error .executionActionStaleLease
  else if current.acpSessionId ≠ some settlement.acpSessionId.text then .error .executionActionStaleSession
  else
    match state.actions.find (sequence, settlement.acpSessionId.text, settlement.actionId.text) with
    | none => .error .executionActionNotFound
    | some action =>
      if action.kind ≠ settlement.response.kind then .error .executionActionResponseTypeMismatch
      else
        match action.response with
        | some response =>
          if response ≠ settlement then .error .executionActionResponseConflict else return (state, false)
        | none =>
          if action.deadline < settledAt ∧ ¬ settlement.response.safeLate ∧ ¬ allowExpired then
            .error .executionActionExpired
          else
            return ({ state with actions := state.actions.put { action with response := some settlement } }, true)

def setCancellationIntent (state : AgentHostState) (sequence : Nat) (intent : CancellationIntent) :
    Except HostStateError AgentHostState := do
  let current ← state.require sequence
  match current.cancellationIntent with
  | some existing => if existing ≠ intent then .error .executionCancellationIntentConflict else return state
  | none => return state.setRow { current with cancellationIntent := some intent }

def replaceRecoveryIntent (state : AgentHostState) (sequence : Nat) (intent : RecoveryIntent) :
    Except HostStateError AgentHostState := do
  let current ← state.require sequence
  return state.setRow { current with recoveryIntent := some intent }

def finish (state : AgentHostState) (sequence : Nat) (kind : TerminalKind) (payload : DispatchOutcome)
    (eventMessageId : String) : Except HostStateError AgentHostState := do
  let current ← state.require sequence
  if current.status.terminal then
    if current.status ≠ kind.status ∨ ¬ current.terminal.any fun terminal =>
        terminal.payload = payload ∧ terminal.eventMessageId = eventMessageId then
      .error .executionTerminalIdentityConflict
    else return state
  else
    let state ← state.transition sequence kind.status
    let current ← state.require sequence
    return state.setRow { current with terminal := some ⟨kind, payload, eventMessageId⟩ }

def setLeaseExpiry (state : AgentHostState) (sequence : Nat) (leaseExpiresAt : Timestamp) : AgentHostState :=
  match state.executions.find sequence with
  | none => state
  | some current => state.setRow { current with leaseExpiresAt := leaseExpiresAt }

def recovers (row : ExecutionRow) (priorRecovery : AcpRecoveryIdentity) : Prop :=
  row.acpSessionId = some priorRecovery.acpSessionId ∧ row.recoveryId = some priorRecovery.recoveryId

instance (row : ExecutionRow) (priorRecovery : AcpRecoveryIdentity) : Decidable (recovers row priorRecovery) :=
  inferInstanceAs (Decidable (_ ∧ _))

def advertisesSessionLoad (row : ExecutionRow) : Bool :=
  row.capabilitySnapshot.any fun snapshot => snapshot.negotiated.contains "history-load"

/-- The branch of `authorizeResume` that replaces the lease. -/
def replaceLease (state : AgentHostState) (current : ExecutionRow) (leaseId : OpaqueId) (leaseExpiresAt : Timestamp)
    (priorRecovery : AcpRecoveryIdentity) : Except HostStateError AgentHostState :=
  if current.status ≠ .interrupted then .error .executionResumeStateInvalid
  else if ¬ recovers current priorRecovery then .error .executionResumeRecoveryIdentityMismatch
  else if ¬ advertisesSessionLoad current then .error .executionResumeSessionLoadUnsupported
  else if current.leaseId = leaseId then .error .executionResumeFreshLeaseRequired
  else .ok (state.setRow { current with
    leaseId := leaseId
    leaseExpiresAt := leaseExpiresAt
    recoveryIntent := some (.resumeSameSession leaseId leaseExpiresAt current.leaseId priorRecovery)
    status := .preparing })

def authorizeResume (state : AgentHostState) (sequence : Nat) (leaseId : OpaqueId) (leaseExpiresAt : Timestamp)
    (priorRecovery : AcpRecoveryIdentity) : Except HostStateError AgentHostState := do
  let current ← state.require sequence
  match current.recoveryIntent with
  | some (.sessionLoadFailed ..) => .error .executionResumeNonResumable
  | some (.resumeSameSession resumed resumedUntil _ _) =>
    if resumed = leaseId then
      if resumedUntil = leaseExpiresAt ∧ recovers current priorRecovery then return state
      else .error .executionResumeConflict
    else state.replaceLease current leaseId leaseExpiresAt priorRecovery
  | _ => state.replaceLease current leaseId leaseExpiresAt priorRecovery

def markResumeFailed (state : AgentHostState) (sequence : Nat) : Except HostStateError AgentHostState := do
  let current ← state.require sequence
  if current.status = .interrupted then
    match current.recoveryIntent with
    | some (.sessionLoadFailed ..) => return state
    | _ => .error .executionResumeFailureStateInvalid
  else
    match current.recoveryIntent with
    | some (.resumeSameSession leaseId _ _ priorRecovery) =>
      if current.status ≠ .preparing ∧ current.status ≠ .running then .error .executionResumeFailureStateInvalid
      else if current.leaseId ≠ leaseId then .error .executionResumeFailureRaced
      else
        return state.setRow { current with
          status := .interrupted, recoveryIntent := some (.sessionLoadFailed leaseId priorRecovery) }
    | _ => .error .schemaRejected

end AgentHostState
end PlanWeave
