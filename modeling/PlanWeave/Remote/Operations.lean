import PlanWeave.Remote.Schema

namespace PlanWeave

structure CreateRemoteOperationInput where
  ownership : BlockOwnership
  idempotencyKey : String
  sourceFingerprint : OpaqueId
  requiredCapabilities : List String
  hostSelection : Option HostSelection
  endpointSelection : Option EndpointSelection
  agentAccess : Option AuthorizedRemoteAgentUse

namespace RemoteDatabase

/-- `readEndpointSelectionSnapshot` refuses a selection for the canvas of another workspace. -/
def endpointSelectionReadable (workspaceId : OpaqueId) : Option EndpointSelection → Bool
  | some ⟨_, _, .workspaceCanvas selected⟩ => selected = workspaceId
  | _ => true

/-- `RemoteOperationRepository.getRequired`: an operation with its current attempt. -/
def getRequired (db : RemoteDatabase) (operationId : OpaqueId) : Except RemoteError (RemoteOperation × RemoteAttempt) :=
  match db.operations.find operationId with
  | none => .error .remoteOperationNotFound
  | some operation =>
    match db.attempts.find operation.executionAttemptId with
    | none => .error .remoteOperationRowInvalid
    | some attempt =>
      if attempt.operationId = operation.id ∧ attempt.dispatchId = operation.dispatchId ∧
          attempt.ownership = operation.ownership ∧
          endpointSelectionReadable operation.ownership.workspaceId operation.endpointSelection = true then
        .ok (operation, attempt)
      else .error .remoteOperationRowInvalid

def insertOperation (operation : RemoteOperation) (db : RemoteDatabase) : Except RemoteError RemoteDatabase :=
  if 0 < db.operations.count (fun other => other.dispatchId = operation.dispatchId ∨
      other.executionAttemptId = operation.executionAttemptId ∨
      (other.ownership = operation.ownership ∧ other.idempotencyKey = operation.idempotencyKey)) then
    .error .uniqueConstraintFailed
  else match db.operations.insert operation with
    | none => .error .uniqueConstraintFailed
    | some operations => .ok { db with operations }

/-- `INSERT INTO remote_execution_attempts`; a prepared attempt has no lease yet. -/
def insertAttempt (attempt : RemoteAttempt) (db : RemoteDatabase) : Except RemoteError RemoteDatabase :=
  if 0 < db.attempts.count (fun other => other.dispatchId = attempt.dispatchId) then .error .uniqueConstraintFailed
  else match db.attempts.insert attempt with
    | none => .error .uniqueConstraintFailed
    | some attempts => .ok { db with attempts }

def setOperationState (operationId : OpaqueId) (state : RemoteOperationState) (terminalAt : Option Timestamp)
    (db : RemoteDatabase) : RemoteDatabase :=
  { db with operations :=
      db.operations.update (fun row => row.id = operationId) (fun row => { row with state, terminalAt }) fun _ => rfl }

/-- The stored fields that a repeated request has to match. The request fingerprint is a digest of these fields. -/
def sameRequest (existing : RemoteOperation) (input : CreateRemoteOperationInput) : Prop :=
  existing.sourceFingerprint = input.sourceFingerprint ∧
    existing.requiredCapabilities = input.requiredCapabilities ∧
    existing.endpointSelection.map (·.endpointId) = input.endpointSelection.map (·.endpointId)

instance (existing : RemoteOperation) (input : CreateRemoteOperationInput) : Decidable (sameRequest existing input) :=
  inferInstanceAs (Decidable (_ ∧ _ ∧ _))

def create (input : CreateRemoteOperationInput) (operationId dispatchId executionAttemptId : OpaqueId)
    (db : RemoteDatabase) : Except RemoteError RemoteDatabase :=
  match db.operations.rows.find? fun row =>
      row.ownership = input.ownership ∧ row.idempotencyKey = input.idempotencyKey with
  | some existing => do
    discard (db.getRequired existing.id)
    if sameRequest existing input then .ok db else .error .remoteOperationIdempotencyConflict
  | none =>
    if 0 < db.operations.count (fun row => row.ownership = input.ownership ∧ row.state.terminal = false) then
      .error .remoteActiveAttemptConflict
    else do
      let db ← db.insertOperation
        { id := operationId, ownership := input.ownership, idempotencyKey := input.idempotencyKey,
          sourceFingerprint := input.sourceFingerprint, requiredCapabilities := input.requiredCapabilities,
          state := .preparing, dispatchId, executionAttemptId, hostSelection := input.hostSelection,
          endpointSelection := input.endpointSelection, agentAccess := input.agentAccess, terminalAt := none }
      let db ← db.insertAttempt
        { executionAttemptId, operationId, dispatchId, ownership := input.ownership, status := .prepared, lease := none,
          stateVersion := 0, terminalAt := none }
      discard (db.getRequired operationId)
      .ok db

def markClaimed (operationId : OpaqueId) (db : RemoteDatabase) : Except RemoteError RemoteDatabase := do
  let (operation, attempt) ← db.getRequired operationId
  if operation.state = .claimed then .ok db
  -- Only the event that tells of the claim is added here.
  else if operation.state = .reserved ∧ attempt.status = .reserved then .ok db
  else if operation.state ≠ .preparing then .error .remoteOperationNotPreparing
  else .ok (db.setOperationState operation.id .claimed operation.terminalAt)

def persistHostSelection (operationId : OpaqueId) (hostSelection : HostSelection) (db : RemoteDatabase) :
    Except RemoteError RemoteDatabase := do
  let (operation, _) ← db.getRequired operationId
  if operation.state.terminal then .error .remoteOperationNotActionable
  -- A stored selection is not overwritten, only `retryAttempt` replaces it.
  else if operation.hostSelection.isSome then .ok db
  else
    .ok { db with
      operations := db.operations.update
        (fun row => row.id = operation.id ∧ row.hostSelection = none ∧ row.state.terminal = false)
        (fun row => { row with hostSelection := some hostSelection }) (fun _ => rfl) }

def cancelClaimedAfterRuntimeReset (operationId executionAttemptId : OpaqueId) (now : Timestamp) (db : RemoteDatabase) :
    Except RemoteError RemoteDatabase := do
  let (operation, attempt) ← db.getRequired operationId
  if operation.state ≠ .claimed ∨ operation.executionAttemptId ≠ executionAttemptId ∨ attempt.status ≠ .prepared ∨
      attempt.lease.isSome ∨ attempt.stateVersion ≠ 0 ∨ attempt.terminalAt.isSome then
    .error .remoteRuntimeResetRecoveryConflict
  else
    match db.attempts.updateOne
        (fun row => row.executionAttemptId = executionAttemptId ∧ row.operationId = operationId ∧
          row.status = .prepared ∧ row.lease = none ∧ row.stateVersion = 0 ∧ row.terminalAt = none)
        (fun row => { row with status := .cancelled, stateVersion := row.stateVersion + 1, terminalAt := some now })
        (fun _ => rfl),
      db.operations.updateOne
        (fun row => row.id = operationId ∧ row.state = .claimed ∧ row.executionAttemptId = executionAttemptId ∧
          row.terminalAt = none)
        (fun row => { row with state := .cancelled, terminalAt := some now }) (fun _ => rfl) with
    | some attempts, some operations => .ok { db with attempts, operations }
    | _, _ => .error .remoteRuntimeResetRecoveryConflict

structure RetryAttemptInput where
  operationId : OpaqueId
  priorExecutionAttemptId : OpaqueId
  newDispatchId : OpaqueId
  newExecutionAttemptId : OpaqueId
  expectedAttemptVersion : Nat
  hostSelection : Option HostSelection
  agentAccess : Option AuthorizedRemoteAgentUse

/-- `isRetryApplied` and the replay branch of `retryAttempt` read the prior attempt so. -/
def priorSuperseded (input : RetryAttemptInput) (operation : RemoteOperation) (db : RemoteDatabase) : Bool :=
  (db.attempts.find input.priorExecutionAttemptId).any fun prior =>
    prior.operationId = operation.id ∧ prior.status = .superseded ∧
      prior.stateVersion = input.expectedAttemptVersion + 1

def supersedeAttempt (input : RetryAttemptInput) (operation : RemoteOperation) (now : Timestamp) (db : RemoteDatabase) :
    Except RemoteError RemoteDatabase :=
  match db.attempts.updateOne
      (fun row => row.executionAttemptId = input.priorExecutionAttemptId ∧ row.operationId = operation.id ∧
        row.stateVersion = input.expectedAttemptVersion ∧ (row.status = .interrupted ∨ row.status = .actionRequired))
      (fun row => { row with status := .superseded, stateVersion := row.stateVersion + 1, terminalAt := some now })
      (fun _ => rfl) with
  | none => .error .remoteRetryAttemptVersionConflict
  | some attempts => do
    let db ← { db with attempts }.insertAttempt
      { executionAttemptId := input.newExecutionAttemptId, operationId := operation.id,
        dispatchId := input.newDispatchId, ownership := operation.ownership, status := .prepared, lease := none,
        stateVersion := 0, terminalAt := none }
    if 0 < db.operations.count (fun other => other.id ≠ operation.id ∧
        (other.dispatchId = input.newDispatchId ∨ other.executionAttemptId = input.newExecutionAttemptId)) then
      .error .uniqueConstraintFailed
    else
      .ok { db with
        operations := db.operations.update (fun row => row.id = operation.id)
          (fun row => { row with
            state := .claimed
            dispatchId := input.newDispatchId
            executionAttemptId := input.newExecutionAttemptId
            hostSelection := input.hostSelection.or row.hostSelection
            agentAccess := input.agentAccess.or row.agentAccess })
          (fun _ => rfl) }

def retryAttempt (input : RetryAttemptInput) (now : Timestamp) (db : RemoteDatabase) :
    Except RemoteError RemoteDatabase := do
  if input.priorExecutionAttemptId = input.newExecutionAttemptId then .error .remoteRetryAttemptIdentityReused
  else
    let (operation, attempt) ← db.getRequired input.operationId
    if operation.dispatchId = input.newDispatchId ∧ operation.executionAttemptId = input.newExecutionAttemptId ∧
        attempt.status = .prepared then
      if db.priorSuperseded input operation then .ok db else .error .remoteRetryAttemptVersionConflict
    else if operation.executionAttemptId ≠ input.priorExecutionAttemptId ∨
        attempt.stateVersion ≠ input.expectedAttemptVersion then .error .remoteRetryAttemptVersionConflict
    else if attempt.status ≠ .interrupted ∧ attempt.status ≠ .actionRequired then
      .error .remoteRetryAttemptNotInterrupted
    else match attempt.lease with
      | none => .error .remoteRetryAttemptLeaseMissing
      | some lease =>
        if (db.reservations.find lease.leaseId).all (fun reservation => reservation.status = .active) then
          .error .remoteRetryAttemptNotFenced
        else if (db.attempts.find input.newExecutionAttemptId).isSome then .error .remoteRetryAttemptIdentityConflict
        else db.supersedeAttempt input operation now

def isRetryApplied (input : RetryAttemptInput) (db : RemoteDatabase) : Except RemoteError Bool := do
  let (operation, _) ← db.getRequired input.operationId
  if operation.dispatchId ≠ input.newDispatchId ∨ operation.executionAttemptId ≠ input.newExecutionAttemptId then
    .ok false
  else .ok (db.priorSuperseded input operation)

def markActionRequired (operationId executionAttemptId : OpaqueId) (expectedAttemptVersion : Nat)
    (db : RemoteDatabase) : Except RemoteError RemoteDatabase := do
  let (operation, attempt) ← db.getRequired operationId
  if operation.executionAttemptId ≠ executionAttemptId ∨ attempt.status ≠ .interrupted ∨
      attempt.stateVersion ≠ expectedAttemptVersion then .error .remoteActionRequiredAttemptConflict
  else if (attempt.lease.bind fun lease => db.reservations.find lease.leaseId).all
      (fun reservation => reservation.status = .active) then
    .error .remoteActionRequiredAttemptNotFenced
  else
    match db.attempts.updateOne
      (fun row => row.executionAttemptId = operation.executionAttemptId ∧ row.status = .interrupted ∧
        row.stateVersion = expectedAttemptVersion)
      (fun row => { row with status := .actionRequired, stateVersion := row.stateVersion + 1 }) (fun _ => rfl) with
    | none => .error .remoteActionRequiredAttemptConflict
    | some attempts => .ok ({ db with attempts }.setOperationState operation.id .actionRequired operation.terminalAt)

end RemoteDatabase
end PlanWeave
