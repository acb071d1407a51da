import PlanWeave.Remote.LeaseRuns
import PlanWeave.Lib.Runs

namespace PlanWeave

inductive TerminalAction where
  | complete (reportArtifactRef : OpaqueId)
  | fail (failure : DispatchFailure)

namespace Dispatch

/-- `terminalAction` of a dispatch in `awaiting_writeback`; `none` is `remote_dispatch_writeback_payload_invalid`. -/
def terminalAction (dispatch : Dispatch) : Option TerminalAction :=
  match dispatch.result, dispatch.failure with
  | some result, none => some (.complete result.reportArtifactRef)
  | none, some failure => some (.fail failure)
  | _, _ => none

end Dispatch

namespace RemoteDatabase

/-- `SqliteRemoteDispatchPersistence.inspect`: the dispatch of an operation. The execute command has to name the Host of
the attempt. -/
def inspect (operation : RemoteOperation) (attempt : RemoteAttempt) (db : RemoteDatabase) :
    Except RemoteError (Option Dispatch) :=
  let mailbox := db.mailbox.find (.execute operation.dispatchId)
  if mailbox.all (fun command => command.kind = .executeBlock ∧ command.dispatchId = operation.dispatchId ∧
      command.executionAttemptId = operation.executionAttemptId ∧ some command.hostId = attempt.lease.map (·.hostId)) then
    match db.dispatches.find operation.dispatchId with
    | none => if mailbox.isSome then .error .remoteDispatchPersistenceOrphaned else .ok none
    | some dispatch =>
      if dispatch.status = .awaitingWriteback ∧ dispatch.terminalAction = none then
        .error .remoteDispatchWritebackPayloadInvalid
      else .ok (some dispatch)
  else .error .remoteMailboxIdentityConflict

def enqueueCancel (operation : RemoteOperation) (attempt : RemoteAttempt) (actionId : OpaqueId) (reason : String)
    (db : RemoteDatabase) : Except RemoteError RemoteDatabase :=
  match attempt.lease with
  | none => .error .remoteAttemptNotBound
  | some lease =>
    let command : RemoteCommand :=
      { messageId := .action actionId, hostId := lease.hostId, dispatchId := operation.dispatchId,
        leaseId := lease.leaseId, executionAttemptId := operation.executionAttemptId, kind := .cancelExecution reason }
    match db.dispatches.updateOne
        (fun row => row.id = operation.dispatchId ∧ row.leaseId = lease.leaseId ∧
          row.executionAttemptId = operation.executionAttemptId ∧ (row.status = .leased ∨ row.status = .running))
        (fun row => { row with status := .cancelling }) (fun _ => rfl) with
    | some dispatches => { db with dispatches }.enqueueOnce command
    | none =>
      if (db.dispatches.find operation.dispatchId).any (fun row => row.status = .cancelling) then db.enqueueOnce command
      else .error .remoteCancelDispatchConflict

structure ResumeCommand where
  actionId : OpaqueId
  leaseId : OpaqueId
  leaseExpiresAt : Timestamp
  recovery : AcpRecoveryIdentity

def enqueueResume (operation : RemoteOperation) (attempt : RemoteAttempt) (action : ResumeCommand) (db : RemoteDatabase) :
    Except RemoteError RemoteDatabase :=
  match attempt.lease with
  | none => .error .remoteResumeAttemptNotBound
  | some lease =>
    let command : RemoteCommand :=
      { messageId := .action action.actionId, hostId := lease.hostId, dispatchId := operation.dispatchId,
        leaseId := action.leaseId, executionAttemptId := operation.executionAttemptId,
        kind := .resumeExecution action.recovery action.leaseExpiresAt }
    if lease.leaseId ≠ action.leaseId then .error .remoteResumeAttemptNotBound
    else
      match db.dispatches.updateOne
          (fun row => row.id = operation.dispatchId ∧ row.executionAttemptId = operation.executionAttemptId ∧
            row.status = .interrupted)
          (fun row => { row with
            status := .leased, leaseId := action.leaseId, leaseExpiresAt := action.leaseExpiresAt, interruption := none })
          (fun _ => rfl) with
      | some dispatches =>
        -- `lease_id` is unique.
        if 0 < db.dispatches.count (fun row => row.id ≠ operation.dispatchId ∧ row.leaseId = action.leaseId) then
          .error .uniqueConstraintFailed
        else { db with dispatches }.enqueueOnce command
      | none =>
        if (db.dispatches.find operation.dispatchId).any (fun row =>
            row.executionAttemptId = operation.executionAttemptId ∧ row.status = .leased ∧ row.leaseId = action.leaseId) then
          db.enqueueOnce command
        else .error .remoteResumeDispatchConflict

def prepareManualFailure (operation : RemoteOperation) (failure : DispatchFailure) (db : RemoteDatabase) :
    Except RemoteError RemoteDatabase :=
  match db.dispatches.updateOne
      (fun row => row.id = operation.dispatchId ∧ row.status = .interrupted ∧
        row.executionAttemptId = operation.executionAttemptId)
      (fun row => { row with status := .awaitingWriteback, failure := some failure, result := none }) (fun _ => rfl) with
  | none => .error .remoteManualFailureDispatchConflict
  | some dispatches => .ok { db with dispatches }

def runtimeResetFailure : DispatchFailure :=
  ⟨executionCancelled, "Runtime reset abandoned the interrupted remote execution.", false⟩

/-- `actionActive` tells whether an action of the attempt is `recorded`, `delivered` or `acknowledged`. -/
def cancelInterruptedAfterRuntimeReset (operationId executionAttemptId : OpaqueId) (actionActive : Bool)
    (db : RemoteDatabase) : Except RemoteError RemoteDatabase := do
  let (current, attempt) ← db.getRequired operationId
  match attempt.lease with
  | none => .error .remoteRuntimeResetDispatchConflict
  | some lease =>
    if current.state ≠ .interrupted ∨ attempt.status ≠ .interrupted ∨
        current.executionAttemptId ≠ executionAttemptId then .error .remoteRuntimeResetDispatchConflict
    else if (db.reservations.find lease.leaseId).all (fun reservation =>
        reservation.executionAttemptId ≠ current.executionAttemptId ∨ reservation.status = .active) then
      .error .remoteRuntimeResetDispatchNotFenced
    else if actionActive then .error .remoteRuntimeResetActionActive
    else
      match db.dispatches.find current.dispatchId with
      | none => .error .remoteRuntimeResetDispatchConflict
      | some dispatch =>
        if dispatch.leaseId ≠ lease.leaseId ∨ dispatch.executionAttemptId ≠ current.executionAttemptId then
          .error .remoteRuntimeResetDispatchConflict
        else if dispatch.status = .cancelled then .ok db
        else if dispatch.status ≠ .interrupted then .error .remoteRuntimeResetDispatchNotInterrupted
        else
          match db.dispatches.updateOne
              (fun row => row.id = current.dispatchId ∧ row.status = .interrupted ∧ row.leaseId = lease.leaseId ∧
                row.executionAttemptId = current.executionAttemptId)
              (fun row => { row with status := .cancelled, failure := some runtimeResetFailure, result := none })
              (fun _ => rfl) with
          | none => .error .remoteRuntimeResetDispatchConflict
          | some dispatches => .ok { db with dispatches }

def finishTerminal (operation : RemoteOperation) (attempt : RemoteAttempt) (status : TerminalStatus)
    (db : RemoteDatabase) : Except RemoteError RemoteDatabase :=
  match attempt.lease with
  | none => .error .remoteDispatchNotAwaitingWriteback
  | some lease =>
    db.finishDispatchTerminal
      { id := operation.dispatchId, workspaceId := operation.ownership.workspaceId,
        projectId := operation.ownership.projectId, blockRef := operation.ownership.blockRef, hostId := lease.hostId,
        leaseId := lease.leaseId, executionAttemptId := operation.executionAttemptId } status

/-- `finalizeOperationTerminal`; `snapshot` is the attempt of the operation that the caller has read. -/
def finalizeOperationTerminal (snapshot : RemoteAttempt) (status : TerminalStatus) (now : Timestamp)
    (db : RemoteDatabase) : Except RemoteError RemoteDatabase :=
  match snapshot.lease with
  | none => .error .remoteTerminalAttemptNotBound
  | some lease => do
    let reservation ← db.getReservation lease.leaseId
    if reservation.status = .active then
      db.release reservation.leaseId reservation.fencingToken reservation.version status.reason now
    else
      let (current, _) ← db.getRequired snapshot.operationId
      db.finalizeFencedAttempt current.id current.executionAttemptId reservation.leaseId status now

/-- `forceFailedTerminal`: what its transactions have committed when it returns or throws. -/
def forceFailedTerminal (operationId : OpaqueId) (now : Timestamp) (db : RemoteDatabase) : RemoteDatabase :=
  match db.getRequired operationId with
  | .error _ => db
  | .ok (current, attempt) =>
    if current.state.terminal then db
    else
      match db.inspect current attempt with
      | .error _ => db
      | .ok persisted =>
        let finished :=
          if persisted.any (fun dispatch => dispatch.status = .awaitingWriteback) then db.finishTerminal current attempt .failed
          else .ok db
        match finished with
        | .error _ => db
        | .ok finished =>
          if attempt.lease.isSome then finished.commit (finished.finalizeOperationTerminal attempt .failed now)
          else if current.state = .claimed ∧ attempt.status = .prepared ∧ persisted.isNone then
            finished.commit (finished.cancelClaimedAfterRuntimeReset current.id current.executionAttemptId now)
          else finished

/-- `apply` and `recover` of a cancel action end so; so does the expiry of a permission. -/
def cancelDispatch (operationId actionId : OpaqueId) (reason : String) (db : RemoteDatabase) :
    Except RemoteError RemoteDatabase := do
  let (operation, attempt) ← db.getRequired operationId
  db.enqueueCancel operation attempt actionId reason

def resumeDispatch (operationId : OpaqueId) (action : ResumeCommand) (db : RemoteDatabase) :
    Except RemoteError RemoteDatabase := do
  let (operation, attempt) ← db.getRequired operationId
  db.enqueueResume operation attempt action

/-- `apply` of a resume action, after the runtime has resumed the attempt. A crash between the two transactions is a
`resumeSameAttempt` of its own. -/
def applyResume (options : HostReservationOptions) (operationId priorLeaseId : OpaqueId) (expectedAttemptVersion : Nat)
    (action : ResumeCommand) (now : Timestamp) (db : RemoteDatabase) : RemoteDatabase :=
  match db.resumeSameAttempt options
      ⟨priorLeaseId, action.leaseId, action.leaseExpiresAt, expectedAttemptVersion⟩ now with
  | .error _ => db
  | .ok (leased, _) => leased.commit (leased.resumeDispatch operationId action)

def recoverResume (operationId executionAttemptId priorLeaseId : OpaqueId) (action : ResumeCommand) (db : RemoteDatabase) :
    RemoteDatabase :=
  match db.isResumeApplied priorLeaseId action.leaseId executionAttemptId action.leaseExpiresAt with
  | .ok true => db.commit (db.resumeDispatch operationId action)
  | _ => db

/-- `apply` of a fail action up to its writeback. -/
def failDispatch (operationId : OpaqueId) (failure : DispatchFailure) (db : RemoteDatabase) :
    Except RemoteError RemoteDatabase := do
  let (operation, _) ← db.getRequired operationId
  db.prepareManualFailure operation failure

def finishDispatch (operationId : OpaqueId) (status : TerminalStatus) (db : RemoteDatabase) :
    Except RemoteError RemoteDatabase := do
  let (operation, attempt) ← db.getRequired operationId
  db.finishTerminal operation attempt status

end RemoteDatabase

inductive RemoteStep where
  | ledger (call : LeaseCall)
  | renewLeaseForActivity (hostId : OpaqueId) (lease : LeaseIdentity) (now : Timestamp)
  | cancelDispatch (operationId actionId : OpaqueId) (reason : String)
  | applyResume (operationId priorLeaseId : OpaqueId) (expectedAttemptVersion : Nat)
      (action : RemoteDatabase.ResumeCommand) (now : Timestamp)
  | recoverResume (operationId executionAttemptId priorLeaseId : OpaqueId) (action : RemoteDatabase.ResumeCommand)
  | failDispatch (operationId : OpaqueId) (failure : DispatchFailure)
  | cancelInterruptedAfterRuntimeReset (operationId executionAttemptId : OpaqueId) (actionActive : Bool)
  | finishDispatch (operationId : OpaqueId) (status : TerminalStatus)
  | finalizeOperationTerminal (snapshot : RemoteAttempt) (status : TerminalStatus) (now : Timestamp)
  | forceFailedTerminal (operationId : OpaqueId) (now : Timestamp)

def LeaseCall.time : LeaseCall → Option Timestamp
  | reserve _ _ _ now | release _ _ _ _ now | expireDue now | resumeSameAttempt _ now | retryAttempt _ now
  | finalizeFencedAttempt _ _ _ _ now | cancelClaimedAfterRuntimeReset _ _ now | heartbeat _ _ now | accept _ _ now
  | interrupt _ _ _ now | complete _ _ _ now | fail _ _ _ _ now | recoverExpiredLeases now => some now
  | _ => none

namespace RemoteStep

def perform (options : HostReservationOptions) (db : RemoteDatabase) : RemoteStep → RemoteDatabase
  | ledger call => call.perform options db
  | renewLeaseForActivity hostId lease now => db.commit (db.renewCurrentLease options hostId lease now)
  | cancelDispatch operationId actionId reason => db.commit (db.cancelDispatch operationId actionId reason)
  | applyResume operationId priorLeaseId expectedAttemptVersion action now =>
    db.applyResume options operationId priorLeaseId expectedAttemptVersion action now
  | recoverResume operationId executionAttemptId priorLeaseId action =>
    db.recoverResume operationId executionAttemptId priorLeaseId action
  | failDispatch operationId failure => db.commit (db.failDispatch operationId failure)
  | cancelInterruptedAfterRuntimeReset operationId executionAttemptId actionActive =>
    db.commit (db.cancelInterruptedAfterRuntimeReset operationId executionAttemptId actionActive)
  | finishDispatch operationId status => db.commit (db.finishDispatch operationId status)
  | finalizeOperationTerminal snapshot status now => db.commit (db.finalizeOperationTerminal snapshot status now)
  | forceFailedTerminal operationId now => db.forceFailedTerminal operationId now

def time : RemoteStep → Option Timestamp
  | ledger call => call.time
  | renewLeaseForActivity _ _ now | applyResume _ _ _ _ now | finalizeOperationTerminal _ _ now | forceFailedTerminal _ now => some now
  | _ => none

end RemoteStep
end PlanWeave
