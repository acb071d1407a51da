import PlanWeave.Remote.Reservations

namespace PlanWeave

namespace DispatchStatus

def live : DispatchStatus → Bool
  | leased | running | cancelling => true
  | _ => false

end DispatchStatus

namespace RemoteAttemptStatus

def renewable : RemoteAttemptStatus → Bool
  | reserved | activated | running | actionRequired | awaitingWriteback => true
  | _ => false

end RemoteAttemptStatus

structure LeaseIdentity where
  dispatchId : OpaqueId
  leaseId : OpaqueId
  executionAttemptId : OpaqueId
deriving DecidableEq

structure DispatchTerminalIdentity where
  id : OpaqueId
  workspaceId : OpaqueId
  projectId : OpaqueId
  blockRef : String
  hostId : OpaqueId
  leaseId : OpaqueId
  executionAttemptId : OpaqueId
deriving DecidableEq

namespace Dispatch

def terminalIdentity (dispatch : Dispatch) : DispatchTerminalIdentity :=
  ⟨dispatch.id, dispatch.workspaceId, dispatch.projectId, dispatch.blockRef, dispatch.hostId, dispatch.leaseId,
    dispatch.executionAttemptId⟩

def heldBy (dispatch : Dispatch) (hostId : OpaqueId) (lease : LeaseIdentity) : Prop :=
  dispatch.hostId = hostId ∧ dispatch.leaseId = lease.leaseId ∧ dispatch.executionAttemptId = lease.executionAttemptId

instance (dispatch : Dispatch) (hostId : OpaqueId) (lease : LeaseIdentity) :
    Decidable (dispatch.heldBy hostId lease) :=
  inferInstanceAs (Decidable (_ ∧ _ ∧ _))

/-- Whether a Host may still report terminal complete/fail for this dispatch. -/
def canAcceptTerminalHostResult (dispatch : Dispatch) : Bool :=
  dispatch.status = .running || dispatch.status = .cancelling ||
    (dispatch.status = .interrupted && dispatch.interruption.any (·.reason = .leaseLost))

end Dispatch

namespace RemoteDatabase

def enqueueOnce (command : RemoteCommand) (db : RemoteDatabase) : Except RemoteError RemoteDatabase :=
  match db.mailbox.find command.messageId with
  | some existing => if existing = command then .ok db else .error .mailboxIdentityConflict
  | none =>
    match db.mailbox.insert command with
    | none => .error .uniqueConstraintFailed
    | some mailbox => .ok { db with mailbox }

def setDispatch (dispatchId : OpaqueId) (f : Dispatch → Dispatch) (keeps : ∀ row, (f row).id = row.id)
    (db : RemoteDatabase) : RemoteDatabase :=
  { db with dispatches := db.dispatches.update (fun row => row.id = dispatchId) f keeps }

/-- `SqliteRemoteDispatchPersistence.prepare`: `operation` and `reservation` are the rows that the caller has read. -/
def prepare (operation : RemoteOperation) (reservation : HostReservation) (db : RemoteDatabase) :
    Except RemoteError RemoteDatabase :=
  match db.dispatches.find operation.dispatchId with
  | none =>
    if 0 < db.dispatches.count (fun row => row.leaseId = reservation.leaseId) then .error .uniqueConstraintFailed
    else match db.dispatches.insert
        { id := operation.dispatchId, workspaceId := operation.ownership.workspaceId,
          projectId := operation.ownership.projectId, blockRef := operation.ownership.blockRef,
          hostId := reservation.hostId, status := .leased, leaseId := reservation.leaseId,
          executionAttemptId := operation.executionAttemptId, leaseExpiresAt := reservation.leaseExpiresAt,
          result := none, failure := none, interruption := none } with
      | none => .error .uniqueConstraintFailed
      | some dispatches => .ok { db with dispatches }
  | some existing =>
    if existing.workspaceId = operation.ownership.workspaceId ∧ existing.projectId = operation.ownership.projectId ∧
        existing.blockRef = operation.ownership.blockRef ∧ existing.hostId = reservation.hostId ∧
        existing.leaseId = reservation.leaseId ∧ existing.executionAttemptId = operation.executionAttemptId then .ok db
    else .error .remoteDispatchIdentityConflict

/-- `SqliteRemoteDispatchPersistence.activate`; the command was built from the rows that the caller has read. -/
def activate (snapshot : RemoteOperation) (reservation : HostReservation) (db : RemoteDatabase) :
    Except RemoteError RemoteDatabase := do
  let (operation, attempt) ← db.getRequired snapshot.id
  let db ← db.enqueueOnce
    { messageId := .execute operation.dispatchId, hostId := reservation.hostId, dispatchId := snapshot.dispatchId,
      leaseId := reservation.leaseId, executionAttemptId := snapshot.executionAttemptId, kind := .executeBlock }
  if attempt.status = .reserved then
    match db.attempts.updateOne
        (fun row => row.executionAttemptId = operation.executionAttemptId ∧ row.status = .reserved ∧
          row.lease.any (fun lease =>
            lease.leaseId = reservation.leaseId ∧ lease.fencingToken = reservation.fencingToken))
        (fun row => { row with status := .activated, stateVersion := row.stateVersion + 1 }) (fun _ => rfl) with
    | none => .error .remoteAttemptActivationConflict
    | some attempts => .ok ({ db with attempts }.setOperationState operation.id .activated operation.terminalAt)
  else if attempt.status = .activated then .ok db
  else .error .remoteAttemptActivationConflict

/-- `resolveCurrentLease` of an event that a Host sends; `none` drops the event. -/
def resolveCurrentLease (hostId : OpaqueId) (lease : LeaseIdentity) (allowExpired : Bool) (now : Timestamp)
    (db : RemoteDatabase) : Option Dispatch :=
  (db.dispatches.find lease.dispatchId).filter fun dispatch =>
    dispatch.heldBy hostId lease && (allowExpired || now < dispatch.leaseExpiresAt)

def accept (hostId : OpaqueId) (lease : LeaseIdentity) (now : Timestamp) (db : RemoteDatabase) : RemoteDatabase :=
  match db.resolveCurrentLease hostId lease false now with
  | none => db
  | some dispatch =>
    if dispatch.status = .leased then
      db.setDispatch dispatch.id (fun row => { row with status := .running }) fun _ => rfl
    else db

def interrupt (hostId : OpaqueId) (lease : LeaseIdentity) (interruption : DispatchInterruption) (now : Timestamp)
    (db : RemoteDatabase) : RemoteDatabase :=
  match db.resolveCurrentLease hostId lease false now with
  | none => db
  | some dispatch =>
    if dispatch.status = .running ∨ dispatch.status = .cancelling then
      db.setDispatch dispatch.id
        (fun row => { row with status := .interrupted, interruption := some interruption }) fun _ => rfl
    else db

/-- `dispatch.completed`, for a result whose artifacts are the dispatch's own. -/
def recordCompleted (hostId : OpaqueId) (lease : LeaseIdentity) (result : DispatchResult) (now : Timestamp)
    (db : RemoteDatabase) : RemoteDatabase :=
  match db.resolveCurrentLease hostId lease true now with
  | none => db
  | some dispatch =>
    if dispatch.status = .completed ∨ dispatch.status = .awaitingWriteback then db
    else if dispatch.canAcceptTerminalHostResult then
      db.setDispatch dispatch.id
        (fun row => { row with
          status := .awaitingWriteback, result := some result, failure := none, interruption := none }) fun _ => rfl
    else db

def executionCancelled : OpaqueId := ⟨"execution_cancelled", by decide⟩

/-- `dispatch.failed`; `pendingCancellation` is `hasPendingCancellation` of the dispatch. -/
def recordFailed (hostId : OpaqueId) (lease : LeaseIdentity) (failure : DispatchFailure)
    (pendingCancellation : Dispatch → Bool) (now : Timestamp) (db : RemoteDatabase) : RemoteDatabase :=
  match db.resolveCurrentLease hostId lease true now with
  | none => db
  | some dispatch =>
    if dispatch.status = .failed ∨ dispatch.status = .cancelled ∨ dispatch.status = .awaitingWriteback then db
    else
      let interruptedCancellation := dispatch.status = .interrupted && failure.code = executionCancelled &&
        pendingCancellation dispatch
      if dispatch.canAcceptTerminalHostResult || interruptedCancellation then
        db.setDispatch dispatch.id
          (fun row => { row with
            status := .awaitingWriteback, failure := some failure, result := none, interruption := none }) fun _ => rfl
      else db

def renewCurrentLease (options : HostReservationOptions) (hostId : OpaqueId) (lease : LeaseIdentity) (now : Timestamp)
    (db : RemoteDatabase) : Except RemoteError RemoteDatabase :=
  match db.dispatches.find lease.dispatchId with
  | none => .ok db
  | some dispatch =>
    if ¬ dispatch.heldBy hostId lease ∨ dispatch.status.live = false ∨ dispatch.leaseExpiresAt ≤ now then .ok db
    else if options.leaseDurationMs < 2 * (dispatch.leaseExpiresAt - now) then .ok db
    else
      let leaseExpiresAt := now + options.leaseDurationMs
      match
        db.dispatches.updateOne
          (fun row => row.id = dispatch.id ∧ row.heldBy hostId lease ∧ row.status.live = true ∧
            row.leaseExpiresAt = dispatch.leaseExpiresAt)
          (fun row => { row with leaseExpiresAt }) (fun _ => rfl),
        db.reservations.updateOne
          (fun row => row.leaseId = dispatch.leaseId ∧ row.hostId = hostId ∧
            row.executionAttemptId = dispatch.executionAttemptId ∧ row.status = .active ∧
            row.leaseExpiresAt = dispatch.leaseExpiresAt)
          (fun row => { row with leaseExpiresAt, version := row.version + 1 }) (fun _ => rfl),
        db.attempts.updateOne
          (fun row => row.executionAttemptId = dispatch.executionAttemptId ∧ row.status.renewable = true ∧
            row.lease.any (fun held => held.hostId = hostId ∧ held.leaseId = dispatch.leaseId ∧
              held.leaseExpiresAt = dispatch.leaseExpiresAt))
          (fun row => { row with lease := row.lease.map fun held => { held with leaseExpiresAt } }) (fun _ => rfl)
      with
      | some dispatches, some reservations, some attempts => .ok { db with dispatches, reservations, attempts }
      | _, _, _ => .error .remoteLeaseAuthorityInconsistent

/-- The heartbeat transaction of a Host after its liveness is recorded; an error rolls all of it back. -/
def renewLeases (options : HostReservationOptions) (hostId : OpaqueId) (leases : List LeaseIdentity) (now : Timestamp)
    (db : RemoteDatabase) : Except RemoteError RemoteDatabase :=
  leases.foldlM (fun db lease => db.renewCurrentLease options hostId lease now) db

def touchHost (hostId : OpaqueId) (now : Timestamp) (db : RemoteDatabase) : RemoteDatabase :=
  { db with hosts :=
      db.hosts.update (fun row => row.id = hostId) (fun row => { row with lastSeenAt := some now }) fun _ => rfl }

def heartbeat (options : HostReservationOptions) (hostId : OpaqueId) (leases : List LeaseIdentity) (now : Timestamp)
    (db : RemoteDatabase) : Except RemoteError RemoteDatabase :=
  (db.touchHost hostId now).renewLeases options hostId leases now

def recoverExpiredLease (dispatchId : OpaqueId) (now : Timestamp) (db : RemoteDatabase) : RemoteDatabase :=
  match db.dispatches.find dispatchId with
  | none => db
  | some dispatch =>
    if dispatch.status.live = true ∧ dispatch.leaseExpiresAt ≤ now then
      db.setDispatch dispatch.id
        (fun row => { row with
          status := .interrupted, interruption := some ⟨.leaseLost, false, none⟩, failure := none, result := none })
        fun _ => rfl
    else db

def recoverExpiredLeases (now : Timestamp) (db : RemoteDatabase) : RemoteDatabase :=
  ((db.dispatches.rows.filter fun row => row.status.live = true ∧ row.leaseExpiresAt ≤ now).map (·.id)).foldl
    (fun db dispatchId => db.recoverExpiredLease dispatchId now) db

def finishDispatchTerminal (expected : DispatchTerminalIdentity) (status : TerminalStatus) (db : RemoteDatabase) :
    Except RemoteError RemoteDatabase :=
  match db.dispatches.find expected.id with
  | none => .error .remoteDispatchNotFound
  | some row =>
    if row.terminalIdentity ≠ expected then .error .remoteDispatchTerminalIdentityMismatch
    else if row.status = status.dispatch then .ok db
    else if row.status ≠ .awaitingWriteback then .error .remoteDispatchNotAwaitingWriteback
    else .ok (db.setDispatch row.id (fun row => { row with status := status.dispatch }) fun _ => rfl)

end RemoteDatabase
end PlanWeave
