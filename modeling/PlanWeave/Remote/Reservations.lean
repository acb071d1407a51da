import PlanWeave.Remote.Operations

namespace PlanWeave

structure HostReservationOptions where
  hostOfflineAfterMs : Nat
  leaseDurationMs : Nat

inductive EndpointAvailabilityPolicy where
  | ownerFleet | ownerWorkspace | workspace
deriving DecidableEq

def deriveEndpointAvailabilityPolicyFromAuthorized (authorized : AuthorizedRemoteAgentUse) :
    EndpointAvailabilityPolicy :=
  if authorized.runtimeAuthority = .ownerCanvas then .ownerFleet
  else if authorized.agentAccessAuthority = .agentOwner none then .ownerWorkspace else .workspace

def endpointOccupiesHostCapacity (policy : EndpointAvailabilityPolicy) : Bool := policy ≠ .ownerFleet

def occupiesHostCapacity (authorized : AuthorizedRemoteAgentUse) : Bool :=
  endpointOccupiesHostCapacity (deriveEndpointAvailabilityPolicyFromAuthorized authorized)

def isOwnerCanvasRuntime (authority : Option RuntimeAuthority) : Bool := authority = some .ownerCanvas

def reservationOccupiesHostCapacity (operation : RemoteOperation) : Bool :=
  match operation.agentAccess with
  | some authorized => occupiesHostCapacity authorized
  | none => !isOwnerCanvasRuntime (operation.endpointSelection.map (·.authority))

inductive ActiveAttemptTransition where
  | activated | running | interrupted | actionRequired | awaitingWriteback
deriving DecidableEq

namespace ActiveAttemptTransition

def attempt : ActiveAttemptTransition → RemoteAttemptStatus
  | activated => .activated
  | running => .running
  | interrupted => .interrupted
  | actionRequired => .actionRequired
  | awaitingWriteback => .awaitingWriteback

def state : ActiveAttemptTransition → RemoteOperationState
  | activated => .activated
  | running => .running
  | interrupted => .interrupted
  | actionRequired => .actionRequired
  | awaitingWriteback => .awaitingWriteback

def allowed : RemoteAttemptStatus → List ActiveAttemptTransition
  | .reserved => [activated]
  | .activated => [running, interrupted]
  | .running => [interrupted, actionRequired, awaitingWriteback]
  | .interrupted => [running]
  | .actionRequired => [running, interrupted]
  | _ => []

end ActiveAttemptTransition

namespace ReservationReleaseReason

def reservation : ReservationReleaseReason → ReservationStatus
  | expired => .expired
  | cancelled => .cancelled
  | _ => .released

def attempt : ReservationReleaseReason → RemoteAttemptStatus
  | expired => .interrupted
  | completed => .completed
  | failed => .failed
  | cancelled => .cancelled

def state : ReservationReleaseReason → RemoteOperationState
  | expired => .interrupted
  | completed => .completed
  | failed => .failed
  | cancelled => .cancelled

def terminalAt (now : Timestamp) : ReservationReleaseReason → Option Timestamp
  | expired => none
  | _ => some now

end ReservationReleaseReason

namespace RemoteDatabase

def capacityManagedReservation (db : RemoteDatabase) (reservation : HostReservation) : Bool :=
  !db.attempts.rows.any fun attempt => attempt.executionAttemptId = reservation.executionAttemptId &&
    db.operations.rows.any fun operation => operation.id = attempt.operationId &&
      operation.endpointSelection.any fun selection => selection.authority = .ownerCanvas

def activeReservations (db : RemoteDatabase) (hostId : OpaqueId) : Nat :=
  db.reservations.count fun row =>
    row.hostId = hostId ∧ row.status = .active ∧ db.capacityManagedReservation row = true

def getReservation (db : RemoteDatabase) (leaseId : OpaqueId) : Except RemoteError HostReservation :=
  match db.reservations.find leaseId with
  | none => .error .hostReservationNotFound
  | some reservation => .ok reservation

/-- `INSERT INTO host_capacity_reservations`; an attempt has one active reservation at most. -/
def insertReservation (reservation : HostReservation) (db : RemoteDatabase) : Except RemoteError RemoteDatabase :=
  if 0 < db.reservations.count (fun row =>
      row.executionAttemptId = reservation.executionAttemptId ∧ row.status = .active) then .error .uniqueConstraintFailed
  else match db.reservations.insert reservation with
    | none => .error .uniqueConstraintFailed
    | some reservations => .ok { db with reservations }

structure ReserveInput where
  agentId : OpaqueId
  agentProfileId : OpaqueId
  preferredHostId : Option OpaqueId

/-- `ORDER BY active_reservations ASC,h.last_seen_at DESC,h.id ASC` -/
def candidateBefore (db : RemoteDatabase) (left right : AgentHost) : Bool :=
  let load := fun (host : AgentHost) => db.activeReservations host.id
  let seen := fun (host : AgentHost) => host.lastSeenAt.getD 0
  load left < load right || (load left = load right &&
    (seen right < seen left || (seen left = seen right && left.id.text ≤ right.id.text)))

def reserveCandidates (options : HostReservationOptions) (input : ReserveInput) (operation : RemoteOperation)
    (now : Timestamp) (db : RemoteDatabase) : List AgentHost :=
  let online : List AgentHost := db.hosts.rows.filter (·.isOnline now options.hostOfflineAfterMs)
  let rows : List AgentHost := match input.preferredHostId with
    | some hostId => online.filter (·.id = hostId)
    | none => online.mergeSort db.candidateBefore
  rows.filter fun host => host.usable now &&
    host.fleetHostExecutionProfileAvailability (host.isOnline now options.hostOfflineAfterMs) input.agentId
      input.agentProfileId operation.requiredCapabilities = .available

def selectHost (options : HostReservationOptions) (input : ReserveInput) (operation : RemoteOperation)
    (now : Timestamp) (db : RemoteDatabase) : Option AgentHost :=
  (db.reserveCandidates options input operation now).find? fun host =>
    (!reservationOccupiesHostCapacity operation || db.activeReservations host.id < host.capacity) &&
      operation.requiredCapabilities.all (host.capabilities.contains ·)

def reserve (options : HostReservationOptions) (operationId : OpaqueId) (input : ReserveInput) (leaseId : OpaqueId)
    (now : Timestamp) (db : RemoteDatabase) : Except RemoteError (RemoteDatabase × HostReservation) := do
  let (operation, attempt) ← db.getRequired operationId
  if attempt.status ≠ .prepared ∨ (operation.state ≠ .preparing ∧ operation.state ≠ .claimed) then
    match attempt.lease.bind fun lease => db.reservations.find lease.leaseId with
    | some existing => if existing.status = .active then .ok (db, existing) else .error .remoteAttemptNotReservable
    | none => .error .remoteAttemptNotReservable
  else
    match db.selectHost options input operation now with
    | none => .error .noCompatibleAgentHost
    | some host =>
      let reservation : HostReservation :=
        { leaseId, executionAttemptId := operation.executionAttemptId, hostId := host.id, fencingToken := 1,
          status := .active, leaseExpiresAt := now + options.leaseDurationMs, version := 0 }
      if 0 < db.attempts.count (fun row => row.executionAttemptId ≠ operation.executionAttemptId ∧
          row.ownership = operation.ownership ∧ row.status.ownsBlock = true) then .error .remoteActiveAttemptConflict
      else
        let attempts := db.attempts.update
          (fun row => row.executionAttemptId = operation.executionAttemptId ∧ row.status = .prepared ∧
            row.stateVersion = attempt.stateVersion)
          (fun row => { row with
            status := .reserved, lease := some reservation.lease, stateVersion := row.stateVersion + 1 })
          (fun _ => rfl)
        let db ← { db with attempts }.insertReservation reservation
        .ok (db.setOperationState operation.id .reserved operation.terminalAt, reservation)

def releaseAttempt (reservation : HostReservation) (reason : ReservationReleaseReason) (now : Timestamp)
    (db : RemoteDatabase) : RemoteDatabase :=
  let held : RemoteAttempt → Prop := fun row => row.executionAttemptId = reservation.executionAttemptId ∧
    row.lease.any (fun lease => lease.leaseId = reservation.leaseId ∧ lease.fencingToken = reservation.fencingToken)
  have : DecidablePred held := fun _ => inferInstanceAs (Decidable (_ ∧ _))
  let attemptAwaits := 0 < db.attempts.count (fun row => held row ∧ row.status = .awaitingWriteback)
  let dispatchAwaits := 0 < db.dispatches.count (fun row =>
    row.executionAttemptId = reservation.executionAttemptId ∧ row.leaseId = reservation.leaseId ∧
      row.status = .awaitingWriteback)
  -- A parked terminal payload keeps its writeback alive when the capacity expires.
  if reason = .expired ∧ (attemptAwaits ∨ dispatchAwaits) then
    { db with
      attempts := db.attempts.update
        (fun row => held row ∧ (row.status = .running ∨ row.status = .activated ∨ row.status = .awaitingWriteback ∨
          row.status = .actionRequired ∨ row.status = .interrupted))
        (fun row => { row with
          status := .awaitingWriteback, stateVersion := row.stateVersion + 1, terminalAt := none })
        (fun _ => rfl)
      operations := db.operations.update
        (fun row => row.executionAttemptId = reservation.executionAttemptId ∧ row.state.terminal = false)
        (fun row => { row with state := .awaitingWriteback, terminalAt := none }) (fun _ => rfl) }
  else
    { db with
      attempts := db.attempts.update held
        (fun row => { row with
          status := reason.attempt, stateVersion := row.stateVersion + 1, terminalAt := reason.terminalAt now })
        (fun _ => rfl)
      operations := db.operations.update (fun row => row.executionAttemptId = reservation.executionAttemptId)
        (fun row => { row with state := reason.state, terminalAt := reason.terminalAt now }) (fun _ => rfl) }

def release (leaseId : OpaqueId) (fencingToken expectedVersion : Nat) (reason : ReservationReleaseReason)
    (now : Timestamp) (db : RemoteDatabase) : Except RemoteError RemoteDatabase := do
  let reservation ← db.getReservation leaseId
  if reservation.fencingToken ≠ fencingToken then .error .reservationFenceConflict
  else if reservation.version ≠ expectedVersion then .error .reservationVersionConflict
  else if reservation.status ≠ .active then .error .reservationNotActive
  else
    match db.attempts.find reservation.executionAttemptId with
    | none => .error .remoteOperationAttemptIdentityMismatch
    | some attempt =>
      match db.reservations.updateOne
          (fun row => row.leaseId = reservation.leaseId ∧ row.status = .active ∧
            row.fencingToken = reservation.fencingToken ∧ row.version = reservation.version)
          (fun row => { row with status := reason.reservation, version := row.version + 1 }) (fun _ => rfl) with
      | none => .error .reservationVersionConflict
      | some reservations => do
        let db := { db with reservations }.releaseAttempt reservation reason now
        discard (db.getRequired attempt.operationId)
        .ok db

def dueLeases (now : Timestamp) (db : RemoteDatabase) : List OpaqueId :=
  ((db.reservations.rows.filter fun row => row.status = .active ∧ row.leaseExpiresAt ≤ now).mergeSort fun left right =>
    left.leaseExpiresAt < right.leaseExpiresAt ||
      (left.leaseExpiresAt = right.leaseExpiresAt && left.leaseId.text ≤ right.leaseId.text)).map (·.leaseId)

/-- The loop of `expireDue`. Each release is a transaction of its own; the first error ends the loop. -/
def expireLeases (now : Timestamp) : List OpaqueId → RemoteDatabase → RemoteDatabase × Option RemoteError
  | [], db => (db, none)
  | leaseId :: rest, db =>
    match db.getReservation leaseId with
    | .error error => (db, some error)
    | .ok reservation =>
      if reservation.status ≠ .active ∨ now < reservation.leaseExpiresAt then db.expireLeases now rest
      else match db.release leaseId reservation.fencingToken reservation.version .expired now with
        | .error error => (db, some error)
        | .ok released => released.expireLeases now rest

def expireDue (now : Timestamp) (db : RemoteDatabase) : RemoteDatabase × Option RemoteError :=
  db.expireLeases now (db.dueLeases now)

structure ResumeAttemptInput where
  priorLeaseId : OpaqueId
  leaseId : OpaqueId
  leaseExpiresAt : Timestamp
  expectedAttemptVersion : Nat

def resumeHost (options : HostReservationOptions) (hostId : OpaqueId) (occupiesCapacity : Bool) (now : Timestamp)
    (db : RemoteDatabase) : Except RemoteError Unit :=
  match (db.hosts.find hostId).filter (·.isOnline now options.hostOfflineAfterMs) with
  | none => .error .remoteResumeHostUnavailable
  | some host =>
    if occupiesCapacity = true ∧ host.capacity ≤ db.activeReservations hostId then
      .error .remoteResumeHostCapacityExhausted
    else .ok ()

def resumeSameAttempt (options : HostReservationOptions) (input : ResumeAttemptInput) (now : Timestamp)
    (db : RemoteDatabase) : Except RemoteError (RemoteDatabase × HostReservation) := do
  if input.priorLeaseId = input.leaseId then .error .remoteResumeLeaseIdentityReused
  else
    let prior ← db.getReservation input.priorLeaseId
    match db.reservations.find input.leaseId with
    | some existing =>
      if existing.executionAttemptId = prior.executionAttemptId ∧ existing.hostId = prior.hostId ∧
          existing.fencingToken = prior.fencingToken + 1 ∧ existing.status = .active ∧
          existing.leaseExpiresAt = input.leaseExpiresAt then .ok (db, existing)
      else .error .remoteResumeLeaseIdentityConflict
    | none =>
      if prior.status ≠ .expired then .error .remoteResumePriorLeaseNotFenced
      else if input.leaseExpiresAt ≤ now ∨ now + options.leaseDurationMs < input.leaseExpiresAt then
        .error .remoteResumeLeaseExpiryInvalid
      else
        match db.attempts.find prior.executionAttemptId with
        | none => .error .remoteOperationAttemptIdentityMismatch
        | some row => do
          let (operation, attempt) ← db.getRequired row.operationId
          if operation.executionAttemptId ≠ prior.executionAttemptId ∨ attempt.status ≠ .interrupted ∨
              attempt.stateVersion ≠ input.expectedAttemptVersion ∨
              attempt.lease.map (·.leaseId) ≠ some prior.leaseId then .error .remoteResumeAttemptConflict
          else do
            db.resumeHost options prior.hostId (reservationOccupiesHostCapacity operation) now
            let reservation : HostReservation :=
              { leaseId := input.leaseId, executionAttemptId := prior.executionAttemptId, hostId := prior.hostId,
                fencingToken := prior.fencingToken + 1, status := .active, leaseExpiresAt := input.leaseExpiresAt,
                version := 0 }
            let db ← db.insertReservation reservation
            match db.attempts.updateOne
                (fun row => row.executionAttemptId = prior.executionAttemptId ∧ row.status = .interrupted ∧
                  row.lease.map (·.leaseId) = some prior.leaseId ∧ row.stateVersion = input.expectedAttemptVersion)
                (fun row => { row with
                  status := .activated
                  lease := row.lease.map fun lease => { lease with
                    leaseId := input.leaseId
                    fencingToken := prior.fencingToken + 1
                    leaseExpiresAt := input.leaseExpiresAt }
                  stateVersion := row.stateVersion + 1 })
                (fun _ => rfl) with
            | none => .error .remoteResumeAttemptConflict
            | some attempts =>
              .ok ({ db with attempts }.setOperationState operation.id .activated operation.terminalAt, reservation)

def isResumeApplied (priorLeaseId leaseId executionAttemptId : OpaqueId) (leaseExpiresAt : Timestamp)
    (db : RemoteDatabase) : Except RemoteError Bool := do
  let prior ← db.getReservation priorLeaseId
  match db.reservations.find leaseId with
  | none => .ok false
  | some current => .ok (prior.executionAttemptId = executionAttemptId ∧
      current.executionAttemptId = executionAttemptId ∧ current.hostId = prior.hostId ∧
      current.fencingToken = prior.fencingToken + 1 ∧ current.status = .active ∧
      current.leaseExpiresAt = leaseExpiresAt ∧
      (db.attempts.find executionAttemptId).any fun row => row.lease.map (·.leaseId) = some current.leaseId ∧
        (row.status = .activated ∨ row.status = .running))

def finalizeFencedAttempt (operationId executionAttemptId leaseId : OpaqueId) (status : TerminalStatus)
    (now : Timestamp) (db : RemoteDatabase) : Except RemoteError RemoteDatabase := do
  let reservation ← db.getReservation leaseId
  if reservation.executionAttemptId ≠ executionAttemptId then .error .remoteTerminalAttemptIdentityMismatch
  else if reservation.status = .active then .error .reservationStillActive
  else
    let (operation, attempt) ← db.getRequired operationId
    if operation.executionAttemptId ≠ executionAttemptId then .error .remoteTerminalAttemptIdentityMismatch
    else if operation.state = status.state ∧ attempt.status = status.attempt then .ok db
    else if attempt.status ≠ .interrupted ∧ attempt.status ≠ .actionRequired ∧ attempt.status ≠ .awaitingWriteback then
      .error .remoteTerminalPersistenceConflict
    else
      match db.attempts.updateOne
          (fun row => row.executionAttemptId = executionAttemptId ∧ row.operationId = operation.id ∧
            row.lease.map (·.leaseId) = some reservation.leaseId ∧
            (row.status = .interrupted ∨ row.status = .actionRequired ∨ row.status = .awaitingWriteback))
          (fun row => { row with
            status := status.attempt, stateVersion := row.stateVersion + 1, terminalAt := some now })
          (fun _ => rfl) with
      | none => .error .remoteTerminalPersistenceConflict
      | some attempts => .ok ({ db with attempts }.setOperationState operation.id status.state (some now))

def transition (leaseId : OpaqueId) (fencingToken expectedAttemptVersion : Nat) (status : ActiveAttemptTransition)
    (db : RemoteDatabase) : Except RemoteError RemoteDatabase := do
  let reservation ← db.getReservation leaseId
  if reservation.fencingToken ≠ fencingToken then .error .reservationFenceConflict
  else if reservation.status ≠ .active then .error .reservationNotActive
  else
    match db.attempts.find reservation.executionAttemptId with
    | none => .error .remoteOperationAttemptIdentityMismatch
    | some row => do
      let (operation, attempt) ← db.getRequired row.operationId
      if status ∉ ActiveAttemptTransition.allowed attempt.status then .error .remoteAttemptTransitionInvalid
      else if attempt.stateVersion ≠ expectedAttemptVersion then .error .remoteAttemptVersionConflict
      else
        match db.attempts.updateOne
            (fun row => row.executionAttemptId = operation.executionAttemptId ∧
              row.lease.any (fun lease =>
                lease.leaseId = reservation.leaseId ∧ lease.fencingToken = reservation.fencingToken) ∧
              row.stateVersion = expectedAttemptVersion)
            (fun row => { row with status := status.attempt, stateVersion := row.stateVersion + 1 })
            (fun _ => rfl) with
        | none => .error .remoteAttemptVersionConflict
        | some attempts =>
          .ok ({ db with attempts }.setOperationState operation.id status.state operation.terminalAt)

end RemoteDatabase
end PlanWeave
