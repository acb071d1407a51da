import PlanWeave.Remote.Hosts
import PlanWeave.Lib.Table
import PlanWeave.Lib.Checked

namespace PlanWeave

inductive RemoteOperationState where
  | preparing | claimed | reserved | activated | running | interrupted | actionRequired | awaitingWriteback
  | completed | failed | cancelled
deriving DecidableEq

inductive RemoteAttemptStatus where
  | prepared | reserved | activated | running | interrupted | actionRequired | awaitingWriteback
  | superseded | completed | failed | cancelled
deriving DecidableEq

inductive ReservationStatus where
  | active | released | expired | cancelled
deriving DecidableEq

inductive DispatchStatus where
  | leased | running | interrupted | cancelling | awaitingWriteback | completed | failed | cancelled
deriving DecidableEq

inductive TerminalStatus where
  | completed | failed | cancelled

inductive ReservationReleaseReason where
  | completed | failed | cancelled | expired
deriving DecidableEq

namespace RemoteOperationState

def terminal : RemoteOperationState → Bool
  | completed | failed | cancelled => true
  | _ => false

end RemoteOperationState

namespace RemoteAttemptStatus

/-- The statuses of the partial index `idx_remote_attempt_active_ownership`. -/
def ownsBlock : RemoteAttemptStatus → Bool
  | reserved | activated | running | interrupted | actionRequired | awaitingWriteback => true
  | _ => false

def terminal : RemoteAttemptStatus → Bool
  | superseded | completed | failed | cancelled => true
  | _ => false

end RemoteAttemptStatus

namespace TerminalStatus

def state : TerminalStatus → RemoteOperationState
  | completed => .completed
  | failed => .failed
  | cancelled => .cancelled

def attempt : TerminalStatus → RemoteAttemptStatus
  | completed => .completed
  | failed => .failed
  | cancelled => .cancelled

def dispatch : TerminalStatus → DispatchStatus
  | completed => .completed
  | failed => .failed
  | cancelled => .cancelled

def reason : TerminalStatus → ReservationReleaseReason
  | completed => .completed
  | failed => .failed
  | cancelled => .cancelled

end TerminalStatus

structure BlockOwnership where
  workspaceId : OpaqueId
  projectId : OpaqueId
  canvasId : OpaqueId
  blockRef : String
  ownershipGeneration : OpaqueId
deriving DecidableEq

/-- `runtimeAuthority` of an authorized use, and `authority` of a stored Endpoint selection. -/
inductive RuntimeAuthority where
  | ownerCanvas
  | workspaceCanvas (workspaceId : OpaqueId)
deriving DecidableEq

inductive AgentAccessAuthority where
  | agentOwner (workspaceId : Option OpaqueId)
  | workspaceGrant (workspaceId : OpaqueId)
deriving DecidableEq

structure AuthorizedRemoteAgentUse where
  runtimeAuthority : RuntimeAuthority
  agentAccessAuthority : AgentAccessAuthority

structure EndpointSelection where
  endpointId : OpaqueId
  hostId : OpaqueId
  authority : RuntimeAuthority

structure AuthorityRevisions where
  responsibilityRevision : Nat
  reviewerRevision : Nat
  executionTargetRevision : Nat

/-- `DispatchHostSelectionSnapshot` -/
structure HostSelection where
  authorityRevisions : Option AuthorityRevisions

structure RemoteOperation where
  id : OpaqueId
  ownership : BlockOwnership
  idempotencyKey : String
  sourceFingerprint : OpaqueId
  requiredCapabilities : List String
  state : RemoteOperationState
  dispatchId : OpaqueId
  executionAttemptId : OpaqueId
  hostSelection : Option HostSelection
  endpointSelection : Option EndpointSelection
  agentAccess : Option AuthorizedRemoteAgentUse
  terminalAt : Option Timestamp

/-- `host_id`, `lease_id`, `lease_fencing_token` and `lease_expires_at` of an attempt, which the table sets together. -/
structure AttemptLease where
  hostId : OpaqueId
  leaseId : OpaqueId
  fencingToken : Nat
  leaseExpiresAt : Timestamp

structure RemoteAttempt where
  executionAttemptId : OpaqueId
  operationId : OpaqueId
  dispatchId : OpaqueId
  ownership : BlockOwnership
  status : RemoteAttemptStatus
  lease : Option AttemptLease
  stateVersion : Nat
  terminalAt : Option Timestamp

structure HostReservation where
  leaseId : OpaqueId
  executionAttemptId : OpaqueId
  hostId : OpaqueId
  fencingToken : Nat
  status : ReservationStatus
  leaseExpiresAt : Timestamp
  version : Nat
deriving DecidableEq

def HostReservation.lease (reservation : HostReservation) : AttemptLease :=
  ⟨reservation.hostId, reservation.leaseId, reservation.fencingToken, reservation.leaseExpiresAt⟩

structure DispatchResult where
  reportArtifactRef : OpaqueId

structure DispatchFailure where
  code : OpaqueId
  message : String
  retryable : Bool

structure AcpRecoveryIdentity where
  acpSessionId : String
  recoveryId : String
deriving DecidableEq

structure DispatchInterruption where
  reason : InterruptionReason
  resumable : Bool
  recovery : Option AcpRecoveryIdentity

structure Dispatch where
  id : OpaqueId
  workspaceId : OpaqueId
  projectId : OpaqueId
  blockRef : String
  hostId : OpaqueId
  status : DispatchStatus
  leaseId : OpaqueId
  executionAttemptId : OpaqueId
  leaseExpiresAt : Timestamp
  result : Option DispatchResult
  failure : Option DispatchFailure
  interruption : Option DispatchInterruption

/-- `executeMailboxMessageId` hashes the dispatch id under a prefix of its own; the other commands are sent under the
id of their action. -/
inductive RemoteMessageId where
  | execute (dispatchId : OpaqueId)
  | action (actionId : OpaqueId)
deriving DecidableEq

inductive RemoteCommandKind where
  | executeBlock
  | resumeExecution (priorRecovery : AcpRecoveryIdentity) (leaseExpiresAt : Timestamp)
  | cancelExecution (reason : String)
deriving DecidableEq

structure RemoteCommand where
  messageId : RemoteMessageId
  hostId : OpaqueId
  dispatchId : OpaqueId
  leaseId : OpaqueId
  executionAttemptId : OpaqueId
  kind : RemoteCommandKind
deriving DecidableEq

structure RemoteDatabase where
  operations : Table RemoteOperation.id
  attempts : Table RemoteAttempt.executionAttemptId
  reservations : Table HostReservation.leaseId
  dispatches : Table Dispatch.id
  mailbox : Table RemoteCommand.messageId
  hosts : Table AgentHost.id

def RemoteDatabase.empty : RemoteDatabase :=
  ⟨Table.empty, Table.empty, Table.empty, Table.empty, Table.empty, Table.empty⟩

inductive RemoteError where
  | uniqueConstraintFailed
  | remoteOperationNotFound
  | remoteOperationRowInvalid
  | remoteOperationIdempotencyConflict
  | remoteActiveAttemptConflict
  | remoteOperationNotPreparing
  | remoteOperationNotActionable
  | remoteRuntimeResetRecoveryConflict
  | remoteAttemptNotReservable
  | noCompatibleAgentHost
  | hostReservationNotFound
  | remoteOperationAttemptIdentityMismatch
  | remoteResumeLeaseIdentityReused
  | remoteResumeLeaseIdentityConflict
  | remoteResumePriorLeaseNotFenced
  | remoteResumeLeaseExpiryInvalid
  | remoteResumeAttemptConflict
  | remoteResumeHostUnavailable
  | remoteResumeHostCapacityExhausted
  | remoteTerminalAttemptIdentityMismatch
  | reservationStillActive
  | remoteTerminalPersistenceConflict
  | reservationFenceConflict
  | reservationVersionConflict
  | reservationNotActive
  | remoteAttemptTransitionInvalid
  | remoteAttemptVersionConflict
  | remoteRetryAttemptIdentityReused
  | remoteRetryAttemptVersionConflict
  | remoteRetryAttemptNotInterrupted
  | remoteRetryAttemptLeaseMissing
  | remoteRetryAttemptNotFenced
  | remoteRetryAttemptIdentityConflict
  | remoteActionRequiredAttemptConflict
  | remoteActionRequiredAttemptNotFenced
  | remoteAttemptActivationConflict
  | remoteDispatchIdentityConflict
  | mailboxIdentityConflict
  | remoteAttemptNotBound
  | remoteCancelDispatchConflict
  | remoteResumeAttemptNotBound
  | remoteResumeDispatchConflict
  | remoteBlockDispatchNotInterrupted
  | remoteManualFailureDispatchConflict
  | remoteRuntimeResetDispatchConflict
  | remoteRuntimeResetDispatchNotFenced
  | remoteRuntimeResetActionActive
  | remoteRuntimeResetDispatchNotInterrupted
  | remoteDispatchNotFound
  | remoteDispatchTerminalIdentityMismatch
  | remoteDispatchNotAwaitingWriteback
  | remoteDispatchTerminalConflict
  | remoteDispatchPersistenceOrphaned
  | remoteDispatchWritebackPayloadInvalid
  | remoteMailboxIdentityConflict
  | remoteTerminalAttemptNotBound
  | remoteLeaseAuthorityInconsistent
deriving DecidableEq

end PlanWeave
