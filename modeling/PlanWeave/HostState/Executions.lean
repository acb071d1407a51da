import PlanWeave.HostState.EventOutbox

namespace PlanWeave

/-- The part of an execution envelope that the repository reads, and the JSON of the rest. -/
structure ExecutionEnvelope where
  protocolVersion : Nat
  workspaceId : OpaqueId
  agentProfileId : OpaqueId
  sourceRevision : String
  content : String
deriving DecidableEq

structure ExecuteBlockCommand where
  identity : LeaseIdentity
  protocolVersion : Nat
  leaseExpiresAt : Timestamp
  envelopeDigest : String
  envelope : ExecutionEnvelope
deriving DecidableEq

/-- The decision of a permission response; `allowOnce` is the legacy form that only history replays. -/
inductive PermissionDecision where
  | selectOption (optionId : String)
  | deny
  | allowOnce
deriving DecidableEq

inductive InteractionResponse where
  | permission (decision : PermissionDecision)
  | elicitation (accepted : Option String)
  | authentication (cancel : Bool)
deriving DecidableEq

namespace InteractionResponse

/-- `expectedActionKind` -/
def kind : InteractionResponse → InteractionActionKind
  | permission _ => .permission
  | elicitation _ => .elicitation
  | authentication _ => .authentication

/-- `safeLateSettlement` -/
def safeLate : InteractionResponse → Bool
  | permission .deny | elicitation none | authentication true => true
  | _ => false

end InteractionResponse

/-- `interactionSettlementSchema` -/
structure InteractionSettlement where
  identity : LeaseIdentity
  acpSessionId : OpaqueId
  actionId : OpaqueId
  response : InteractionResponse
deriving DecidableEq

inductive HostMailboxCommand where
  | executeBlock (command : ExecuteBlockCommand)
  | cancelExecution (identity : LeaseIdentity) (reason : String)
  | resumeExecution (identity : LeaseIdentity) (leaseExpiresAt : Timestamp) (priorRecovery : AcpRecoveryIdentity)
  | interaction (settlement : InteractionSettlement)
deriving DecidableEq

namespace HostMailboxCommand

def identity : HostMailboxCommand → LeaseIdentity
  | executeBlock command => command.identity
  | cancelExecution identity _ | resumeExecution identity _ _ => identity
  | interaction settlement => settlement.identity

/-- The decision of an old permission command, which no current delivery carries. -/
def historical : HostMailboxCommand → Bool
  | interaction settlement => settlement.response = .permission .allowOnce
  | _ => false

end HostMailboxCommand

def cancellationForMailboxCommand : HostMailboxCommand → Option (LeaseIdentity × String)
  | .cancelExecution identity reason => some (identity, reason)
  | .interaction settlement =>
    if settlement.response = .permission .allowOnce then
      some (settlement.identity, "Historical permission decision cannot authorize execution.")
    else none
  | _ => none

structure InboxRow where
  sequence : Nat
  previousSequence : Nat
  messageId : String
  command : HostMailboxCommand
  acknowledged : Bool
  processed : Bool

inductive CancellationIntent where
  | cancelled (reason : String) (commandSequence : Nat)
  | authenticationCancelled (actionId : OpaqueId)
deriving DecidableEq

inductive RecoveryIntent where
  | resumeSameSession (leaseId : OpaqueId) (leaseExpiresAt : Timestamp) (priorLeaseId : OpaqueId)
      (priorRecovery : AcpRecoveryIdentity)
  | sessionLoadFailed (leaseId : OpaqueId) (priorRecovery : AcpRecoveryIdentity)
  | leaseLost (priorIntent : Option RecoveryIntent)

inductive DispatchOutcome where
  | result (result : ExecutionResult)
  | failure (failure : NormalizedFailure)
deriving DecidableEq

inductive TerminalKind where
  | completed | failed | cancelled
deriving DecidableEq

def TerminalKind.status : TerminalKind → AgentHostExecutionStatus
  | completed => .completed
  | failed => .failed
  | cancelled => .cancelled

structure ExecutionTerminal where
  kind : TerminalKind
  payload : DispatchOutcome
  eventMessageId : String

/-- A row of `agent_host_executions` with its command of `agent_host_inbox`; the columns that are copied from the
command are read from it. -/
structure ExecutionRow where
  sequence : Nat
  command : ExecuteBlockCommand
  leaseId : OpaqueId
  leaseExpiresAt : Timestamp
  status : AgentHostExecutionStatus
  acpSessionId : Option String
  capabilitySnapshot : Option AcpCapabilitySnapshot
  recoveryId : Option String
  eventProtocolVersion : Option Nat
  eventCursor : Nat
  actionCursor : Nat
  cancellationIntent : Option CancellationIntent
  recoveryIntent : Option RecoveryIntent
  terminal : Option ExecutionTerminal
  terminalAcknowledgedAt : Option Timestamp

namespace ExecutionRow

def identity (row : ExecutionRow) : LeaseIdentity := { row.command.identity with leaseId := row.leaseId }

def attempt (row : ExecutionRow) : OpaqueId × OpaqueId :=
  (row.command.identity.dispatchId, row.command.identity.executionAttemptId)

end ExecutionRow

def LeaseIdentity.attempt (identity : LeaseIdentity) : OpaqueId × OpaqueId :=
  (identity.dispatchId, identity.executionAttemptId)

structure ActionRow where
  executionSequence : Nat
  leaseId : OpaqueId
  sessionId : String
  actionId : String
  kind : InteractionActionKind
  deadline : Timestamp
  request : InteractionRequest
  response : Option InteractionSettlement

def ActionRow.key (row : ActionRow) : Nat × String × String := (row.executionSequence, row.sessionId, row.actionId)

namespace RemoteExecutionRecord

/-- `record_kind` -/
def kind (record : RemoteExecutionRecord) : String :=
  match record.body with
  | .engineEvent _ => "engine_event"
  | .permissionRequest .. => "permission_request"
  | .elicitationRequest .. => "elicitation_request"

/-- `recordId`: the sequence of an engine event, or the id of a request. -/
def id (record : RemoteExecutionRecord) : Nat ⊕ String :=
  match record.body with
  | .engineEvent event => .inl event.sequence
  | .permissionRequest request _ | .elicitationRequest request _ => .inr request.requestId

end RemoteExecutionRecord

/-- A row of `agent_host_remote_execution_outbox` under its storage sequence. -/
structure RecordRow where
  sequence : Nat
  record : RemoteExecutionRecord

def RecordRow.key (row : RecordRow) : LeaseIdentity × String × (Nat ⊕ String) :=
  (row.record.identity, row.record.kind, row.record.id)

structure TerminalReceipt where
  inbox : InboxRow
  execution : ExecutionRow
  compactedAt : Timestamp

def TerminalReceipt.attempt (receipt : TerminalReceipt) : OpaqueId × OpaqueId := receipt.execution.attempt

structure MailboxReceipt where
  inbox : InboxRow
  compactedAt : Timestamp

def MailboxReceipt.sequence (receipt : MailboxReceipt) : Nat := receipt.inbox.sequence

/-- The limits of the Host, the lengths of the texts it stores, and the schemas that are not looked into. -/
structure AgentHostLimits extends OutboxLimits where
  maxPendingCommands : Nat
  maxCapabilitiesBytes : Nat
  maxActionsPerExecution : Nat
  maxRemoteRecordsPerExecution : Nat
  maxRemoteRecordBytes : Nat
  capabilitiesBytes : AcpCapabilitySnapshot → Nat
  recordBytes : RemoteExecutionRecord → Nat
  fragmentSchema : RunnerEventFragment → Bool
  /-- What `remoteRunnerEventBatchV2Schema` asks of the event in a message, beside its session and its cursors. -/
  eventSchema : AcpEventsMessage → Bool
  recoveryId : OpaqueId → OpaqueId → String → OpaqueId

/-- The database of `AgentHostState` with the settings that its parts hold; `drawnIds` counts what `randomUUID` made. -/
structure AgentHostState where
  inbox : Table InboxRow.sequence
  receivedHighWater : Nat
  acknowledgedHighWater : Nat
  executions : Table ExecutionRow.sequence
  actions : Table ActionRow.key
  records : Table RecordRow.key
  lastRecordSequence : Nat
  outbox : EventOutbox
  terminalReceipts : Table TerminalReceipt.attempt
  mailboxReceipts : Table MailboxReceipt.sequence
  eventProtocolVersion : Option Nat
  drawnIds : Nat

def AgentHostState.initial (maxPayloadBytes : Nat) : AgentHostState where
  inbox := .empty
  receivedHighWater := 0
  acknowledgedHighWater := 0
  executions := .empty
  actions := .empty
  records := .empty
  lastRecordSequence := 0
  outbox := ⟨.empty, maxPayloadBytes⟩
  terminalReceipts := .empty
  mailboxReceipts := .empty
  eventProtocolVersion := none
  drawnIds := 0

end PlanWeave
