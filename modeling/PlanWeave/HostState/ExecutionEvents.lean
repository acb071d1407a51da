import PlanWeave.Remote.Dispatches

namespace PlanWeave

inductive AgentHostExecutionStatus where
  | accepted | preparing | running | interactionWait | interrupted | completed | failed | cancelled
deriving DecidableEq

namespace AgentHostExecutionStatus

def terminal : AgentHostExecutionStatus → Bool
  | completed | failed | cancelled => true
  | _ => false

def leased : AgentHostExecutionStatus → Bool
  | accepted | preparing | running | interactionWait => true
  | _ => false

def transitions : AgentHostExecutionStatus → List AgentHostExecutionStatus
  | accepted => [preparing, interrupted, failed, cancelled]
  | preparing => [running, interrupted, failed, cancelled]
  | running => [interactionWait, interrupted, completed, failed, cancelled]
  | interactionWait => [running, interrupted, completed, failed, cancelled]
  | interrupted => [preparing, failed, cancelled]
  | completed | failed | cancelled => []

end AgentHostExecutionStatus

/-- `dispatchResultSchema` -/
structure ExecutionResult where
  summary : String
  reportArtifactRef : String
  artifactRefs : List String
deriving DecidableEq

/-- `runnerBodyFragmentSchema`; a body whose content the wire never splits is its JSON. -/
inductive RunnerBodyFragment where
  | output (stream content redaction : String)
  | terminalOutput (terminalId content redaction : String)
  | message (role : String) (messageId : Option String) (chunk : Bool) (content redaction : String)
  | other (json : String)
deriving DecidableEq

namespace RunnerBodyFragment

/-- The content of a body that `remoteRunnerWireChunks` may split. -/
def splittable : RunnerBodyFragment → Option String
  | output _ content _ | terminalOutput _ content _ | message _ _ true content _ => some content
  | message _ _ false _ _ | other _ => none

def withContent (content : String) : RunnerBodyFragment → RunnerBodyFragment
  | output stream _ redaction => .output stream content redaction
  | terminalOutput terminalId _ redaction => .terminalOutput terminalId content redaction
  | message role messageId chunk _ redaction => .message role messageId chunk content redaction
  | other json => .other json

end RunnerBodyFragment

inductive EngineEvidenceLeaf where
  | lifecycle (state : String)
  | capabilitySnapshot (required negotiated missing : List String)
  | capabilities (json : String)
  | sessionStarted (sessionId : String) (loaded : Bool)
  | usageSnapshot (usage : String)
  | interaction (requestId interaction : String) (resolved : Bool) (outcome : Option String)
deriving DecidableEq

inductive RunnerEventFragment where
  | runnerBody (body : RunnerBodyFragment)
  | engineEvidence (evidence : EngineEvidenceLeaf)
  | engineTerminal (terminal : String)
deriving DecidableEq

structure AcpCapabilitySnapshot where
  protocolVersion : Nat
  agentInfo : Option String
  required : List String
  optional : List String
  available : List String
  negotiated : List String
  missing : List String
deriving DecidableEq

/-- What `recordSession` compares of two snapshots: the gate of the operation left out, and the members sorted. -/
def AcpCapabilitySnapshot.sameCapabilities (left right : AcpCapabilitySnapshot) : Bool :=
  left.protocolVersion = right.protocolVersion && left.agentInfo = right.agentInfo &&
    left.available.isPerm right.available && left.negotiated.isPerm right.negotiated && left.missing.isPerm right.missing

inductive RemoteEngineEventBody where
  | lifecycle (state : String)
  | capabilitySnapshot (snapshot : AcpCapabilitySnapshot)
  | capabilities (json : String)
  | sessionStarted (sessionId : String) (loaded : Bool)
  | sessionUpdate (sessionId : String) (body : RunnerBodyFragment)
  | usage (usage : String)
  | interaction (requestId interaction : String) (resolved : Bool) (outcome : Option String)
  | terminal (terminal : String)
deriving DecidableEq

structure RemoteEngineEvent where
  sequence : Nat
  timestamp : String
  body : RemoteEngineEventBody
deriving DecidableEq

def remoteAcpEngineFragment (event : RemoteEngineEvent) : RunnerEventFragment :=
  match event.body with
  | .sessionUpdate _ body => .runnerBody body
  | .terminal terminal => .engineTerminal terminal
  | .usage usage => .engineEvidence (.usageSnapshot usage)
  | .capabilitySnapshot snapshot =>
    .engineEvidence (.capabilitySnapshot snapshot.required snapshot.negotiated snapshot.missing)
  | .capabilities json => .engineEvidence (.capabilities json)
  | .sessionStarted sessionId loaded => .engineEvidence (.sessionStarted sessionId loaded)
  | .interaction requestId interaction resolved outcome =>
    .engineEvidence (.interaction requestId interaction resolved outcome)
  | .lifecycle state => .engineEvidence (.lifecycle state)

/-- A request for an answer; `content` is the JSON of its options or of its schema. -/
structure InteractionRequest where
  requestId : String
  sessionId : Option String
  text : String
  content : String
deriving DecidableEq

inductive InteractionActionKind where
  | permission | elicitation | authentication
deriving DecidableEq

inductive RemoteExecutionRecordBody where
  | engineEvent (event : RemoteEngineEvent)
  | permissionRequest (request : InteractionRequest) (deadline : Timestamp)
  | elicitationRequest (request : InteractionRequest) (deadline : Timestamp)
deriving DecidableEq

structure RemoteExecutionRecord where
  identity : LeaseIdentity
  body : RemoteExecutionRecordBody
deriving DecidableEq

/-- An `acp.events` message of protocol version 2; it carries one event, at `cursor`. -/
structure AcpEventsMessage where
  identity : LeaseIdentity
  acpSessionId : String
  afterCursor : Nat
  cursor : Nat
  sourceSequence : Nat
  timestamp : String
  fragment : RunnerEventFragment
deriving DecidableEq

inductive ExecutionHostEvent where
  | mailboxAck (sequence : Nat)
  | dispatchAccepted (identity : LeaseIdentity)
  /-- The interruption is resumable exactly when it names a recovery identity. -/
  | dispatchInterrupted (identity : LeaseIdentity) (reason : InterruptionReason) (recovery : Option AcpRecoveryIdentity)
  | dispatchCompleted (identity : LeaseIdentity) (result : ExecutionResult)
  | dispatchFailed (identity : LeaseIdentity) (failure : NormalizedFailure)
  | acpEvents (message : AcpEventsMessage)
  /-- The title, the text and the options are made from the request. -/
  | interactionRequested (kind : InteractionActionKind) (identity : LeaseIdentity) (acpSessionId : String)
      (actionId : OpaqueId) (expiresAt : Timestamp) (request : InteractionRequest)
deriving DecidableEq

end PlanWeave
