import PlanWeave.HostState.ExecutionRepository

namespace PlanWeave

namespace RunnerEventFragment

/-- `split`: the characters as one fragment if it fits, and else their halves, each counted behind the chunks before. -/
def split (fits : RunnerEventFragment → Nat → Bool) (body : RunnerBodyFragment) (characters : List Char) (count : Nat) :
    Except HostStateError (List RunnerEventFragment) :=
  let candidate := runnerBody (body.withContent (String.ofList characters))
  if fits candidate count then .ok [candidate]
  else if _single : characters.length ≤ 1 then .error .outboundPayloadTooLarge
  else do
    let middle := characters.length / 2
    let left ← split fits body (characters.take middle) count
    let right ← split fits body (characters.drop middle) (count + left.length)
    return left ++ right
termination_by characters.length
decreasing_by
  · rw [List.length_take]
    omega
  · rw [List.length_drop]
    omega

def wireChunks (schema : RunnerEventFragment → Bool) (fits : RunnerEventFragment → Nat → Bool)
    (fragment : RunnerEventFragment) : Except HostStateError (List RunnerEventFragment) :=
  if !schema fragment then .error .schemaRejected
  else if fits fragment 0 then .ok [fragment]
  else
    match fragment with
    | runnerBody body =>
      match body.splittable with
      | none => .error .outboundPayloadTooLarge
      | some content =>
        let characters := content.toList
        let middle := characters.length / 2
        if middle = 0 then .error .outboundPayloadTooLarge
        else do
          let left ← split fits body (characters.take middle) 0
          let right ← split fits body (characters.drop middle) left.length
          return left ++ right
    | _ => .error .outboundPayloadTooLarge

end RunnerEventFragment

namespace AgentHostState
variable (limits : AgentHostLimits)

section Records

/-- `insertRecord` with an authoritative execution; whether the record is new. -/
def insertRecord (state : AgentHostState) (record : RemoteExecutionRecord) :
    Except HostStateError (AgentHostState × Bool) :=
  if limits.maxRemoteRecordBytes < limits.recordBytes record then .error .remoteExecutionRecordTooLarge
  else
    match state.findByAttempt record.identity.attempt with
    | none => .error .remoteExecutionNotAuthoritative
    | some execution =>
      if execution.leaseId ≠ record.identity.leaseId then .error .remoteExecutionStaleLease
      else
        match state.records.find (record.identity, record.kind, record.id) with
        | some existing =>
          if existing.record ≠ record then .error .remoteExecutionOutboxConflict else .ok (state, false)
        | none =>
          if limits.maxRemoteRecordsPerExecution ≤
              state.records.count (fun row => row.record.identity = record.identity) then
            .error .remoteExecutionRecordRetentionLimitExceeded
          else
            let sequence := state.lastRecordSequence + 1
            .ok ({ state with records := state.records.put ⟨sequence, record⟩, lastRecordSequence := sequence }, true)

def storageSequence (state : AgentHostState) (identity : LeaseIdentity) (sourceSequence : Nat) :
    Except HostStateError Nat :=
  match state.records.find (identity, "engine_event", .inl sourceSequence) with
  | some row => .ok row.sequence
  | none => .error .remoteExecutionRelayCheckpointMissing

def upperStorageSequence (state : AgentHostState) (identity : LeaseIdentity) : Nat :=
  ((state.records.rows.filter fun row => row.record.identity = identity).map (·.sequence)).max?.getD 0

/-- The engine events of an identity behind `afterSequence`, through `throughSequence`, oldest first. -/
def engineRecordsBetween (state : AgentHostState) (identity : LeaseIdentity) (afterSequence throughSequence limit : Nat) :
    List (Nat × RemoteEngineEvent) :=
  (((state.records.rows.insertionSort fun left right => left.sequence ≤ right.sequence).filterMap fun row =>
    match row.record.body with
    | .engineEvent event =>
      if row.record.identity = identity ∧ afterSequence < row.sequence ∧ row.sequence ≤ throughSequence then
        some (row.sequence, event)
      else none
    | _ => none).take limit)

def capabilitySnapshot (state : AgentHostState) (identity : LeaseIdentity) : Option AcpCapabilitySnapshot :=
  ((state.records.rows.insertionSort fun left right => left.sequence ≤ right.sequence).filterMap fun row =>
    match row.record.body with
    | .engineEvent ⟨_, _, .capabilitySnapshot snapshot⟩ => if row.record.identity = identity then some snapshot else none
    | _ => none).head?

end Records

section Relay

def messageId (drawn : Nat) : String := toString drawn

def queue (state : AgentHostState) (eventKey : String) (event : ExecutionHostEvent) :
    Except HostStateError (AgentHostState × QueuedHostEvent) := do
  let (outbox, queued) ←
    state.outbox.queue limits.toOutboxLimits (.other eventKey) ⟨messageId state.drawnIds, .execution event⟩
  return ({ state with outbox := outbox, drawnIds := state.drawnIds + 1 }, queued)

def acpEventsKey (attempt : OpaqueId × OpaqueId) (cursor : Nat) : String :=
  s!"acp.events.v2:{attempt.1.text}:{attempt.2.text}:{cursor}"

/-- `remoteEngineCheckpoint`: the identity and the source of the message at the cursor. -/
def remoteEngineCheckpoint (state : AgentHostState) (identity : LeaseIdentity) (cursor : Nat) :
    Except HostStateError (Option (LeaseIdentity × Nat)) :=
  if cursor = 0 then .ok none
  else
    match state.outbox.rows.find (.other (acpEventsKey identity.attempt cursor)) with
    | none => .error .remoteExecutionRelayCheckpointMissing
    | some row =>
      match row.event.payload with
      | .execution (.acpEvents message) =>
        if message.identity.attempt ≠ identity.attempt ∨ message.cursor ≠ cursor then
          .error .remoteExecutionRelayCheckpointConflict
        else .ok (some (message.identity, message.sourceSequence))
      | _ => .error .remoteExecutionRelayCheckpointConflict

/-- `createEvent` of the chunk at `index`. -/
def acpEventsMessage (identity : LeaseIdentity) (acpSessionId : String) (eventCursor : Nat) (event : RemoteEngineEvent)
    (fragment : RunnerEventFragment) (index : Nat) : AcpEventsMessage where
  identity := identity
  acpSessionId := acpSessionId
  afterCursor := eventCursor + index
  cursor := eventCursor + index + 1
  sourceSequence := event.sequence
  timestamp := event.timestamp
  fragment := fragment

def messageFits (state : AgentHostState) (message : AcpEventsMessage) : Bool :=
  opaqueIdentifierSchema message.acpSessionId && limits.eventSchema message &&
    (state.outbox.encode limits.toOutboxLimits ⟨messageId state.drawnIds, .execution (.acpEvents message)⟩).isOk

def relayChunk (sequence : Nat) (state : AgentHostState) (message : AcpEventsMessage) :
    Except HostStateError AgentHostState := do
  let (state, _) ← state.queue limits (acpEventsKey message.identity.attempt message.cursor) (.acpEvents message)
  state.advanceEventCursor sequence message.afterCursor message.cursor

def relayMessages (state : AgentHostState) (identity : LeaseIdentity) (acpSessionId : String) (eventCursor : Nat)
    (event : RemoteEngineEvent) : Except HostStateError (List AcpEventsMessage) := do
  let message := acpEventsMessage identity acpSessionId eventCursor event
  let chunks ← (remoteAcpEngineFragment event).wireChunks limits.fragmentSchema fun fragment index =>
    state.messageFits limits (message fragment index)
  return chunks.mapIdx fun index fragment => message fragment index

def relayEvent (identity : LeaseIdentity) (sequence : Nat) (state : AgentHostState) (event : RemoteEngineEvent) :
    Except HostStateError AgentHostState := do
  let current ← state.require sequence
  match current.acpSessionId with
  | none => .error .remoteExecutionSessionIdentityStale
  | some acpSessionId =>
    let messages ← state.relayMessages limits identity acpSessionId current.eventCursor event
    messages.foldlM (relayChunk limits sequence) state

def relayRounds (identity : LeaseIdentity) (sequence upperSequence : Nat) :
    Nat → Nat → AgentHostState → Except HostStateError AgentHostState
  | 0, _, state => .ok state
  | rounds + 1, afterSequence, state =>
    if afterSequence < upperSequence then
      let pending := state.engineRecordsBetween identity afterSequence upperSequence 256
      match pending.getLast? with
      | none => .ok state
      | some (lastSequence, _) => do
        let state ← (pending.map (·.2)).foldlM (relayEvent limits identity sequence) state
        relayRounds identity sequence upperSequence rounds lastSequence state
    else .ok state

/-- The storage sequence of the event that the message at the cursor carries; the relay goes on behind it. -/
def relayedSequence (state : AgentHostState) (identity : LeaseIdentity) (cursor : Nat) : Except HostStateError Nat := do
  match ← state.remoteEngineCheckpoint identity cursor with
  | none => .ok 0
  | some (source, sourceSequence) => state.storageSequence source sourceSequence

def relayV2 (state : AgentHostState) (sequence : Nat) : Except HostStateError AgentHostState := do
  let evidence ← state.require sequence
  if evidence.acpSessionId = none then return state
  else
    let (state, pinned) ← state.pinEventProtocolVersion sequence 2
    if pinned ≠ 2 then .error .executionEventProtocolVersionConflict
    else
      let identity := evidence.identity
      let afterSequence ← state.relayedSequence identity evidence.eventCursor
      state.relayRounds limits identity sequence (state.upperStorageSequence identity) (state.records.rows.length + 1)
        afterSequence

def protocolVersionFor (state : AgentHostState) (execution : ExecutionRow) : Option Nat :=
  execution.eventProtocolVersion.or state.eventProtocolVersion

/-- What `relay` does with an engine event before it relays what is pending. -/
def relayEngineEvent (state : AgentHostState) (execution : ExecutionRow) (event : RemoteEngineEvent) :
    Except HostStateError AgentHostState :=
  match event.body with
  | .sessionStarted sessionId _ =>
    match state.capabilitySnapshot execution.identity with
    | none => .error .remoteExecutionCapabilitySnapshotMissing
    | some snapshot =>
      let recoveryId := limits.recoveryId execution.attempt.1 execution.attempt.2 sessionId
      state.recordSession limits execution.sequence sessionId snapshot recoveryId.text
  | .interaction _ _ true _ =>
    if execution.status = .interactionWait then state.transition execution.sequence .running else .ok state
  | .sessionUpdate sessionId _ =>
    if execution.acpSessionId = some sessionId then .ok state else .error .remoteExecutionSessionIdentityStale
  | _ => .ok state

def awaitAnswer (state : AgentHostState) (execution : ExecutionRow) : Except HostStateError AgentHostState :=
  if execution.status = .running then state.transition execution.sequence .interactionWait else .ok state

def relayRequest (state : AgentHostState) (execution : ExecutionRow) (kind : InteractionActionKind)
    (request : InteractionRequest) (deadline : Timestamp) : Except HostStateError AgentHostState :=
  match request.sessionId.filter (· ≠ "") with
  | none => .error .remoteInteractionSessionRequired
  | some sessionId =>
    if execution.acpSessionId ≠ some sessionId then .error .remoteInteractionSessionIdentityStale
    else do
      let (state, _) ←
        state.recordAction limits execution.sequence execution.leaseId sessionId request.requestId kind deadline request
      let state ← state.awaitAnswer execution
      if valid : opaqueIdentifierSchema request.requestId = true then
        let type := if kind = .permission then "interaction.permission_requested" else "interaction.elicitation_requested"
        let attempt := execution.attempt
        let event := .interactionRequested kind execution.identity sessionId ⟨request.requestId, valid⟩ deadline request
        let (state, _) ←
          state.queue limits s!"{type}:{attempt.1.text}:{attempt.2.text}:{request.requestId}" event
        return state
      else .error .schemaRejected

def relay (state : AgentHostState) (record : RemoteExecutionRecord) : Except HostStateError AgentHostState :=
  match state.findByIdentity record.identity with
  | none => .error .remoteExecutionIdentityNotFound
  | some execution =>
    match record.body with
    | .engineEvent event =>
      if state.protocolVersionFor execution ≠ some 2 then .error .remoteRunnerEventV2Required
      else do
        let state ← state.relayEngineEvent limits execution event
        state.relayV2 limits execution.sequence
    | .permissionRequest request deadline => state.relayRequest limits execution .permission request deadline
    | .elicitationRequest request deadline => state.relayRequest limits execution .elicitation request deadline

def append (state : AgentHostState) (record : RemoteExecutionRecord) : Except HostStateError AgentHostState := do
  let (state, stored) ← state.insertRecord limits record
  if stored then state.relay limits record else return state

end Relay
end AgentHostState
end PlanWeave
