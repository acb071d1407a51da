import PlanWeave.HostState.RecordRelay

namespace PlanWeave

/-- A `mailbox.message`, or a `mailbox.permission_history` with the old permission command that it replays. -/
structure ReceivedMailboxEvent where
  replay : Bool
  sequence : Nat
  previousSequence : Nat
  messageId : String
  command : HostMailboxCommand
  form : command.historical = replay

inductive ExecutionSettlement where
  | applied | stale | leaseLost
deriving DecidableEq

namespace AgentHostState
variable (limits : AgentHostLimits)

section Keys

def identityKey (type : String) (identity : LeaseIdentity) : String :=
  s!"{type}:{identity.dispatchId.text}:{identity.leaseId.text}:{identity.executionAttemptId.text}"

def acceptedKey (identity : LeaseIdentity) : String := identityKey "dispatch.accepted" identity

def interruptedKey (identity : LeaseIdentity) : String := identityKey "dispatch.interrupted" identity

def completedKey (identity : LeaseIdentity) : String := identityKey "dispatch.completed" identity

def failedKey (identity : LeaseIdentity) : String := identityKey "dispatch.failed" identity

end Keys

section Settlement

def payloadTooLargeFailure : NormalizedFailure where
  code := ⟨"agent_host_outbound_payload_too_large", by decide⟩
  message := "The execution result exceeds the negotiated Host event payload budget."
  retryable := false
  sized := by decide

def leaseExpiredFailure : NormalizedFailure where
  code := ⟨"execution_lease_expired", by decide⟩
  message := "The execution lease expired before local execution started."
  retryable := false
  sized := by decide

def cancelledFailure : NormalizedFailure where
  code := ⟨"execution_cancelled", rfl⟩
  message := "The execution was cancelled by the coordinator."
  retryable := false
  sized := by decide

def interruptedCancelledFailure : NormalizedFailure where
  code := ⟨"execution_cancelled", rfl⟩
  message := "The interrupted execution was cancelled by the coordinator."
  retryable := false
  sized := by decide

def authenticationRetryFailure : NormalizedFailure where
  code := ⟨"agent_host_authentication_retry_unsupported", by decide⟩
  message := "This Agent Host cannot retry authentication for the current ACP process."
  retryable := false
  sized := by decide

def terminalEvent (identity : LeaseIdentity) : DispatchOutcome → String × ExecutionHostEvent
  | .result result => (completedKey identity, .dispatchCompleted identity result)
  | .failure failure => (failedKey identity, .dispatchFailed identity failure)

/-- What an execution ends with: an outcome beyond the payload budget is replaced by a failure. -/
def boundedOutcome (state : AgentHostState) (identity : LeaseIdentity) (kind : TerminalKind) (payload : DispatchOutcome) :
    TerminalKind × DispatchOutcome :=
  let candidate := (terminalEvent identity payload).2
  match state.outbox.encode limits.toOutboxLimits ⟨messageId state.drawnIds, .execution candidate⟩ with
  | .ok _ => (kind, payload)
  | .error _ => (if kind = .cancelled then .cancelled else .failed, .failure payloadTooLargeFailure)

def finishExecutionInCurrentTransaction (state : AgentHostState) (sequence : Nat) (kind : TerminalKind)
    (payload : DispatchOutcome) : Except HostStateError AgentHostState :=
  match state.executions.find sequence with
  | none => .error .mailboxMessageNotFound
  | some current => do
    let (kind, payload) := state.boundedOutcome limits current.identity kind payload
    let (key, event) := terminalEvent current.identity payload
    let (state, queued) ← state.queue limits key event
    state.finish sequence kind payload queued.messageId

/-- `createInterruptedEvent`; the schema of the event checks the recovery identity. -/
def createInterruptedEvent (row : ExecutionRow) (reason : InterruptionReason) (forceNonResumable : Bool) :
    Except HostStateError ExecutionHostEvent :=
  match row.acpSessionId, row.recoveryId with
  | some acpSessionId, some recoveryId =>
    if !forceNonResumable && advertisesSessionLoad row then
      if opaqueIdentifierSchema acpSessionId && opaqueIdentifierSchema recoveryId then
        .ok (.dispatchInterrupted row.identity reason (some ⟨acpSessionId, recoveryId⟩))
      else .error .schemaRejected
    else .ok (.dispatchInterrupted row.identity reason none)
  | _, _ => .ok (.dispatchInterrupted row.identity reason none)

def queueInterrupted (state : AgentHostState) (sequence : Nat) (reason : InterruptionReason) (forceNonResumable : Bool) :
    Except HostStateError AgentHostState := do
  let evidence ← state.require sequence
  let event ← createInterruptedEvent evidence reason forceNonResumable
  let (state, _) ← state.queue limits (interruptedKey evidence.identity) event
  return state

def expireExecution (state : AgentHostState) (execution : ExecutionRow) : Except HostStateError AgentHostState :=
  if execution.status ≠ .accepted then do
    let state ← state.replaceRecoveryIntent execution.sequence (.leaseLost execution.recoveryIntent)
    let state ← state.transition execution.sequence .interrupted
    state.queueInterrupted limits execution.sequence .leaseLost false
  else
    state.finishExecutionInCurrentTransaction limits execution.sequence .failed (.failure leaseExpiredFailure)

def leaseLostIntent (row : ExecutionRow) : Bool :=
  match row.recoveryIntent with
  | some (.leaseLost _) => true
  | _ => false

def executionSettlementGate (state : AgentHostState) (sequence : Nat) (expected : LeaseIdentity)
    (allowedStatuses : List AgentHostExecutionStatus) (now : Timestamp) :
    Except HostStateError (AgentHostState × ExecutionSettlement) :=
  match state.executions.find sequence with
  | none => .ok (state, .stale)
  | some current =>
    if current.identity ≠ expected then .ok (state, .stale)
    else if current.status.leased ∧ current.leaseExpiresAt ≤ now then do
      let state ← state.expireExecution limits current
      return (state, .leaseLost)
    else if current.status = .interrupted ∧ leaseLostIntent current then .ok (state, .leaseLost)
    else .ok (state, if current.status ∈ allowedStatuses then .applied else .stale)

def completeExecution (state : AgentHostState) (sequence : Nat) (expected : LeaseIdentity) (result : ExecutionResult)
    (now : Timestamp) : Except HostStateError (AgentHostState × ExecutionSettlement) := do
  let (state, settlement) ←
    state.executionSettlementGate limits sequence expected [.running, .interactionWait] now
  if settlement ≠ .applied then return (state, settlement)
  else
    let state ← state.finishExecutionInCurrentTransaction limits sequence .completed (.result result)
    return (state, .applied)

def failExecution (state : AgentHostState) (sequence : Nat) (expected : LeaseIdentity) (failure : NormalizedFailure)
    (now : Timestamp) : Except HostStateError (AgentHostState × ExecutionSettlement) := do
  let (state, settlement) ←
    state.executionSettlementGate limits sequence expected [.preparing, .running, .interactionWait] now
  if settlement ≠ .applied then return (state, settlement)
  else
    let cancelled := (state.executions.find sequence).any (·.cancellationIntent.isSome)
    let kind := if cancelled then .cancelled else .failed
    let state ← state.finishExecutionInCurrentTransaction limits sequence kind (.failure failure)
    return (state, .applied)

def failResumption (state : AgentHostState) (sequence : Nat) (expected : LeaseIdentity) (now : Timestamp) :
    Except HostStateError (AgentHostState × ExecutionSettlement) := do
  let (state, settlement) ←
    state.executionSettlementGate limits sequence expected [.running, .interactionWait] now
  if settlement ≠ .applied then return (state, settlement)
  else
    let state ← state.markResumeFailed sequence
    let state ← state.queueInterrupted limits sequence .acpSessionLost true
    return (state, .applied)

end Settlement

section Execution

def queueAccepted (state : AgentHostState) (sequence : Nat) : Except HostStateError AgentHostState := do
  let running ← state.require sequence
  let (state, _) ← state.queue limits (acceptedKey running.identity) (.dispatchAccepted running.identity)
  return state

def startExecution (state : AgentHostState) (sequence : Nat) (now : Timestamp) :
    Except HostStateError AgentHostState :=
  match state.executions.find sequence with
  | none => .error .mailboxMessageNotFound
  | some current =>
    if current.status ≠ .accepted then .ok state
    else if current.leaseExpiresAt ≤ now then state.expireExecution limits current
    else do
      let state ← state.transition sequence .preparing
      let state ← state.transition sequence .running
      state.queueAccepted limits sequence

def startResumption (state : AgentHostState) (sequence : Nat) (now : Timestamp) :
    Except HostStateError AgentHostState :=
  match state.executions.find sequence with
  | none => .error .mailboxMessageNotFound
  | some current =>
    if current.status ≠ .preparing then .ok state
    else if current.leaseExpiresAt ≤ now then state.expireExecution limits current
    else if current.acpSessionId = none then .error .executionResumeSessionMissing
    else do
      let state ← state.transition sequence .running
      state.queueAccepted limits sequence

def renewLease (state : AgentHostState) (identity : LeaseIdentity) (leaseExpiresAt now : Timestamp) : AgentHostState :=
  match state.findByIdentity identity with
  | none => state
  | some execution =>
    if !execution.status.leased ∨ execution.leaseExpiresAt ≤ now ∨ leaseExpiresAt ≤ now then state
    else state.setLeaseExpiry execution.sequence leaseExpiresAt

def abandonExpiredExecutions (state : AgentHostState) (now : Timestamp) : Except HostStateError AgentHostState :=
  ((state.list AgentHostExecutionStatus.leased).filter fun row => row.leaseExpiresAt ≤ now).foldlM (expireExecution limits)
    state

def recoverInterruptedExecutions (state : AgentHostState) : Except HostStateError AgentHostState :=
  (state.list AgentHostExecutionStatus.leased).foldlM (fun state execution => do
    let state ← state.transition execution.sequence .interrupted
    state.queueInterrupted limits execution.sequence .hostRestart false) state

def setProcessed (state : AgentHostState) (sequence : Nat) (processed : Bool) : AgentHostState :=
  match state.inbox.find sequence with
  | none => state
  | some row => { state with inbox := state.inbox.put { row with processed := processed } }

/-- `applyCancellation`; the flag is `shouldAbort`. -/
def applyCancellation (state : AgentHostState) (sequence : Nat) : Except HostStateError (AgentHostState × Bool) :=
  match state.inbox.find sequence with
  | none => .error .mailboxMessageNotFound
  | some raw =>
    match cancellationForMailboxCommand raw.command with
    | none => .error .cancelExecutionRequired
    | some (identity, reason) =>
      if raw.processed then .ok (state, false)
      else
        let active := (state.list fun status => !status.terminal).find? fun row => row.identity = identity
        let state := state.setProcessed sequence true
        match active with
        | none => .ok (state, false)
        | some execution => do
          let state ← state.setCancellationIntent execution.sequence (.cancelled reason sequence)
          match execution.status with
          | .accepted =>
            let state ← state.finishExecutionInCurrentTransaction limits execution.sequence .cancelled
              (.failure cancelledFailure)
            return (state, false)
          | .interrupted =>
            let state ← state.finishExecutionInCurrentTransaction limits execution.sequence .cancelled
              (.failure interruptedCancelledFailure)
            return (state, false)
          | _ => return (state, true)

end Execution

section Mailbox

/-- `inspectMailboxReplay`; whether the message is known from a compaction. -/
def inspectMailboxReplay (state : AgentHostState) (event : ReceivedMailboxEvent) : Except HostStateError Bool :=
  match state.mailboxReceipts.rows.find? fun receipt =>
      receipt.inbox.sequence = event.sequence ∨ receipt.inbox.messageId = event.messageId with
  | some receipt =>
    match receipt.inbox.command, event.command with
    | .executeBlock compacted, .executeBlock command =>
      if compacted.identity.attempt = command.identity.attempt ∧ compacted ≠ command then
        .error .executionIdentityConflict
      else if receipt.inbox.sequence = event.sequence ∧ receipt.inbox.previousSequence = event.previousSequence ∧
          receipt.inbox.messageId = event.messageId ∧ compacted = command then .ok true
      else .error .mailboxMessageConflict
    | compacted, command =>
      if receipt.inbox.sequence = event.sequence ∧ receipt.inbox.previousSequence = event.previousSequence ∧
          receipt.inbox.messageId = event.messageId ∧ compacted = command then .ok true
      else .error .mailboxMessageConflict
  | none =>
    if event.sequence ≤ state.receivedHighWater then .error .mailboxMessageRetentionHorizonExceeded
    else
      match state.terminalReceipts.find event.command.identity.attempt with
      | some receipt =>
        match event.command with
        | .executeBlock command =>
          if receipt.execution.command ≠ command then .error .executionIdentityConflict
          else .error .mailboxMessageConflict
        | _ => .error .mailboxMessageConflict
      | none =>
        if state.mailboxReceipts.rows.any fun receipt =>
            receipt.inbox.command.identity.attempt = event.command.identity.attempt then
          .error .mailboxMessageConflict
        else .ok false

def pendingCommandCount (state : AgentHostState) : Nat :=
  state.executions.count (fun row => row.status.terminal = false) +
    state.inbox.count fun row => row.processed = false ∧ state.executions.find row.sequence = none

def settleInteraction (state : AgentHostState) (settlement : InteractionSettlement) (settledAt : Timestamp) :
    Except HostStateError AgentHostState :=
  match state.findByIdentity settlement.identity with
  | none => .error .executionActionIdentityStale
  | some execution => do
    let retry := settlement.response = .authentication false
    let (state, _) ← state.settleAction execution.sequence settlement settledAt retry
    match settlement.response with
    | .authentication true =>
      state.setCancellationIntent execution.sequence (.authenticationCancelled settlement.actionId)
    | .authentication false =>
      let (state, queued) ← state.queue limits (failedKey settlement.identity)
        (.dispatchFailed settlement.identity authenticationRetryFailure)
      state.finish execution.sequence .failed (.failure authenticationRetryFailure) queued.messageId
    | _ => return state

def acceptCommand (state : AgentHostState) (event : ReceivedMailboxEvent) (deadlineNow : Timestamp) :
    Except HostStateError AgentHostState :=
  match event.command with
  | .executeBlock command => do
    let (state, inserted) ← state.insert event.sequence command
    return if inserted then state else state.setProcessed event.sequence true
  | .cancelExecution .. => .ok state
  | .resumeExecution identity leaseExpiresAt priorRecovery =>
    match state.findByAttempt identity.attempt with
    | none => .error .executionResumeIdentityNotFound
    | some execution => do
      let state ← state.authorizeResume execution.sequence identity.leaseId leaseExpiresAt priorRecovery
      return state.setProcessed event.sequence true
  | .interaction settlement =>
    if event.replay then .ok state
    else do
      let state ← state.settleInteraction limits settlement deadlineNow
      return state.setProcessed event.sequence true

/-- The part of `receive` before the acknowledgement; whether the message is new. -/
def storeMessage (state : AgentHostState) (event : ReceivedMailboxEvent) (deadlineNow : Timestamp) :
    Except HostStateError (AgentHostState × Bool) :=
  match state.inbox.rows.find? fun row => row.sequence = event.sequence ∨ row.messageId = event.messageId with
  | some existing =>
    if existing.sequence ≠ event.sequence ∨ existing.previousSequence ≠ event.previousSequence ∨
        existing.messageId ≠ event.messageId ∨ existing.command ≠ event.command then
      .error .mailboxMessageConflict
    else .ok (if event.replay then state.setProcessed event.sequence false else state, false)
  | none => do
    if ← state.inspectMailboxReplay event then return (state, false)
    else if event.previousSequence ≠ state.receivedHighWater then .error .mailboxMessageOutOfOrder
    else if limits.maxPendingCommands ≤ state.pendingCommandCount then .error .pendingCommandCapacityExceeded
    else
      let row : InboxRow :=
        ⟨event.sequence, event.previousSequence, event.messageId, event.command, false, false⟩
      let state := { state with inbox := state.inbox.put row, receivedHighWater := event.sequence }
      let state ← state.acceptCommand limits event deadlineNow
      return (state, true)

/-- `receive`; whether the message was stored. -/
def receive (state : AgentHostState) (event : ReceivedMailboxEvent) (deadlineNow : Timestamp) :
    Except HostStateError (AgentHostState × Bool) := do
  let (state, stored) ← state.storeMessage limits event deadlineNow
  let (state, _) ← state.queue limits s!"mailbox.ack:{event.sequence}" (.mailboxAck event.sequence)
  return (state, stored)

end Mailbox
end AgentHostState
end PlanWeave
