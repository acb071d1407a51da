import PlanWeave.HostState.ExecutionEvents
import PlanWeave.Lib.Json

namespace PlanWeave

/-- The outcome of a Canvas Runtime response by the form `J` of its free JSON. -/
inductive CanvasRuntimeOutcome (J : Type) where
  /-- The fields that the schema of the result names, in its order, and the JSON value that it leaves free. -/
  | success (fields : List (String × String)) (json : Option J)
  | error (code message : String) (retryable : Bool) (reconcileRequired : Option Bool)
deriving DecidableEq

structure CanvasRuntimeResponse (J : Type) where
  requestId : OpaqueId
  operation : String
  outcome : CanvasRuntimeOutcome J
deriving DecidableEq

namespace CanvasRuntimeResponse
variable {J K : Type}

def map (f : J → K) (response : CanvasRuntimeResponse J) : CanvasRuntimeResponse K where
  requestId := response.requestId
  operation := response.operation
  outcome :=
    match response.outcome with
    | .success fields json => .success fields (json.map f)
    | .error code message retryable reconcileRequired => .error code message retryable reconcileRequired

def digest (response : CanvasRuntimeResponse Json) : CanvasRuntimeResponse (List String) := response.map Json.canonicalize

def reparsed (response : CanvasRuntimeResponse Json) : CanvasRuntimeResponse Json := response.map Json.reparsed

end CanvasRuntimeResponse

/-- The payload of a Host event; only heartbeats and the events of executions and of the Canvas Runtime are looked into. -/
inductive HostEventPayload (J : Type) where
  | canvasRuntimeResponse (response : CanvasRuntimeResponse J)
  | execution (event : ExecutionHostEvent)
  /-- The active leases, and the JSON of the readiness. -/
  | heartbeat (activeLeases : List LeaseIdentity) (readiness : Option String)
  | other (json : String)
deriving DecidableEq

structure QueuedHostEvent where
  messageId : String
  payload : HostEventPayload Json

namespace QueuedHostEvent

/-- `JSON.stringify` of the payload without its message id. -/
def text (event : QueuedHostEvent) : HostEventPayload (List String) :=
  match event.payload with
  | .canvasRuntimeResponse response => .canvasRuntimeResponse (response.map Json.stringify)
  | .execution event => .execution event
  | .heartbeat activeLeases readiness => .heartbeat activeLeases readiness
  | .other json => .other json

def sameEventPayload (left right : QueuedHostEvent) : Bool := left.text = right.text

theorem sameEventPayload_refl (event : QueuedHostEvent) : event.sameEventPayload event = true := decide_eq_true rfl

end QueuedHostEvent

inductive HostEventKey where
  /-- `canvas-runtime.response:${requestId}` -/
  | canvasRuntimeResponse (requestId : OpaqueId)
  | other (key : String)
deriving DecidableEq

structure OutboxRow where
  eventKey : HostEventKey
  event : QueuedHostEvent
  acknowledged : Bool

inductive HostStateError where
  | outboundPayloadTooLarge
  | hostEventIdentityConflict
  | pendingEventCapacityExceeded
  | uniqueConstraintFailed
  | protocolArchived (reason : String)
  | canvasRuntimeRequestIdentityConflict
  | canvasRuntimeResetOperationIdentityConflict
  | canvasRuntimeResetOperationAlreadyRecorded
  | canvasRuntimeResponseIdentityMismatch
  | canvasRuntimeReceiptNotFound
  | canvasRuntimeReceiptResponseInvalid
  | canvasRuntimeResponseIdentityConflict
  | canvasRuntimeResetResolutionNotTerminal
  | canvasRuntimeResetReceiptNotFound
  | canvasRuntimeResetResolutionIdentityMismatch
  | canvasRuntimeResetResolutionConflict
  | schemaRejected
  | mailboxMessageConflict
  | mailboxMessageOutOfOrder
  | mailboxMessageRetentionHorizonExceeded
  | mailboxMessageNotFound
  | pendingCommandCapacityExceeded
  | cancelExecutionRequired
  | executionNotFound
  | executionIdentityConflict
  | executionTransitionInvalid (current next : AgentHostExecutionStatus)
  | executionSessionIdentityConflict
  | executionSessionStateInvalid
  | executionCapabilitiesTooLarge
  | executionEventCursorConflict
  | executionEventProtocolVersionConflict
  | executionActionStaleLease
  | executionActionStaleSession
  | executionActionIdentityStale
  | executionActionIdentityConflict
  | executionActionRetentionLimitExceeded
  | executionActionNotFound
  | executionActionResponseTypeMismatch
  | executionActionResponseConflict
  | executionActionExpired
  | executionCancellationIntentConflict
  | executionTerminalIdentityConflict
  | executionResumeIdentityNotFound
  | executionResumeNonResumable
  | executionResumeConflict
  | executionResumeStateInvalid
  | executionResumeRecoveryIdentityMismatch
  | executionResumeSessionLoadUnsupported
  | executionResumeFreshLeaseRequired
  | executionResumeSessionMissing
  | executionResumeFailureStateInvalid
  | executionResumeFailureRaced
  | remoteExecutionNotAuthoritative
  | remoteExecutionStaleLease
  | remoteExecutionRecordTooLarge
  | remoteExecutionOutboxConflict
  | remoteExecutionRecordRetentionLimitExceeded
  | remoteExecutionIdentityNotFound
  | remoteExecutionCapabilitySnapshotMissing
  | remoteExecutionSessionIdentityStale
  | remoteExecutionRelayCheckpointMissing
  | remoteExecutionRelayCheckpointConflict
  | remoteRunnerEventV2Required
  | remoteInteractionSessionRequired
  | remoteInteractionSessionIdentityStale
deriving DecidableEq

structure OutboxLimits where
  maxPendingEvents : Nat
  bytes : QueuedHostEvent → Nat

/-- `AgentHostEventOutbox` with its table. -/
structure EventOutbox where
  rows : Table OutboxRow.eventKey
  maxPayloadBytes : Nat

namespace EventOutbox
variable (limits : OutboxLimits)

def pendingCount (outbox : EventOutbox) : Nat := outbox.rows.count fun row => row.acknowledged = false

def encode (outbox : EventOutbox) (event : QueuedHostEvent) : Except HostStateError Unit :=
  if outbox.maxPayloadBytes < limits.bytes event then .error .outboundPayloadTooLarge else .ok ()

def queue (outbox : EventOutbox) (eventKey : HostEventKey) (event : QueuedHostEvent) :
    Except HostStateError (EventOutbox × QueuedHostEvent) := do
  outbox.encode limits event
  match outbox.rows.find eventKey with
  | some existing =>
    if existing.event.sameEventPayload event then .ok (outbox, existing.event) else .error .hostEventIdentityConflict
  | none =>
    if limits.maxPendingEvents ≤ outbox.pendingCount then .error .pendingEventCapacityExceeded
    else .ok ({ outbox with rows := outbox.rows.put ⟨eventKey, event, false⟩ }, event)

variable {limits} {outbox next : EventOutbox} {eventKey : HostEventKey} {event queued : QueuedHostEvent}

theorem queue_ok (done : outbox.queue limits eventKey event = .ok (next, queued)) :
    limits.bytes event ≤ outbox.maxPayloadBytes ∧
      ((∃ row, outbox.rows.find eventKey = some row ∧ row.event.sameEventPayload event = true ∧ next = outbox ∧
          queued = row.event) ∨
        (outbox.rows.find eventKey = none ∧ queued = event ∧
          next = { outbox with rows := outbox.rows.put ⟨eventKey, event, false⟩ })) := by
  obtain ⟨_, encoded, done⟩ := Checked.bind_ok.mp done
  have fits : limits.bytes event ≤ outbox.maxPayloadBytes := by
    unfold encode at encoded
    split at encoded
    · cases encoded
    · rename_i fits
      exact Nat.not_lt.mp fits
  refine ⟨fits, ?_⟩
  split at done
  · rename_i row found
    split at done
    · rename_i same
      cases done
      exact .inl ⟨row, found, same, rfl, rfl⟩
    · cases done
  · rename_i absent
    split at done
    · cases done
    · cases done
      exact .inr ⟨absent, rfl, rfl⟩

theorem queue_again {row : OutboxRow} (found : outbox.rows.find eventKey = some row)
    (fits : limits.bytes row.event ≤ outbox.maxPayloadBytes) :
    outbox.queue limits eventKey row.event = .ok (outbox, row.event) := by
  unfold queue encode
  rw [if_neg (Nat.not_lt.mpr fits), found]
  exact if_pos row.event.sameEventPayload_refl

def Grown (outbox later : EventOutbox) : Prop :=
  ∀ key row, outbox.rows.find key = some row → ∃ kept, later.rows.find key = some kept ∧ kept.event = row.event

theorem Grown.refl (outbox : EventOutbox) : outbox.Grown outbox := fun _ row found => ⟨row, found, rfl⟩

theorem Grown.trans {last : EventOutbox} (left : outbox.Grown next) (right : next.Grown last) : outbox.Grown last := by
  intro key row found
  obtain ⟨middle, present, same⟩ := left key row found
  obtain ⟨kept, final, equal⟩ := right key middle present
  exact ⟨kept, final, equal.trans same⟩

theorem queue_grown (done : outbox.queue limits eventKey event = .ok (next, queued)) :
    outbox.Grown next ∧ next.maxPayloadBytes = outbox.maxPayloadBytes := by
  rcases (queue_ok done).2 with ⟨_, _, _, rfl, _⟩ | ⟨absent, _, rfl⟩
  · exact ⟨.refl _, rfl⟩
  refine ⟨fun key row found => ⟨row, ?_, rfl⟩, rfl⟩
  have different : key ≠ eventKey := by
    rintro rfl
    rw [absent] at found
    cases found
  rw [← found]
  exact Table.find_put_of_ne different

def acknowledge (outbox : EventOutbox) (messageId : String) : EventOutbox :=
  { outbox with
    rows := outbox.rows.update (·.event.messageId = messageId) ({ · with acknowledged := true }) fun _ => rfl }

theorem acknowledge_grown (outbox : EventOutbox) (messageId : String) : outbox.Grown (outbox.acknowledge messageId) := by
  intro key row found
  refine ⟨_, by rw [acknowledge, Table.find_update, found]; rfl, ?_⟩
  dsimp only
  split <;> rfl

def setMaxPayloadBytes (outbox : EventOutbox) (bytes : Nat) : EventOutbox := { outbox with maxPayloadBytes := bytes }

end EventOutbox
end PlanWeave
