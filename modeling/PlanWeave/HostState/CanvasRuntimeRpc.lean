import PlanWeave.HostState.EventOutbox

namespace PlanWeave

structure CanvasRuntimeLogicalScope where
  workspaceId : OpaqueId
  projectId : OpaqueId
  canvasId : OpaqueId
deriving DecidableEq

/-- A `reset` operation; the schema makes its evidence and its input name the same revision and graph. -/
structure CanvasRuntimeReset where
  runtimeLeaseId : OpaqueId
  operationId : OpaqueId
  sourceRevision : String
  graphFingerprint : String
  reason : Option String
deriving DecidableEq

/-- A request or a cancel; `content` is what only its digest looks at. -/
structure CanvasRuntimeCommand where
  requestId : OpaqueId
  scope : CanvasRuntimeLogicalScope
  reset : Option CanvasRuntimeReset
  content : Json

def CanvasRuntimeCommand.digest (command : CanvasRuntimeCommand) :
    OpaqueId × CanvasRuntimeLogicalScope × Option CanvasRuntimeReset × List String :=
  (command.requestId, command.scope, command.reset, command.content.canonicalize)

/-- What the digest of a reset operation hashes: its evidence and its input, but not its lease. -/
def CanvasRuntimeCommand.operationDigest (command : CanvasRuntimeCommand) :
    Option (CanvasRuntimeLogicalScope × OpaqueId × String × String × Option String) :=
  command.reset.map fun reset =>
    (command.scope, reset.operationId, reset.sourceRevision, reset.graphFingerprint, reset.reason)

inductive CanvasRuntimeReceiptStatus where
  | pending | running | terminal | reconcileRequired
deriving DecidableEq

/-- `canvasRuntimeResetStatusResultSchema` by the form `J` of the status in it. -/
inductive CanvasRuntimeResetResolution (J : Type) where
  | notFound
  | pending
  | succeeded (operationId : OpaqueId) (sourceRevision graphFingerprint : String) (status : J)
  | failed (code : String) (retryable : Bool) (reconcileRequired : Option Bool)
deriving DecidableEq

namespace CanvasRuntimeResetResolution

def map {J K : Type} (f : J → K) : CanvasRuntimeResetResolution J → CanvasRuntimeResetResolution K
  | notFound => .notFound
  | pending => .pending
  | succeeded operationId sourceRevision graphFingerprint status =>
    .succeeded operationId sourceRevision graphFingerprint (f status)
  | failed code retryable reconcileRequired => .failed code retryable reconcileRequired

def terminal {J : Type} : CanvasRuntimeResetResolution J → Bool
  | notFound | pending => false
  | succeeded .. | failed .. => true

def resolves {J : Type} (operationId : OpaqueId) (reset : CanvasRuntimeReset) : CanvasRuntimeResetResolution J → Bool
  | succeeded resolved sourceRevision graphFingerprint _ =>
    resolved = operationId && sourceRevision = reset.sourceRevision && graphFingerprint = reset.graphFingerprint
  | _ => true

end CanvasRuntimeResetResolution

/-- A row of `canvas_runtime_rpc_receipts`. The response and the resolution are what their stored canonical texts parse
to. -/
structure CanvasRuntimeReceipt where
  requestId : OpaqueId
  inboxSequence : Nat
  command : CanvasRuntimeCommand
  status : CanvasRuntimeReceiptStatus
  response : Option QueuedHostEvent
  resetResolution : Option (CanvasRuntimeResetResolution Json)
  protocolArchiveReason : Option String

def CanvasRuntimeReceipt.operationId (receipt : CanvasRuntimeReceipt) : Option OpaqueId :=
  receipt.command.reset.map (·.operationId)

/-- `CanvasRuntimeRpcRepository` with its tables; `processed` holds the inbox sequences marked as processed. -/
structure CanvasRuntimeRpc where
  receipts : Table CanvasRuntimeReceipt.requestId
  outbox : EventOutbox
  processed : List Nat

def CanvasRuntimeRpc.initial (maxPayloadBytes : Nat) : CanvasRuntimeRpc := ⟨.empty, ⟨.empty, maxPayloadBytes⟩, []⟩

inductive CanvasRuntimeReceiptAcceptance where
  | accepted (command : CanvasRuntimeCommand)
  | inFlight
  | replay (response : CanvasRuntimeResponse Json)

namespace CanvasRuntimeRpc
variable (limits : OutboxLimits)

def resetReceipt (rpc : CanvasRuntimeRpc) (scope : CanvasRuntimeLogicalScope) (operationId : OpaqueId) :
    Option CanvasRuntimeReceipt :=
  rpc.receipts.rows.find? fun receipt => receipt.command.scope = scope ∧ receipt.operationId = some operationId

def checkReset (rpc : CanvasRuntimeRpc) (command : CanvasRuntimeCommand) : Except HostStateError Unit :=
  match command.reset with
  | none => .ok ()
  | some reset =>
    match rpc.resetReceipt command.scope reset.operationId with
    | none => .ok ()
    | some prior =>
      if prior.command.operationDigest ≠ command.operationDigest then
        .error .canvasRuntimeResetOperationIdentityConflict
      else .error .canvasRuntimeResetOperationAlreadyRecorded

def accept (rpc : CanvasRuntimeRpc) (command : CanvasRuntimeCommand) (inboxSequence : Nat) :
    Except HostStateError (CanvasRuntimeRpc × CanvasRuntimeReceiptAcceptance) :=
  match rpc.receipts.find command.requestId with
  | some existing =>
    match existing.protocolArchiveReason with
    | some reason => .error (.protocolArchived reason)
    | none =>
      if existing.command.digest ≠ command.digest then .error .canvasRuntimeRequestIdentityConflict
      else
        match existing.response with
        | none => .ok (rpc, .inFlight)
        | some event =>
          match event.payload with
          | .canvasRuntimeResponse response => do
            let (outbox, _) ← rpc.outbox.queue limits (.canvasRuntimeResponse command.requestId) event
            return ({ rpc with outbox := outbox }, .replay response)
          | _ => .error .canvasRuntimeReceiptResponseInvalid
  | none => do
    rpc.checkReset command
    if rpc.receipts.rows.any fun receipt => receipt.inboxSequence = inboxSequence then .error .uniqueConstraintFailed
    else
      let receipt := ⟨command.requestId, inboxSequence, command, .pending, none, none, none⟩
      return ({ rpc with receipts := rpc.receipts.put receipt }, .accepted command)

/-- `UPDATE … SET status='running'`, with whether it changed the row. -/
def begin (rpc : CanvasRuntimeRpc) (requestId : OpaqueId) : CanvasRuntimeRpc × Bool :=
  match rpc.receipts.find requestId with
  | none => (rpc, false)
  | some receipt =>
    if receipt.status = .pending ∧ receipt.response.isNone then
      ({ rpc with receipts := rpc.receipts.put { receipt with status := .running } }, true)
    else (rpc, false)

def readsOnly (operation : String) : Bool := operation = "status" || operation = "inspect" || operation = "query"

def oversized (response : CanvasRuntimeResponse Json) (reconcileRequired : Bool) : CanvasRuntimeResponse Json where
  requestId := response.requestId
  operation := response.operation
  outcome := .error "agent_host_outbound_payload_too_large"
    "The Canvas Runtime response exceeds the negotiated Host event payload budget." false
    (if reconcileRequired then some true else none)

def responseEvent (outbox : EventOutbox) (response : CanvasRuntimeResponse Json) (reconcileRequired : Bool)
    (messageId replacementId : String) : QueuedHostEvent × Bool :=
  match outbox.encode limits ⟨messageId, .canvasRuntimeResponse response⟩ with
  | .ok _ => (⟨messageId, .canvasRuntimeResponse response⟩, reconcileRequired)
  | .error _ =>
    let reconcileRequired := reconcileRequired || !readsOnly response.operation
    (⟨replacementId, .canvasRuntimeResponse (oversized response reconcileRequired)⟩, reconcileRequired)

/-- The event as it is read back from `response_json`. -/
def stored (event : QueuedHostEvent) : QueuedHostEvent :=
  match event.payload with
  | .canvasRuntimeResponse response => { event with payload := .canvasRuntimeResponse response.reparsed }
  | _ => event

/-- `reconcileRequired` tells the status `reconcile_required` from `terminal`; the ids are the two that `randomUUID`
makes. -/
def complete (rpc : CanvasRuntimeRpc) (requestId : OpaqueId) (response : CanvasRuntimeResponse Json)
    (reconcileRequired : Bool) (messageId replacementId : String) :
    Except HostStateError (CanvasRuntimeRpc × QueuedHostEvent) :=
  if response.requestId ≠ requestId then .error .canvasRuntimeResponseIdentityMismatch
  else
    match rpc.receipts.find requestId with
    | none => .error .canvasRuntimeReceiptNotFound
    | some existing =>
      match existing.protocolArchiveReason, existing.response with
      | some reason, _ => .error (.protocolArchived reason)
      | none, some event =>
        match event.payload with
        | .canvasRuntimeResponse known =>
          if known.digest ≠ response.digest then .error .canvasRuntimeResponseIdentityConflict
          else do
            let (outbox, queued) ← rpc.outbox.queue limits (.canvasRuntimeResponse requestId) event
            return ({ rpc with outbox := outbox }, queued)
        | _ => .error .canvasRuntimeReceiptResponseInvalid
      | none, none => do
        let (event, reconcile) := responseEvent limits rpc.outbox response reconcileRequired messageId replacementId
        let status := if reconcile then .reconcileRequired else .terminal
        let (outbox, queued) ← rpc.outbox.queue limits (.canvasRuntimeResponse requestId) event
        return ({ receipts := rpc.receipts.put { existing with status := status, response := some (stored event) }
                  outbox := outbox, processed := rpc.processed ++ [existing.inboxSequence] }, queued)

def resolveReset (rpc : CanvasRuntimeRpc) (scope : CanvasRuntimeLogicalScope) (operationId : OpaqueId)
    (resolution : CanvasRuntimeResetResolution Json) :
    Except HostStateError (CanvasRuntimeRpc × CanvasRuntimeResetResolution Json) :=
  if !resolution.terminal then .error .canvasRuntimeResetResolutionNotTerminal
  else
    match rpc.resetReceipt scope operationId with
    | none => .error .canvasRuntimeResetReceiptNotFound
    | some receipt =>
      if !receipt.command.reset.all fun reset => resolution.resolves operationId reset then
        .error .canvasRuntimeResetResolutionIdentityMismatch
      else
        match receipt.resetResolution with
        | some known =>
          if known.map Json.canonicalize ≠ resolution.map Json.canonicalize then
            .error .canvasRuntimeResetResolutionConflict
          else .ok (rpc, known)
        | none =>
          .ok ({ rpc with receipts := rpc.receipts.put { receipt with
            resetResolution := some (resolution.map Json.reparsed) } }, resolution)

def incomplete (rpc : CanvasRuntimeRpc) : List (CanvasRuntimeCommand × CanvasRuntimeReceiptStatus) :=
  (rpc.receipts.rows.filter fun receipt => receipt.response.isNone ∧ receipt.protocolArchiveReason = none).map fun receipt =>
    (receipt.command, receipt.status)

end CanvasRuntimeRpc
end PlanWeave
