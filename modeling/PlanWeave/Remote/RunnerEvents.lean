import Mathlib.Algebra.GroupWithZero.Nat
import PlanWeave.Lib.CursorLog
import PlanWeave.Remote.Dispatches

namespace PlanWeave

structure EngineUsageSnapshot where
  totalTokens : Nat
  inputTokens : Nat
  outputTokens : Nat
  thoughtTokens : Option Nat
  cachedReadTokens : Option Nat
  cachedWriteTokens : Option Nat
deriving DecidableEq

namespace EngineUsageSnapshot

def numericKeys : List (EngineUsageSnapshot → Option Nat) :=
  [(some ·.totalTokens), (some ·.inputTokens), (some ·.outputTokens), thoughtTokens, cachedReadTokens,
    cachedWriteTokens]

def regresses (usage prior : EngineUsageSnapshot) : Bool :=
  numericKeys.any fun key => (key usage).any fun value => (key prior).any fun before => value < before

end EngineUsageSnapshot

/-- A fragment of a runner event; `content` is the canonical JSON of the fragments that ingestion does not look at. -/
inductive RemoteRunnerEventFragment where
  | usageSnapshot (usage : EngineUsageSnapshot)
  | diagnostic (code message : String)
  | content (canonical : String)
deriving DecidableEq

structure RemoteRunnerEvent where
  cursor : Nat
  sourceSequence : Nat
  timestamp : String
  fragment : RemoteRunnerEventFragment
deriving DecidableEq

namespace RemoteRunnerEvent

/-- What is stored in the place of a usage snapshot that regressed. -/
def usageRegressed (event : RemoteRunnerEvent) : RemoteRunnerEvent :=
  let message := "Remote cumulative usage snapshot regressed and was ignored."
  { event with fragment := .diagnostic "remote_usage_snapshot_regressed" message }

/-- The check of the batch schema: the cursors count up from `expected`. -/
def contiguousFrom : Nat → List RemoteRunnerEvent → Bool
  | _, [] => true
  | expected, event :: rest => event.cursor = expected && contiguousFrom (expected + 1) rest

theorem contiguousFrom_spans {events : List RemoteRunnerEvent} {expected : Nat} :
    contiguousFrom expected events = true ↔ CursorLog.Spans cursor expected events := by
  induction events generalizing expected with
  | nil => simp [contiguousFrom, CursorLog.Spans.nil]
  | cons _ _ ih => simp only [contiguousFrom, Bool.and_eq_true, decide_eq_true_eq, ih, CursorLog.spans_cons]

end RemoteRunnerEvent

/-- `ACP_EVENT_BATCH_MAX_COUNT`, also `REMOTE_RUNNER_EVENT_V2_MAX_COUNT` -/
def acpEventBatchMaxCount : Nat := 128

structure RemoteRunnerEventBatch where
  lease : LeaseIdentity
  acpSessionId : String
  afterCursor : Nat
  cursor : Nat
  events : List RemoteRunnerEvent
  nonempty : events ≠ []
  bounded : events.length ≤ acpEventBatchMaxCount
  contiguous : RemoteRunnerEvent.contiguousFrom (afterCursor + 1) events = true
  final : cursor = afterCursor + events.length
deriving DecidableEq

namespace RemoteRunnerEventBatch

theorem spans (batch : RemoteRunnerEventBatch) :
    CursorLog.Spans RemoteRunnerEvent.cursor (batch.afterCursor + 1) batch.events :=
  RemoteRunnerEvent.contiguousFrom_spans.mp batch.contiguous

theorem length_pos (batch : RemoteRunnerEventBatch) : 0 < batch.events.length :=
  List.length_pos_iff.mpr batch.nonempty

end RemoteRunnerEventBatch

/-- A row of `host_event_receipts`; the fingerprint hashes the payload. -/
structure HostEventReceipt where
  messageId : String
  hostId : OpaqueId
  payload : RemoteRunnerEventBatch

def HostEventReceipt.key (receipt : HostEventReceipt) : String × OpaqueId := (receipt.messageId, receipt.hostId)

structure RemoteAcpEventRow where
  event : RemoteRunnerEvent
  encodedBytes : Nat
deriving DecidableEq

def RemoteAcpEventRow.cursor (row : RemoteAcpEventRow) : Nat := row.event.cursor

/-- A row of `remote_acp_event_streams` with its rows of `remote_acp_events` by cursor. -/
structure RemoteAcpEventStream where
  executionAttemptId : OpaqueId
  operationId : OpaqueId
  dispatchId : OpaqueId
  leaseId : OpaqueId
  hostId : OpaqueId
  acpSessionId : String
  eventProtocolVersion : Nat
  latestCursor : Nat
  retainedFromCursor : Nat
  retainedCount : Nat
  retainedBytes : Nat
  droppedCount : Nat
  /-- `usage_source_sequence` and `usage_snapshot_json`, which are set together. -/
  usage : Option (Nat × EngineUsageSnapshot)
  events : List RemoteAcpEventRow
deriving DecidableEq

structure RemoteAcpEventStore where
  receipts : Table HostEventReceipt.key
  streams : Table RemoteAcpEventStream.executionAttemptId

def RemoteAcpEventStore.empty : RemoteAcpEventStore := ⟨Table.empty, Table.empty⟩

inductive RemoteAcpEventError where
  | hostEventMessageIdReused
  | streamIdentityConflict
  | cursorEvicted
  | cursorConflict
  | cursorGap
  | retentionExhausted
  | streamNotFound
  | replayCursorAhead

/-- The limits of a `RemoteAcpEventRepository` and `Buffer.byteLength` of the canonical JSON of an event. -/
structure RemoteAcpEventRetention where
  maxEvents : Nat
  maxBytes : Nat
  encodedBytes : RemoteRunnerEvent → Nat
  maxEvents_pos : 0 < maxEvents
  maxBytes_pos : 0 < maxBytes

namespace RemoteDatabase

def findWritableAttempt (db : RemoteDatabase) (hostId : OpaqueId) (identity : LeaseIdentity) : Option OpaqueId := do
  let attempt ← db.attempts.find identity.executionAttemptId
  let lease ← attempt.lease
  let reservation ← db.reservations.find lease.leaseId
  let dispatch ← db.dispatches.find attempt.dispatchId
  if attempt.dispatchId = identity.dispatchId ∧ lease.hostId = hostId ∧ lease.leaseId = identity.leaseId ∧
      reservation.status = .active ∧ dispatch.heldBy hostId identity ∧
      (attempt.status = .activated ∨ attempt.status = .running) ∧ dispatch.status.live then
    some attempt.operationId
  else none

end RemoteDatabase

namespace RemoteAcpEventStream

def opened (operationId hostId : OpaqueId) (batch : RemoteRunnerEventBatch) : RemoteAcpEventStream where
  executionAttemptId := batch.lease.executionAttemptId
  operationId := operationId
  dispatchId := batch.lease.dispatchId
  leaseId := batch.lease.leaseId
  hostId := hostId
  acpSessionId := batch.acpSessionId
  eventProtocolVersion := 2
  latestCursor := 0
  retainedFromCursor := 1
  retainedCount := 0
  retainedBytes := 0
  droppedCount := 0
  usage := none
  events := []

/-- The identity check of a later batch, which records a lease that has changed. -/
def checkIdentity (stream : RemoteAcpEventStream) (operationId hostId : OpaqueId) (batch : RemoteRunnerEventBatch) :
    Except RemoteAcpEventError RemoteAcpEventStream :=
  if stream.operationId ≠ operationId ∨ stream.dispatchId ≠ batch.lease.dispatchId ∨ stream.hostId ≠ hostId ∨
      stream.acpSessionId ≠ batch.acpSessionId ∨ stream.eventProtocolVersion ≠ 2 then
    .error .streamIdentityConflict
  else .ok { stream with leaseId := batch.lease.leaseId }

def find (stream : RemoteAcpEventStream) (cursor : Nat) : Option RemoteAcpEventRow :=
  stream.events.find? fun row => row.cursor = cursor

def maxCursor (stream : RemoteAcpEventStream) : Nat := (stream.events.map (·.cursor)).max?.getD 0

def count (stream : RemoteAcpEventStream) : Nat := stream.events.length

def bytes (stream : RemoteAcpEventStream) : Nat := (stream.events.map (·.encodedBytes)).sum

/-- `normalizeUsageSnapshot`: the stream with the usage it keeps, and the event to store. -/
def normalizeUsageSnapshot (stream : RemoteAcpEventStream) (event : RemoteRunnerEvent) :
    RemoteAcpEventStream × RemoteRunnerEvent :=
  match event.fragment with
  | .usageSnapshot usage =>
    if stream.usage.any fun prior => event.sourceSequence ≤ prior.1 || usage.regresses prior.2 then
      (stream, event.usageRegressed)
    else ({ stream with usage := some (event.sourceSequence, usage) }, event)
  | .diagnostic _ _ | .content _ => (stream, event)

/-- The body of the loop over the events of a batch. `latest_cursor` and `retained_from_cursor` are read before the
loop, which does not change them. -/
def recordEvent (retention : RemoteAcpEventRetention) (stream : RemoteAcpEventStream) (candidate : RemoteRunnerEvent) :
    Except RemoteAcpEventError RemoteAcpEventStream :=
  if (stream.find candidate.cursor).map (·.event) = some candidate then .ok stream
  else
    let (stream, event) := stream.normalizeUsageSnapshot candidate
    if event.cursor < stream.retainedFromCursor then .error .cursorEvicted
    else
      match stream.find event.cursor with
      | some existing => if existing.event ≠ event then .error .cursorConflict else .ok stream
      | none =>
        if event.cursor ≠ max (stream.latestCursor + 1) (stream.maxCursor + 1) then .error .cursorGap
        else if retention.maxBytes < retention.encodedBytes event then .error .retentionExhausted
        else .ok { stream with events := stream.events ++ [⟨event, retention.encodedBytes event⟩] }

def dropOldest (stream : RemoteAcpEventStream) : RemoteAcpEventStream :=
  { stream with events := stream.events.tail, droppedCount := stream.droppedCount + 1 }

def dropSurplus (retention : RemoteAcpEventRetention) : Nat → RemoteAcpEventStream → RemoteAcpEventStream
  | 0, stream => stream
  | rounds + 1, stream =>
    if stream.count ≤ retention.maxEvents ∧ stream.bytes ≤ retention.maxBytes then stream
    else dropSurplus retention rounds stream.dropOldest

def enforceRetention (retention : RemoteAcpEventRetention) (stream : RemoteAcpEventStream) : RemoteAcpEventStream :=
  let kept := dropSurplus retention stream.events.length stream
  { kept with retainedFromCursor := (kept.events.map (·.cursor)).min?.getD 1, retainedCount := kept.count
              retainedBytes := kept.bytes }

def applyBatch (retention : RemoteAcpEventRetention) (stream : RemoteAcpEventStream) (batch : RemoteRunnerEventBatch) :
    Except RemoteAcpEventError RemoteAcpEventStream := do
  let recorded ← batch.events.foldlM (recordEvent retention) stream
  let kept := enforceRetention retention recorded
  return { kept with latestCursor := max kept.latestCursor batch.cursor }

end RemoteAcpEventStream

structure RemoteAcpEventReplay where
  afterCursor : Nat
  cursor : Nat
  highWatermark : Nat
  hasMore : Bool
  eventProtocolVersion : Nat
  events : List RemoteRunnerEvent
  /-- `droppedThroughCursor` of a `remote_acp_event_retention_gap` diagnostic. -/
  retentionGap : Option Nat
  /-- `remote_acp_event_contract_degraded` -/
  contractDegraded : Bool

/-- `RemoteAcpEventIngestResult`; a drop carries the replay of an empty stream. -/
structure RemoteAcpEventIngestResult where
  accepted : Bool
  replay : RemoteAcpEventReplay

def RemoteAcpEventIngestResult.dropped (batch : RemoteRunnerEventBatch) : RemoteAcpEventIngestResult where
  accepted := false
  replay := ⟨batch.afterCursor, batch.afterCursor, batch.afterCursor, false, 2, [], none, false⟩

def RemoteAcpEventStream.replay (stream : RemoteAcpEventStream) (afterCursor : Nat) :
    Except RemoteAcpEventError RemoteAcpEventReplay :=
  if stream.latestCursor < afterCursor then .error .replayCursorAhead
  else
    let effectiveAfterCursor := max afterCursor (stream.retainedFromCursor - 1)
    let events := ((stream.events.filter fun row => effectiveAfterCursor < row.cursor).take acpEventBatchMaxCount).map
      (·.event)
    let cursor := (events.getLast?.map (·.cursor)).getD effectiveAfterCursor
    .ok {
      afterCursor := afterCursor
      cursor := cursor
      highWatermark := stream.latestCursor
      hasMore := cursor < stream.latestCursor
      eventProtocolVersion := if stream.eventProtocolVersion = 2 then 2 else 1
      events := events
      retentionGap :=
        if afterCursor < stream.retainedFromCursor - 1 then some (stream.retainedFromCursor - 1) else none
      contractDegraded := stream.eventProtocolVersion = 1 }

namespace RemoteAcpEventStore

/-- The stream that a batch is recorded in; `none` is a soft drop. -/
def openStream (store : RemoteAcpEventStore) (db : RemoteDatabase) (hostId : OpaqueId)
    (batch : RemoteRunnerEventBatch) : Except RemoteAcpEventError (Option RemoteAcpEventStream) :=
  match db.findWritableAttempt hostId batch.lease with
  | none => .ok none
  | some operationId =>
    match store.streams.find batch.lease.executionAttemptId with
    | none => .ok (some (.opened operationId hostId batch))
    | some stream => (stream.checkIdentity operationId hostId batch).map some

variable (retention : RemoteAcpEventRetention)

def writeBatch (store : RemoteAcpEventStore) (db : RemoteDatabase) (hostId : OpaqueId)
    (batch : RemoteRunnerEventBatch) : Except RemoteAcpEventError (Option RemoteAcpEventStream) := do
  match ← store.openStream db hostId batch with
  | none => return none
  | some stream => (stream.applyBatch retention batch).map some

/-- `HostEventInbox.process` around the action of `ingest`: `false` when the message was processed before. -/
def process (store : RemoteAcpEventStore) (db : RemoteDatabase) (hostId : OpaqueId) (messageId : String)
    (batch : RemoteRunnerEventBatch) :
    Except RemoteAcpEventError (RemoteAcpEventStore × Bool × Option RemoteAcpEventStream) :=
  match store.receipts.find (messageId, hostId) with
  | some existing => if existing.payload ≠ batch then .error .hostEventMessageIdReused else .ok (store, false, none)
  | none => do
    let written ← store.writeBatch retention db hostId batch
    return ({ receipts := store.receipts.put ⟨messageId, hostId, batch⟩
              streams := (written.map store.streams.put).getD store.streams }, true, written)

def replay (store : RemoteAcpEventStore) (executionAttemptId : OpaqueId) (afterCursor : Nat) :
    Except RemoteAcpEventError RemoteAcpEventReplay :=
  match store.streams.find executionAttemptId with
  | none => .error .streamNotFound
  | some stream => stream.replay afterCursor

/-- `ingest` with the state it leaves: an error inside the transaction leaves the state it found. -/
def ingest (store : RemoteAcpEventStore) (db : RemoteDatabase) (hostId : OpaqueId) (messageId : String)
    (batch : RemoteRunnerEventBatch) :
    RemoteAcpEventStore × Except RemoteAcpEventError RemoteAcpEventIngestResult :=
  match store.process retention db hostId messageId batch with
  | .error error => (store, .error error)
  | .ok (next, applied, written) =>
    let persisted := (next.streams.find batch.lease.executionAttemptId).bind fun stream => stream.find batch.cursor
    if (applied ∧ written.isNone) ∨ (¬ applied ∧ persisted.isNone) then (next, .ok (.dropped batch))
    else
      (next, (next.replay batch.lease.executionAttemptId batch.afterCursor).map fun replay =>
        { accepted := true, replay := replay })

end RemoteAcpEventStore
end PlanWeave
