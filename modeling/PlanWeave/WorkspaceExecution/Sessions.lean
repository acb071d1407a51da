import PlanWeave.Lib.Custody
import PlanWeave.WorkspaceExecution.Contracts

namespace PlanWeave.WorkspaceExecution

inductive Site where
  | sessions
  | authority
  | catalog
  | command
  | query
  | replay
  | interactions
  | evidence
  | diagnostics
  | response
  | coordinator
deriving DecidableEq

/-- Why a call ends without an answer; `unfinished` when a loop needs more rounds than were followed. -/
inductive Failure where
  | refused (site : Site) (error : ExecutionError)
  | unfinished
deriving DecidableEq

inductive WriteCause where
  | dispatching
  | observing
  | observation (original : SessionRecord) (snapshot : AdapterSnapshot)
  | evidence (handle : RemoteHandle) (views : List InteractionView)
  | diagnostic (error : ExecutionError)
  | interaction (view : InteractionView)
  | interactions (handle : RemoteHandle) (page : List InteractionView) (now : Nat)
  | responseIntent (key : InteractionIdentity) (intent : ResponseIntent)
deriving DecidableEq

structure SessionWrite where
  cause : WriteCause
  before : Option SessionRecord
  after : SessionRecord

/-- An operation of the server: the key and the block it was created for, all that was ever reported of it and its
interactions. -/
structure ServerOperation where
  key : Option String
  blockRef : String
  reports : List OperationObservation
  interactions : List InteractionView

/-- A dispatch that reached the server: the handle that its session had by then, and whether the caller held the lock of
the scope. -/
structure DispatchEntry where
  sessionId : Nat
  intent : DispatchIntent
  handle : Option RemoteHandle
  locked : Bool

structure SentResponse where
  sessionId : Nat
  key : InteractionIdentity
  response : InteractionResponse

/-- `writes`, `dispatches` and `responses` record what was done, the oldest first. -/
structure ExecutionStore where
  sessions : OrderedMap Nat SessionRecord := ∅
  nextSession : Nat := 0
  locks : OrderedMap String Nat := ∅
  operations : OrderedMap String ServerOperation := ∅
  clock : Nat := 0
  writes : List SessionWrite := []
  dispatches : List DispatchEntry := []
  responses : List SentResponse := []

abbrev ExecutionProgram (α : Type) : Type := Process ExecutionStore Failure α

structure CallPorts where
  binding : RemoteBinding
  agentEndpointId : String
  generatedKey : String
  created : OperationObservation
  replays : Nat → EventReplay
  errors : Site → ExecutionError
  pageSize : Nat
  rounds : Nat

def checked {α : Type} (site : Site) (value : Except ExecutionError α) : ExecutionProgram α :=
  Process.lift (value.mapError (.refused site))

def refuse {α : Type} (site : Site) (error : ExecutionError) : ExecutionProgram α := .throws (.refused site error)

def demand (holds : Bool) (site : Site) (error : ExecutionError) : ExecutionProgram Unit :=
  if holds then pure () else refuse site error

namespace ServerOperation

def current (operation : ServerOperation) : Option OperationObservation := operation.reports.getLast?

/-- What the server may report next: revisions, the versions of an attempt and settled interactions never go back. -/
def forward (operation : ServerOperation) (operationId : String) (observation : OperationObservation)
    (views : List InteractionView) : Bool :=
  observation.operationId = operationId && observation.blockRef = operation.blockRef &&
    (operation.reports.all fun old =>
      (old.diagnostics.all fun before => observation.diagnostics.all fun after => before.revision ≤ after.revision) &&
        (old.executionAttemptId ≠ observation.executionAttemptId ||
          old.attempt.stateVersion ≤ observation.attempt.stateVersion)) &&
    (operation.interactions.all fun old => views.any fun new =>
      new.key = old.key && new.request = old.request && (old.status = .pending || new = old)) &&
    (views.map InteractionView.key).Nodup

end ServerOperation

def InteractionView.settle (response : InteractionResponse) (view : InteractionView) : InteractionView :=
  if view.status = .pending then { view with status := .settled, settlement := some response } else view

namespace SessionRecord

def patched (record : SessionRecord) (patch : SessionRecord → SessionRecord) : SessionRecord :=
  { patch record with sessionId := record.sessionId, stateVersion := record.stateVersion + 1 }

end SessionRecord

namespace ExecutionStore
variable (store : ExecutionStore)

def report (operationId : String) (observation : OperationObservation) (views : List InteractionView) : ExecutionStore :=
  match store.operations.get? operationId with
  | some operation =>
    if operation.forward operationId observation views then
      let next := { operation with reports := operation.reports ++ [observation], interactions := views }
      { store with operations := store.operations.set operationId next }
    else store
  | none =>
    let created : ServerOperation := ⟨none, observation.blockRef, [], []⟩
    if created.forward operationId observation views then
      let next := { created with reports := [observation], interactions := views }
      { store with operations := store.operations.set operationId next }
    else store

def operationOf (key : String) : Option (String × ServerOperation) :=
  store.operations.entries.find? fun entry => entry.2.key = some key

def observed (operationId : String) : Option OperationObservation :=
  (store.operations.get? operationId).bind (·.current)

/-- The server keeps one operation per key; a new one is named anew and is of the block of the intent. -/
def accept (intent : DispatchIntent) (created : OperationObservation) : OrderedMap String ServerOperation :=
  if (store.operationOf intent.idempotencyKey).isSome || store.operations.has created.operationId ||
      created.blockRef ≠ intent.blockRef then store.operations
  else store.operations.set created.operationId ⟨some intent.idempotencyKey, intent.blockRef, [created], []⟩

def dispatch (caller sessionId : Nat) (intent : DispatchIntent) (created : OperationObservation) : ExecutionStore :=
  let handle := (store.sessions.get? sessionId).bind fun record => record.workspaceExecution.bind (·.handle)
  let entry : DispatchEntry := ⟨sessionId, intent, handle, store.locks.get? intent.blockRef = some caller⟩
  { store with operations := store.accept intent created, dispatches := store.dispatches ++ [entry] }

def settle (sessionId : Nat) (operationId : String) (response : InteractionResponse) : ExecutionStore :=
  let key := response.identity operationId
  let sent : SentResponse := ⟨sessionId, key, response⟩
  let store := { store with responses := store.responses ++ [sent] }
  match store.operations.get? operationId with
  | some operation =>
    let interactions := operation.interactions.map fun view => if view.key = key then view.settle response else view
    { store with operations := store.operations.set operationId { operation with interactions } }
  | none => store

def write (cause : WriteCause) (before : Option SessionRecord) (after : SessionRecord) : ExecutionStore :=
  { store with
    sessions := store.sessions.set after.sessionId after
    writes := store.writes ++ [⟨cause, before, after⟩] }

def createSession (cause : WriteCause) (record : SessionRecord) : ExecutionStore :=
  { store.write cause none { record with sessionId := store.nextSession, stateVersion := 1 } with
    nextSession := store.nextSession + 1 }

def updateSession (cause : WriteCause) (sessionId expected : Nat) (patch : SessionRecord → SessionRecord) : ExecutionStore :=
  match store.sessions.get? sessionId with
  | some current =>
    if current.stateVersion = expected then
      store.write cause (some current) (current.patched patch)
    else store
  | none => store

def release (caller : Nat) : ExecutionStore :=
  { store with locks := store.locks.filter fun _ holder => holder ≠ caller }

end ExecutionStore

section Calls
variable (ports : CallPorts)

def CallPorts.fails (site : Site) : Failure := .refused site (ports.errors site)

def getSession (sessionId : Nat) : ExecutionProgram SessionRecord :=
  (Process.observe fun store => match store.sessions.get? sessionId with
    | some record => .ok record
    | none => .error (ports.fails .sessions)).orFail (ports.fails .sessions)

/-- `update` with an expected version; none for a version conflict. The answer of a write may be lost. -/
def updateSession (cause : WriteCause) (sessionId expected : Nat) (patch : SessionRecord → SessionRecord) :
    ExecutionProgram (Option SessionRecord) :=
  let effect := fun store : ExecutionStore => store.updateSession cause sessionId expected patch
  (Process.step effect fun before => match before.sessions.get? sessionId with
    | some current =>
      if current.stateVersion = expected then
        .returns (some (current.patched patch))
      else .returns none
    | none => .throws (ports.fails .sessions)).orFail (ports.fails .sessions) |>.either
      (.step effect fun _ => .throws (ports.fails .sessions))

def createSession (cause : WriteCause) (record : SessionRecord) : ExecutionProgram SessionRecord :=
  (Process.step (·.createSession cause record) fun before =>
    .returns { record with sessionId := before.nextSession, stateVersion := 1 }).orFail (ports.fails .sessions) |>.either
      (.step (·.createSession cause record) fun _ => .throws (ports.fails .sessions))

/-- The order of `listRunSessions`: the session that started last comes first. -/
def readSessions : List Nat → ExecutionProgram (List SessionRecord)
  | [] => pure []
  | sessionId :: rest => do
    let record ← getSession ports sessionId
    let others ← readSessions rest
    pure (others ++ [record])

def listSessions : ExecutionProgram (List SessionRecord) := do
  let ids ← (Process.observe fun store => .ok store.sessions.keys).orFail (ports.fails .sessions)
  readSessions ports ids

/-- `withScopeLock`: waits until nobody holds the lock of the scope. -/
def acquireScope (caller : Nat) (blockRef : String) : Nat → ExecutionProgram Unit
  | 0 => .throws .unfinished
  | rounds + 1 => .step
      (fun store => if store.locks.has blockRef then store else { store with locks := store.locks.set blockRef caller })
      fun before => if before.locks.has blockRef then acquireScope caller blockRef rounds else .returns ()

def withScopeLock {α : Type} (caller : Nat) (blockRef : String) (body : ExecutionProgram α) : ExecutionProgram α := do
  acquireScope caller blockRef ports.rounds
  body.ensuring (·.release caller)

def portFailure (site : Site) (code : String) : Failure :=
  .refused site (workspaceExecutionPortError (ports.errors site) code)

def observe (operationId : String) : ExecutionProgram OperationObservation :=
  let failed := portFailure ports .query "remote_observation_unavailable"
  (Process.observe fun store => match store.observed operationId with
    | some observation => .ok observation
    | none => .error failed).orFail failed

def queryRecover (key : String) : ExecutionProgram (Option OperationObservation) :=
  (Process.observe fun store => .ok ((store.operationOf key).bind (·.2.current))).orFail
    (portFailure ports .query "remote_observation_unavailable")

def dispatch (caller sessionId : Nat) (intent : DispatchIntent) : ExecutionProgram OperationObservation :=
  let failed := portFailure ports .command "remote_dispatch_unavailable"
  let effect := fun store : ExecutionStore => store.dispatch caller sessionId intent ports.created
  (Process.step effect fun before =>
    match ((effect before).operationOf intent.idempotencyKey).bind (·.2.current) with
    | some observation => .returns observation
    | none => .throws failed).orFail failed |>.either (.step effect fun _ => .throws failed)

def queryInteractions (operationId : String) (cursor : Nat) : ExecutionProgram (List InteractionView × Option Nat) :=
  let failed := portFailure ports .interactions "remote_interactions_unavailable"
  (Process.observe fun store => match store.operations.get? operationId with
    | some operation =>
      let next := cursor + ports.pageSize + 1
      .ok ((operation.interactions.drop cursor).take (ports.pageSize + 1),
        if next < operation.interactions.length then some next else none)
    | none => .error failed).orFail failed

def sendResponse (sessionId : Nat) (operationId : String) (response : InteractionResponse) : ExecutionProgram InteractionView :=
  let failed := portFailure ports .response "remote_interaction_response_unavailable"
  let effect := fun store : ExecutionStore => store.settle sessionId operationId response
  (Process.step effect fun before =>
    match ((effect before).operations.get? operationId).bind fun operation =>
        operation.interactions.find? (·.key = response.identity operationId) with
    | some view => .returns view
    | none => .throws failed).orFail failed |>.either (.step effect fun _ => .throws failed)

def readClock : ExecutionProgram Nat := Process.observe fun store => .ok store.clock

def mayFail (site : Site) : ExecutionProgram Unit := (pure () : ExecutionProgram Unit).orFail (ports.fails site)

end Calls
end PlanWeave.WorkspaceExecution
