import Mathlib.Algebra.Group.Int.Defs
import PlanWeave.Lib.Durable
import PlanWeave.Lib.Json

namespace PlanWeave
open Durable

inductive DesktopAutoRunPhase where
  | idle | running | pausing | paused | manual | completed | blocked | failed | stopped
deriving DecidableEq

inductive RunSessionPhase where
  | created | resetting | running | completed | manual | blocked | failed | stopped

structure DesktopAutoRunState where
  runId : String
  runSessionId : Option String
  phase : DesktopAutoRunPhase
  stepCount : Int
  currentRef : Option String
  currentExecutor : Option String
  latestOutputSummary : Option String
  latestRecordId : Option String
  latestRecordPath : Option String
  error : Option String
  updatedAt : String

structure AutoRunPatch where
  phase : Option DesktopAutoRunPhase
  stepCount : Option Int
  currentRef : Option (Option String)
  currentExecutor : Option (Option String)
  latestOutputSummary : Option (Option String)
  latestRecordId : Option (Option String)
  latestRecordPath : Option (Option String)
  error : Option (Option String)

/-- `{ ...authority, ...patch, updatedAt: now() }` -/
def AutoRunPatch.apply (patch : AutoRunPatch) (now : String) (authority : DesktopAutoRunState) : DesktopAutoRunState where
  runId := authority.runId
  runSessionId := authority.runSessionId
  phase := patch.phase.getD authority.phase
  stepCount := patch.stepCount.getD authority.stepCount
  currentRef := patch.currentRef.getD authority.currentRef
  currentExecutor := patch.currentExecutor.getD authority.currentExecutor
  latestOutputSummary := patch.latestOutputSummary.getD authority.latestOutputSummary
  latestRecordId := patch.latestRecordId.getD authority.latestRecordId
  latestRecordPath := patch.latestRecordPath.getD authority.latestRecordPath
  error := patch.error.getD authority.error
  updatedAt := now

structure AutoRunExpectedAuthority where
  phase : DesktopAutoRunPhase
  stepCount : Int
  currentRef : Option String
  updatedAt : String
deriving DecidableEq

def buildExpectedAuthority (state : DesktopAutoRunState) : AutoRunExpectedAuthority where
  phase := state.phase
  stepCount := state.stepCount
  currentRef := state.currentRef
  updatedAt := state.updatedAt

def matchesExpectedAuthority (state : DesktopAutoRunState) (expected : AutoRunExpectedAuthority) : Bool :=
  state.phase == expected.phase && state.stepCount == expected.stepCount && state.currentRef == expected.currentRef &&
    state.updatedAt == expected.updatedAt

theorem matchesExpectedAuthority_iff {state : DesktopAutoRunState} {expected : AutoRunExpectedAuthority} :
    matchesExpectedAuthority state expected = true ↔ buildExpectedAuthority state = expected := by
  cases expected
  simp [matchesExpectedAuthority, buildExpectedAuthority, and_assoc]

def ownEventFields : List String :=
  ["timestamp", "runId", "sessionId", "type", "phase", "stepCount", "currentRef", "desktopRunId", "autoRunPhase",
    "latestRecordId", "latestRecordPath", "error", "transitionId", "previousPhase", "nextPhase"]

structure TransitionData where
  fields : List (String × Json)
  own : ∀ field ∈ fields, field.1 ∉ ownEventFields

structure AutoRunTransitionIntent where
  transitionId : String
  runId : String
  previousPhase : DesktopAutoRunPhase
  nextPhase : DesktopAutoRunPhase
  eventType : String
  previousAuthority : AutoRunExpectedAuthority
  expectedAuthority : AutoRunExpectedAuthority
  data : List (String × Json)

structure CommittedTransition where
  transitionId : String
  runId : String
  expectedAuthority : AutoRunExpectedAuthority
  authority : DesktopAutoRunState

structure AutoRunLogEvent where
  type : String
  phase : DesktopAutoRunPhase
  stepCount : Int
  currentRef : Option String
  transitionId : Option String
  data : List (String × Json)

structure RunSessionState where
  stateVersion : Nat
  phase : RunSessionPhase
  finishedAt : Option String
  autoRun : Option Json
  latestRecordId : Option String
  latestRecordPath : Option String
  error : Option String

structure RunSessionEvent where
  type : String
  phase : RunSessionPhase
  transitionId : Option String
  data : List (String × Json)

structure WrittenTransition where
  transitionId : String
  eventType : String
  state : DesktopAutoRunState

/-- The files of a run and of its session. `written` is no file: it is the history of `state.json`. -/
structure AutoRunFiles where
  state : Option DesktopAutoRunState
  intent : Option AutoRunTransitionIntent
  markers : String → Option CommittedTransition
  events : List AutoRunLogEvent
  session : Option RunSessionState
  sessionEvents : List RunSessionEvent
  written : List WrittenTransition

inductive TransitionDiagnosticCode where
  | commitMarkerUnreadable | supersededAfterCommit | abortedBeforeState | supersededWithoutCommitEvidence
  | eventHealFailed | sessionHealFailed

structure TransitionDiagnostic where
  code : TransitionDiagnosticCode
  transitionId : String

inductive TransitionError where
  | intentInvalid
  | sessionUnreadable (runSessionId : String)
  | unreadable (diagnostics : List TransitionDiagnostic)
  /-- `Cannot mutate Auto Run .. while pending transition .. remains without complete authority evidence.` -/
  | pendingRemains (runId transitionId : String)
  /-- `Auto Run mutation cannot change runId ..` -/
  | runIdChanged (runId : String)

structure RecoverPendingTransitionResult where
  recovered : Bool
  authorityState : Option DesktopAutoRunState
  diagnostics : List TransitionDiagnostic
  unreadable : Bool

abbrev TransitionProgram (α : Type) := Durable AutoRunFiles TransitionError α

abbrev SessionSummaryBuilder := DesktopAutoRunState → String → Json

def runSessionPhaseForPhase : DesktopAutoRunPhase → RunSessionPhase
  | .completed => .completed
  | .manual => .manual
  | .blocked => .blocked
  | .failed => .failed
  | .stopped => .stopped
  | _ => .running

def isTerminalRunSessionPhase : RunSessionPhase → Bool
  | .completed | .blocked | .failed | .stopped => true
  | _ => false

def finalRunSessionEventTypeForPhase : RunSessionPhase → Option String
  | .completed => some "session_completed"
  | .blocked => some "session_blocked"
  | .failed => some "session_failed"
  | .stopped => some "session_stopped"
  | _ => none

def finalRunSessionEventTypes : List String :=
  ["session_completed", "session_manual", "session_blocked", "session_failed", "session_stopped"]

theorem finalRunSessionEventTypeForPhase_final {phase : RunSessionPhase} {type : String}
    (final : finalRunSessionEventTypeForPhase phase = some type) : type ∈ finalRunSessionEventTypes := by
  cases phase <;> cases final <;> decide

/-- An intent that `writePendingTransitionIntent` accepts; `datetime` is the format of the schema library. -/
def AutoRunExpectedAuthority.valid (datetime : String → Bool) (authority : AutoRunExpectedAuthority) : Bool :=
  0 ≤ authority.stepCount && authority.stepCount < 2 ^ 53 && datetime authority.updatedAt

def AutoRunTransitionIntent.valid (datetime : String → Bool) (intent : AutoRunTransitionIntent) : Bool :=
  intent.transitionId != "" && intent.runId != "" && intent.eventType != "" && intent.previousAuthority.valid datetime &&
    intent.expectedAuthority.valid datetime

section Writes

def writePendingTransitionIntent (datetime : String → Bool) (intent : AutoRunTransitionIntent) : TransitionProgram Unit :=
  if intent.valid datetime then .write fun files => { files with intent := some intent } else .fail .intentInvalid

def clearPendingTransitionIntent : TransitionProgram Unit := .write fun files => { files with intent := none }

def writeCommittedTransitionAuthority (intent : AutoRunTransitionIntent) (authority : DesktopAutoRunState) :
    TransitionProgram Unit :=
  let marker : CommittedTransition := ⟨intent.transitionId, intent.runId, intent.expectedAuthority, authority⟩
  .write fun files => { files with markers := Function.update files.markers intent.transitionId (some marker) }

def clearCommittedTransitionAuthority (intent : AutoRunTransitionIntent) : TransitionProgram Unit :=
  .write fun files => { files with markers := Function.update files.markers intent.transitionId none }

def writePersistedAutoRunState (intent : AutoRunTransitionIntent) (next : DesktopAutoRunState) : TransitionProgram Unit :=
  .write fun files => { files with
    state := some next, written := files.written ++ [⟨intent.transitionId, intent.eventType, next⟩] }

def rebuildState (authority : DesktopAutoRunState) : TransitionProgram Unit :=
  .write fun files => { files with state := some authority }

def appendAutoRunEvent (state : DesktopAutoRunState) (intent : AutoRunTransitionIntent) : TransitionProgram Unit :=
  .write fun files => { files with events := files.events ++
    [⟨intent.eventType, state.phase, state.stepCount, state.currentRef, some intent.transitionId, intent.data⟩] }

def appendRunSessionEvent (event : RunSessionEvent) : TransitionProgram Unit :=
  .write fun files => { files with sessionEvents := files.sessionEvents ++ [event] }

end Writes

def hasAutoRunTransitionEvent (files : AutoRunFiles) (intent : AutoRunTransitionIntent) : Bool :=
  files.events.any fun event => event.type == intent.eventType && event.transitionId == some intent.transitionId

def hasSessionTransitionEvent (files : AutoRunFiles) (intent : AutoRunTransitionIntent) : Bool :=
  files.sessionEvents.any fun event => event.type == intent.eventType && event.transitionId == some intent.transitionId

def ensureAutoRunEventProjection (state : DesktopAutoRunState) (intent : AutoRunTransitionIntent) : TransitionProgram Unit := do
  let files ← read
  when (!hasAutoRunTransitionEvent files intent) (appendAutoRunEvent state intent)

def updateRunSession (runSessionId : String) (state : DesktopAutoRunState) (summary : Json) : TransitionProgram Unit := do
  let files ← read
  match files.session with
  | none => .fail (.sessionUnreadable runSessionId)
  | some session =>
    let phase := runSessionPhaseForPhase state.phase
    let next : RunSessionState :=
      { stateVersion := session.stateVersion + 1
        phase
        finishedAt := if isTerminalRunSessionPhase phase then some state.updatedAt else session.finishedAt
        autoRun := some summary
        latestRecordId := state.latestRecordId
        latestRecordPath := state.latestRecordPath
        error := state.error }
    .write fun files => { files with session := some next }

def transitionSessionEvent (state : DesktopAutoRunState) (intent : AutoRunTransitionIntent) : RunSessionEvent where
  type := intent.eventType
  phase := runSessionPhaseForPhase state.phase
  transitionId := some intent.transitionId
  data := intent.data

def finalSessionEvent (type : String) (state : DesktopAutoRunState) (intent : AutoRunTransitionIntent) : RunSessionEvent where
  type
  phase := runSessionPhaseForPhase state.phase
  transitionId := some intent.transitionId
  data := []

def appendFinalSessionEvent (state : DesktopAutoRunState) (intent : AutoRunTransitionIntent) : TransitionProgram Unit :=
  match finalRunSessionEventTypeForPhase (runSessionPhaseForPhase state.phase) with
  | none => pure ()
  | some finalType => do
    let files ← read
    when (!files.sessionEvents.any fun event => event.type ∈ finalRunSessionEventTypes)
      (appendRunSessionEvent (finalSessionEvent finalType state intent))

def projectSessionForTransition (buildSessionSummary : SessionSummaryBuilder) (state : DesktopAutoRunState)
    (intent : AutoRunTransitionIntent) : TransitionProgram Unit :=
  match state.runSessionId with
  | none => pure ()
  | some runSessionId => do
    updateRunSession runSessionId state (buildSessionSummary state intent.eventType)
    let files ← read
    when (!hasSessionTransitionEvent files intent) (appendRunSessionEvent (transitionSessionEvent state intent))
    appendFinalSessionEvent state intent

inductive CommittedTransitionReadResult where
  | absent
  | ok (authority : DesktopAutoRunState)
  | unreadable (diagnostic : TransitionDiagnostic)

def readCommittedTransitionAuthority (files : AutoRunFiles) (intent : AutoRunTransitionIntent) : CommittedTransitionReadResult :=
  match files.markers intent.transitionId with
  | none => .absent
  | some marker =>
    if marker.transitionId = intent.transitionId ∧ marker.runId = intent.runId ∧
        marker.expectedAuthority = intent.expectedAuthority ∧
        matchesExpectedAuthority marker.authority intent.expectedAuthority = true then .ok marker.authority
    else .unreadable ⟨.commitMarkerUnreadable, intent.transitionId⟩

/-- A projection of a recovery: `try` with a diagnostic for a failure. -/
def heal (projection : TransitionProgram Unit) (code : TransitionDiagnosticCode) (intent : AutoRunTransitionIntent) :
    TransitionProgram (List TransitionDiagnostic) :=
  Durable.recover (do projection; pure []) fun _ => pure [⟨code, intent.transitionId⟩]

section Recovery
variable (buildSessionSummary : SessionSummaryBuilder)

/-- The end of a recovery whose transition has been committed. -/
def replayProjections (intent : AutoRunTransitionIntent) (authority exposedAuthority : DesktopAutoRunState) :
    TransitionProgram RecoverPendingTransitionResult := do
  let eventDiagnostics ← heal (ensureAutoRunEventProjection authority intent) .eventHealFailed intent
  let sessionDiagnostics ← heal (projectSessionForTransition buildSessionSummary authority intent) .sessionHealFailed intent
  if eventDiagnostics ++ sessionDiagnostics = [] then do
    clearCommittedTransitionAuthority intent
    clearPendingTransitionIntent
    pure ⟨true, some exposedAuthority, [], false⟩
  else pure ⟨false, some exposedAuthority, eventDiagnostics ++ sessionDiagnostics, false⟩

/-- Without a marker the state says whether it was written: it has the expected identity, or still the previous one. -/
def recoverWithoutMarker (files : AutoRunFiles) (intent : AutoRunTransitionIntent) :
    TransitionProgram RecoverPendingTransitionResult :=
  match files.state with
  | none => pure ⟨false, none, [⟨.supersededWithoutCommitEvidence, intent.transitionId⟩], false⟩
  | some raw =>
    if matchesExpectedAuthority raw intent.expectedAuthority then do
      writeCommittedTransitionAuthority intent raw
      replayProjections buildSessionSummary intent raw raw
    else if matchesExpectedAuthority raw intent.previousAuthority then do
      clearPendingTransitionIntent
      pure ⟨false, some raw, [⟨.abortedBeforeState, intent.transitionId⟩], false⟩
    else pure ⟨false, some raw, [⟨.supersededWithoutCommitEvidence, intent.transitionId⟩], false⟩

def recoverWithMarker (files : AutoRunFiles) (intent : AutoRunTransitionIntent) (authority : DesktopAutoRunState) :
    TransitionProgram RecoverPendingTransitionResult :=
  match files.state with
  | none => do
    rebuildState authority
    replayProjections buildSessionSummary intent authority authority
  | some raw =>
    if matchesExpectedAuthority raw intent.expectedAuthority then
      replayProjections buildSessionSummary intent authority raw
    else do
      clearPendingTransitionIntent
      clearCommittedTransitionAuthority intent
      pure ⟨true, some raw, [⟨.supersededAfterCommit, intent.transitionId⟩], false⟩

def recoverPendingTransition : TransitionProgram RecoverPendingTransitionResult := do
  let files ← read
  match files.intent with
  | none => pure ⟨false, none, [], false⟩
  | some intent =>
    match readCommittedTransitionAuthority files intent with
    | .unreadable diagnostic => pure ⟨false, none, [diagnostic], true⟩
    | .ok authority => recoverWithMarker buildSessionSummary files intent authority
    | .absent => recoverWithoutMarker buildSessionSummary files intent

/-- The pending transition is recovered first; one that remains refuses the next. -/
def recoverAndReadAuthority (runId : String) (memoryState : DesktopAutoRunState) : TransitionProgram DesktopAutoRunState := do
  let files ← read
  when files.intent.isSome do
    let healed ← recoverPendingTransition buildSessionSummary
    if healed.unreadable then .fail (.unreadable healed.diagnostics)
    else do
      let after ← read
      match after.intent with
      | none => pure ()
      | some intent => .fail (.pendingRemains runId intent.transitionId)
  let after ← read
  pure (after.state.getD memoryState)

end Recovery

structure AutoRunMutation where
  transitionId : String
  now : String
  eventType : String
  patch : AutoRunPatch
  data : TransitionData
  shouldApply : DesktopAutoRunState → Bool
  memoryState : DesktopAutoRunState
  /-- No caller uses the type of a session's final event. -/
  plain : eventType ∉ finalRunSessionEventTypes

namespace AutoRunMutation

def mutate (mutation : AutoRunMutation) (authority : DesktopAutoRunState) : Option DesktopAutoRunState :=
  if mutation.shouldApply authority then some (mutation.patch.apply mutation.now authority) else none

def intent (mutation : AutoRunMutation) (previous next : DesktopAutoRunState) : AutoRunTransitionIntent where
  transitionId := mutation.transitionId
  runId := next.runId
  previousPhase := previous.phase
  nextPhase := next.phase
  eventType := mutation.eventType
  previousAuthority := buildExpectedAuthority previous
  expectedAuthority := buildExpectedAuthority next
  data := mutation.data.fields

end AutoRunMutation

section Transitions
variable (datetime : String → Bool) (buildSessionSummary : SessionSummaryBuilder)

def commitTransition (intent : AutoRunTransitionIntent) (next : DesktopAutoRunState) : TransitionProgram Unit := do
  writePendingTransitionIntent datetime intent
  writePersistedAutoRunState intent next
  writeCommittedTransitionAuthority intent next
  ensureAutoRunEventProjection next intent
  projectSessionForTransition buildSessionSummary next intent
  clearCommittedTransitionAuthority intent
  clearPendingTransitionIntent

def mutateAutoRunTransition (runId : String) (mutation : AutoRunMutation) : TransitionProgram DesktopAutoRunState := do
  let authority ← recoverAndReadAuthority buildSessionSummary runId mutation.memoryState
  match mutation.mutate authority with
  | none => pure authority
  | some next =>
    if next.runId ≠ runId then .fail (.runIdChanged runId)
    else do
      commitTransition datetime buildSessionSummary (mutation.intent authority next) next
      pure next

inductive AutoRunOperation where
  | mutate (mutation : AutoRunMutation)
  | recover

def AutoRunOperation.perform (runId : String) : AutoRunOperation → TransitionProgram Unit
  | mutate mutation => do
    let _ ← mutateAutoRunTransition datetime buildSessionSummary runId mutation
  | recover => do
    let _ ← recoverPendingTransition buildSessionSummary

end Transitions
end PlanWeave
