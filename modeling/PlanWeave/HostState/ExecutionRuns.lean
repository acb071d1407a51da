import PlanWeave.HostState.RelayCalls
import PlanWeave.Lib.Runs

namespace PlanWeave
open AgentHostExecutionStatus Checked Table

inductive ExecutionStep where
  | receive (event : ReceivedMailboxEvent) (deadlineNow : Timestamp)
  | startExecution (sequence : Nat) (now : Timestamp)
  | startResumption (sequence : Nat) (now : Timestamp)
  | completeExecution (sequence : Nat) (expected : LeaseIdentity) (result : ExecutionResult) (now : Timestamp)
  | failExecution (sequence : Nat) (expected : LeaseIdentity) (failure : NormalizedFailure) (now : Timestamp)
  | failResumption (sequence : Nat) (expected : LeaseIdentity) (now : Timestamp)
  | applyCancellation (sequence : Nat)
  | abandonExpiredExecutions (now : Timestamp)
  | recoverInterruptedExecutions
  | append (record : RemoteExecutionRecord)
  | renewLease (identity : LeaseIdentity) (leaseExpiresAt now : Timestamp)
  | setHostEventMaxPayloadBytes (bytes : Nat)
  | setRemoteRunnerEventProtocolVersion (version : Option Nat)

def ExecutionStep.settlement : ExecutionStep → Option (Nat × LeaseIdentity × Timestamp)
  | completeExecution sequence expected _ now | failExecution sequence expected _ now
  | failResumption sequence expected now => some (sequence, expected, now)
  | _ => none

/-- The steps that a status may take in the transitions table; a start takes an execution through `preparing`. -/
def ExecutionStep.shifts : ExecutionStep → Nat
  | startExecution _ _ => 2
  | _ => 1

def ExecutionStep.loud : ExecutionStep → Prop
  | append _ => True
  | _ => False

namespace AgentHostState
variable (limits : AgentHostLimits)

def outcome (state : AgentHostState) : ExecutionStep → Except HostStateError AgentHostState
  | .receive event deadlineNow => (state.receive limits event deadlineNow).map (·.1)
  | .startExecution sequence now => state.startExecution limits sequence now
  | .startResumption sequence now => state.startResumption limits sequence now
  | .completeExecution sequence expected result now =>
    (state.completeExecution limits sequence expected result now).map (·.1)
  | .failExecution sequence expected failure now => (state.failExecution limits sequence expected failure now).map (·.1)
  | .failResumption sequence expected now => (state.failResumption limits sequence expected now).map (·.1)
  | .applyCancellation sequence => (state.applyCancellation limits sequence).map (·.1)
  | .abandonExpiredExecutions now => state.abandonExpiredExecutions limits now
  | .recoverInterruptedExecutions => state.recoverInterruptedExecutions limits
  | .append record => state.append limits record
  | .renewLease identity leaseExpiresAt now => .ok (state.renewLease identity leaseExpiresAt now)
  | .setHostEventMaxPayloadBytes bytes => .ok { state with outbox := state.outbox.setMaxPayloadBytes bytes }
  | .setRemoteRunnerEventProtocolVersion version => .ok { state with eventProtocolVersion := version }

/-- An operation in its write transaction; an operation that throws leaves the database as it was. -/
def perform (state : AgentHostState) (step : ExecutionStep) : AgentHostState :=
  match state.outcome limits step with
  | .ok next => next
  | .error _ => state

end AgentHostState

namespace AgentHostState
variable {limits : AgentHostLimits} {state next : AgentHostState} {loud : Prop} {sequence : Nat} {row : ExecutionRow}
  {step : ExecutionStep}

section Runs

theorem outcome_moves (sound : state.Sound) (done : state.outcome limits step = .ok next) :
    Steps step.loud step.shifts state next := by
  cases step with
  | receive =>
    obtain ⟨⟨_, _⟩, returned, rfl⟩ := map_ok.mp done
    exact receive_moves sound returned
  | startExecution => exact (startExecution_moves sound done).toSteps
  | startResumption => exact (startResumption_moves sound done).toSteps
  | completeExecution =>
    obtain ⟨⟨_, _⟩, returned, rfl⟩ := map_ok.mp done
    exact (completeExecution_moves sound returned).toSteps
  | failExecution =>
    obtain ⟨⟨_, _⟩, returned, rfl⟩ := map_ok.mp done
    exact (failExecution_moves sound returned).toSteps
  | failResumption =>
    obtain ⟨⟨_, _⟩, returned, rfl⟩ := map_ok.mp done
    exact (failResumption_moves sound returned).toSteps
  | applyCancellation =>
    obtain ⟨⟨_, _⟩, returned, rfl⟩ := map_ok.mp done
    exact applyCancellation_moves sound returned
  | abandonExpiredExecutions => exact abandonExpiredExecutions_moves sound done
  | recoverInterruptedExecutions => exact recoverInterruptedExecutions_moves sound done
  | append => exact append_moves sound done
  | renewLease identity leaseExpiresAt now =>
    cases done
    exact (renewLease_moves state identity leaseExpiresAt now).mono (Nat.zero_le _)
  | setHostEventMaxPayloadBytes | setRemoteRunnerEventProtocolVersion =>
    cases done
    refine (@Move.rest state _ _ 0 ?_).toSteps.mono (Nat.zero_le _)
    exact .aside rfl rfl (.of_eq rfl) le_rfl (.inr ⟨rfl, rfl⟩)

theorem perform_moves (sound : state.Sound) : Steps step.loud step.shifts state (state.perform limits step) := by
  unfold perform
  split
  · rename_i next done
    exact outcome_moves sound done
  · exact .refl

end Runs

section Settlements
variable {expected : LeaseIdentity} {allowed : List AgentHostExecutionStatus} {now : Timestamp}
  {settles : AgentHostState → Except HostStateError AgentHostState}

/-- What a settlement finds room for: the expiry of a lease that ran out, and else what it does when it is applied. -/
def SettlementReady (limits : AgentHostLimits) (state : AgentHostState) (sequence : Nat) (expected : LeaseIdentity)
    (allowed : List AgentHostExecutionStatus) (now : Timestamp) (ready : ExecutionRow → Prop) : Prop :=
  ∀ row, state.executions.find sequence = some row → row.identity = expected →
    if Expired row now then ExpiryReady limits state row else row.status ∈ allowed → ready row

theorem settle_returns {ready : ExecutionRow → Prop} (sound : state.Sound)
    (settlement : SettlementReady limits state sequence expected allowed now ready)
    (returns : ∀ row, state.executions.find sequence = some row → row.status ∈ allowed → ready row →
      ∃ next, settles state = .ok next) :
    ∃ result, settle limits state sequence expected allowed now settles = .ok result := by
  cases found : state.executions.find sequence with
  | none => exact ⟨_, settle_missing found⟩
  | some row =>
    have keyed := find_sequence found
    rw [settle_cases found]
    split
    · exact ⟨_, rfl⟩
    rename_i same
    have held := settlement row found (not_not.mp same)
    split
    · rename_i expired
      rw [if_pos expired] at held
      subst keyed
      have evidenced := sound.evidenced row (find_eq_some.mp found).1
      exact map_returns.mpr ((expire_returns found expired.1 evidenced).mpr held)
    · rename_i current
      rw [if_neg current] at held
      split
      · rename_i status
        exact map_returns.mpr (returns row found status.1 (held status.1))
      · exact ⟨_, rfl⟩

def EndingReady (limits : AgentHostLimits) (state : AgentHostState) (kind : TerminalKind) (payload : DispatchOutcome)
    (row : ExecutionRow) : Prop :=
  CanQueue limits state (state.ending limits row kind payload).1 (state.ending limits row kind payload).2

/-- The outbox takes the interruption of a resumed run that lost its session. A run that waits for an answer is left
out. -/
def LostSessionReady (limits : AgentHostLimits) (state : AgentHostState) (row : ExecutionRow) : Prop :=
  row.status = .running ∧ resumes row = true ∧
    CanQueue limits state (interruptedKey row.identity) (interruption row .acpSessionLost true)

theorem applyLostSession_returns (found : state.executions.find sequence = some row) (evidenced : row.Evidenced)
    (status : row.status ∈ [.running, .interactionWait]) (ready : LostSessionReady limits state row) :
    ∃ next, applyLostSession limits sequence state = .ok next := by
  have cases := @applyLostSession_cases limits state True sequence row found evidenced status
  rw [if_pos ⟨ready.1, ready.2.1⟩] at cases
  obtain ⟨_, _, applied⟩ := cases
  rw [applied, map_returns, queue_returns]
  exact ready.2.2

end Settlements

section Cancellations
variable {other : AgentHostState}

theorem CanQueue.congr {key : String} {event : ExecutionHostEvent} (outbox : other.outbox = state.outbox)
    (drawn : other.drawnIds = state.drawnIds) : CanQueue limits other key event ↔ CanQueue limits state key event := by
  unfold CanQueue
  rw [outbox, drawn]

theorem ending_congr {kind : TerminalKind} {payload : DispatchOutcome} {last : ExecutionRow}
    (outbox : other.outbox = state.outbox) (drawn : other.drawnIds = state.drawnIds) (identity : last.identity = row.identity) :
    other.ending limits last kind payload = state.ending limits row kind payload := by
  unfold ending boundedOutcome
  rw [outbox, drawn, identity]

/-- A received cancellation finds no other intent to cancel the execution, and room for the end of one that has not
started or was interrupted. -/
def CancellationReady (limits : AgentHostLimits) (state : AgentHostState) (sequence : Nat) : Prop :=
  ∃ raw identity reason, state.inbox.find sequence = some raw ∧
    cancellationForMailboxCommand raw.command = some (identity, reason) ∧
    ∀ row, state.cancelled identity = some row →
      (row.cancellationIntent = none ∨ row.cancellationIntent = some (.cancelled reason sequence)) ∧
        ∀ failure, cancellationFailure row.status = some failure → EndingReady limits state .cancelled (.failure failure) row

theorem cancelExecution_returns {intent : CancellationIntent} (found : other.executions.find row.sequence = some row)
    (active : row.status.terminal = false) (outbox : other.outbox = state.outbox) (drawn : other.drawnIds = state.drawnIds)
    (free : row.cancellationIntent = none ∨ row.cancellationIntent = some intent)
    (room : ∀ failure, cancellationFailure row.status = some failure →
      EndingReady limits state .cancelled (.failure failure) row) :
    ∃ result, cancelExecution limits other row intent = .ok result := by
  have marked := @setCancellationIntent_cases other row.sequence row intent found
  rw [if_pos free] at marked
  unfold cancelExecution
  rw [marked]
  simp only [Except.bind]
  split
  · rename_i failure status
    have present : (other.setRow (withCancellation row intent)).executions.find row.sequence =
        some (withCancellation row intent) := setRow_found other rfl
    have allowed : TerminalKind.cancelled.status ∈ (withCancellation row intent).status.transitions :=
      (failed_allowed active).2
    have same := @ending_congr limits state row (other.setRow (withCancellation row intent)) .cancelled (.failure failure)
      (withCancellation row intent) outbox drawn rfl
    rw [map_returns, finishExecution_returns present allowed, same]
    exact (CanQueue.congr outbox drawn).mpr (room failure status)
  · exact ⟨_, rfl⟩

theorem applyCancellation_returns (ready : CancellationReady limits state sequence) :
    ∃ result, state.applyCancellation limits sequence = .ok result := by
  obtain ⟨_, _, _, found, command, row⟩ := ready
  rw [applyCancellation_eq found command]
  split
  · exact ⟨_, rfl⟩
  obtain ⟨executions, outbox, _, drawn, _⟩ := setProcessed_same state sequence true
  split
  · exact ⟨_, rfl⟩
  rename_i execution active
  obtain ⟨free, room⟩ := row execution active
  obtain ⟨present, _, live⟩ := cancelled_some active
  rw [← executions] at present
  exact cancelExecution_returns present live outbox drawn free room

end Cancellations
end AgentHostState

namespace ExecutionStep
variable (limits : AgentHostLimits)

def Ready (state : AgentHostState) : ExecutionStep → Prop
  | completeExecution sequence expected result now =>
    AgentHostState.SettlementReady limits state sequence expected [.running, .interactionWait] now
      (AgentHostState.EndingReady limits state .completed (.result result))
  | failExecution sequence expected failure now =>
    AgentHostState.SettlementReady limits state sequence expected [.preparing, .running, .interactionWait] now fun row =>
      AgentHostState.EndingReady limits state (AgentHostState.failureKind row) (.failure failure) row
  | failResumption sequence expected now =>
    AgentHostState.SettlementReady limits state sequence expected [.running, .interactionWait] now
      (AgentHostState.LostSessionReady limits state)
  | applyCancellation sequence => AgentHostState.CancellationReady limits state sequence
  | _ => False

end ExecutionStep

namespace AgentHostState
variable (limits : AgentHostLimits)

def EventsOnce (state : AgentHostState) : Prop :=
  ∀ left ∈ state.outbox.rows, ∀ right ∈ state.outbox.rows, ∀ identity,
    (left.event.payload = .execution (.dispatchAccepted identity) →
      right.event.payload = .execution (.dispatchAccepted identity) → left = right) ∧
    ∀ reason recovery otherReason otherRecovery,
      left.event.payload = .execution (.dispatchInterrupted identity reason recovery) →
      right.event.payload = .execution (.dispatchInterrupted identity otherReason otherRecovery) → left = right

structure Keeps (state : AgentHostState) (step : ExecutionStep) : Prop where
  follows : ∀ sequence, ExecutionRow.Follows step.shifts (state.executions.find sequence)
    ((state.perform limits step).executions.find sequence)
  accounted : (∀ row ∈ state.executions, row.Accounted state.outbox.rows) ∧
    ∀ row ∈ (state.perform limits step).executions, row.Accounted (state.perform limits step).outbox.rows
  once : state.EventsOnce ∧ (state.perform limits step).EventsOnce
  replaced : ∀ sequence expected now, step.settlement = some (sequence, expected, now) →
    ∀ row, state.executions.find sequence = some row → row.identity ≠ expected → state.perform limits step = state
  expired : ∀ sequence expected now, step.settlement = some (sequence, expected, now) →
    ∀ row, state.executions.find sequence = some row → Expired row now →
      ∀ last, (state.perform limits step).executions.find sequence = some last → last.status.terminal = true →
        row.status = .accepted ∧ last.status = .failed
  returns : step.Ready limits state → ∃ next, state.outcome limits step = .ok next

variable {limits} {state next : AgentHostState} {sequence : Nat} {row : ExecutionRow} {step : ExecutionStep}

section Keeping
variable {expected : LeaseIdentity} {now : Timestamp}

theorem Sound.eventsOnce (sound : state.Sound) : state.EventsOnce := by
  intro left leftMember right rightMember identity
  have leftKeyed := sound.keyed left leftMember
  have rightKeyed := sound.keyed right rightMember
  constructor
  · intro leftAccepts rightAccepts
    have same := (leftKeyed.accepted identity leftAccepts).trans (rightKeyed.accepted identity rightAccepts).symm
    exact eq_of_key leftMember rightMember same
  · intro reason recovery otherReason otherRecovery leftInterrupts rightInterrupts
    have same := (leftKeyed.interrupted identity reason recovery leftInterrupts).trans
      (rightKeyed.interrupted identity otherReason otherRecovery rightInterrupts).symm
    exact eq_of_key leftMember rightMember same

theorem outcome_settlement (settles : step.settlement = some (sequence, expected, now)) :
    ∃ allowed apply_, state.outcome limits step =
      (settle limits state sequence expected allowed now apply_).map (·.1) := by
  cases step with
  | completeExecution =>
    cases settles
    exact ⟨_, _, congrArg (Except.map Prod.fst) completeExecution_eq⟩
  | failExecution =>
    cases settles
    exact ⟨_, _, congrArg (Except.map Prod.fst) failExecution_eq⟩
  | failResumption =>
    cases settles
    exact ⟨_, _, congrArg (Except.map Prod.fst) failResumption_eq⟩
  | _ => cases settles

theorem settlement_replaced (settles : step.settlement = some (sequence, expected, now))
    (found : state.executions.find sequence = some row) (replaced : row.identity ≠ expected) :
    state.perform limits step = state := by
  obtain ⟨_, _, same⟩ := @outcome_settlement limits state sequence step expected now settles
  unfold perform
  rw [same, settle_cases found, if_pos replaced]
  rfl

theorem expired_failed (found : state.executions.find row.sequence = some row) (status : row.status = .accepted)
    (done : state.expireExecution limits row = .ok next) :
    ∃ last, next.executions.find row.sequence = some last ∧ last.status = .failed := by
  have allowed : TerminalKind.failed.status ∈ row.status.transitions := by
    rw [status]
    decide
  rw [expired_accepted status, finishExecution_eq found allowed] at done
  obtain ⟨⟨_, _⟩, _, rfl⟩ := map_ok.mp done
  refine ⟨_, setRow_found _ rfl, ?_⟩
  unfold boundedOutcome
  dsimp only
  split
  · rfl
  · rfl

section
variable (sound : state.Sound)
include sound

theorem expired_interrupted (found : state.executions.find row.sequence = some row)
    (leased : row.status.leased = true) (status : row.status ≠ .accepted)
    (done : state.expireExecution limits row = .ok next) : next.executions.find row.sequence = some row.lost := by
  rw [expired_started found leased status (sound.evidenced row (find_eq_some.mp found).1)] at done
  obtain ⟨⟨_, _⟩, queueing, rfl⟩ := map_ok.mp done
  obtain ⟨_, rfl, _⟩ := queue_ok queueing
  exact setRow_find state row.lost

theorem settlement_expired (settles : step.settlement = some (sequence, expected, now))
    (found : state.executions.find sequence = some row) (expired : Expired row now) {last : ExecutionRow}
    (kept : (state.perform limits step).executions.find sequence = some last) (ended : last.status.terminal = true) :
    row.status = .accepted ∧ last.status = .failed := by
  have active : row.status.terminal = false := (interrupted_allowed expired.1).2
  have changed : ¬ state.executions.find sequence = some last := by
    intro same
    cases found.symm.trans same
    rw [active] at ended
    cases ended
  obtain ⟨_, _, same⟩ := @outcome_settlement limits state sequence step expected now settles
  unfold perform at kept
  rw [same, settle_cases found, if_pos expired] at kept
  by_cases replaced : row.identity ≠ expected
  · rw [if_pos replaced] at kept
    exact absurd kept changed
  rw [if_neg replaced] at kept
  cases done : state.expireExecution limits row with
  | error =>
    rw [done] at kept
    exact absurd kept changed
  | ok next =>
    rw [done] at kept
    have present : next.executions.find sequence = some last := kept
    have keyed := find_sequence found
    subst keyed
    by_cases status : row.status = .accepted
    · obtain ⟨_, foundFailed, failedStatus⟩ := expired_failed found status done
      cases present.symm.trans foundFailed
      exact ⟨status, failedStatus⟩
    · cases present.symm.trans (expired_interrupted sound found expired.1 status done)
      cases ended

theorem ready_returns (ready : step.Ready limits state) : ∃ next, state.outcome limits step = .ok next := by
  cases step with
  | completeExecution =>
    apply map_returns.mpr
    rw [completeExecution_eq]
    apply settle_returns sound ready
    intro row found status room
    exact (finishExecution_returns found (completed_allowed status)).mpr room
  | failExecution =>
    apply map_returns.mpr
    rw [failExecution_eq]
    apply settle_returns sound ready
    intro row found status room
    rw [applyFailure_eq found]
    exact (finishExecution_returns found (failureKind_allowed (settled_active status rfl))).mpr room
  | failResumption =>
    apply map_returns.mpr
    rw [failResumption_eq]
    apply settle_returns sound ready
    intro row found status room
    exact applyLostSession_returns found (sound.evidenced row (find_eq_some.mp found).1) status room
  | applyCancellation => exact map_returns.mpr (applyCancellation_returns ready)
  | _ => cases ready

theorem Sound.keeps (step : ExecutionStep) : state.Keeps limits step where
  follows sequence := (perform_moves sound).follows sequence
  accounted := ⟨sound.accounted, ((perform_moves sound).moves.sound sound).accounted⟩
  once := ⟨sound.eventsOnce, ((perform_moves sound).moves.sound sound).eventsOnce⟩
  replaced _ _ _ settles _ found other := settlement_replaced settles found other
  expired _ _ _ settles _ found expired _ kept ended := settlement_expired sound settles found expired kept ended
  returns ready := ready_returns sound ready

theorem Sound.run_keeps (steps : List ExecutionStep) : Runs.Along (perform limits) (Keeps limits) steps state := by
  induction steps generalizing state with
  | nil => trivial
  | cons step _ ih => exact ⟨sound.keeps step, ih ((perform_moves sound).moves.sound sound)⟩
end
end Keeping

theorem execution_runs_keep (limits : AgentHostLimits) (maxPayloadBytes : Nat) (steps : List ExecutionStep) :
    Runs.Along (perform limits) (Keeps limits) steps (initial maxPayloadBytes) :=
  (Sound.initial maxPayloadBytes).run_keeps steps

section Sample

def Received (state : AgentHostState) : ExecutionStep → Prop
  | .applyCancellation sequence => ∃ row ∈ state.inbox.rows, row.sequence = sequence ∧
    (cancellationForMailboxCommand row.command).isSome = true
  | step => step.settlement.isSome = true

structure Promises (limits : AgentHostLimits) (state : AgentHostState) (step : ExecutionStep) : Prop where
  follows : ∀ sequence, ExecutionRow.Follows step.shifts (state.executions.find sequence)
    ((state.perform limits step).executions.find sequence)
  unchanged : ∀ row ∈ state.executions.rows, row.status.terminal = true →
    (state.perform limits step).executions.find row.sequence = some row
  accounted : (∀ row ∈ state.executions, row.Accounted state.outbox.rows) ∧
    ∀ row ∈ (state.perform limits step).executions, row.Accounted (state.perform limits step).outbox.rows
  once : state.EventsOnce ∧ (state.perform limits step).EventsOnce
  current : ∀ sequence expected now, step.settlement = some (sequence, expected, now) →
    ∀ row ∈ state.executions.rows, row.sequence = sequence → row.status.terminal = false →
      row.identity ≠ expected ∨ Expired row now → ∀ last ∈ (state.perform limits step).executions.rows,
        last.sequence = sequence → last.status.terminal = false
  returns : state.Received step → (state.outcome limits step).isOk = true

theorem Promises.last {before : List ExecutionStep} {start : AgentHostState}
    (along : Runs.Along (perform limits) (Promises limits) (before ++ [step]) start) :
    Promises limits (Runs.run (perform limits) before start) step := (Runs.along_append.mp along).2.1

def hostLimits (maxPendingEvents : Nat) : AgentHostLimits where
  maxPendingEvents := maxPendingEvents
  bytes _ := 100
  maxPendingCommands := 16
  maxCapabilitiesBytes := 1000
  maxActionsPerExecution := 16
  maxRemoteRecordsPerExecution := 64
  maxRemoteRecordBytes := 1000
  capabilitiesBytes _ := 100
  recordBytes _ := 100
  fragmentSchema _ := true
  eventSchema _ := true
  recoveryId _ _ _ := ⟨"recovery:0f", by decide⟩

def hostIdentity : LeaseIdentity where
  dispatchId := ⟨"host-dispatch", by decide⟩
  leaseId := ⟨"host-lease", by decide⟩
  executionAttemptId := ⟨"host-attempt", by decide⟩

def resumedIdentity : LeaseIdentity := { hostIdentity with leaseId := ⟨"resumed-lease", by decide⟩ }

def hostCommand : ExecuteBlockCommand where
  identity := hostIdentity
  protocolVersion := 1
  leaseExpiresAt := 100
  envelopeDigest := "sha256:0"
  envelope := ⟨1, ⟨"host-workspace", by decide⟩, ⟨"host-profile", by decide⟩, "main", "content"⟩

def delivery (sequence : Nat) (messageId : String) (command : HostMailboxCommand) : ExecutionStep :=
  .receive ⟨command.historical, sequence, sequence - 1, messageId, command, rfl⟩ 1

def engineRecord (identity : LeaseIdentity) (sequence : Nat) (body : RemoteEngineEventBody) : ExecutionStep :=
  .append ⟨identity, .engineEvent ⟨sequence, "2026-01-01T00:00:00Z", body⟩⟩

def sessionRecords (identity : LeaseIdentity) (loaded : Bool) : List ExecutionStep :=
  [engineRecord identity 1 (.capabilitySnapshot ⟨1, none, [], [], ["history-load"], ["history-load"], []⟩),
    engineRecord identity 2 (.sessionStarted "session" loaded)]

def startSteps : List ExecutionStep := [delivery 1 "execute" (.executeBlock hostCommand), .startExecution 1 2]

def sessionSteps : List ExecutionStep :=
  .setRemoteRunnerEventProtocolVersion (some 2) :: startSteps ++ sessionRecords hostIdentity false

def waitingSteps : List ExecutionStep :=
  sessionSteps ++ [.recoverInterruptedExecutions,
    delivery 2 "resume" (.resumeExecution resumedIdentity 200 ⟨"session", "recovery:0f"⟩), .startResumption 1 4] ++
    sessionRecords resumedIdentity true ++
    [.append ⟨resumedIdentity, .permissionRequest ⟨"request", some "session", "Allow?", "[]"⟩ 90⟩]

def returnedSteps : List ExecutionStep :=
  sessionSteps ++ [.recoverInterruptedExecutions,
    delivery 2 "resume" (.resumeExecution resumedIdentity 200 ⟨"session", "recovery:0f"⟩), .recoverInterruptedExecutions,
    delivery 3 "return" (.resumeExecution hostIdentity 300 ⟨"session", "recovery:0f"⟩), .startResumption 1 5]

def cancelledSteps : List ExecutionStep :=
  startSteps ++ [delivery 2 "cancel" (.cancelExecution hostIdentity "first"), .applyCancellation 2,
    delivery 3 "again" (.cancelExecution hostIdentity "second")]

def completion : ExecutionStep := .completeExecution 1 hostIdentity ⟨"summary", "report", []⟩ 3

def Breaks (maxPendingEvents : Nat) (before : List ExecutionStep) (step : ExecutionStep) : Prop :=
  ¬ Runs.Along (perform (hostLimits maxPendingEvents)) (Promises (hostLimits maxPendingEvents)) (before ++ [step])
    (initial 1000)

theorem late_record_breaks : Breaks 64 (sessionSteps ++ [completion]) (engineRecord hostIdentity 3 (.lifecycle "exited")) := by
  intro along
  have unchanged := (Promises.last along).unchanged
  have cursors : ∀ row ∈ (Runs.run (perform (hostLimits 64)) (sessionSteps ++ [completion]) (initial 1000)).executions.rows,
      row.status.terminal = true →
        (((Runs.run (perform (hostLimits 64)) (sessionSteps ++ [completion]) (initial 1000)).perform (hostLimits 64)
          (engineRecord hostIdentity 3 (.lifecycle "exited"))).executions.find row.sequence).map ExecutionRow.eventCursor =
            some row.eventCursor := by
    intro row member ended
    rw [unchanged row member ended]
    rfl
  revert cursors
  decide +kernel

theorem early_expiry_breaks :
    Breaks 64 [delivery 1 "execute" (.executeBlock hostCommand)] (.failExecution 1 hostIdentity cancelledFailure 100) := by
  intro along
  have current := (Promises.last along).current 1 hostIdentity 100 rfl
  revert current
  decide +kernel

theorem full_outbox_breaks : Breaks 2 startSteps completion := by
  intro along
  have returns := (Promises.last along).returns rfl
  revert returns
  decide +kernel

theorem second_cancellation_breaks : Breaks 64 cancelledSteps (.applyCancellation 3) := by
  intro along
  have received : ∃ row ∈ (Runs.run (perform (hostLimits 64)) cancelledSteps (initial 1000)).inbox.rows,
      row.sequence = 3 ∧ (cancellationForMailboxCommand row.command).isSome = true := by decide +kernel
  have returns := (Promises.last along).returns received
  revert returns
  decide +kernel

theorem waiting_resumption_breaks : Breaks 64 waitingSteps (.failResumption 1 resumedIdentity 5) := by
  intro along
  have returns := (Promises.last along).returns rfl
  revert returns
  decide +kernel

theorem returned_lease_breaks : Breaks 64 returnedSteps (.failResumption 1 hostIdentity 6) := by
  intro along
  have returns := (Promises.last along).returns rfl
  revert returns
  decide +kernel

/-- A late record moves the cursor of an execution that has ended, an execution that never started ends when its lease has
run out, and no call returns without the room or in the state that it asks for, or when its event meets an older one of the
same key. -/
theorem executions_break_promises :
    Breaks 64 (sessionSteps ++ [completion]) (engineRecord hostIdentity 3 (.lifecycle "exited")) ∧
      Breaks 64 [delivery 1 "execute" (.executeBlock hostCommand)] (.failExecution 1 hostIdentity cancelledFailure 100) ∧
      Breaks 2 startSteps completion ∧ Breaks 64 cancelledSteps (.applyCancellation 3) ∧
      Breaks 64 waitingSteps (.failResumption 1 resumedIdentity 5) ∧ Breaks 64 returnedSteps (.failResumption 1 hostIdentity 6) :=
  ⟨late_record_breaks, early_expiry_breaks, full_outbox_breaks, second_cancellation_breaks, waiting_resumption_breaks,
    returned_lease_breaks⟩

end Sample
end AgentHostState
end PlanWeave
