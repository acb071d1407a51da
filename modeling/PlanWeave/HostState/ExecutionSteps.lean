import PlanWeave.HostState.ExecutionMoves

namespace PlanWeave
open Checked Table
variable {status : AgentHostExecutionStatus}

namespace AgentHostExecutionStatus

theorem failed_allowed (active : status.terminal = false) :
    failed ∈ status.transitions ∧ cancelled ∈ status.transitions := by
  cases status <;> first | decide | cases active

theorem interrupted_allowed (leased : status.leased = true) :
    interrupted ∈ status.transitions ∧ status.terminal = false := by
  cases status <;> first | decide | cases leased

end AgentHostExecutionStatus

theorem QueuedHostEvent.text_execution {queued : QueuedHostEvent} {event : ExecutionHostEvent} :
    queued.text = .execution event ↔ queued.payload = .execution event := by
  unfold text
  cases queued.payload <;> simp

def ExecutionRow.lost (row : ExecutionRow) : ExecutionRow :=
  { row with recoveryIntent := some (.leaseLost row.recoveryIntent), status := .interrupted }

namespace AgentHostState
variable {limits : AgentHostLimits} {state next : AgentHostState} {loud : Prop} {sequence : Nat} {row : ExecutionRow}

section Repository

@[simp] theorem setRow_find (state : AgentHostState) (row : ExecutionRow) :
    (state.setRow row).executions.find row.sequence = some row := find_put

theorem setRow_found (state : AgentHostState) (keyed : row.sequence = sequence) :
    (state.setRow row).executions.find sequence = some row := by
  subst keyed
  exact setRow_find state row

theorem setRow_setRow {first second : ExecutionRow} (same : first.sequence = second.sequence) :
    (state.setRow first).setRow second = state.setRow second := by
  unfold setRow
  rw [put_put same]

theorem find_sequence (found : state.executions.find sequence = some row) : row.sequence = sequence :=
  (find_eq_some.mp found).2

theorem require_ok : state.require sequence = .ok row ↔ state.executions.find sequence = some row := by
  unfold require
  cases state.executions.find sequence <;> simp

theorem transition_eq (found : state.executions.find sequence = some row) (allowed : status ∈ row.status.transitions) :
    state.transition sequence status = .ok (state.setRow { row with status := status }) := by
  unfold transition
  rw [require_ok.mpr found]
  have other := (AgentHostExecutionStatus.active_of_transition allowed).2
  simp [bind, Except.bind, other, allowed, Pure.pure, Except.pure]

theorem finish_eq {kind : TerminalKind} {payload : DispatchOutcome} {id : String}
    (found : state.executions.find sequence = some row) (allowed : kind.status ∈ row.status.transitions) :
    state.finish sequence kind payload id =
      .ok (state.setRow { row with status := kind.status, terminal := some ⟨kind, payload, id⟩ }) := by
  have active := (AgentHostExecutionStatus.active_of_transition allowed).1
  have keyed := find_sequence found
  have again : (state.setRow { row with status := kind.status }).executions.find sequence = some _ :=
    setRow_found state keyed
  unfold finish
  rw [require_ok.mpr found, transition_eq found allowed]
  simp only [bind, Except.bind, active, Bool.false_eq_true, if_false, require_ok.mpr again, Pure.pure, Except.pure]
  exact congrArg Except.ok (setRow_setRow rfl)

end Repository

section Queue
variable {key : String} {event : ExecutionHostEvent} {queued : QueuedHostEvent}

/-- The outbox takes an event: it fits the payload budget, and its key holds the same event or there is room for it. -/
def CanQueue (limits : AgentHostLimits) (state : AgentHostState) (key : String) (event : ExecutionHostEvent) : Prop :=
  limits.bytes ⟨messageId state.drawnIds, .execution event⟩ ≤ state.outbox.maxPayloadBytes ∧
    match state.outbox.rows.find (.other key) with
    | some known => known.event.payload = .execution event
    | none => state.outbox.pendingCount < limits.maxPendingEvents

theorem queue_ok (done : state.queue limits key event = .ok (next, queued)) :
    ∃ outbox, next = { state with outbox := outbox, drawnIds := state.drawnIds + 1 } ∧
      outbox.maxPayloadBytes = state.outbox.maxPayloadBytes ∧
      ((outbox.rows = state.outbox.rows ∧ ∃ known, state.outbox.rows.find (.other key) = some known ∧
          known.event.payload = .execution event ∧ queued = known.event) ∨
        (state.outbox.rows.find (.other key) = none ∧ queued = ⟨messageId state.drawnIds, .execution event⟩ ∧
          outbox.rows = state.outbox.rows.put ⟨.other key, queued, false⟩)) := by
  obtain ⟨⟨outbox, _⟩, queueing, done⟩ := bind_ok.mp done
  cases done
  refine ⟨outbox, rfl, (EventOutbox.queue_grown queueing).2, ?_⟩
  rcases (EventOutbox.queue_ok queueing).2 with ⟨known, found, same, rfl, rfl⟩ | ⟨absent, rfl, rfl⟩
  · exact .inl ⟨rfl, known, found, QueuedHostEvent.text_execution.mp (of_decide_eq_true same), rfl⟩
  · exact .inr ⟨absent, rfl, rfl⟩

theorem queue_returns : (∃ result, state.queue limits key event = .ok result) ↔ CanQueue limits state key event := by
  unfold queue EventOutbox.queue EventOutbox.encode CanQueue
  by_cases fits : limits.bytes ⟨messageId state.drawnIds, .execution event⟩ ≤ state.outbox.maxPayloadBytes
  · rw [if_neg (Nat.not_lt.mpr fits)]
    cases found : state.outbox.rows.find (.other key) with
    | none =>
      by_cases room : state.outbox.pendingCount < limits.maxPendingEvents
      · simp [bind, Except.bind, room, Nat.not_le.mpr room, fits, Pure.pure, Except.pure]
      · simp [bind, Except.bind, room, Nat.not_lt.mp room, fits]
    | some known =>
      have same : known.event.sameEventPayload ⟨messageId state.drawnIds, .execution event⟩ = true ↔
          known.event.payload = .execution event := by
        rw [QueuedHostEvent.sameEventPayload, decide_eq_true_iff]
        exact QueuedHostEvent.text_execution
      by_cases equal : known.event.payload = .execution event
      · simp [bind, Except.bind, same.mpr equal, equal, fits, Pure.pure, Except.pure]
      · have different := mt same.mp equal
        simp [bind, Except.bind, different, equal, fits]
  · simp [bind, Except.bind, Nat.not_le.mp fits, fits]

theorem queue_move (done : state.queue limits key event = .ok (next, queued)) (plain : event.ending = none)
    (keyed : ∀ id, OutboxRow.Keyed ⟨.other key, ⟨id, .execution event⟩, false⟩)
    (heard : loud ∨ ∀ message, event ≠ .acpEvents message) : Move loud sequence state next false := by
  obtain ⟨_, rfl, _, ⟨rows, _⟩ | ⟨fresh, rfl, rows⟩⟩ := queue_ok done
  · exact .aside rfl rows (.of_eq rfl) le_rfl (.inr ⟨rfl, rfl⟩)
  refine .queued ⟨.other key, ⟨messageId state.drawnIds, .execution event⟩, false⟩ fresh plain (keyed _) rfl rows rfl rfl
    ⟨rfl, rfl⟩ (heard.imp_right fun silent => ?_)
  unfold OutboxRow.relayed
  split
  · rename_i message same
    cases same
    exact absurd rfl (silent message)
  · rfl

end Queue

section Ending
variable {kind : TerminalKind} {payload : DispatchOutcome}

def ending (limits : AgentHostLimits) (state : AgentHostState) (row : ExecutionRow) (kind : TerminalKind)
    (payload : DispatchOutcome) : String × ExecutionHostEvent :=
  terminalEvent row.identity (state.boundedOutcome limits row.identity kind payload).2

theorem bounded_allowed (allowed : kind.status ∈ row.status.transitions) :
    (state.boundedOutcome limits row.identity kind payload).1.status ∈ row.status.transitions := by
  have others := AgentHostExecutionStatus.failed_allowed (AgentHostExecutionStatus.active_of_transition allowed).1
  unfold boundedOutcome
  dsimp only
  split
  · exact allowed
  · dsimp only
    split
    · exact others.2
    · exact others.1

theorem finishExecution_eq (found : state.executions.find sequence = some row)
    (allowed : kind.status ∈ row.status.transitions) :
    state.finishExecutionInCurrentTransaction limits sequence kind payload =
      (state.queue limits (state.ending limits row kind payload).1 (state.ending limits row kind payload).2).map fun result =>
        let outcome := state.boundedOutcome limits row.identity kind payload
        result.1.setRow { row with
          status := outcome.1.status, terminal := some ⟨outcome.1, outcome.2, result.2.messageId⟩ } := by
  unfold finishExecutionInCurrentTransaction
  rw [found]
  cases queueing : state.queue limits (state.ending limits row kind payload).1 (state.ending limits row kind payload).2 with
  | error =>
    unfold ending at queueing
    simp only [queueing, bind, Except.bind, Except.map]
  | ok result =>
    obtain ⟨_, same, _⟩ := queue_ok queueing
    have kept : result.1.executions.find sequence = some row := by
      rw [same]
      exact found
    unfold ending at queueing
    simp only [queueing, bind, Except.bind, Except.map]
    exact finish_eq kept (bounded_allowed allowed)

theorem finishExecution_moves (sound : state.Sound) (found : state.executions.find sequence = some row)
    (allowed : kind.status ∈ row.status.transitions)
    (done : state.finishExecutionInCurrentTransaction limits sequence kind payload = .ok next) :
    StepsAt loud sequence 1 state next := by
  rw [finishExecution_eq found allowed] at done
  obtain ⟨⟨_, _⟩, queueing, rfl⟩ := map_ok.mp done
  have active := (AgentHostExecutionStatus.active_of_transition allowed).1
  have present := (find_eq_some.mp found).1
  have names : ∀ out : OutboxRow, out.event.payload = .execution (state.ending limits row kind payload).2 →
      out.ending = some (row.identity, (state.boundedOutcome limits row.identity kind payload).2) := by
    intro out same
    rw [OutboxRow.ending, same]
    exact terminalEvent_ending _ _
  obtain ⟨_, rfl, _, ⟨_, known, held, same, _⟩ | ⟨fresh, rfl, rows⟩⟩ := queue_ok queueing
  · have unended := (sound.accounted row present).unended active (find_eq_some.mp held).1
    exact absurd (OutboxRow.endsAttempt_iff.mpr ⟨_, names known same, rfl⟩) unended
  refine Move.shift (.ended row _ ⟨_, _, messageId state.drawnIds⟩ found active (bounded_allowed allowed) fresh
    (names _ rfl) rfl ⟨?_, ?_⟩ rfl rows rfl rfl ⟨rfl, rfl⟩)
  all_goals
    intros
    rename_i same
    unfold ending terminalEvent at same
    split at same <;> cases same

theorem finishExecution_returns (found : state.executions.find sequence = some row)
    (allowed : kind.status ∈ row.status.transitions) :
    (∃ next, state.finishExecutionInCurrentTransaction limits sequence kind payload = .ok next) ↔
      CanQueue limits state (state.ending limits row kind payload).1 (state.ending limits row kind payload).2 := by
  rw [finishExecution_eq found allowed, ← queue_returns]
  simp only [map_ok]
  constructor
  · rintro ⟨_, result, queueing, _⟩
    exact ⟨result, queueing⟩
  · rintro ⟨result, queueing⟩
    exact ⟨_, result, queueing, rfl⟩

end Ending

section Interruption
variable {reason : InterruptionReason} {force : Bool}

def interruption (row : ExecutionRow) (reason : InterruptionReason) (force : Bool) : ExecutionHostEvent :=
  .dispatchInterrupted row.identity reason
    (match row.acpSessionId, row.recoveryId with
    | some acpSessionId, some recoveryId =>
      if !force && advertisesSessionLoad row then some ⟨acpSessionId, recoveryId⟩ else none
    | _, _ => none)

theorem createInterruptedEvent_eq (evidenced : row.Evidenced) :
    createInterruptedEvent row reason force = .ok (interruption row reason force) := by
  unfold createInterruptedEvent interruption
  cases session : row.acpSessionId with
  | none => rfl
  | some acpSessionId =>
    cases recovery : row.recoveryId with
    | none => rfl
    | some recoveryId =>
      have named : (opaqueIdentifierSchema acpSessionId && opaqueIdentifierSchema recoveryId) = true := by
        rw [evidenced.session _ session, evidenced.recovery _ recovery]
        rfl
      dsimp only
      rw [if_pos named]
      by_cases resumable : (!force && advertisesSessionLoad row) = true
      · rw [if_pos resumable, if_pos resumable]
      · rw [if_neg resumable, if_neg resumable]

theorem queueInterrupted_eq (found : state.executions.find sequence = some row) (evidenced : row.Evidenced) :
    state.queueInterrupted limits sequence reason force =
      (state.queue limits (interruptedKey row.identity) (interruption row reason force)).map (·.1) := by
  unfold queueInterrupted
  rw [require_ok.mpr found]
  simp only [bind, Except.bind, createInterruptedEvent_eq evidenced]
  cases state.queue limits (interruptedKey row.identity) (interruption row reason force) <;> rfl

theorem interruption_keyed (id : String) :
    OutboxRow.Keyed ⟨.other (interruptedKey row.identity), ⟨id, .execution (interruption row reason force)⟩, false⟩ := by
  constructor
  · intro identity same
    cases same
  · intro identity _ _ same
    cases same
    rfl

theorem interruption_silent : loud ∨ ∀ message, interruption row reason force ≠ .acpEvents message :=
  .inr fun message same => by cases same

theorem queueInterrupted_moves (found : state.executions.find sequence = some row) (evidenced : row.Evidenced)
    (done : state.queueInterrupted limits sequence reason force = .ok next) : Rests loud sequence state next := by
  rw [queueInterrupted_eq found evidenced] at done
  obtain ⟨⟨_, _⟩, queueing, rfl⟩ := map_ok.mp done
  exact .single (queue_move queueing rfl interruption_keyed interruption_silent)

end Interruption

section Expiry

theorem expired_accepted (status : row.status = .accepted) : state.expireExecution limits row =
    state.finishExecutionInCurrentTransaction limits row.sequence .failed (.failure leaseExpiredFailure) :=
  if_neg (not_not.mpr status)

theorem lost_evidenced (evidenced : row.Evidenced) : row.lost.Evidenced :=
  ⟨evidenced.session, evidenced.recovery, evidenced.cursor, fun _ _ _ _ same => by cases same⟩

theorem expired_started (found : state.executions.find row.sequence = some row) (leased : row.status.leased = true)
    (status : row.status ≠ .accepted) (evidenced : row.Evidenced) :
    state.expireExecution limits row = ((state.setRow row.lost).queue limits (interruptedKey row.identity)
      (interruption row .leaseLost false)).map (·.1) := by
  have allowed := (AgentHostExecutionStatus.interrupted_allowed leased).1
  have intended := setRow_find state { row with recoveryIntent := some (.leaseLost row.recoveryIntent) }
  have joined : (state.setRow { row with recoveryIntent := some (.leaseLost row.recoveryIntent) }).setRow row.lost =
      state.setRow row.lost := setRow_setRow rfl
  have moved := (transition_eq intended allowed).trans (congrArg Except.ok joined)
  rw [expireExecution, if_pos status, replaceRecoveryIntent, require_ok.mpr found]
  simp only [bind, Except.bind, Pure.pure, Except.pure, moved]
  have lost : (state.setRow row.lost).executions.find row.sequence = some row.lost := setRow_find state row.lost
  have queued : (state.setRow row.lost).queueInterrupted limits row.sequence .leaseLost false = _ :=
    queueInterrupted_eq lost (lost_evidenced evidenced)
  exact queued

theorem expire_moves (sound : state.Sound) (found : state.executions.find row.sequence = some row)
    (leased : row.status.leased = true) (done : state.expireExecution limits row = .ok next) :
    StepsAt loud row.sequence 1 state next := by
  have evidenced := sound.evidenced row (find_eq_some.mp found).1
  obtain ⟨allowed, active⟩ := AgentHostExecutionStatus.interrupted_allowed leased
  by_cases status : row.status = .accepted
  · rw [expired_accepted status] at done
    have failed : TerminalKind.failed.status ∈ row.status.transitions := (AgentHostExecutionStatus.failed_allowed active).1
    exact finishExecution_moves sound found failed done
  · rw [expired_started found leased status evidenced] at done
    obtain ⟨⟨_, _⟩, queueing, rfl⟩ := map_ok.mp done
    have moved : Move loud row.sequence state (state.setRow row.lost) true :=
      .moved row row.lost found rfl allowed rfl rfl rfl lost_evidenced rfl rfl rfl rfl ⟨⟨rfl, rfl⟩, ⟨rfl, rfl, rfl, fun _ => rfl⟩⟩
    exact moved.shift.trans (queue_move queueing rfl interruption_keyed interruption_silent).rest

def ExpiryReady (limits : AgentHostLimits) (state : AgentHostState) (row : ExecutionRow) : Prop :=
  if row.status = .accepted then
    CanQueue limits state (state.ending limits row .failed (.failure leaseExpiredFailure)).1
      (state.ending limits row .failed (.failure leaseExpiredFailure)).2
  else CanQueue limits state (interruptedKey row.identity) (interruption row .leaseLost false)

theorem map_returns {ε α β : Type} {action : Except ε α} {f : α → β} :
    (∃ result, action.map f = .ok result) ↔ ∃ result, action = .ok result := by
  cases action <;> simp [Except.map]

theorem expire_returns (found : state.executions.find row.sequence = some row) (leased : row.status.leased = true)
    (evidenced : row.Evidenced) :
    (∃ next, state.expireExecution limits row = .ok next) ↔ ExpiryReady limits state row := by
  have active := (AgentHostExecutionStatus.interrupted_allowed leased).2
  unfold ExpiryReady
  by_cases status : row.status = .accepted
  · rw [if_pos status, expired_accepted status]
    have failed : TerminalKind.failed.status ∈ row.status.transitions := (AgentHostExecutionStatus.failed_allowed active).1
    exact finishExecution_returns found failed
  · rw [if_neg status, expired_started found leased status evidenced, map_returns, queue_returns]
    rfl

end Expiry

section Settlement
variable {expected : LeaseIdentity} {allowedStatuses : List AgentHostExecutionStatus} {now : Timestamp}
  {outcome : ExecutionSettlement} {apply_ : AgentHostState → Except HostStateError AgentHostState}

def settle (limits : AgentHostLimits) (state : AgentHostState) (sequence : Nat) (expected : LeaseIdentity)
    (allowedStatuses : List AgentHostExecutionStatus) (now : Timestamp)
    (apply_ : AgentHostState → Except HostStateError AgentHostState) :
    Except HostStateError (AgentHostState × ExecutionSettlement) := do
  let (state, settlement) ← state.executionSettlementGate limits sequence expected allowedStatuses now
  if settlement ≠ .applied then return (state, settlement)
  else
    let state ← apply_ state
    return (state, .applied)

def Expired (row : ExecutionRow) (now : Timestamp) : Prop := row.status.leased = true ∧ row.leaseExpiresAt ≤ now

instance (row : ExecutionRow) (now : Timestamp) : Decidable (Expired row now) := inferInstanceAs (Decidable (_ ∧ _))

theorem settle_cases (found : state.executions.find sequence = some row) :
    settle limits state sequence expected allowedStatuses now apply_ =
      if row.identity ≠ expected then .ok (state, .stale)
      else if Expired row now then (state.expireExecution limits row).map fun next => (next, .leaseLost)
      else if row.status ∈ allowedStatuses ∧ ¬ (row.status = .interrupted ∧ leaseLostIntent row = true) then
        (apply_ state).map fun next => (next, .applied)
      else .ok (state, if row.status = .interrupted ∧ leaseLostIntent row = true then .leaseLost else .stale) := by
  unfold settle executionSettlementGate
  rw [found]
  dsimp only
  by_cases other : row.identity ≠ expected
  · rw [if_pos other, if_pos other]
    rfl
  rw [if_neg other, if_neg other]
  by_cases expired : Expired row now
  · have past : row.status.leased = true ∧ row.leaseExpiresAt ≤ now := expired
    rw [if_pos past, if_pos expired]
    cases state.expireExecution limits row <;> rfl
  have current : ¬ (row.status.leased = true ∧ row.leaseExpiresAt ≤ now) := expired
  rw [if_neg current, if_neg expired]
  by_cases lost : row.status = .interrupted ∧ leaseLostIntent row = true
  · rw [if_pos lost, if_neg fun allowed => allowed.2 lost, if_pos lost]
    rfl
  rw [if_neg lost]
  by_cases member : row.status ∈ allowedStatuses
  · rw [if_pos member, if_pos ⟨member, lost⟩]
    change (apply_ state >>= fun next => Except.ok (next, ExecutionSettlement.applied)) = _
    cases apply_ state <;> rfl
  · rw [if_neg member, if_neg fun allowed => member allowed.1, if_neg lost]
    rfl

theorem settle_missing (missing : state.executions.find sequence = none) :
    settle limits state sequence expected allowedStatuses now apply_ = .ok (state, .stale) := by
  unfold settle executionSettlementGate
  rw [missing]
  rfl

theorem settle_moves (sound : state.Sound)
    (applied : ∀ row, state.executions.find sequence = some row → row.status ∈ allowedStatuses →
      ∀ next, apply_ state = .ok next → StepsAt loud sequence 1 state next)
    (done : settle limits state sequence expected allowedStatuses now apply_ = .ok (next, outcome)) :
    StepsAt loud sequence 1 state next := by
  cases found : state.executions.find sequence with
  | none =>
    rw [settle_missing found] at done
    cases done
    exact .refl
  | some row =>
    have keyed := find_sequence found
    rw [settle_cases found] at done
    split at done
    · cases done
      exact .refl
    split at done
    · rename_i expired
      obtain ⟨_, expiry, same⟩ := map_ok.mp done
      cases same
      subst keyed
      exact expire_moves sound found expired.1 expiry
    split at done
    · rename_i allowed
      obtain ⟨_, settled, same⟩ := map_ok.mp done
      cases same
      exact applied row found allowed.1 _ settled
    · cases done
      exact .refl

end Settlement
end AgentHostState
end PlanWeave
