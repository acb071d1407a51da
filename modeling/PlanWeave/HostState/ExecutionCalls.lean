import PlanWeave.HostState.ExecutionSteps

namespace PlanWeave
open AgentHostExecutionStatus Checked List Table

namespace AgentHostState
variable {limits : AgentHostLimits} {state next : AgentHostState} {loud : Prop} {sequence : Nat} {row : ExecutionRow}
  {expected : LeaseIdentity} {now : Timestamp} {outcome : ExecutionSettlement}

section Settlements
variable {result : ExecutionResult} {failure : NormalizedFailure}

theorem completeExecution_eq : state.completeExecution limits sequence expected result now =
    settle limits state sequence expected [.running, .interactionWait] now fun state =>
      state.finishExecutionInCurrentTransaction limits sequence .completed (.result result) := rfl

def failureKind (row : ExecutionRow) : TerminalKind := if row.cancellationIntent.isSome then .cancelled else .failed

def applyFailure (limits : AgentHostLimits) (sequence : Nat) (failure : NormalizedFailure) (state : AgentHostState) :
    Except HostStateError AgentHostState :=
  let cancelled := (state.executions.find sequence).any (·.cancellationIntent.isSome)
  state.finishExecutionInCurrentTransaction limits sequence (if cancelled then .cancelled else .failed) (.failure failure)

theorem failExecution_eq : state.failExecution limits sequence expected failure now =
    settle limits state sequence expected [.preparing, .running, .interactionWait] now
      (applyFailure limits sequence failure) := rfl

theorem applyFailure_eq (found : state.executions.find sequence = some row) : applyFailure limits sequence failure state =
    state.finishExecutionInCurrentTransaction limits sequence (failureKind row) (.failure failure) := by
  unfold applyFailure failureKind
  rw [found]
  rfl

def applyLostSession (limits : AgentHostLimits) (sequence : Nat) (state : AgentHostState) :
    Except HostStateError AgentHostState := do
  let state ← state.markResumeFailed sequence
  state.queueInterrupted limits sequence .acpSessionLost true

theorem failResumption_eq : state.failResumption limits sequence expected now =
    settle limits state sequence expected [.running, .interactionWait] now (applyLostSession limits sequence) := by
  unfold failResumption settle applyLostSession
  apply bind_congr
  rintro ⟨_, _⟩
  dsimp only
  split
  · rfl
  · simp only [bind_assoc]

theorem failureKind_allowed (active : row.status.terminal = false) : (failureKind row).status ∈ row.status.transitions := by
  obtain ⟨failed, cancelled⟩ := failed_allowed active
  unfold failureKind
  split
  · exact cancelled
  · exact failed

theorem completed_allowed (status : row.status ∈ [.running, .interactionWait]) :
    TerminalKind.completed.status ∈ row.status.transitions := by
  revert status
  cases row.status <;> decide

theorem settled_active {allowed : List AgentHostExecutionStatus} (status : row.status ∈ allowed)
    (active : allowed.all (fun status => !status.terminal) = true) : row.status.terminal = false := by
  have held := all_eq_true.mp active _ status
  simpa using held

def resumes (row : ExecutionRow) : Bool :=
  match row.recoveryIntent with
  | some (.resumeSameSession ..) => true
  | _ => false

theorem resumes_iff : resumes row = true ↔ ∃ leaseId leaseExpiresAt priorLeaseId priorRecovery,
    row.recoveryIntent = some (.resumeSameSession leaseId leaseExpiresAt priorLeaseId priorRecovery) := by
  unfold resumes
  split
  · rename_i same
    simp [same]
  · rename_i other
    simp only [Bool.false_eq_true, false_iff]
    rintro ⟨_, _, _, _, same⟩
    exact other _ _ _ _ same

theorem markResumeFailed_cases (found : state.executions.find sequence = some row) (evidenced : row.Evidenced)
    (status : row.status ∈ [.running, .interactionWait]) :
    if row.status = .running ∧ resumes row = true then
      ∃ intent, (∀ leaseId leaseExpiresAt priorLeaseId priorRecovery,
          intent ≠ .resumeSameSession leaseId leaseExpiresAt priorLeaseId priorRecovery) ∧
        state.markResumeFailed sequence =
          .ok (state.setRow { row with status := .interrupted, recoveryIntent := some intent })
    else ∃ reason, state.markResumeFailed sequence = .error reason := by
  have started : row.status ≠ .interrupted := by
    rintro same
    rw [same] at status
    exact absurd status (by decide)
  unfold markResumeFailed
  rw [require_ok.mpr found]
  simp only [Bind.bind, Except.bind, if_neg started]
  split
  · rename_i both
    obtain ⟨leaseId, leaseExpiresAt, priorLeaseId, priorRecovery, same⟩ := resumes_iff.mp both.2
    have lease := evidenced.resumed leaseId leaseExpiresAt priorLeaseId priorRecovery same
    refine ⟨.sessionLoadFailed leaseId priorRecovery, (fun _ _ _ _ other => by cases other), ?_⟩
    rw [same]
    simp [both.1, lease, Pure.pure, Except.pure]
  · rename_i neither
    split
    · rename_i leaseId leaseExpiresAt priorLeaseId priorRecovery same
      have waiting : row.status = .interactionWait := by
        rcases mem_cons.mp status with running | rest
        · exact absurd ⟨running, resumes_iff.mpr ⟨_, _, _, _, same⟩⟩ neither
        · exact mem_singleton.mp rest
      exact ⟨.executionResumeFailureStateInvalid, by simp [waiting]⟩
    · exact ⟨_, rfl⟩

theorem applyLostSession_cases (found : state.executions.find sequence = some row) (evidenced : row.Evidenced)
    (status : row.status ∈ [.running, .interactionWait]) :
    if row.status = .running ∧ resumes row = true then
      ∃ lost : ExecutionRow, Move loud sequence state (state.setRow lost) true ∧ applyLostSession limits sequence state =
        ((state.setRow lost).queue limits (interruptedKey row.identity) (interruption row .acpSessionLost true)).map (·.1)
    else ∃ reason, applyLostSession limits sequence state = .error reason := by
  have marked := markResumeFailed_cases found evidenced status
  unfold applyLostSession
  split
  · rename_i both
    rw [if_pos both] at marked
    obtain ⟨intent, fresh, marked⟩ := marked
    let lost : ExecutionRow := { row with status := .interrupted, recoveryIntent := some intent }
    have keyed := find_sequence found
    have evidence (held : row.Evidenced) : lost.Evidenced :=
      ⟨held.session, held.recovery, held.cursor, fun _ _ _ _ same => absurd (Option.some.inj same) (fresh _ _ _ _)⟩
    have present : (state.setRow lost).executions.find sequence = some lost := setRow_found state keyed
    have allowed : AgentHostExecutionStatus.interrupted ∈ row.status.transitions := by
      rw [both.1]
      decide
    have unheard : state.SameRecords (state.setRow lost) ∧ row.Unheard lost := ⟨⟨rfl, rfl⟩, ⟨rfl, rfl, rfl, fun _ => rfl⟩⟩
    refine ⟨lost, .moved row lost found keyed allowed rfl rfl rfl evidence rfl rfl rfl rfl unheard, ?_⟩
    rw [marked]
    have queued : (state.setRow lost).queueInterrupted limits sequence .acpSessionLost true = _ :=
      queueInterrupted_eq present (evidence evidenced)
    exact queued
  · rename_i neither
    rw [if_neg neither] at marked
    obtain ⟨reason, marked⟩ := marked
    exact ⟨reason, by rw [marked]; rfl⟩

theorem completeExecution_moves (sound : state.Sound)
    (done : state.completeExecution limits sequence expected result now = .ok (next, outcome)) :
    StepsAt loud sequence 1 state next := by
  rw [completeExecution_eq] at done
  apply settle_moves sound _ done
  intro row found status next finished
  exact finishExecution_moves sound found (completed_allowed status) finished

theorem failExecution_moves (sound : state.Sound)
    (done : state.failExecution limits sequence expected failure now = .ok (next, outcome)) :
    StepsAt loud sequence 1 state next := by
  rw [failExecution_eq] at done
  apply settle_moves sound _ done
  intro row found status next finished
  rw [applyFailure_eq found] at finished
  exact finishExecution_moves sound found (failureKind_allowed (settled_active status rfl)) finished

theorem failResumption_moves (sound : state.Sound)
    (done : state.failResumption limits sequence expected now = .ok (next, outcome)) :
    StepsAt loud sequence 1 state next := by
  rw [failResumption_eq] at done
  apply settle_moves sound _ done
  intro row found status next finished
  have evidenced := sound.evidenced row (find_eq_some.mp found).1
  have lost := @applyLostSession_cases limits state loud sequence row found evidenced status
  split at lost
  · obtain ⟨lost, move, applied⟩ := lost
    rw [applied] at finished
    obtain ⟨⟨_, _⟩, queueing, rfl⟩ := map_ok.mp finished
    exact move.shift.trans (queue_move queueing rfl interruption_keyed interruption_silent).rest
  · obtain ⟨_, refused⟩ := lost
    rw [refused] at finished
    cases finished

end Settlements

section Starting

theorem queueAccepted_eq (found : state.executions.find sequence = some row) : state.queueAccepted limits sequence =
    (state.queue limits (acceptedKey row.identity) (.dispatchAccepted row.identity)).map (·.1) := by
  unfold queueAccepted
  rw [require_ok.mpr found]
  simp only [Bind.bind, Except.bind]
  cases state.queue limits (acceptedKey row.identity) (.dispatchAccepted row.identity) <;> rfl

theorem accepted_keyed (identity : LeaseIdentity) (id : String) :
    OutboxRow.Keyed ⟨.other (acceptedKey identity), ⟨id, .execution (.dispatchAccepted identity)⟩, false⟩ := by
  constructor
  · intro named same
    cases same
    rfl
  · intro named _ _ same
    cases same

theorem queueAccepted_moves (found : state.executions.find sequence = some row)
    (done : state.queueAccepted limits sequence = .ok next) : Rests loud sequence state next := by
  rw [queueAccepted_eq found] at done
  obtain ⟨⟨_, _⟩, queueing, rfl⟩ := map_ok.mp done
  exact .single (queue_move queueing rfl (accepted_keyed _) (.inr fun _ same => by cases same))

theorem status_move {status : AgentHostExecutionStatus} (found : state.executions.find sequence = some row)
    (allowed : status ∈ row.status.transitions) (active : status.terminal = false) :
    Move loud sequence state (state.setRow { row with status := status }) true := by
  have keyed := find_sequence found
  exact .moved row { row with status := status } found keyed allowed active rfl rfl
    (fun held => ⟨held.session, held.recovery, held.cursor, held.resumed⟩) rfl rfl rfl rfl
    ⟨⟨rfl, rfl⟩, ⟨rfl, rfl, rfl, fun _ => rfl⟩⟩

theorem startExecution_moves (sound : state.Sound) (done : state.startExecution limits sequence now = .ok next) :
    StepsAt loud sequence 2 state next := by
  unfold startExecution at done
  split at done
  · cases done
  rename_i current found
  have keyed := find_sequence found
  split at done
  · cases done
    exact .refl
  rename_i accepted
  have status := not_not.mp accepted
  split at done
  · subst keyed
    exact (expire_moves sound found (by rw [status]; rfl) done).mono (by decide)
  have preparing : AgentHostExecutionStatus.preparing ∈ current.status.transitions := by rw [status]; decide
  have prepared : (state.setRow { current with status := .preparing }).executions.find sequence = some _ :=
    setRow_found state keyed
  have started : ((state.setRow { current with status := .preparing }).setRow { current with status := .running }).executions.find
      sequence = some _ := setRow_found _ keyed
  have running : AgentHostExecutionStatus.running ∈ AgentHostExecutionStatus.preparing.transitions := by decide
  rw [transition_eq found preparing] at done
  simp only [Bind.bind, Except.bind] at done
  rw [transition_eq prepared running] at done
  exact ((status_move found preparing rfl).shift.trans (status_move prepared running rfl).shift).trans
    (queueAccepted_moves started done).stepsAt

theorem startResumption_moves (sound : state.Sound) (done : state.startResumption limits sequence now = .ok next) :
    StepsAt loud sequence 1 state next := by
  unfold startResumption at done
  split at done
  · cases done
  rename_i current found
  have keyed := find_sequence found
  split at done
  · cases done
    exact .refl
  rename_i preparing
  have status := not_not.mp preparing
  split at done
  · subst keyed
    exact expire_moves sound found (by rw [status]; rfl) done
  split at done
  · cases done
  have running : AgentHostExecutionStatus.running ∈ current.status.transitions := by rw [status]; decide
  have started : (state.setRow { current with status := .running }).executions.find sequence = some _ :=
    setRow_found state keyed
  rw [transition_eq found running] at done
  exact (status_move found running rfl).shift.trans (queueAccepted_moves started done).stepsAt

end Starting

section Sweeps

theorem mem_list {statuses : AgentHostExecutionStatus → Bool} :
    row ∈ state.list statuses ↔ row ∈ state.executions ∧ statuses row.status = true := by
  unfold list
  rw [mem_insertionSort, mem_filter]
  exact Iff.rfl

theorem list_nodup (state : AgentHostState) (statuses : AgentHostExecutionStatus → Bool) :
    ((state.list statuses).map (·.sequence)).Nodup := by
  have kept : ((state.executions.rows.filter fun row => statuses row.status).map ExecutionRow.sequence).Nodup :=
    state.executions.unique.sublist (filter_sublist.map _)
  exact ((perm_insertionSort _ _).map _).nodup_iff.mpr kept

theorem sweep_moves {act : AgentHostState → ExecutionRow → Except HostStateError AgentHostState}
    (moves : ∀ (state next : AgentHostState) (row : ExecutionRow), state.Sound →
      state.executions.find row.sequence = some row → row.status.leased = true → act state row = .ok next →
        StepsAt loud row.sequence 1 state next)
    {rows : List ExecutionRow} (distinct : (rows.map (·.sequence)).Nodup) (sound : state.Sound)
    (found : ∀ row ∈ rows, state.executions.find row.sequence = some row ∧ row.status.leased = true)
    (done : rows.foldlM act state = .ok next) : Steps loud 1 state next ∧
      ∀ sequence ∉ rows.map (·.sequence), next.executions.find sequence = state.executions.find sequence := by
  induction rows generalizing state with
  | nil =>
    cases done
    exact ⟨.refl, fun _ _ => rfl⟩
  | cons row _ ih =>
    obtain ⟨middle, first, tail⟩ := foldlM_cons_inv done
    obtain ⟨fresh, distinct⟩ := nodup_cons.mp distinct
    have here := found row mem_cons_self
    have moved := moves state middle row sound here.1 here.2 first
    obtain ⟨later, kept⟩ := ih distinct (moved.moves.sound sound) (fun other member => by
      have different : other.sequence ≠ row.sequence := fun same => fresh (mem_map.mpr ⟨other, member, same⟩)
      rw [moved.elsewhere _ different]
      exact found other (mem_cons_of_mem _ member)) tail
    refine ⟨⟨.trans moved.moves later.moves, fun sequence => ?_⟩, fun sequence outside => ?_⟩
    · by_cases same : sequence = row.sequence
      · rw [kept sequence (same ▸ fresh)]
        exact moved.follows sequence
      · rw [← moved.elsewhere sequence same]
        exact later.follows sequence
    · obtain ⟨different, outside⟩ := not_or.mp (mt mem_cons.mpr outside)
      exact (kept sequence outside).trans (moved.elsewhere sequence different)

theorem leased_found {rows : List ExecutionRow} (members : rows.Sublist (state.list AgentHostExecutionStatus.leased)) :
    ∀ row ∈ rows, state.executions.find row.sequence = some row ∧ row.status.leased = true := by
  intro row member
  obtain ⟨present, leased⟩ := mem_list.mp (members.subset member)
  exact ⟨find_of_mem present, leased⟩

theorem abandonExpiredExecutions_moves (sound : state.Sound)
    (done : state.abandonExpiredExecutions limits now = .ok next) : Steps loud 1 state next := by
  have members : ((state.list AgentHostExecutionStatus.leased).filter fun row => row.leaseExpiresAt ≤ now).Sublist
      (state.list AgentHostExecutionStatus.leased) := filter_sublist
  exact (sweep_moves (fun _ _ _ sound found leased expired => expire_moves sound found leased expired)
    ((list_nodup state _).sublist (members.map _)) sound (leased_found members) done).1

theorem recoverInterruptedExecutions_moves (sound : state.Sound)
    (done : state.recoverInterruptedExecutions limits = .ok next) : Steps loud 1 state next := by
  refine (sweep_moves (fun state next row sound found leased recovered => ?_) (list_nodup state _) sound
    (leased_found (List.Sublist.refl _)) done).1
  have allowed := (interrupted_allowed leased).1
  have held := sound.evidenced row (find_eq_some.mp found).1
  rw [transition_eq found allowed] at recovered
  exact (status_move found allowed rfl).shift.trans
    (queueInterrupted_moves (setRow_find state { row with status := .interrupted })
      ⟨held.session, held.recovery, held.cursor, held.resumed⟩ recovered).stepsAt

end Sweeps

section Mailbox

theorem findByIdentity_some {identity : LeaseIdentity} (found : state.findByIdentity identity = some row) :
    state.executions.find row.sequence = some row ∧ row.identity = identity := by
  have member : row ∈ state.executions := mem_of_find?_eq_some found
  have held := find?_some found
  exact ⟨find_of_mem member, of_decide_eq_true held⟩

variable {attempt : OpaqueId × OpaqueId}

theorem findByAttempt_some (found : state.findByAttempt attempt = some row) :
    state.executions.find row.sequence = some row ∧ row.attempt = attempt := by
  have member : row ∈ state.executions := mem_of_find?_eq_some found
  have held := find?_some found
  exact ⟨find_of_mem member, of_decide_eq_true held⟩

theorem findByAttempt_none (missing : state.findByAttempt attempt = none) :
    ∀ row ∈ state.executions, row.attempt ≠ attempt := by
  intro row member same
  exact find?_eq_none.mp missing row member (decide_eq_true same)

theorem renewLease_moves (state : AgentHostState) (identity : LeaseIdentity) (leaseExpiresAt now : Timestamp) :
    Steps loud 0 state (state.renewLease identity leaseExpiresAt now) := by
  unfold renewLease
  split
  · exact .refl
  rename_i execution found
  split
  · exact .refl
  rename_i live
  obtain ⟨found, _⟩ := findByIdentity_some found
  unfold setLeaseExpiry
  rw [found]
  have active : execution.status.terminal = false := by
    have leased : execution.status.leased = true := by
      by_contra held
      exact live (.inl (by simpa using held))
    exact (interrupted_allowed leased).2
  have touched : execution.Touched { execution with leaseExpiresAt := leaseExpiresAt } := by
    refine ⟨rfl, rfl, rfl, rfl, rfl, fun terminal => ?_, fun held => ⟨held.session, held.recovery, held.cursor, held.resumed⟩⟩
    rw [active] at terminal
    cases terminal
  have renewed : Move loud execution.sequence state (state.setRow { execution with leaseExpiresAt := leaseExpiresAt }) false :=
    .touched execution _ found touched rfl rfl (.of_eq rfl) rfl (.inr ⟨⟨rfl, rfl⟩, ⟨rfl, rfl, rfl, fun _ => rfl⟩⟩)
  exact renewed.rest.toSteps

theorem setProcessed_same (state : AgentHostState) (sequence : Nat) (processed : Bool) :
    (state.setProcessed sequence processed).executions = state.executions ∧
      (state.setProcessed sequence processed).outbox = state.outbox ∧
      (state.setProcessed sequence processed).actions = state.actions ∧
      (state.setProcessed sequence processed).drawnIds = state.drawnIds ∧
      (state.setProcessed sequence processed).receivedHighWater = state.receivedHighWater ∧
      state.SameRecords (state.setProcessed sequence processed) := by
  unfold setProcessed
  split <;> exact ⟨rfl, rfl, rfl, rfl, rfl, rfl, rfl⟩

theorem setProcessed_move (state : AgentHostState) (sequence about : Nat) (processed : Bool) :
    Move loud about state (state.setProcessed sequence processed) false := by
  obtain ⟨executions, outbox, actions, _, highWater, records⟩ := setProcessed_same state sequence processed
  exact .aside executions (by rw [outbox]) (.of_eq actions) highWater.ge (.inr records)

end Mailbox

section Cancellation
variable {intent : CancellationIntent} {aborts : Bool}

def withCancellation (row : ExecutionRow) (intent : CancellationIntent) : ExecutionRow :=
  { row with cancellationIntent := some intent }

theorem setCancellationIntent_cases (found : state.executions.find sequence = some row) :
    if row.cancellationIntent = none ∨ row.cancellationIntent = some intent then
      state.setCancellationIntent sequence intent = .ok (state.setRow (withCancellation row intent))
    else state.setCancellationIntent sequence intent = .error .executionCancellationIntentConflict := by
  unfold setCancellationIntent
  rw [require_ok.mpr found]
  simp only [Bind.bind, Except.bind]
  cases known : row.cancellationIntent with
  | none => simp [withCancellation, Pure.pure, Except.pure]
  | some existing =>
    by_cases same : existing = intent
    · have unchanged : withCancellation row intent = row := by
        unfold withCancellation
        rw [← same, ← known]
      have kept : state.setRow row = state := by
        unfold setRow
        rw [put_self (find_eq_some.mp found).1]
      simp [same, unchanged, kept, Pure.pure, Except.pure]
    · simp [same]

theorem withCancellation_move (found : state.executions.find sequence = some row) (active : row.status.terminal = false) :
    Move loud sequence state (state.setRow (withCancellation row intent)) false := by
  refine .touched row (withCancellation row intent) found
    ⟨rfl, rfl, rfl, rfl, rfl, fun terminal => ?_, fun held => ?_⟩ rfl rfl (.of_eq rfl) rfl
    (.inr ⟨⟨rfl, rfl⟩, ⟨rfl, rfl, rfl, fun _ => rfl⟩⟩)
  · rw [active] at terminal
    cases terminal
  · exact ⟨held.session, held.recovery, held.cursor, held.resumed⟩

/-- The failure that a cancellation ends an execution with at once, before it starts or after it is interrupted. -/
def cancellationFailure : AgentHostExecutionStatus → Option NormalizedFailure
  | .accepted => some cancelledFailure
  | .interrupted => some interruptedCancelledFailure
  | _ => none

def cancelExecution (limits : AgentHostLimits) (state : AgentHostState) (row : ExecutionRow) (intent : CancellationIntent) :
    Except HostStateError (AgentHostState × Bool) :=
  (state.setCancellationIntent row.sequence intent).bind fun state =>
    match cancellationFailure row.status with
    | some failure => (state.finishExecutionInCurrentTransaction limits row.sequence .cancelled (.failure failure)).map (·, false)
    | none => .ok (state, true)

def cancelled (state : AgentHostState) (identity : LeaseIdentity) : Option ExecutionRow :=
  (state.list fun status => !status.terminal).find? fun row => row.identity = identity

theorem cancelled_some {identity : LeaseIdentity} (found : state.cancelled identity = some row) :
    state.executions.find row.sequence = some row ∧ row.identity = identity ∧ row.status.terminal = false := by
  obtain ⟨member, active⟩ := mem_list.mp (mem_of_find?_eq_some found)
  have held := find?_some found
  exact ⟨find_of_mem member, of_decide_eq_true held, by simpa using active⟩

theorem applyCancellation_eq {raw : InboxRow} {identity : LeaseIdentity} {reason : String}
    (found : state.inbox.find sequence = some raw) (command : cancellationForMailboxCommand raw.command = some (identity, reason)) :
    state.applyCancellation limits sequence =
      if raw.processed then .ok (state, false)
      else
        match state.cancelled identity with
        | none => .ok (state.setProcessed sequence true, false)
        | some row => cancelExecution limits (state.setProcessed sequence true) row (.cancelled reason sequence) := by
  unfold applyCancellation cancelExecution
  rw [found]
  dsimp only
  rw [command]
  dsimp only
  split
  · rfl
  unfold cancelled
  generalize (state.list fun status => !status.terminal).find? (fun row => row.identity = identity) = active
  cases active with
  | none => rfl
  | some row =>
    refine bind_congr fun marked => ?_
    cases row.status <;> rfl

theorem cancelExecution_moves (sound : state.Sound) (found : state.executions.find row.sequence = some row)
    (active : row.status.terminal = false) (done : cancelExecution limits state row intent = .ok (next, aborts)) :
    StepsAt loud row.sequence 1 state next := by
  obtain ⟨_, marking, done⟩ := bind_ok.mp done
  have cases := @setCancellationIntent_cases state row.sequence row intent found
  split at cases
  · rw [cases] at marking
    cases marking
    have move : Move loud row.sequence state (state.setRow (withCancellation row intent)) false := withCancellation_move found active
    have present : (state.setRow (withCancellation row intent)).executions.find row.sequence = some _ := setRow_found state rfl
    have allowed : TerminalKind.cancelled.status ∈ (withCancellation row intent).status.transitions :=
      (failed_allowed active).2
    split at done
    · obtain ⟨_, finished, same⟩ := map_ok.mp done
      cases same
      exact move.rest.trans (finishExecution_moves (move.sound sound) present allowed finished)
    · cases done
      exact move.rest.mono (Nat.zero_le _)
  · rw [cases] at marking
    cases marking

theorem applyCancellation_moves (sound : state.Sound)
    (done : state.applyCancellation limits sequence = .ok (next, aborts)) : Steps loud 1 state next := by
  cases found : state.inbox.find sequence with
  | none =>
    rw [applyCancellation, found] at done
    cases done
  | some raw =>
    cases command : cancellationForMailboxCommand raw.command with
    | none =>
      rw [applyCancellation, found] at done
      dsimp only at done
      rw [command] at done
      cases done
    | some about =>
      obtain ⟨_, _⟩ := about
      rw [applyCancellation_eq found command] at done
      split at done
      · cases done
        exact .refl
      have processed : Move loud 0 state _ false := setProcessed_move state sequence 0 true
      split at done
      · cases done
        exact processed.rest.toSteps.mono (Nat.zero_le _)
      · rename_i row held
        obtain ⟨present, _, active⟩ := cancelled_some held
        rw [← (setProcessed_same state sequence true).1] at present
        exact processed.rest.toSteps.trans (cancelExecution_moves (processed.sound sound) present active done).toSteps

end Cancellation

section Receiving
variable {event : ReceivedMailboxEvent} {deadlineNow : Timestamp} {stored : Bool}
variable {settlement : InteractionSettlement} {leaseId : OpaqueId} {leaseExpiresAt : Timestamp}
  {priorRecovery : AcpRecoveryIdentity}

theorem settleAction_ok {settledAt : Timestamp} {allowExpired fresh : Bool}
    (done : state.settleAction sequence settlement settledAt allowExpired = .ok (next, fresh)) (about : Nat) :
    (∃ action ∈ state.actions, action.kind = settlement.response.kind) ∧ Move loud about state next false := by
  obtain ⟨_, done⟩ := rest_ok done
  split at done
  · cases done
  split at done
  · cases done
  split at done
  · cases done
  rename_i action found
  have present := (find_eq_some.mp found).1
  split at done
  · cases done
  rename_i kind
  refine ⟨⟨action, present, not_not.mp kind⟩, ?_⟩
  split at done
  · split at done
    · cases done
    · cases done
      exact .aside rfl rfl (.of_eq rfl) le_rfl (.inr ⟨rfl, rfl⟩)
  · split at done
    · cases done
    cases done
    refine .aside rfl rfl (fun other member asked => ?_) le_rfl (.inr ⟨rfl, rfl⟩)
    rcases mem_put.mp member with ⟨kept, _⟩ | rfl
    · exact ⟨other, kept, asked⟩
    · exact ⟨action, present, asked⟩

theorem settleInteraction_move (sound : state.Sound)
    (done : state.settleInteraction limits settlement deadlineNow = .ok next) (about : Nat) : Move loud about state next false := by
  unfold settleInteraction at done
  split at done
  · cases done
  obtain ⟨⟨_, _⟩, settling, done⟩ := bind_ok.mp done
  obtain ⟨⟨action, present, kind⟩, move⟩ := settleAction_ok settling about
  cases response : settlement.response with
  | authentication =>
    rw [response] at kind
    exact absurd kind (sound.actions action present)
  | permission =>
    rw [response] at done
    cases done
    exact move
  | elicitation =>
    rw [response] at done
    cases done
    exact move

theorem replaceLease_moves
    (found : state.executions.find sequence = some row)
    (done : state.replaceLease row leaseId leaseExpiresAt priorRecovery = .ok next) : StepsAt loud sequence 1 state next := by
  unfold replaceLease at done
  split at done
  · cases done
  rename_i interrupted
  split at done
  · cases done
  split at done
  · cases done
  split at done
  · cases done
  cases done
  have status := not_not.mp interrupted
  have keyed := find_sequence found
  let resumed : ExecutionRow := { row with
    leaseId := leaseId
    leaseExpiresAt := leaseExpiresAt
    recoveryIntent := some (.resumeSameSession leaseId leaseExpiresAt row.leaseId priorRecovery)
    status := .preparing }
  have known : row.acpSessionId ≠ none := by
    intro missing
    rename_i recovering _ _
    exact recovering fun held => by rw [recovers, missing] at held; cases held.1
  have unheard : row.Unheard resumed := ⟨rfl, rfl, rfl, fun missing => absurd missing known⟩
  refine Move.shift (.moved row resumed found keyed ?_ rfl rfl rfl (fun held => ?_) rfl rfl rfl rfl ⟨⟨rfl, rfl⟩, unheard⟩)
  · have allowed : AgentHostExecutionStatus.preparing ∈ AgentHostExecutionStatus.interrupted.transitions := by decide
    rw [status]
    exact allowed
  · refine ⟨held.session, held.recovery, held.cursor, fun _ _ _ _ same => ?_⟩
    cases same
    rfl

theorem authorizeResume_moves
    (done : state.authorizeResume sequence leaseId leaseExpiresAt priorRecovery = .ok next) : StepsAt loud sequence 1 state next := by
  obtain ⟨_, required, done⟩ := bind_ok.mp done
  have found := require_ok.mp required
  split at done
  · cases done
  · split at done
    · split at done
      · cases done
        exact .refl
      · cases done
    · exact replaceLease_moves found done
  · exact replaceLease_moves found done

theorem insert_moves {command : ExecuteBlockCommand} {inserted : Bool}
    (fresh : state.executions.find sequence = none) (received : sequence ≤ state.receivedHighWater)
    (done : state.insert sequence command = .ok (next, inserted)) : Rests loud sequence state next := by
  unfold insert at done
  split at done
  · split at done
    · cases done
    · cases done
      exact .refl
  · rename_i missing
    cases done
    refine .single (.inserted _ fresh (fun other member same => ?_) rfl rfl rfl ⟨?_, ?_, ?_, ?_⟩ rfl rfl rfl rfl received
      ⟨⟨rfl, rfl⟩, rfl⟩)
    · exact findByAttempt_none missing other member same
    · exact fun _ same => by cases same
    · exact fun _ same => by cases same
    · exact fun _ => rfl
    · exact fun _ _ _ _ same => by cases same

theorem acceptCommand_moves (sound : state.Sound) (fresh : state.executions.find event.sequence = none)
    (received : event.sequence ≤ state.receivedHighWater)
    (done : state.acceptCommand limits event deadlineNow = .ok next) : Steps loud 1 state next := by
  unfold acceptCommand at done
  split at done
  · obtain ⟨⟨_, _⟩, inserting, done⟩ := bind_ok.mp done
    have moved : Steps loud 0 state _ := (insert_moves fresh received inserting).stepsAt.toSteps
    cases done
    split
    · exact moved.mono (Nat.zero_le _)
    · exact (moved.trans (setProcessed_move _ _ 0 _).rest.toSteps).mono (Nat.zero_le _)
  · cases done
    exact .refl
  · split at done
    · cases done
    · obtain ⟨_, resuming, done⟩ := bind_ok.mp done
      cases done
      exact (authorizeResume_moves resuming).toSteps.trans (setProcessed_move _ _ 0 _).rest.toSteps
  · split at done
    · cases done
      exact .refl
    · obtain ⟨_, settling, done⟩ := bind_ok.mp done
      cases done
      exact ((settleInteraction_move sound settling 0).rest.trans (setProcessed_move _ _ 0 _).rest).toSteps.mono (Nat.zero_le _)

theorem ack_keyed (key : String) (sequence : Nat) (id : String) :
    OutboxRow.Keyed ⟨.other key, ⟨id, .execution (.mailboxAck sequence)⟩, false⟩ := by
  constructor
  · intro _ same
    cases same
  · intro _ _ _ same
    cases same

theorem inspectMailboxReplay_new (inspected : state.inspectMailboxReplay event = .ok false) :
    state.receivedHighWater < event.sequence := by
  unfold inspectMailboxReplay at inspected
  split at inspected
  · split at inspected
    · split at inspected
      · cases inspected
      · split at inspected <;> cases inspected
    · split at inspected <;> cases inspected
  · split at inspected
    · cases inspected
    · rename_i ahead
      exact Nat.not_le.mp ahead

theorem storeMessage_moves (sound : state.Sound)
    (done : state.storeMessage limits event deadlineNow = .ok (next, stored)) : Steps loud 1 state next := by
  unfold storeMessage at done
  split at done
  · split at done
    · cases done
    · cases done
      split
      · exact (setProcessed_move _ _ 0 _).rest.toSteps.mono (Nat.zero_le _)
      · exact .refl
  · obtain ⟨_, inspecting, accepting⟩ := bind_ok.mp done
    split at accepting
    · cases accepting
      exact .refl
    rename_i unknown
    have ahead := inspectMailboxReplay_new ((Bool.not_eq_true _).mp unknown ▸ inspecting)
    split at accepting
    · cases accepting
    split at accepting
    · cases accepting
    obtain ⟨_, accepted, same⟩ := bind_ok.mp accepting
    cases same
    have noted : Move loud 0 state { state with
        inbox := state.inbox.put
          ⟨event.sequence, event.previousSequence, event.messageId, event.command, false, false⟩
        receivedHighWater := event.sequence } false := .aside rfl rfl (.of_eq rfl) ahead.le (.inr ⟨rfl, rfl⟩)
    have missing : state.executions.find event.sequence = none := find_eq_none.mpr fun row member same =>
      absurd (sound.received row member) (Nat.not_le.mpr (same ▸ ahead))
    exact noted.rest.toSteps.trans (acceptCommand_moves (noted.sound sound) missing le_rfl accepted)

theorem receive_moves (sound : state.Sound) (done : state.receive limits event deadlineNow = .ok (next, stored)) :
    Steps loud 1 state next := by
  obtain ⟨⟨middle, _⟩, storing, done⟩ := bind_ok.mp done
  obtain ⟨⟨_, _⟩, queueing, done⟩ := bind_ok.mp done
  cases done
  have acknowledged : Move loud 0 middle _ false :=
    queue_move queueing rfl (ack_keyed _ _) (.inr fun _ same => by cases same)
  exact (storeMessage_moves sound storing).trans acknowledged.rest.toSteps

end Receiving
end AgentHostState
end PlanWeave
