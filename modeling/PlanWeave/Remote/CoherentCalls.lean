import PlanWeave.Remote.Coherence

namespace PlanWeave.RemoteDatabase
open Checked Table
variable {rule : SnapshotRule} {db db' : RemoteDatabase}
variable {leaseId executionAttemptId operationId : OpaqueId} {reservation : HostReservation} {now : Timestamp}

section Writes
variable {operation : RemoteOperation}

theorem insertOperation_ok (done : db.insertOperation operation = .ok db') :
    ∃ operations, Table.Inserted operation db.operations operations ∧ db' = { db with operations } := by
  unfold insertOperation at done
  split at done
  · cases done
  split at done
  · cases done
  rename_i operations inserted
  cases done
  exact ⟨operations, Table.inserted inserted, rfl⟩

theorem insertAttempt_ok {attempt : RemoteAttempt} (done : db.insertAttempt attempt = .ok db') :
    ∃ attempts, Table.Inserted attempt db.attempts attempts ∧ db' = { db with attempts } := by
  unfold insertAttempt at done
  split at done
  · cases done
  split at done
  · cases done
  rename_i attempts inserted
  cases done
  exact ⟨attempts, Table.inserted inserted, rfl⟩

theorem insertReservation_ok (done : db.insertReservation reservation = .ok db') :
    (∀ row ∈ db.reservations, row.executionAttemptId = reservation.executionAttemptId → row.status ≠ .active) ∧
    ∃ reservations, Table.Inserted reservation db.reservations reservations ∧ db' = { db with reservations } := by
  unfold insertReservation at done
  split at done
  · cases done
  rename_i alone
  split at done
  · cases done
  rename_i reservations inserted
  cases done
  refine ⟨fun row member holder active => alone ?_, reservations, Table.inserted inserted, rfl⟩
  exact count_pos.mpr ⟨row, member, holder, active⟩

theorem enqueueOnce_ok {command : RemoteCommand} (done : db.enqueueOnce command = .ok db') :
    ∃ mailbox, db' = { db with mailbox } ∧ command ∈ mailbox ∧ (∀ row ∈ db.mailbox, row ∈ mailbox) ∧
      ∀ row ∈ mailbox, row ∈ db.mailbox ∨ row = command := by
  unfold enqueueOnce at done
  split at done
  · rename_i found
    split at done
    · rename_i same
      cases done
      obtain ⟨member, _⟩ := find_eq_some.mp found
      exact ⟨db.mailbox, rfl, same ▸ member, fun _ old => old, fun _ old => .inl old⟩
    · cases done
  · split at done
    · cases done
    rename_i mailbox inserted
    cases done
    have change := Table.inserted inserted
    exact ⟨mailbox, rfl, (change.2 command).mpr (.inr rfl), fun row old => (change.2 row).mpr (.inl old),
      fun row new => (change.2 row).mp new⟩

theorem setOperationState_replaced (member : operation ∈ db.operations)
    (state : RemoteOperationState) (terminalAt : Option Timestamp) :
    Table.Replaced operation { operation with state, terminalAt } db.operations
      (db.setOperationState operation.id state terminalAt).operations :=
  replaced_of_rows rfl member rfl (fun _ _ same => same) rfl rfl

theorem getReservation_ok
    (read : db.getReservation leaseId = .ok reservation) : reservation ∈ db.reservations ∧ reservation.leaseId = leaseId := by
  unfold getReservation at read
  cases found : db.reservations.find leaseId with
  | none => simp only [found] at read; cases read
  | some =>
    simp only [found] at read
    cases read
    exact find_eq_some.mp found

end Writes

section Moves
variable {operation : RemoteOperation} {attempt attempt' : RemoteAttempt}

section
variable (current : db.Current operation attempt)
include current

theorem Current.moved (nonterminal : operation.state.terminal = false)
    {state : RemoteOperationState} {terminalAt : Option Timestamp}
    (operations : Table.Replaced operation { operation with state, terminalAt } db.operations db'.operations)
    (attempts : Table.Replaced attempt attempt' db.attempts db'.attempts)
    (identity : attempt'.operationId = attempt.operationId ∧ attempt'.dispatchId = attempt.dispatchId ∧
      attempt'.ownership = attempt.ownership) (status : attempt'.status = state.attempt) :
    db.Moved db' operation { operation with state, terminalAt } attempt attempt' :=
  { current, operations, attempts, nonterminal, attemptId := rfl, dispatchId := rfl, ownership := rfl,
    endpointSelection := rfl, agentAccess := rfl, attemptOperation := identity.1, attemptDispatch := identity.2.1, attemptOwnership := identity.2.2, status }

theorem Current.updateOne {p : RemoteAttempt → Prop} [DecidablePred p]
    {f : RemoteAttempt → RemoteAttempt} {keeps : ∀ row, (f row).executionAttemptId = row.executionAttemptId}
    {attempts : Table RemoteAttempt.executionAttemptId} (updated : db.attempts.updateOne p f keeps = some attempts)
    (keyed : ∀ row, p row → row.executionAttemptId = operation.executionAttemptId) :
    p attempt ∧ Table.Replaced attempt (f attempt) db.attempts attempts := by
  obtain ⟨old, holds, replaced⟩ := updateOne_replaced updated
  rw [eq_of_key current.attempt_mem replaced.old_mem (current.attemptId.trans (keyed old holds).symm)]
  exact ⟨holds, replaced⟩

theorem Current.nonterminal (coherent : db.Coherent)
    (live : attempt.status.terminal = false) : operation.state.terminal = false := by
  rw [← RemoteOperationState.terminal_attempt, ← coherent.status_eq current]
  exact live

theorem Current.fenced (coherent : db.Coherent) {lease : AttemptLease}
    (leased : attempt.lease = some lease) (member : reservation ∈ db.reservations)
    (keyed : reservation.leaseId = lease.leaseId) (inactive : reservation.status ≠ .active) :
    ∀ row ∈ db.reservations, row.executionAttemptId = attempt.executionAttemptId → row.status ≠ .active := by
  intro row rowMember holder active
  obtain ⟨_, leased', _, _, same⟩ := coherent.reserved_of_mem rowMember current.attempt_mem holder
  cases Option.some.inj (leased.symm.trans leased')
  have sameLease : row.leaseId = lease.leaseId := (congrArg AttemptLease.leaseId (same active).2).symm
  rw [eq_of_key member rowMember (keyed.trans sameLease.symm)] at inactive
  exact inactive active
end
end Moves

section Operations

theorem unchanged : Change rule db db ∧ db.LedgerOnly db := ⟨.same rfl rfl rfl, rfl, rfl, rfl⟩

theorem create_change {input : CreateRemoteOperationInput} {dispatchId : OpaqueId}
    (accepted : rule input.endpointSelection input.agentAccess)
    (done : db.create input operationId dispatchId executionAttemptId = .ok db') : Change rule db db' ∧ db.LedgerOnly db' := by
  unfold create at done
  split at done
  · obtain ⟨_, done⟩ := rest_ok done
    split at done
    · cases done; exact unchanged
    · cases done
  · split at done
    · cases done
    rename_i free
    obtain ⟨_, insertedOperation, done⟩ := bind_ok.mp done
    obtain ⟨_, operationsInserted, rfl⟩ := insertOperation_ok insertedOperation
    obtain ⟨_, insertedAttempt, done⟩ := bind_ok.mp done
    obtain ⟨_, attemptsInserted, rfl⟩ := insertAttempt_ok insertedAttempt
    obtain ⟨_, done⟩ := rest_ok done
    cases done
    refine ⟨?_, rfl, rfl, rfl⟩
    refine .created _ _ operationsInserted attemptsInserted rfl ?_ rfl rfl rfl ?_ accepted
    · exact ⟨(operationsInserted.2 _).mpr (.inr rfl), (attemptsInserted.2 _).mpr (.inr rfl), rfl, rfl, rfl, rfl⟩
    · intro other member same
      by_contra live
      exact free (count_pos.mpr ⟨other, member, same, by simpa using live⟩)

theorem markClaimed_change (coherent : db.Coherent)
    (done : db.markClaimed operationId = .ok db') : Change rule db db' ∧ db.LedgerOnly db' := by
  obtain ⟨⟨operation, attempt⟩, read, done⟩ := bind_ok.mp done
  obtain ⟨current, _⟩ := getRequired_ok read
  dsimp only at done
  split_ifs at done with claimed reserved other
  · cases done; exact unchanged
  · cases done; exact unchanged
  cases done
  have preparing : operation.state = .preparing := not_not.mp other
  have prepared : attempt.status = .prepared := by rw [coherent.status_eq current, preparing]; rfl
  refine ⟨?_, rfl, rfl, rfl⟩
  refine .advanced operation _ attempt attempt (current.moved (by rw [preparing]; rfl)
    (setOperationState_replaced current.operation_mem .claimed operation.terminalAt)
    (Table.Replaced.refl current.attempt_mem) ⟨rfl, rfl, rfl⟩ prepared) rfl (fun _ => rfl) rfl (.inr ?_)
  exact fun row member holder =>
    absurd prepared (coherent.not_prepared_of_reservation member current.attempt_mem holder)

theorem persistHostSelection_change (coherent : db.Coherent) {hostSelection : HostSelection}
    (done : db.persistHostSelection operationId hostSelection = .ok db') : Change rule db db' ∧ db.LedgerOnly db' := by
  obtain ⟨⟨operation, attempt⟩, read, done⟩ := bind_ok.mp done
  obtain ⟨current, _⟩ := getRequired_ok read
  dsimp only at done
  split_ifs at done with terminal stored
  · cases done; exact unchanged
  cases done
  have nonterminal : operation.state.terminal = false := by simpa using terminal
  have unset : operation.hostSelection = none := by simpa using stored
  have status := coherent.status_eq current
  refine ⟨?_, rfl, rfl, rfl⟩
  refine .advanced operation { operation with hostSelection := some hostSelection } attempt attempt
    { current, nonterminal, status, attemptId := rfl, dispatchId := rfl, ownership := rfl, endpointSelection := rfl,
      agentAccess := rfl, attemptOperation := rfl, attemptDispatch := rfl, attemptOwnership := rfl,
      operations := ?_, attempts := Table.Replaced.refl current.attempt_mem } rfl (fun _ => rfl) rfl ?_
  · exact replaced_of_rows rfl current.operation_mem ⟨rfl, unset, nonterminal⟩
      (fun _ _ chosen => chosen.1) rfl rfl
  by_cases prepared : attempt.status = .prepared
  · exact .inr fun row member holder =>
      absurd prepared (coherent.not_prepared_of_reservation member current.attempt_mem holder)
  · left
    rw [status] at prepared ⊢
    cases state : operation.state <;> simp_all [RemoteOperationState.attempt, RemoteOperationState.terminal,
      RemoteAttemptStatus.ownsBlock]

theorem cancelClaimedAfterRuntimeReset_change (coherent : db.Coherent)
    (done : db.cancelClaimedAfterRuntimeReset operationId executionAttemptId now = .ok db') :
    Change rule db db' ∧ db.LedgerOnly db' := by
  obtain ⟨⟨operation, attempt⟩, read, done⟩ := bind_ok.mp done
  obtain ⟨current, sameOperation⟩ := getRequired_ok read
  dsimp only at done
  split at done
  · cases done
  rename_i guard
  simp only [not_or, not_not] at guard
  obtain ⟨claimed, sameAttempt, prepared, _⟩ := guard
  split at done
  · rename_i attempts operations updatedAttempts updatedOperations
    cases done
    obtain ⟨_, replaced⟩ := current.updateOne updatedAttempts fun row chosen => chosen.1.trans sameAttempt.symm
    obtain ⟨old, chosen, replacedOperation⟩ := updateOne_replaced updatedOperations
    have same : old = operation := eq_of_key replacedOperation.old_mem current.operation_mem
      (chosen.1.trans sameOperation.symm)
    subst same
    refine ⟨?_, rfl, rfl, rfl⟩
    refine .advanced old _ attempt _ (current.moved (by rw [claimed]; rfl) replacedOperation replaced ⟨rfl, rfl, rfl⟩ rfl)
      rfl (fun early => by cases early) rfl (.inr ?_)
    exact fun row member holder =>
      absurd prepared (coherent.not_prepared_of_reservation member current.attempt_mem holder)
  · cases done

variable {input : RetryAttemptInput}

theorem retryAttempt_ok (done : db.retryAttempt input now = .ok db') :
    db' = db ∨ ∃ operation attempt lease between inserted, db.Current operation attempt ∧
      operation.id = input.operationId ∧ attempt.status.terminal = false ∧ attempt.lease = some lease ∧
      (∀ row ∈ db.reservations, row.leaseId = lease.leaseId → row.status ≠ .active) ∧
      Table.Replaced attempt { attempt with
        status := .superseded, stateVersion := attempt.stateVersion + 1, terminalAt := some now } db.attempts between ∧
      { db with attempts := between }.insertAttempt
        { executionAttemptId := input.newExecutionAttemptId, operationId := operation.id,
          dispatchId := input.newDispatchId, ownership := operation.ownership, status := .prepared, lease := none,
          stateVersion := 0, terminalAt := none } = .ok inserted ∧
      db' = { inserted with
        operations := inserted.operations.update (fun row => row.id = operation.id)
          (fun row => { row with
            state := .claimed
            dispatchId := input.newDispatchId
            executionAttemptId := input.newExecutionAttemptId
            hostSelection := input.hostSelection.or row.hostSelection
            agentAccess := input.agentAccess.or row.agentAccess })
          (fun _ => rfl) } := by
  unfold retryAttempt at done
  split at done
  · cases done
  obtain ⟨⟨operation, attempt⟩, read, done⟩ := bind_ok.mp done
  obtain ⟨current, sameOperation⟩ := getRequired_ok read
  dsimp only at done
  split at done
  · split at done
    · cases done; exact .inl rfl
    · cases done
  split at done
  · cases done
  rename_i version
  split at done
  · cases done
  split at done
  · cases done
  rename_i lease leased
  split at done
  · cases done
  rename_i inactive
  split at done
  · cases done
  simp only [not_or, not_not] at version
  unfold supersedeAttempt at done
  split at done
  · cases done
  rename_i between updated
  obtain ⟨inserted, insertedAttempt, done⟩ := bind_ok.mp done
  split at done
  · cases done
  cases done
  obtain ⟨chosen, replaced⟩ := current.updateOne updated fun row chosen => chosen.1.trans version.1.symm
  refine .inr ⟨operation, attempt, lease, between, inserted, current, sameOperation, ?_, leased, ?_, replaced,
    insertedAttempt, rfl⟩
  · rcases chosen.2.2.2 with interrupted | required
    · rw [interrupted]; rfl
    · rw [required]; rfl
  · intro row member keyed active
    refine inactive ?_
    rw [find_eq_some.mpr ⟨member, keyed⟩]
    simp [active]

theorem retryAttempt_change (coherent : db.Coherent)
    (reauthorized : ∀ operation ∈ db.operations, operation.id = input.operationId →
      rule operation.endpointSelection (input.agentAccess.or operation.agentAccess))
    (done : db.retryAttempt input now = .ok db') : Change rule db db' ∧ db.LedgerOnly db' := by
  obtain rfl | ⟨operation, attempt, lease, between, _, current, sameOperation, live, leased, inactive, replaced,
    insertedAttempt, rfl⟩ := retryAttempt_ok done
  · exact unchanged
  obtain ⟨_, attemptsInserted, rfl⟩ := insertAttempt_ok insertedAttempt
  -- The attempt is fenced: a row of it is either the one of its lease, which is over, or an older one.
  have fenced : ∀ row ∈ db.reservations, row.executionAttemptId = attempt.executionAttemptId → row.status ≠ .active := by
    obtain ⟨granted, member, keyed, _⟩ := coherent.granted attempt current.attempt_mem lease leased
    exact current.fenced coherent leased member keyed (inactive granted member keyed)
  refine ⟨?_, rfl, rfl, rfl⟩
  refine .retried operation _ attempt _ _ between current
    (replaced_of_rows rfl current.operation_mem rfl (fun _ _ same => same) rfl rfl) replaced attemptsInserted rfl
    (current.nonterminal coherent live) rfl current.operationId rfl rfl fenced ?_ rfl rfl rfl rfl
    (reauthorized operation current.operation_mem sameOperation)
  refine ⟨?_, (attemptsInserted.2 _).mpr (.inr rfl), rfl, rfl, rfl, rfl⟩
  exact List.mem_map.mpr ⟨operation, current.operation_mem, if_pos rfl⟩

theorem markActionRequired_change (coherent : db.Coherent) {expectedAttemptVersion : Nat}
    (done : db.markActionRequired operationId executionAttemptId expectedAttemptVersion = .ok db') : Change rule db db' ∧ db.LedgerOnly db' := by
  obtain ⟨⟨operation, attempt⟩, read, done⟩ := bind_ok.mp done
  obtain ⟨current, _⟩ := getRequired_ok read
  dsimp only at done
  split at done
  · cases done
  split at done
  · cases done
  split at done
  · cases done
  rename_i attempts updated
  cases done
  obtain ⟨chosen, replaced⟩ := current.updateOne updated fun row chosen => chosen.1
  have nonterminal := current.nonterminal coherent (by rw [chosen.2.1]; rfl)
  refine ⟨?_, rfl, rfl, rfl⟩
  exact .advanced operation _ attempt _ (current.moved nonterminal
    (setOperationState_replaced current.operation_mem .actionRequired operation.terminalAt) replaced
    ⟨rfl, rfl, rfl⟩ rfl) rfl (fun early => by cases early) rfl (.inl rfl)

end Operations

section Reservations
variable {options : HostReservationOptions}

theorem reserve_ok {input : ReserveInput}
    (done : db.reserve options operationId input leaseId now = .ok (db', reservation)) :
    (db' = db ∧ reservation ∈ db.reservations ∧ reservation.status = .active) ∨
    ∃ operation attempt host reservations, db.Current operation attempt ∧ attempt.status = .prepared ∧
      db.selectHost options input operation now = some host ∧
      reservation =
        { leaseId, executionAttemptId := operation.executionAttemptId, hostId := host.id, fencingToken := 1,
          status := .active, leaseExpiresAt := now + options.leaseDurationMs, version := 0 } ∧
      Table.Inserted reservation db.reservations reservations ∧
      ∃ attempts, Table.Replaced attempt { attempt with
          status := .reserved, lease := some reservation.lease, stateVersion := attempt.stateVersion + 1 }
          db.attempts attempts ∧
        db' = { db with attempts, reservations }.setOperationState operation.id .reserved operation.terminalAt := by
  obtain ⟨⟨operation, attempt⟩, read, done⟩ := bind_ok.mp done
  obtain ⟨current, _⟩ := getRequired_ok read
  dsimp only at done
  split at done
  · split at done
    · rename_i existing found
      split at done
      · rename_i active
        cases done
        obtain ⟨_, _, stored⟩ := Option.bind_eq_some_iff.mp found
        exact .inl ⟨rfl, (find_eq_some.mp stored).1, active⟩
      · cases done
    · cases done
  rename_i reservable
  simp only [not_or, not_not, not_and] at reservable
  obtain ⟨prepared, _⟩ := reservable
  split at done
  · cases done
  rename_i host selected
  split at done
  · cases done
  obtain ⟨_, insertedReservation, done⟩ := bind_ok.mp done
  obtain ⟨_, reservations, reservationsInserted, rfl⟩ := insertReservation_ok insertedReservation
  cases done
  refine .inr ⟨operation, attempt, host, reservations, current, prepared, selected, rfl, reservationsInserted, _, ?_, rfl⟩
  refine replaced_of_rows rfl current.attempt_mem ⟨current.attemptId, prepared, rfl⟩ ?_ rfl rfl
  exact fun row _ chosen => chosen.1.trans current.attemptId.symm

theorem reserve_change (coherent : db.Coherent) {input : ReserveInput}
    (done : db.reserve options operationId input leaseId now = .ok (db', reservation)) : Change rule db db' ∧ db.LedgerOnly db' := by
  obtain ⟨rfl, _⟩ | ⟨operation, attempt, _, _, current, prepared, _, rfl, inserted, _, replaced, rfl⟩ :=
    reserve_ok done
  · exact unchanged
  have nonterminal := current.nonterminal coherent (by rw [prepared]; rfl)
  refine ⟨?_, rfl, rfl, rfl⟩
  refine .leased operation _ attempt _ _ (current.moved nonterminal
    (setOperationState_replaced current.operation_mem .reserved operation.terminalAt) replaced ⟨rfl, rfl, rfl⟩ rfl)
    rfl rfl inserted current.attemptId.symm ?_
  exact fun row member holder =>
    absurd prepared (coherent.not_prepared_of_reservation member current.attempt_mem holder)

def Started (db : RemoteDatabase) (executionAttemptId leaseId : OpaqueId) : Prop :=
  ∀ attempt ∈ db.attempts, attempt.executionAttemptId = executionAttemptId →
    attempt.lease.map (·.leaseId) = some leaseId → attempt.status ≠ .reserved

/-- A result is only parked for an attempt that the Host was told of. -/
def Parked (db : RemoteDatabase) : Prop :=
  ∀ dispatch ∈ db.dispatches, dispatch.status = .awaitingWriteback →
    db.Started dispatch.executionAttemptId dispatch.leaseId

theorem releaseAttempt_moved (coherent : db.Coherent) (parked : db.Parked) {operation : RemoteOperation}
    {attempt : RemoteAttempt} (current : db.Current operation attempt)
    (holder : reservation.executionAttemptId = attempt.executionAttemptId)
    (leased : attempt.lease = some reservation.lease) (owns : attempt.status.ownsBlock = true)
    (reason : ReservationReleaseReason) (now : Timestamp) :
    ∃ operation' attempt', db.Moved (db.releaseAttempt reservation reason now) operation operation' attempt attempt' ∧
      attempt'.lease = attempt.lease ∧ attempt'.status.early = false := by
  have nonterminal := current.nonterminal coherent (RemoteAttemptStatus.not_terminal_of_ownsBlock owns)
  have sameAttempt : ∀ row ∈ db.attempts, row.executionAttemptId = reservation.executionAttemptId → row = attempt :=
    fun row member same => eq_of_key member current.attempt_mem (same.trans holder)
  have sameOperation : ∀ row ∈ db.operations, row.executionAttemptId = reservation.executionAttemptId →
      row = operation := fun row member same =>
    coherent.operation_eq current member (same.trans (holder.trans current.attemptId))
  have held : attempt.executionAttemptId = reservation.executionAttemptId ∧
      (attempt.lease.any fun lease => lease.leaseId = reservation.leaseId ∧
        lease.fencingToken = reservation.fencingToken) = true := by
    refine ⟨holder.symm, ?_⟩
    rw [leased]
    simp [HostReservation.lease]
  unfold releaseAttempt
  dsimp only
  split
  · rename_i preserve
    have started : attempt.status ≠ .reserved := by
      rcases preserve.2 with attemptAwaits | dispatchAwaits
      · obtain ⟨row, member, rowHeld, awaits⟩ := count_pos.mp attemptAwaits
        rw [← sameAttempt row member rowHeld.1, awaits]
        decide
      · obtain ⟨dispatch, member, keyed, sameLease, awaits⟩ := count_pos.mp dispatchAwaits
        refine parked dispatch member awaits attempt current.attempt_mem (holder.symm.trans keyed.symm) ?_
        rw [leased, sameLease]
        rfl
    have demotable : attempt.status = .running ∨ attempt.status = .activated ∨ attempt.status = .awaitingWriteback ∨
        attempt.status = .actionRequired ∨ attempt.status = .interrupted := by
      cases status : attempt.status <;> simp_all [RemoteAttemptStatus.ownsBlock]
    refine ⟨{ operation with state := .awaitingWriteback, terminalAt := none }, _, current.moved nonterminal
      (replaced_of_rows rfl current.operation_mem ⟨current.attemptId.symm.trans holder.symm, nonterminal⟩ ?_ rfl rfl)
      (replaced_of_rows rfl current.attempt_mem ⟨held, demotable⟩ ?_ rfl rfl) ⟨rfl, rfl, rfl⟩ rfl, rfl, rfl⟩
    · exact fun row member chosen => sameOperation row member chosen.1 ▸ rfl
    · exact fun row member chosen => sameAttempt row member chosen.1.1 ▸ rfl
  · refine ⟨{ operation with state := reason.state, terminalAt := reason.terminalAt now }, _, current.moved nonterminal
      (replaced_of_rows rfl current.operation_mem (current.attemptId.symm.trans holder.symm) ?_ rfl rfl)
      (replaced_of_rows rfl current.attempt_mem held ?_ rfl rfl) ⟨rfl, rfl, rfl⟩ ?_, rfl, ?_⟩
    · exact fun row member chosen => sameOperation row member chosen ▸ rfl
    · exact fun row member chosen => sameAttempt row member chosen.1 ▸ rfl
    · cases reason <;> rfl
    · cases reason <;> rfl

theorem releaseAttempt_reservations (reservations : Table HostReservation.leaseId) (reservation : HostReservation)
    (reason : ReservationReleaseReason) (now : Timestamp) :
    ({ db with reservations } : RemoteDatabase).releaseAttempt reservation reason now =
      { db.releaseAttempt reservation reason now with reservations } := by
  unfold releaseAttempt
  dsimp only
  split <;> rfl

theorem releaseAttempt_ledger (reservation : HostReservation) (reason : ReservationReleaseReason) (now : Timestamp) :
    db.LedgerOnly (db.releaseAttempt reservation reason now) := by
  unfold releaseAttempt
  dsimp only
  split <;> exact ⟨rfl, rfl, rfl⟩

variable {fencingToken expectedVersion expectedAttemptVersion : Nat} {reason : ReservationReleaseReason}
  {input : ResumeAttemptInput} {status : ActiveAttemptTransition}

theorem release_ok
    (done : db.release leaseId fencingToken expectedVersion reason now = .ok db') :
    ∃ reservation reservations, reservation ∈ db.reservations ∧ reservation.leaseId = leaseId ∧
      reservation.fencingToken = fencingToken ∧ reservation.version = expectedVersion ∧ reservation.status = .active ∧
      Table.Replaced reservation { reservation with
        status := reason.reservation, version := reservation.version + 1 } db.reservations reservations ∧
      db' = { db.releaseAttempt reservation reason now with reservations } := by
  obtain ⟨reservation, read, done⟩ := bind_ok.mp done
  obtain ⟨member, keyed⟩ := getReservation_ok read
  split at done
  · cases done
  rename_i fence
  split at done
  · cases done
  rename_i version
  split at done
  · cases done
  rename_i isActive
  split at done
  · cases done
  split at done
  · cases done
  rename_i reservations updated
  obtain ⟨_, done⟩ := rest_ok done
  cases done
  obtain ⟨_, chosen, replaced⟩ := updateOne_replaced updated
  cases eq_of_key replaced.old_mem member chosen.1
  exact ⟨reservation, reservations, member, keyed, not_not.mp fence, not_not.mp version, not_not.mp isActive, replaced,
    releaseAttempt_reservations reservations reservation reason now⟩

theorem release_change (coherent : db.Coherent) (parked : db.Parked)

    (done : db.release leaseId fencingToken expectedVersion reason now = .ok db') : Change rule db db' ∧ db.LedgerOnly db' := by
  obtain ⟨reservation, _, member, _, _, _, active, replaced, rfl⟩ := release_ok done
  obtain ⟨operation, attempt, current, holder, leased, owns⟩ := coherent.current_of_active member active
  obtain ⟨operation', attempt', moved, lease, early⟩ :=
    releaseAttempt_moved coherent parked current holder leased owns reason now
  have ledger : db.LedgerOnly (db.releaseAttempt reservation reason now) := releaseAttempt_ledger reservation reason now
  refine ⟨?_, ledger.dispatches, ledger.mailbox, ledger.hosts⟩
  refine .released operation operation' attempt attempt' reservation _ ?_ lease early replaced active ?_ holder
    ⟨rfl, rfl⟩
  · exact { moved with operations := moved.operations, attempts := moved.attempts }
  · cases reason <;> simp [ReservationReleaseReason.reservation]

theorem resumeSameAttempt_ok
    (done : db.resumeSameAttempt options input now = .ok (db', reservation)) :
    (db' = db ∧ reservation ∈ db.reservations ∧ reservation.status = .active ∧ reservation.leaseId = input.leaseId ∧
      reservation.leaseExpiresAt = input.leaseExpiresAt) ∨
    ∃ prior operation attempt reservations attempts, prior ∈ db.reservations ∧ db.Current operation attempt ∧
      attempt.executionAttemptId = prior.executionAttemptId ∧ attempt.status = .interrupted ∧
      attempt.lease.map (·.leaseId) = some prior.leaseId ∧
      db.resumeHost options prior.hostId (reservationOccupiesHostCapacity operation) now = .ok () ∧
      (∀ row ∈ db.reservations, row.executionAttemptId = prior.executionAttemptId → row.status ≠ .active) ∧
      reservation =
        { leaseId := input.leaseId, executionAttemptId := prior.executionAttemptId, hostId := prior.hostId,
          fencingToken := prior.fencingToken + 1, status := .active, leaseExpiresAt := input.leaseExpiresAt,
          version := 0 } ∧
      Table.Inserted reservation db.reservations reservations ∧
      Table.Replaced attempt { attempt with
        status := .activated
        lease := attempt.lease.map fun lease => { lease with
          leaseId := input.leaseId
          fencingToken := prior.fencingToken + 1
          leaseExpiresAt := input.leaseExpiresAt }
        stateVersion := attempt.stateVersion + 1 } db.attempts attempts ∧
      db' = { db with attempts, reservations }.setOperationState operation.id .activated operation.terminalAt := by
  unfold resumeSameAttempt at done
  split at done
  · cases done
  obtain ⟨prior, read, done⟩ := bind_ok.mp done
  obtain ⟨priorMember, _⟩ := getReservation_ok read
  split at done
  · rename_i existing found
    split at done
    · rename_i same
      cases done
      obtain ⟨member, keyed⟩ := find_eq_some.mp found
      exact .inl ⟨rfl, member, same.2.2.2.1, keyed, same.2.2.2.2⟩
    · cases done
  split at done
  · cases done
  split at done
  · cases done
  split at done
  · cases done
  obtain ⟨⟨operation, attempt⟩, readOperation, done⟩ := bind_ok.mp done
  obtain ⟨current, _⟩ := getRequired_ok readOperation
  dsimp only at done
  split at done
  · cases done
  rename_i guard
  simp only [not_or, not_not] at guard
  obtain ⟨sameAttempt, interrupted, _, sameLease⟩ := guard
  obtain ⟨_, host, done⟩ := bind_ok.mp done
  obtain ⟨_, insertedReservation, done⟩ := bind_ok.mp done
  obtain ⟨inactive, reservations, reservationsInserted, rfl⟩ := insertReservation_ok insertedReservation
  split at done
  · cases done
  rename_i attempts updated
  cases done
  obtain ⟨_, replaced⟩ := current.updateOne updated fun row chosen => chosen.1.trans sameAttempt.symm
  exact .inr ⟨prior, operation, attempt, reservations, attempts, priorMember, current,
    current.attemptId.trans sameAttempt, interrupted, sameLease, host, inactive, rfl, reservationsInserted, replaced, rfl⟩

theorem resumeSameAttempt_change (coherent : db.Coherent)
    (done : db.resumeSameAttempt options input now = .ok (db', reservation)) : Change rule db db' ∧ db.LedgerOnly db' := by
  obtain ⟨rfl, _⟩ | ⟨prior, operation, attempt, _, _, priorMember, current, sameAttempt, interrupted,
    sameLease, _, inactive, rfl, inserted, replaced, rfl⟩ := resumeSameAttempt_ok done
  · exact unchanged
  have holder := sameAttempt.symm
  obtain ⟨held, leased, host, _, _⟩ := coherent.reserved_of_mem priorMember current.attempt_mem holder
  -- The prior reservation is the one of the attempt's lease, so its token is the largest.
  have priorToken : prior.fencingToken = held.fencingToken := by
    obtain ⟨granted, grantedMember, keyed, _, _, token⟩ := coherent.granted attempt current.attempt_mem held leased
    rw [leased] at sameLease
    have same : granted = prior := eq_of_key grantedMember priorMember
      (keyed.trans (Option.some.inj sameLease))
    exact same ▸ token
  refine ⟨?_, rfl, rfl, rfl⟩
  refine .leased operation _ attempt _ _ (current.moved (current.nonterminal coherent (by rw [interrupted]; rfl))
    (setOperationState_replaced current.operation_mem .activated operation.terminalAt) replaced ⟨rfl, rfl, rfl⟩ rfl)
    rfl ?_ inserted holder ?_
  · rw [leased, ← host]
    rfl
  intro row member rowHolder
  obtain ⟨_, leased', host', token, _⟩ := coherent.reserved_of_mem member current.attempt_mem rowHolder
  cases Option.some.inj (leased.symm.trans leased')
  refine ⟨inactive row member (rowHolder.trans holder.symm), host'.symm.trans host, ?_⟩
  rw [priorToken]
  exact Nat.lt_succ_of_le token

theorem finalizeFencedAttempt_ok {status : TerminalStatus}
    (done : db.finalizeFencedAttempt operationId executionAttemptId leaseId status now = .ok db') :
    db' = db ∨ ∃ reservation operation attempt lease attempts, reservation ∈ db.reservations ∧
      reservation.status ≠ .active ∧ db.Current operation attempt ∧ attempt.lease = some lease ∧
      reservation.leaseId = lease.leaseId ∧ attempt.status.terminal = false ∧
      Table.Replaced attempt { attempt with
        status := status.attempt, stateVersion := attempt.stateVersion + 1, terminalAt := some now }
        db.attempts attempts ∧
      db' = { db with attempts }.setOperationState operation.id status.state (some now) := by
  obtain ⟨reservation, read, done⟩ := bind_ok.mp done
  obtain ⟨member, _⟩ := getReservation_ok read
  split at done
  · cases done
  split at done
  · cases done
  rename_i inactive
  obtain ⟨⟨operation, attempt⟩, readOperation, done⟩ := bind_ok.mp done
  obtain ⟨current, _⟩ := getRequired_ok readOperation
  dsimp only at done
  split at done
  · cases done
  rename_i sameAttempt
  split at done
  · cases done; exact .inl rfl
  split at done
  · cases done
  split at done
  · cases done
  rename_i attempts updated
  cases done
  obtain ⟨chosen, replaced⟩ := current.updateOne updated fun row chosen =>
    chosen.1.trans (not_not.mp sameAttempt).symm
  obtain ⟨lease, leased, keyed⟩ := Option.map_eq_some_iff.mp chosen.2.2.1
  refine .inr ⟨reservation, operation, attempt, lease, attempts, member, inactive, current, leased, keyed.symm, ?_,
    replaced, rfl⟩
  rcases chosen.2.2.2 with status | status | status <;> rw [status] <;> rfl

theorem finalizeFencedAttempt_change (coherent : db.Coherent) {status : TerminalStatus}
    (done : db.finalizeFencedAttempt operationId executionAttemptId leaseId status now = .ok db') : Change rule db db' ∧ db.LedgerOnly db' := by
  obtain rfl | ⟨_, operation, attempt, _, _, member, inactive, current, leased, keyed, live, replaced,
    rfl⟩ := finalizeFencedAttempt_ok done
  · exact unchanged
  refine ⟨?_, rfl, rfl, rfl⟩
  refine .advanced operation _ attempt _ (current.moved (current.nonterminal coherent live)
    (setOperationState_replaced current.operation_mem status.state (some now)) replaced ⟨rfl, rfl, rfl⟩ ?_) rfl
    (fun early => ?_) rfl (.inr (current.fenced coherent leased member keyed inactive))
  · cases status <;> rfl
  · cases status <;> cases early

theorem transition_ok
    (done : db.transition leaseId fencingToken expectedAttemptVersion status = .ok db') :
    ∃ operation attempt attempts, db.Current operation attempt ∧
      status ∈ ActiveAttemptTransition.allowed attempt.status ∧
      Table.Replaced attempt { attempt with status := status.attempt, stateVersion := attempt.stateVersion + 1 }
        db.attempts attempts ∧
      db' = { db with attempts }.setOperationState operation.id status.state operation.terminalAt := by
  obtain ⟨_, done⟩ := rest_ok done
  split at done
  · cases done
  split at done
  · cases done
  split at done
  · cases done
  obtain ⟨⟨operation, attempt⟩, readOperation, done⟩ := bind_ok.mp done
  obtain ⟨current, _⟩ := getRequired_ok readOperation
  dsimp only at done
  split at done
  · cases done
  rename_i allowed
  split at done
  · cases done
  split at done
  · cases done
  rename_i attempts updated
  cases done
  obtain ⟨_, replaced⟩ := current.updateOne updated fun row chosen => chosen.1
  exact ⟨operation, attempt, attempts, current, not_not.mp allowed, replaced, rfl⟩

theorem transition_change (coherent : db.Coherent)
    (done : db.transition leaseId fencingToken expectedAttemptVersion status = .ok db') : Change rule db db' ∧ db.LedgerOnly db' := by
  obtain ⟨operation, attempt, _, current, allowed, replaced, rfl⟩ := transition_ok done
  have live : attempt.status.terminal = false := by
    cases before : attempt.status <;> simp_all [ActiveAttemptTransition.allowed, RemoteAttemptStatus.terminal]
  refine ⟨?_, rfl, rfl, rfl⟩
  refine .advanced operation _ attempt _ (current.moved (current.nonterminal coherent live)
    (setOperationState_replaced current.operation_mem status.state operation.terminalAt) replaced ⟨rfl, rfl, rfl⟩ ?_)
    rfl (fun early => ?_) rfl (.inl ?_)
  · cases status <;> rfl
  · cases status <;> cases early
  · cases status <;> rfl

theorem activate_change (coherent : db.Coherent) {snapshot : RemoteOperation}
    (done : db.activate snapshot reservation = .ok db') : Change rule db db' := by
  obtain ⟨⟨operation, attempt⟩, read, done⟩ := bind_ok.mp done
  obtain ⟨current, _⟩ := getRequired_ok read
  obtain ⟨_, enqueued, done⟩ := bind_ok.mp done
  obtain ⟨_, rfl, _⟩ := enqueueOnce_ok enqueued
  split at done
  · rename_i reserved
    split at done
    · cases done
    rename_i attempts updated
    cases done
    obtain ⟨_, replaced⟩ := current.updateOne updated fun row chosen => chosen.1
    exact .advanced operation _ attempt _ (current.moved (current.nonterminal coherent (by rw [reserved]; rfl))
      (setOperationState_replaced current.operation_mem .activated operation.terminalAt) replaced ⟨rfl, rfl, rfl⟩ rfl)
      rfl (fun early => by cases early) rfl (.inl rfl)
  · split at done
    · cases done; exact .same rfl rfl rfl
    · cases done

theorem renewCurrentLease_change (coherent : db.Coherent) {hostId : OpaqueId}
    {lease : LeaseIdentity} (done : db.renewCurrentLease options hostId lease now = .ok db') : Change rule db db' := by
  unfold renewCurrentLease at done
  split at done
  · cases done; exact .same rfl rfl rfl
  split at done
  · cases done; exact .same rfl rfl rfl
  split at done
  · cases done; exact .same rfl rfl rfl
  dsimp only at done
  split at done
  · rename_i dispatches reservations attempts _ updatedReservations updatedAttempts
    cases done
    obtain ⟨reservation, chosenReservation, replacedReservation⟩ := updateOne_replaced updatedReservations
    obtain ⟨attempt, chosenAttempt, replacedAttempt⟩ := updateOne_replaced updatedAttempts
    have holder : reservation.executionAttemptId = attempt.executionAttemptId :=
      chosenReservation.2.2.1.trans chosenAttempt.1.symm
    obtain ⟨_, leased, _, _, same⟩ :=
      coherent.reserved_of_mem replacedReservation.old_mem replacedAttempt.old_mem holder
    obtain ⟨_, rfl⟩ := same chosenReservation.2.2.2.1
    refine .renewed attempt _ reservation _ rfl replacedAttempt replacedReservation holder chosenReservation.2.2.2.1 ?_
      ⟨_, _, rfl⟩
    rw [leased]
    rfl
  · cases done

end Reservations
end PlanWeave.RemoteDatabase
