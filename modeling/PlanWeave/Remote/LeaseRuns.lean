import PlanWeave.Remote.CoherentCalls

namespace PlanWeave
open Checked List Option Table

inductive LeaseCall where
  | create (input : CreateRemoteOperationInput) (operationId dispatchId executionAttemptId : OpaqueId)
  | markClaimed (operationId : OpaqueId)
  | persistHostSelection (operationId : OpaqueId) (hostSelection : HostSelection)
  | reserve (operationId : OpaqueId) (input : RemoteDatabase.ReserveInput) (leaseId : OpaqueId) (now : Timestamp)
  | transition (leaseId : OpaqueId) (fencingToken expectedAttemptVersion : Nat) (status : ActiveAttemptTransition)
  | prepare (operation : RemoteOperation) (reservation : HostReservation)
  | activate (operation : RemoteOperation) (reservation : HostReservation)
  | release (leaseId : OpaqueId) (fencingToken expectedVersion : Nat) (reason : ReservationReleaseReason)
      (now : Timestamp)
  | expireDue (now : Timestamp)
  | resumeSameAttempt (input : RemoteDatabase.ResumeAttemptInput) (now : Timestamp)
  | retryAttempt (input : RemoteDatabase.RetryAttemptInput) (now : Timestamp)
  | markActionRequired (operationId executionAttemptId : OpaqueId) (expectedAttemptVersion : Nat)
  | finalizeFencedAttempt (operationId executionAttemptId leaseId : OpaqueId) (status : TerminalStatus) (now : Timestamp)
  | cancelClaimedAfterRuntimeReset (operationId executionAttemptId : OpaqueId) (now : Timestamp)
  | heartbeat (hostId : OpaqueId) (leases : List LeaseIdentity) (now : Timestamp)
  | accept (hostId : OpaqueId) (lease : LeaseIdentity) (now : Timestamp)
  | interrupt (hostId : OpaqueId) (lease : LeaseIdentity) (interruption : DispatchInterruption) (now : Timestamp)
  | complete (hostId : OpaqueId) (lease : LeaseIdentity) (result : DispatchResult) (now : Timestamp)
  | fail (hostId : OpaqueId) (lease : LeaseIdentity) (failure : DispatchFailure)
      (pendingCancellation : Dispatch → Bool) (now : Timestamp)
  | recoverExpiredLeases (now : Timestamp)
  | finishDispatchTerminal (expected : DispatchTerminalIdentity) (status : TerminalStatus)
  /-- Enrollment, readiness and revocation write `agent_hosts`. -/
  | setHosts (hosts : Table AgentHost.id)

namespace RemoteDatabase

/-- Rows that a caller has read before: their identity columns never change. -/
def HasRead (db : RemoteDatabase) (operation : RemoteOperation) (reservation : HostReservation) : Prop :=
  (∃ row ∈ db.attempts.rows, row.executionAttemptId = operation.executionAttemptId ∧ row.operationId = operation.id ∧
    row.dispatchId = operation.dispatchId) ∧
  ∃ row ∈ db.reservations.rows, row.leaseId = reservation.leaseId ∧
    row.executionAttemptId = reservation.executionAttemptId ∧ row.hostId = reservation.hostId ∧
    row.fencingToken = reservation.fencingToken

instance (db : RemoteDatabase) (operation : RemoteOperation) (reservation : HostReservation) :
    Decidable (db.HasRead operation reservation) :=
  inferInstanceAs (Decidable (_ ∧ _))

def Told (db : RemoteDatabase) (hostId : OpaqueId) (lease : LeaseIdentity) : Prop :=
  ∃ command ∈ db.mailbox.rows, command.hostId = hostId ∧ command.dispatchId = lease.dispatchId ∧
    command.leaseId = lease.leaseId ∧ command.executionAttemptId = lease.executionAttemptId

instance (db : RemoteDatabase) (hostId : OpaqueId) (lease : LeaseIdentity) : Decidable (db.Told hostId lease) :=
  inferInstanceAs (Decidable (∃ _ ∈ _, _))

def commit (db : RemoteDatabase) : Except RemoteError RemoteDatabase → RemoteDatabase
  | .ok next => next
  | .error _ => db

end RemoteDatabase

variable {options : HostReservationOptions}
variable {allowed : RemoteDatabase → LeaseCall → Prop}

namespace LeaseCall
open RemoteDatabase

/-- What the callers and the Hosts keep to. -/
def Admissible (db : RemoteDatabase) : LeaseCall → Prop
  | prepare operation reservation => db.HasRead operation reservation
  | activate operation reservation => db.HasRead operation reservation
  | complete hostId lease _ _ => db.Told hostId lease
  | fail hostId lease _ _ _ => db.Told hostId lease
  | _ => True

instance (db : RemoteDatabase) : (call : LeaseCall) → Decidable (call.Admissible db)
  | prepare operation reservation | activate operation reservation =>
    inferInstanceAs (Decidable (db.HasRead operation reservation))
  | complete hostId lease _ _ | fail hostId lease _ _ _ => inferInstanceAs (Decidable (db.Told hostId lease))
  | create .. | markClaimed _ | persistHostSelection .. | reserve .. | transition .. | release .. | expireDue _ | resumeSameAttempt ..
  | retryAttempt .. | markActionRequired .. | finalizeFencedAttempt .. | cancelClaimedAfterRuntimeReset ..
  | heartbeat .. | accept .. | interrupt .. | recoverExpiredLeases _ | finishDispatchTerminal .. | setHosts _ =>
    isTrue trivial

def perform (options : HostReservationOptions) (db : RemoteDatabase) : LeaseCall → RemoteDatabase
  | create input operationId dispatchId executionAttemptId =>
    db.commit (db.create input operationId dispatchId executionAttemptId)
  | markClaimed operationId => db.commit (db.markClaimed operationId)
  | persistHostSelection operationId hostSelection => db.commit (db.persistHostSelection operationId hostSelection)
  | reserve operationId input leaseId now =>
    db.commit ((db.reserve options operationId input leaseId now).map (·.1))
  | transition leaseId fencingToken expectedAttemptVersion status =>
    db.commit (db.transition leaseId fencingToken expectedAttemptVersion status)
  | prepare operation reservation => db.commit (db.prepare operation reservation)
  | activate operation reservation => db.commit (db.activate operation reservation)
  | release leaseId fencingToken expectedVersion reason now =>
    db.commit (db.release leaseId fencingToken expectedVersion reason now)
  | expireDue now => (db.expireDue now).1
  | resumeSameAttempt input now => db.commit ((db.resumeSameAttempt options input now).map (·.1))
  | retryAttempt input now => db.commit (db.retryAttempt input now)
  | markActionRequired operationId executionAttemptId expectedAttemptVersion =>
    db.commit (db.markActionRequired operationId executionAttemptId expectedAttemptVersion)
  | finalizeFencedAttempt operationId executionAttemptId leaseId status now =>
    db.commit (db.finalizeFencedAttempt operationId executionAttemptId leaseId status now)
  | cancelClaimedAfterRuntimeReset operationId executionAttemptId now =>
    db.commit (db.cancelClaimedAfterRuntimeReset operationId executionAttemptId now)
  | heartbeat hostId leases now => db.commit (db.heartbeat options hostId leases now)
  | accept hostId lease now => db.accept hostId lease now
  | interrupt hostId lease interruption now => db.interrupt hostId lease interruption now
  | complete hostId lease result now => db.recordCompleted hostId lease result now
  | fail hostId lease failure pendingCancellation now => db.recordFailed hostId lease failure pendingCancellation now
  | recoverExpiredLeases now => db.recoverExpiredLeases now
  | finishDispatchTerminal expected status => db.commit (db.finishDispatchTerminal expected status)
  | setHosts hosts => { db with hosts }

def run (options : HostReservationOptions) (calls : List LeaseCall) (db : RemoteDatabase) : RemoteDatabase :=
  calls.foldl (perform options) db

def Along (options : HostReservationOptions) (allowed : RemoteDatabase → LeaseCall → Prop) :
    List LeaseCall → RemoteDatabase → Prop
  | [], _ => True
  | call :: rest, db => allowed db call ∧ Along options allowed rest (call.perform options db)

def AdmissibleRun (options : HostReservationOptions) : List LeaseCall → RemoteDatabase → Prop :=
  Along options fun db call => call.Admissible db

theorem run_append (options : HostReservationOptions) (before after : List LeaseCall) (db : RemoteDatabase) :
    run options (before ++ after) db = run options after (run options before db) := foldl_append

theorem along_append {before after : List LeaseCall} {db : RemoteDatabase} : Along options allowed (before ++ after) db ↔
      Along options allowed before db ∧ Along options allowed after (run options before db) := by
  induction before generalizing db with
  | nil => simp [Along, run]
  | cons _ _ ih => simp only [cons_append, Along, ih, run, foldl_cons, and_assoc]

instance decidableAlong (options : HostReservationOptions) (allowed : RemoteDatabase → LeaseCall → Prop)
    [∀ db call, Decidable (allowed db call)] :
    (calls : List LeaseCall) → (db : RemoteDatabase) → Decidable (Along options allowed calls db)
  | [], _ => isTrue trivial
  | call :: rest, db =>
    have := decidableAlong options allowed rest (call.perform options db)
    inferInstanceAs (Decidable (_ ∧ _))

instance (options : HostReservationOptions) (calls : List LeaseCall) (db : RemoteDatabase) :
    Decidable (AdmissibleRun options calls db) :=
  inferInstanceAs (Decidable (Along options _ calls db))

def Keeps (rule : SnapshotRule) (db : RemoteDatabase) : LeaseCall → Prop
  | create input _ _ _ => rule input.endpointSelection input.agentAccess
  | retryAttempt input _ => ∀ operation ∈ db.operations, operation.id = input.operationId →
    rule operation.endpointSelection (input.agentAccess.or operation.agentAccess)
  | _ => True

theorem keeps_any (db : RemoteDatabase) (call : LeaseCall) : call.Keeps (fun _ _ => True) db := by
  cases call <;> simp [Keeps]

end LeaseCall

/-- A dispatch keeps what names it and its lease. It is live only if it was, and awaits its writeback only if it did or if
its Host `reports` it. -/
structure Dispatch.Moved (reports : Dispatch → Prop) (old new : Dispatch) : Prop where
  id : new.id = old.id
  leaseId : new.leaseId = old.leaseId
  hostId : new.hostId = old.hostId
  executionAttemptId : new.executionAttemptId = old.executionAttemptId
  leaseExpiresAt : new.leaseExpiresAt = old.leaseExpiresAt
  live : new.status.live = true → old.status.live = true
  parked : new.status = .awaitingWriteback → old.status = .awaitingWriteback ∨ reports old

namespace RemoteDatabase
variable {rule : SnapshotRule} {db db' : RemoteDatabase}

/-- What the Hosts know and the dispatches hold: leases of reservations, of attempts past `reserved` where a Host was
told or a result is parked. -/
structure Informed (db : RemoteDatabase) : Prop where
  told : ∀ command ∈ db.mailbox, db.Started command.executionAttemptId command.leaseId ∧
    ∃ reservation ∈ db.reservations, reservation.leaseId = command.leaseId
  parked : db.Parked
  leased : ∀ dispatch ∈ db.dispatches, ∃ reservation ∈ db.reservations, reservation.leaseId = dispatch.leaseId

theorem empty_informed : empty.Informed := by
  refine ⟨?_, ?_, ?_⟩
  all_goals exact fun _ member => absurd member not_mem_empty

structure MovesDispatches (reports : Dispatch → Prop) (db db' : RemoteDatabase) : Prop where
  rest : db' = { db with dispatches := db'.dispatches }
  origin : ∀ row ∈ db'.dispatches, ∃ old ∈ db.dispatches, Dispatch.Moved reports old row

variable {leaseId dispatchId : OpaqueId} {later : RemoteDatabase} {operation : RemoteOperation} {reports : Dispatch → Prop}
variable {dispatch dispatch' : Dispatch}

namespace MovesDispatches

theorem refl : MovesDispatches reports db db :=
  ⟨rfl, fun row member => ⟨row, member, rfl, rfl, rfl, rfl, rfl, id, .inl⟩⟩

theorem trans (first : MovesDispatches (fun _ => False) db db') (second : MovesDispatches (fun _ => False) db' later) :
    MovesDispatches (fun _ => False) db later := by
  refine ⟨second.rest.trans (by rw [first.rest]), fun row member => ?_⟩
  obtain ⟨middle, middleMember, moved'⟩ := second.origin row member
  obtain ⟨old, oldMember, moved⟩ := first.origin middle middleMember
  exact ⟨old, oldMember, moved'.id.trans moved.id, moved'.leaseId.trans moved.leaseId, moved'.hostId.trans moved.hostId,
    moved'.executionAttemptId.trans moved.executionAttemptId, moved'.leaseExpiresAt.trans moved.leaseExpiresAt,
    fun live => moved.live (moved'.live live), fun awaits => (moved'.parked awaits).elim moved.parked False.elim⟩

theorem replaced {dispatches : Table Dispatch.id} (replaced : Table.Replaced dispatch dispatch' db.dispatches dispatches)
    (moved : Dispatch.Moved reports dispatch dispatch') : MovesDispatches reports db { db with dispatches } :=
  ⟨rfl, replaced.forall_mem (fun row old _ => ⟨row, old, rfl, rfl, rfl, rfl, rfl, id, .inl⟩) ⟨dispatch, replaced.old_mem, moved⟩⟩

theorem set {f : Dispatch → Dispatch} {keeps : ∀ row, (f row).id = row.id} (member : dispatch ∈ db.dispatches)
    (moved : Dispatch.Moved reports dispatch (f dispatch)) : MovesDispatches reports db (db.setDispatch dispatch.id f keeps) :=
  replaced (replaced_of_rows rfl member rfl (fun _ _ keyed => keyed) rfl moved.id) moved

end MovesDispatches

section Calls
variable {hostId : OpaqueId} {lease : LeaseIdentity} {now : Timestamp} {allowExpired : Bool} {status : TerminalStatus}

theorem resolveCurrentLease_some (resolved : db.resolveCurrentLease hostId lease allowExpired now = some dispatch) :
    dispatch ∈ db.dispatches ∧ dispatch.heldBy hostId lease := by
  obtain ⟨found, held⟩ := filter_eq_some_iff.mp resolved
  simp only [Bool.and_eq_true, decide_eq_true_eq] at held
  exact ⟨(find_eq_some.mp found).1, held.1⟩

theorem accept_moves : MovesDispatches (fun _ => False) db (db.accept hostId lease now) := by
  unfold accept
  split
  · exact .refl
  rename_i resolved
  split
  · rename_i isLeased
    refine .set (resolveCurrentLease_some resolved).1 ⟨rfl, rfl, rfl, rfl, rfl, fun _ => ?_, fun awaits => by cases awaits⟩
    rw [isLeased]
    rfl
  · exact .refl

theorem interrupt_moves {interruption : DispatchInterruption} :
    MovesDispatches (fun _ => False) db (db.interrupt hostId lease interruption now) := by
  unfold interrupt
  split
  · exact .refl
  rename_i resolved
  split
  · exact .set (resolveCurrentLease_some resolved).1
      ⟨rfl, rfl, rfl, rfl, rfl, (fun live => by cases live), fun awaits => by cases awaits⟩
  · exact .refl

theorem recordCompleted_moves {result : DispatchResult} :
    MovesDispatches (·.heldBy hostId lease) db (db.recordCompleted hostId lease result now) := by
  unfold recordCompleted
  split
  · exact .refl
  rename_i resolved
  obtain ⟨member, held⟩ := resolveCurrentLease_some resolved
  split
  · exact .refl
  split
  · exact .set member ⟨rfl, rfl, rfl, rfl, rfl, (fun live => by cases live), fun _ => .inr held⟩
  · exact .refl

theorem recordFailed_moves {failure : DispatchFailure} {pendingCancellation : Dispatch → Bool} :
    MovesDispatches (·.heldBy hostId lease) db (db.recordFailed hostId lease failure pendingCancellation now) := by
  unfold recordFailed
  split
  · exact .refl
  rename_i resolved
  obtain ⟨member, held⟩ := resolveCurrentLease_some resolved
  dsimp only
  split
  · exact .refl
  split
  · exact .set member ⟨rfl, rfl, rfl, rfl, rfl, (fun live => by cases live), fun _ => .inr held⟩
  · exact .refl

theorem recoverExpiredLease_moves : MovesDispatches (fun _ => False) db (db.recoverExpiredLease dispatchId now) := by
  unfold recoverExpiredLease
  split
  · exact .refl
  rename_i found
  split
  · exact .set (find_eq_some.mp found).1
      ⟨rfl, rfl, rfl, rfl, rfl, (fun live => by cases live), fun awaits => by cases awaits⟩
  · exact .refl

theorem recoverExpiredLeases_moves : MovesDispatches (fun _ => False) db (db.recoverExpiredLeases now) := by
  unfold recoverExpiredLeases
  generalize (db.dispatches.rows.filter _).map _ = dispatchIds
  induction dispatchIds generalizing db with
  | nil => exact .refl
  | cons _ _ ih => exact recoverExpiredLease_moves.trans ih

theorem finishDispatchTerminal_moves {expected : DispatchTerminalIdentity}
    (done : db.finishDispatchTerminal expected status = .ok db') : MovesDispatches (fun _ => False) db db' := by
  unfold finishDispatchTerminal at done
  split at done
  · cases done
  rename_i found
  split_ifs at done <;> cases done
  · exact .refl
  · exact .set (find_eq_some.mp found).1
      ⟨rfl, rfl, rfl, rfl, rfl, (fun live => by cases status <;> cases live), fun awaits => by cases status <;> cases awaits⟩

end Calls

theorem Change.reservation_exists (change : Change rule db db')
    (issued : ∃ reservation ∈ db.reservations, reservation.leaseId = leaseId) :
    ∃ reservation ∈ db'.reservations, reservation.leaseId = leaseId := by
  obtain ⟨_, member, keyed⟩ := issued
  obtain ⟨kept, keptMember, keptKeyed, _⟩ := change.reservation_kept member
  exact ⟨kept, keptMember, keptKeyed.trans keyed⟩

theorem Change.started (change : Change rule db db') (coherent : db.Coherent) {executionAttemptId : OpaqueId}
    (issued : ∃ reservation ∈ db.reservations, reservation.leaseId = leaseId)
    (started : db.Started executionAttemptId leaseId) : db'.Started executionAttemptId leaseId := by
  intro row member keyed leased isReserved
  rcases change.reserved_origin coherent member isReserved with ⟨old, oldMember, oldKeyed, oldLeased, wasReserved⟩ | fresh
  · exact started old oldMember (oldKeyed.trans keyed) (oldLeased.trans leased) wasReserved
  · obtain ⟨_, held, unused⟩ := fresh
    obtain ⟨reservation, reservationMember, reservationKeyed⟩ := issued
    rw [held] at leased
    exact unused reservation reservationMember (reservationKeyed.trans (Option.some.inj leased).symm)

namespace Informed

theorem change (informed : db.Informed) (coherent : db.Coherent) (change : Change rule db db')
    (mailbox : ∀ command ∈ db'.mailbox, command ∈ db.mailbox ∨
      (db'.Started command.executionAttemptId command.leaseId ∧
        ∃ reservation ∈ db.reservations, reservation.leaseId = command.leaseId))
    (dispatches : ∀ dispatch ∈ db'.dispatches, ∃ old ∈ db.dispatches, old.leaseId = dispatch.leaseId ∧
      old.executionAttemptId = dispatch.executionAttemptId ∧
      (dispatch.status = .awaitingWriteback → old.status = .awaitingWriteback)) : db'.Informed := by
  refine ⟨?_, ?_, ?_⟩
  · intro command member
    rcases mailbox command member with old | ⟨started, issued⟩
    · obtain ⟨started, issued⟩ := informed.told command old
      exact ⟨change.started coherent issued started, change.reservation_exists issued⟩
    · exact ⟨started, change.reservation_exists issued⟩
  · intro dispatch member awaits
    obtain ⟨old, oldMember, sameLease, sameAttempt, oldAwaits⟩ := dispatches dispatch member
    rw [← sameLease, ← sameAttempt]
    exact change.started coherent (informed.leased old oldMember) (informed.parked old oldMember (oldAwaits awaits))
  · intro dispatch member
    obtain ⟨old, oldMember, sameLease, _⟩ := dispatches dispatch member
    exact change.reservation_exists (sameLease ▸ informed.leased old oldMember)

theorem ledger (informed : db.Informed) (coherent : db.Coherent) (done : Change rule db db' ∧ db.LedgerOnly db') :
    db'.Informed :=
  informed.change coherent done.1 (fun _ member => .inl (done.2.mailbox ▸ member)) fun dispatch member =>
    ⟨dispatch, done.2.dispatches ▸ member, rfl, rfl, fun awaits => awaits⟩

theorem moved (informed : db.Informed) (moves : MovesDispatches reports db db')
    (parks : ∀ row, reports row → db.Started row.executionAttemptId row.leaseId) : db'.Informed := by
  rw [moves.rest]
  refine ⟨informed.told, fun row member awaits => ?_, fun row member => ?_⟩
  · obtain ⟨old, oldMember, moved⟩ := moves.origin row member
    rw [moved.leaseId, moved.executionAttemptId]
    exact (moved.parked awaits).elim (informed.parked old oldMember) (parks old)
  · obtain ⟨old, oldMember, moved⟩ := moves.origin row member
    rw [moved.leaseId]
    exact informed.leased old oldMember

end Informed

structure Sound (rule : SnapshotRule) (db : RemoteDatabase) : Prop where
  coherent : db.Coherent
  informed : db.Informed
  snapshots : ∀ operation ∈ db.operations, rule operation.endpointSelection operation.agentAccess

structure Follows (db db' : RemoteDatabase) : Prop where
  operations : ∀ row ∈ db.operations, ∃ row' ∈ db'.operations, row'.id = row.id ∧
    row'.endpointSelection = row.endpointSelection
  attempts : ∀ row ∈ db.attempts, ∃ row' ∈ db'.attempts, row'.executionAttemptId = row.executionAttemptId ∧
    row'.operationId = row.operationId ∧ (row.status.terminal = true → row'.status = row.status)
  reservations : ∀ row ∈ db.reservations, ∃ row' ∈ db'.reservations, row'.leaseId = row.leaseId ∧
    row'.executionAttemptId = row.executionAttemptId ∧ row'.hostId = row.hostId ∧ row'.fencingToken = row.fencingToken

namespace Follows

theorem refl (db : RemoteDatabase) : db.Follows db :=
  ⟨fun row member => ⟨row, member, rfl, rfl⟩, fun row member => ⟨row, member, rfl, rfl, fun _ => rfl⟩,
    fun row member => ⟨row, member, rfl, rfl, rfl, rfl⟩⟩

theorem trans (first : db.Follows db') (second : db'.Follows later) : db.Follows later := by
  refine ⟨fun row member => ?_, fun row member => ?_, fun row member => ?_⟩
  · obtain ⟨row', member', keyed, selection⟩ := first.operations row member
    obtain ⟨row'', member'', keyed', selection'⟩ := second.operations row' member'
    exact ⟨row'', member'', keyed'.trans keyed, selection'.trans selection⟩
  · obtain ⟨row', member', keyed, owner, status⟩ := first.attempts row member
    obtain ⟨row'', member'', keyed', owner', status'⟩ := second.attempts row' member'
    refine ⟨row'', member'', keyed'.trans keyed, owner'.trans owner, fun terminal => ?_⟩
    have same := status terminal
    rw [status' (same ▸ terminal), same]
  · obtain ⟨row', member', keyed, holder, host, token⟩ := first.reservations row member
    obtain ⟨row'', member'', keyed', holder', host', token'⟩ := second.reservations row' member'
    exact ⟨row'', member'', keyed'.trans keyed, holder'.trans holder, host'.trans host, token'.trans token⟩

end Follows

structure Next (rule : SnapshotRule) (db db' : RemoteDatabase) : Prop where
  sound : Sound rule db'
  follows : db.Follows db'

theorem Next.trans (first : Next rule db db') (second : Next rule db' later) : Next rule db later :=
  ⟨second.sound, first.follows.trans second.follows⟩

namespace Sound

section
variable (sound : Sound rule db)
include sound

theorem next : Next rule db db := ⟨sound, .refl db⟩

theorem change (change : Change rule db db') (informed : db'.Informed) : Next rule db db' :=
  ⟨⟨change.coherent sound.coherent, informed, fun _ member => change.snapshots sound.snapshots member⟩,
    fun _ member => change.operation_kept member, fun _ member => change.attempt_kept sound.coherent member, fun _ member => change.reservation_kept member⟩

theorem ledger (done : Change rule db db' ∧ db.LedgerOnly db') : Next rule db db' :=
  sound.change done.1 (sound.informed.ledger sound.coherent done)

theorem quiet (operations : db'.operations = db.operations) (attempts : db'.attempts = db.attempts)
    (reservations : db'.reservations = db.reservations) (informed : db'.Informed) : Next rule db db' :=
  sound.change (.same operations attempts reservations) informed

theorem moved (moves : MovesDispatches reports db db')
    (parks : ∀ row, reports row → db.Started row.executionAttemptId row.leaseId) : Next rule db db' :=
  sound.quiet (by rw [moves.rest]) (by rw [moves.rest]) (by rw [moves.rest]) (sound.informed.moved moves parks)
end

variable {hostId : OpaqueId} {lease : LeaseIdentity} {now : Timestamp}
variable {reservation : HostReservation}
variable {result : Except RemoteError RemoteDatabase}

section
variable (sound : Sound rule db)
include sound

theorem started_of_told (told : db.Told hostId lease) (held : dispatch.heldBy hostId lease) :
    db.Started dispatch.executionAttemptId dispatch.leaseId := by
  obtain ⟨_, sameLease, sameAttempt⟩ := held
  obtain ⟨command, member, _, _, commandLease, commandAttempt⟩ := told
  rw [sameLease, sameAttempt, ← commandLease, ← commandAttempt]
  exact (sound.informed.told command member).1

theorem renewCurrentLease (done : db.renewCurrentLease options hostId lease now = .ok db') : Next rule db db' := by
  have change : Change rule db db' := renewCurrentLease_change sound.coherent done
  refine sound.change change ?_
  unfold RemoteDatabase.renewCurrentLease at done
  split at done
  · cases done; exact sound.informed
  split at done
  · cases done; exact sound.informed
  split at done
  · cases done; exact sound.informed
  dsimp only at done
  split at done
  · rename_i dispatches reservations attempts updatedDispatches _ _
    cases done
    obtain ⟨old, _, replaced⟩ := updateOne_replaced updatedDispatches
    refine sound.informed.change sound.coherent change (fun _ member => .inl member) fun dispatch member => ?_
    rcases replaced.mem_iff.mp member with ⟨oldMember, _⟩ | rfl
    · exact ⟨dispatch, oldMember, rfl, rfl, fun awaits => awaits⟩
    · exact ⟨old, replaced.old_mem, rfl, rfl, fun awaits => awaits⟩
  · cases done

theorem heartbeat
    {leases : List LeaseIdentity} (done : db.heartbeat options hostId leases now = .ok db') : Next rule db db' := by
  have touched : Next rule db (db.touchHost hostId now) :=
    sound.quiet rfl rfl rfl ⟨sound.informed.told, sound.informed.parked, sound.informed.leased⟩
  unfold RemoteDatabase.heartbeat renewLeases at done
  generalize db.touchHost hostId now = start at done touched
  induction leases generalizing start with
  | nil => cases done; exact touched
  | cons _ _ ih =>
    obtain ⟨next, first, tail⟩ := foldlM_cons_inv done
    exact ih next tail (touched.trans (touched.sound.renewCurrentLease first))

theorem prepare
    (read : db.HasRead operation reservation) (done : db.prepare operation reservation = .ok db') : Next rule db db' := by
  unfold RemoteDatabase.prepare at done
  split at done
  · split at done
    · cases done
    split at done
    · cases done
    rename_i dispatches insertedRow
    cases done
    have inserted := Table.inserted insertedRow
    refine sound.quiet rfl rfl rfl ⟨sound.informed.told, ?_, ?_⟩
    · intro dispatch member awaits
      rcases (inserted.2 dispatch).mp member with old | rfl
      · exact sound.informed.parked dispatch old awaits
      · cases awaits
    · intro dispatch member
      rcases (inserted.2 dispatch).mp member with old | rfl
      · exact sound.informed.leased dispatch old
      · obtain ⟨row, rowMember, keyed, _⟩ := read.2
        exact ⟨row, rowMember, keyed⟩
  · split at done
    · cases done; exact sound.next
    · cases done

theorem lease_attempt_eq {left right : RemoteAttempt} (leftMember : left ∈ db.attempts)
    (rightMember : right ∈ db.attempts) (leftLeased : left.lease.map (·.leaseId) = some leaseId)
    (rightLeased : right.lease.map (·.leaseId) = some leaseId) : left = right := by
  obtain ⟨leftLease, leftHeld, leftKeyed⟩ := map_eq_some_iff.mp leftLeased
  obtain ⟨rightLease, rightHeld, rightKeyed⟩ := map_eq_some_iff.mp rightLeased
  obtain ⟨granted, grantedMember, grantedKeyed, grantedHolder, _⟩ :=
    sound.coherent.granted left leftMember leftLease leftHeld
  obtain ⟨granted', grantedMember', grantedKeyed', grantedHolder', _⟩ :=
    sound.coherent.granted right rightMember rightLease rightHeld
  have same : granted = granted' := eq_of_key grantedMember grantedMember'
    (grantedKeyed.trans (leftKeyed.trans (rightKeyed.symm.trans grantedKeyed'.symm)))
  exact eq_of_key leftMember rightMember (grantedHolder.symm.trans (same ▸ grantedHolder'))

theorem activate {snapshot : RemoteOperation}
    (read : db.HasRead snapshot reservation) (done : db.activate snapshot reservation = .ok db') : Next rule db db' := by
  have change : Change rule db db' := activate_change sound.coherent done
  have issued : ∃ row ∈ db.reservations, row.leaseId = reservation.leaseId := by
    obtain ⟨row, member, keyed, _⟩ := read.2
    exact ⟨row, member, keyed⟩
  refine sound.change change ?_
  obtain ⟨⟨operation, attempt⟩, readOperation, done⟩ := bind_ok.mp done
  obtain ⟨current, sameOperation⟩ := getRequired_ok readOperation
  obtain ⟨_, enqueued, done⟩ := bind_ok.mp done
  obtain ⟨_, rfl, _, _, origin⟩ := enqueueOnce_ok enqueued
  split at done
  · split at done
    · cases done
    rename_i attempts updated
    cases done
    obtain ⟨chosen, replaced⟩ := current.updateOne updated fun row chosen => chosen.1
    refine sound.informed.change sound.coherent change (fun command member => ?_) fun dispatch member =>
      ⟨dispatch, member, rfl, rfl, fun awaits => awaits⟩
    rcases origin command member with old | rfl
    · exact .inl old
    refine .inr ⟨?_, issued⟩
    -- The reserved attempt under this lease is the one that was activated.
    intro row rowMember keyed leased isReserved
    rcases replaced.mem_iff.mp rowMember with ⟨old, different⟩ | rfl
    · obtain ⟨lease, held, same⟩ := any_eq_true _ _ |>.mp chosen.2.2
      have attemptLeased : attempt.lease.map (·.leaseId) = some reservation.leaseId := by
        rw [held, map_some, (of_decide_eq_true same).1]
      exact different (sound.lease_attempt_eq old current.attempt_mem leased attemptLeased ▸ rfl)
    · cases isReserved
  · split at done
    · rename_i activated
      cases done
      refine sound.informed.change sound.coherent change (fun command member => ?_) fun dispatch member =>
        ⟨dispatch, member, rfl, rfl, fun awaits => awaits⟩
      rcases origin command member with old | rfl
      · exact .inl old
      refine .inr ⟨?_, issued⟩
      -- The attempt that the caller has read is the activated one, or it was superseded since.
      intro row rowMember keyed leased isReserved
      obtain ⟨readRow, readMember, readKeyed, readOwner, _⟩ := read.1
      have same : readRow = row := eq_of_key readMember rowMember (readKeyed.trans keyed.symm)
      subst same
      obtain ⟨owner, ownerMember, owns, isCurrent⟩ := sound.coherent.owned readRow rowMember
      have sameOwner : owner = operation := eq_of_key ownerMember current.operation_mem
        (owns.trans (readOwner.trans sameOperation.symm))
      subst sameOwner
      rcases isCurrent with isCurrent | superseded
      · have same := eq_of_key rowMember current.attempt_mem (isCurrent.symm.trans current.attemptId.symm)
        rw [same, activated] at isReserved
        cases isReserved
      · rw [superseded] at isReserved
        cases isReserved
    · cases done

theorem expireLeases (now : Timestamp) (leaseIds : List OpaqueId) : Next rule db (db.expireLeases now leaseIds).1 := by
  induction leaseIds generalizing db with
  | nil => exact sound.next
  | cons _ _ ih =>
    unfold RemoteDatabase.expireLeases
    split
    · exact sound.next
    split
    · exact ih sound
    split
    · exact sound.next
    · rename_i released done
      have first := sound.ledger (release_change sound.coherent sound.informed.parked done)
      exact first.trans (ih first.sound)

theorem commit (keeps : ∀ db', result = .ok db' → Next rule db db') : Next rule db (db.commit result) := by
  cases result with
  | error => exact sound.next
  | ok db' => exact keeps db' rfl

theorem commit_ledger
    (changes : ∀ db', result = .ok db' → Change rule db db' ∧ db.LedgerOnly db') : Next rule db (db.commit result) :=
  sound.commit fun db' done => sound.ledger (changes db' done)

theorem perform (options : HostReservationOptions) {call : LeaseCall}
    (admissible : call.Admissible db) (keeps : call.Keeps rule db) : Next rule db (call.perform options db) := by
  cases call with
  | create => exact sound.commit_ledger fun _ done => create_change keeps done
  | markClaimed => exact sound.commit_ledger fun _ done => markClaimed_change sound.coherent done
  | persistHostSelection =>
    exact sound.commit_ledger fun _ done => persistHostSelection_change sound.coherent done
  | reserve =>
    refine sound.commit_ledger fun next done => ?_
    obtain ⟨⟨_, _⟩, reserved, rfl⟩ := map_ok.mp done
    exact reserve_change sound.coherent reserved
  | transition =>
    exact sound.commit_ledger fun _ done => transition_change sound.coherent done
  | prepare => exact sound.commit fun _ done => sound.prepare admissible done
  | activate => exact sound.commit fun _ done => sound.activate admissible done
  | release =>
    exact sound.commit_ledger fun _ done => release_change sound.coherent sound.informed.parked done
  | expireDue now => exact sound.expireLeases now _
  | resumeSameAttempt =>
    refine sound.commit_ledger fun next done => ?_
    obtain ⟨⟨_, _⟩, resumed, rfl⟩ := map_ok.mp done
    exact resumeSameAttempt_change sound.coherent resumed
  | retryAttempt => exact sound.commit_ledger fun _ done => retryAttempt_change sound.coherent keeps done
  | markActionRequired =>
    exact sound.commit_ledger fun _ done => markActionRequired_change sound.coherent done
  | finalizeFencedAttempt =>
    exact sound.commit_ledger fun _ done => finalizeFencedAttempt_change sound.coherent done
  | cancelClaimedAfterRuntimeReset =>
    exact sound.commit_ledger fun _ done => cancelClaimedAfterRuntimeReset_change sound.coherent done
  | heartbeat => exact sound.commit fun _ done => sound.heartbeat done
  | accept => exact sound.moved accept_moves fun _ => False.elim
  | interrupt => exact sound.moved interrupt_moves fun _ => False.elim
  | complete => exact sound.moved recordCompleted_moves fun _ => sound.started_of_told admissible
  | fail => exact sound.moved recordFailed_moves fun _ => sound.started_of_told admissible
  | recoverExpiredLeases => exact sound.moved recoverExpiredLeases_moves fun _ => False.elim
  | finishDispatchTerminal =>
    exact sound.commit fun _ done => sound.moved (finishDispatchTerminal_moves done) fun _ => False.elim
  | setHosts =>
    exact sound.quiet rfl rfl rfl ⟨sound.informed.told, sound.informed.parked, sound.informed.leased⟩

theorem run (options : HostReservationOptions)
    (keeps : ∀ db call, Sound rule db → allowed db call → call.Admissible db ∧ call.Keeps rule db) {calls : List LeaseCall}
    (along : LeaseCall.Along options allowed calls db) : Next rule db (LeaseCall.run options calls db) := by
  induction calls generalizing db with
  | nil => exact sound.next
  | cons call _ ih =>
    obtain ⟨admissible, kept⟩ := keeps db call sound along.1
    have first := sound.perform options admissible kept
    exact first.trans (ih first.sound along.2)
end
end Sound

theorem empty_sound (rule : SnapshotRule) : Sound rule empty :=
  ⟨empty_coherent, empty_informed, fun _ member => absurd member not_mem_empty⟩

/-- The operation states, the attempts and the reservations agree after every run of calls, and whatever a later part
of the run does, it reopens no finished attempt and issues no smaller fencing token. -/
def TablesAgree (db later : RemoteDatabase) : Prop :=
  (∀ operation ∈ later.operations, ∃ attempt, later.Current operation attempt ∧
    attempt.status = operation.state.attempt ∧
    ∀ other ∈ later.attempts, other.operationId = operation.id → (other.status ≠ .superseded ↔ other = attempt)) ∧
  (∀ reservation ∈ later.reservations, reservation.status = .active → ∃ attempt ∈ later.attempts,
    attempt.executionAttemptId = reservation.executionAttemptId ∧ attempt.lease = some reservation.lease ∧
    (∀ other ∈ later.reservations, other.executionAttemptId = attempt.executionAttemptId → other.status = .active →
      other = reservation) ∧
    ∀ issued ∈ db.reservations, issued.executionAttemptId = attempt.executionAttemptId →
      issued.fencingToken ≤ reservation.fencingToken) ∧
  (∀ attempt ∈ db.attempts, attempt.status.terminal = true →
    (∃ kept ∈ later.attempts, kept.executionAttemptId = attempt.executionAttemptId ∧ kept.status = attempt.status) ∧
    ∀ reservation ∈ later.reservations, reservation.executionAttemptId = attempt.executionAttemptId →
      reservation.status ≠ .active) ∧
  ∀ left ∈ later.operations, ∀ right ∈ later.operations, left.state.terminal = false → right.state.terminal = false →
    left.ownership = right.ownership → left = right

theorem Coherent.only_current (coherent : db.Coherent) {attempt other : RemoteAttempt}
    (current : db.Current operation attempt) (member : other ∈ db.attempts) (owner : other.operationId = operation.id) :
    other.status ≠ .superseded ↔ other = attempt := by
  constructor
  · intro kept
    obtain ⟨owning, owningMember, owns, isCurrent⟩ := coherent.owned other member
    have same : owning = operation := eq_of_key owningMember current.operation_mem (owns.trans owner)
    subst same
    rcases isCurrent with isCurrent | superseded
    · exact eq_of_key member current.attempt_mem (isCurrent.symm.trans current.attemptId.symm)
    · exact absurd superseded kept
  · rintro rfl
    rw [coherent.status_eq current]
    exact RemoteOperationState.attempt_ne_superseded _

theorem Next.tablesAgree (next : Next rule db db') : TablesAgree db db' := by
  have coherent := next.sound.coherent
  refine ⟨?_, ?_, ?_, coherent.single⟩
  · intro operation member
    obtain ⟨attempt, current, status⟩ := coherent.current operation member
    exact ⟨attempt, current, status, fun other otherMember owner => coherent.only_current current otherMember owner⟩
  · intro reservation member active
    obtain ⟨_, attempt, current, holder, leased, _⟩ := coherent.current_of_active member active
    refine ⟨attempt, current.attempt_mem, holder.symm, leased, ?_, ?_⟩
    · intro other otherMember otherHolder otherActive
      obtain ⟨_, otherLeased, _, _, same⟩ := coherent.reserved_of_mem otherMember current.attempt_mem otherHolder
      cases Option.some.inj (leased.symm.trans otherLeased)
      exact eq_of_key otherMember member (congrArg AttemptLease.leaseId (same otherActive).2).symm
    · intro issued issuedMember issuedHolder
      obtain ⟨_, keptMember, _, keptHolder, _, token⟩ := next.follows.reservations issued issuedMember
      obtain ⟨_, keptLeased, _, bound, _⟩ :=
        coherent.reserved_of_mem keptMember current.attempt_mem (keptHolder.trans issuedHolder)
      cases Option.some.inj (leased.symm.trans keptLeased)
      exact token ▸ bound
  · intro attempt member terminal
    obtain ⟨kept, keptMember, keyed, _, status⟩ := next.follows.attempts attempt member
    have same := status terminal
    refine ⟨⟨kept, keptMember, keyed, same⟩, fun reservation reservationMember holder active => ?_⟩
    obtain ⟨_, _, _, _, held⟩ := coherent.reserved_of_mem reservationMember keptMember (holder.trans keyed.symm)
    have live := RemoteAttemptStatus.not_terminal_of_ownsBlock (held active).1
    rw [same, terminal] at live
    cases live

/-- The three tables agree in every run of the calls that work on them, in any order and with any arguments. -/
theorem remote_tables_agree (options : HostReservationOptions) (before after : List LeaseCall)
    (admissible : LeaseCall.AdmissibleRun options (before ++ after) empty) :
    TablesAgree (LeaseCall.run options before empty)
      (LeaseCall.run options (before ++ after) empty) := by
  obtain ⟨first, second⟩ := LeaseCall.along_append.mp admissible
  have keeps : ∀ (db : RemoteDatabase) (call : LeaseCall), Sound (fun _ _ => True) db → call.Admissible db →
      call.Admissible db ∧ call.Keeps (fun _ _ => True) db := fun db call _ allowed => ⟨allowed, call.keeps_any db⟩
  have reached := (empty_sound fun _ _ => True).run options keeps first
  rw [LeaseCall.run_append]
  exact (reached.sound.run options keeps second).tablesAgree

def sampleId : OpaqueId := ⟨"planweave", by decide⟩

def sampleOperation : OpaqueId := ⟨"remote-operation", by decide⟩

def sampleDispatch : OpaqueId := ⟨"remote-dispatch", by decide⟩

def sampleAttempt : OpaqueId := ⟨"remote-attempt", by decide⟩

def sampleLease : OpaqueId := ⟨"remote-lease", by decide⟩

def nextDispatch : OpaqueId := ⟨"next-dispatch", by decide⟩

def nextAttempt : OpaqueId := ⟨"next-attempt", by decide⟩

def nextLease : OpaqueId := ⟨"next-lease", by decide⟩

def sampleOptions : HostReservationOptions := ⟨60000, 30000⟩

def sampleHost : AgentHost :=
  { id := sampleId, capabilities := [], capacity := 1, lastSeenAt := some 0, revokedAt := none,
    credentialExpiresAt := none, acpProfiles := some [⟨sampleId, sampleId, [], .ready⟩] }

def sampleHosts : Table AgentHost.id := ⟨[sampleHost], List.nodup_singleton _⟩

def sampleInput : CreateRemoteOperationInput :=
  { ownership := ⟨sampleId, sampleId, sampleId, "T#a", sampleId⟩, idempotencyKey := "key", sourceFingerprint := sampleId,
    requiredCapabilities := [], hostSelection := none, endpointSelection := none, agentAccess := none }

def sampleReservation : List LeaseCall :=
  [.setHosts sampleHosts, .create sampleInput sampleOperation sampleDispatch sampleAttempt, .markClaimed sampleOperation,
    .reserve sampleOperation ⟨sampleId, sampleId, some sampleId⟩ sampleLease 0]

def reservedOperation : RemoteOperation :=
  { id := sampleOperation, ownership := sampleInput.ownership, idempotencyKey := "key", sourceFingerprint := sampleId,
    requiredCapabilities := [], state := .reserved, dispatchId := sampleDispatch, executionAttemptId := sampleAttempt,
    hostSelection := none, endpointSelection := none, agentAccess := none, terminalAt := none }

def activeReservation : HostReservation := ⟨sampleLease, sampleAttempt, sampleId, 1, .active, 30000, 0⟩

def sampleIdentity : LeaseIdentity := ⟨sampleDispatch, sampleLease, sampleAttempt⟩

theorem remote_tables_agree_after_completion :
    TablesAgree (LeaseCall.run sampleOptions sampleReservation empty)
      (LeaseCall.run sampleOptions (sampleReservation ++ [.prepare reservedOperation activeReservation,
        .activate reservedOperation activeReservation, .accept sampleId sampleIdentity 1000,
        .complete sampleId sampleIdentity ⟨sampleId⟩ 2000]) empty) :=
  remote_tables_agree sampleOptions sampleReservation _ (by decide +kernel)

end RemoteDatabase
end PlanWeave
