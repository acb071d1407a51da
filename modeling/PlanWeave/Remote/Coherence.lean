import PlanWeave.Remote.Dispatches

namespace PlanWeave
open Table

def RemoteOperationState.attempt : RemoteOperationState → RemoteAttemptStatus
  | preparing | claimed => .prepared
  | reserved => .reserved
  | activated => .activated
  | running => .running
  | interrupted => .interrupted
  | actionRequired => .actionRequired
  | awaitingWriteback => .awaitingWriteback
  | completed => .completed
  | failed => .failed
  | cancelled => .cancelled

theorem RemoteOperationState.attempt_ne_superseded (state : RemoteOperationState) : state.attempt ≠ .superseded := by
  cases state <;> decide

theorem RemoteOperationState.terminal_attempt (state : RemoteOperationState) :
    state.attempt.terminal = state.terminal := by
  cases state <;> rfl

def RemoteAttemptStatus.early : RemoteAttemptStatus → Bool
  | prepared | reserved => true
  | _ => false

theorem RemoteAttemptStatus.not_terminal_of_ownsBlock {status : RemoteAttemptStatus} (owns : status.ownsBlock = true) :
    status.terminal = false := by
  cases status <;> simp_all [ownsBlock, terminal]

namespace RemoteDatabase

structure Current (db : RemoteDatabase) (operation : RemoteOperation) (attempt : RemoteAttempt) : Prop where
  operation_mem : operation ∈ db.operations
  attempt_mem : attempt ∈ db.attempts
  attemptId : attempt.executionAttemptId = operation.executionAttemptId
  operationId : attempt.operationId = operation.id
  dispatchId : attempt.dispatchId = operation.dispatchId
  ownership : attempt.ownership = operation.ownership

namespace Current
variable {db db' : RemoteDatabase} {operation other : RemoteOperation} {attempt row : RemoteAttempt}

theorem kept (current : db.Current operation attempt) (operationMember : operation ∈ db'.operations)
    (attemptMember : attempt ∈ db'.attempts) : db'.Current operation attempt :=
  ⟨operationMember, attemptMember, current.attemptId, current.operationId, current.dispatchId, current.ownership⟩

theorem attempt_ne (current : db.Current operation attempt) (otherCurrent : db.Current other row)
    (different : other.id ≠ operation.id) : row.executionAttemptId ≠ attempt.executionAttemptId := by
  intro same
  have same := eq_of_key otherCurrent.attempt_mem current.attempt_mem same
  exact different (otherCurrent.operationId.symm.trans (same ▸ current.operationId))

end Current

theorem getRequired_ok {db : RemoteDatabase} {operationId : OpaqueId} {operation : RemoteOperation}
    {attempt : RemoteAttempt} (read : db.getRequired operationId = .ok (operation, attempt)) :
    db.Current operation attempt ∧ operation.id = operationId := by
  unfold getRequired at read
  cases found : db.operations.find operationId with
  | none => simp only [found] at read; cases read
  | some row =>
    obtain ⟨member, keyed⟩ := find_eq_some.mp found
    cases foundAttempt : db.attempts.find row.executionAttemptId with
    | none => simp only [found, foundAttempt] at read; cases read
    | some =>
      obtain ⟨attemptMember, attemptKeyed⟩ := find_eq_some.mp foundAttempt
      simp only [found, foundAttempt] at read
      split at read
      · rename_i linked
        cases read
        exact ⟨⟨member, attemptMember, attemptKeyed, linked.1, linked.2.1, linked.2.2.1⟩, keyed⟩
      · cases read

structure Coherent (db : RemoteDatabase) : Prop where
  current : ∀ operation ∈ db.operations, ∃ attempt, db.Current operation attempt ∧
    attempt.status = operation.state.attempt
  owned : ∀ attempt ∈ db.attempts, ∃ operation ∈ db.operations, operation.id = attempt.operationId ∧
    (operation.executionAttemptId = attempt.executionAttemptId ∨ attempt.status = .superseded)
  reserved : ∀ reservation ∈ db.reservations, ∃ attempt ∈ db.attempts,
    attempt.executionAttemptId = reservation.executionAttemptId ∧ ∃ lease, attempt.lease = some lease ∧
      lease.hostId = reservation.hostId ∧ reservation.fencingToken ≤ lease.fencingToken ∧
      (reservation.status = .active → attempt.status.ownsBlock = true ∧ lease = reservation.lease)
  granted : ∀ attempt ∈ db.attempts, ∀ lease, attempt.lease = some lease → ∃ reservation ∈ db.reservations,
    reservation.leaseId = lease.leaseId ∧ reservation.executionAttemptId = attempt.executionAttemptId ∧
      reservation.hostId = lease.hostId ∧ reservation.fencingToken = lease.fencingToken
  unleased : ∀ attempt ∈ db.attempts, attempt.status = .prepared → attempt.lease = none
  single : ∀ left ∈ db.operations, ∀ right ∈ db.operations, left.state.terminal = false →
    right.state.terminal = false → left.ownership = right.ownership → left = right

theorem empty_coherent : RemoteDatabase.empty.Coherent := by
  refine ⟨?_, ?_, ?_, ?_, ?_, ?_⟩
  all_goals exact fun _ member => absurd member not_mem_empty

/-- The rows of an operation and its current attempt, before and after a write, with nothing else changed in them than
state, version, times and lease. -/
structure Moved (db db' : RemoteDatabase) (operation operation' : RemoteOperation) (attempt attempt' : RemoteAttempt) :
    Prop where
  current : db.Current operation attempt
  operations : Table.Replaced operation operation' db.operations db'.operations
  attempts : Table.Replaced attempt attempt' db.attempts db'.attempts
  nonterminal : operation.state.terminal = false
  attemptId : operation'.executionAttemptId = operation.executionAttemptId
  dispatchId : operation'.dispatchId = operation.dispatchId
  ownership : operation'.ownership = operation.ownership
  endpointSelection : operation'.endpointSelection = operation.endpointSelection
  agentAccess : operation'.agentAccess = operation.agentAccess
  attemptOperation : attempt'.operationId = attempt.operationId
  attemptDispatch : attempt'.dispatchId = attempt.dispatchId
  attemptOwnership : attempt'.ownership = attempt.ownership
  status : attempt'.status = operation'.state.attempt

abbrev SnapshotRule := Option EndpointSelection → Option AuthorizedRemoteAgentUse → Prop

inductive Change (rule : SnapshotRule) (db db' : RemoteDatabase) : Prop where
  | same (operations : db'.operations = db.operations) (attempts : db'.attempts = db.attempts)
      (reservations : db'.reservations = db.reservations)
  | created (operation : RemoteOperation) (attempt : RemoteAttempt)
      (operations : Table.Inserted operation db.operations db'.operations)
      (attempts : Table.Inserted attempt db.attempts db'.attempts)
      (reservations : db'.reservations = db.reservations)
      (current : db'.Current operation attempt) (state : operation.state = .preparing)
      (status : attempt.status = .prepared) (lease : attempt.lease = none)
      (free : ∀ other ∈ db.operations, other.ownership = operation.ownership → other.state.terminal = true)
      (accepted : rule operation.endpointSelection operation.agentAccess)
  | advanced (operation operation' : RemoteOperation) (attempt attempt' : RemoteAttempt)
      (moved : db.Moved db' operation operation' attempt attempt') (lease : attempt'.lease = attempt.lease)
      (early : attempt'.status.early = true → attempt'.status = attempt.status)
      (reservations : db'.reservations = db.reservations)
      (fenced : attempt'.status.ownsBlock = true ∨ ∀ reservation ∈ db.reservations,
        reservation.executionAttemptId = attempt.executionAttemptId → reservation.status ≠ .active)
  | released (operation operation' : RemoteOperation) (attempt attempt' : RemoteAttempt)
      (reservation reservation' : HostReservation)
      (moved : db.Moved db' operation operation' attempt attempt') (lease : attempt'.lease = attempt.lease)
      (early : attempt'.status.early = false)
      (reservations : Table.Replaced reservation reservation' db.reservations db'.reservations)
      (active : reservation.status = .active) (inactive : reservation'.status ≠ .active)
      (holder : reservation.executionAttemptId = attempt.executionAttemptId)
      (kept : reservation'.executionAttemptId = reservation.executionAttemptId ∧ reservation'.lease = reservation.lease)
  | leased (operation operation' : RemoteOperation) (attempt attempt' : RemoteAttempt) (reservation : HostReservation)
      (moved : db.Moved db' operation operation' attempt attempt') (owns : attempt'.status.ownsBlock = true)
      (lease : attempt'.lease = some reservation.lease)
      (reservations : Table.Inserted reservation db.reservations db'.reservations)
      (holder : reservation.executionAttemptId = attempt.executionAttemptId)
      (newest : ∀ other ∈ db.reservations, other.executionAttemptId = attempt.executionAttemptId →
        other.status ≠ .active ∧ other.hostId = reservation.hostId ∧ other.fencingToken < reservation.fencingToken)
  | retried (operation operation' : RemoteOperation) (attempt attempt' next : RemoteAttempt)
      (between : Table RemoteAttempt.executionAttemptId) (current : db.Current operation attempt)
      (operations : Table.Replaced operation operation' db.operations db'.operations)
      (superseded : Table.Replaced attempt attempt' db.attempts between)
      (inserted : Table.Inserted next between db'.attempts)
      (reservations : db'.reservations = db.reservations) (nonterminal : operation.state.terminal = false)
      (ownership : operation'.ownership = operation.ownership) (attemptOperation : attempt'.operationId = operation.id)
      (attemptStatus : attempt'.status = .superseded) (lease : attempt'.lease = attempt.lease)
      (fenced : ∀ reservation ∈ db.reservations,
        reservation.executionAttemptId = attempt.executionAttemptId → reservation.status ≠ .active)
      (next_current : db'.Current operation' next) (state : operation'.state = .claimed)
      (status : next.status = .prepared) (unleased : next.lease = none)
      (endpointSelection : operation'.endpointSelection = operation.endpointSelection)
      (reauthorized : rule operation'.endpointSelection operation'.agentAccess)
  | renewed (attempt attempt' : RemoteAttempt) (reservation reservation' : HostReservation)
      (operations : db'.operations = db.operations)
      (attempts : Table.Replaced attempt attempt' db.attempts db'.attempts)
      (reservations : Table.Replaced reservation reservation' db.reservations db'.reservations)
      (holder : reservation.executionAttemptId = attempt.executionAttemptId) (active : reservation.status = .active)
      (unchanged : attempt' = { attempt with lease := some reservation'.lease })
      (expiry : ∃ leaseExpiresAt version, reservation' = { reservation with leaseExpiresAt, version })

structure LedgerOnly (db db' : RemoteDatabase) : Prop where
  dispatches : db'.dispatches = db.dispatches
  mailbox : db'.mailbox = db.mailbox
  hosts : db'.hosts = db.hosts

variable {reservation : HostReservation}

def Grants (db : RemoteDatabase) (attempt : RemoteAttempt) (lease : AttemptLease) : Prop :=
  ∃ reservation ∈ db.reservations, reservation.leaseId = lease.leaseId ∧
    reservation.executionAttemptId = attempt.executionAttemptId ∧ reservation.hostId = lease.hostId ∧
      reservation.fencingToken = lease.fencingToken

namespace Coherent
variable {db db' : RemoteDatabase} {operation operation' : RemoteOperation} {attempt : RemoteAttempt}

section
variable (coherent : db.Coherent)
include coherent

theorem status_eq (current : db.Current operation attempt) : attempt.status = operation.state.attempt := by
  obtain ⟨_, otherCurrent, status⟩ := coherent.current operation current.operation_mem
  rw [eq_of_key current.attempt_mem otherCurrent.attempt_mem (current.attemptId.trans otherCurrent.attemptId.symm)]
  exact status

theorem operation_eq (current : db.Current operation attempt) {other : RemoteOperation}
    (member : other ∈ db.operations) (same : other.executionAttemptId = operation.executionAttemptId) :
    other = operation := by
  obtain ⟨otherAttempt, otherCurrent, _⟩ := coherent.current other member
  have sameAttempt : otherAttempt = attempt := eq_of_key otherCurrent.attempt_mem current.attempt_mem
    (otherCurrent.attemptId.trans (same.trans current.attemptId.symm))
  exact eq_of_key member current.operation_mem
    (otherCurrent.operationId.symm.trans (sameAttempt ▸ current.operationId))

theorem single_replaced (member : operation ∈ db.operations) (live : operation.state.terminal = false)
    (operations : Table.Replaced operation operation' db.operations db'.operations)
    (ownership : operation'.ownership = operation.ownership) :
    ∀ left ∈ db'.operations, ∀ right ∈ db'.operations, left.state.terminal = false →
      right.state.terminal = false → left.ownership = right.ownership → left = right := by
  have alone : ∀ other ∈ db.operations, other.id ≠ operation.id → other.state.terminal = false →
      other.ownership ≠ operation.ownership := by
    intro other otherMember different otherLive same
    exact different (coherent.single other otherMember operation member otherLive live same ▸ rfl)
  intro left leftMember right rightMember leftLive rightLive same
  rcases operations.mem_iff.mp leftMember with ⟨leftOld, leftDifferent⟩ | rfl <;>
    rcases operations.mem_iff.mp rightMember with ⟨rightOld, rightDifferent⟩ | rfl
  · exact coherent.single left leftOld right rightOld leftLive rightLive same
  · exact absurd (same.trans ownership) (alone left leftOld leftDifferent leftLive)
  · exact absurd (same.symm.trans ownership) (alone right rightOld rightDifferent rightLive)
  · rfl

section
variable (member : reservation ∈ db.reservations)
include member

theorem reserved_of_mem
    (attemptMember : attempt ∈ db.attempts) (holder : reservation.executionAttemptId = attempt.executionAttemptId) :
    ∃ lease, attempt.lease = some lease ∧ lease.hostId = reservation.hostId ∧
      reservation.fencingToken ≤ lease.fencingToken ∧
      (reservation.status = .active → attempt.status.ownsBlock = true ∧ lease = reservation.lease) := by
  obtain ⟨_, otherMember, keyed, held⟩ := coherent.reserved reservation member
  rw [eq_of_key attemptMember otherMember (holder.symm.trans keyed.symm)]
  exact held

theorem not_prepared_of_reservation (attemptMember : attempt ∈ db.attempts)
    (holder : reservation.executionAttemptId = attempt.executionAttemptId) : attempt.status ≠ .prepared := by
  intro prepared
  obtain ⟨_, leased, _⟩ := coherent.reserved_of_mem member attemptMember holder
  rw [coherent.unleased attempt attemptMember prepared] at leased
  cases leased

theorem current_of_active (active : reservation.status = .active) :
    ∃ operation attempt, db.Current operation attempt ∧ reservation.executionAttemptId = attempt.executionAttemptId ∧
      attempt.lease = some reservation.lease ∧ attempt.status.ownsBlock = true := by
  obtain ⟨attempt, attemptMember, holder, _, leased, _, _, held⟩ := coherent.reserved reservation member
  obtain ⟨owns, same⟩ := held active
  obtain ⟨operation, operationMember, _, isCurrent⟩ := coherent.owned attempt attemptMember
  rcases isCurrent with isCurrent | superseded
  · obtain ⟨current, isCurrent', _⟩ := coherent.current operation operationMember
    have sameAttempt : current = attempt := eq_of_key isCurrent'.attempt_mem attemptMember
      (isCurrent'.attemptId.trans isCurrent)
    subst sameAttempt
    exact ⟨operation, current, isCurrent', holder.symm, same ▸ leased, owns⟩
  · rw [superseded] at owns
    cases owns
end
end
end Coherent

namespace Moved
variable {db db' : RemoteDatabase} {operation operation' : RemoteOperation} {attempt attempt' : RemoteAttempt}

section
variable (moved : db.Moved db' operation operation' attempt attempt')
include moved

theorem attempt_key : attempt'.executionAttemptId = attempt.executionAttemptId := moved.attempts.key_eq

theorem operation_key : operation'.id = operation.id :=
  moved.operations.key_eq

theorem current_after : db'.Current operation' attempt' :=
  ⟨moved.operations.new_mem, moved.attempts.new_mem,
    moved.attempt_key.trans (moved.current.attemptId.trans moved.attemptId.symm),
    moved.attemptOperation.trans (moved.current.operationId.trans moved.operation_key.symm),
    moved.attemptDispatch.trans (moved.current.dispatchId.trans moved.dispatchId.symm),
    moved.attemptOwnership.trans (moved.current.ownership.trans moved.ownership.symm)⟩

theorem current_rows (coherent : db.Coherent) :
    ∀ other ∈ db'.operations, ∃ row, db'.Current other row ∧ row.status = other.state.attempt := by
  refine moved.operations.forall_mem (fun other old different => ?_) ⟨attempt', moved.current_after, moved.status⟩
  obtain ⟨row, rowCurrent, status⟩ := coherent.current other old
  exact ⟨row, rowCurrent.kept (moved.operations.kept old different)
    (moved.attempts.kept rowCurrent.attempt_mem (moved.current.attempt_ne rowCurrent different)), status⟩

theorem owned (coherent : db.Coherent) : ∀ row ∈ db'.attempts, ∃ other ∈ db'.operations, other.id = row.operationId ∧
      (other.executionAttemptId = row.executionAttemptId ∨ row.status = .superseded) := by
  have current := moved.current_after
  refine moved.attempts.forall_mem (fun row old _ => moved.operations.exists_mem (coherent.owned row old) ?_)
    ⟨operation', current.operation_mem, current.operationId.symm, .inl current.attemptId.symm⟩
  exact fun ⟨owner, isCurrent⟩ => ⟨moved.operation_key.trans owner, moved.attemptId.symm ▸ isCurrent⟩

theorem single (coherent : db.Coherent) :
    ∀ left ∈ db'.operations, ∀ right ∈ db'.operations, left.state.terminal = false →
      right.state.terminal = false → left.ownership = right.ownership → left = right :=
  coherent.single_replaced moved.current.operation_mem moved.nonterminal moved.operations moved.ownership

theorem attempt_cases {row : RemoteAttempt} (member : row ∈ db.attempts) : row = attempt ∨ row ∈ db'.attempts :=
  (moved.attempts.cases_old member).imp_right And.left
end
end Moved

namespace Change
variable {rule : SnapshotRule} {db db' : RemoteDatabase}
variable {row : RemoteOperation}

section
variable (change : Change rule db db')
include change

theorem reservation_kept {row : HostReservation} (member : row ∈ db.reservations) :
    ∃ row' ∈ db'.reservations, row'.leaseId = row.leaseId ∧ row'.executionAttemptId = row.executionAttemptId ∧
      row'.hostId = row.hostId ∧ row'.fencingToken = row.fencingToken := by
  cases change with
  | same _ _ reservations => exact ⟨row, reservations ▸ member, rfl, rfl, rfl, rfl⟩
  | created _ _ _ _ reservations => exact ⟨row, reservations ▸ member, rfl, rfl, rfl, rfl⟩
  | advanced _ _ _ _ _ _ _ reservations =>
    exact ⟨row, reservations ▸ member, rfl, rfl, rfl, rfl⟩
  | retried _ _ _ _ _ _ _ _ _ _ reservations =>
    exact ⟨row, reservations ▸ member, rfl, rfl, rfl, rfl⟩
  | leased _ _ _ _ _ _ _ _ reservations =>
    exact ⟨row, (reservations.2 row).mpr (.inl member), rfl, rfl, rfl, rfl⟩
  | released operation operation' attempt attempt' reservation reservation' moved lease early reservations active
      inactive holder kept =>
    rcases reservations.cases_old member with rfl | ⟨still, _⟩
    · exact ⟨reservation', reservations.new_mem, reservations.key_eq, kept.1, congrArg AttemptLease.hostId kept.2,
        congrArg AttemptLease.fencingToken kept.2⟩
    · exact ⟨row, still, rfl, rfl, rfl, rfl⟩
  | renewed _ _ _ _ _ _ reservations _ _ _ expiry =>
    obtain ⟨_, _, rfl⟩ := expiry
    rcases reservations.cases_old member with rfl | ⟨still, _⟩
    · exact ⟨_, reservations.new_mem, rfl, rfl, rfl, rfl⟩
    · exact ⟨row, still, rfl, rfl, rfl, rfl⟩

variable (coherent : db.Coherent)
include coherent

theorem current : ∀ operation ∈ db'.operations, ∃ attempt, db'.Current operation attempt ∧
    attempt.status = operation.state.attempt := by
  cases change with
  | same operations attempts =>
    rw [operations]
    intro operation member
    obtain ⟨attempt, current, status⟩ := coherent.current operation member
    exact ⟨attempt, current.kept (operations ▸ member) (attempts ▸ current.attempt_mem), status⟩
  | created _ attempt operations attempts _ current state status =>
    refine operations.forall_mem (fun other old => ?_) ⟨attempt, current, by rw [status, state]; rfl⟩
    obtain ⟨row, rowCurrent, rowStatus⟩ := coherent.current other old
    exact ⟨row, rowCurrent.kept ((operations.2 other).mpr (.inl old))
      ((attempts.2 row).mpr (.inl rowCurrent.attempt_mem)), rowStatus⟩
  | advanced _ _ _ _ moved => exact moved.current_rows coherent
  | released _ _ _ _ _ _ moved => exact moved.current_rows coherent
  | leased _ _ _ _ _ moved => exact moved.current_rows coherent
  | retried _ _ _ _ next _ current operations superseded inserted _ _ _ _ _ _ _ next_current state status =>
    refine operations.forall_mem (fun other old different => ?_) ⟨next, next_current, by rw [status, state]; rfl⟩
    obtain ⟨row, rowCurrent, rowStatus⟩ := coherent.current other old
    have still := superseded.kept rowCurrent.attempt_mem (current.attempt_ne rowCurrent different)
    exact ⟨row, rowCurrent.kept (operations.kept old different) ((inserted.2 row).mpr (.inl still)), rowStatus⟩
  | renewed _ _ _ _ operations attempts _ _ _ unchanged =>
    rw [operations]
    intro other member
    obtain ⟨row, rowCurrent, status⟩ := coherent.current other member
    rcases attempts.cases_old rowCurrent.attempt_mem with rfl | ⟨kept, _⟩
    · subst unchanged
      exact ⟨_, ⟨operations ▸ member, attempts.new_mem, rowCurrent.attemptId, rowCurrent.operationId,
        rowCurrent.dispatchId, rowCurrent.ownership⟩, status⟩
    · exact ⟨row, rowCurrent.kept (operations ▸ member) kept, status⟩

theorem owned : ∀ attempt ∈ db'.attempts, ∃ operation ∈ db'.operations, operation.id = attempt.operationId ∧
    (operation.executionAttemptId = attempt.executionAttemptId ∨ attempt.status = .superseded) := by
  cases change with
  | same operations attempts =>
    rw [operations, attempts]
    exact coherent.owned
  | created operation _ operations attempts _ current =>
    exact attempts.forall_mem (fun row old => operations.exists_mem (coherent.owned row old))
      ⟨operation, current.operation_mem, current.operationId.symm, .inl current.attemptId.symm⟩
  | advanced _ _ _ _ moved => exact moved.owned coherent
  | released _ _ _ _ _ _ moved => exact moved.owned coherent
  | leased _ _ _ _ _ moved => exact moved.owned coherent
  | retried _ operation' _ _ _ _ current operations superseded inserted _ _ _ attemptOperation attemptStatus _ _
      next_current =>
    refine inserted.forall_mem (superseded.forall_mem (fun row old different => ?_) ?_) ?_
    · refine operations.exists_mem (coherent.owned row old) fun ⟨owner, isCurrent⟩ => ⟨operations.key_eq.trans owner, ?_⟩
      -- The only attempt of the operation that is not superseded was the retried one.
      exact .inr (isCurrent.resolve_left fun isCurrent => different (isCurrent.symm.trans current.attemptId.symm))
    · exact ⟨operation', operations.new_mem, operations.key_eq.trans attemptOperation.symm, .inr attemptStatus⟩
    · exact ⟨operation', operations.new_mem, next_current.operationId.symm, .inl next_current.attemptId.symm⟩
  | renewed attempt _ _ _ operations attempts _ _ _ unchanged =>
    rw [operations]
    subst unchanged
    exact attempts.forall_mem (fun row old _ => coherent.owned row old) (coherent.owned attempt attempts.old_mem)

theorem reserved : ∀ reservation ∈ db'.reservations, ∃ attempt ∈ db'.attempts,
    attempt.executionAttemptId = reservation.executionAttemptId ∧ ∃ lease, attempt.lease = some lease ∧
      lease.hostId = reservation.hostId ∧ reservation.fencingToken ≤ lease.fencingToken ∧
      (reservation.status = .active → attempt.status.ownsBlock = true ∧ lease = reservation.lease) := by
  cases change with
  | same _ attempts reservations =>
    rw [attempts, reservations]
    exact coherent.reserved
  | created _ _ _ attempts reservations =>
    rw [reservations]
    exact fun reservation member => attempts.exists_mem (coherent.reserved reservation member)
  | advanced _ _ _ _ moved lease _ reservations fenced =>
    rw [reservations]
    intro reservation member
    refine moved.attempts.exists_mem (coherent.reserved reservation member) ?_
    rintro ⟨keyed, held, leased, host, token, active⟩
    refine ⟨moved.attempt_key.trans keyed, held, lease.trans leased, host, token, fun isActive => ⟨?_, (active isActive).2⟩⟩
    exact fenced.resolve_right fun inactive => inactive reservation member keyed.symm isActive
  | released _ _ _ attempt' reservation reservation' moved lease _ reservations active inactive holder kept =>
    obtain ⟨held, leased, host, token, same⟩ :=
      coherent.reserved_of_mem reservations.old_mem moved.current.attempt_mem holder
    refine reservations.forall_mem (fun row old different => ?_) ?_
    · refine moved.attempts.exists_mem (coherent.reserved row old) ?_
      rintro ⟨keyed, rowLease, rowLeased, rowHost, rowToken, rowSame⟩
      refine ⟨moved.attempt_key.trans keyed, rowLease, lease.trans rowLeased, rowHost, rowToken, fun isActive => ?_⟩
      -- The released reservation was the only active one of the attempt.
      cases Option.some.inj (leased.symm.trans rowLeased)
      exact absurd (congrArg AttemptLease.leaseId ((rowSame isActive).2.symm.trans (same active).2)) different
    · exact ⟨attempt', moved.attempts.new_mem, moved.attempt_key.trans (holder.symm.trans kept.1.symm), held,
        lease.trans leased, host.trans (congrArg AttemptLease.hostId kept.2).symm,
        (congrArg AttemptLease.fencingToken kept.2).trans_le token, fun isActive => absurd isActive inactive⟩
  | leased _ _ _ attempt' reservation moved owns lease reservations holder newest =>
    refine reservations.forall_mem (fun row old => ?_) ?_
    · refine moved.attempts.exists_mem (coherent.reserved row old) ?_
      rintro ⟨keyed, _⟩
      obtain ⟨inactive, host, token⟩ := newest row old keyed.symm
      exact ⟨moved.attempt_key.trans keyed, reservation.lease, lease, host.symm, Nat.le_of_lt token,
        fun isActive => absurd isActive inactive⟩
    · exact ⟨attempt', moved.attempts.new_mem, moved.attempt_key.trans holder.symm, reservation.lease, lease, rfl,
        Nat.le_refl _, fun _ => ⟨owns, rfl⟩⟩
  | retried _ _ _ _ _ _ _ _ superseded inserted reservations _ _ _ _ lease fenced =>
    rw [reservations]
    intro reservation member
    refine inserted.exists_mem (superseded.exists_mem (coherent.reserved reservation member) ?_)
    rintro ⟨keyed, held, leased, host, token, _⟩
    exact ⟨superseded.key_eq.trans keyed, held, lease.trans leased, host, token,
      fun isActive => absurd isActive (fenced reservation member keyed.symm)⟩
  | renewed attempt _ reservation _ _ attempts reservations holder active unchanged expiry =>
    obtain ⟨_, _, rfl⟩ := expiry
    obtain ⟨_, leased, _, _, same⟩ := coherent.reserved_of_mem reservations.old_mem attempts.old_mem holder
    obtain ⟨owns, rfl⟩ := same active
    subst unchanged
    refine reservations.forall_mem (fun row old different => ?_) ?_
    · refine attempts.exists_mem (coherent.reserved row old) ?_
      rintro ⟨keyed, _, rowLeased, host, token, rowSame⟩
      cases Option.some.inj (leased.symm.trans rowLeased)
      refine ⟨keyed, _, rfl, host, token, fun isActive => absurd ?_ different⟩
      exact (congrArg AttemptLease.leaseId (rowSame isActive).2).symm
    · exact ⟨_, attempts.new_mem, holder.symm, _, rfl, rfl, Nat.le_refl _, fun _ => ⟨owns, rfl⟩⟩

theorem granted : ∀ attempt ∈ db'.attempts, ∀ lease, attempt.lease = some lease → ∃ reservation ∈ db'.reservations,
    reservation.leaseId = lease.leaseId ∧ reservation.executionAttemptId = attempt.executionAttemptId ∧
      reservation.hostId = lease.hostId ∧ reservation.fencingToken = lease.fencingToken := by
  have carried : ∀ {row lease}, db.Grants row lease → db'.Grants row lease := by
    rintro _ _ ⟨_, member, leaseId, holder, host, token⟩
    obtain ⟨new, newMember, sameLease, sameHolder, sameHost, sameToken⟩ := change.reservation_kept member
    exact ⟨new, newMember, sameLease.trans leaseId, sameHolder.trans holder, sameHost.trans host, sameToken.trans token⟩
  have old_kept : ∀ row ∈ db.attempts, ∀ lease, row.lease = some lease → db'.Grants row lease :=
    fun row old lease leased => carried (coherent.granted row old lease leased)
  have unleased_kept : ∀ {attempt attempt' : RemoteAttempt}, attempt ∈ db.attempts →
      attempt'.executionAttemptId = attempt.executionAttemptId → attempt'.lease = attempt.lease →
      ∀ lease, attempt'.lease = some lease → db'.Grants attempt' lease := by
    intro attempt attempt' member key same lease leased
    rw [RemoteDatabase.Grants, key]
    exact old_kept attempt member lease (same ▸ leased)
  cases change with
  | same _ attempts => rw [attempts]; exact old_kept
  | created _ _ _ attempts _ _ _ _ lease =>
    exact attempts.forall_mem old_kept fun _ leased => by rw [lease] at leased; cases leased
  | advanced _ _ _ _ moved lease =>
    exact moved.attempts.forall_mem (fun row old _ => old_kept row old)
      (unleased_kept moved.current.attempt_mem moved.attempt_key lease)
  | released _ _ _ _ _ _ moved lease =>
    exact moved.attempts.forall_mem (fun row old _ => old_kept row old)
      (unleased_kept moved.current.attempt_mem moved.attempt_key lease)
  | leased _ _ _ _ reservation moved _ lease reservations holder =>
    refine moved.attempts.forall_mem (fun row old _ => old_kept row old) fun held leased => ?_
    cases Option.some.inj (lease.symm.trans leased)
    exact ⟨reservation, (reservations.2 reservation).mpr (.inr rfl), rfl, holder.trans moved.attempt_key.symm, rfl, rfl⟩
  | retried _ _ _ _ _ _ current _ superseded inserted _ _ _ _ _ lease _ _ _ _ unleased =>
    refine inserted.forall_mem (superseded.forall_mem (fun row old _ => old_kept row old)
      (unleased_kept current.attempt_mem superseded.key_eq lease)) fun _ leased => ?_
    rw [unleased] at leased
    cases leased
  | renewed attempt _ reservation _ _ attempts reservations holder _ unchanged expiry =>
    obtain ⟨_, _, rfl⟩ := expiry
    subst unchanged
    refine attempts.forall_mem (fun row old _ => old_kept row old) fun lease leased => ?_
    cases leased
    exact ⟨_, reservations.new_mem, rfl, holder, rfl, rfl⟩

theorem unleased : ∀ attempt ∈ db'.attempts, attempt.status = .prepared → attempt.lease = none := by
  cases change with
  | same _ attempts => rw [attempts]; exact coherent.unleased
  | created _ _ _ attempts _ _ _ _ lease => exact attempts.forall_mem coherent.unleased fun _ => lease
  | advanced _ _ attempt _ moved lease early =>
    refine moved.attempts.forall_mem (fun row old _ => coherent.unleased row old) fun isPrepared => ?_
    have before : attempt.status = .prepared := (early (isPrepared ▸ rfl)).symm.trans isPrepared
    rw [lease, coherent.unleased attempt moved.current.attempt_mem before]
  | released _ _ _ _ _ _ moved _ early =>
    refine moved.attempts.forall_mem (fun row old _ => coherent.unleased row old) fun isPrepared => ?_
    rw [isPrepared] at early
    cases early
  | leased _ _ _ _ _ moved owns =>
    refine moved.attempts.forall_mem (fun row old _ => coherent.unleased row old) fun isPrepared => ?_
    rw [isPrepared] at owns
    cases owns
  | retried _ _ _ _ _ _ _ _ superseded inserted _ _ _ _ attemptStatus _ _ _ _ _ unleased =>
    refine inserted.forall_mem (superseded.forall_mem (fun row old _ => coherent.unleased row old) fun isPrepared => ?_)
      fun _ => unleased
    rw [attemptStatus] at isPrepared
    cases isPrepared
  | renewed attempt _ _ _ _ attempts reservations holder active unchanged =>
    obtain ⟨_, _, _, _, same⟩ := coherent.reserved_of_mem reservations.old_mem attempts.old_mem holder
    have owns := (same active).1
    subst unchanged
    refine attempts.forall_mem (fun row old _ => coherent.unleased row old) fun isPrepared => ?_
    change attempt.status = .prepared at isPrepared
    rw [isPrepared] at owns
    cases owns

theorem single : ∀ left ∈ db'.operations, ∀ right ∈ db'.operations, left.state.terminal = false →
    right.state.terminal = false → left.ownership = right.ownership → left = right := by
  cases change with
  | same operations => rw [operations]; exact coherent.single
  | created _ _ operations _ _ _ _ _ _ free =>
    intro left leftMember right rightMember leftLive rightLive same
    rcases (operations.2 left).mp leftMember with leftOld | rfl <;>
      rcases (operations.2 right).mp rightMember with rightOld | rfl
    · exact coherent.single left leftOld right rightOld leftLive rightLive same
    · rw [free left leftOld same] at leftLive; cases leftLive
    · rw [free right rightOld same.symm] at rightLive; cases rightLive
    · rfl
  | advanced _ _ _ _ moved => exact moved.single coherent
  | released _ _ _ _ _ _ moved => exact moved.single coherent
  | leased _ _ _ _ _ moved => exact moved.single coherent
  | retried _ _ _ _ _ _ current operations _ _ _ nonterminal ownership =>
    exact coherent.single_replaced current.operation_mem nonterminal operations ownership
  | renewed _ _ _ _ operations => rw [operations]; exact coherent.single
end

theorem coherent (change : Change rule db db') (coherent : db.Coherent) : db'.Coherent :=
  ⟨change.current coherent, change.owned coherent, change.reserved coherent, change.granted coherent,
    change.unleased coherent, change.single coherent⟩

section
variable (change : Change rule db db')
include change

theorem attempt_kept (coherent : db.Coherent) {row : RemoteAttempt}
    (member : row ∈ db.attempts) : ∃ row' ∈ db'.attempts, row'.executionAttemptId = row.executionAttemptId ∧
      row'.operationId = row.operationId ∧ (row.status.terminal = true → row'.status = row.status) := by
  have moved_kept : ∀ {operation operation' attempt attempt'}, db.Moved db' operation operation' attempt attempt' →
      ∃ row' ∈ db'.attempts, row'.executionAttemptId = row.executionAttemptId ∧
        row'.operationId = row.operationId ∧ (row.status.terminal = true → row'.status = row.status) := by
    intro operation operation' attempt attempt' moved
    rcases moved.attempt_cases member with rfl | kept
    · refine ⟨attempt', moved.attempts.new_mem, moved.attempt_key, moved.attemptOperation, fun terminal => ?_⟩
      rw [coherent.status_eq moved.current, RemoteOperationState.terminal_attempt, moved.nonterminal] at terminal
      cases terminal
    · exact ⟨row, kept, rfl, rfl, fun _ => rfl⟩
  cases change with
  | same _ attempts => exact ⟨row, attempts ▸ member, rfl, rfl, fun _ => rfl⟩
  | created _ _ _ attempts =>
    exact ⟨row, (attempts.2 row).mpr (.inl member), rfl, rfl, fun _ => rfl⟩
  | advanced _ _ _ _ moved => exact moved_kept moved
  | released _ _ _ _ _ _ moved => exact moved_kept moved
  | leased _ _ _ _ _ moved => exact moved_kept moved
  | retried operation operation' attempt attempt' next between current operations superseded inserted reservations
      nonterminal ownership attemptOperation attemptStatus =>
    rcases superseded.cases_old member with rfl | ⟨inBetween, _⟩
    · refine ⟨attempt', (inserted.2 attempt').mpr (.inl superseded.new_mem), superseded.key_eq,
        attemptOperation.trans current.operationId.symm, fun terminal => ?_⟩
      rw [coherent.status_eq current, RemoteOperationState.terminal_attempt, nonterminal] at terminal
      cases terminal
    · exact ⟨row, (inserted.2 row).mpr (.inl inBetween), rfl, rfl, fun _ => rfl⟩
  | renewed _ attempt' _ _ _ attempts _ _ _ unchanged =>
    rcases attempts.cases_old member with rfl | ⟨kept, _⟩
    · exact ⟨attempt', attempts.new_mem, attempts.key_eq, unchanged ▸ rfl, fun _ => unchanged ▸ rfl⟩
    · exact ⟨row, kept, rfl, rfl, fun _ => rfl⟩

theorem operation_kept (member : row ∈ db.operations) :
    ∃ row' ∈ db'.operations, row'.id = row.id ∧ row'.endpointSelection = row.endpointSelection := by
  have replaced_kept : ∀ {operation operation' : RemoteOperation},
      Table.Replaced operation operation' db.operations db'.operations →
      operation'.endpointSelection = operation.endpointSelection →
      ∃ row' ∈ db'.operations, row'.id = row.id ∧ row'.endpointSelection = row.endpointSelection := by
    intro operation operation' replaced same
    rcases replaced.cases_old member with rfl | ⟨kept, _⟩
    · exact ⟨operation', replaced.new_mem, replaced.key_eq, same⟩
    · exact ⟨row, kept, rfl, rfl⟩
  cases change with
  | same operations => exact ⟨row, operations ▸ member, rfl, rfl⟩
  | created _ _ operations => exact ⟨row, (operations.2 row).mpr (.inl member), rfl, rfl⟩
  | advanced _ _ _ _ moved => exact replaced_kept moved.operations moved.endpointSelection
  | released _ _ _ _ _ _ moved =>
    exact replaced_kept moved.operations moved.endpointSelection
  | leased _ _ _ _ _ moved =>
    exact replaced_kept moved.operations moved.endpointSelection
  | retried operation operation' attempt attempt' next between current operations superseded inserted reservations
      nonterminal ownership attemptOperation attemptStatus lease fenced next_current state status unleased
      endpointSelection => exact replaced_kept operations endpointSelection
  | renewed _ _ _ _ operations => exact ⟨row, operations ▸ member, rfl, rfl⟩

theorem operation_origin (member : row ∈ db'.operations) :
    (∃ old ∈ db.operations, old.endpointSelection = row.endpointSelection ∧ old.agentAccess = row.agentAccess) ∨
      rule row.endpointSelection row.agentAccess := by
  have moved_origin : ∀ {operation operation' attempt attempt'}, db.Moved db' operation operation' attempt attempt' →
      ∃ old ∈ db.operations, old.endpointSelection = row.endpointSelection ∧ old.agentAccess = row.agentAccess := by
    intro operation operation' attempt attempt' moved
    rcases moved.operations.mem_iff.mp member with ⟨old, _⟩ | rfl
    · exact ⟨row, old, rfl, rfl⟩
    · exact ⟨operation, moved.current.operation_mem, moved.endpointSelection.symm, moved.agentAccess.symm⟩
  cases change with
  | same operations => exact .inl ⟨row, operations ▸ member, rfl, rfl⟩
  | created _ _ operations _ _ _ _ _ _ _ accepted =>
    rcases (operations.2 row).mp member with old | rfl
    · exact .inl ⟨row, old, rfl, rfl⟩
    · exact .inr accepted
  | advanced _ _ _ _ moved => exact .inl (moved_origin moved)
  | released _ _ _ _ _ _ moved => exact .inl (moved_origin moved)
  | leased _ _ _ _ _ moved => exact .inl (moved_origin moved)
  | retried operation operation' attempt attempt' next between current operations superseded inserted reservations
      nonterminal ownership attemptOperation attemptStatus lease fenced next_current state status unleased
      endpointSelection reauthorized =>
    rcases operations.mem_iff.mp member with ⟨old, _⟩ | rfl
    · exact .inl ⟨row, old, rfl, rfl⟩
    · exact .inr reauthorized
  | renewed _ _ _ _ operations => exact .inl ⟨row, operations ▸ member, rfl, rfl⟩

theorem snapshots (kept : ∀ row ∈ db.operations, rule row.endpointSelection row.agentAccess)
    (member : row ∈ db'.operations) : rule row.endpointSelection row.agentAccess := by
  rcases change.operation_origin member with ⟨old, oldMember, selection, access⟩ | fresh
  · rw [← selection, ← access]
    exact kept old oldMember
  · exact fresh

theorem reserved_origin (coherent : db.Coherent) {row : RemoteAttempt}
    (member : row ∈ db'.attempts) (reserved : row.status = .reserved) :
    (∃ old ∈ db.attempts, old.executionAttemptId = row.executionAttemptId ∧
      old.lease.map (·.leaseId) = row.lease.map (·.leaseId) ∧ old.status = .reserved) ∨
    ∃ lease, row.lease = some lease ∧ ∀ reservation ∈ db.reservations, reservation.leaseId ≠ lease.leaseId := by
  have old_kept : row ∈ db.attempts → ∃ old ∈ db.attempts, old.executionAttemptId = row.executionAttemptId ∧
      old.lease.map (·.leaseId) = row.lease.map (·.leaseId) ∧ old.status = .reserved :=
    fun old => ⟨row, old, rfl, rfl, reserved⟩
  cases change with
  | same _ attempts => exact .inl (old_kept (attempts ▸ member))
  | created _ _ _ attempts _ _ _ status =>
    rcases (attempts.2 row).mp member with old | rfl
    · exact .inl (old_kept old)
    · rw [status] at reserved; cases reserved
  | advanced _ _ attempt _ moved lease early =>
    rcases moved.attempts.mem_iff.mp member with ⟨old, _⟩ | rfl
    · exact .inl (old_kept old)
    · exact .inl ⟨attempt, moved.current.attempt_mem, moved.attempt_key.symm, by rw [lease],
        (early (reserved ▸ rfl)).symm.trans reserved⟩
  | released _ _ _ _ _ _ moved _ early =>
    rcases moved.attempts.mem_iff.mp member with ⟨old, _⟩ | rfl
    · exact .inl (old_kept old)
    · rw [reserved] at early; cases early
  | leased _ _ _ _ reservation moved _ lease reservations =>
    rcases moved.attempts.mem_iff.mp member with ⟨old, _⟩ | rfl
    · exact .inl (old_kept old)
    · exact .inr ⟨reservation.lease, lease, fun other otherMember => reservations.1 other otherMember⟩
  | retried operation operation' attempt attempt' next between current operations superseded inserted reservations
      nonterminal ownership attemptOperation attemptStatus lease fenced next_current state status =>
    rcases (inserted.2 row).mp member with inBetween | rfl
    · rcases superseded.mem_iff.mp inBetween with ⟨old, _⟩ | rfl
      · exact .inl (old_kept old)
      · rw [attemptStatus] at reserved; cases reserved
    · rw [status] at reserved; cases reserved
  | renewed attempt _ _ _ _ attempts reservations holder active unchanged expiry =>
    rcases attempts.mem_iff.mp member with ⟨old, _⟩ | rfl
    · exact .inl (old_kept old)
    obtain ⟨_, leased, _, _, same⟩ := coherent.reserved_of_mem reservations.old_mem attempts.old_mem holder
    obtain ⟨_, rfl⟩ := same active
    obtain ⟨_, _, rfl⟩ := expiry
    subst unchanged
    exact .inl ⟨attempt, attempts.old_mem, rfl, by rw [leased]; rfl, reserved⟩
end
end Change
end RemoteDatabase
end PlanWeave
