import PlanWeave.Remote.HostAuthorization
import PlanWeave.Remote.LeaseRuns

namespace PlanWeave
open LeaseCall List Option Table

namespace RemoteDatabase

/-- Every operation has an Endpoint selection, of the kind that its Agent access was authorized for. -/
def SnapshotsAgree : SnapshotRule := fun selection access =>
  ∃ endpoint ∈ selection, ∀ authorized ∈ access,
    (authorized.runtimeAuthority = .ownerCanvas ↔ endpoint.authority = .ownerCanvas)

end RemoteDatabase

namespace LeaseCall
open RemoteDatabase

/-- `acceptRemoteBlockDispatch` takes both snapshots from one target, and a retry renews the Agent access for the
target of the one before. Operations of before the Agent access was stored have none. -/
def Dispatched (db : RemoteDatabase) : LeaseCall → Prop
  | create input _ _ _ => ∃ target endpointId hostId,
      input.endpointSelection = some ⟨endpointId, hostId, runtimeAuthoritySnapshotForTarget target⟩ ∧
      ∀ authorized ∈ input.agentAccess, ∃ access, authorized = authorizeRemoteAgentUse target access
  | retryAttempt input _ => ∀ authorized ∈ input.agentAccess, ∃ operation ∈ db.operations,
      operation.id = input.operationId ∧ ∃ access, reauthorizeForRetry operation access = some authorized
  | _ => True

def grant (options : HostReservationOptions) (db : RemoteDatabase) : LeaseCall → Option (RemoteDatabase × HostReservation)
  | reserve operationId input leaseId now => (db.reserve options operationId input leaseId now).toOption
  | resumeSameAttempt input now => (db.resumeSameAttempt options input now).toOption
  | _ => none

theorem keeps_of_dispatched {db : RemoteDatabase} (sound : Sound SnapshotsAgree db) {call : LeaseCall}
    (dispatched : call.Dispatched db) : call.Keeps SnapshotsAgree db := by
  cases call with
  | create =>
    obtain ⟨target, _, _, selection, authorized⟩ := dispatched
    refine ⟨_, selection, fun chosen member => ?_⟩
    obtain ⟨_, rfl⟩ := authorized chosen member
    cases target <;> exact Iff.rfl
  | retryAttempt input =>
    intro operation member same
    cases renewed : input.agentAccess with
    | none =>
      rw [none_or]
      exact sound.snapshots operation member
    | some access =>
      obtain ⟨other, otherMember, otherKeyed, _, reauthorized⟩ := dispatched access renewed
      have same : other = operation := eq_of_key otherMember member (otherKeyed.trans same.symm)
      subst same
      unfold reauthorizeForRetry at reauthorized
      split at reauthorized
      · cases reauthorized
      rename_i snapshot stored
      split at reauthorized
      · cases reauthorized
      cases reauthorized
      obtain ⟨endpoint, selected, kinds⟩ := sound.snapshots other otherMember
      refine ⟨endpoint, selected, fun chosen renewal => ?_⟩
      cases renewal
      refine Iff.trans ?_ (kinds snapshot stored)
      cases authority : snapshot.runtimeAuthority <;> simp [authorizeRemoteAgentUse, retryTarget, authority,
        runtimeAuthorityFor]
  | _ => trivial

end LeaseCall

namespace RemoteDatabase
variable {db db' : RemoteDatabase}

theorem occupies_eq {operation : RemoteOperation}
    (agree : SnapshotsAgree operation.endpointSelection operation.agentAccess) :
    reservationOccupiesHostCapacity operation = !isOwnerCanvasRuntime (operation.endpointSelection.map (·.authority)) := by
  unfold reservationOccupiesHostCapacity
  cases access : operation.agentAccess with
  | none => rfl
  | some authorized =>
    obtain ⟨endpoint, selected, agrees⟩ := agree
    have kinds := agrees authorized access
    rw [mem_def.mp selected]
    by_cases owner : authorized.runtimeAuthority = .ownerCanvas
    · simp [occupiesHostCapacity, endpointOccupiesHostCapacity, deriveEndpointAvailabilityPolicyFromAuthorized, owner,
        isOwnerCanvasRuntime, kinds.mp owner]
    · have other : endpoint.authority ≠ .ownerCanvas := fun same => owner (kinds.mpr same)
      simp only [occupiesHostCapacity, endpointOccupiesHostCapacity, deriveEndpointAvailabilityPolicyFromAuthorized,
        if_neg owner, isOwnerCanvasRuntime, map_some, Option.some.injEq]
      split <;> simp [other]

variable {attempt : RemoteAttempt} {now : Timestamp}

theorem managed_eq {reservation : HostReservation} {operation : RemoteOperation}
    (attemptMember : attempt ∈ db.attempts) (holder : attempt.executionAttemptId = reservation.executionAttemptId)
    (operationMember : operation ∈ db.operations) (owner : operation.id = attempt.operationId) :
    db.capacityManagedReservation reservation =
      !isOwnerCanvasRuntime (operation.endpointSelection.map (·.authority)) := by
  have selected : isOwnerCanvasRuntime (operation.endpointSelection.map (·.authority)) =
      operation.endpointSelection.any fun selection => selection.authority = .ownerCanvas := by
    cases operation.endpointSelection <;> simp [isOwnerCanvasRuntime]
  unfold capacityManagedReservation
  rw [selected]
  congr 1
  rw [Bool.eq_iff_iff]
  simp only [List.any_eq_true, Bool.and_eq_true, decide_eq_true_eq]
  constructor
  · rintro ⟨otherAttempt, otherMember, keyed, other, member, owns, runs⟩
    have sameAttempt : otherAttempt = attempt := eq_of_key otherMember attemptMember (keyed.trans holder.symm)
    subst sameAttempt
    have same : other = operation := eq_of_key member operationMember (owns.trans owner.symm)
    exact same ▸ runs
  · exact fun runs => ⟨attempt, attemptMember, holder, operation, operationMember, owner, runs⟩

theorem Follows.managed_kept (follows : db.Follows db') (coherent : db.Coherent) {row row' : HostReservation}
    (member : row ∈ db.reservations) (same : row'.executionAttemptId = row.executionAttemptId) :
    db'.capacityManagedReservation row' = db.capacityManagedReservation row := by
  obtain ⟨attempt, attemptMember, holder, _⟩ := coherent.reserved row member
  obtain ⟨operation, operationMember, owner, _⟩ := coherent.owned attempt attemptMember
  obtain ⟨_, attemptMember', keyed, owned, _⟩ := follows.attempts attempt attemptMember
  obtain ⟨_, operationMember', sameOperation, selection⟩ := follows.operations operation operationMember
  rw [managed_eq attemptMember holder operationMember owner,
    managed_eq attemptMember' (keyed.trans (holder.trans same.symm)) operationMember'
      (sameOperation.trans (owner.trans owned.symm)), selection]

structure Admitted (db db' : RemoteDatabase) (operation : RemoteOperation) (reservation : HostReservation) : Prop where
  operation_mem : operation ∈ db.operations
  holder : reservation.executionAttemptId = operation.executionAttemptId
  active : reservation.status = .active
  inserted : Table.Inserted reservation db.reservations db'.reservations
  hosts : db'.hosts = db.hosts
  operations : ∃ state terminalAt,
    Table.Replaced operation { operation with state, terminalAt } db.operations db'.operations
  room : reservationOccupiesHostCapacity operation = true → ∃ host ∈ db.hosts, host.id = reservation.hostId ∧
    db.activeReservations host.id < host.capacity

theorem reserve_cases {options : HostReservationOptions} {operationId leaseId : OpaqueId}
    {input : ReserveInput} {reservation : HostReservation}
    (done : db.reserve options operationId input leaseId now = .ok (db', reservation)) :
    (db' = db ∧ reservation ∈ db.reservations ∧ reservation.status = .active) ∨
      ∃ operation, db.Admitted db' operation reservation := by
  obtain same | ⟨operation, _, host, _, current, _, selected, rfl, inserted, _, _, rfl⟩ :=
    reserve_ok done
  · exact .inl same
  refine .inr ⟨operation, current.operation_mem, rfl, rfl, inserted, rfl,
    ⟨_, _, setOperationState_replaced current.operation_mem _ _⟩, fun occupies => ?_⟩
  obtain ⟨chosen, candidate⟩ := And.intro (find?_some selected) (mem_of_find?_eq_some selected)
  refine ⟨host, ?_, rfl, ?_⟩
  · have online := (mem_filter.mp candidate).1
    split at online
    · exact (mem_filter.mp (mem_filter.mp online).1).1
    · exact (mem_filter.mp (mem_mergeSort.mp online)).1
  · simpa [occupies] using ((Bool.and_eq_true _ _).mp chosen).1

theorem resumeSameAttempt_cases {options : HostReservationOptions} {input : ResumeAttemptInput}
    {reservation : HostReservation} (done : db.resumeSameAttempt options input now = .ok (db', reservation)) :
    (db' = db ∧ reservation ∈ db.reservations ∧ reservation.status = .active) ∨
      ∃ operation, db.Admitted db' operation reservation := by
  obtain ⟨same, member, active, _⟩ | ⟨_, operation, _, _, _, _, current, sameAttempt, _, _,
    hostRead, _, rfl, inserted, _, rfl⟩ := resumeSameAttempt_ok done
  · exact .inl ⟨same, member, active⟩
  refine .inr ⟨operation, current.operation_mem, sameAttempt.symm.trans current.attemptId, rfl, inserted, rfl,
    ⟨_, _, setOperationState_replaced current.operation_mem _ _⟩, fun occupies => ?_⟩
  unfold resumeHost at hostRead
  split at hostRead
  · cases hostRead
  rename_i host found
  split at hostRead
  · cases hostRead
  rename_i room
  obtain ⟨member, keyed⟩ := find_eq_some.mp (filter_eq_some_iff.mp found).1
  refine ⟨host, member, keyed, ?_⟩
  rw [keyed]
  exact Nat.lt_of_not_le fun full => room ⟨occupies, full⟩

namespace Admitted
variable {operation : RemoteOperation} {reservation : HostReservation}

section
variable (admitted : db.Admitted db' operation reservation)
include admitted

theorem activeReservations_le (follows : db.Follows db')
    (coherent : db.Coherent) (hostId : OpaqueId) : db'.activeReservations hostId ≤ db.activeReservations hostId + 1 := by
  unfold activeReservations
  rw [admitted.inserted.count]
  have old : db.reservations.count (fun row =>
      row.hostId = hostId ∧ row.status = .active ∧ db'.capacityManagedReservation row = true) =
      db.reservations.count fun row =>
        row.hostId = hostId ∧ row.status = .active ∧ db.capacityManagedReservation row = true :=
    count_congr fun row member => by rw [follows.managed_kept coherent member rfl]
  rw [old]
  split <;> omega

theorem capacity_kept (follows : db.Follows db')
    (coherent : db.Coherent) (occupies : reservationOccupiesHostCapacity operation = true) :
    ∀ host ∈ db'.hosts, host.id = reservation.hostId → db'.activeReservations host.id ≤ host.capacity := by
  intro host member keyed
  obtain ⟨selected, selectedMember, selectedKeyed, room⟩ := admitted.room occupies
  rw [admitted.hosts] at member
  have same : selected = host := eq_of_key selectedMember member (selectedKeyed.trans keyed.symm)
  subst same
  have bound := admitted.activeReservations_le follows coherent selected.id
  omega

theorem fresh : reservation ∉ db.reservations :=
  fun member => admitted.inserted.1 reservation member rfl

end
end Admitted

theorem finalAuthorization_forCapacity {options : HostReservationOptions} {evidence : ScopeEvidence}
    {operation : RemoteOperation} {selection : EndpointSelection} {reservation : HostReservation}
    {refusal : AuthorizationRefusal} (selected : operation.endpointSelection = some selection)
    (refused : db.finalAuthorization options evidence operation attempt reservation now = some refusal) :
    refusal.forCapacity = false := by
  simp only [finalAuthorization, selected, authorizeEndpoint] at refused
  split at refused
  · cases refused; rfl
  split at refused
  · cases refused; rfl
  split at refused
  · cases refused; rfl
  split at refused
  · split_ifs at refused <;> cases refused <;> rfl
  · split_ifs at refused <;> cases refused <;> rfl
  rename_i reason notFull _
  cases refused
  cases reason with
  | atCapacity => exact absurd rfl notFull
  | _ => rfl

theorem grant_cases {options : HostReservationOptions} {call : LeaseCall} {reservation : HostReservation}
    (admitted : call.grant options db = some (db', reservation)) : call.perform options db = db' ∧
      ((db' = db ∧ reservation ∈ db.reservations ∧ reservation.status = .active) ∨
        ∃ operation, db.Admitted db' operation reservation) := by
  cases call with
  | reserve =>
    have done := Checked.toOption_eq_some.mp admitted
    exact ⟨by simp only [perform, done, Except.map, commit], reserve_cases done⟩
  | resumeSameAttempt =>
    have done := Checked.toOption_eq_some.mp admitted
    exact ⟨by simp only [perform, done, Except.map, commit], resumeSameAttempt_cases done⟩
  | _ => cases admitted

/-- What holds right after a call that answers a reservation of an operation, and at any later time. A call that repeats
an earlier one only returns its reservation, whatever capacity the Host has by now. -/
structure CapacityRespected (options : HostReservationOptions) (evidence : ScopeEvidence) (authorizedAt : Timestamp)
    (operation : RemoteOperation) (reservation : HostReservation) (before db later : RemoteDatabase) : Prop where
  bound : reservation ∉ before.reservations → reservationOccupiesHostCapacity operation = true →
    ∀ host ∈ db.hosts, host.id = reservation.hostId → db.activeReservations host.id ≤ host.capacity
  repeated : reservation ∈ before.reservations → db = before
  agreement : ∀ row ∈ later.reservations, row.leaseId = reservation.leaseId →
    later.capacityManagedReservation row = reservationOccupiesHostCapacity operation
  authorized : ∀ reserved ∈ db.operations, reserved.id = operation.id → ∀ attempt,
    ∀ refusal ∈ db.finalAuthorization options evidence reserved attempt reservation authorizedAt,
      refusal.forCapacity = false

section Respected
variable {operation : RemoteOperation} {reservation : HostReservation} {later : RemoteDatabase}
variable (sound : Sound SnapshotsAgree db)
include sound

theorem agreement_kept (follows : db.Follows later)
    (member : reservation ∈ db.reservations) (operationMember : operation ∈ db.operations)
    (holder : operation.executionAttemptId = reservation.executionAttemptId) :
    ∀ row ∈ later.reservations, row.leaseId = reservation.leaseId →
      later.capacityManagedReservation row = reservationOccupiesHostCapacity operation := by
  intro row rowMember keyed
  obtain ⟨kept, keptMember, keptKeyed, keptHolder, _⟩ := follows.reservations reservation member
  have same : kept = row := eq_of_key keptMember rowMember (keptKeyed.trans keyed.symm)
  subst same
  rw [follows.managed_kept sound.coherent member keptHolder]
  obtain ⟨_, current, _⟩ := sound.coherent.current operation operationMember
  rw [managed_eq current.attempt_mem (current.attemptId.trans holder) operationMember current.operationId.symm,
    occupies_eq (sound.snapshots operation operationMember)]

theorem authorized_kept {options : HostReservationOptions} {evidence : ScopeEvidence} {refusal : AuthorizationRefusal}
    (member : operation ∈ db.operations)
    (refused : db.finalAuthorization options evidence operation attempt reservation now = some refusal) :
    refusal.forCapacity = false := by
  obtain ⟨_, selected, _⟩ := sound.snapshots operation member
  exact finalAuthorization_forCapacity selected refused
end Respected

def DispatchedRun (options : HostReservationOptions) : List LeaseCall → RemoteDatabase → Prop :=
  LeaseCall.Along options fun db call => call.Admissible db ∧ call.Dispatched db

/-- In every run, a call that answers a reservation respects the capacity of the Host, with the counts agreeing at any
later time. -/
theorem reservations_respect_capacity (options : HostReservationOptions) (evidence : ScopeEvidence)
    (authorizedAt : Timestamp) (before after : List LeaseCall) (call : LeaseCall) (db' : RemoteDatabase)
    (reservation : HostReservation) (dispatched : DispatchedRun options (before ++ call :: after) empty)
    (admitted : call.grant options (run options before empty) = some (db', reservation)) :
    ∃ operation ∈ (run options before empty).operations,
      operation.executionAttemptId = reservation.executionAttemptId ∧
      CapacityRespected options evidence authorizedAt operation reservation (run options before empty) db'
        (run options (before ++ call :: after) empty) := by
  obtain ⟨first, here, second⟩ := along_append.mp dispatched
  have keeps : ∀ (db : RemoteDatabase) (call : LeaseCall), Sound SnapshotsAgree db →
      call.Admissible db ∧ call.Dispatched db → call.Admissible db ∧ call.Keeps SnapshotsAgree db :=
    fun db call sound allowed => ⟨allowed.1, LeaseCall.keeps_of_dispatched sound allowed.2⟩
  have sound := ((empty_sound SnapshotsAgree).run options keeps first).sound
  have next := sound.perform options here.1 (keeps _ _ sound here).2
  have rest := next.sound.run options keeps second
  obtain ⟨performed, answered⟩ := grant_cases admitted
  have split : run options (before ++ call :: after) empty = run options after
      (call.perform options (run options before empty)) := run_append options before ..
  rw [split]
  rw [performed] at next rest ⊢
  have authorized : ∀ operation : RemoteOperation, ∀ reserved ∈ db'.operations, reserved.id = operation.id → ∀ attempt,
      ∀ refusal ∈ db'.finalAuthorization options evidence reserved attempt reservation authorizedAt,
        refusal.forCapacity = false :=
    fun _ _ member _ _ _ refused => authorized_kept next.sound member refused
  rcases answered with ⟨same, member, active⟩ | ⟨operation, taken⟩
  · obtain ⟨operation, _, current, holder, _⟩ := sound.coherent.current_of_active member active
    have held := current.attemptId.symm.trans holder.symm
    subst same
    refine ⟨operation, current.operation_mem, held, fun fresh => absurd member fresh, fun _ => rfl, ?_, authorized operation⟩
    exact agreement_kept sound rest.follows member current.operation_mem held
  · obtain ⟨state, terminalAt, replaced⟩ := taken.operations
    have member : reservation ∈ db'.reservations := (taken.inserted.2 reservation).mpr (.inr rfl)
    refine ⟨operation, taken.operation_mem, taken.holder.symm, fun _ => taken.capacity_kept next.follows sound.coherent,
      fun repeated => absurd repeated taken.fresh, ?_, authorized operation⟩
    exact (agreement_kept next.sound rest.follows member replaced.new_mem taken.holder.symm :)

def endpointInput (blockRef idempotencyKey : String) : CreateRemoteOperationInput :=
  { sampleInput with
    ownership := ⟨sampleId, sampleId, sampleId, blockRef, sampleId⟩
    idempotencyKey
    endpointSelection := some ⟨sampleId, sampleId, .workspaceCanvas sampleId⟩
    agentAccess := some (authorizeRemoteAgentUse (.workspaceCanvas sampleId) (.agentOwner none)) }

def sampleEvidence : ScopeEvidence :=
  { candidate := some (sampleId, sampleId), workspaceForHost := some sampleId, workspaceExists := true,
    projectAllowed := true, canvasAllowed := true, ownerEndpointScopeAuthorized := false, currentRevisions := ⟨1, 1, 1⟩,
    endpointAuthorized := true, endpoint := none, endpointIdentity := true }

def nextOperation : OpaqueId := ⟨"next-operation", by decide⟩

def hostOfCapacity (capacity : Nat) : LeaseCall := .setHosts ⟨[{ sampleHost with capacity }], List.nodup_singleton _⟩

def reserveNext : LeaseCall := .reserve nextOperation ⟨sampleId, sampleId, some sampleId⟩ nextLease 0

def sharedHost : List LeaseCall :=
  [hostOfCapacity 2, .create (endpointInput "T#a" "key") sampleOperation sampleDispatch sampleAttempt,
    .reserve sampleOperation ⟨sampleId, sampleId, some sampleId⟩ sampleLease 0,
    .create (endpointInput "T#b" "other") nextOperation nextDispatch nextAttempt]

theorem sharedHost_dispatched {rest : List LeaseCall}
    (quiet : ∀ db, LeaseCall.Along sampleOptions (fun db call => call.Admissible db ∧ call.Dispatched db) rest db) :
    DispatchedRun sampleOptions (sharedHost ++ rest) empty := by
  have authorized : ∀ blockRef key, ∀ chosen ∈ (endpointInput blockRef key).agentAccess,
      ∃ access, chosen = authorizeRemoteAgentUse (.workspaceCanvas sampleId) access := by
    rintro _ _ _ ⟨⟩
    exact ⟨_, rfl⟩
  exact ⟨⟨trivial, trivial⟩, ⟨trivial, .workspaceCanvas sampleId, _, _, rfl, authorized _ _⟩, ⟨trivial, trivial⟩,
    ⟨trivial, .workspaceCanvas sampleId, _, _, rfl, authorized _ _⟩, quiet _⟩

theorem reservations_respect_capacity_shared : ∃ db' reservation,
    reserveNext.grant sampleOptions (run sampleOptions sharedHost empty) = some (db', reservation) ∧
    ∃ operation ∈ (run sampleOptions sharedHost empty).operations,
      operation.executionAttemptId = reservation.executionAttemptId ∧
      CapacityRespected sampleOptions sampleEvidence 0 operation reservation (run sampleOptions sharedHost empty) db'
        (run sampleOptions (sharedHost ++ reserveNext :: []) empty) := by
  have answered : (reserveNext.grant sampleOptions (run sampleOptions sharedHost empty)).isSome = true := by decide +kernel
  obtain ⟨⟨db', reservation⟩, admitted⟩ := isSome_iff_exists.mp answered
  exact ⟨db', reservation, admitted, reservations_respect_capacity sampleOptions sampleEvidence 0 sharedHost [] _ db'
    reservation (sharedHost_dispatched fun _ => ⟨⟨trivial, trivial⟩, trivial⟩) admitted⟩

def shrunkHost : List LeaseCall := sharedHost ++ [reserveNext, hostOfCapacity 1]

/-- A call that repeats the second reservation succeeds, although the Host has two and a capacity of one by now. -/
theorem repeated_reservation_exceeds_capacity : ∃ db' reservation,
    DispatchedRun sampleOptions (shrunkHost ++ [reserveNext]) empty ∧
    reserveNext.grant sampleOptions (run sampleOptions shrunkHost empty) = some (db', reservation) ∧
    (∃ operation ∈ db'.operations, operation.executionAttemptId = reservation.executionAttemptId ∧
      reservationOccupiesHostCapacity operation = true) ∧
    ∃ host ∈ db'.hosts, host.id = reservation.hostId ∧ host.capacity < db'.activeReservations host.id := by
  have crowded : (reserveNext.grant sampleOptions (run sampleOptions shrunkHost empty)).any (fun answer =>
      (answer.1.operations.rows.any fun operation => operation.executionAttemptId = answer.2.executionAttemptId ∧
        reservationOccupiesHostCapacity operation = true) &&
      answer.1.hosts.rows.any fun host => host.id = answer.2.hostId ∧
        host.capacity < answer.1.activeReservations host.id) = true := by decide +kernel
  obtain ⟨⟨db', reservation⟩, admitted, crowded⟩ := (Option.any_eq_true _ _).mp crowded
  simp only [Bool.and_eq_true, List.any_eq_true, decide_eq_true_eq] at crowded
  obtain ⟨occupying, host⟩ := crowded
  exact ⟨db', reservation, sharedHost_dispatched fun _ => ⟨⟨trivial, trivial⟩, ⟨trivial, trivial⟩, ⟨trivial, trivial⟩,
    trivial⟩, admitted, occupying, host⟩

end RemoteDatabase
end PlanWeave
