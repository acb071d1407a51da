import PlanWeave.Remote.DispatchActions

namespace PlanWeave
open Checked Option Table
variable {now : Timestamp}

namespace RemoteDatabase
variable {db db' : RemoteDatabase} {clock : Timestamp}

def Reserved (db : RemoteDatabase) (dispatch : Dispatch) : Prop :=
  ∃ reservation ∈ db.reservations.rows, reservation.status = .active ∧ reservation.leaseId = dispatch.leaseId ∧
    reservation.hostId = dispatch.hostId ∧ reservation.executionAttemptId = dispatch.executionAttemptId ∧
    reservation.leaseExpiresAt = dispatch.leaseExpiresAt

instance (db : RemoteDatabase) (dispatch : Dispatch) : Decidable (db.Reserved dispatch) :=
  inferInstanceAs (Decidable (∃ _ ∈ _, _))

def Renewable (db : RemoteDatabase) (dispatch : Dispatch) : Prop :=
  ∃ attempt ∈ db.attempts.rows, attempt.executionAttemptId = dispatch.executionAttemptId ∧
    attempt.status.renewable = true ∧ attempt.lease.any (fun lease => lease.hostId = dispatch.hostId ∧
      lease.leaseId = dispatch.leaseId ∧ lease.leaseExpiresAt = dispatch.leaseExpiresAt) = true

instance (db : RemoteDatabase) (dispatch : Dispatch) : Decidable (db.Renewable dispatch) :=
  inferInstanceAs (Decidable (∃ _ ∈ _, _))

/-- Every dispatch that runs under an unexpired lease has the lease in all three tables. -/
def LeaseAuthority (db : RemoteDatabase) (now : Timestamp) : Prop :=
  ∀ dispatch ∈ db.dispatches.rows, dispatch.status.live = true → now < dispatch.leaseExpiresAt →
    db.Reserved dispatch ∧ db.Renewable dispatch

instance (db : RemoteDatabase) (now : Timestamp) : Decidable (db.LeaseAuthority now) :=
  inferInstanceAs (Decidable (∀ _ ∈ _, _))

def Idle (db : RemoteDatabase) (leaseId : OpaqueId) (now : Timestamp) : Prop :=
  ∀ dispatch ∈ db.dispatches.rows, dispatch.leaseId = leaseId → dispatch.status.live = true →
    dispatch.leaseExpiresAt ≤ now

instance (db : RemoteDatabase) (leaseId : OpaqueId) (now : Timestamp) : Decidable (db.Idle leaseId now) :=
  inferInstanceAs (Decidable (∀ _ ∈ _, _))

def Spared (db : RemoteDatabase) (attempt : RemoteAttempt) (now : Timestamp) : Prop :=
  ∀ row ∈ db.reservations.rows, attempt.lease.map (·.leaseId) = some row.leaseId → row.status = .active →
    db.Idle row.leaseId now

instance (db : RemoteDatabase) (attempt : RemoteAttempt) (now : Timestamp) : Decidable (db.Spared attempt now) :=
  inferInstanceAs (Decidable (∀ _ ∈ _, _))

structure Leased (db : RemoteDatabase) : Prop where
  backed : ∀ reservation ∈ db.reservations, reservation.status = .active → ∃ attempt ∈ db.attempts,
    attempt.executionAttemptId = reservation.executionAttemptId ∧ attempt.lease = some reservation.lease ∧
      attempt.status.renewable = true
  granted : ∀ attempt ∈ db.attempts, ∀ lease, attempt.lease = some lease → ∃ reservation ∈ db.reservations,
    reservation.leaseId = lease.leaseId ∧ reservation.executionAttemptId = attempt.executionAttemptId ∧
      reservation.hostId = lease.hostId
  reserved : ∀ reservation ∈ db.reservations, ∃ attempt ∈ db.attempts,
    attempt.executionAttemptId = reservation.executionAttemptId ∧
      ∃ lease, attempt.lease = some lease ∧ lease.hostId = reservation.hostId
  unleased : ∀ attempt ∈ db.attempts, attempt.status = .prepared → attempt.lease = none

theorem empty_leased : RemoteDatabase.empty.Leased := by
  refine ⟨?_, ?_, ?_, ?_⟩
  all_goals exact fun _ member => absurd member not_mem_empty

namespace Leased
variable {attempt attempt' : RemoteAttempt} {reservation : HostReservation}

section
variable (leased : db.Leased)
include leased

theorem backed_of_mem (member : reservation ∈ db.reservations)
    (active : reservation.status = .active) (attemptMember : attempt ∈ db.attempts)
    (holder : reservation.executionAttemptId = attempt.executionAttemptId) :
    attempt.lease = some reservation.lease ∧ attempt.status.renewable = true := by
  obtain ⟨_, otherMember, keyed, held⟩ := leased.backed reservation member active
  rw [eq_of_key attemptMember otherMember (holder.symm.trans keyed.symm)]
  exact held

theorem fenced (attemptMember : attempt ∈ db.attempts) {lease : AttemptLease}
    (held : attempt.lease = some lease) (member : reservation ∈ db.reservations)
    (keyed : reservation.leaseId = lease.leaseId) (inactive : reservation.status ≠ .active) :
    ∀ row ∈ db.reservations, row.executionAttemptId = attempt.executionAttemptId → row.status ≠ .active := by
  intro row rowMember holder active
  obtain ⟨rowLease, _⟩ := leased.backed_of_mem rowMember active attemptMember holder
  cases Option.some.inj (held.symm.trans rowLease)
  exact inactive (eq_of_key member rowMember keyed ▸ active)

theorem same (attempts : db'.attempts = db.attempts) (reservations : db'.reservations = db.reservations) :
    db'.Leased := by
  refine ⟨?_, ?_, ?_, ?_⟩
  · rw [attempts, reservations]; exact leased.backed
  · rw [attempts, reservations]; exact leased.granted
  · rw [attempts, reservations]; exact leased.reserved
  · rw [attempts]; exact leased.unleased

theorem created (inserted : Table.Inserted attempt db.attempts db'.attempts)
    (unleased : attempt.lease = none) (reservations : db'.reservations = db.reservations) : db'.Leased := by
  refine ⟨?_, ?_, ?_, ?_⟩
  · rw [reservations]
    exact fun reservation member active => inserted.exists_mem (leased.backed reservation member active)
  · rw [reservations]
    exact inserted.forall_mem leased.granted fun _ held => by rw [unleased] at held; cases held
  · rw [reservations]
    exact fun reservation member => inserted.exists_mem (leased.reserved reservation member)
  · exact inserted.forall_mem leased.unleased fun _ => unleased

section
variable (attempts : Table.Replaced attempt attempt' db.attempts db'.attempts)
include attempts

theorem moved
    (lease : attempt'.lease = attempt.lease) (unprepared : attempt'.status = .prepared → attempt.status = .prepared)
    (reservations : db'.reservations = db.reservations)
    (kept : attempt'.status.renewable = true ∨ ∀ row ∈ db.reservations,
      row.executionAttemptId = attempt.executionAttemptId → row.status ≠ .active) : db'.Leased := by
  refine ⟨?_, ?_, ?_, ?_⟩
  · rw [reservations]
    intro reservation member active
    refine attempts.exists_mem (leased.backed reservation member active) fun ⟨keyed, held, _⟩ => ?_
    refine ⟨attempts.key_eq.trans keyed, lease.trans held, ?_⟩
    exact kept.resolve_right fun fenced => fenced reservation member keyed.symm active
  · rw [reservations]
    refine attempts.forall_mem (fun row old _ => leased.granted row old) fun held heldLease => ?_
    rw [attempts.key_eq]
    exact leased.granted attempt attempts.old_mem held (lease.symm.trans heldLease)
  · rw [reservations]
    intro reservation member
    refine attempts.exists_mem (leased.reserved reservation member) fun ⟨keyed, held, heldLease, host⟩ => ?_
    exact ⟨attempts.key_eq.trans keyed, held, lease.trans heldLease, host⟩
  · refine attempts.forall_mem (fun row old _ => leased.unleased row old) fun prepared => ?_
    exact lease.trans (leased.unleased attempt attempts.old_mem (unprepared prepared))

theorem leasedAnew (inserted : Table.Inserted reservation db.reservations db'.reservations)
    (lease : attempt'.lease = some reservation.lease) (renewable : attempt'.status.renewable = true)
    (holder : reservation.executionAttemptId = attempt.executionAttemptId)
    (fenced : ∀ row ∈ db.reservations, row.executionAttemptId = attempt.executionAttemptId → row.status ≠ .active)
    (host : ∀ held, attempt.lease = some held → held.hostId = reservation.hostId) : db'.Leased := by
  have newHolder : attempt'.executionAttemptId = reservation.executionAttemptId := attempts.key_eq.trans holder.symm
  refine ⟨?_, ?_, ?_, ?_⟩
  · refine inserted.forall_mem (fun row old active => ?_) fun _ => ⟨attempt', attempts.new_mem, newHolder, lease, renewable⟩
    exact attempts.exists_mem (leased.backed row old active) fun ⟨keyed, _⟩ => absurd active (fenced row old keyed.symm)
  · refine attempts.forall_mem (fun row old _ held heldLease => inserted.exists_mem (leased.granted row old held heldLease)) ?_
    intro held heldLease
    cases Option.some.inj (lease.symm.trans heldLease)
    exact ⟨reservation, (inserted.2 reservation).mpr (.inr rfl), rfl, newHolder.symm, rfl⟩
  · refine inserted.forall_mem (fun row old => ?_) ⟨attempt', attempts.new_mem, newHolder, _, lease, rfl⟩
    refine attempts.exists_mem (leased.reserved row old) fun ⟨keyed, heldLease, leasedBy, sameHost⟩ => ?_
    exact ⟨attempts.key_eq.trans keyed, _, lease, (host heldLease leasedBy).symm.trans sameHost⟩
  · refine attempts.forall_mem (fun row old _ => leased.unleased row old) fun prepared => ?_
    rw [prepared] at renewable
    cases renewable

theorem replaced {reservation' : HostReservation}
    (reservations : Table.Replaced reservation reservation' db.reservations db'.reservations)
    (lease : attempt'.lease.map (fun held => (held.leaseId, held.hostId)) =
      attempt.lease.map fun held => (held.leaseId, held.hostId))
    (unprepared : attempt'.status = .prepared → attempt.status = .prepared) (active : reservation.status = .active)
    (holder : reservation.executionAttemptId = attempt.executionAttemptId)
    (kept : reservation'.executionAttemptId = reservation.executionAttemptId ∧ reservation'.hostId = reservation.hostId)
    (renewed : reservation'.status = .active →
      attempt'.lease = some reservation'.lease ∧ attempt'.status.renewable = true) : db'.Leased := by
  have newHolder := attempts.key_eq.trans (holder.symm.trans kept.1.symm)
  have sameLease : ∀ {left right : RemoteAttempt}, left.lease.map (fun held => (held.leaseId, held.hostId)) =
      right.lease.map (fun held => (held.leaseId, held.hostId)) → ∀ held, left.lease = some held →
      ∃ other, right.lease = some other ∧ other.leaseId = held.leaseId ∧ other.hostId = held.hostId := by
    intro left right same held leasedBy
    rw [leasedBy, map_some] at same
    obtain ⟨other, otherLease, identity⟩ := map_eq_some_iff.mp same.symm
    exact ⟨other, otherLease, congrArg Prod.fst identity, congrArg Prod.snd identity⟩
  have reserved : ∀ row ∈ db.reservations, ∃ held ∈ db'.attempts, held.executionAttemptId = row.executionAttemptId ∧
      ∃ lease, held.lease = some lease ∧ lease.hostId = row.hostId := by
    intro row member
    refine attempts.exists_mem (leased.reserved row member) fun ⟨keyed, heldLease, leasedBy, host⟩ => ?_
    obtain ⟨after, afterLease, _, hostId⟩ := sameLease lease.symm heldLease leasedBy
    exact ⟨attempts.key_eq.trans keyed, after, afterLease, hostId.trans host⟩
  refine ⟨?_, ?_, ?_, ?_⟩
  · refine reservations.forall_mem (fun row old different rowActive => ?_) fun rowActive =>
      ⟨attempt', attempts.new_mem, newHolder, renewed rowActive⟩
    refine attempts.exists_mem (leased.backed row old rowActive) fun ⟨_, heldLease, _⟩ => ?_
    obtain ⟨reservedLease, _⟩ := leased.backed_of_mem reservations.old_mem active attempts.old_mem holder
    exact absurd (congrArg AttemptLease.leaseId (Option.some.inj (heldLease.symm.trans reservedLease))) different
  · refine attempts.forall_mem (fun row old _ held heldLease => ?_) fun held heldLease => ?_
    · refine reservations.exists_mem (leased.granted row old held heldLease) fun ⟨keyed, owner, host⟩ => ?_
      exact ⟨reservations.key_eq.trans keyed, kept.1.trans owner, kept.2.trans host⟩
    · obtain ⟨before, beforeLease, leaseId, hostId⟩ := sameLease lease held heldLease
      rw [attempts.key_eq, ← leaseId, ← hostId]
      refine reservations.exists_mem (leased.granted attempt attempts.old_mem before beforeLease) fun ⟨keyed, owner, host⟩ => ?_
      exact ⟨reservations.key_eq.trans keyed, kept.1.trans owner, kept.2.trans host⟩
  · refine reservations.forall_mem (fun row old _ => reserved row old) ?_
    rw [kept.1, kept.2]
    exact reserved reservation reservations.old_mem
  · refine attempts.forall_mem (fun row old _ => leased.unleased row old) fun prepared => ?_
    rw [leased.unleased attempt attempts.old_mem (unprepared prepared)] at lease
    exact map_eq_none_iff.mp lease
end
end
end Leased

structure KeepsReservations (db db' : RemoteDatabase) : Prop where
  leased : db'.Leased
  reservations : ∀ reservation ∈ db.reservations, reservation ∈ db'.reservations
  dispatches : db'.dispatches = db.dispatches

variable {executionAttemptId leaseId operationId : OpaqueId} {status : TerminalStatus}
variable {dispatchId : OpaqueId} {reason : ReservationReleaseReason}
variable {fencingToken : Nat} {reports : Dispatch → Prop}

section Calls

section
variable (leased : db.Leased)
include leased

theorem KeepsReservations.same (attempts : db'.attempts = db.attempts)
    (reservations : db'.reservations = db.reservations) (dispatches : db'.dispatches = db.dispatches) :
    db.KeepsReservations db' :=
  ⟨leased.same attempts reservations, fun _ member => reservations ▸ member, dispatches⟩

theorem create_keeps {input : CreateRemoteOperationInput}
    (done : db.create input operationId dispatchId executionAttemptId = .ok db') : db.KeepsReservations db' := by
  unfold create at done
  split at done
  · obtain ⟨_, done⟩ := rest_ok done
    split at done
    · cases done; exact .same leased rfl rfl rfl
    · cases done
  · split at done
    · cases done
    obtain ⟨_, insertedOperation, done⟩ := bind_ok.mp done
    obtain ⟨_, _, rfl⟩ := insertOperation_ok insertedOperation
    obtain ⟨_, insertedAttempt, done⟩ := bind_ok.mp done
    obtain ⟨_, inserted, rfl⟩ := insertAttempt_ok insertedAttempt
    obtain ⟨_, done⟩ := rest_ok done
    cases done
    exact ⟨leased.created inserted rfl rfl, fun _ member => member, rfl⟩

theorem markClaimed_keeps (done : db.markClaimed operationId = .ok db') : db.KeepsReservations db' := by
  obtain ⟨_, done⟩ := rest_ok done
  dsimp only at done
  split_ifs at done <;> cases done <;> exact .same leased rfl rfl rfl

theorem persistHostSelection_keeps {hostSelection : HostSelection}
    (done : db.persistHostSelection operationId hostSelection = .ok db') : db.KeepsReservations db' := by
  obtain ⟨_, done⟩ := rest_ok done
  dsimp only at done
  split_ifs at done <;> cases done <;> exact .same leased rfl rfl rfl

theorem cancelClaimedAfterRuntimeReset_keeps
    (done : db.cancelClaimedAfterRuntimeReset operationId executionAttemptId now = .ok db') :
    db.KeepsReservations db' := by
  obtain ⟨_, done⟩ := rest_ok done
  dsimp only at done
  split at done
  · cases done
  split at done
  · rename_i attempts operations updated _
    cases done
    obtain ⟨_, chosen, replaced⟩ := updateOne_replaced updated
    refine ⟨leased.moved replaced rfl (fun prepared => by cases prepared) rfl (.inr ?_), fun _ member => member, rfl⟩
    -- A prepared attempt has no lease, so that no reservation is its.
    intro row member holder active
    obtain ⟨lease, _⟩ := leased.backed_of_mem member active replaced.old_mem holder
    rw [chosen.2.2.2.1] at lease
    cases lease
  · cases done
end

variable {expectedAttemptVersion : Nat} {options : HostReservationOptions}

section
variable (leased : db.Leased)
include leased

theorem markActionRequired_keeps
    (done : db.markActionRequired operationId executionAttemptId expectedAttemptVersion = .ok db') :
    db.KeepsReservations db' := by
  obtain ⟨_, done⟩ := rest_ok done
  dsimp only at done
  split at done
  · cases done
  split at done
  · cases done
  split at done
  · cases done
  · rename_i attempts updated
    cases done
    obtain ⟨_, _, replaced⟩ := updateOne_replaced updated
    exact ⟨leased.moved replaced rfl (fun prepared => by cases prepared) rfl (.inl rfl), fun _ member => member, rfl⟩

theorem transition_keeps {status : ActiveAttemptTransition} (renewable : status ≠ .interrupted)
    (done : db.transition leaseId fencingToken expectedAttemptVersion status = .ok db') : db.KeepsReservations db' := by
  obtain ⟨_, _, _, _, _, replaced, rfl⟩ := transition_ok done
  refine ⟨leased.moved replaced rfl (fun prepared => ?_) rfl (.inl ?_), fun _ member => member, rfl⟩
  · cases status <;> cases prepared
  · cases status <;> first | rfl | exact absurd rfl renewable

variable {reservation : HostReservation}

theorem activate_keeps {snapshot : RemoteOperation}
    (done : db.activate snapshot reservation = .ok db') : db.KeepsReservations db' := by
  obtain ⟨_, done⟩ := rest_ok done
  obtain ⟨_, enqueued, done⟩ := bind_ok.mp done
  obtain ⟨_, rfl, _⟩ := enqueueOnce_ok enqueued
  split at done
  · split at done
    · cases done
    rename_i attempts updated
    cases done
    obtain ⟨_, _, replaced⟩ := updateOne_replaced updated
    exact ⟨leased.moved replaced rfl (fun prepared => by cases prepared) rfl (.inl rfl), fun _ member => member, rfl⟩
  · split at done
    · cases done; exact .same leased rfl rfl rfl
    · cases done

theorem finalizeFencedAttempt_keeps
    (done : db.finalizeFencedAttempt operationId executionAttemptId leaseId status now = .ok db') :
    db.KeepsReservations db' := by
  obtain rfl | ⟨_, _, _, _, _, member, inactive, _, held, keyed, _, replaced, rfl⟩ :=
    finalizeFencedAttempt_ok done
  · exact .same leased rfl rfl rfl
  refine ⟨leased.moved replaced rfl (fun prepared => ?_) rfl
    (.inr (leased.fenced replaced.old_mem held member keyed inactive)), fun _ member => member, rfl⟩
  cases status <;> cases prepared

theorem retryAttempt_keeps {input : RetryAttemptInput}
    (done : db.retryAttempt input now = .ok db') : db.KeepsReservations db' := by
  obtain rfl | ⟨_, attempt, lease, between, _, current, _, _, held, inactive, replaced, insertedAttempt, rfl⟩ :=
    retryAttempt_ok done
  · exact .same leased rfl rfl rfl
  obtain ⟨attempts, attemptsInserted, rfl⟩ := insertAttempt_ok insertedAttempt
  have fenced : ∀ row ∈ db.reservations, row.executionAttemptId = attempt.executionAttemptId →
      row.status ≠ .active := by
    obtain ⟨granted, member, keyed, _⟩ := leased.granted attempt current.attempt_mem lease held
    exact leased.fenced current.attempt_mem held member keyed (inactive granted member keyed)
  have superseded : ({ db with attempts := between } : RemoteDatabase).Leased :=
    leased.moved replaced rfl (fun prepared => by cases prepared) rfl (.inr fenced)
  exact ⟨superseded.created attemptsInserted rfl rfl, fun _ member => member, rfl⟩

theorem reserve_keeps {input : ReserveInput}
    (done : db.reserve options operationId input leaseId now = .ok (db', reservation)) : db.KeepsReservations db' := by
  obtain ⟨rfl, _⟩ | ⟨_, attempt, _, _, current, prepared, _, rfl, inserted, _, replaced, rfl⟩ :=
    reserve_ok done
  · exact .same leased rfl rfl rfl
  have unleased := leased.unleased attempt current.attempt_mem prepared
  refine ⟨leased.leasedAnew replaced inserted rfl rfl current.attemptId.symm ?_ ?_,
    fun row member => (inserted.2 row).mpr (.inl member), rfl⟩
  · intro row member holder active
    obtain ⟨lease, _⟩ := leased.backed_of_mem member active current.attempt_mem holder
    rw [unleased] at lease
    cases lease
  · intro held lease
    rw [unleased] at lease
    cases lease

theorem resumeSameAttempt_keeps {input : ResumeAttemptInput}
    (done : db.resumeSameAttempt options input now = .ok (db', reservation)) :
    db.KeepsReservations db' ∧ reservation ∈ db'.reservations ∧ reservation.status = .active ∧
      reservation.leaseId = input.leaseId ∧ reservation.leaseExpiresAt = input.leaseExpiresAt := by
  obtain ⟨rfl, member, active, keyed, expires⟩ | ⟨prior, _, attempt, _, _, priorMember, current,
    sameAttempt, _, sameLease, _, inactive, rfl, inserted, replaced, rfl⟩ := resumeSameAttempt_ok done
  · exact ⟨.same leased rfl rfl rfl, member, active, keyed, expires⟩
  obtain ⟨held, heldLease, keyed⟩ := map_eq_some_iff.mp sameLease
  -- The prior reservation is the one of the attempt's lease, so that its Host is the Host of the lease.
  have host : held.hostId = prior.hostId := by
    obtain ⟨granted, grantedMember, grantedKeyed, _, sameHost⟩ := leased.granted attempt current.attempt_mem held heldLease
    rw [← sameHost, eq_of_key grantedMember priorMember (grantedKeyed.trans keyed)]
  refine ⟨⟨leased.leasedAnew replaced inserted ?_ rfl sameAttempt.symm ?_ ?_,
    fun row member => (inserted.2 row).mpr (.inl member), rfl⟩, (inserted.2 _).mpr (.inr rfl), rfl, rfl, rfl⟩
  · rw [heldLease, map_some, host]
    rfl
  · exact fun row member rowHolder => inactive row member (rowHolder.trans sameAttempt)
  · intro other otherLease
    cases Option.some.inj (heldLease.symm.trans otherLease)
    exact host
end

theorem releaseAttempt_attempt {attempt : RemoteAttempt} {reservation : HostReservation} (member : attempt ∈ db.attempts)
    (holder : attempt.executionAttemptId = reservation.executionAttemptId) (reason : ReservationReleaseReason)
    (now : Timestamp) : ∃ attempt', Table.Replaced attempt attempt' db.attempts
      (db.releaseAttempt reservation reason now).attempts ∧ attempt'.lease = attempt.lease ∧
      (attempt'.status = .prepared → attempt.status = .prepared) := by
  have same : ∀ row ∈ db.attempts, row.executionAttemptId = reservation.executionAttemptId → row = attempt :=
    fun row rowMember keyed => eq_of_key rowMember member (keyed.trans holder.symm)
  unfold releaseAttempt
  dsimp only
  split
  · refine ⟨_, update_replaced rfl member ?_ rfl, ?_, ?_⟩
    · exact fun row rowMember chosen => same row rowMember chosen.1.1
    · split <;> rfl
    · split
      · exact fun prepared => by cases prepared
      · exact id
  · refine ⟨_, update_replaced rfl member ?_ rfl, ?_, ?_⟩
    · exact fun row rowMember chosen => same row rowMember chosen.1
    · split <;> rfl
    · split
      · exact fun prepared => by cases reason <;> cases prepared
      · exact id

theorem release_ended (leased : db.Leased) {expectedVersion : Nat}
    (done : db.release leaseId fencingToken expectedVersion reason now = .ok db') :
    db'.Leased ∧ db'.dispatches = db.dispatches ∧ ∃ reservation reservation' : HostReservation,
      Table.Replaced reservation reservation' db.reservations db'.reservations ∧ reservation.leaseId = leaseId ∧
      reservation.status = .active ∧ reservation.fencingToken = fencingToken ∧ reservation.version = expectedVersion ∧
      reservation'.executionAttemptId = reservation.executionAttemptId ∧ reservation'.hostId = reservation.hostId := by
  obtain ⟨reservation, _, member, keyed, fence, version, active, replaced, rfl⟩ := release_ok done
  have ledger : db.LedgerOnly (db.releaseAttempt reservation reason now) := releaseAttempt_ledger reservation reason now
  refine ⟨?_, ledger.dispatches, reservation, _, replaced, keyed, active, fence, version, rfl, rfl⟩
  obtain ⟨_, attemptMember, holder, _⟩ := leased.backed reservation member active
  obtain ⟨_, attempts, lease, unprepared⟩ := releaseAttempt_attempt attemptMember holder reason now
  refine leased.replaced attempts replaced (by rw [lease]) unprepared active holder.symm ⟨rfl, rfl⟩ fun renewed => ?_
  cases reason <;> cases renewed

end Calls

/-- The invariant of the runs: what `LeaseAuthority` rests on. -/
structure Authorized (db : RemoteDatabase) (clock : Timestamp) : Prop where
  leased : db.Leased
  distinct : ∀ left ∈ db.dispatches, ∀ right ∈ db.dispatches, left.leaseId = right.leaseId → left = right
  bound : ∀ dispatch ∈ db.dispatches, ∃ reservation ∈ db.reservations, reservation.leaseId = dispatch.leaseId ∧
    reservation.executionAttemptId = dispatch.executionAttemptId ∧ reservation.hostId = dispatch.hostId
  held : ∀ dispatch ∈ db.dispatches, dispatch.status.live = true → clock < dispatch.leaseExpiresAt →
    db.Reserved dispatch

namespace Authorized

theorem empty (clock : Timestamp) : RemoteDatabase.empty.Authorized clock := by
  refine ⟨empty_leased, ?_, ?_, ?_⟩
  all_goals exact fun _ member => absurd member not_mem_empty

section
variable (authorized : db.Authorized clock)
include authorized

theorem later (passed : clock ≤ now) : db.Authorized now :=
  ⟨authorized.leased, authorized.distinct, authorized.bound, fun dispatch member live unexpired =>
    authorized.held dispatch member live (lt_of_le_of_lt passed unexpired)⟩

theorem authority : db.LeaseAuthority clock := by
  intro dispatch member live unexpired
  have reserved := authorized.held dispatch member live unexpired
  refine ⟨reserved, ?_⟩
  obtain ⟨reservation, reservationMember, active, leaseId, host, holder, expiry⟩ := reserved
  obtain ⟨attempt, attemptMember, keyed, lease, renewable⟩ := authorized.leased.backed reservation reservationMember active
  refine ⟨attempt, attemptMember, keyed.trans holder, renewable, ?_⟩
  rw [lease]
  simp [HostReservation.lease, leaseId, host, expiry]

theorem idle_of_expired {reservation : HostReservation}
    (member : reservation ∈ db.reservations) (expired : reservation.leaseExpiresAt ≤ clock) :
    db.Idle reservation.leaseId clock := by
  intro dispatch dispatchMember leaseId live
  by_contra running
  obtain ⟨_, rowMember, _, rowLease, _, _, expiry⟩ := authorized.held dispatch dispatchMember live (not_le.mp running)
  rw [eq_of_key rowMember member (rowLease.trans leaseId)] at expiry
  exact running (expiry ▸ expired)

theorem keeps (kept : db.KeepsReservations db') : db'.Authorized clock := by
  refine ⟨kept.leased, ?_, ?_, ?_⟩
  · rw [kept.dispatches]
    exact authorized.distinct
  · rw [kept.dispatches]
    intro dispatch member
    obtain ⟨reservation, reservationMember, same⟩ := authorized.bound dispatch member
    exact ⟨reservation, kept.reservations reservation reservationMember, same⟩
  · rw [kept.dispatches]
    intro dispatch member live unexpired
    obtain ⟨reservation, reservationMember, same⟩ := authorized.held dispatch member live unexpired
    exact ⟨reservation, kept.reservations reservation reservationMember, same⟩

theorem release {expectedVersion : Nat} (idle : (∃ row ∈ db.reservations.rows, row.leaseId = leaseId ∧
      row.status = .active ∧ row.fencingToken = fencingToken ∧ row.version = expectedVersion) → db.Idle leaseId clock)
    (done : db.release leaseId fencingToken expectedVersion reason now = .ok db') : db'.Authorized clock := by
  obtain ⟨leased, dispatches, reservation, reservation', replaced, keyed, active, fence, version, holder, host⟩ :=
    release_ended authorized.leased done
  have spared := idle ⟨reservation, replaced.old_mem, keyed, active, fence, version⟩
  refine ⟨leased, ?_, ?_, ?_⟩
  · rw [dispatches]
    exact authorized.distinct
  · rw [dispatches]
    intro dispatch member
    refine replaced.exists_mem (authorized.bound dispatch member) fun ⟨rowLease, rowHolder, rowHost⟩ => ?_
    exact ⟨replaced.key_eq.trans rowLease, holder.trans rowHolder, host.trans rowHost⟩
  · rw [dispatches]
    intro dispatch member live unexpired
    refine replaced.exists_mem (authorized.held dispatch member live unexpired) fun ⟨_, rowLease, _⟩ => ?_
    exact absurd (spared dispatch member (rowLease.symm.trans keyed) live) (not_le.mpr unexpired)

theorem redispatch (attempts : db'.attempts = db.attempts)
    (reservations : db'.reservations = db.reservations)
    (origin : ∀ dispatch ∈ db'.dispatches, ∃ old ∈ db.dispatches, Dispatch.Moved reports old dispatch) :
    db'.Authorized clock := by
  refine ⟨authorized.leased.same attempts reservations, ?_, ?_, ?_⟩
  · intro left leftMember right rightMember same
    obtain ⟨oldLeft, oldLeftMember, leftMoved⟩ := origin left leftMember
    obtain ⟨oldRight, oldRightMember, rightMoved⟩ := origin right rightMember
    have sameOld := authorized.distinct oldLeft oldLeftMember oldRight oldRightMember
      (leftMoved.leaseId.symm.trans (same.trans rightMoved.leaseId))
    exact eq_of_key leftMember rightMember
      (leftMoved.id.trans ((congrArg Dispatch.id sameOld).trans rightMoved.id.symm))
  · intro dispatch member
    obtain ⟨old, oldMember, moved⟩ := origin dispatch member
    rw [reservations, moved.leaseId, moved.hostId, moved.executionAttemptId]
    exact authorized.bound old oldMember
  · intro dispatch member live unexpired
    obtain ⟨old, oldMember, moved⟩ := origin dispatch member
    rw [moved.leaseExpiresAt] at unexpired
    obtain ⟨row, rowMember, active, rowLease, rowHost, rowHolder, rowExpiry⟩ :=
      authorized.held old oldMember (moved.live live) unexpired
    exact ⟨row, reservations ▸ rowMember, active, rowLease.trans moved.leaseId.symm, rowHost.trans moved.hostId.symm,
      rowHolder.trans moved.executionAttemptId.symm, rowExpiry.trans moved.leaseExpiresAt.symm⟩

theorem moved (moves : MovesDispatches reports db db') : db'.Authorized clock :=
  authorized.redispatch (by rw [moves.rest]) (by rw [moves.rest]) moves.origin

theorem unchanged (attempts : db'.attempts = db.attempts)
    (reservations : db'.reservations = db.reservations) (dispatches : db'.dispatches = db.dispatches) :
    db'.Authorized clock := by
  have unmoved : MovesDispatches (fun _ => False) db db := .refl
  exact authorized.redispatch attempts reservations (by rw [dispatches]; exact unmoved.origin)

theorem enqueueOnce {command : RemoteCommand} (done : db.enqueueOnce command = .ok db') : db'.Authorized clock := by
  obtain ⟨_, rfl, _⟩ := enqueueOnce_ok done
  exact authorized.unchanged rfl rfl rfl

theorem cancelDispatch {actionId : OpaqueId} {reason : String}
    (done : db.cancelDispatch operationId actionId reason = .ok db') : db'.Authorized clock := by
  obtain ⟨⟨_, _⟩, _, done⟩ := bind_ok.mp done
  unfold enqueueCancel at done
  dsimp only at done
  split at done
  · cases done
  split at done
  · rename_i dispatches updated
    obtain ⟨_, chosen, replaced⟩ := updateOne_replaced updated
    have cancelling : MovesDispatches (fun _ => False) db { db with dispatches } := by
      refine .replaced replaced ⟨rfl, rfl, rfl, rfl, rfl, fun _ => ?_, fun awaits => by cases awaits⟩
      rcases chosen.2.2.2 with status | status <;> rw [status] <;> rfl
    exact (authorized.moved cancelling).enqueueOnce done
  · split at done
    · exact authorized.enqueueOnce done
    · cases done

theorem failDispatch {failure : DispatchFailure}
    (done : db.failDispatch operationId failure = .ok db') : db'.Authorized clock := by
  obtain ⟨⟨_, _⟩, _, done⟩ := bind_ok.mp done
  unfold prepareManualFailure at done
  dsimp only at done
  split at done
  · cases done
  · rename_i dispatches updated
    cases done
    obtain ⟨_, _, replaced⟩ := updateOne_replaced updated
    have ended : MovesDispatches (fun _ => True) db { db with dispatches } :=
      .replaced replaced ⟨rfl, rfl, rfl, rfl, rfl, (fun live => by cases live), fun _ => .inr trivial⟩
    exact authorized.moved ended

theorem cancelInterruptedAfterRuntimeReset {actionActive : Bool}
    (done : db.cancelInterruptedAfterRuntimeReset operationId executionAttemptId actionActive = .ok db') :
    db'.Authorized clock := by
  obtain ⟨⟨_, _⟩, _, done⟩ := bind_ok.mp done
  dsimp only at done
  split at done
  · cases done
  split at done
  · cases done
  split at done
  · cases done
  split at done
  · cases done
  split at done
  · cases done
  split at done
  · cases done
  split at done
  · cases done; exact authorized
  split at done
  · cases done
  split at done
  · cases done
  · rename_i dispatches updated
    cases done
    obtain ⟨_, _, replaced⟩ := updateOne_replaced updated
    have ended : MovesDispatches (fun _ => True) db { db with dispatches } :=
      .replaced replaced ⟨rfl, rfl, rfl, rfl, rfl, (fun live => by cases live), fun _ => .inr trivial⟩
    exact authorized.moved ended
end

variable {operation : RemoteOperation}

section
variable (authorized : db.Authorized clock)
include authorized

variable {reservation : HostReservation}

theorem dispatched (attempts : db'.attempts = db.attempts)
    (reservations : db'.reservations = db.reservations) {new : Dispatch}
    (rows : ∀ dispatch ∈ db'.dispatches, dispatch = new ∨ dispatch ∈ db.dispatches)
    (unused : ∀ dispatch ∈ db'.dispatches, dispatch.leaseId = new.leaseId → dispatch = new) (member : reservation ∈ db.reservations) (leaseId : reservation.leaseId = new.leaseId)
    (host : reservation.hostId = new.hostId) (holder : reservation.executionAttemptId = new.executionAttemptId)
    (backed : clock < new.leaseExpiresAt → reservation.status = .active ∧
      reservation.leaseExpiresAt = new.leaseExpiresAt) : db'.Authorized clock := by
  refine ⟨authorized.leased.same attempts reservations, ?_, ?_, ?_⟩
  · intro left leftMember right rightMember same
    rcases rows left leftMember with rfl | leftOld
    · exact (unused right rightMember same.symm).symm
    · rcases rows right rightMember with rfl | rightOld
      · exact unused left leftMember same
      · exact authorized.distinct left leftOld right rightOld same
  · intro dispatch dispatchMember
    rw [reservations]
    rcases rows dispatch dispatchMember with rfl | old
    · exact ⟨reservation, member, leaseId, holder, host⟩
    · exact authorized.bound dispatch old
  · intro dispatch dispatchMember live unexpired
    rcases rows dispatch dispatchMember with rfl | old
    · obtain ⟨active, expiry⟩ := backed unexpired
      exact ⟨reservation, reservations ▸ member, active, leaseId, host, holder, expiry⟩
    · obtain ⟨row, rowMember, rest⟩ := authorized.held dispatch old live unexpired
      exact ⟨row, reservations ▸ rowMember, rest⟩

theorem prepare
    (read : db.HasRead operation reservation) (holder : reservation.executionAttemptId = operation.executionAttemptId)
    (backed : db.dispatches.find operation.dispatchId = none → reservation.leaseExpiresAt ≤ clock ∨
      ∃ row ∈ db.reservations.rows, row.leaseId = reservation.leaseId ∧ row.status = .active ∧
        row.leaseExpiresAt = reservation.leaseExpiresAt)
    (done : db.prepare operation reservation = .ok db') : db'.Authorized clock := by
  unfold RemoteDatabase.prepare at done
  split at done
  · rename_i absent
    split at done
    · cases done
    rename_i unused
    split at done
    · cases done
    rename_i dispatches insertedRow
    cases done
    have inserted := Table.inserted insertedRow
    obtain ⟨_, rowMember, rowLease, rowHolder, rowHost, _⟩ := read.2
    refine authorized.dispatched rfl rfl (fun dispatch member => ((inserted.2 dispatch).mp member).symm) ?_ rowMember
      rowLease rowHost (rowHolder.trans holder) fun unexpired => ?_
    · intro dispatch member same
      rcases (inserted.2 dispatch).mp member with old | rfl
      · exact absurd (count_pos.mpr ⟨dispatch, old, same⟩) unused
      · rfl
    · obtain ⟨_, activeMember, activeLease, status, expiry⟩ := (backed absent).resolve_left (not_le.mpr unexpired)
      rw [← eq_of_key activeMember rowMember (activeLease.trans rowLease.symm)]
      exact ⟨status, expiry⟩
  · split at done
    · cases done; exact authorized
    · cases done

theorem resumeDispatch {action : ResumeCommand}
    (member : reservation ∈ db.reservations) (active : reservation.status = .active)
    (leaseId : reservation.leaseId = action.leaseId) (expiry : reservation.leaseExpiresAt = action.leaseExpiresAt)
    (done : db.resumeDispatch operationId action = .ok db') : db'.Authorized clock := by
  obtain ⟨⟨_, attempt⟩, read, done⟩ := bind_ok.mp done
  obtain ⟨current, _⟩ := getRequired_ok read
  unfold enqueueResume at done
  dsimp only at done
  split at done
  · cases done
  rename_i lease attemptLease
  split at done
  · cases done
  rename_i sameLease
  split at done
  · rename_i dispatches updated
    split at done
    · cases done
    rename_i unused
    obtain ⟨old, chosen, replaced⟩ := updateOne_replaced updated
    -- All reservations of an attempt are on one Host, the one of its lease and of its dispatch.
    obtain ⟨granted, grantedMember, grantedLease, grantedHolder, grantedHost⟩ :=
      authorized.leased.granted attempt current.attempt_mem lease attemptLease
    have sameReservation : granted = reservation := eq_of_key grantedMember member
      (grantedLease.trans ((not_not.mp sameLease).trans leaseId.symm))
    subst sameReservation
    have holder : granted.executionAttemptId = old.executionAttemptId :=
      grantedHolder.trans (current.attemptId.trans chosen.2.1.symm)
    have host : granted.hostId = old.hostId := by
      obtain ⟨row, rowMember, _, rowHolder, rowHost⟩ := authorized.bound old replaced.old_mem
      obtain ⟨holding, holdingMember, keyed, _, heldLease, heldHost⟩ := authorized.leased.reserved row rowMember
      have sameAttempt : holding = attempt := eq_of_key holdingMember current.attempt_mem
        (keyed.trans (rowHolder.trans (holder.symm.trans grantedHolder)))
      subst sameAttempt
      cases Option.some.inj (attemptLease.symm.trans heldLease)
      exact grantedHost.trans (heldHost.trans rowHost)
    have leased : ({ db with dispatches } : RemoteDatabase).Authorized clock := by
      refine authorized.dispatched rfl rfl (fun dispatch present => (replaced.mem_iff.mp present).symm.imp_right And.left)
        ?_ member leaseId host holder fun _ => ⟨active, expiry⟩
      intro dispatch present same
      rcases replaced.mem_iff.mp present with ⟨kept, different⟩ | rfl
      · refine absurd (count_pos.mpr ⟨dispatch, kept, ?_, same⟩) unused
        exact fun sameId => different (sameId.trans chosen.1.symm)
      · rfl
    exact leased.enqueueOnce done
  · split at done
    · exact authorized.enqueueOnce done
    · cases done

theorem renewed {dispatch : Dispatch}
    {attempt attempt' : RemoteAttempt} {leaseExpiresAt : Timestamp} {version : Nat}
    (dispatches : Table.Replaced dispatch { dispatch with leaseExpiresAt } db.dispatches db'.dispatches)
    (reservations : Table.Replaced reservation { reservation with leaseExpiresAt, version } db.reservations db'.reservations)
    (attempts : Table.Replaced attempt attempt' db.attempts db'.attempts) (active : reservation.status = .active)
    (keyed : attempt.executionAttemptId = reservation.executionAttemptId) (leaseId : reservation.leaseId = dispatch.leaseId)
    (host : reservation.hostId = dispatch.hostId) (holder : reservation.executionAttemptId = dispatch.executionAttemptId)
    (lease : attempt'.lease = some { reservation.lease with leaseExpiresAt }) (status : attempt'.status = attempt.status) :
    db'.Authorized clock := by
  obtain ⟨oldLease, renewable⟩ :=
    authorized.leased.backed_of_mem reservations.old_mem active attempts.old_mem keyed.symm
  have others : ∀ row ∈ db'.dispatches, row = { dispatch with leaseExpiresAt } ∨
      row ∈ db.dispatches ∧ row.leaseId ≠ dispatch.leaseId := by
    intro row member
    rcases dispatches.mem_iff.mp member with ⟨old, different⟩ | rfl
    · refine .inr ⟨old, fun same => different ?_⟩
      rw [authorized.distinct row old dispatch dispatches.old_mem same]
    · exact .inl rfl
  refine ⟨?_, ?_, ?_, ?_⟩
  · refine authorized.leased.replaced attempts reservations ?_ (fun prepared => status ▸ prepared) active keyed.symm
      ⟨rfl, rfl⟩ fun _ => ⟨lease, status ▸ renewable⟩
    rw [lease, oldLease]
    rfl
  · intro left leftMember right rightMember same
    rcases others left leftMember with rfl | ⟨leftOld, leftOther⟩
    · rcases others right rightMember with rfl | ⟨_, rightOther⟩
      · rfl
      · exact absurd same.symm rightOther
    · rcases others right rightMember with rfl | ⟨rightOld, _⟩
      · exact absurd same leftOther
      · exact authorized.distinct left leftOld right rightOld same
  · intro row member
    have source : ∃ old ∈ db.dispatches, old.leaseId = row.leaseId ∧ old.executionAttemptId = row.executionAttemptId ∧
        old.hostId = row.hostId := by
      rcases others row member with rfl | ⟨old, _⟩
      · exact ⟨dispatch, dispatches.old_mem, rfl, rfl, rfl⟩
      · exact ⟨row, old, rfl, rfl, rfl⟩
    obtain ⟨old, oldMember, sameLease, sameAttempt, sameHost⟩ := source
    rw [← sameLease, ← sameAttempt, ← sameHost]
    exact reservations.exists_mem (authorized.bound old oldMember) id
  · intro row member live unexpired
    rcases others row member with rfl | ⟨old, different⟩
    · exact ⟨_, reservations.new_mem, active, leaseId, host, holder, rfl⟩
    · obtain ⟨held, heldMember, heldActive, heldLease, rest⟩ := authorized.held row old live unexpired
      refine ⟨held, reservations.kept heldMember fun same => different ?_, heldActive, heldLease, rest⟩
      exact heldLease.symm.trans (same.trans leaseId)

theorem renewCurrentLease (options : HostReservationOptions) (hostId : OpaqueId) (lease : LeaseIdentity) :
    ∃ renewed, db.renewCurrentLease options hostId lease clock = .ok renewed ∧ renewed.Authorized clock := by
  unfold RemoteDatabase.renewCurrentLease
  split
  · exact ⟨db, rfl, authorized⟩
  rename_i dispatch found
  obtain ⟨dispatchMember, _⟩ := find_eq_some.mp found
  split
  · exact ⟨db, rfl, authorized⟩
  rename_i current
  simp only [not_or, not_not, Bool.not_eq_false, not_le] at current
  obtain ⟨heldBy, live, unexpired⟩ := current
  split
  · exact ⟨db, rfl, authorized⟩
  obtain ⟨reservation, member, active, leaseId, host, holder, expiry⟩ :=
    authorized.held dispatch dispatchMember live unexpired
  obtain ⟨attempt, attemptMember, keyed, attemptLease, renewable⟩ := authorized.leased.backed reservation member active
  have sameAttempt : attempt.executionAttemptId = dispatch.executionAttemptId := keyed.trans holder
  have sameLease : attempt.lease.any (fun held => held.hostId = hostId ∧ held.leaseId = dispatch.leaseId ∧
      held.leaseExpiresAt = dispatch.leaseExpiresAt) = true := by
    rw [attemptLease]
    simp [HostReservation.lease, host, heldBy.1, leaseId, expiry]
  dsimp only
  rw [updateOne_eq dispatchMember, updateOne_eq member, updateOne_eq attemptMember]
  · refine ⟨_, rfl, ?_⟩
    refine authorized.renewed (replaced_of_rows rfl dispatchMember ⟨rfl, heldBy, live, rfl⟩ ?_ rfl rfl)
      (replaced_of_rows rfl member ⟨leaseId, host.trans heldBy.1, holder, active, expiry⟩ ?_ rfl rfl)
      (replaced_of_rows rfl attemptMember ⟨sameAttempt, renewable, sameLease⟩ ?_ rfl rfl)
      active keyed leaseId host holder ?_ rfl
    · exact fun row _ chosen => chosen.1
    · exact fun row _ chosen => chosen.1.trans leaseId.symm
    · exact fun row _ chosen => chosen.1.trans sameAttempt.symm
    · rw [attemptLease]
      rfl
  · exact ⟨sameAttempt, renewable, sameLease⟩
  · exact fun row _ chosen => chosen.1.trans sameAttempt.symm
  · exact ⟨leaseId, host.trans heldBy.1, holder, active, expiry⟩
  · exact fun row _ chosen => chosen.1.trans leaseId.symm
  · exact ⟨rfl, heldBy, live, rfl⟩
  · exact fun row _ chosen => chosen.1

theorem heartbeat (options : HostReservationOptions) (hostId : OpaqueId) (leases : List LeaseIdentity) :
    ∃ renewed, db.heartbeat options hostId leases clock = .ok renewed ∧ renewed.Authorized clock := by
  have touched : (db.touchHost hostId clock).Authorized clock := authorized.unchanged rfl rfl rfl
  unfold RemoteDatabase.heartbeat renewLeases
  generalize db.touchHost hostId clock = start at touched
  induction leases generalizing start with
  | nil => exact ⟨start, rfl, touched⟩
  | cons lease _ ih =>
    obtain ⟨next, renewed, kept⟩ := touched.renewCurrentLease options hostId lease
    rw [foldlM_cons_ok renewed]
    exact ih next kept

theorem expireLeases (leaseIds : List OpaqueId) : (db.expireLeases clock leaseIds).1.Authorized clock := by
  induction leaseIds generalizing db with
  | nil => exact authorized
  | cons _ _ ih =>
    unfold RemoteDatabase.expireLeases
    split
    · exact authorized
    rename_i reservation read
    split
    · exact ih authorized
    rename_i due
    split
    · exact authorized
    rename_i released done
    obtain ⟨member, keyed⟩ := getReservation_ok read
    refine ih (authorized.release (fun _ => ?_) done)
    rw [← keyed]
    exact authorized.idle_of_expired member (not_lt.mp fun unexpired => due (.inr unexpired))

theorem commit {result : Except RemoteError RemoteDatabase}
    (keeps : ∀ db', result = .ok db' → db'.Authorized clock) : (db.commit result).Authorized clock := by
  cases result with
  | error => exact authorized
  | ok db' => exact keeps db' rfl

theorem applyResume (options : HostReservationOptions)
    (operationId priorLeaseId : OpaqueId) (expectedAttemptVersion : Nat) (action : ResumeCommand) (now : Timestamp) :
    (db.applyResume options operationId priorLeaseId expectedAttemptVersion action now).Authorized clock := by
  unfold RemoteDatabase.applyResume
  split
  · exact authorized
  · rename_i leased reservation resumed
    obtain ⟨kept, member, active, leaseId, expiry⟩ := resumeSameAttempt_keeps authorized.leased resumed
    exact (authorized.keeps kept).commit fun _ done =>
      (authorized.keeps kept).resumeDispatch member active leaseId expiry done

theorem recoverResume (operationId executionAttemptId priorLeaseId : OpaqueId) (action : ResumeCommand) :
    (db.recoverResume operationId executionAttemptId priorLeaseId action).Authorized clock := by
  unfold RemoteDatabase.recoverResume
  split
  · rename_i applied
    obtain ⟨_, applied⟩ := rest_ok applied
    split at applied
    · cases applied
    rename_i current found
    have effect := of_decide_eq_true (Except.ok.inj applied)
    obtain ⟨member, leaseId⟩ := find_eq_some.mp found
    exact authorized.commit fun _ done =>
      authorized.resumeDispatch member effect.2.2.2.2.1 leaseId effect.2.2.2.2.2.1 done
  · exact authorized

theorem finalizeOperationTerminal {snapshot : RemoteAttempt} (spared : db.Spared snapshot clock)
    (done : db.finalizeOperationTerminal snapshot status now = .ok db') : db'.Authorized clock := by
  unfold RemoteDatabase.finalizeOperationTerminal at done
  split at done
  · cases done
  rename_i lease snapshotLease
  obtain ⟨_, read, done⟩ := bind_ok.mp done
  obtain ⟨_, keyed⟩ := getReservation_ok read
  split at done
  · refine authorized.release (fun found => ?_) done
    obtain ⟨row, member, rowLease, active, _⟩ := found
    rw [← rowLease]
    refine spared row member ?_ active
    rw [snapshotLease, map_some, rowLease, keyed]
  · obtain ⟨_, done⟩ := rest_ok done
    exact authorized.keeps (finalizeFencedAttempt_keeps authorized.leased done)
end

theorem finishTerminal_moves {attempt : RemoteAttempt} (done : db.finishTerminal operation attempt status = .ok db') :
    MovesDispatches (fun _ => False) db db' := by
  unfold finishTerminal at done
  split at done
  · cases done
  · exact finishDispatchTerminal_moves done

theorem spared_of_moves {snapshot : RemoteAttempt} (spared : db.Spared snapshot now) (moves : MovesDispatches reports db db') :
    db'.Spared snapshot now := by
  intro row member lease active dispatch dispatchMember sameLease live
  rw [moves.rest] at member
  obtain ⟨old, oldMember, moved⟩ := moves.origin dispatch dispatchMember
  rw [moved.leaseExpiresAt]
  exact spared row member lease active old oldMember (moved.leaseId.symm.trans sameLease) (moved.live live)

theorem forceFailedTerminal (authorized : db.Authorized clock) (operationId : OpaqueId) (now : Timestamp)
    (spared : ∀ operation ∈ db.operations.rows, operation.id = operationId → operation.state.terminal = false →
      ∀ attempt ∈ db.attempts.rows, attempt.executionAttemptId = operation.executionAttemptId → db.Spared attempt clock) :
    (db.forceFailedTerminal operationId now).Authorized clock := by
  unfold RemoteDatabase.forceFailedTerminal
  split
  · exact authorized
  rename_i current attempt read
  obtain ⟨row, sameOperation⟩ := getRequired_ok read
  split
  · exact authorized
  rename_i live
  have attemptSpared := spared current row.operation_mem sameOperation (by simpa using live) attempt row.attempt_mem
    row.attemptId
  split
  · exact authorized
  dsimp only
  split
  · exact authorized
  rename_i finished finishing
  have reached : finished.Authorized clock ∧ finished.Spared attempt clock := by
    split at finishing
    · have moves := finishTerminal_moves finishing
      exact ⟨authorized.moved moves, spared_of_moves attemptSpared moves⟩
    · cases finishing; exact ⟨authorized, attemptSpared⟩
  split
  · exact reached.1.commit fun _ done => reached.1.finalizeOperationTerminal reached.2 done
  · split
    · exact reached.1.commit fun _ done => reached.1.keeps (cancelClaimedAfterRuntimeReset_keeps reached.1.leased done)
    · exact reached.1

end Authorized
end RemoteDatabase

namespace RemoteStep

/-- The step takes no reservation from a dispatch that runs under its lease, and gives none to a new dispatch that is not
active any more. -/
def SparesLeases (db : RemoteDatabase) (clock : Timestamp) : RemoteStep → Prop
  | ledger (.prepare operation reservation) =>
    db.HasRead operation reservation ∧ reservation.executionAttemptId = operation.executionAttemptId ∧
      (db.dispatches.find operation.dispatchId = none → reservation.leaseExpiresAt ≤ clock ∨
        ∃ row ∈ db.reservations.rows, row.leaseId = reservation.leaseId ∧ row.status = .active ∧
          row.leaseExpiresAt = reservation.leaseExpiresAt)
  | ledger (.release leaseId fencingToken expectedVersion _ now) =>
    (∃ row ∈ db.reservations.rows, row.leaseId = leaseId ∧ row.status = .active ∧ row.fencingToken = fencingToken ∧
      row.version = expectedVersion) → db.Idle leaseId now
  | ledger (.transition _ _ _ status) => status ≠ .interrupted
  | finalizeOperationTerminal snapshot _ now => db.Spared snapshot now
  | forceFailedTerminal operationId now => ∀ operation ∈ db.operations.rows, operation.id = operationId →
    operation.state.terminal = false → ∀ attempt ∈ db.attempts.rows,
      attempt.executionAttemptId = operation.executionAttemptId → db.Spared attempt now
  | _ => True

instance (db : RemoteDatabase) (clock : Timestamp) : (step : RemoteStep) → Decidable (step.SparesLeases db clock)
  | ledger (.prepare _ _) => inferInstanceAs (Decidable (_ ∧ _ ∧ (_ → _)))
  | ledger (.release _ _ _ _ _) => inferInstanceAs (Decidable (_ → _))
  | ledger (.transition _ _ _ status) => inferInstanceAs (Decidable (status ≠ _))
  | finalizeOperationTerminal snapshot _ now => inferInstanceAs (Decidable (db.Spared snapshot now))
  | forceFailedTerminal _ _ => inferInstanceAs (Decidable (∀ _ ∈ _, _ → _ → ∀ _ ∈ _, _ → _))
  | ledger (.create ..) | ledger (.markClaimed _) | ledger (.persistHostSelection ..) | ledger (.reserve ..)
  | ledger (.activate ..) | ledger (.expireDue _) | ledger (.resumeSameAttempt ..) | ledger (.retryAttempt ..)
  | ledger (.markActionRequired ..) | ledger (.finalizeFencedAttempt ..)
  | ledger (.cancelClaimedAfterRuntimeReset ..) | ledger (.heartbeat ..) | ledger (.accept ..) | ledger (.interrupt ..)
  | ledger (.complete ..) | ledger (.fail ..) | ledger (.recoverExpiredLeases _) | ledger (.finishDispatchTerminal ..)
  | ledger (.setHosts _) | renewLeaseForActivity .. | cancelDispatch .. | applyResume .. | recoverResume ..
  | failDispatch .. | cancelInterruptedAfterRuntimeReset .. | finishDispatch .. => isTrue trivial

theorem SparesLeases.later {db : RemoteDatabase} {clock : Timestamp} {step : RemoteStep} (spares : step.SparesLeases db clock)
    (passed : clock ≤ now) : step.SparesLeases db now := by
  cases step with
  | ledger call =>
    cases call with
    | prepare =>
      exact ⟨spares.1, spares.2.1, fun absent => (spares.2.2 absent).imp_left fun expired => expired.trans passed⟩
    | _ => exact spares
  | _ => exact spares

def tick (clock : Timestamp) (step : RemoteStep) : Timestamp := step.time.getD clock

end RemoteStep

namespace RemoteDatabase.Authorized
variable {db : RemoteDatabase} {clock : Timestamp}

theorem call (authorized : db.Authorized clock) (options : HostReservationOptions) {call : LeaseCall}
    (spares : (RemoteStep.ledger call).SparesLeases db clock) (time : call.time.getD clock = clock) :
    (call.perform options db).Authorized clock := by
  cases call with
  | create =>
    exact authorized.commit fun _ done => authorized.keeps (create_keeps authorized.leased done)
  | markClaimed =>
    exact authorized.commit fun _ done => authorized.keeps (markClaimed_keeps authorized.leased done)
  | persistHostSelection =>
    exact authorized.commit fun _ done => authorized.keeps (persistHostSelection_keeps authorized.leased done)
  | reserve =>
    refine authorized.commit fun _ done => ?_
    obtain ⟨⟨_, _⟩, reserved, rfl⟩ := map_ok.mp done
    exact authorized.keeps (reserve_keeps authorized.leased reserved)
  | transition =>
    exact authorized.commit fun _ done => authorized.keeps (transition_keeps authorized.leased spares done)
  | prepare =>
    exact authorized.commit fun _ done => authorized.prepare spares.1 spares.2.1 spares.2.2 done
  | activate =>
    exact authorized.commit fun _ done => authorized.keeps (activate_keeps authorized.leased done)
  | release _ _ _ _ now =>
    obtain rfl : now = clock := time
    exact authorized.commit fun _ done => authorized.release spares done
  | expireDue now =>
    obtain rfl : now = clock := time
    exact authorized.expireLeases _
  | resumeSameAttempt =>
    refine authorized.commit fun _ done => ?_
    obtain ⟨⟨_, _⟩, resumed, rfl⟩ := map_ok.mp done
    exact authorized.keeps (resumeSameAttempt_keeps authorized.leased resumed).1
  | retryAttempt =>
    exact authorized.commit fun _ done => authorized.keeps (retryAttempt_keeps authorized.leased done)
  | markActionRequired =>
    exact authorized.commit fun _ done => authorized.keeps (markActionRequired_keeps authorized.leased done)
  | finalizeFencedAttempt =>
    exact authorized.commit fun _ done => authorized.keeps (finalizeFencedAttempt_keeps authorized.leased done)
  | cancelClaimedAfterRuntimeReset =>
    exact authorized.commit fun _ done => authorized.keeps (cancelClaimedAfterRuntimeReset_keeps authorized.leased done)
  | heartbeat hostId leases now =>
    obtain rfl : now = clock := time
    obtain ⟨_, done, kept⟩ := authorized.heartbeat options hostId leases
    exact authorized.commit fun next result => Except.ok.inj (done.symm.trans result) ▸ kept
  | accept => exact authorized.moved accept_moves
  | interrupt => exact authorized.moved interrupt_moves
  | complete => exact authorized.moved recordCompleted_moves
  | fail => exact authorized.moved recordFailed_moves
  | recoverExpiredLeases => exact authorized.moved recoverExpiredLeases_moves
  | finishDispatchTerminal => exact authorized.commit fun _ done => authorized.moved (finishDispatchTerminal_moves done)
  | setHosts => exact authorized.unchanged rfl rfl rfl

theorem step (authorized : db.Authorized clock) (options : HostReservationOptions) {step : RemoteStep}
    (spares : step.SparesLeases db clock) (time : step.time.getD clock = clock) :
    (step.perform options db).Authorized clock := by
  cases step with
  | ledger call => exact authorized.call options spares time
  | renewLeaseForActivity hostId lease now =>
    obtain rfl : now = clock := time
    obtain ⟨_, done, kept⟩ := authorized.renewCurrentLease options hostId lease
    exact authorized.commit fun next result => Except.ok.inj (done.symm.trans result) ▸ kept
  | cancelDispatch => exact authorized.commit fun _ done => authorized.cancelDispatch done
  | applyResume operationId priorLeaseId expectedAttemptVersion action now =>
    exact authorized.applyResume options operationId priorLeaseId expectedAttemptVersion action now
  | recoverResume operationId executionAttemptId priorLeaseId action =>
    exact authorized.recoverResume operationId executionAttemptId priorLeaseId action
  | failDispatch => exact authorized.commit fun _ done => authorized.failDispatch done
  | cancelInterruptedAfterRuntimeReset =>
    exact authorized.commit fun _ done => authorized.cancelInterruptedAfterRuntimeReset done
  | finishDispatch =>
    refine authorized.commit fun _ done => ?_
    obtain ⟨_, done⟩ := rest_ok done
    exact authorized.moved (finishTerminal_moves done)
  | finalizeOperationTerminal _ _ now =>
    obtain rfl : now = clock := time
    exact authorized.commit fun _ done => authorized.finalizeOperationTerminal spares done
  | forceFailedTerminal operationId now =>
    obtain rfl : now = clock := time
    exact authorized.forceFailedTerminal operationId _ spares

end RemoteDatabase.Authorized

namespace RemoteStep

def advance (options : HostReservationOptions) (state : RemoteDatabase × Timestamp) (step : RemoteStep) :
    RemoteDatabase × Timestamp :=
  (step.perform options state.1, tick state.2 step)

def Spares (state : RemoteDatabase × Timestamp) (step : RemoteStep) : Prop :=
  state.2 ≤ tick state.2 step ∧ step.SparesLeases state.1 state.2

instance (state : RemoteDatabase × Timestamp) (step : RemoteStep) : Decidable (Spares state step) :=
  inferInstanceAs (Decidable (_ ∧ _))

theorem advance_authorized (options : HostReservationOptions) (state : RemoteDatabase × Timestamp) (step : RemoteStep)
    (authorized : state.1.Authorized state.2) (spares : Spares state step) :
    (advance options state step).1.Authorized (advance options state step).2 := by
  have time : step.time.getD (tick state.2 step) = tick state.2 step := by
    unfold tick
    cases step.time <;> rfl
  exact (authorized.later spares.1).step options (spares.2.later spares.1) time

end RemoteStep

namespace RemoteDatabase

/-- In every run of the calls, under one clock, in which no reservation is taken from a dispatch that runs under its
lease, all three tables agree on the leases in use and no heartbeat is refused. -/
theorem lease_authority_kept (options : HostReservationOptions) (steps : List RemoteStep) (start : Timestamp)
    (spared : Runs.Along (RemoteStep.advance options) RemoteStep.Spares steps (RemoteDatabase.empty, start)) :
    ∀ now, (Runs.run (RemoteStep.advance options) steps (RemoteDatabase.empty, start)).2 ≤ now →
      (Runs.run (RemoteStep.advance options) steps (RemoteDatabase.empty, start)).1.LeaseAuthority now ∧
      ∀ hostId leases, ∃ renewed,
        (Runs.run (RemoteStep.advance options) steps (RemoteDatabase.empty, start)).1.heartbeat options hostId leases now =
          .ok renewed := by
  intro now passed
  have reached := spared.invariant (fun state => state.1.Authorized state.2)
    (RemoteStep.advance_authorized options) (Authorized.empty start)
  have present := reached.later passed
  refine ⟨present.authority, fun hostId leases => ?_⟩
  obtain ⟨renewed, done, _⟩ := present.heartbeat options hostId leases
  exact ⟨renewed, done⟩

def sampleDispatched : List RemoteStep :=
  sampleReservation.map .ledger ++ [.ledger (.prepare reservedOperation activeReservation),
    .ledger (.activate reservedOperation activeReservation), .ledger (.accept sampleId sampleIdentity 1000)]

def sampleResumed : List RemoteStep :=
  sampleDispatched ++ [.ledger (.heartbeat sampleId [sampleIdentity] 20000),
    .ledger (.interrupt sampleId sampleIdentity ⟨.leaseLost, true, some ⟨"session", "recovery"⟩⟩ 30000),
    .ledger (.expireDue 50000),
    .applyResume sampleOperation sampleLease 3 ⟨sampleId, nextLease, 70000, ⟨"session", "recovery"⟩⟩ 50000]

theorem lease_authority_kept_after_resume :
    (Runs.run (RemoteStep.advance sampleOptions) sampleResumed (RemoteDatabase.empty, 0)).1.LeaseAuthority 60000 :=
  (lease_authority_kept sampleOptions sampleResumed 0 (by decide +kernel) 60000 (by decide +kernel)).1

/-- A dispatch that runs on while its operation is sealed as failed: its reservation is gone, and the next heartbeat of
its Host that names it is refused. -/
theorem sealed_dispatch_without_authority :
    Runs.Along (RemoteStep.advance sampleOptions) (fun state step => state.2 ≤ RemoteStep.tick state.2 step)
      (sampleDispatched ++ [.forceFailedTerminal sampleOperation 2000]) (RemoteDatabase.empty, 0) ∧
    ¬ (Runs.run (RemoteStep.advance sampleOptions) (sampleDispatched ++ [.forceFailedTerminal sampleOperation 2000])
      (RemoteDatabase.empty, 0)).1.LeaseAuthority 20000 ∧
    Checked.errorOf ((Runs.run (RemoteStep.advance sampleOptions)
      (sampleDispatched ++ [.forceFailedTerminal sampleOperation 2000]) (RemoteDatabase.empty, 0)).1.heartbeat sampleOptions
        sampleId [sampleIdentity] 20000) = some .remoteLeaseAuthorityInconsistent := by
  decide +kernel

end RemoteDatabase
end PlanWeave
