import PlanWeave.Lib.Checked
import PlanWeave.WorkspaceExecution.CheckpointSafety

namespace PlanWeave.WorkspaceExecution
open ExecutionStore Option SessionRecord

structure SnapshotOf (observation : OperationObservation) (binding : RemoteBinding) (prior : Option RemoteHandle)
    (snapshot : AdapterSnapshot) : Prop where
  describes : observation.Describes snapshot.handle
  operationId : snapshot.handle.operationId = observation.operationId
  place : observation.blockRef = binding.blockRef
  follows : ∀ handle, prior = some handle → observation.operationId = handle.operationId
  cursor : snapshot.handle.eventCursor =
    ((prior.filter (·.executionAttemptId = snapshot.handle.executionAttemptId)).map (·.eventCursor)).getD 0

section Snapshots
variable {observation : OperationObservation} {binding : RemoteBinding} {prior : Option RemoteHandle} {runSessionId : Nat}
  {endpointId : String} {operationId : Option String} {history : Bool} {snapshot : AdapterSnapshot} {handle : RemoteHandle}

theorem assertObservationIdentity_ok (passed : assertObservationIdentity observation binding operationId endpointId history = .ok ()) :
    observation.blockRef = binding.blockRef ∧ ∀ expected, operationId = some expected → observation.operationId = expected := by
  unfold assertObservationIdentity at passed
  split at passed
  · rename_i fits
    unfold observationMatches at fits
    split at fits
    · cases fits
    simp only [Bool.and_eq_true, decide_eq_true_eq] at fits
    obtain ⟨⟨⟨⟨⟨⟨⟨⟨⟨⟨⟨⟨named, _⟩, _⟩, place⟩, _⟩, _⟩, _⟩, _⟩, _⟩, _⟩, _⟩, _⟩, _⟩ := fits
    refine ⟨place, fun expected same => ?_⟩
    rw [same] at named
    exact of_decide_eq_true named
  · split at passed <;> cases passed

theorem handleFromObservation_ok
    (made : handleFromObservation prior runSessionId binding endpointId observation = .ok handle) :
    observation.Describes handle ∧ handle.operationId = observation.operationId ∧ handle.eventCursor =
      ((prior.filter (·.executionAttemptId = handle.executionAttemptId)).map (·.eventCursor)).getD 0 := by
  unfold handleFromObservation operationRevision at made
  cases known : observation.diagnostics with
  | none =>
    rw [known] at made
    cases made
  | some =>
    simp only [known, Bind.bind, Except.bind] at made
    split at made
    · cases made
    split at made
    · cases made
    split at made
    · cases made
    cases made
    refine ⟨⟨by simp [known], rfl, rfl⟩, rfl, ?_⟩
    cases prior with
    | none => simp
    | some handle =>
      by_cases same : handle.executionAttemptId = some observation.executionAttemptId
      · simp [filter_some, same]
      · simp [filter_some, same]

theorem snapshotFromObservation_ok
    (made : snapshotFromObservation observation binding runSessionId endpointId prior history = .ok snapshot) :
    SnapshotOf observation binding prior snapshot := by
  obtain ⟨_, passed, made⟩ := Checked.bind_ok.mp made
  have identity := assertObservationIdentity_ok passed
  obtain ⟨handle, built, made⟩ := Checked.bind_ok.mp made
  cases made
  have spec := handleFromObservation_ok built
  refine ⟨spec.1, spec.2.1, identity.1, fun handle same => ?_, spec.2.2⟩
  exact identity.2 handle.operationId (by rw [same]; rfl)

end Snapshots

namespace ExecutionStore
variable {store later : ExecutionStore} {operationId : String} {observation : OperationObservation} {record : SessionRecord}
  {intent : DispatchIntent} {caller : Nat} {key blockRef : String}

def Reported (store : ExecutionStore) (fits : ServerOperation → Prop) (observation : OperationObservation) : Prop :=
  ∃ operation, store.operations.get? observation.operationId = some operation ∧ observation ∈ operation.reports ∧
    operation.blockRef = observation.blockRef ∧ fits operation

theorem Reported.grows {fits : ServerOperation → Prop} (stable : ∀ old next : ServerOperation, old.Extends next → fits old → fits next)
    (reported : store.Reported fits observation) (grows : store.Grows later) : later.Reported fits observation := by
  obtain ⟨operation, found, member, place, holds⟩ := reported
  obtain ⟨next, reached, extends_⟩ := grows.operations _ operation found
  exact ⟨next, reached, extends_.reports.subset member, extends_.blockRef.trans place, stable operation next extends_ holds⟩

theorem Valid.reported (valid : store.Valid) (fits : ServerOperation → Prop) {operation : ServerOperation}
    (found : store.operations.get? operationId = some operation) (current : operation.current = some observation)
    (holds : fits operation) : store.Reported fits observation ∧ observation.operationId = operationId := by
  have member := List.mem_of_getLast? current
  have named := (valid.server operationId operation found).named observation member
  rw [← named.1] at found
  exact ⟨⟨operation, found, member, named.2.symm, holds⟩, named.1⟩

theorem Valid.intended (valid : store.Valid) (known : store.Known record) (intends : record.dispatchIntent = some intent) :
    record.observedOperationId = none ∧ intent.blockRef = record.blockRef := by
  obtain ⟨state, present, fit, place⟩ := valid.bound known
  simp only [dispatchIntent, present, bind_some] at intends
  simp only [SessionState.valid, intends, Bool.and_eq_true, bne_iff_ne, ne_eq] at fit
  obtain ⟨⟨⟨⟨⟨_, either⟩, place'⟩, _⟩, _⟩, _⟩ := fit
  simp only [all_some, SessionState.intentMatches, Bool.and_eq_true, decide_eq_true_eq] at place'
  obtain ⟨⟨⟨⟨⟨_, _⟩, scope⟩, _⟩, _⟩, _⟩ := place'
  constructor
  · cases observed : state.observedOperationId with
    | none => simp [observedOperationId, present, observed]
    | some => simp [observed] at either
  · exact scope.trans place

/-- No operation of the scope is known for the key, as far as the caller has the lock and the others dispatch under it. -/
def Undispatched (caller : Nat) (key blockRef : String) (store : ExecutionStore) : Prop :=
  store.Guarded → store.locks.get? blockRef = some caller → ∀ operationId operation,
    store.operations.get? operationId = some operation → operation.key = some key → operation.blockRef ≠ blockRef

theorem Undispatched.stays (free : Undispatched caller key blockRef store)
    (between : executionRules.Rely caller store later) : Undispatched caller key blockRef later := by
  intro guarded held operationId operation found keyed place
  have spares : Spares caller store later := between.spares
  have mine := (spares.locks blockRef).mp held
  obtain ⟨old, was, same, there⟩ :=
    spares.operations guarded blockRef mine operationId operation key found keyed place
  exact free (spares.guarded guarded) mine operationId old was same there

theorem Undispatched.no_handle (free : Undispatched caller intent.idempotencyKey intent.blockRef store) (valid : store.Valid)
    (known : store.Known record) (intends : record.dispatchIntent = some intent) (guarded : store.Guarded)
    (held : store.locks.get? intent.blockRef = some caller) {current : SessionRecord}
    (stands : store.sessions.get? record.sessionId = some current) : current.handle = none := by
  cases handled : current.handle with
  | none => rfl
  | some handle =>
    have spec := valid.intended known intends
    have leads := valid.current_leads known stands
    obtain ⟨operation, origin⟩ := valid.originOf (valid.known_of_get? stands).1 handled
    have place : operation.blockRef = intent.blockRef := (origin.place.trans leads.blockRef).trans spec.2.symm
    rcases origin.reason with ⟨_, same, keyed⟩ | observes
    · rw [leads.intent, intends] at same
      cases same
      exact absurd place (free guarded held handle.operationId operation origin.found keyed)
    · rw [leads.observed, spec.1] at observes
      cases observes

theorem observed_of_reported {binding : RemoteBinding} {snapshot : AdapterSnapshot}
    (reported : store.Reported (fun operation => ∃ intent, record.dispatchIntent = some intent ∧
      operation.key = some intent.idempotencyKey) observation)
    (made : SnapshotOf observation binding none snapshot) (place : binding.blockRef = record.blockRef)
    (free : record.handle = none) : Observed store binding record snapshot := by
  obtain ⟨operation, found, member, scope, reason⟩ := reported
  refine ⟨place, ⟨operation, ?_, ⟨observation, member, made.describes⟩, scope.trans (made.place.trans place), .inl reason⟩, ?_⟩
  · rw [made.operationId]
    exact found
  · rw [made.cursor]
    simp [carriedCursor, free]

end ExecutionStore

section Requests
variable {caller : Nat} {thrown : Failure → Prop} {store : ExecutionStore} (ports : CallPorts)
  {binding : RemoteBinding} {session : SessionRecord} {intent : DispatchIntent} {handle : RemoteHandle} {operationId key : String}

section
variable (failed : thrown (portFailure ports .query "remote_observation_unavailable"))
include failed

theorem keeps_observe :
    Keeps caller (fun observation last => observation.operationId = operationId ∧ last.Reported (fun _ => True) observation)
      thrown (observe ports operationId) store := by
  apply Custody.Safe.orFail
  · apply Custody.safe_observe
    · intro seen between observation looked last further
      cases found : seen.operations.get? operationId with
      | none =>
        simp only [ExecutionStore.observed, found] at looked
        cases looked
      | some operation =>
        cases current : operation.current with
        | none =>
          simp only [ExecutionStore.observed, found, bind_some, current] at looked
          cases looked
        | some =>
          simp only [ExecutionStore.observed, found, bind_some, current] at looked
          cases looked
          have reported := between.valid.reported (fun _ => True) found current trivial
          exact ⟨reported.2, reported.1.grows (fun _ _ _ _ => trivial) further.grows⟩
    · intro seen _ reason looked _ _
      split at looked
      · cases looked
      · cases looked
        exact failed
  · exact fun _ _ => failed

/-- The operation of a key, or none that could be of a scope which the caller has locked. -/
theorem keeps_queryRecover : Keeps caller (fun result last =>
      (∀ observation, result = some observation → last.Reported (fun operation => operation.key = some key) observation) ∧
        (result = none → ∀ blockRef, ExecutionStore.Undispatched caller key blockRef last)) thrown (queryRecover ports key) store := by
  apply Custody.Safe.orFail
  · apply Custody.safe_observe
    · intro seen between result looked last further
      cases found : seen.operationOf key with
      | none =>
        rw [found] at looked
        cases looked
        refine ⟨fun _ absurd_ => (by cases absurd_), fun _ blockRef => ?_⟩
        have free : ExecutionStore.Undispatched caller key blockRef seen :=
          fun _ _ _ operation present keyed => absurd keyed (operationOf_eq_none found present)
        exact free.stays further
      | some entry =>
        have spec := operationOf_spec found
        rw [found] at looked
        cases looked
        refine ⟨fun observation current => ?_, fun absent => ?_⟩
        · have reported := between.valid.reported (·.key = some key) spec.1 current spec.2
          exact reported.1.grows (fun _ _ extends_ keyed => extends_.key.trans keyed) further.grows
        · exact absurd (List.getLast?_eq_none_iff.mp absent) (between.valid.server entry.1 entry.2 spec.1).known
    · intro seen _ reason looked _ _
      cases looked
  · exact fun _ _ => failed
end

theorem keeps_dispatch (known : store.Known session) (intends : session.dispatchIntent = some intent)
    (free : ExecutionStore.Undispatched caller intent.idempotencyKey intent.blockRef store)
    (failed : thrown (portFailure ports .command "remote_dispatch_unavailable")) :
    Keeps caller (fun observation last => last.Reported (·.key = some intent.idempotencyKey) observation) thrown
      (dispatch ports caller session.sessionId intent) store := by
  have moves : ∀ last, executionRules.Rely caller store last →
      executionRules.Moves caller last (last.dispatch caller session.sessionId intent ports.created) := by
    intro last between
    have still : last.Known session := known.grows between.grows
    apply dispatch_moves between.valid
    · obtain ⟨write, member, same⟩ := still
      exact ⟨write, member, congrArg sessionId same, same.symm ▸ intends⟩
    · intro guarded held record stands
      exact (free.stays between).no_handle between.valid still intends guarded held stands
  refine ⟨⟨fun last between => ⟨moves last between, ?_⟩, fun _ _ => failed⟩,
    fun last between => ⟨moves last between, fun _ _ => failed⟩⟩
  simp only
  cases found : (last.dispatch caller session.sessionId intent ports.created).operationOf intent.idempotencyKey with
  | none => exact fun _ _ => failed
  | some entry =>
    cases current : entry.2.current with
    | none =>
      simp only [bind_some, current]
      exact fun _ _ => failed
    | some =>
      simp only [bind_some, current]
      intro later further
      have spec := operationOf_spec found
      have reported := (moves last between).valid.reported (·.key = some intent.idempotencyKey) spec.1 current spec.2
      exact reported.1.grows (fun _ _ extends_ keyed => extends_.key.trans keyed) further.grows

section
variable (valid : store.Valid)
include valid

theorem keeps_launch (known : store.Known session) (intends : session.dispatchIntent = some intent)
    (free : ExecutionStore.Undispatched caller intent.idempotencyKey intent.blockRef store)
    (place : binding.blockRef = session.blockRef) (unhandled : session.handle = none) (tolerates : Tolerates thrown) :
    Keeps caller (fun snapshot last => Observed last binding session snapshot) thrown
      (launch ports caller binding session intent) store := by
  apply (keeps_dispatch ports known intends free (tolerates.refused _ _ rfl)).bind valid
  intro observation last _ _ reported
  apply keeps_answer fun _ _ => tolerates.refused _ _ rfl
  intro snapshot made later between
  have mine := reported.grows (fun _ _ extends_ keyed => extends_.key.trans keyed) between.grows
  obtain ⟨operation, found, member, scope, keyed⟩ := mine
  exact ExecutionStore.observed_of_reported ⟨operation, found, member, scope, intent, intends, keyed⟩
    (snapshotFromObservation_ok made) place unhandled

theorem keeps_recover (intends : session.dispatchIntent = some intent)
    (place : binding.blockRef = session.blockRef) (unhandled : session.handle = none) (tolerates : Tolerates thrown) :
    Keeps caller (fun result last => (∀ snapshot, result = some snapshot → Observed last binding session snapshot) ∧
      (result = none → ExecutionStore.Undispatched caller intent.idempotencyKey intent.blockRef last)) thrown
      (recover ports binding session intent) store := by
  apply (keeps_queryRecover ports (tolerates.refused _ _ rfl)).bind valid
  intro result last _ _ answer
  cases result with
  | none =>
    intro later between
    exact ⟨fun _ absurd_ => (by cases absurd_), fun _ => (answer.2 rfl intent.blockRef).stays between⟩
  | some observation =>
    apply keeps_checked fun _ _ => tolerates.refused _ _ rfl
    intro snapshot made later between
    refine ⟨fun other same => ?_, fun absurd_ => by cases absurd_⟩
    cases same
    have mine := (answer.1 observation rfl).grows (fun _ _ extends_ keyed => extends_.key.trans keyed) between.grows
    obtain ⟨operation, found, member, scope, keyed⟩ := mine
    exact ExecutionStore.observed_of_reported ⟨operation, found, member, scope, intent, intends, keyed⟩
      (snapshotFromObservation_ok made) place unhandled

theorem keeps_follow (known : store.Known session) (handled : session.handle = some handle)
    (place : binding.blockRef = session.blockRef) (tolerates : Tolerates thrown) :
    Keeps caller (fun snapshot last => Observed last binding session snapshot) thrown (follow ports binding handle) store := by
  apply keeps_demand (tolerates.refused _ _ rfl)
  intro _
  apply (keeps_observe ports (tolerates.refused _ _ rfl)).bind valid
  intro observation last _ further reported
  apply keeps_answer fun _ _ => tolerates.refused _ _ rfl
  intro snapshot made later between
  have spec := snapshotFromObservation_ok made
  obtain ⟨operation, found, member, _, _⟩ := reported.2.grows (fun _ _ _ _ => trivial) between.grows
  obtain ⟨origin, source⟩ := between.valid.originOf (known.grows (executionRules.trans further between.grows)) handled
  have same : operation = origin := by
    have also := source.found
    rw [← reported.1, found] at also
    exact Option.some.inj also
  refine ⟨place, ⟨operation, ?_, ⟨observation, member, spec.describes⟩, ?_, ?_⟩, ?_⟩
  · rw [spec.operationId]
    exact found
  · rw [same]
    exact source.place
  · rw [same, spec.operationId, reported.1]
    exact source.reason
  · rw [spec.cursor, carriedCursor, handled]

theorem keeps_inspectExisting (tolerates : Tolerates thrown) :
    Keeps caller (fun answer last => answer.1.operationId = operationId ∧ answer.1.blockRef = binding.blockRef ∧
      last.Reported (fun _ => True) answer.1) thrown (inspectExisting ports binding operationId) store := by
  apply (keeps_observe ports (tolerates.refused _ _ rfl)).bind valid
  intro observation last _ _ reported
  cases observation.endpointId.filter (· ≠ "") with
  | none => exact keeps_refuse (tolerates.refused _ _ rfl)
  | some =>
    apply keeps_checked fun _ _ => tolerates.refused _ _ rfl
    intro answer passed later between
    have identity := assertObservationIdentity_ok passed
    exact ⟨reported.1, identity.1, reported.2.grows (fun _ _ _ _ => trivial) between.grows⟩
end
end Requests
end PlanWeave.WorkspaceExecution
