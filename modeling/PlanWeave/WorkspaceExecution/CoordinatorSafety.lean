import PlanWeave.WorkspaceExecution.ScopeSafety

namespace PlanWeave.WorkspaceExecution
open List SessionRecord

section Calls
variable {caller : Nat} {thrown : Failure → Prop} {store : ExecutionStore} {ports : CallPorts} {binding : RemoteBinding}
  {session : SessionRecord} {evidenceCursor : Option EvidenceCursor} {request : ExecutionRequest}

section
variable (valid : store.Valid)
include valid

theorem keeps_sessionBinding {β : Type} {result : β → ExecutionStore → Prop} {rest : RemoteBinding → ExecutionProgram β}
    (known : store.Known session) (tolerates : Tolerates thrown)
    (goes : ∀ binding, binding.blockRef = session.blockRef → Keeps caller result thrown (rest binding) store) :
    Keeps caller result thrown (sessionBinding request session >>= rest) store := by
  obtain ⟨state, present, _, place⟩ := valid.bound known
  unfold sessionBinding
  simp only [present]
  cases demanded : decide (state.binding.locator = request.authority) && decide (session.blockRef = request.blockRef) with
  | true => exact goes state.binding place
  | false => exact keeps_refuse (tolerates.refused _ _ rfl)

theorem keeps_resumeOrRecover {asked : Option ExecutionRequest} (known : store.Known session)
    (place : binding.blockRef = session.blockRef) (endures : Endures ports thrown) :
    Keeps caller (fun _ _ => True) thrown (resumeOrRecover ports caller binding session asked evidenceCursor) store := by
  have refused := @endures.refuse
  unfold resumeOrRecover
  cases handled : session.handle with
  | some =>
    simp only
    split
    · exact keeps_collectEvidence valid known handled evidenceCursor endures
    · apply (keeps_follow ports valid known handled place endures.toTolerates).bind valid
      intro snapshot last holds further observed
      exact keeps_acceptCheckpoint holds (known.grows further) observed evidenceCursor endures
  | none =>
    cases intends : session.dispatchIntent with
    | none => exact keeps_refuse (refused rfl)
    | some =>
      apply (keeps_recover ports valid intends place handled endures.toTolerates).bind valid
      intro recovered last holds further answer
      have still := known.grows further
      cases recovered with
      | some snapshot => exact keeps_acceptCheckpoint holds still (answer.1 snapshot rfl) evidenceCursor endures
      | none =>
        apply keeps_demand (refused rfl)
        intro _
        apply keeps_unlessFails (refused rfl)
        apply keeps_demand (refused rfl)
        intro _
        apply keeps_unlessFails (refused rfl)
        apply (keeps_launch ports holds still intends (answer.2 rfl) place handled endures.toTolerates).bind holds
        intro snapshot final kept beyond observed
        exact keeps_acceptCheckpoint kept (still.grows beyond) observed none endures

theorem keeps_followCall {sessionId : Nat} (endures : Endures ports thrown) :
    Keeps caller (fun _ _ => True) thrown (followCall ports caller request sessionId) store := by
  apply (keeps_getSession ports (endures.refused _ _ rfl)).bind valid
  intro session last holds _ read
  apply keeps_sessionBinding holds read.known endures.toTolerates
  intro binding place
  apply keeps_unlessFails (endures.refused _ _ rfl)
  exact keeps_resumeOrRecover holds read.known place endures

theorem keeps_inspectSession (known : store.Known session) (place : binding.blockRef = session.blockRef)
    (tolerates : Tolerates thrown) :
    Keeps caller (fun result last => ∀ snapshot, result = some snapshot → Observed last binding session snapshot) thrown
      (inspectSession ports binding session) store := by
  unfold inspectSession
  cases handled : session.handle with
  | some =>
    apply (keeps_follow ports valid known handled place tolerates).bind valid
    intro snapshot final _ _ observed later between other same
    cases same
    exact observed.grows between.grows
  | none =>
    cases intends : session.dispatchIntent with
    | some =>
      apply (keeps_recover ports valid intends place handled tolerates).mono
      · exact fun _ _ _ answer => answer.1
      · exact fun _ _ _ failed => failed
    | none => exact fun _ _ _ absurd_ => by cases absurd_

theorem keeps_recoverForCancellation {sessionId : Nat} (tolerates : Tolerates thrown) :
    Keeps caller (fun _ _ => True) thrown (recoverForCancellation ports request sessionId) store := by
  have refused := @tolerates.refuse
  apply (keeps_getSession ports (refused rfl)).bind valid
  intro session last holds _ read
  apply keeps_sessionBinding holds read.known tolerates
  intro binding place
  apply keeps_unlessFails (refused rfl)
  apply (keeps_inspectSession holds read.known place tolerates).bind holds
  intro result final kept further observed
  cases result with
  | none => exact fun _ _ => trivial
  | some snapshot =>
    apply keeps_demand (refused rfl)
    intro _
    apply (keeps_persistReading ports true ports.rounds kept (.refl final)
      (observation_rounds tolerates (observed snapshot rfl)) (read.known.grows further) (refused rfl) tolerates.unfinished).bind kept
    intro persisted end_ _ _ _
    cases persisted.handle with
    | some => exact fun _ _ => trivial
    | none => exact keeps_refuse (refused rfl)
end

theorem keeps_resolveBinding {β : Type} {result : β → ExecutionStore → Prop} {rest : RemoteBinding → ExecutionProgram β}
    {authority : RemoteLocator} {blockRef : String} (tolerates : Tolerates thrown)
    (goes : ∀ binding, binding.blockRef = blockRef → Keeps caller result thrown (rest binding) store) :
    Keeps caller result thrown (resolveBinding ports authority blockRef >>= rest) store := by
  refine ⟨?_, keeps_refuse (tolerates.refused _ _ rfl)⟩
  cases demanded : decide (ports.binding.locator = authority) && decide (ports.binding.blockRef = blockRef) with
  | true =>
    simp only [Bool.and_eq_true, decide_eq_true_eq] at demanded
    exact goes ports.binding demanded.2
  | false => exact keeps_refuse (tolerates.refused _ _ rfl)

variable {dispatchKey : Option String}

theorem keeps_dispatchNew (valid : store.Valid) (place : binding.blockRef = request.blockRef)
    (closed : ExecutionStore.Surveyed caller request.blockRef
      (fun record => record.blockRef = request.blockRef → record.phase.terminal = true) store)
    (unkeyed : ∀ key, dispatchKey = some key →
      ExecutionStore.Surveyed caller request.blockRef (ExecutionStore.Unkeyed key) store)
    (endures : Endures ports thrown) :
    Keeps caller (fun _ _ => True) thrown (dispatchNew ports caller binding request dispatchKey) store := by
  have refused := @endures.refuse
  have creates : ∀ key last, last.Valid → executionRules.Rely caller store last →
      ExecutionStore.Surveyed caller request.blockRef (ExecutionStore.Unkeyed key) last →
      Keeps caller (fun _ _ => True) thrown (do
        let state ← checked .coordinator
          (remoteSessionState binding (some (remoteIntent binding ports.agentEndpointId key)) none none none)
        let session ← createSession ports .dispatching (newSession request.blockRef state)
        let snapshot ← launch ports caller binding session (remoteIntent binding ports.agentEndpointId key)
        acceptCheckpoint ports binding session snapshot none) last := by
    intro key last holds between free
    have finished := closed.stays between
    apply keeps_checked fun _ _ => refused rfl
    intro state made
    have spec := remoteSessionState_ok made
    have intends : state.dispatchIntent = some (remoteIntent binding ports.agentEndpointId key) := by rw [spec.1]
    have created : Keeps caller (fun session last => last.Known session ∧ session.workspaceExecution = some state ∧
        session.blockRef = request.blockRef ∧ ExecutionStore.Undispatched caller key request.blockRef last) thrown
        (createSession ports .dispatching (newSession request.blockRef state)) last := by
      apply keeps_createSession ports spec.2 (by rw [spec.1]; exact place) (by rw [spec.1]) (by rw [spec.1]; rfl)
        finished.held ?_ rfl ?_ ?_ (refused rfl)
      · intro later sessionId further
        have survey := free.stays further
        have ended := finished.stays further
        refine CreationReason.dispatching (show dispatchIntent _ =
          some (remoteIntent binding ports.agentEndpointId key) from ?_) ?_ place ?_ ?_
        · simp [dispatchIntent, newSession, intends]
        · simp [observedOperationId, newSession, spec.1]
        · intro write member scope other intent
          obtain ⟨_, _, _, fits, same, _⟩ := survey.of_write further.valid member scope
          exact fits other (same.trans intent)
        · intro write member scope
          obtain ⟨_, ⟨last, written, same⟩, session, fits, _⟩ := ended.of_write further.valid member scope
          have equal := further.valid.same_session ⟨last, written, same⟩ ⟨write, member, rfl⟩ session
          refine ⟨last, written, (congrArg SessionRecord.sessionId same).trans session, ?_⟩
          rw [same]
          exact fits (equal.2.2.trans scope)
      · intro later operationId _ observes
        rw [spec.1] at observes
        cases observes
      · intro later final further end_
        have known := (free.stays further).undispatched further.valid
        have created : ExecutionStore.Undispatched caller key request.blockRef
            (later.createSession .dispatching (newSession request.blockRef state)) := known
        exact created.stays end_
    apply created.bind holds
    intro session final kept _ facts
    have mine : session.dispatchIntent = some (remoteIntent binding ports.agentEndpointId key) := by
      simp [dispatchIntent, facts.2.1, intends]
    have unhandled : session.handle = none := by
      rw [handle, facts.2.1, spec.1]
      rfl
    have scope : (remoteIntent binding ports.agentEndpointId key).blockRef = request.blockRef := place
    apply (keeps_launch ports kept facts.1 mine (scope ▸ facts.2.2.2) (place.trans facts.2.2.1.symm) unhandled
      endures.toTolerates).bind kept
    intro snapshot end_ still beyond observed
    exact keeps_acceptCheckpoint still (facts.1.grows beyond) observed none endures
  apply keeps_unlessFails (refused rfl)
  apply keeps_unlessFails (refused rfl)
  cases dispatchKey with
  | some key => exact creates key store valid (.refl valid) (unkeyed key rfl)
  | none =>
    have quiet : (freshKey ports).Quiet := Process.quiet_observe
    apply ((keeps_freshKey ports closed.held endures.unfinished).quiet quiet valid).bind valid
    intro key last holds _ answer
    exact creates key last holds answer.1 answer.2

theorem keeps_executeScoped (valid : store.Valid) (place : binding.blockRef = request.blockRef)
    (held : store.locks.get? request.blockRef = some caller) (unkeyed : ∀ key, dispatchKey = some key →
      ExecutionStore.Surveyed caller request.blockRef (ExecutionStore.Unkeyed key) store)
    (endures : Endures ports thrown) :
    Keeps caller (fun _ _ => True) thrown (executeScoped ports caller binding request dispatchKey) store := by
  have refused := @endures.refuse
  have found : Keeps caller _ thrown (findScopedSession ports binding.bindingId request.blockRef) store :=
    keeps_findScopedSession ports valid held endures.toTolerates
  apply (found.quiet (quiet_findScopedSession ports _ _) valid).bind valid
  intro result last holds _ answer
  cases result with
  | some session =>
    have facts := answer.2.1 session rfl
    apply keeps_demand (refused rfl)
    intro _
    exact keeps_resumeOrRecover holds facts.1 (place.trans facts.2.symm) endures
  | none => exact keeps_dispatchNew holds place (answer.2.2 rfl) (fun key same => (unkeyed key same).stays answer.1) endures

theorem keeps_execute (valid : store.Valid) (endures : Endures ports thrown) :
    Keeps caller (fun _ _ => True) thrown (execute ports caller request dispatchKey) store := by
  have refused := @endures.refuse
  apply keeps_resolveBinding endures.toTolerates
  intro binding place
  apply keeps_withScopeLock ports valid endures.unfinished
  intro last holds _ held
  apply keeps_demand (refused rfl)
  intro _
  cases dispatchKey with
  | none => exact keeps_executeScoped holds place held (fun _ absurd_ => by cases absurd_) endures
  | some =>
    apply (keeps_sessionOfKey ports holds held endures.toTolerates).bind holds
    intro existing final kept _ answer
    cases existing with
    | none =>
      apply keeps_executeScoped kept place (answer rfl).held _ endures
      intro other same
      cases same
      exact answer rfl
    | some =>
      apply (keeps_recoverForCancellation kept endures.toTolerates).bind kept
      intro recovered end_ _ _ _
      cases recovered with
      | some => exact fun _ _ => trivial
      | none => exact keeps_refuse (refused rfl)

variable {authority : RemoteLocator} {blockRef operationId endpointId : String} {observation : OperationObservation}
  {cursor : EvidenceCursor}

theorem keeps_observeStored (valid : store.Valid) (known : store.Known session) (place : binding.blockRef = blockRef)
    (endures : Endures ports thrown) :
    Keeps caller (fun _ _ => True) thrown
      (observeStored ports caller binding authority blockRef observation session cursor) store := by
  obtain ⟨_, present, _, scope⟩ := valid.bound known
  unfold observeStored
  simp only [present]
  apply keeps_demand (endures.refused _ _ rfl)
  intro goes
  simp only [Bool.and_eq_true, decide_eq_true_eq] at goes
  apply keeps_resumeOrRecover valid known _ endures
  split
  · exact scope
  · exact place.trans goes.2.symm

theorem keeps_observeNew (valid : store.Valid) (place : binding.blockRef = blockRef)
    (named : observation.operationId = operationId) (there : observation.blockRef = binding.blockRef)
    (reported : store.Reported (fun _ => True) observation)
    (unobserved : ExecutionStore.Surveyed caller blockRef (·.observedOperationId ≠ some operationId) store)
    (endures : Endures ports thrown) :
    Keeps caller (fun _ _ => True) thrown
      (observeNew ports binding blockRef operationId observation endpointId cursor) store := by
  have refused := @endures.refuse
  apply keeps_checked fun _ _ => refused rfl
  intro state made
  have spec := remoteSessionState_ok made
  have created : Keeps caller (fun session last => last.Known session ∧ session.workspaceExecution = some state ∧
      session.blockRef = blockRef ∧ True) thrown (createSession ports .observing (newSession blockRef state)) store := by
    apply keeps_createSession ports spec.2 (by rw [spec.1]; exact place) (by rw [spec.1]) (by rw [spec.1]; rfl)
      unobserved.held ?_ rfl ?_ (fun _ _ _ _ => trivial) (refused rfl)
    · intro later sessionId further
      refine CreationReason.observing ?_ (show observedOperationId _ = some operationId from ?_) ?_
      · simp [dispatchIntent, newSession, spec.1]
      · simp [observedOperationId, newSession, spec.1]
      · intro write member scope observes
        obtain ⟨_, _, _, fits, _, same⟩ := (unobserved.stays further).of_write further.valid member scope
        exact fits (same.trans observes)
    · intro later observed further observes
      rw [spec.1] at observes
      cases observes
      obtain ⟨operation, found, _, scope, _⟩ := reported.grows (fun _ _ _ _ => trivial) further.grows
      rw [named] at found
      exact ⟨operation, found, scope.trans (there.trans place)⟩
  apply created.bind valid
  intro session last holds further facts
  have scope := place.trans facts.2.2.1.symm
  apply keeps_checked fun _ _ => refused rfl
  intro snapshot taken
  have snap := snapshotFromObservation_ok taken
  have observed : Observed last binding session snapshot := by
    obtain ⟨operation, found, member, there, _⟩ := reported.grows (fun _ _ _ _ => trivial) further
    refine ⟨scope, ⟨operation, ?_, ⟨observation, member, snap.describes⟩, there.trans (snap.place.trans scope), .inr ?_⟩, ?_⟩
    · rw [snap.operationId]
      exact found
    · rw [observedOperationId, facts.2.1, spec.1, snap.operationId, named]
      rfl
    · rw [snap.cursor, carriedCursor, handle, facts.2.1, spec.1]
      rfl
  exact keeps_acceptCheckpoint holds facts.1 observed (some cursor) endures

theorem keeps_observeExisting (valid : store.Valid) (endures : Endures ports thrown) :
    Keeps caller (fun _ _ => True) thrown (observeExisting ports caller authority blockRef operationId cursor) store := by
  have refused := @endures.refuse
  apply keeps_resolveBinding endures.toTolerates
  intro binding place
  apply (keeps_inspectExisting ports valid endures.toTolerates).bind valid
  intro answer next still _ inspected
  apply keeps_withScopeLock ports still endures.unfinished
  intro last holds further held
  apply (keeps_survey ports holds held (refused rfl)).bind holds
  intro sessions final kept beyond surveyed
  have reported := inspected.2.2.grows (fun _ _ _ _ => trivial) (executionRules.trans further beyond)
  split
  · rename_i empty
    apply keeps_observeNew kept place inspected.1 inspected.2.1 reported _ endures
    apply surveyed.1.mono
    intro record among observes
    have member : record ∈ sessions.filter (·.names operationId) :=
      mem_filter.mpr ⟨among, by simp [names, observes]⟩
    rw [empty] at member
    cases member
  · rename_i session single
    have among : session ∈ sessions.filter (·.names operationId) := by
      rw [single]
      exact mem_singleton.mpr rfl
    exact keeps_observeStored kept (surveyed.2 session (mem_filter.mp among).1) place endures
  · exact keeps_refuse (refused rfl)

end Calls
end PlanWeave.WorkspaceExecution
