import PlanWeave.WorkspaceExecution.SessionLaw

namespace PlanWeave.WorkspaceExecution
open List

structure OperationObservation.Describes (report : OperationObservation) (handle : RemoteHandle) : Prop where
  revision : report.diagnostics.map (·.revision) = some handle.operationRevision
  attempt : handle.executionAttemptId = some report.executionAttemptId
  version : handle.attemptStateVersion = some report.attempt.stateVersion

structure OperationObservation.Precedes (old new : OperationObservation) : Prop where
  revision : ∀ before after, old.diagnostics = some before → new.diagnostics = some after → before.revision ≤ after.revision
  version : old.executionAttemptId = new.executionAttemptId → old.attempt.stateVersion ≤ new.attempt.stateVersion

namespace ServerOperation

structure Extends (operation next : ServerOperation) : Prop where
  key : next.key = operation.key
  blockRef : next.blockRef = operation.blockRef
  reports : operation.reports <+: next.reports
  interactions : ∀ old ∈ operation.interactions, ∃ new ∈ next.interactions,
    new.key = old.key ∧ new.request = old.request ∧ (old.status = .pending ∨ new = old)

structure Valid (operationId : String) (operation : ServerOperation) : Prop where
  known : operation.reports ≠ []
  ordered : operation.reports.Pairwise OperationObservation.Precedes
  named : ∀ report ∈ operation.reports, report.operationId = operationId ∧ report.blockRef = operation.blockRef
  distinct : (operation.interactions.map InteractionView.key).Nodup

end ServerOperation

namespace ExecutionStore
variable (store : ExecutionStore)

/-- Where the handle of a record comes from: an operation of its scope that it was created for, or that it observes. -/
structure Origin (record : SessionRecord) (handle : RemoteHandle) (operation : ServerOperation) : Prop where
  found : store.operations.get? handle.operationId = some operation
  reported : ∃ report ∈ operation.reports, report.Describes handle
  place : operation.blockRef = record.blockRef
  reason : (∃ intent, record.dispatchIntent = some intent ∧ operation.key = some intent.idempotencyKey) ∨
    record.observedOperationId = some handle.operationId

/-- The server has shown the interaction so, and may have settled or expired it since if it was pending. -/
def ShownBy (operationId : String) (view : InteractionView) : Prop :=
  ∃ operation current, store.operations.get? operationId = some operation ∧ current ∈ operation.interactions ∧
    current.key = view.key ∧ current.request = view.request ∧ (view.status = .pending ∨ current = view)

def Shown (view : InteractionView) : Prop := store.ShownBy view.operationId view

def Guarded : Prop := ∀ entry ∈ store.dispatches, entry.locked = true

def creations (blockRef : String) : List SessionWrite :=
  store.writes.filter fun write => write.before.isNone && write.after.blockRef = blockRef

structure Valid : Prop where
  lawful : History.Lawful WriteLaw store.writes
  stored : ∀ sessionId, store.sessions.get? sessionId =
    (History.latest SessionWrite.session store.writes sessionId).map (·.after)
  numbered : ∀ write ∈ store.writes, write.session < store.nextSession
  server : ∀ operationId operation, store.operations.get? operationId = some operation → operation.Valid operationId
  keyed : ∀ operationId operation other another key, store.operations.get? operationId = some operation →
    store.operations.get? other = some another → operation.key = some key → another.key = some key → operationId = other
  placed : ∀ operationId operation key, store.operations.get? operationId = some operation → operation.key = some key →
    ∃ entry ∈ store.dispatches, entry.intent.idempotencyKey = key ∧ entry.intent.blockRef = operation.blockRef
  origin : ∀ write ∈ store.writes, ∀ handle, write.after.handle = some handle → ∃ operation, store.Origin write.after handle operation
  shown : ∀ write ∈ store.writes, ∀ view ∈ write.cause.page, store.Shown view
  watched : ∀ write ∈ store.writes, ∀ operationId, write.after.observedOperationId = some operationId →
    ∃ operation, store.operations.get? operationId = some operation ∧ operation.blockRef = write.after.blockRef
  apart : store.writes.Pairwise fun earlier later => later.before = none → earlier.after.blockRef = later.after.blockRef →
    ∀ operationId operation intent, earlier.after.observedOperationId = some operationId →
    store.operations.get? operationId = some operation → later.after.dispatchIntent = some intent →
    operation.key ≠ some intent.idempotencyKey
  dispatched : ∀ entry ∈ store.dispatches, ∃ write ∈ store.writes, write.session = entry.sessionId ∧
    write.after.dispatchIntent = some entry.intent
  single : store.Guarded → ∀ entry ∈ store.dispatches, entry.handle = none
  sent : ∀ sent ∈ store.responses, ∃ write ∈ store.writes, write.session = sent.sessionId ∧
    write.after.Intends sent.key sent.response

structure Grows (later : ExecutionStore) : Prop where
  writes : store.writes <+: later.writes
  dispatches : store.dispatches <+: later.dispatches
  responses : store.responses <+: later.responses
  sessions : store.nextSession ≤ later.nextSession
  operations : ∀ operationId operation, store.operations.get? operationId = some operation →
    ∃ next, later.operations.get? operationId = some next ∧ operation.Extends next

/-- What the others leave alone: the locks of the caller, and the sessions and dispatches of a scope that it has locked. -/
structure Spares (caller : Nat) (store later : ExecutionStore) : Prop where
  locks : ∀ blockRef, later.locks.get? blockRef = some caller ↔ store.locks.get? blockRef = some caller
  creations : ∀ blockRef, store.locks.get? blockRef = some caller → later.creations blockRef = store.creations blockRef
  guarded : later.Guarded → store.Guarded
  operations : later.Guarded → ∀ blockRef, store.locks.get? blockRef = some caller → ∀ operationId operation key,
    later.operations.get? operationId = some operation → operation.key = some key → operation.blockRef = blockRef →
    ∃ old, store.operations.get? operationId = some old ∧ old.key = some key ∧ old.blockRef = blockRef

end ExecutionStore

theorem ServerOperation.Extends.refl (operation : ServerOperation) : operation.Extends operation :=
  ⟨rfl, rfl, prefix_refl _, fun old member => ⟨old, member, rfl, rfl, .inr rfl⟩⟩

theorem ServerOperation.Extends.trans {first second third : ServerOperation} (before : first.Extends second)
    (after : second.Extends third) : first.Extends third where
  key := after.key.trans before.key
  blockRef := after.blockRef.trans before.blockRef
  reports := before.reports.trans after.reports
  interactions old member := by
    obtain ⟨middle, reached, key, request, still⟩ := before.interactions old member
    obtain ⟨last, ended, later, asked, kept⟩ := after.interactions middle reached
    refine ⟨last, ended, later.trans key, asked.trans request, ?_⟩
    rcases still with pending | same
    · exact .inl pending
    · rw [same] at kept
      exact kept

namespace ExecutionStore
variable {store later : ExecutionStore} {record : SessionRecord} {handle : RemoteHandle} {operation : ServerOperation}
  {view : InteractionView} {caller : Nat}

theorem Grows.refl (store : ExecutionStore) : store.Grows store :=
  ⟨prefix_refl _, prefix_refl _, prefix_refl _, Nat.le_refl _,
    fun _ operation found => ⟨operation, found, .refl operation⟩⟩

variable {first second third : ExecutionStore}

theorem Grows.trans (before : first.Grows second) (after : second.Grows third) :
    first.Grows third where
  writes := before.writes.trans after.writes
  dispatches := before.dispatches.trans after.dispatches
  responses := before.responses.trans after.responses
  sessions := Nat.le_trans before.sessions after.sessions
  operations operationId operation found := by
    obtain ⟨middle, reached, first⟩ := before.operations operationId operation found
    obtain ⟨last, ended, second⟩ := after.operations operationId middle reached
    exact ⟨last, ended, first.trans second⟩

theorem Spares.refl (caller : Nat) (store : ExecutionStore) : Spares caller store store :=
  ⟨fun _ => Iff.rfl, fun _ _ => rfl, id, fun _ _ _ _ operation _ found key place => ⟨operation, found, key, place⟩⟩

theorem Spares.trans (before : Spares caller first second)
    (after : Spares caller second third) : Spares caller first third where
  locks blockRef := (after.locks blockRef).trans (before.locks blockRef)
  creations blockRef held :=
    (after.creations blockRef ((before.locks blockRef).mpr held)).trans (before.creations blockRef held)
  guarded all := before.guarded (after.guarded all)
  operations all blockRef held operationId operation key found keyed place := by
    have still := (before.locks blockRef).mpr held
    obtain ⟨middle, reached, same, there⟩ := after.operations all blockRef still operationId operation key found keyed place
    exact before.operations (after.guarded all) blockRef held operationId middle key reached same there

theorem Origin.grows (origin : store.Origin record handle operation) (grows : store.Grows later) :
    ∃ next, later.Origin record handle next := by
  obtain ⟨next, found, extends_⟩ := grows.operations handle.operationId operation origin.found
  obtain ⟨report, member, describes⟩ := origin.reported
  refine ⟨next, found, ⟨report, extends_.reports.subset member, describes⟩, extends_.blockRef.trans origin.place, ?_⟩
  rw [extends_.key]
  exact origin.reason

theorem ShownBy.grows {operationId : String} (shown : store.ShownBy operationId view) (grows : store.Grows later) :
    later.ShownBy operationId view := by
  obtain ⟨operation, current, found, member, key, request, still⟩ := shown
  obtain ⟨next, reached, extends_⟩ := grows.operations operationId operation found
  obtain ⟨new, ended, same, asked, kept⟩ := extends_.interactions current member
  refine ⟨next, new, reached, ended, same.trans key, asked.trans request, ?_⟩
  rcases still with pending | equal
  · exact .inl pending
  · rcases kept with waits | unchanged
    · exact .inl (equal ▸ waits)
    · exact .inr (unchanged.trans equal)

theorem Shown.grows (shown : store.Shown view) (grows : store.Grows later) : later.Shown view := ShownBy.grows shown grows

theorem Guarded.before (guarded : later.Guarded) (grows : store.Grows later) : store.Guarded :=
  fun entry member => guarded entry (grows.dispatches.subset member)

theorem Valid.kept (valid : store.Valid) (grows : store.Grows later) (writes : later.writes = store.writes)
    (sessions : later.sessions = store.sessions) (dispatches : later.dispatches = store.dispatches)
    (responses : later.responses = store.responses)
    (server : ∀ operationId operation, later.operations.get? operationId = some operation → operation.Valid operationId)
    (keyed : ∀ operationId operation key, later.operations.get? operationId = some operation → operation.key = some key →
      ∃ old, store.operations.get? operationId = some old ∧ old.key = some key ∧ old.blockRef = operation.blockRef) :
    later.Valid where
  lawful := writes ▸ valid.lawful
  stored sessionId := by rw [sessions, writes, valid.stored]
  numbered write member := Nat.lt_of_lt_of_le (valid.numbered write (writes ▸ member)) grows.sessions
  server := server
  keyed operationId operation other another key found present named same := by
    obtain ⟨old, was, key, _⟩ := keyed operationId operation key found named
    obtain ⟨before, stood, also, _⟩ := keyed other another _ present same
    exact valid.keyed operationId old other before _ was stood key also
  placed operationId operation key found named := by
    obtain ⟨old, was, key, place⟩ := keyed operationId operation key found named
    rw [dispatches, ← place]
    exact valid.placed operationId old _ was key
  origin write member handle held := by
    obtain ⟨_, origin⟩ := valid.origin write (writes ▸ member) handle held
    exact origin.grows grows
  shown write member view among := (valid.shown write (writes ▸ member) view among).grows grows
  watched write member operationId observes := by
    obtain ⟨operation, found, place⟩ := valid.watched write (writes ▸ member) operationId observes
    obtain ⟨next, reached, extends_⟩ := grows.operations operationId operation found
    exact ⟨next, reached, extends_.blockRef.trans place⟩
  apart := by
    rw [writes]
    apply valid.apart.imp
    intro earlier later free new place operationId operation intent observes found intends named
    obtain ⟨old, was, key, _⟩ := keyed operationId operation _ found named
    exact free new place operationId old intent observes was intends key
  dispatched entry member := by
    rw [writes]
    exact valid.dispatched entry (dispatches ▸ member)
  single guarded entry member := valid.single (guarded.before grows) entry (dispatches ▸ member)
  sent sent member := by
    rw [writes]
    exact valid.sent sent (responses ▸ member)

end ExecutionStore

def executionRules : Custody ExecutionStore where
  valid := ExecutionStore.Valid
  grows := ExecutionStore.Grows
  refl := .refl
  trans := .trans
  spares := ExecutionStore.Spares
  spares_refl := .refl
  spares_trans := .trans

end PlanWeave.WorkspaceExecution
