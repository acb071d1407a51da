import PlanWeave.WorkspaceExecution.EvidenceSafety

namespace PlanWeave.WorkspaceExecution
open History List OrderedMap

namespace ExecutionStore
variable {store later : ExecutionStore} {caller : Nat} {blockRef : String} {fits weaker : SessionRecord → Prop}
  {first second : SessionRecord}

/-- The caller holds the lock of the scope, and each session of it has had a record that fits. -/
structure Surveyed (caller : Nat) (blockRef : String) (fits : SessionRecord → Prop) (store : ExecutionStore) : Prop where
  held : store.locks.get? blockRef = some caller
  all : ∀ write ∈ store.creations blockRef, ∃ record, store.Known record ∧ record.sessionId = write.session ∧ fits record

theorem Surveyed.mono (surveyed : Surveyed caller blockRef fits store) (implies : ∀ record, fits record → weaker record) :
    Surveyed caller blockRef weaker store :=
  ⟨surveyed.held, fun write member => (surveyed.all write member).imp fun record facts =>
    ⟨facts.1, facts.2.1, implies record facts.2.2⟩⟩

theorem Surveyed.stays (surveyed : Surveyed caller blockRef fits store) (between : executionRules.Rely caller store later) :
    Surveyed caller blockRef fits later := by
  have spares : Spares caller store later := between.spares
  refine ⟨(spares.locks blockRef).mpr surveyed.held, fun write member => ?_⟩
  rw [spares.creations blockRef surveyed.held] at member
  obtain ⟨record, known, session, holds⟩ := surveyed.all write member
  exact ⟨record, known.grows between.grows, session, holds⟩

theorem created_of_lawful {log : List SessionWrite} (lawful : History.Lawful WriteLaw log) :
    ∀ write ∈ log, ∃ first ∈ log, first.before = none ∧ first.session = write.session ∧
      first.after.blockRef = write.after.blockRef := by
  induction lawful with
  | nil => exact fun _ member => absurd member not_mem_nil
  | @snoc _ _ _ follows ih =>
    intro write member
    rcases mem_append.mp member with earlier | final
    · obtain ⟨first, before, facts⟩ := ih write earlier
      exact ⟨first, mem_append_left _ before, facts⟩
    rw [mem_singleton.mp final]
    cases follows with
    | creation => exact ⟨_, mem_append_right _ (mem_singleton.mpr rfl), rfl, rfl, rfl⟩
    | @patch _ _ _ present law =>
      obtain ⟨last, found, same⟩ := Option.map_eq_some_iff.mp present
      have spec := latest_spec found
      obtain ⟨first, known, new, session, place⟩ := ih last spec.1
      refine ⟨first, mem_append_left _ known, new, ?_, ?_⟩
      · rw [session, spec.2]
        exact law.sessionId.symm
      · rw [place, same]
        exact law.blockRef.symm

variable {write : SessionWrite}

theorem Valid.creation (valid : store.Valid) (member : write ∈ store.writes) :
    ∃ first ∈ store.creations write.after.blockRef, first.session = write.session := by
  obtain ⟨first, known, new, session, place⟩ := created_of_lawful valid.lawful write member
  refine ⟨first, mem_filter.mpr ⟨known, ?_⟩, session⟩
  simp [new, place]

theorem Valid.same_session (valid : store.Valid) (known : store.Known first) (also : store.Known second)
    (session : first.sessionId = second.sessionId) : first.dispatchIntent = second.dispatchIntent ∧
      first.observedOperationId = second.observedOperationId ∧ first.blockRef = second.blockRef := by
  obtain ⟨write, member, same⟩ := known
  obtain ⟨last, found⟩ := exists_latest SessionWrite.session member
  have stands : store.sessions.get? first.sessionId = some last.after := by
    rw [valid.stored, ← same]
    exact congrArg (Option.map (·.after)) found
  have one := valid.current_leads ⟨write, member, same⟩ stands
  have two := valid.current_leads also (session ▸ stands)
  exact ⟨one.intent.symm.trans two.intent, one.observed.symm.trans two.observed, one.blockRef.symm.trans two.blockRef⟩

theorem Valid.same_operation (valid : store.Valid) (known : store.Known first) (also : store.Known second)
    (session : first.sessionId = second.sessionId) {handle next : RemoteHandle} (held : first.handle = some handle)
    (holds : second.handle = some next) : handle.operationId = next.operationId := by
  obtain ⟨operation, one⟩ := valid.originOf known held
  obtain ⟨other, two⟩ := valid.originOf also holds
  have same := valid.same_session known also session
  rcases one.reason with ⟨intent, intends, keyed⟩ | observes
  · rcases two.reason with ⟨_, intended, named⟩ | observed
    · rw [← same.1, intends] at intended
      cases intended
      exact valid.keyed handle.operationId operation next.operationId other _ one.found two.found keyed named
    · rw [← same.2.1, (valid.intended known intends).1] at observed
      cases observed
  · rcases two.reason with ⟨_, intends, _⟩ | observed
    · rw [same.2.1, (valid.intended also intends).1] at observes
      cases observes
    · rw [← same.2.1, observes] at observed
      exact Option.some.inj observed

theorem Surveyed.of_write (surveyed : Surveyed caller blockRef fits store) (valid : store.Valid)
    (member : write ∈ store.writes) (place : write.after.blockRef = blockRef) :
    ∃ record, store.Known record ∧ record.sessionId = write.session ∧ fits record ∧
      record.dispatchIntent = write.after.dispatchIntent ∧ record.observedOperationId = write.after.observedOperationId := by
  obtain ⟨first, among, session⟩ := valid.creation member
  rw [place] at among
  obtain ⟨record, known, same, holds⟩ := surveyed.all first among
  have equal := valid.same_session known ⟨write, member, rfl⟩ (same.trans session)
  exact ⟨record, known, same.trans session, holds, equal.1, equal.2.1⟩

def Unkeyed (key : String) (record : SessionRecord) : Prop :=
  ∀ intent, record.dispatchIntent = some intent → intent.idempotencyKey ≠ key

theorem Surveyed.undispatched {key : String} (surveyed : Surveyed caller blockRef (Unkeyed key) store) (valid : store.Valid) :
    Undispatched caller key blockRef store := by
  intro _ _ operationId operation found keyed place
  obtain ⟨entry, dispatched, same, scope⟩ := valid.placed operationId operation key found keyed
  obtain ⟨write, member, _, intends⟩ := valid.dispatched entry dispatched
  have spec := valid.intended ⟨write, member, rfl⟩ intends
  obtain ⟨_, _, _, free, intent, _⟩ :=
    surveyed.of_write valid member (spec.2.symm.trans (scope.trans place))
  exact free entry.intent (intent.trans intends) same

end ExecutionStore

section Quiet
variable (ports : CallPorts)

theorem quiet_demand {holds : Bool} {site : Site} {error : ExecutionError} : (demand holds site error).Quiet := by
  cases holds <;> exact trivial

theorem quiet_getSession (sessionId : Nat) : (getSession ports sessionId).Quiet := ⟨Process.quiet_observe, trivial⟩

theorem quiet_readSessions (ids : List Nat) : (readSessions ports ids).Quiet := by
  induction ids with
  | nil => exact trivial
  | cons sessionId _ ih =>
    apply (quiet_getSession ports sessionId).bind
    intro record
    exact ih.bind fun _ => trivial

theorem quiet_listSessions : (listSessions ports).Quiet := by
  have first : ((Process.observe fun store : ExecutionStore => .ok store.sessions.keys).orFail
      (ports.fails .sessions)).Quiet := ⟨Process.quiet_observe, trivial⟩
  exact first.bind (quiet_readSessions ports)

theorem quiet_findScopedSession (bindingId blockRef : String) : (findScopedSession ports bindingId blockRef).Quiet := by
  apply (quiet_listSessions ports).bind
  intro sessions
  split
  · exact trivial
  · exact quiet_demand.bind fun _ => trivial

end Quiet

section Scopes
variable {caller : Nat} {thrown : Failure → Prop} {store : ExecutionStore} (ports : CallPorts) {blockRef : String}

theorem keeps_readSessions (ids : List Nat) (valid : store.Valid) (failed : thrown (ports.fails .sessions)) :
    Keeps caller (fun sessions last => (∀ record ∈ sessions, last.Known record) ∧ sessions.map (·.sessionId) = ids.reverse)
      thrown (readSessions ports ids) store := by
  induction ids generalizing store with
  | nil => exact fun _ _ => ⟨fun _ member => absurd member not_mem_nil, rfl⟩
  | cons _ _ ih =>
    apply (keeps_getSession ports failed).bind valid
    intro record last holds _ read
    apply (ih holds).bind holds
    intro others final _ further known later between
    constructor
    · intro other member
      rcases mem_append.mp member with among | same
      · exact (known.1 other among).grows between.grows
      · rw [mem_singleton.mp same]
        exact read.known.grows (executionRules.trans further between.grows)
    · rw [map_append, known.2, reverse_cons, map_singleton, read.session]

theorem keeps_listSessions (valid : store.Valid) (failed : thrown (ports.fails .sessions)) :
    Keeps caller (fun sessions last => (∀ record ∈ sessions, last.Known record) ∧
      ∀ write ∈ store.writes, ∃ record ∈ sessions, record.sessionId = write.session) thrown (listSessions ports) store := by
  have listed : Keeps caller (fun ids last => ∀ write ∈ store.writes, write.session ∈ ids) thrown
      ((Process.observe fun store : ExecutionStore => .ok store.sessions.keys).orFail (ports.fails .sessions)) store := by
    apply Custody.Safe.orFail
    · apply Custody.safe_observe
      · intro seen between ids looked last _ write member
        cases looked
        rw [← has_iff, OrderedMap.has, between.valid.stored]
        obtain ⟨_, found⟩ := exists_latest SessionWrite.session (between.grows.writes.subset member)
        rw [found]
        rfl
      · intro _ _ _ looked _ _
        cases looked
    · exact fun _ _ => failed
  apply listed.bind valid
  intro ids last holds _ complete
  apply (keeps_readSessions ports ids holds failed).mono
  · intro sessions final _ read
    refine ⟨read.1, fun write member => ?_⟩
    have among := complete write member
    rw [← mem_reverse, ← read.2] at among
    exact mem_map.mp among
  · exact fun _ _ _ kept => kept

theorem keeps_survey (valid : store.Valid) (held : store.locks.get? blockRef = some caller)
    (failed : thrown (ports.fails .sessions)) :
    Keeps caller (fun sessions last => ExecutionStore.Surveyed caller blockRef (· ∈ sessions) last ∧
      ∀ record ∈ sessions, last.Known record) thrown (listSessions ports) store := by
  apply ((keeps_listSessions ports valid failed).quiet (quiet_listSessions ports) valid).mono
  · intro sessions last _ listed
    have spares : ExecutionStore.Spares caller store last := listed.1.spares
    refine ⟨⟨(spares.locks blockRef).mpr held, fun write member => ?_⟩, listed.2.1⟩
    rw [spares.creations blockRef held] at member
    obtain ⟨record, among, session⟩ := listed.2.2 write (mem_filter.mp member).1
    exact ⟨record, listed.2.1 record among, session, among⟩
  · exact fun _ _ _ kept => kept

theorem keeps_acquireScope (count : Nat) (unfinished : thrown .unfinished) :
    Keeps caller (fun _ last => last.locks.get? blockRef = some caller) thrown (acquireScope caller blockRef count) store := by
  induction count generalizing store with
  | zero => exact fun _ _ => unfinished
  | succ _ ih =>
    intro last between
    refine ⟨ExecutionStore.acquire_moves between.valid blockRef, ?_⟩
    by_cases taken : last.locks.has blockRef = true
    · simp only [taken, if_true]
      exact ih
    simp only [taken, Bool.false_eq_true, if_false]
    intro later further
    have spares : ExecutionStore.Spares caller _ later := further.spares
    rw [spares.locks blockRef]
    exact get?_set_self _ _ _

theorem keeps_withScopeLock {α : Type} {body : ExecutionProgram α} (valid : store.Valid) (unfinished : thrown .unfinished)
    (goes : ∀ last, last.Valid → store.Grows last → last.locks.get? blockRef = some caller →
      Keeps caller (fun _ _ => True) thrown body last) :
    Keeps caller (fun _ _ => True) thrown (withScopeLock ports caller blockRef body) store := by
  apply (keeps_acquireScope ports.rounds unfinished).bind valid
  intro _ last holds further held
  apply (goes last holds further held).ensuring holds
  · exact fun last kept => ExecutionStore.release_moves kept
  · exact fun _ _ _ _ _ => trivial
  · exact fun _ _ failed _ _ => failed

variable {bindingId key : String}

theorem keeps_findScopedSession (valid : store.Valid) (held : store.locks.get? blockRef = some caller)
    (tolerates : Tolerates thrown) :
    Keeps caller (fun result last => (∀ session, result = some session → last.Known session ∧ session.blockRef = blockRef) ∧
      (result = none → ExecutionStore.Surveyed caller blockRef
        (fun record => record.blockRef = blockRef → record.phase.terminal = true) last)) thrown
      (findScopedSession ports bindingId blockRef) store := by
  apply (keeps_survey ports valid held (tolerates.refused _ _ rfl)).bind valid
  intro sessions last _ _ surveyed
  cases found : sessions.find? fun session => !session.phase.terminal && session.blockRef = blockRef with
  | none =>
    refine fun later between => ⟨fun _ absurd_ => (by cases absurd_), fun _ => (surveyed.1.mono ?_).stays between⟩
    intro record among place
    have closed := find?_eq_none.mp found record among
    simpa [place] using closed
  | some session =>
    apply keeps_demand (tolerates.refused _ _ rfl)
    intro _ later between
    refine ⟨fun other same => ?_, fun absurd_ => by cases absurd_⟩
    cases same
    have spec := find?_some found
    simp only [Bool.and_eq_true, decide_eq_true_eq] at spec
    exact ⟨(surveyed.2 session (mem_of_find?_eq_some found)).grows between.grows, spec.2⟩

theorem keeps_sessionOfKey (valid : store.Valid) (held : store.locks.get? blockRef = some caller) (tolerates : Tolerates thrown) :
    Keeps caller (fun result last => result = none →
      ExecutionStore.Surveyed caller blockRef (ExecutionStore.Unkeyed key) last) thrown (sessionOfKey ports key) store := by
  apply (keeps_survey ports valid held (tolerates.refused _ _ rfl)).bind valid
  intro sessions last _ _ surveyed
  split
  · rename_i empty
    refine fun later between _ => (surveyed.1.mono ?_).stays between
    intro record among intent intends same
    have kept : record ∈ sessions.filter fun session => session.dispatchIntent.any (·.idempotencyKey = key) :=
      mem_filter.mpr ⟨among, by simp [intends, same]⟩
    rw [empty] at kept
    cases kept
  · exact fun _ _ absurd_ => by cases absurd_
  · exact keeps_refuse (tolerates.refused _ _ rfl)

theorem keeps_freshKey (held : store.locks.get? blockRef = some caller) (unfinished : thrown .unfinished) :
    Keeps caller (fun key last => ExecutionStore.Surveyed caller blockRef (ExecutionStore.Unkeyed key) last) thrown
      (freshKey ports) store := by
  apply Custody.safe_observe
  · intro seen between key looked last further
    split at looked
    · cases looked
    rename_i unused
    cases looked
    have spares : ExecutionStore.Spares caller store seen := between.spares
    refine ExecutionStore.Surveyed.stays ⟨(spares.locks blockRef).mpr held, fun write member => ?_⟩ further
    obtain ⟨last, found⟩ := exists_latest SessionWrite.session (mem_filter.mp member).1
    have spec := latest_spec found
    refine ⟨last.after, ⟨last, spec.1, rfl⟩, spec.2, fun intent intends same => unused ?_⟩
    have stands : seen.sessions.get? write.session = some last.after := by
      rw [between.valid.stored, found]
      rfl
    rw [any_eq_true]
    exact ⟨last.after, (mem_values _).mpr ⟨_, stands⟩, by simp [intends, same]⟩
  · intro _ _ _ looked _ _
    split at looked
    · cases looked
      exact unfinished
    · cases looked

theorem keeps_createSession {cause : WriteCause} {state : SessionState} {holds : ExecutionStore → Prop}
    (fit : state.valid = true) (place : state.binding.blockRef = blockRef) (unhandled : state.handle = none)
    (empty : state.interactions = ∅) (held : store.locks.get? blockRef = some caller)
    (reason : ∀ later sessionId, executionRules.Rely caller store later → CreationReason later.writes
      { newSession blockRef state with sessionId, stateVersion := 1 } cause)
    (page : cause.page = []) (watched : ∀ later operationId, executionRules.Rely caller store later →
      state.observedOperationId = some operationId → ∃ operation, later.operations.get? operationId = some operation ∧
        operation.blockRef = blockRef) (carries : ∀ later last, executionRules.Rely caller store later →
      executionRules.Rely caller (later.createSession cause (newSession blockRef state)) last → holds last)
    (failed : thrown (ports.fails .sessions)) :
    Keeps caller (fun session last => last.Known session ∧ session.workspaceExecution = some state ∧
      session.blockRef = blockRef ∧ holds last) thrown (createSession ports cause (newSession blockRef state)) store := by
  have moves : ∀ last, executionRules.Rely caller store last → executionRules.Moves caller last
      (last.createSession cause (newSession blockRef state)) := by
    intro last between
    have spares : ExecutionStore.Spares caller store last := between.spares
    have law : CreationLaw last.writes cause
        { newSession blockRef state with sessionId := last.nextSession, stateVersion := 1 } := by
      refine ⟨fun write member same => ?_, rfl, ?_, ?_, ⟨state, rfl, fit, place⟩, reason last last.nextSession between⟩
      · have below := between.valid.numbered write member
        rw [same] at below
        exact Nat.lt_irrefl _ below
      · simp [SessionRecord.handle, newSession, unhandled]
      · simp [SessionRecord.interactions, newSession, empty]
    apply ExecutionStore.write_moves between.valid (.creation law) (Nat.lt_succ_self _) (Nat.le_succ _)
    · intro handle present
      rw [law.handle] at present
      cases present
    · rw [page]
      exact fun _ among => absurd among not_mem_nil
    · exact fun operationId observes => watched last operationId between observes
    · exact fun _ => (spares.locks blockRef).mpr held
  refine ⟨⟨fun last between => ⟨moves last between, fun final further => ?_⟩, fun _ _ => failed⟩,
    fun last between => ⟨moves last between, fun _ _ => failed⟩⟩
  refine ⟨ExecutionStore.Known.grows ⟨_, mem_append_right _ (mem_singleton.mpr rfl), rfl⟩ further.grows, rfl, rfl, ?_⟩
  exact carries last final between further

end Scopes
end PlanWeave.WorkspaceExecution
