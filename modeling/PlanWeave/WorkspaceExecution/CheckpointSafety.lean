import PlanWeave.WorkspaceExecution.SessionPrograms

namespace PlanWeave.WorkspaceExecution
open List SessionRecord

def Site.ofEvidence : Site → Bool
  | replay | interactions | evidence | diagnostics => true
  | _ => false

structure Tolerates (thrown : Failure → Prop) : Prop where
  unfinished : thrown .unfinished
  refused : ∀ site error, site.ofEvidence = false → thrown (.refused site error)

theorem Tolerates.refuse {thrown : Failure → Prop} (tolerates : Tolerates thrown) {site : Site} {error : ExecutionError}
    (away : site.ofEvidence = false) : thrown (.refused site error) := tolerates.refused _ _ away

variable {error : ExecutionError} {snapshot : AdapterSnapshot}

section States
variable {state next : SessionState} {binding : RemoteBinding} {intent : Option DispatchIntent} {handle : Option RemoteHandle}
  {previous : Option SessionState} {observed : Option String}

theorem parseState_ok (parsed : parseState state = .ok next) : next = state ∧ state.valid = true := by
  unfold parseState at parsed
  split at parsed
  · rename_i valid
    cases parsed
    exact ⟨rfl, valid⟩
  · cases parsed

theorem parseState_error (refused : parseState state = .error error) : error = invalidState ∧ state.valid = false := by
  unfold parseState at refused
  split at refused
  · cases refused
  · rename_i invalid
    cases refused
    exact ⟨rfl, Bool.eq_false_iff.mpr invalid⟩

theorem remoteSessionState_ok (made : remoteSessionState binding intent handle previous observed = .ok state) :
    state = ⟨binding, intent, observed, handle, (previous.map (·.interactions)).getD ∅,
      (previous.map (·.evidence)).getD ⟨.pending, []⟩⟩ ∧ state.valid = true := by
  have parsed := parseState_ok made
  rw [parsed.1]
  exact ⟨rfl, parsed.2⟩

theorem valid_terminalInteractions :
    SessionState.valid { state with interactions := terminalInteractions state.interactions } = state.valid := by
  have size : (terminalInteractions state.interactions).size = state.interactions.size := by
    simp [terminalInteractions, OrderedMap.size, OrderedMap.mapValues]
  simp only [SessionState.valid, size]

theorem valid_diagnostics (valid : state.valid = true) (fits : (diagnosticOf error).fits = true) : SessionState.valid
      { state with evidence := ⟨.incomplete, lastHundred (state.evidence.diagnostics ++ [diagnosticOf error])⟩ } = true := by
  simp only [SessionState.valid, Bool.and_eq_true, decide_eq_true_eq] at valid ⊢
  refine ⟨⟨valid.1.1, ?_⟩, ?_⟩
  · simp only [lastHundred, length_drop]
    omega
  rw [all_eq_true]
  intro diagnostic member
  rcases mem_append.mp (mem_of_mem_drop member) with earlier | new
  · exact all_eq_true.mp valid.2 diagnostic earlier
  · rw [mem_singleton.mp new]
    exact fits

end States

namespace ExecutionStore
variable {store : ExecutionStore} {record other : SessionRecord} {handle : RemoteHandle}
  {operation : ServerOperation}

theorem Valid.bound (valid : store.Valid) (known : store.Known record) : record.Bound := by
  obtain ⟨write, member, rfl⟩ := known
  exact records_bound valid.lawful write member

theorem Origin.leads (origin : store.Origin record handle operation) (leads : record.Leads other) :
    store.Origin other handle operation where
  found := origin.found
  reported := origin.reported
  place := origin.place.trans leads.blockRef.symm
  reason := by
    rw [leads.intent, leads.observed]
    exact origin.reason

theorem Valid.originOf (valid : store.Valid) (known : store.Known record) (held : record.handle = some handle) :
    ∃ operation, store.Origin record handle operation := by
  obtain ⟨write, member, rfl⟩ := known
  exact valid.origin write member handle held

end ExecutionStore

structure Observed (store : ExecutionStore) (binding : RemoteBinding) (original : SessionRecord) (snapshot : AdapterSnapshot) :
    Prop where
  place : binding.blockRef = original.blockRef
  origin : ∃ operation, store.Origin original snapshot.handle operation
  cursor : snapshot.handle.eventCursor = original.carriedCursor snapshot.handle.executionAttemptId

theorem Observed.grows {store later : ExecutionStore} {binding : RemoteBinding} {original : SessionRecord}
    (observed : Observed store binding original snapshot) (grows : store.Grows later) :
    Observed later binding original snapshot :=
  ⟨observed.place, observed.origin.elim fun _ origin => origin.grows grows, observed.cursor⟩

section Rounds
variable {caller : Nat} {base : ExecutionStore} {original : SessionRecord} {thrown : Failure → Prop}

theorem terminalPhase_terminal (terminal : Terminal) : (terminalPhase terminal).terminal = true := by
  cases terminal <;> rfl

variable {current : SessionRecord}
variable {binding : RemoteBinding} {state next : SessionState} {cause : WriteCause} {store : ExecutionStore}
  {records : InteractionRecords}

theorem observation_patchLaw
    (now : Option Nat) (place : binding.blockRef = current.blockRef)
    (session : original.sessionId = current.sessionId)
    (cursor : snapshot.handle.eventCursor = original.carriedCursor snapshot.handle.executionAttemptId)
    (bound : current.Bound) (running : current.phase.terminal = false)
    (fresh : current.handle.any (observationSuperseded · snapshot) = false)
    (made : remoteSessionState binding current.dispatchIntent (some snapshot.handle) current.workspaceExecution
      current.observedOperationId = .ok state) :
    PatchLaw (.observation original snapshot) current (current.patched (observedRecord state snapshot now)) := by
  have spec := remoteSessionState_ok made
  obtain ⟨_, present, _, _⟩ := bound
  have interactions : state.interactions = current.interactions := by
    rw [spec.1]
    simp [SessionRecord.interactions, present]
  cases terminal : snapshot.terminal.terminal with
  | true =>
    refine ⟨rfl, rfl, rfl, ?_, ?_, ⟨{ state with interactions := terminalInteractions state.interactions }, ?_, ?_, ?_⟩,
      ⟨running, fresh, ?_, ?_, ?_, cursor, session⟩⟩
    · simp [patched, observedRecord, terminal, dispatchIntent, spec.1]
    · simp [patched, observedRecord, terminal, observedOperationId, spec.1]
    · simp [patched, observedRecord, terminal]
    · rw [valid_terminalInteractions]
      exact spec.2
    · rw [spec.1]
      exact place
    · simp [patched, observedRecord, terminal, SessionRecord.handle, spec.1]
    · rw [← interactions]
      simp [patched, observedRecord, terminal, SessionRecord.interactions]
    · simp [patched, observedRecord, terminal, terminalPhase_terminal]
  | false =>
    refine ⟨rfl, rfl, rfl, ?_, ?_, ⟨state, ?_, spec.2, ?_⟩, ⟨running, fresh, ?_, ?_, ?_, cursor, session⟩⟩
    · simp [patched, observedRecord, terminal, dispatchIntent, spec.1]
    · simp [patched, observedRecord, terminal, observedOperationId, spec.1]
    · simp [patched, observedRecord, terminal]
    · rw [spec.1]
      exact place
    · simp [patched, observedRecord, terminal, SessionRecord.handle, spec.1]
    · rw [← interactions]
      simp [patched, observedRecord, terminal, SessionRecord.interactions]
    · simp only [patched, observedRecord, terminal, Bool.false_eq_true, if_false]
      split <;> rfl

theorem observation_rounds (tolerates : Tolerates thrown)
    (observed : Observed base binding original snapshot) :
    Rounds caller base (.observation original snapshot) original (fun _ => True) thrown (observationPatch binding snapshot) := by
  intro current store valid grows known session leads
  unfold observationPatch
  split
  · exact fun _ _ => ⟨fun _ => trivial, fun _ absurd_ => by cases absurd_⟩
  rename_i goes
  simp only [Bool.or_eq_true, not_or, Bool.not_eq_true] at goes
  apply keeps_demand (tolerates.refused _ _ rfl)
  intro _
  apply keeps_checked fun _ _ => tolerates.refused _ _ rfl
  intro state made
  have allowed : ∀ now, store.Allowed (.observation original snapshot) current
      (current.patched (observedRecord state snapshot now)) := by
    intro now
    have law := observation_patchLaw now (observed.place.trans leads.blockRef.symm) session.symm observed.cursor
      (valid.bound known) goes.1 goes.2 made
    refine ⟨law, fun handle present => ?_, fun _ among => absurd among not_mem_nil⟩
    have follows : ObservationLaw original snapshot current _ := law.follows
    rw [follows.handle] at present
    cases present
    obtain ⟨operation, origin⟩ := (observed.grows grows).origin
    exact ⟨operation, (origin.leads leads).leads law.leads⟩
  have ends : ∀ now last, store.Grows last → Keeps caller (fun result last =>
      (result = none → True) ∧ ∀ patch, result = some patch →
        last.Allowed (.observation original snapshot) current (current.patched patch) ∧ True) thrown
      (pure (some (observedRecord state snapshot now))) last := by
    intro now last further final between
    refine ⟨fun _ => trivial, fun patch equal => ?_⟩
    cases equal
    exact ⟨(allowed now).grows (executionRules.trans further between.grows), trivial⟩
  split
  · have clock : Keeps caller (fun _ _ => True) thrown (some <$> readClock) store :=
      keeps_readClock.bind valid fun _ _ _ _ _ _ _ => trivial
    apply clock.bind valid
    exact fun now last _ further _ => ends now last further
  · exact ends none store (.refl store)

theorem interactions_patchLaw
    (bound : current.Bound) (present : current.workspaceExecution = some state) (valid : next.valid = true)
    (binding : next.binding = state.binding) (intent : next.dispatchIntent = state.dispatchIntent)
    (observed : next.observedOperationId = state.observedOperationId)
    (follows : cause.Follows current (current.patched (·.withState next))) :
    PatchLaw cause current (current.patched (·.withState next)) where
  sessionId := rfl
  stateVersion := rfl
  blockRef := rfl
  intent := by simp [dispatchIntent, patched, withState, present, intent]
  observed := by
    simp [observedOperationId, patched, withState, present, observed]
  bound := by
    obtain ⟨_, found, _, place⟩ := bound
    rw [found] at present
    cases present
    exact ⟨next, rfl, valid, (congrArg RemoteBinding.blockRef binding).trans place⟩
  follows := follows

theorem withState_interactionsLaw
    (present : current.workspaceExecution = some state) (handle : next.handle = state.handle) :
    InteractionsLaw next.interactions current (current.patched (·.withState next)) where
  handle := by simp [SessionRecord.handle, patched, withState, present, handle]
  interactions := rfl
  outcome := ⟨rfl, rfl, rfl⟩

theorem interactions_of_present
    (present : current.workspaceExecution = some state) : current.interactions = state.interactions := by
  simp [SessionRecord.interactions, present]

theorem allowed_of_interactionsLaw {after : SessionRecord}
    (valid : store.Valid) (known : store.Known current) (law : PatchLaw cause current after)
    (kept : InteractionsLaw records current after) (shown : ∀ view ∈ cause.page, store.Shown view) :
    store.Allowed cause current after where
  law := law
  origin handle present := by
    rw [kept.handle] at present
    obtain ⟨operation, origin⟩ := valid.originOf known present
    exact ⟨operation, origin.leads law.leads⟩
  shown := shown

theorem allowed_withState {made : SessionState}
    (valid : store.Valid) (known : store.Known current)
    (present : current.workspaceExecution = some state) (parsed : parseState made = .ok next)
    (only : { made with interactions := state.interactions, evidence := state.evidence } = state)
    (interactions : made.interactions = records)
    (follows : InteractionsLaw records current (current.patched (·.withState next)) →
      cause.Follows current (current.patched (·.withState next))) (shown : ∀ view ∈ cause.page, store.Shown view) :
    store.Allowed cause current (current.patched (·.withState next)) := by
  obtain ⟨rfl, accepted⟩ := parseState_ok parsed
  have kept : InteractionsLaw records current (current.patched (·.withState next)) := by
    rw [← interactions]
    exact withState_interactionsLaw present (by rw [← only])
  refine allowed_of_interactionsLaw valid known (interactions_patchLaw (valid.bound known) present accepted ?_ ?_ ?_
    (follows kept)) kept shown
  all_goals rw [← only]

theorem diagnostic_rounds (failed : (diagnosticOf error).fits = false → thrown (.refused .diagnostics invalidState)) :
    Rounds caller base (.diagnostic error) original (fun _ => True) thrown (diagnosticPatch error) := by
  intro current store valid _ known _ _
  obtain ⟨state, present, fit, -⟩ := valid.bound known
  unfold diagnosticPatch
  simp only [present]
  apply keeps_checked
  · intro reason refused
    have spec := parseState_error refused
    rw [spec.1]
    apply failed
    cases fits : (diagnosticOf error).fits with
    | false => rfl
    | true => exact absurd (valid_diagnostics fit fits) (Bool.eq_false_iff.mp spec.2)
  · intro next parsed last between
    refine ⟨fun _ => trivial, fun patch equal => ?_⟩
    cases equal
    exact ⟨allowed_withState between.valid (known.grows between.grows) present parsed rfl
      (interactions_of_present present).symm id fun _ among => absurd among not_mem_nil, trivial⟩

section
variable (tolerates : Tolerates thrown)
include tolerates

theorem interaction_rounds {view : InteractionView} (shown : base.Shown view) (settled : view.status = .settled) :
    Rounds caller base (.interaction view) original (fun _ => True) thrown (interactionPatch view) := by
  intro current store valid grows known _ _
  obtain ⟨state, present, -⟩ := valid.bound known
  unfold interactionPatch
  simp only [present]
  apply keeps_checked fun _ _ => tolerates.refused _ _ rfl
  intro next parsed last between
  refine ⟨fun _ => trivial, fun patch equal => ?_⟩
  cases equal
  have records : interactionRecords state.interactions [view] = interactionRecords current.interactions [view] := by
    rw [interactions_of_present present]
  refine ⟨allowed_withState between.valid (known.grows between.grows) present parsed rfl records
    (fun kept => ⟨kept, settled⟩) fun other among => ?_, trivial⟩
  rw [mem_singleton.mp among]
  exact shown.grows (executionRules.trans grows between.grows)

theorem interactions_rounds {handle : RemoteHandle} {page : List InteractionView} {now : Nat}
    (shown : ∀ view ∈ page, base.Shown view) :
    Rounds caller base (.interactions handle page now) original (fun _ => True) thrown
      (interactionsPatch handle (page.map (expireView now))) := by
  intro current store valid grows known _ _
  obtain ⟨state, present, -⟩ := valid.bound known
  unfold interactionsPatch
  simp only [present]
  apply keeps_demand (tolerates.refused _ _ rfl)
  intro _
  apply keeps_checked fun _ _ => tolerates.refused _ _ rfl
  intro next parsed last between
  refine ⟨fun _ => trivial, fun patch equal => ?_⟩
  cases equal
  refine ⟨allowed_withState between.valid (known.grows between.grows) present parsed rfl ?_ id
    fun view among => (shown view among).grows (executionRules.trans grows between.grows), trivial⟩
  rw [interactions_of_present present]

theorem responseIntent_rounds {ports : CallPorts} {handle : RemoteHandle} {key : InteractionIdentity} {intent : ResponseIntent}
    (asked : base.Shown ⟨key.operationId, intent.request, .pending, none⟩) :
    Rounds caller base (.responseIntent key intent) original (·.Intends key intent.response) thrown
      (responseIntentPatch ports handle key intent) := by
  intro current store valid grows known _ _
  obtain ⟨state, present, -⟩ := valid.bound known
  have records := interactions_of_present present
  have refused : ∀ error, thrown (.refused .coordinator error) := fun _ => tolerates.refused _ _ rfl
  apply keeps_unlessFails (refused _)
  simp only [present]
  cases found : state.interactions.get? key with
  | none => exact keeps_refuse (refused _)
  | some record =>
    apply keeps_demand (refused _)
    intro goes
    simp only [Bool.and_eq_true, decide_eq_true_eq, Bool.not_eq_true'] at goes
    cases stored : record.responseIntent with
    | some other =>
      apply keeps_demand (refused _)
      intro same
      have equal := of_decide_eq_true same
      intro last _
      refine ⟨fun _ => ⟨record, other, ?_, stored, by rw [equal]⟩, fun _ absurd_ => by cases absurd_⟩
      rw [records, found]
    | none =>
      have awaits : AwaitsResponse key intent current := by
        refine ⟨goes.1.1.2, ?_, ?_⟩
        · rw [records, found]
          cases record
          simp only at stored goes
          rw [stored, goes.1.1.1]
        · have same := goes.2
          rw [← same]
          rfl
      apply keeps_readClock.bind valid
      intro now later _ further _
      apply keeps_demand (refused _)
      intro _
      apply keeps_checked fun _ _ => refused _
      intro next parsed last between
      refine ⟨fun absurd_ => (by cases absurd_), fun patch equal => ?_⟩
      cases equal
      constructor
      · refine allowed_withState between.valid (known.grows (executionRules.trans further between.grows)) present parsed
          rfl ?_ (fun kept => ⟨kept, awaits⟩) fun view among => ?_
        · rw [records]
        · rw [mem_singleton.mp among]
          exact asked.grows (executionRules.trans grows (executionRules.trans further between.grows))
      · refine ⟨{ record with responseIntent := some intent }, intent, ?_, rfl, rfl⟩
        rw [show (current.patched (·.withState next)).interactions = next.interactions from rfl, (parseState_ok parsed).1]
        unfold setResponseIntent
        simp only [found]
        exact OrderedMap.get?_set_self _ _ _
end

theorem evidence_rounds {handle : RemoteHandle} {views : List InteractionView}
    (failed : thrown (.refused .evidence invalidState)) (origin : ∃ operation, base.Origin original handle operation)
    (shown : ∀ view ∈ views, base.Shown view) :
    Rounds caller base (.evidence handle views) original (fun _ => True) thrown (evidencePatch handle views) := by
  intro current store valid grows known _ leads
  obtain ⟨state, present, fit, place⟩ := valid.bound known
  obtain ⟨_, source⟩ := origin
  have version : handle.attemptStateVersion ≠ none := by
    obtain ⟨_, _, describes⟩ := source.reported
    rw [describes.version]
    exact Option.some_ne_none _
  unfold evidencePatch
  simp only [present]
  cases stored : state.handle with
  | none => exact fun _ _ => ⟨fun _ => trivial, fun _ absurd_ => by cases absurd_⟩
  | some old =>
    simp only
    split
    · exact fun _ _ => ⟨fun _ => trivial, fun _ absurd_ => by cases absurd_⟩
    rename_i goes
    apply keeps_checked
    · intro reason refused
      rw [(parseState_error refused).1]
      exact failed
    · intro next parsed
      have spec := parseState_ok parsed
      intro last between
      refine ⟨fun _ => trivial, fun patch equal => ?_⟩
      cases equal
      have held : current.handle = some old := by simp [SessionRecord.handle, present, stored]
      have follows : EvidenceLaw handle views current (current.patched (·.withState next)) := by
        refine ⟨⟨old, held, Bool.eq_false_iff.mpr goes⟩, version, ?_, ?_, ⟨rfl, rfl, rfl⟩⟩
        · rw [spec.1]
          rfl
        · rw [interactions_of_present present, spec.1]
          rfl
      have law : PatchLaw (.evidence handle views) current (current.patched (·.withState next)) :=
        interactions_patchLaw ⟨state, present, fit, place⟩ present (spec.1 ▸ spec.2) (by rw [spec.1]) (by rw [spec.1])
          (by rw [spec.1]) follows
      refine ⟨⟨law, fun handle present => ?_, fun view among => ?_⟩, trivial⟩
      · rw [follows.handle] at present
        cases present
        obtain ⟨next, known⟩ := source.grows (executionRules.trans grows between.grows)
        exact ⟨next, (known.leads leads).leads law.leads⟩
      · exact (shown view among).grows (executionRules.trans grows between.grows)

end Rounds
end PlanWeave.WorkspaceExecution
