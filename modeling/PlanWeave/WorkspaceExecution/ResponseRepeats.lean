import PlanWeave.WorkspaceExecution.CallSafety

namespace PlanWeave.WorkspaceExecution
open ExecutionStore List Option OrderedMap Process

namespace ExecutionStore
variable (store : ExecutionStore)

def interactionOf (key : InteractionIdentity) : Option InteractionView :=
  (store.operations.get? key.operationId).bind fun operation => operation.interactions.find? (·.key = key)

def statusOf (key : InteractionIdentity) : Option InteractionStatus := (store.interactionOf key).map (·.status)

def recordedStatus (sessionId : Nat) (key : InteractionIdentity) : Option InteractionStatus :=
  ((store.sessions.get? sessionId).bind (·.interactions.get? key)).map (·.status)

/-- A session is running and bound to an execution whose interactions a call can read, record and answer in time. -/
structure Answerable (ports : CallPorts) (request : ExecutionRequest) (response : InteractionResponse) (record : SessionRecord)
    (handle : RemoteHandle) (operation : ServerOperation) : Prop where
  current : store.sessions.get? record.sessionId = some record
  asked : record.workspaceExecution.any (·.binding.locator = request.authority) = true
  place : record.blockRef = request.blockRef
  running : record.phase.terminal = false
  handled : record.handle = some handle
  served : store.operations.get? handle.operationId = some operation
  belongs : operation.interactions.all (·.belongsTo handle) = true
  rounds : ports.rounds ≠ 0
  pages : operation.interactions.length ≤ ports.rounds * (ports.pageSize + 1)
  room : (interactionRecords record.interactions operation.interactions).size ≤ 10000
  timely : ∀ view ∈ operation.interactions, view.key = response.identity handle.operationId → view.status = .pending →
    store.clock < view.request.expiresAt

variable {store} {key : InteractionIdentity} {view : InteractionView} {operation : ServerOperation}

theorem find?_of_distinct {views : List InteractionView} (distinct : (views.map InteractionView.key).Nodup)
    (member : view ∈ views) (same : view.key = key) : views.find? (·.key = key) = some view := by
  induction views with
  | nil => cases member
  | cons head _ ih =>
    rw [map_cons, nodup_cons] at distinct
    rcases mem_cons.mp member with rfl | among
    · rw [find?_cons_of_pos (by simpa using same)]
    have other : head.key ≠ key := by
      intro equal
      apply distinct.1
      rw [equal, ← same]
      exact mem_map_of_mem among
    rw [find?_cons_of_neg (by simpa using other)]
    exact ih distinct.2 among

theorem Valid.interactionOf (valid : store.Valid) (shown : store.Shown view) :
    ∃ current, store.interactionOf view.key = some current ∧ current.request = view.request ∧
      (view.status = .pending ∨ current = view) := by
  obtain ⟨operation, current, found, member, same, request, still⟩ := shown
  refine ⟨current, ?_, request, still⟩
  have place : store.operations.get? view.key.operationId = some operation := found
  rw [ExecutionStore.interactionOf, place]
  exact find?_of_distinct (valid.server _ operation found).distinct member same

end ExecutionStore

variable {binding : RemoteBinding}

section Alone
variable {store : ExecutionStore} (ports : CallPorts) {current : SessionRecord} {sessionId : Nat} {operation : ServerOperation}
  {operationId : String}

theorem getSession_alone (found : store.sessions.get? sessionId = some current) :
    (getSession ports sessionId).alone store = (.ok current, store) := by
  unfold getSession
  rw [alone_orFail, alone_observe, found]

theorem updateSession_alone (cause : WriteCause) (patch : SessionPatch)
    (found : store.sessions.get? sessionId = some current) :
    (updateSession ports cause sessionId current.stateVersion patch).alone store =
      (.ok (some (current.patched patch)), store.write cause (some current) (current.patched patch)) := by
  simp [updateSession, Process.orFail, Process.alone, ExecutionStore.updateSession, found]

variable {cause : WriteCause} {decide : SessionRecord → ExecutionProgram (Option SessionPatch)}

theorem persistReading_alone {rounds : Nat} (found : store.sessions.get? sessionId = some current) (rereads : Bool)
    {patch : SessionPatch} (decided : (decide current).alone store = (.ok (some patch), store)) (version : current.sessionId = sessionId) :
    (persistReading ports cause decide rereads sessionId (rounds + 1)).alone store =
      (.ok (current.patched patch), store.write cause (some current) (current.patched patch)) := by
  unfold persistReading
  rw [alone_bind (getSession_alone ports found), alone_bind decided]
  rw [version, alone_bind (updateSession_alone ports cause patch found)]
  rfl

section
variable (served : store.operations.get? operationId = some operation)
include served

theorem queryInteractions_alone (cursor : Nat) : (queryInteractions ports operationId cursor).alone store =
      (.ok ((operation.interactions.drop cursor).take (ports.pageSize + 1),
        if cursor + ports.pageSize + 1 < operation.interactions.length then some (cursor + ports.pageSize + 1) else none), store) := by
  unfold queryInteractions
  rw [alone_orFail, alone_observe, served]

theorem readInteractionSnapshot_alone (cursor : Nat) {rounds : Nat}
    (some_ : rounds ≠ 0) (pages : operation.interactions.length ≤ cursor + rounds * (ports.pageSize + 1)) :
    (readInteractionSnapshot ports operationId cursor rounds).alone store =
      (.ok (operation.interactions.drop cursor), store) := by
  induction rounds generalizing cursor with
  | zero => exact absurd rfl some_
  | succ rounds ih =>
    have start : ((pure () : ExecutionProgram Unit).orFail
        (portFailure ports .interactions "remote_interactions_unavailable")).alone store = (.ok (), store) := rfl
    unfold readInteractionSnapshot
    rw [alone_bind start, alone_bind (queryInteractions_alone ports served cursor), alone_bind start]
    split
    · rename_i last
      have all : operation.interactions.length ≤ cursor + ports.pageSize + 1 := by
        by_contra more
        rw [if_pos (Nat.lt_of_not_le more)] at last
        cases last
      rw [take_of_length_le (by rw [length_drop]; omega)]
      rfl
    · rename_i next more
      have further : cursor + ports.pageSize + 1 < operation.interactions.length := by
        by_contra ends
        rw [if_neg ends] at more
        cases more
      rw [if_pos further] at more
      cases more
      have ahead : cursor < cursor + ports.pageSize + 1 := by omega
      have left : rounds ≠ 0 := by
        intro none_
        rw [none_] at pages
        omega
      have rest := ih (cursor + ports.pageSize + 1) left (by rw [Nat.succ_mul] at pages; omega)
      simp only [ahead, decide_true]
      change ((readInteractionSnapshot ports operationId (cursor + ports.pageSize + 1) rounds) >>= _).alone store = _
      rw [alone_bind rest]
      have whole : (operation.interactions.drop cursor).take (ports.pageSize + 1) ++
          operation.interactions.drop (cursor + ports.pageSize + 1) = operation.interactions.drop cursor := by
        rw [Nat.add_assoc, ← drop_drop, take_append_drop]
      exact congrArg (fun views => (Except.ok views, store)) whole
end

theorem readInteractions_alone {handle : RemoteHandle}
    (served : store.operations.get? handle.operationId = some operation) (bound : handle.authorityBindingId = binding.bindingId)
    (belongs : operation.interactions.all (·.belongsTo handle) = true) (rounds : ports.rounds ≠ 0)
    (pages : operation.interactions.length ≤ ports.rounds * (ports.pageSize + 1)) :
    (readInteractions ports binding handle).alone store = (.ok operation.interactions, store) := by
  have read := readInteractionSnapshot_alone ports served 0 rounds (by omega)
  unfold readInteractions
  simp only [bound, decide_true]
  change (readInteractionSnapshot ports handle.operationId 0 ports.rounds >>= _).alone store = _
  rw [alone_bind read, drop_zero, belongs]
  rfl

end Alone

section Records
variable {records : InteractionRecords} {views : List InteractionView} {view : InteractionView}

theorem keys_recordView (records : InteractionRecords) (view : InteractionView) :
    (recordView records view).keys = if records.has view.key then records.keys else records.keys ++ [view.key] := by
  unfold recordView
  cases found : records.get? view.key with
  | none => exact keys_set records view.key _
  | some =>
    have has : records.has view.key = true := by
      rw [OrderedMap.has, found]
      rfl
    simp only [has, if_true]
    split
    · rw [keys_set, if_pos has]
    · rfl

theorem keys_interactionRecords (views : List InteractionView) {other : InteractionRecords} (same : records.keys = other.keys)
    (now : Nat) :
    (interactionRecords records (views.map (expireView now))).keys = (interactionRecords other views).keys := by
  induction views generalizing records other with
  | nil => exact same
  | cons view _ ih =>
    apply ih
    have has : records.has view.key = other.has view.key := by
      rw [Bool.eq_iff_iff, has_iff, has_iff, same]
    rw [keys_recordView, keys_recordView, expireView_key, has, same]

theorem recorded_of_mem (records : InteractionRecords) (member : view ∈ views) : ∃ record, (interactionRecords records views).get? view.key = some record := by
  induction views generalizing records with
  | nil => cases member
  | cons _ rest ih =>
    rcases mem_cons.mp member with rfl | later
    · have stands : view.key ∈ (recordView records view).keys := by
        rw [keys_recordView]
        split
        · rename_i has
          exact (has_iff records).mp has
        · exact mem_append_right _ (mem_singleton.mpr rfl)
      have has := (has_iff _).mpr stands
      obtain ⟨first, found⟩ := isSome_iff_exists.mp has
      obtain ⟨last, reached, _⟩ := RecordsLead.interactionRecords (recordView records view) rest view.key first found
      exact ⟨last, reached⟩
    · exact ih _ later

theorem valid_withInteractions {state : SessionState} (valid : state.valid = true) (room : records.size ≤ 10000) :
    SessionState.valid { state with interactions := records } = true := by
  simp only [SessionState.valid, Bool.and_eq_true, decide_eq_true_eq] at valid ⊢
  exact ⟨⟨⟨valid.1.1.1, room⟩, valid.1.2⟩, valid.2⟩

end Records

section Repeats
variable {α : Type} {site : Site} {records : InteractionRecords} {key : InteractionIdentity} {view : InteractionView}
  {views : List InteractionView}

theorem demand_bind {error : ExecutionError} {rest : Unit → ExecutionProgram α} :
    (demand true site error >>= rest) = rest () := rfl

theorem checked_bind {β : Type} {value : α} {rest : α → ExecutionProgram β} :
    (checked site (.ok value) >>= rest) = rest value := rfl

variable {store : ExecutionStore} {ports : CallPorts} {request : ExecutionRequest} {response : InteractionResponse}
  {record : SessionRecord} {handle : RemoteHandle} {operation : ServerOperation}

def synchronizedState (state : SessionState) (page : List InteractionView) (now : Nat) : SessionState :=
  { state with interactions := interactionRecords state.interactions (page.map (expireView now)) }

theorem synchronizeInteractions_alone (valid : store.Valid)
    (answerable : store.Answerable ports request response record handle operation) :
    ∃ state views, record.workspaceExecution = some state ∧ state.handle = some handle ∧
      handle.authorityBindingId = state.binding.bindingId ∧
      (synchronizedState state operation.interactions store.clock).valid = true ∧
      let persisted := record.patched (·.withState (synchronizedState state operation.interactions store.clock))
      (operation.interactions.map (expireView store.clock)).mapM (statusIn persisted.interactions) = .ok views ∧
      (synchronizeInteractions ports request record.sessionId).alone store =
        (.ok ⟨persisted, handle, state.binding, views⟩,
          store.write (.interactions handle operation.interactions store.clock) (some record) persisted) := by
  have known := valid.known_of_get? answerable.current
  obtain ⟨state, present, fit, _⟩ := valid.bound known.1
  have handled : state.handle = some handle := by
    have held := answerable.handled
    rw [SessionRecord.handle, present] at held
    exact held
  have bound : handle.authorityBindingId = state.binding.bindingId := by
    have fits := fit
    simp only [SessionState.valid, handled, all_some, Bool.and_eq_true, decide_eq_true_eq] at fits
    exact fits.1.1.1.1.1.1.1
  have locator : state.binding.locator = request.authority := by
    have asked := answerable.asked
    rw [present] at asked
    exact of_decide_eq_true asked
  let page := operation.interactions.map (expireView store.clock)
  let next := synchronizedState state operation.interactions store.clock
  let persisted := record.patched (·.withState next)
  have records : persisted.interactions = interactionRecords state.interactions page := rfl
  have room : next.valid = true := by
    apply valid_withInteractions fit
    have size := size_eq_of_keys (keys_interactionRecords operation.interactions
      (rfl : state.interactions.keys = state.interactions.keys) store.clock)
    have fits := answerable.room
    rw [interactions_of_present present] at fits
    omega
  have listed : ∃ views, page.mapM (statusIn persisted.interactions) = .ok views := by
    refine ⟨page.map fun view => { view with status := ((persisted.interactions.get? view.key).map (·.status)).getD view.status },
      Checked.mapM_of_all fun view member => ?_⟩
    obtain ⟨_, found⟩ := recorded_of_mem state.interactions member
    rw [← records] at found
    simp [statusIn, found]
  obtain ⟨views, shown⟩ := listed
  refine ⟨state, views, present, handled, bound, room, shown, ?_⟩
  have start := getSession_alone ports answerable.current
  have paged := readInteractions_alone ports answerable.served bound answerable.belongs answerable.rounds answerable.pages
  have bind_ : (sessionBinding request record).alone store = (.ok state.binding, store) := by
    simp only [sessionBinding, present, locator, answerable.place, decide_true, Bool.and_true]
    rfl
  have goes : (mayFail ports .coordinator).alone store = (.ok (), store) := rfl
  have clock : readClock.alone store = (.ok store.clock, store) := rfl
  obtain ⟨rounds, many⟩ := Nat.exists_eq_succ_of_ne_zero answerable.rounds
  have mine : state.handle.any (boundTo · handle) = true := by simp [handled, boundTo, RemoteHandle.sameExecution]
  have decided : (interactionsPatch handle page record).alone store = (.ok (some (·.withState next)), store) := by
    simp only [interactionsPatch, present, mine, answerable.running, Bool.false_eq_true, if_false]
    change (checked .coordinator (parseState next) >>= _).alone store = _
    rw [parseState, if_pos room]
    rfl
  have wrote : (persistRemoteInteractions ports record handle operation.interactions store.clock).alone store =
      (.ok persisted, store.write (.interactions handle operation.interactions store.clock) (some record) persisted) := by
    unfold persistRemoteInteractions
    rw [many]
    exact persistReading_alone ports answerable.current false decided rfl
  unfold synchronizeInteractions
  rw [alone_bind start, alone_bind bind_]
  simp only [answerable.handled]
  rw [alone_bind goes, alone_bind paged, alone_bind goes, alone_bind clock,
    alone_bind wrote]
  rw [shown]
  rfl

variable {interaction : InteractionRecord} {intent : ResponseIntent}
variable {now : Nat} {asked : InteractionRequest}

/-- After a page was recorded, an interaction stands as it was, or as the server has it by the clock of the caller. -/
theorem synchronized_cases
    (distinct : (operation.interactions.map InteractionView.key).Nodup)
    (found : operation.interactions.find? (·.key = key) = some view)
    (stands : (interactionRecords records (operation.interactions.map (expireView now))).get? key = some interaction) :
    records.get? key = some interaction ∨ interaction = ⟨(expireView now view).status, none⟩ := by
  rcases interactionRecords_cases stands with kept | ⟨_, member, same, equal⟩
  · exact .inl kept
  obtain ⟨_, among, rfl⟩ := mem_map.mp member
  rw [expireView_key] at same
  have here := ExecutionStore.find?_of_distinct distinct among same
  rw [found] at here
  cases here
  exact .inr equal

theorem recordedStatus_write (store : ExecutionStore) (cause : WriteCause) (before : Option SessionRecord) (after : SessionRecord)
    (key : InteractionIdentity) : (store.write cause before after).recordedStatus after.sessionId key =
      (after.interactions.get? key).map (·.status) := by
  simp [ExecutionStore.recordedStatus, write, get?_set_self]

theorem respond_alone_of_settled (valid : store.Valid)
    (answerable : store.Answerable ports request response record handle operation)
    (found : record.interactions.get? (response.identity handle.operationId) = some interaction)
    (agrees : interaction.status ≠ .pending → store.statusOf (response.identity handle.operationId) = some interaction.status)
    (settled : store.statusOf (response.identity handle.operationId) = some .settled) :
    ((respond ports request record.sessionId response).alone store).2.recordedStatus record.sessionId
      (response.identity handle.operationId) = some .settled := by
  obtain ⟨state, _, present, _, _, _, _, ran⟩ := synchronizeInteractions_alone valid answerable
  obtain ⟨view, served, status⟩ := map_eq_some_iff.mp settled
  have place : store.operations.get? (response.identity handle.operationId).operationId = some operation := answerable.served
  rw [ExecutionStore.interactionOf, place, bind_some] at served
  have distinct := (valid.server _ operation answerable.served).distinct
  have same : view.key = response.identity handle.operationId := by simpa using find?_some served
  let page := operation.interactions.map (expireView store.clock)
  let persisted := record.patched (·.withState (synchronizedState state operation.interactions store.clock))
  have here : state.interactions.get? (response.identity handle.operationId) = some interaction := by
    rw [← interactions_of_present present]
    exact found
  have unmoved : expireView store.clock view = view := by simp [expireView, status]
  obtain ⟨stands, reached, _⟩ := RecordsLead.interactionRecords state.interactions page _ interaction here
  have ends : stands.status = .settled := by
    rcases synchronized_cases distinct served reached with kept | paged
    · rw [here] at kept
      cases kept
      by_cases pending : interaction.status = .pending
      · have member : view ∈ page := unmoved ▸ mem_map_of_mem (mem_of_find?_eq_some served)
        rw [← same] at reached
        exact absurd pending (interactionRecords_final member (by rw [status]; decide) reached)
      · have equal := agrees pending
        rw [settled] at equal
        exact (Option.some.inj equal).symm
    · rw [paged, unmoved]
      exact status
  have after : persisted.interactions.get? (response.identity handle.operationId) = some stands := reached
  have refused : (respond ports request record.sessionId response).alone store =
      (.error (.refused .coordinator resumeMismatch),
        store.write (.interactions handle operation.interactions store.clock) (some record) persisted) := by
    unfold respond
    rw [alone_bind ran]
    have goes : (mayFail ports .coordinator).alone
        (store.write (.interactions handle operation.interactions store.clock) (some record) persisted) = (.ok (), _) := rfl
    rw [alone_bind goes]
    split
    · rename_i missing
      cases missing.symm.trans after
    · rename_i found
      cases found.symm.trans after
      simp only [ends]
      rfl
  rw [refused]
  have stored := recordedStatus_write store (.interactions handle operation.interactions store.clock) (some record) persisted
    (response.identity handle.operationId)
  rw [after, map_some, ends] at stored
  exact stored

theorem find?_settle
    (found : views.find? (·.key = key) = some view) :
    (views.map fun view => if view.key = key then view.settle response else view).find? (·.key = key) =
      some (view.settle response) := by
  induction views with
  | nil => cases found
  | cons head _ ih =>
    by_cases same : head.key = key
    · rw [find?_cons_of_pos (by simpa using same)] at found
      cases found
      rw [map_cons, if_pos same, find?_cons_of_pos (by simpa [settle_key] using same)]
    · rw [find?_cons_of_neg (by simpa using same)] at found
      rw [map_cons, if_neg same, find?_cons_of_neg (by simpa using same)]
      exact ih found

theorem sendResponse_alone (sessionId : Nat)
    (served : store.operations.get? handle.operationId = some operation)
    (found : operation.interactions.find? (·.key = response.identity handle.operationId) = some view) :
    (sendResponse ports sessionId handle.operationId response).alone store =
      (.ok (view.settle response), store.settle sessionId handle.operationId response) := by
  have settled : ((store.settle sessionId handle.operationId response).operations.get? handle.operationId).bind (fun operation =>
      operation.interactions.find? (·.key = response.identity handle.operationId)) = some (view.settle response) := by
    simp only [ExecutionStore.settle, served, get?_set_self, bind_some]
    exact find?_settle found
  simp only [sendResponse, Process.orFail, Process.alone, settled]

theorem settle_sessions (sessionId : Nat) (operationId : String) :
    (store.settle sessionId operationId response).sessions = store.sessions := by
  simp only [ExecutionStore.settle]
  split <;> rfl

theorem identity_fields {operationId : String}
    (same : asked.identity operationId = response.identity operationId) : asked.identity "" = response.identity "" ∧
      asked.dispatchId = response.dispatchId ∧ asked.leaseId = response.leaseId ∧
      asked.executionAttemptId = response.executionAttemptId := by
  simp only [InteractionRequest.identity, InteractionResponse.identity, InteractionIdentity.mk.injEq, true_and] at same ⊢
  exact ⟨same, same.1, same.2.1, same.2.2.1⟩

theorem asked_again
    (distinct : (operation.interactions.map InteractionView.key).Nodup)
    (listed : (operation.interactions.map (expireView now)).mapM (statusIn records) = .ok views)
    (served : operation.interactions.find? (·.key = key) = some view) (same : view.request = intent.request) :
    ((views.find? fun view => view.key = key && view.status = .pending).map (·.request)).or (some intent.request) =
      some intent.request := by
  cases seen : views.find? fun view => view.key = key && view.status = .pending with
  | none => rfl
  | some shown =>
    have spec := find?_some seen
    simp only [Bool.and_eq_true, decide_eq_true_eq] at spec
    obtain ⟨_, member, stands⟩ := Checked.mapM_result listed (mem_of_find?_eq_some seen)
    obtain ⟨paged, among, rfl⟩ := mem_map.mp member
    have question := (statusIn_question stands).trans (expireView_question now paged)
    have request : shown.question.request = paged.question.request := congrArg InteractionView.request question
    have equal : shown.question.key = paged.question.key := congrArg InteractionView.key question
    have keys : paged.key = key := equal.symm.trans spec.1
    have here := ExecutionStore.find?_of_distinct distinct among keys
    rw [served] at here
    cases here
    have asks : shown.request = intent.request := request.trans same
    rw [map_some, some_or, asks]

theorem allowed_again (identity : asked.identity "" = response.identity "") :
    settlementForRequest asked response = .ok response := if_pos identity

theorem synchronized_pending
    (distinct : (operation.interactions.map InteractionView.key).Nodup)
    (served : operation.interactions.find? (·.key = key) = some view) (status : view.status = .pending)
    (timely : now < view.request.expiresAt) (found : records.get? key = some interaction)
    (intends : interaction.responseIntent = some intent) :
    (interactionRecords records (operation.interactions.map (expireView now))).get? key = some interaction := by
  have unmoved : expireView now view = view := by
    unfold expireView
    rw [if_neg (by simp; omega)]
  obtain ⟨_, reached, leads⟩ :=
    RecordsLead.interactionRecords records (operation.interactions.map (expireView now)) key interaction found
  rcases synchronized_cases distinct served reached with kept | paged
  · rw [found] at kept
    cases kept
    exact reached
  · rw [unmoved, status] at paged
    rw [paged] at leads
    rcases leads.intent intent intends with kept | ⟨done, _⟩
    · cases kept
    · exact absurd rfl done

theorem responds_goes {last : ExecutionStore} : (mayFail ports .coordinator).alone last = (.ok (), last) := rfl

variable {current : SessionRecord} {state : SessionState}

theorem persistRemoteResponseIntent_alone
    (stored : store.sessions.get? current.sessionId = some current) (present : current.workspaceExecution = some state)
    (handled : state.handle = some handle) (running : current.phase.terminal = false)
    (found : state.interactions.get? key = some interaction) (pending : interaction.status = .pending)
    (intends : interaction.responseIntent = some intent) (identity : intent.request.identity handle.operationId = key)
    (rounds : ports.rounds ≠ 0) :
    (persistRemoteResponseIntent ports current handle key intent).alone store = (.ok current, store) := by
  have mine : state.handle.any (boundTo · handle) = true := by simp [handled, boundTo, RemoteHandle.sameExecution]
  have decided : (responseIntentPatch ports handle key intent current).alone store = (.ok none, store) := by
    unfold responseIntentPatch
    rw [alone_bind responds_goes]
    simp only [present, found, pending, running, mine, identity, intends, decide_true]
    rfl
  obtain ⟨_, many⟩ := Nat.exists_eq_succ_of_ne_zero rounds
  unfold persistRemoteResponseIntent
  rw [many]
  unfold persistReading
  rw [alone_bind (getSession_alone ports stored), alone_bind decided]
  rfl

theorem respondRemote_alone (sessionId : Nat)
    (bound : handle.authorityBindingId = binding.bindingId) (attempt : handle.executionAttemptId = some response.executionAttemptId)
    (served : store.operations.get? handle.operationId = some operation)
    (found : operation.interactions.find? (·.key = response.identity handle.operationId) = some view)
    (pending : view.status = .pending) : (respondRemote ports binding sessionId handle response).alone store =
      (.ok (view.settle response), store.settle sessionId handle.operationId response) := by
  have key : (view.settle response).key = response.identity handle.operationId := by
    rw [settle_key]
    simpa using find?_some found
  have settled : view.settle response = { view with status := .settled, settlement := some response } := by
    unfold InteractionView.settle
    rw [if_pos pending]
  have answers : ((view.settle response).key = response.identity handle.operationId && (view.settle response).status = .settled &&
      (view.settle response).settlement = some response) = true := by
    rw [key, settled]
    simp
  unfold respondRemote
  simp only [bound, attempt, decide_true, Bool.and_true]
  change (sendResponse ports sessionId handle.operationId response >>= _).alone store = _
  rw [alone_bind (sendResponse_alone sessionId served found)]
  simp only [answers]
  rfl

theorem persistRemoteInteraction_alone
    (stored : store.sessions.get? current.sessionId = some current) (present : current.workspaceExecution = some state)
    (fit : state.valid = true) (found : state.interactions.get? view.key = some interaction)
    (pending : interaction.status = .pending) (settled : view.status = .settled) (rounds : ports.rounds ≠ 0) :
    ∃ after last, (persistRemoteInteraction ports current view).alone store = (.ok after, last) ∧
      last.recordedStatus current.sessionId view.key = some .settled := by
  let next : SessionState := { state with interactions := interactionRecords state.interactions [view] }
  have known : state.interactions.has view.key = true := by
    rw [OrderedMap.has, found]
    rfl
  have size : next.interactions.size = state.interactions.size := by
    apply size_eq_of_keys
    change (recordView state.interactions view).keys = _
    rw [keys_recordView, if_pos known]
  have room : next.valid = true := by
    apply valid_withInteractions fit
    have fits := fit
    simp only [SessionState.valid, Bool.and_eq_true, decide_eq_true_eq] at fits
    rw [size]
    exact fits.1.1.2
  have decided : (interactionPatch view current).alone store = (.ok (some (·.withState next)), store) := by
    simp only [interactionPatch, present]
    rw [parseState, if_pos room]
    rfl
  obtain ⟨_, many⟩ := Nat.exists_eq_succ_of_ne_zero rounds
  refine ⟨current.patched (·.withState next),
    store.write (.interaction view) (some current) (current.patched (·.withState next)), ?_, ?_⟩
  · unfold persistRemoteInteraction
    rw [many]
    unfold persistFrom
    rw [alone_bind decided]
    rw [alone_bind (updateSession_alone ports _ _ stored)]
    rfl
  · have status := recordedStatus_write store (.interaction view) (some current) (current.patched (·.withState next)) view.key
    have records : (current.patched (·.withState next)).interactions.get? view.key = some ⟨.settled, none⟩ := by
      change (recordView state.interactions view).get? view.key = _
      simp only [recordView, found, pending, settled, if_true]
      rw [get?_set_self]
      rfl
    rw [records] at status
    exact status

theorem respond_alone_of_pending (valid : store.Valid)
    (answerable : store.Answerable ports request response record handle operation)
    (found : record.interactions.get? (response.identity handle.operationId) = some interaction)
    (pending : interaction.status = .pending) (intends : interaction.responseIntent = some intent)
    (same : intent.response = response)
    (waits : store.statusOf (response.identity handle.operationId) = some .pending) :
    ∃ view last, (respond ports request record.sessionId response).alone store = (.ok view, last) ∧
      view.key = response.identity handle.operationId ∧ view.status = .settled ∧ view.settlement = some response ∧
      last.recordedStatus record.sessionId (response.identity handle.operationId) = some .settled := by
  obtain ⟨state, _, present, handled, bound, room, listed, ran⟩ := synchronizeInteractions_alone valid answerable
  obtain ⟨view, served, status⟩ := map_eq_some_iff.mp waits
  have place : store.operations.get? (response.identity handle.operationId).operationId = some operation := answerable.served
  rw [ExecutionStore.interactionOf, place, bind_some] at served
  have distinct := (valid.server _ operation answerable.served).distinct
  have key : view.key = response.identity handle.operationId := by simpa using find?_some served
  have onPage := mem_of_find?_eq_some served
  have asked := valid.asked (valid.known_of_get? answerable.current).1 found intends
  obtain ⟨identity, dispatch, lease, attempt⟩ := identity_fields (asked.1.trans rfl)
  have request_ : view.request = intent.request := by
    obtain ⟨_, again, equal, _⟩ := valid.interactionOf asked.2
    have where_ : InteractionView.key ⟨(response.identity handle.operationId).operationId, intent.request, .pending, none⟩ =
        response.identity handle.operationId := asked.1
    rw [where_, ExecutionStore.interactionOf, place, bind_some, served] at again
    cases again
    exact equal
  have here : state.interactions.get? (response.identity handle.operationId) = some interaction := by
    rw [← interactions_of_present present]
    exact found
  let next := synchronizedState state operation.interactions store.clock
  let persisted := record.patched (·.withState next)
  let middle := store.write (.interactions handle operation.interactions store.clock) (some record) persisted
  have after : next.interactions.get? (response.identity handle.operationId) = some interaction :=
    synchronized_pending distinct served status (answerable.timely view onPage key status) here intends
  have stored : middle.sessions.get? persisted.sessionId = some persisted := get?_set_self _ _ _
  have whole : interaction.responseIntent = some ⟨intent.request, response⟩ := by rw [intends, ← same]
  have mine := all_eq_true.mp answerable.belongs view onPage
  simp only [InteractionView.belongsTo, request_, Bool.and_eq_true, decide_eq_true_eq, dispatch, attempt, lease] at mine
  have again := asked_again distinct listed served request_
  have prepared : (persistRemoteResponseIntent ports persisted handle (response.identity handle.operationId)
      ⟨intent.request, response⟩).alone middle = (.ok persisted, middle) :=
    persistRemoteResponseIntent_alone stored rfl handled answerable.running after pending whole asked.1 answerable.rounds
  have sent : (respondRemote ports state.binding record.sessionId handle response).alone middle =
      (.ok (view.settle response), middle.settle record.sessionId handle.operationId response) :=
    respondRemote_alone record.sessionId bound mine.1.2 answerable.served served status
  have settledView : (view.settle response) = { view with status := .settled, settlement := some response } := by
    unfold InteractionView.settle
    rw [if_pos status]
  have sameKey : (view.settle response).key = response.identity handle.operationId := by
    rw [settle_key, key]
  have kept : (middle.settle record.sessionId handle.operationId response).sessions.get? persisted.sessionId = some persisted := by
    rw [settle_sessions]
    exact stored
  have settled : (view.settle response).status = .settled := by rw [settledView]
  obtain ⟨_, last, wrote, recorded⟩ :=
    persistRemoteInteraction_alone kept rfl room (sameKey ▸ after) pending settled answerable.rounds
  rw [sameKey] at recorded
  refine ⟨view.settle response, last, ?_, sameKey, settled, by rw [settledView], recorded⟩
  unfold respond
  rw [alone_bind ran]
  rw [alone_bind responds_goes]
  have goes := allowed_again identity
  have fits : (response.dispatchId = handle.dispatchId && handle.executionAttemptId = some response.executionAttemptId &&
      handle.leaseId.all (response.leaseId = ·)) = true := by
    have leases : handle.leaseId.all (response.leaseId = ·) = true := by
      cases held : handle.leaseId with
      | none => rfl
      | some _ =>
        have equal := mine.2
        rw [held] at equal
        exact decide_eq_true (of_decide_eq_true equal).symm
    simp only [mine.1.1.2, mine.1.2, leases, decide_true, Bool.and_self]
  split
  · rename_i missing
    cases missing.symm.trans after
  rename_i reached
  cases reached.symm.trans after
  simp only [pending, intends, all_some, map_some, same, again, decide_true]
  change Process.alone (checked .coordinator (settlementForRequest intent.request response) >>= _) middle = _
  rw [goes, checked_bind]
  simp only [fits]
  rw [demand_bind]
  rw [alone_bind prepared, alone_bind responds_goes, alone_bind sent,
    alone_bind (alone_tryCatch wrote)]
  rfl

end Repeats
end PlanWeave.WorkspaceExecution
