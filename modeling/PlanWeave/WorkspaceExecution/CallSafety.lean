import PlanWeave.Lib.Checked
import PlanWeave.WorkspaceExecution.CoordinatorSafety
import PlanWeave.WorkspaceExecution.InteractionLaw

namespace PlanWeave.WorkspaceExecution
open ExecutionStore List Option

section Responses
variable {caller : Nat} {thrown : Failure → Prop} {store : ExecutionStore} {ports : CallPorts} {binding : RemoteBinding}
  {session : SessionRecord} {request : ExecutionRequest} {handle : RemoteHandle} {sessionId : Nat}
  {response : InteractionResponse}

def InteractionView.question (view : InteractionView) : InteractionView := ⟨view.operationId, view.request, .pending, none⟩

variable {view : InteractionView} {asked : InteractionRequest}

theorem ExecutionStore.Shown.question (shown : store.Shown view) : store.Shown view.question := by
  obtain ⟨operation, current, found, member, key, request, _⟩ := shown
  exact ⟨operation, current, found, member, key, request, .inl rfl⟩

theorem expireView_question (now : Nat) (view : InteractionView) : (expireView now view).question = view.question := by
  unfold expireView
  split <;> rfl

theorem statusIn_question {records : InteractionRecords} {shown : InteractionView}
    (stands : statusIn records view = .ok shown) : shown.question = view.question := by
  unfold statusIn at stands
  split at stands
  · cases stands
    rfl
  · cases stands

theorem keeps_synchronizeInteractions (valid : store.Valid) (tolerates : Tolerates thrown)
    (read : ∀ error, thrown (.refused .interactions error)) :
    Keeps caller (fun synchronized last => last.Known synchronized.session ∧ synchronized.session.sessionId = sessionId ∧
      ∀ view ∈ synchronized.views, last.Shown view.question) thrown
      (synchronizeInteractions ports request sessionId) store := by
  have refused := @tolerates.refuse
  apply (keeps_getSession ports (refused rfl)).bind valid
  intro session last holds _ known
  apply keeps_sessionBinding holds known.known tolerates
  intro binding _
  cases session.handle with
  | none => exact keeps_refuse (refused rfl)
  | some =>
    apply keeps_unlessFails (refused rfl)
    apply (keeps_readInteractions holds tolerates.unfinished fun _ _ => read _).bind holds
    intro page next still further shown
    apply keeps_unlessFails (refused rfl)
    apply keeps_readClock.bind still
    intro now final kept beyond _
    have known' := known.known.grows (executionRules.trans further beyond)
    apply (keeps_persistReading ports false ports.rounds kept (.refl final)
      (interactions_rounds tolerates fun view member => (shown view member).grows beyond) known' (refused rfl)
      tolerates.unfinished).bind kept
    intro persisted end_ _ ahead ended
    apply keeps_checked fun _ _ => refused rfl
    intro views listed later between
    refine ⟨ended.known.grows between.grows, ended.session.trans known.session, fun view among => ?_⟩
    obtain ⟨_, member, stands⟩ := Checked.mapM_result listed among
    obtain ⟨paged, onPage, rfl⟩ := mem_map.mp member
    rw [statusIn_question stands, expireView_question]
    exact (shown paged onPage).question.grows (executionRules.trans beyond (executionRules.trans ahead between.grows))

theorem identity_operationId {operationId : String} (same : view.key = response.identity operationId) :
    view.operationId = operationId := congrArg InteractionIdentity.operationId same

theorem keeps_respondRemote (valid : store.Valid) (known : store.Known session)
    (intends : session.Intends (response.identity handle.operationId) response) (tolerates : Tolerates thrown) :
    Keeps caller (fun view last => last.Shown view ∧ view.status = .settled) thrown
      (respondRemote ports binding session.sessionId handle response) store := by
  have refused := @tolerates.refuse
  apply keeps_demand (refused rfl)
  intro _
  have moves : ∀ last, executionRules.Rely caller store last →
      executionRules.Moves caller last (last.settle session.sessionId handle.operationId response) := by
    intro last between
    apply settle_moves between.valid
    obtain ⟨write, member, same⟩ := known.grows between.grows
    exact ⟨write, member, congrArg SessionRecord.sessionId same, same.symm ▸ intends⟩
  have sends : Keeps caller (fun view last => last.ShownBy handle.operationId view) thrown
      (sendResponse ports session.sessionId handle.operationId response) store := by
    refine ⟨⟨fun last between => ⟨moves last between, ?_⟩, fun _ _ => refused rfl⟩,
      fun last between => ⟨moves last between, fun _ _ => refused rfl⟩⟩
    simp only
    cases found : (last.settle session.sessionId handle.operationId response).operations.get? handle.operationId with
    | none => exact fun _ _ => refused rfl
    | some operation =>
      cases present : operation.interactions.find? (·.key = response.identity handle.operationId) with
      | none =>
        simp only [bind_some, present]
        exact fun _ _ => refused rfl
      | some view =>
        simp only [bind_some, present]
        intro later further
        have shown : ExecutionStore.ShownBy (last.settle session.sessionId handle.operationId response) handle.operationId view :=
          ⟨operation, view, found, mem_of_find?_eq_some present, rfl, rfl, .inr rfl⟩
        exact shown.grows further.grows
  apply sends.bind valid
  intro view last _ _ shown
  apply keeps_demand (refused rfl)
  intro goes later between
  simp only [Bool.and_eq_true, decide_eq_true_eq] at goes
  have mine : last.Shown view := by
    have same := identity_operationId goes.1.1
    rw [← same] at shown
    exact shown
  exact ⟨mine.grows between.grows, goes.1.2⟩

theorem settlementForRequest_ok {settlement : InteractionResponse}
    (fits : settlementForRequest asked response = .ok settlement) : settlement = response := by
  unfold settlementForRequest at fits
  split at fits
  · cases fits
    rfl
  · cases fits

theorem asked_shown (valid : store.Valid) (known : store.Known session) {views : List InteractionView}
    (shown : ∀ view ∈ views, store.Shown view.question) {key : InteractionIdentity} {record : InteractionRecord}
    (found : session.interactions.get? key = some record)
    (present : (((views.find? fun view => view.key = key && view.status = .pending).map (·.request)).or
      (record.responseIntent.map (·.request))) = some asked) :
    store.Shown ⟨key.operationId, asked, .pending, none⟩ := by
  rcases or_eq_some_iff.mp present with paged | ⟨_, stored⟩
  · obtain ⟨view, seen, rfl⟩ := map_eq_some_iff.mp paged
    have same := find?_some seen
    simp only [Bool.and_eq_true, decide_eq_true_eq] at same
    rw [← same.1]
    exact shown view (mem_of_find?_eq_some seen)
  · obtain ⟨_, intends, rfl⟩ := map_eq_some_iff.mp stored
    exact (valid.asked known found intends).2

theorem keeps_respond (valid : store.Valid) (tolerates : Tolerates thrown)
    (read : ∀ error, thrown (.refused .interactions error)) :
    Keeps caller (fun _ _ => True) thrown (respond ports request sessionId response) store := by
  have refused := @tolerates.refuse
  apply (keeps_synchronizeInteractions valid tolerates read).bind valid
  intro synchronized last holds _ synced
  apply keeps_unlessFails (refused rfl)
  split
  · exact keeps_refuse (refused rfl)
  rename_i record found
  apply keeps_demand (refused rfl)
  intro _
  apply keeps_demand (refused rfl)
  intro _
  split
  · exact keeps_refuse (refused rfl)
  rename_i asked present
  apply keeps_checked fun _ _ => refused rfl
  intro settlement fits
  have same := settlementForRequest_ok fits
  apply keeps_demand (refused rfl)
  intro _
  have question := asked_shown holds synced.1 synced.2.2 found present
  apply (keeps_persistReading ports false ports.rounds holds (.refl last)
    (responseIntent_rounds tolerates question) synced.1 (refused rfl) tolerates.unfinished).bind holds
  intro prepared next still _ ended
  apply keeps_unlessFails (refused rfl)
  have intends : prepared.Intends (settlement.identity synchronized.handle.operationId) settlement := by
    rw [same]
    have kept := ended.ended
    rw [same] at kept
    exact kept
  have session : prepared.sessionId = sessionId := ended.session.trans synced.2.1
  rw [← session]
  apply (keeps_respondRemote still ended.known intends tolerates).bind still
  intro view final kept beyond shown
  have rounds : Rounds caller final (.interaction view) prepared (fun _ => True) (fun _ => True) (interactionPatch view) :=
    interaction_rounds ⟨trivial, fun _ _ _ => trivial⟩ shown.1 shown.2
  have persisted : Keeps caller (fun _ _ => True) (fun _ => True) (persistRemoteInteraction ports prepared view) final := by
    apply (keeps_persistFrom ports ports.rounds kept (.refl final) rounds (ended.known.grows beyond) rfl
      (.refl prepared) trivial trivial).mono
    · exact fun _ _ _ _ => trivial
    · exact fun _ _ _ _ => trivial
  apply (Custody.Safe.tryCatch (fun _ _ => True) persisted kept ?_).bind kept
  · intro _ _ _ _ _
    apply keeps_unlessFails (refused rfl)
    exact fun _ _ => trivial
  · intro reason _ _ _ _
    cases reason with
    | unfinished => exact fun _ _ => tolerates.unfinished
    | refused => exact fun _ _ => refused rfl

end Responses

namespace ExecutionOperation

def collects : ExecutionOperation → Option CallPorts
  | execute ports _ _ | follow ports _ _ | recoverForCancellation ports _ _ | observeExisting ports _ _ _ _ => some ports
  | _ => none

/-- A call that may collect evidence does not fail by it, as long as the errors of its ports have a diagnostic that fits. -/
def Throws (operation : ExecutionOperation) (reason : Failure) : Prop :=
  ∀ ports, operation.collects = some ports → ports.diagnosable = true → ∀ site error, reason = .refused site error →
    site.ofEvidence = false

variable {operation : ExecutionOperation}

theorem endures_throws {ports : CallPorts} (mine : operation.collects = some ports) :
    Endures ports operation.Throws where
  unfinished _ _ _ _ _ same := by cases same
  refused site error outside _ _ _ _ _ same := by
    cases same
    exact outside
  diagnostics unfit other same diagnosable := by
    rw [mine] at same
    cases same
    rw [unfit] at diagnosable
    cases diagnosable

theorem throws_anything (mine : operation.collects = none) (reason : Failure) : operation.Throws reason := by
  intro ports same
  rw [mine] at same
  cases same

theorem body_keeps (caller : Nat) (operation : ExecutionOperation) {store : ExecutionStore} (valid : store.Valid) :
    Keeps caller (fun _ _ => True) operation.Throws (operation.body caller) store := by
  have answers : ∀ {α : Type} {program : ExecutionProgram α} {wrap : α → ExecutionAnswer} {wanted : α → ExecutionStore → Prop},
      Keeps caller wanted operation.Throws program store →
      Keeps caller (fun _ _ => True) operation.Throws (program >>= fun value => pure (wrap value)) store :=
    fun safe => safe.bind valid fun _ _ _ _ _ _ _ => trivial
  cases operation with
  | execute => exact answers (keeps_execute valid (endures_throws rfl))
  | follow => exact answers (keeps_followCall valid (endures_throws rfl))
  | recoverForCancellation ports request sessionId =>
    have endures : Endures ports (Throws (.recoverForCancellation ports request sessionId)) := endures_throws rfl
    exact answers (keeps_recoverForCancellation valid endures.toTolerates)
  | observeExisting =>
    exact answers (keeps_observeExisting valid (endures_throws rfl))
  | synchronizeInteractions ports request sessionId =>
    have any : ∀ reason, Throws (.synchronizeInteractions ports request sessionId) reason := throws_anything rfl
    exact answers (keeps_synchronizeInteractions valid ⟨any _, fun _ _ _ => any _⟩ fun _ => any _)
  | respond ports request sessionId response =>
    have any : ∀ reason, Throws (.respond ports request sessionId response) reason := throws_anything rfl
    exact answers (keeps_respond valid ⟨any _, fun _ _ _ => any _⟩ fun _ => any _)
  | report operationId observation views =>
    exact fun last between => ⟨report_moves between.valid operationId observation views, fun _ _ => trivial⟩
  | tick clock => exact fun last between => ⟨tick_moves between.valid clock, fun _ _ => trivial⟩

end ExecutionOperation

theorem ExecutionStore.valid_empty : ExecutionStore.Valid {} where
  lawful := .nil
  stored _ := rfl
  numbered _ member := absurd member not_mem_nil
  server _ _ found := by cases found
  keyed _ _ _ _ _ found := by cases found
  placed _ _ _ found := by cases found
  origin _ member := absurd member not_mem_nil
  shown _ member := absurd member not_mem_nil
  watched _ member := absurd member not_mem_nil
  apart := .nil
  dispatched _ member := absurd member not_mem_nil
  single _ _ member := absurd member not_mem_nil
  sent _ member := absurd member not_mem_nil

/-- Whatever calls are made over a store, in whatever order their steps are taken and wherever they crash, its rules hold. -/
theorem ExecutionRun.sound (events : List (SharedEvent ExecutionOperation)) :
    CustodyRun.Sound executionRules (fun _ _ _ _ => True) (fun _ operation reason _ => operation.Throws reason) {}
      (ExecutionRun.after events {}) := by
  apply CustodyRun.Sound.run (CustodyRun.sound_start valid_empty)
  constructor
  · exact fun caller operation store valid _ => operation.body_keeps caller valid
  · exact fun caller store valid => release_moves valid

theorem ExecutionRun.valid (events : List (SharedEvent ExecutionOperation)) : (ExecutionRun.after events {}).store.Valid :=
  (ExecutionRun.sound events).valid

/-- However calls interleave and crash, the server hears of an intent only once it is stored, and a stored handle is one that the
server reported. -/
theorem ExecutionRun.intents_recorded (events : List (SharedEvent ExecutionOperation)) :
    let store := (ExecutionRun.after events {}).store
    (∀ entry ∈ store.dispatches, ∃ write ∈ store.writes, write.session = entry.sessionId ∧
      write.after.dispatchIntent = some entry.intent) ∧
    (∀ sent ∈ store.responses, ∃ write ∈ store.writes, write.session = sent.sessionId ∧
      write.after.Intends sent.key sent.response) ∧
    ∀ sessionId record handle, store.sessions.get? sessionId = some record → record.handle = some handle →
      ∃ operation, store.Origin record handle operation := by
  intro store
  have valid : store.Valid := ExecutionRun.valid events
  refine ⟨valid.dispatched, valid.sent, fun sessionId record handle found known => ?_⟩
  rw [valid.stored, Option.map_eq_some_iff] at found
  obtain ⟨write, last, rfl⟩ := found
  exact valid.origin write (History.latest_spec last).1 handle known

end PlanWeave.WorkspaceExecution
