import PlanWeave.WorkspaceExecution.CheckpointRuns
import PlanWeave.WorkspaceExecution.ResponseRepeats

namespace PlanWeave.WorkspaceExecution
open ExecutionRun Option
variable {key : InteractionIdentity}

namespace ExecutionStore
variable (store : ExecutionStore)

/-- What the write expires by the clock of its caller or at the end of its session is expired on the server. -/
def expiresRightly (write : SessionWrite) : Bool :=
  write.before.all fun before => (write.cause.expires before).all fun key => store.statusOf key = some .expired

/-- A call that repeats a stored response ends with the interaction settled, by its own response unless it was before. -/
def Resolves (ports : CallPorts) (request : ExecutionRequest) (sessionId : Nat) (response : InteractionResponse)
    (key : InteractionIdentity) : Prop :=
  let ended := (respond ports request sessionId response).alone store
  ended.2.recordedStatus sessionId key = some .settled ∧ (store.statusOf key = some .settled ∨
    ∃ view, ended.1 = .ok view ∧ view.key = key ∧ view.status = .settled ∧ view.settlement = some response)

structure ResponsesSettle : Prop where
  equal : ∀ one ∈ store.responses, ∀ other ∈ store.responses, one.sessionId = other.sessionId → one.key = other.key →
    one.response = other.response
  stored : ∀ sent ∈ store.responses, ∃ write ∈ store.writes, write.session = sent.sessionId ∧
    write.after.Intends sent.key sent.response
  kept : store.writes.Pairwise fun earlier later => earlier.session = later.session → ∀ key response other,
    earlier.after.Intends key response → later.after.Intends key other → other = response
  agrees : ∀ write ∈ store.writes, ∀ key interaction, write.after.interactions.get? key = some interaction →
    interaction.status ≠ .pending → store.statusOf key = some interaction.status
  repeats : ∀ ports request response record handle operation,
    store.Answerable ports request response record handle operation →
    (∃ write ∈ store.writes, write.session = record.sessionId ∧
      write.after.Intends (response.identity handle.operationId) response) →
    store.statusOf (response.identity handle.operationId) ≠ some .expired →
    store.Resolves ports request record.sessionId response (response.identity handle.operationId)

variable {store}
variable {response : InteractionResponse} {record : SessionRecord}

theorem intends_unique {earlier later : SessionRecord} {other : InteractionResponse}
    (leads : earlier.Leads later) (intends : earlier.Intends key response) (again : later.Intends key other) :
    other = response := by
  obtain ⟨first, intent, found, stored, rfl⟩ := intends
  obtain ⟨_, _, reached, stands, rfl⟩ := again
  obtain ⟨_, kept, lead⟩ := leads.interactions key first found
  rw [reached] at kept
  cases kept
  rcases lead.intent intent stored with same | ⟨_, dropped⟩
  · rw [stands] at same
    cases same
    rfl
  · rw [stands] at dropped
    cases dropped

theorem Valid.agrees (valid : store.Valid) (rightly : ∀ write ∈ store.writes, store.expiresRightly write = true)
    (known : store.Known record) {interaction : InteractionRecord}
    (found : record.interactions.get? key = some interaction) (done : interaction.status ≠ .pending) :
    store.statusOf key = some interaction.status := by
  apply valid.interactions_all (fun key record => record.status ≠ .pending → store.statusOf key = some record.status)
    _ known found done
  intro write member before first earlier key record recorded done
  cases recorded with
  | kept stood => exact earlier key record stood done
  | @viewed view among same =>
    obtain ⟨_, stands, _, still⟩ := valid.interactionOf (valid.shown write member view among)
    rcases still with pending | equal
    · exact absurd pending done
    · rw [← same, statusOf, stands, equal]
      rfl
  | expired ended =>
    have right := rightly write member
    simp only [expiresRightly, first, all_some, List.all_eq_true, decide_eq_true_eq] at right
    exact right key ended
  | intended => exact absurd rfl done

theorem Valid.stands (valid : store.Valid) (current : store.sessions.get? record.sessionId = some record)
    (intended : ∃ write ∈ store.writes, write.session = record.sessionId ∧ write.after.Intends key response) :
    ∃ interaction, record.interactions.get? key = some interaction ∧
      (interaction.status ≠ .pending ∨ ∃ intent, interaction.responseIntent = some intent ∧ intent.response = response) := by
  obtain ⟨write, member, session, first, intent, found, stored, same⟩ := intended
  have stood : store.sessions.get? write.after.sessionId = some record := by
    have equal : write.after.sessionId = record.sessionId := session
    rw [equal]
    exact current
  have leads := valid.current_leads ⟨write, member, rfl⟩ stood
  obtain ⟨interaction, reached, lead⟩ := leads.interactions key first found
  refine ⟨interaction, reached, ?_⟩
  rcases lead.intent intent stored with kept | ⟨done, _⟩
  · exact .inr ⟨intent, kept, same⟩
  · exact .inl done

theorem Valid.resolves (valid : store.Valid) (rightly : ∀ write ∈ store.writes, store.expiresRightly write = true)
    {ports : CallPorts} {request : ExecutionRequest} {handle : RemoteHandle} {operation : ServerOperation}
    (answerable : store.Answerable ports request response record handle operation)
    (intended : ∃ write ∈ store.writes, write.session = record.sessionId ∧
      write.after.Intends (response.identity handle.operationId) response)
    (unexpired : store.statusOf (response.identity handle.operationId) ≠ some .expired) :
    store.Resolves ports request record.sessionId response (response.identity handle.operationId) := by
  obtain ⟨interaction, found, stands⟩ := valid.stands answerable.current intended
  have known := (valid.known_of_get? answerable.current).1
  have agrees := valid.agrees rightly known found
  unfold Resolves
  by_cases settled : store.statusOf (response.identity handle.operationId) = some .settled
  · exact ⟨respond_alone_of_settled valid answerable found agrees settled, .inl settled⟩
  have pending : interaction.status = .pending := by
    cases status : interaction.status with
    | pending => rfl
    | settled => exact absurd (status ▸ agrees (by rw [status]; decide)) settled
    | expired => exact absurd (status ▸ agrees (by rw [status]; decide)) unexpired
  rcases stands with done | ⟨_, intends, same⟩
  · exact absurd pending done
  have asked := valid.asked known found intends
  obtain ⟨current, served, _, _⟩ := valid.interactionOf asked.2
  have here : store.statusOf (response.identity handle.operationId) = some current.status := by
    rw [← asked.1, statusOf]
    exact congrArg (Option.map (·.status)) served
  have waits : store.statusOf (response.identity handle.operationId) = some .pending := by
    cases status : current.status with
    | pending => rw [here, status]
    | settled => exact absurd (status ▸ here) settled
    | expired => exact absurd (status ▸ here) unexpired
  obtain ⟨view, _, ran, key, done, answers, recorded⟩ :=
    respond_alone_of_pending valid answerable found pending intends same waits
  rw [ran]
  exact ⟨recorded, .inr ⟨view, rfl, key, done, answers⟩⟩

end ExecutionStore

/-- Whatever is called, lost or crashed, responses settle if nothing is expired that the server has not expired. -/
theorem ExecutionRun.responses_settle (events : List (SharedEvent ExecutionOperation))
    (rightly : ∀ write ∈ (after events {}).store.writes,
      (after events {}).store.expiresRightly write = true) :
    (after events {}).store.ResponsesSettle := by
  have valid := ExecutionRun.valid events
  constructor
  · intro one first other second session key
    obtain ⟨_, member, mine, intends⟩ := valid.sent one first
    obtain ⟨_, among, yours, again⟩ := valid.sent other second
    rw [key] at intends
    rcases pairwise_cases (records_lead valid.lawful) member among with rfl | leads | leads
    · exact (ExecutionStore.intends_unique (.refl _) again intends)
    · exact (ExecutionStore.intends_unique (leads ((mine.trans session).trans yours.symm)).1 intends again).symm
    · exact ExecutionStore.intends_unique (leads ((yours.trans session.symm).trans mine.symm)).1 again intends
  · exact valid.sent
  · apply (records_lead valid.lawful).imp
    intro earlier later leads session key response other intends again
    exact ExecutionStore.intends_unique (leads session).1 intends again
  · intro write member key interaction found done
    exact valid.agrees rightly ⟨write, member, rfl⟩ found done
  · intro ports request response record handle operation answerable intended unexpired
    exact valid.resolves rightly answerable intended unexpired

section Samples

def sampleResponse : InteractionResponse := ⟨"D-1", "L-1", "A-1", "S-1", "permission", "allow"⟩

def synchronizes : List (SharedEvent ExecutionOperation) :=
  [.call (.synchronizeInteractions (samplePorts 5 5 "unavailable") sampleRequest 0)]

def responds : List (SharedEvent ExecutionOperation) :=
  [.call (.respond (samplePorts 5 5 "unavailable") sampleRequest 0 sampleResponse)]

def asking : List (SharedEvent ExecutionOperation) :=
  executes "unavailable" ++ proceed 0 31 ++ reports 1 2 .running [sampleView] ++ follows 5 5 ++ proceed 2 40

def settledView : InteractionView := { sampleView with status := .settled, settlement := some sampleResponse }

/-- A page is read, its interaction is answered by a call that crashes, and the page is recorded when its time is over. -/
def latePage : List (SharedEvent ExecutionOperation) :=
  asking ++ synchronizes ++ proceed 3 7 ++ responds ++ proceed 4 26 ++ [.crash 4, .call (.tick 200)] ++ proceed 5 1 ++ proceed 3 30

def lostAnswer : List (SharedEvent ExecutionOperation) :=
  asking ++ responds ++ proceed 3 26 ++ [.crash 3] ++ reports 4 3 .completed [settledView] ++ follows 5 5 ++ proceed 5 40

theorem ExecutionStore.ResponsesSettle.recorded {store : ExecutionStore} (settle : store.ResponsesSettle) (valid : store.Valid)
    {sessionId : Nat} (expired : store.recordedStatus sessionId key = some .expired) :
    store.statusOf key = some .expired := by
  obtain ⟨interaction, found, status⟩ := map_eq_some_iff.mp expired
  obtain ⟨_, stored, stands⟩ := bind_eq_some_iff.mp found
  obtain ⟨⟨write, member, rfl⟩, _⟩ := valid.known_of_get? stored
  rw [settle.agrees write member key interaction stands (by rw [status]; decide), status]

theorem responses_expire : ¬ (after latePage {}).store.ResponsesSettle ∧
    ¬ (after lostAnswer {}).store.ResponsesSettle := by
  refine ⟨fun settle => ?_, fun settle => ?_⟩
  · have expired : (after latePage {}).store.recordedStatus 0 sampleView.key = some .expired := by decide +kernel
    have settled : (after latePage {}).store.statusOf sampleView.key = some .settled := by decide +kernel
    have agrees := settle.recorded (ExecutionRun.valid latePage) expired
    rw [settled] at agrees
    cases agrees
  · have expired : (after lostAnswer {}).store.recordedStatus 0 sampleView.key = some .expired := by
      decide +kernel
    have settled : (after lostAnswer {}).store.statusOf sampleView.key = some .settled := by decide +kernel
    have agrees := settle.recorded (ExecutionRun.valid lostAnswer) expired
    rw [settled] at agrees
    cases agrees

/-- A response whose answer was lost is repeated before the operation is completed. -/
def repeatedResponse : List (SharedEvent ExecutionOperation) :=
  asking ++ responds ++ proceed 3 26 ++ [.crash 3] ++ responds ++ proceed 4 60 ++ reports 5 3 .completed [settledView] ++
    follows 5 5 ++ proceed 6 40

theorem responses_settle_repeated : (after repeatedResponse {}).store.ResponsesSettle :=
  responses_settle repeatedResponse (by decide +kernel)

end Samples
end PlanWeave.WorkspaceExecution
