import PlanWeave.WorkspaceExecution.CheckpointRuns

namespace PlanWeave.WorkspaceExecution
open History List Option

def scopeFinished (log : List SessionWrite) (blockRef : String) : Bool :=
  log.all fun write => write.after.blockRef ≠ blockRef ||
    log.any fun last => last.session = write.session && last.after.phase.terminal

namespace ExecutionStore
variable (store : ExecutionStore)

def keyOf (operationId : String) : Option String := (store.operations.get? operationId).bind (·.key)

/-- A session that is created to observe an operation is the only open one of its scope, and no session was created to
dispatch the operation. -/
def observesApart (log : List SessionWrite) (write : SessionWrite) : Bool :=
  write.cause ≠ .observing || scopeFinished log write.after.blockRef && log.all fun earlier =>
    earlier.after.dispatchIntent.all fun intent =>
      write.after.observedOperationId.bind store.keyOf ≠ some intent.idempotencyKey

structure AvoidsOverlap : Prop where
  locked : ∀ entry ∈ store.dispatches, entry.locked = true
  apart : History.Lawful (fun log write => store.observesApart log write = true) store.writes

structure SingleDispatch : Prop where
  intent : store.writes.Pairwise fun earlier later => earlier.session = later.session →
    later.after.dispatchIntent = earlier.after.dispatchIntent
  carried : ∀ entry ∈ store.dispatches, ∃ record, store.sessions.get? entry.sessionId = some record ∧
    record.dispatchIntent = some entry.intent
  once : ∀ entry ∈ store.dispatches, entry.handle = none
  operation : store.writes.Pairwise fun earlier later => earlier.session = later.session → ∀ handle,
    earlier.after.handle = some handle → ∃ next, later.after.handle = some next ∧ next.operationId = handle.operationId
  scopes : ∀ first second one other, store.sessions.get? first = some one → store.sessions.get? second = some other →
    one.phase.terminal = false → other.phase.terminal = false → one.blockRef = other.blockRef → first = second
  names : ∀ first second one other operationId, store.sessions.get? first = some one → store.sessions.get? second = some other →
    one.names operationId = true → other.names operationId = true → first = second

/-- The operation may come to be of the session: it observes it, or was created to dispatch it. -/
def NamedBy (operationId : String) (record : SessionRecord) : Prop :=
  record.observedOperationId = some operationId ∨
    ∃ intent, record.dispatchIntent = some intent ∧ store.keyOf operationId = some intent.idempotencyKey

def Ended (sessionId : Nat) : Prop := ∃ write ∈ store.writes, write.session = sessionId ∧ write.after.phase.terminal = true

end ExecutionStore

variable {log : List SessionWrite}

/-- What holds of a new session and the older ones of its scope holds of any two sessions of a scope. -/
theorem sessions_related (related : SessionRecord → SessionRecord → Prop) {extra : List SessionWrite → SessionWrite → Prop}
    (lawful : History.Lawful (fun log write => WriteLaw log write ∧ extra log write) log)
    (created : ∀ {log : List SessionWrite} {cause : WriteCause} {after : SessionRecord}, CreationLaw log cause after →
      extra log ⟨cause, none, after⟩ → ∀ earlier ∈ log, earlier.after.blockRef = after.blockRef → related earlier.after after)
    (symm : ∀ {first second}, related first second → related second first)
    (leads : ∀ {first second later : SessionRecord}, second.Leads later → second.sessionId = later.sessionId →
      related first second → related first later) :
    ∀ first ∈ log, ∀ second ∈ log, first.after.blockRef = second.after.blockRef → first.session ≠ second.session →
      related first.after second.after := by
  induction lawful with
  | nil => exact fun _ member => absurd member not_mem_nil
  | @snoc log entry _ follows ih =>
    have new : ∀ earlier ∈ log, earlier.after.blockRef = entry.after.blockRef → earlier.session ≠ entry.session →
        related earlier.after entry.after := by
      intro earlier member place different
      obtain ⟨law, also⟩ := follows
      cases law with
      | creation law => exact created law also earlier member place
      | @patch _ _ after present law =>
        obtain ⟨last, found, stands⟩ := map_eq_some_iff.mp present
        have spec := latest_spec found
        have scope : earlier.after.blockRef = last.after.blockRef := by
          rw [stands, ← law.blockRef]
          exact place
        have apart : earlier.session ≠ last.session := by
          rw [spec.2, ← law.sessionId]
          exact different
        have known := ih earlier member last spec.1 scope apart
        rw [stands] at known
        exact leads law.leads law.sessionId.symm known
    intro first one second other place different
    rcases mem_append.mp one with earlier | final
    · rcases mem_append.mp other with also | last
      · exact ih first earlier second also place different
      · rw [mem_singleton.mp last] at place different ⊢
        exact new first earlier place different
    · rcases mem_append.mp other with also | last
      · rw [mem_singleton.mp final] at place different ⊢
        exact symm (new second also place.symm different.symm)
      · rw [mem_singleton.mp final, mem_singleton.mp last] at different
        exact absurd rfl different

namespace ExecutionStore
variable {store : ExecutionStore}

theorem scopeFinished_iff {blockRef : String} : scopeFinished log blockRef = true ↔ ScopeFinished log blockRef := by
  simp only [scopeFinished, ScopeFinished, List.all_eq_true, Bool.or_eq_true, decide_eq_true_eq, List.any_eq_true,
    Bool.and_eq_true, ne_eq, decide_not, Bool.not_eq_true', decide_eq_false_iff_not]
  constructor
  · intro finished write member place
    rcases finished write member with different | ended
    · exact absurd place different
    · exact ended
  · intro finished write member
    by_cases place : write.after.blockRef = blockRef
    · exact .inr (finished write member place)
    · exact .inl place

section
variable (valid : store.Valid)
include valid

theorem Valid.extended (avoids : store.AvoidsOverlap) :
    History.Lawful (fun log write => WriteLaw log write ∧ store.observesApart log write = true ∧
      (∀ earlier ∈ log, earlier ∈ store.writes) ∧ ∀ earlier ∈ log, write.before = none →
        earlier.after.blockRef = write.after.blockRef → ∀ operationId intent,
        earlier.after.observedOperationId = some operationId → write.after.dispatchIntent = some intent →
        store.keyOf operationId ≠ some intent.idempotencyKey) store.writes := by
  have members : store.writes.Pairwise fun earlier _ => earlier ∈ store.writes :=
    pairwise_of_forall_mem_list fun earlier member _ _ => member
  have apart : store.writes.Pairwise fun earlier later => later.before = none →
      earlier.after.blockRef = later.after.blockRef → ∀ operationId intent,
      earlier.after.observedOperationId = some operationId → later.after.dispatchIntent = some intent →
      store.keyOf operationId ≠ some intent.idempotencyKey := by
    apply valid.apart.imp
    intro earlier later free new place operationId intent observes intends keyed
    obtain ⟨operation, found, named⟩ := bind_eq_some_iff.mp keyed
    exact free new place operationId operation intent observes found intends named
  exact valid.lawful.and (avoids.apart.and ((lawful_of_pairwise members).and (lawful_of_pairwise apart)))

theorem Valid.one_ended (avoids : store.AvoidsOverlap) :
    ∀ first ∈ store.writes, ∀ second ∈ store.writes, first.after.blockRef = second.after.blockRef →
      first.session ≠ second.session → store.Ended first.session ∨ store.Ended second.session := by
  have finished : ∀ {log : List SessionWrite} {blockRef : String}, ScopeFinished log blockRef →
      (∀ earlier ∈ log, earlier ∈ store.writes) → ∀ earlier ∈ log, earlier.after.blockRef = blockRef →
      store.Ended earlier.session := by
    intro log blockRef finished inside earlier member place
    obtain ⟨last, among, session, terminal⟩ := finished earlier member place
    exact ⟨last, inside last among, session, terminal⟩
  apply sessions_related (fun first second => store.Ended first.sessionId ∨ store.Ended second.sessionId)
    (valid.extended avoids)
  · intro log cause after law extra earlier member place
    left
    have reason := law.reason
    cases reason with
    | dispatching _ _ _ _ closed => exact finished closed extra.2.1 earlier member place
    | observing _ _ _ =>
      have apart := extra.1
      simp only [observesApart, ne_eq, not_true_eq_false, decide_false, Bool.false_or, Bool.and_eq_true] at apart
      exact finished (scopeFinished_iff.mp apart.1) extra.2.1 earlier member place
  · exact fun either => either.symm
  · intro first second later _ session either
    rw [← session]
    exact either

theorem Valid.named_once (avoids : store.AvoidsOverlap) :
    ∀ first ∈ store.writes, ∀ second ∈ store.writes, first.after.blockRef = second.after.blockRef →
      first.session ≠ second.session → ∀ operationId, store.NamedBy operationId first.after →
      ¬ store.NamedBy operationId second.after := by
  apply sessions_related (fun first second => ∀ operationId, store.NamedBy operationId first →
    ¬ store.NamedBy operationId second) (valid.extended avoids)
  · intro log cause after law extra earlier member place operationId names also
    have reason := law.reason
    cases reason with
    | @dispatching intent intends unobserved _ keyed _ =>
      rcases also with observes | ⟨other, same, named⟩
      · rw [unobserved] at observes
        cases observes
      rw [intends] at same
      cases same
      rcases names with observes | ⟨other, same, key⟩
      · exact extra.2.2 earlier member rfl place operationId intent observes intends named
      · rw [named] at key
        exact keyed earlier member place other same (Option.some.inj key).symm
    | @observing _ unintended observes unobserved =>
      rcases also with seen | ⟨_, same, _⟩
      · rw [observes] at seen
        cases seen
        rcases names with again | ⟨_, intends, keyed⟩
        · exact unobserved earlier member place again
        have apart := extra.1
        simp only [observesApart, ne_eq, not_true_eq_false, decide_false, Bool.false_or, Bool.and_eq_true,
          List.all_eq_true] at apart
        have free := apart.2 earlier member
        simp [intends, observes, keyed] at free
      · rw [unintended] at same
        cases same
  · exact fun free operationId names also => free operationId also names
  · intro first second later leads _ free operationId names also
    apply free operationId names
    unfold NamedBy at also ⊢
    rw [← leads.intent, ← leads.observed]
    exact also

theorem Valid.named_of_names {sessionId : Nat} {record : SessionRecord} {operationId : String}
    (found : store.sessions.get? sessionId = some record) (names : record.names operationId = true) :
    store.NamedBy operationId record ∧ ∃ operation, store.operations.get? operationId = some operation ∧
      operation.blockRef = record.blockRef := by
  have known := (valid.known_of_get? found).1
  simp only [SessionRecord.names, Bool.or_eq_true, decide_eq_true_eq] at names
  rcases names with observes | handled
  · obtain ⟨write, member, rfl⟩ := known
    exact ⟨.inl observes, valid.watched write member operationId observes⟩
  cases held : record.handle with
  | none =>
    rw [held] at handled
    cases handled
  | some =>
    rw [held] at handled
    have same := of_decide_eq_true handled
    obtain ⟨operation, origin⟩ := valid.originOf known held
    rw [← same]
    refine ⟨?_, operation, origin.found, origin.place⟩
    rcases origin.reason with ⟨intent, intends, keyed⟩ | observes
    · exact .inr ⟨intent, intends, by rw [keyOf, origin.found]; exact keyed⟩
    · exact .inl observes
end
end ExecutionStore

/-- In every run in which sessions are dispatched under the lock of their scope and observed apart, every state that it reaches
has one dispatch intent and one operation for each session, and one session for each operation and each open scope. -/
theorem ExecutionRun.single_dispatch (events : List (SharedEvent ExecutionOperation))
    (avoids : (ExecutionRun.after events {}).store.AvoidsOverlap) : (ExecutionRun.after events {}).store.SingleDispatch := by
  have valid := ExecutionRun.valid events
  have leads := records_lead valid.lawful
  generalize (ExecutionRun.after events {}).store = store at *
  constructor
  · exact leads.imp fun ahead session => (ahead session).1.intent
  · intro entry member
    obtain ⟨write, known, session, intends⟩ := valid.dispatched entry member
    obtain ⟨last, found⟩ := exists_latest SessionWrite.session known
    have stands : store.sessions.get? write.after.sessionId = some last.after := by
      rw [valid.stored]
      exact congrArg (Option.map (·.after)) found
    refine ⟨last.after, session ▸ stands, ?_⟩
    rw [(valid.current_leads ⟨write, known, rfl⟩ stands).intent]
    exact intends
  · exact valid.single avoids.locked
  · refine leads.imp_of_mem fun {earlier later} first second ahead session handle held => ?_
    obtain ⟨next, holds, _⟩ := (ahead session).1.handle handle held
    have same := valid.same_operation ⟨earlier, first, rfl⟩ ⟨later, second, rfl⟩ session held holds
    exact ⟨next, holds, same.symm⟩
  · intro first second one other found also running open_ place
    by_contra different
    obtain ⟨⟨write, member, same⟩, session⟩ := valid.known_of_get? found
    obtain ⟨⟨another, among, equal⟩, sessions⟩ := valid.known_of_get? also
    have writes : write.session = first := (congrArg SessionRecord.sessionId same).trans session
    have others : another.session = second := (congrArg SessionRecord.sessionId equal).trans sessions
    have closed : ∀ {sessionId record}, store.sessions.get? sessionId = some record → store.Ended sessionId →
        record.phase.terminal = true := by
      intro sessionId record stands ended
      obtain ⟨last, known, mine, terminal⟩ := ended
      rw [← mine] at stands
      rw [((valid.current_leads ⟨last, known, rfl⟩ stands).outcome terminal).phase]
      exact terminal
    have ended := valid.one_ended avoids write member another among (by rw [same, equal]; exact place)
      (by rw [writes, others]; exact different)
    rw [writes, others] at ended
    rcases ended with end_ | end_
    · rw [closed found end_] at running
      cases running
    · rw [closed also end_] at open_
      cases open_
  · intro first second one other operationId found also names named
    by_contra different
    obtain ⟨mine, _, served, place⟩ := valid.named_of_names found names
    obtain ⟨yours, _, serves, there⟩ := valid.named_of_names also named
    rw [served] at serves
    cases serves
    obtain ⟨⟨write, member, same⟩, session⟩ := valid.known_of_get? found
    obtain ⟨⟨last, among, equal⟩, sessions⟩ := valid.known_of_get? also
    have writes : write.session = first := (congrArg SessionRecord.sessionId same).trans session
    have others : last.session = second := (congrArg SessionRecord.sessionId equal).trans sessions
    apply valid.named_once avoids write member last among (by rw [same, equal]; exact place.symm.trans there)
      (by rw [writes, others]; exact different) operationId
    · rw [same]
      exact mine
    · rw [equal]
      exact yours

section Samples

def observes (operationId : String) : List (SharedEvent ExecutionOperation) :=
  [.call (.observeExisting (samplePorts 0 5 "unavailable") sampleLocator "T-001#B-001" operationId ⟨none, 0⟩)]

/-- A follower finds no operation, and dispatches the session when another one has followed it to its handle. -/
def repeatedDispatch : List (SharedEvent ExecutionOperation) :=
  executes "unavailable" ++ proceed 0 12 ++ [.crash 0] ++ follows 0 5 ++ proceed 1 9 ++ follows 0 5 ++ proceed 2 60 ++ proceed 1 60

def sharedOperation : List (SharedEvent ExecutionOperation) :=
  executes "unavailable" ++ proceed 0 13 ++ [.crash 0] ++ observes "OP-1" ++ proceed 1 60 ++ follows 0 5 ++ proceed 2 60

/-- A session is dispatched after it has a handle, and two sessions come to be of one operation. -/
theorem sessions_overlap : ¬ (ExecutionRun.after repeatedDispatch {}).store.SingleDispatch ∧
    ¬ (ExecutionRun.after sharedOperation {}).store.SingleDispatch := by
  refine ⟨fun single => ?_, fun single => ?_⟩
  · have again : ¬ ∀ entry ∈ (ExecutionRun.after repeatedDispatch {}).store.dispatches, entry.handle = none := by decide +kernel
    exact again single.once
  have first : ∃ one, (ExecutionRun.after sharedOperation {}).store.sessions.get? 0 = some one ∧
      one.names "OP-1" = true := by
    rw [← Option.any_eq_true]
    decide +kernel
  have second : ∃ other, (ExecutionRun.after sharedOperation {}).store.sessions.get? 1 = some other ∧
      other.names "OP-1" = true := by
    rw [← Option.any_eq_true]
    decide +kernel
  obtain ⟨one, found, names⟩ := first
  obtain ⟨other, also, named⟩ := second
  have same := single.names 0 1 one other "OP-1" found also names named
  cases same

/-- A session is recovered and comes to its end before another one observes the next operation of the scope. -/
def separateRun : List (SharedEvent ExecutionOperation) :=
  executes "unavailable" ++ proceed 0 13 ++ [.crash 0] ++ follows 0 5 ++ proceed 1 60 ++ reports 2 2 .completed [] ++
    follows 5 5 ++ proceed 3 60 ++ [.call (.report "OP-2" { sampleReport 1 .running with operationId := "OP-2" } [])] ++
    proceed 4 1 ++ observes "OP-2" ++ proceed 5 60

theorem single_dispatch_separate : (ExecutionRun.after separateRun {}).store.SingleDispatch :=
  ExecutionRun.single_dispatch separateRun ⟨by decide +kernel, lawful_of_take (by decide +kernel)⟩

end Samples
end PlanWeave.WorkspaceExecution
