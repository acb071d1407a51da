import PlanWeave.Lib.History
import PlanWeave.WorkspaceExecution.Coordinator

namespace PlanWeave.WorkspaceExecution
open OrderedMap

def RemoteHandle.Ahead (handle next : RemoteHandle) : Prop :=
  handle.operationRevision < next.operationRevision ∨
    handle.operationRevision = next.operationRevision ∧ handle.attemptVersion ≤ next.attemptVersion

/-- What time makes of the record of an interaction: it is changed only while it is pending. -/
structure InteractionRecord.Leads (record next : InteractionRecord) : Prop where
  final : record.status ≠ .pending → next = record
  intent : ∀ intent, record.responseIntent = some intent →
    next.responseIntent = some intent ∨ next.status ≠ .pending ∧ next.responseIntent = none

def RecordsLead (records next : InteractionRecords) : Prop :=
  ∀ key record, records.get? key = some record → ∃ later, next.get? key = some later ∧ record.Leads later

namespace SessionRecord
variable (record next : SessionRecord)

structure SameOutcome : Prop where
  phase : next.phase = record.phase
  error : next.error = record.error
  finishedAt : next.finishedAt = record.finishedAt

structure Leads : Prop where
  blockRef : next.blockRef = record.blockRef
  intent : next.dispatchIntent = record.dispatchIntent
  observed : next.observedOperationId = record.observedOperationId
  handle : ∀ handle, record.handle = some handle → ∃ later, next.handle = some later ∧ handle.Ahead later
  outcome : record.phase.terminal = true → record.SameOutcome next
  interactions : RecordsLead record.interactions next.interactions

def carriedCursor (attempt : Option String) : Nat :=
  ((record.handle.filter (·.executionAttemptId = attempt)).map (·.eventCursor)).getD 0

def Intends (key : InteractionIdentity) (response : InteractionResponse) : Prop :=
  ∃ interaction intent, record.interactions.get? key = some interaction ∧ interaction.responseIntent = some intent ∧
    intent.response = response

end SessionRecord

/-- `persistRemoteObservation` writes a snapshot over an open session that is not ahead of it. -/
structure ObservationLaw (original : SessionRecord) (snapshot : AdapterSnapshot) (before after : SessionRecord) : Prop where
  running : before.phase.terminal = false
  fresh : before.handle.any (observationSuperseded · snapshot) = false
  handle : after.handle = some snapshot.handle
  interactions : after.interactions =
    if snapshot.terminal.terminal then terminalInteractions before.interactions else before.interactions
  phase : after.phase.terminal = snapshot.terminal.terminal
  cursor : snapshot.handle.eventCursor = original.carriedCursor snapshot.handle.executionAttemptId
  session : original.sessionId = before.sessionId

structure EvidenceLaw (handle : RemoteHandle) (views : List InteractionView) (before after : SessionRecord) : Prop where
  fresh : ∃ stored, before.handle = some stored ∧ evidenceSuperseded stored handle = false
  version : handle.attemptStateVersion ≠ none
  handle : after.handle = some handle
  interactions : after.interactions = interactionRecords before.interactions views
  outcome : before.SameOutcome after

structure InteractionsLaw (records : InteractionRecords) (before after : SessionRecord) : Prop where
  handle : after.handle = before.handle
  interactions : after.interactions = records
  outcome : before.SameOutcome after

/-- The interaction is pending and has no response yet, in a session that is open, and the intent is one for it. -/
structure AwaitsResponse (key : InteractionIdentity) (intent : ResponseIntent) (record : SessionRecord) : Prop where
  running : record.phase.terminal = false
  pending : record.interactions.get? key = some ⟨.pending, none⟩
  identity : intent.request.identity key.operationId = key

namespace WriteCause

def Follows (before after : SessionRecord) : WriteCause → Prop
  | dispatching | observing => False
  | observation original snapshot => ObservationLaw original snapshot before after
  | evidence handle views => EvidenceLaw handle views before after
  | diagnostic _ => InteractionsLaw before.interactions before after
  | interaction view =>
    InteractionsLaw (interactionRecords before.interactions [view]) before after ∧ view.status = .settled
  | interactions _ page now =>
    let records := interactionRecords before.interactions (page.map (expireView now))
    InteractionsLaw (if before.phase.terminal then terminalInteractions records else records) before after
  | responseIntent key intent =>
    InteractionsLaw (setResponseIntent before.interactions key intent) before after ∧ AwaitsResponse key intent before

def page : WriteCause → List InteractionView
  | evidence _ views => views
  | interaction view => [view]
  | interactions _ page _ => page
  | responseIntent key intent => [⟨key.operationId, intent.request, .pending, none⟩]
  | _ => []

end WriteCause

def SessionRecord.Bound (record : SessionRecord) : Prop :=
  ∃ state, record.workspaceExecution = some state ∧ state.valid = true ∧ state.binding.blockRef = record.blockRef

structure PatchLaw (cause : WriteCause) (before after : SessionRecord) : Prop where
  sessionId : after.sessionId = before.sessionId
  stateVersion : after.stateVersion = before.stateVersion + 1
  blockRef : after.blockRef = before.blockRef
  intent : after.dispatchIntent = before.dispatchIntent
  observed : after.observedOperationId = before.observedOperationId
  bound : after.Bound
  follows : cause.Follows before after

def SessionWrite.session (write : SessionWrite) : Nat := write.after.sessionId

def ScopeFinished (log : List SessionWrite) (blockRef : String) : Prop :=
  ∀ write ∈ log, write.after.blockRef = blockRef →
    ∃ last ∈ log, last.session = write.session ∧ last.after.phase.terminal = true

/-- What `execute` and `observeExisting` have made sure of under the lock of the scope. -/
inductive CreationReason (log : List SessionWrite) (record : SessionRecord) : WriteCause → Prop
  | dispatching {intent : DispatchIntent} (intends : record.dispatchIntent = some intent)
      (unobserved : record.observedOperationId = none) (place : intent.blockRef = record.blockRef)
      (keyed : ∀ write ∈ log, write.after.blockRef = record.blockRef →
        ∀ other, write.after.dispatchIntent = some other → other.idempotencyKey ≠ intent.idempotencyKey)
      (finished : ScopeFinished log record.blockRef) : CreationReason log record .dispatching
  | observing {operationId : String} (unintended : record.dispatchIntent = none)
      (observes : record.observedOperationId = some operationId)
      (unobserved : ∀ write ∈ log, write.after.blockRef = record.blockRef →
        write.after.observedOperationId ≠ some operationId) : CreationReason log record .observing

structure CreationLaw (log : List SessionWrite) (cause : WriteCause) (after : SessionRecord) : Prop where
  fresh : ∀ write ∈ log, write.session ≠ after.sessionId
  phase : after.phase = .running
  handle : after.handle = none
  interactions : after.interactions = ∅
  bound : after.Bound
  reason : CreationReason log after cause

/-- A write follows the last record of its session, or is the first of it. -/
inductive WriteLaw (log : List SessionWrite) : SessionWrite → Prop
  | creation {cause : WriteCause} {after : SessionRecord} (law : CreationLaw log cause after) :
    WriteLaw log ⟨cause, none, after⟩
  | patch {cause : WriteCause} {before after : SessionRecord}
      (last : (History.latest SessionWrite.session log before.sessionId).map (·.after) = some before)
      (law : PatchLaw cause before after) : WriteLaw log ⟨cause, some before, after⟩

theorem RemoteHandle.Ahead.refl (handle : RemoteHandle) : handle.Ahead handle := .inr ⟨rfl, Int.le_refl _⟩

theorem RemoteHandle.Ahead.trans {first second third : RemoteHandle} (before : first.Ahead second) (after : second.Ahead third) :
    first.Ahead third := by
  unfold RemoteHandle.Ahead at *
  omega

variable {handle stored : RemoteHandle} {cause : WriteCause} {before after : SessionRecord}

theorem RemoteHandle.Ahead.revision_le {next : RemoteHandle} (ahead : handle.Ahead next) :
    handle.operationRevision ≤ next.operationRevision := by
  unfold RemoteHandle.Ahead at ahead
  omega

namespace InteractionRecord

theorem Leads.refl (record : InteractionRecord) : record.Leads record :=
  ⟨fun _ => rfl, fun _ intends => .inl intends⟩

theorem Leads.trans {first second third : InteractionRecord} (before : first.Leads second) (after : second.Leads third) :
    first.Leads third where
  final done := by
    have same := before.final done
    rw [same] at after
    exact after.final done
  intent intent intends := by
    rcases before.intent intent intends with kept | ⟨done, dropped⟩
    · exact after.intent intent kept
    · rw [after.final done]
      exact .inr ⟨done, dropped⟩

end InteractionRecord

variable {records : InteractionRecords} {log : List SessionWrite}

namespace RecordsLead

theorem refl (records : InteractionRecords) : RecordsLead records records :=
  fun _ record found => ⟨record, found, .refl record⟩

theorem trans {first second third : InteractionRecords} (before : RecordsLead first second) (after : RecordsLead second third) :
    RecordsLead first third := by
  intro key record found
  obtain ⟨middle, reached, leads⟩ := before key record found
  obtain ⟨last, ended, further⟩ := after key middle reached
  exact ⟨last, ended, leads.trans further⟩

theorem recordView (records : InteractionRecords) (view : InteractionView) : RecordsLead records (recordView records view) := by
  intro key record found
  unfold WorkspaceExecution.recordView
  cases previous : records.get? view.key with
  | none =>
    have apart : key ≠ view.key := by
      intro same
      rw [same, previous] at found
      cases found
    exact ⟨record, by simp only [get?_set_of_ne _ _ apart, found], .refl record⟩
  | some old =>
    by_cases pending : old.status = .pending
    · simp only [pending, if_true]
      by_cases same : key = view.key
      · rw [same, previous] at found
        cases found
        rw [same]
        refine ⟨_, get?_set_self _ _ _, fun done => absurd pending done, fun intent intends => ?_⟩
        by_cases waits : view.status = .pending
        · exact .inl (by simp [waits, intends])
        · exact .inr ⟨waits, by simp [waits]⟩
      · exact ⟨record, by simp only [get?_set_of_ne _ _ same, found], .refl record⟩
    · simp only [pending, if_false]
      exact ⟨record, found, .refl record⟩

theorem interactionRecords (records : InteractionRecords) (views : List InteractionView) :
    RecordsLead records (interactionRecords records views) := by
  induction views generalizing records with
  | nil => exact refl records
  | cons view _ ih => exact (recordView records view).trans (ih _)

theorem terminalInteractions (records : InteractionRecords) : RecordsLead records (terminalInteractions records) := by
  intro key record found
  refine ⟨expirePending record, ?_, fun done => ?_, fun intent intends => .inl ?_⟩
  · simp [WorkspaceExecution.terminalInteractions, get?_mapValues, found]
  · unfold expirePending
    rw [if_neg done]
  · unfold expirePending
    split
    · exact intends
    · exact intends

theorem setResponseIntent {key : InteractionIdentity} {intent : ResponseIntent}
    (free : records.get? key = some ⟨.pending, none⟩) : RecordsLead records (setResponseIntent records key intent) := by
  intro other record found
  unfold WorkspaceExecution.setResponseIntent
  simp only [free]
  by_cases same : other = key
  · rw [same, free] at found
    cases found
    rw [same]
    exact ⟨_, get?_set_self _ _ _, fun done => absurd rfl done, fun intent intends => by cases intends⟩
  · exact ⟨record, by rw [get?_set_of_ne _ _ same, found], .refl record⟩

end RecordsLead

namespace SessionRecord

theorem Leads.refl (record : SessionRecord) : record.Leads record where
  blockRef := rfl
  intent := rfl
  observed := rfl
  handle handle found := ⟨handle, found, .refl handle⟩
  outcome _ := ⟨rfl, rfl, rfl⟩
  interactions := .refl _

theorem Leads.trans {first second third : SessionRecord} (before : first.Leads second) (after : second.Leads third) :
    first.Leads third where
  blockRef := after.blockRef.trans before.blockRef
  intent := after.intent.trans before.intent
  observed := after.observed.trans before.observed
  handle handle found := by
    obtain ⟨middle, reached, ahead⟩ := before.handle handle found
    obtain ⟨last, ended, further⟩ := after.handle middle reached
    exact ⟨last, ended, ahead.trans further⟩
  outcome terminal := by
    have first := before.outcome terminal
    have second := after.outcome (by rw [first.phase]; exact terminal)
    exact ⟨second.phase.trans first.phase, second.error.trans first.error, second.finishedAt.trans first.finishedAt⟩
  interactions := before.interactions.trans after.interactions

end SessionRecord

theorem ahead_of_not_observationSuperseded {snapshot : AdapterSnapshot}
    (fresh : observationSuperseded stored snapshot = false) : stored.Ahead snapshot.handle := by
  simp only [observationSuperseded, Bool.or_eq_false_iff, Bool.and_eq_false_iff, decide_eq_false_iff_not] at fresh
  unfold RemoteHandle.Ahead
  omega

theorem ahead_of_not_evidenceSuperseded (fresh : evidenceSuperseded stored handle = false)
    (version : handle.attemptStateVersion ≠ none) : stored.Ahead handle := by
  simp only [evidenceSuperseded, Bool.or_eq_false_iff, decide_eq_false_iff_not] at fresh
  unfold RemoteHandle.Ahead RemoteHandle.attemptVersion
  cases observed : handle.attemptStateVersion with
  | none => exact absurd observed version
  | some new =>
    cases known : stored.attemptStateVersion with
    | none => simp; omega
    | some old =>
      have kept : ¬ new < old := by simpa [observed, known] using fresh.1.2
      simp only [Option.map_some, Option.getD_some, Int.ofNat_eq_natCast, Int.ofNat_le]
      omega

theorem InteractionsLaw.leads
    (law : PatchLaw cause before after) (kept : InteractionsLaw records before after)
    (lead : RecordsLead before.interactions records) : before.Leads after where
  blockRef := law.blockRef
  intent := law.intent
  observed := law.observed
  handle handle found := ⟨handle, kept.handle.trans found, .refl handle⟩
  outcome _ := kept.outcome
  interactions := kept.interactions ▸ lead

theorem PatchLaw.leads (law : PatchLaw cause before after) :
    before.Leads after := by
  have follows := law.follows
  cases cause with
  | dispatching => exact follows.elim
  | observing => exact follows.elim
  | observation original snapshot =>
    have observed : ObservationLaw original snapshot before after := follows
    refine ⟨law.blockRef, law.intent, law.observed, fun handle found => ?_, fun terminal => ?_, ?_⟩
    · have fresh := observed.fresh
      rw [found] at fresh
      exact ⟨snapshot.handle, observed.handle, ahead_of_not_observationSuperseded fresh⟩
    · rw [observed.running] at terminal
      cases terminal
    · rw [observed.interactions]
      split
      · exact .terminalInteractions _
      · exact .refl _
  | evidence handle views =>
    have collected : EvidenceLaw handle views before after := follows
    refine ⟨law.blockRef, law.intent, law.observed, fun stored found => ?_, fun _ => collected.outcome, ?_⟩
    · obtain ⟨_, holds, fresh⟩ := collected.fresh
      rw [found] at holds
      cases holds
      exact ⟨handle, collected.handle, ahead_of_not_evidenceSuperseded fresh collected.version⟩
    · rw [collected.interactions]
      exact .interactionRecords _ _
  | diagnostic => exact InteractionsLaw.leads law follows (.refl _)
  | interaction => exact InteractionsLaw.leads law follows.1 (.interactionRecords _ _)
  | interactions =>
    refine InteractionsLaw.leads law follows ?_
    split
    · exact (RecordsLead.interactionRecords _ _).trans (.terminalInteractions _)
    · exact .interactionRecords _ _
  | responseIntent => exact InteractionsLaw.leads law follows.1 (.setResponseIntent follows.2.pending)

theorem records_lead (lawful : History.Lawful WriteLaw log) :
    log.Pairwise fun earlier later => earlier.session = later.session →
      earlier.after.Leads later.after ∧ earlier.after.stateVersion < later.after.stateVersion := by
  apply lawful.pairwise
  · intro first second third before after
    exact ⟨before.1.trans after.1, Nat.lt_trans before.2 after.2⟩
  intro log entry last _ follows found
  have spec := History.latest_spec found
  cases follows with
  | creation law => exact absurd spec.2 (law.fresh last spec.1)
  | @patch cause before after present law =>
    have session : SessionWrite.session ⟨cause, some before, after⟩ = before.sessionId := law.sessionId
    rw [session] at found
    rw [found] at present
    cases present
    exact ⟨law.leads, Nat.lt_of_lt_of_eq (Nat.lt_succ_self _) law.stateVersion.symm⟩

theorem records_bound (lawful : History.Lawful WriteLaw log) : ∀ write ∈ log, write.after.Bound := by
  apply lawful.all
  intro log entry _ _ follows
  cases follows with
  | creation law => exact law.bound
  | patch _ law => exact law.bound

end PlanWeave.WorkspaceExecution
