import PlanWeave.WorkspaceExecution.CallSafety

namespace PlanWeave.WorkspaceExecution
open List Option

namespace SessionRecord

structure Forward (earlier later : SessionRecord) : Prop where
  handle : ∀ handle, earlier.handle = some handle → ∃ next, later.handle = some next ∧
    handle.operationRevision ≤ next.operationRevision ∧ (handle.executionAttemptId = next.executionAttemptId →
      handle.attemptVersion ≤ next.attemptVersion ∧ handle.eventCursor ≤ next.eventCursor)
  outcome : earlier.phase.terminal = true → earlier.SameOutcome later
  final : ∀ key interaction, earlier.interactions.get? key = some interaction → interaction.status ≠ .pending →
    later.interactions.get? key = some interaction

end SessionRecord

def NonePending (records : InteractionRecords) : Prop :=
  ∀ key interaction, records.get? key = some interaction → interaction.status ≠ .pending

/-- The observation that is written brings along the cursor that stands for its attempt, or a newer one. -/
def carriesCursor (earlier write : SessionWrite) : Bool :=
  match write.cause, earlier.after.handle with
  | .observation original snapshot, some handle =>
    handle.executionAttemptId ≠ snapshot.handle.executionAttemptId ||
      handle.eventCursor ≤ original.carriedCursor snapshot.handle.executionAttemptId
  | _, _ => true

/-- Evidence that is written of a session at its end has no pending interaction that is new to it. -/
def endsWithEvidence (write : SessionWrite) : Bool :=
  match write.cause, write.before with
  | .evidence _ views, some before =>
    !before.phase.terminal || views.all fun view => view.status ≠ .pending || before.interactions.has view.key
  | _, _ => true

namespace ExecutionRun
variable (run : ExecutionRun)

structure AvoidsSlips : Prop where
  cursors : run.store.writes.Pairwise fun earlier write => earlier.session = write.session → carriesCursor earlier write = true
  ends : ∀ write ∈ run.store.writes, endsWithEvidence write = true
  diagnosable : ∀ call ∈ run.calls, call.operation.collects.all CallPorts.diagnosable = true

structure MovesForward : Prop where
  checkpoints : run.store.writes.Pairwise fun earlier later => earlier.session = later.session → earlier.after.Forward later.after
  closed : ∀ write ∈ run.store.writes, write.after.phase.terminal = true → NonePending write.after.interactions
  diagnostics : ∀ write ∈ run.store.writes, ∀ error, write.cause = .diagnostic error →
    ∃ before, write.before = some before ∧ write.after.phase = before.phase ∧ write.after.handle = before.handle
  calls : ∀ index operation site error, run.Threw index operation (.refused site error) → operation.collects ≠ none →
    site.ofEvidence = false

end ExecutionRun

theorem pairwise_cases {α : Type} {related : α → α → Prop} {items : List α} (pairwise : items.Pairwise related) {left right : α}
    (first : left ∈ items) (second : right ∈ items) : left = right ∨ related left right ∨ related right left := by
  induction pairwise with
  | nil => cases first
  | cons head _ ih =>
    rcases mem_cons.mp first with rfl | among
    · rcases mem_cons.mp second with rfl | also
      · exact .inl rfl
      · exact .inr (.inl (head _ also))
    · rcases mem_cons.mp second with rfl | also
      · exact .inr (.inr (head _ among))
      · exact ih among also

theorem ExecutionStore.Valid.attemptVersion_le {store : ExecutionStore} (valid : store.Valid) {earlier later : SessionRecord}
    (known : store.Known earlier) (also : store.Known later) (session : earlier.sessionId = later.sessionId)
    {handle next : RemoteHandle} (held : earlier.handle = some handle) (holds : later.handle = some next)
    (ahead : handle.Ahead next) (attempt : handle.executionAttemptId = next.executionAttemptId) :
    handle.attemptVersion ≤ next.attemptVersion := by
  rcases ahead with revision | ⟨_, version⟩
  · have same := valid.same_operation known also session held holds
    obtain ⟨operation, one⟩ := valid.originOf known held
    obtain ⟨other, two⟩ := valid.originOf also holds
    have equal : operation = other := by
      have found := one.found
      rw [same, two.found] at found
      exact (Option.some.inj found).symm
    obtain ⟨old, reported, was⟩ := one.reported
    obtain ⟨new, reports, now⟩ := two.reported
    rw [← equal] at reports
    have ids : old.executionAttemptId = new.executionAttemptId := by
      have ids := attempt
      rw [was.attempt, now.attempt] at ids
      exact Option.some.inj ids
    obtain ⟨before, seen, _⟩ := map_eq_some_iff.mp was.revision
    obtain ⟨after, present, _⟩ := map_eq_some_iff.mp now.revision
    unfold RemoteHandle.attemptVersion
    rw [was.version, now.version]
    simp only [map_some, getD_some, Int.ofNat_eq_natCast, Int.ofNat_le]
    rcases pairwise_cases (valid.server handle.operationId operation one.found).ordered reported reports with rfl | first | second
    · exact Nat.le_refl _
    · exact first.version ids
    · have back := second.revision after before present seen
      omega
  · exact version

section Cursors
variable {log : List SessionWrite}

theorem cursors_le (lawful : History.Lawful WriteLaw log)
    (carries : log.Pairwise fun earlier write => earlier.session = write.session → carriesCursor earlier write = true) :
    log.Pairwise fun earlier later => earlier.session = later.session → ∀ handle next, earlier.after.handle = some handle →
      later.after.handle = some next → handle.executionAttemptId = next.executionAttemptId →
      handle.eventCursor ≤ next.eventCursor := by
  induction lawful with
  | nil => exact .nil
  | @snoc _ entry _ follows ih =>
    rw [pairwise_append] at carries ⊢
    have known := ih carries.1
    refine ⟨known, pairwise_singleton _ _, fun earlier member later single same handle next held holds attempt => ?_⟩
    rw [mem_singleton.mp single] at same holds
    have brings := carries.2.2 earlier member entry (mem_singleton.mpr rfl) same
    cases follows with
    | creation law =>
      rw [law.handle] at holds
      cases holds
    | @patch cause before after present law =>
      obtain ⟨_, found, stands⟩ := map_eq_some_iff.mp present
      have session : earlier.session = before.sessionId := same.trans law.sessionId
      have reached : ∀ stored, before.handle = some stored → handle.executionAttemptId = stored.executionAttemptId →
          handle.eventCursor ≤ stored.eventCursor := by
        intro stored kept alike
        rw [← session] at found
        rcases History.related_latest known member found with rfl | related
        · rw [stands, kept] at held
          cases held
          exact Nat.le_refl _
        · exact related handle stored held (by rw [stands]; exact kept) alike
      have same_handle : ∀ {records}, InteractionsLaw records before after → handle.eventCursor ≤ next.eventCursor := by
        intro records keeps
        rw [keeps.handle] at holds
        exact reached next holds attempt
      have law := law.follows
      cases cause with
      | dispatching => exact law.elim
      | observing => exact law.elim
      | observation original snapshot =>
        have observed : ObservationLaw original snapshot before after := law
        rw [observed.handle] at holds
        cases holds
        rw [observed.cursor]
        simpa [carriesCursor, held, attempt] using brings
      | evidence collected views =>
        have gathered : EvidenceLaw collected views before after := law
        rw [gathered.handle] at holds
        cases holds
        obtain ⟨stored, kept, fresh⟩ := gathered.fresh
        simp only [evidenceSuperseded, Bool.or_eq_false_iff, decide_eq_false_iff_not, ne_eq, Decidable.not_not] at fresh
        have below := reached stored kept (attempt.trans fresh.1.1.2.symm)
        omega
      | diagnostic => exact same_handle law
      | interaction => exact same_handle law.1
      | interactions => exact same_handle law
      | responseIntent => exact same_handle law.1

end Cursors

section Endings
variable {log : List SessionWrite} {records : InteractionRecords}

theorem nonePending_terminalInteractions : NonePending (terminalInteractions records) := by
  intro key interaction found
  simp only [terminalInteractions, OrderedMap.get?_mapValues] at found
  obtain ⟨_, _, rfl⟩ := map_eq_some_iff.mp found
  unfold expirePending
  split
  · exact fun absurd_ => by cases absurd_
  · rename_i done
    exact done

theorem nonePending_recordView {view : InteractionView} (none_ : NonePending records)
    (known : view.status = .pending → records.get? view.key ≠ none) : NonePending (recordView records view) := by
  unfold recordView
  cases found : records.get? view.key with
  | none => exact OrderedMap.forall_get?_set none_ fun pending => known pending found
  | some previous =>
    simp only [none_ view.key previous found, if_false]
    exact none_

theorem nonePending_interactionRecords {views : List InteractionView} (none_ : NonePending records)
    (known : ∀ view ∈ views, view.status = .pending → records.get? view.key ≠ none) :
    NonePending (interactionRecords records views) := by
  induction views generalizing records with
  | nil => exact none_
  | cons view _ ih =>
    apply ih (nonePending_recordView none_ (known view (mem_cons_self ..)))
    intro other member pending absent
    have present := known other (mem_cons_of_mem _ member) pending
    cases found : records.get? other.key with
    | none => exact present found
    | some record =>
      obtain ⟨_, kept, _⟩ := RecordsLead.recordView records view other.key record found
      rw [kept] at absent
      cases absent

theorem nonePending_of_terminal (lawful : History.Lawful WriteLaw log) (ends : ∀ write ∈ log, endsWithEvidence write = true) :
    ∀ write ∈ log, write.after.phase.terminal = true → NonePending write.after.interactions := by
  induction lawful with
  | nil => exact fun _ member => absurd member List.not_mem_nil
  | @snoc _ entry _ follows ih =>
    have known := ih fun write member => ends write (List.mem_append_left _ member)
    have mine := ends entry (List.mem_append_right _ (List.mem_singleton.mpr rfl))
    intro write member terminal
    rcases List.mem_append.mp member with earlier | final
    · exact known write earlier terminal
    rw [List.mem_singleton.mp final] at terminal ⊢
    cases follows with
    | creation law =>
      rw [law.phase] at terminal
      cases terminal
    | @patch cause before after present law =>
      obtain ⟨last, found, stands⟩ := Option.map_eq_some_iff.mp present
      have closed : before.SameOutcome after → NonePending before.interactions := by
        intro outcome
        rw [← stands]
        apply known last (History.latest_spec found).1
        rw [stands, ← outcome.phase]
        exact terminal
      have law := law.follows
      cases cause with
      | dispatching => exact law.elim
      | observing => exact law.elim
      | observation original snapshot =>
        have observed : ObservationLaw original snapshot before after := law
        rw [observed.phase] at terminal
        rw [observed.interactions, if_pos terminal]
        exact nonePending_terminalInteractions
      | evidence handle views =>
        have gathered : EvidenceLaw handle views before after := law
        rw [gathered.interactions]
        have ended : before.phase.terminal = true := by
          rw [← gathered.outcome.phase]
          exact terminal
        apply nonePending_interactionRecords (closed gathered.outcome)
        intro view among pending absent
        simp only [endsWithEvidence, ended, Bool.not_true, Bool.false_or, List.all_eq_true] at mine
        have recorded := mine view among
        simp [pending, OrderedMap.has, absent] at recorded
      | diagnostic =>
        have kept : InteractionsLaw before.interactions before after := law
        rw [kept.interactions]
        exact closed kept.outcome
      | interaction view =>
        have kept : InteractionsLaw (interactionRecords before.interactions [view]) before after := law.1
        rw [kept.interactions]
        apply nonePending_interactionRecords (closed kept.outcome)
        intro other among pending
        rw [List.mem_singleton.mp among, law.2] at pending
        cases pending
      | interactions _ page now =>
        have kept : InteractionsLaw (if before.phase.terminal then
          terminalInteractions (interactionRecords before.interactions (page.map (expireView now)))
          else interactionRecords before.interactions (page.map (expireView now))) before after := law
        have ended : before.phase.terminal = true := by
          rw [← kept.outcome.phase]
          exact terminal
        rw [kept.interactions, if_pos ended]
        exact nonePending_terminalInteractions
      | responseIntent key intent =>
        have kept : InteractionsLaw (setResponseIntent before.interactions key intent) before after := law.1
        have awaits := law.2.running
        rw [← kept.outcome.phase, terminal] at awaits
        cases awaits

end Endings

/-- In every run of calls that meets none of the three slips, in every state that it reaches, the checkpoints of each session
have moved forward, and no call has failed by collecting evidence. -/
theorem ExecutionRun.moves_forward (events : List (SharedEvent ExecutionOperation))
    (avoids : (ExecutionRun.after events {}).AvoidsSlips) : (ExecutionRun.after events {}).MovesForward := by
  have valid := ExecutionRun.valid events
  refine ⟨?_, nonePending_of_terminal valid.lawful avoids.ends, ?_, ?_⟩
  · have leads := records_lead valid.lawful
    have cursors := cursors_le valid.lawful avoids.cursors
    refine (leads.and cursors).imp_of_mem fun {earlier later} first second facts session => ?_
    have ahead := (facts.1 session).1
    refine ⟨fun handle held => ?_, ahead.outcome, fun key interaction found done => ?_⟩
    · obtain ⟨next, holds, further⟩ := ahead.handle handle held
      refine ⟨next, holds, further.revision_le, fun attempt => ⟨?_, facts.2 session handle next held holds attempt⟩⟩
      exact valid.attemptVersion_le ⟨earlier, first, rfl⟩ ⟨later, second, rfl⟩ session held holds further attempt
    · obtain ⟨_, kept, lead⟩ := ahead.interactions key interaction found
      rw [kept, lead.final done]
  · intro write member error cause
    apply valid.lawful.all (fun write => ∀ error, write.cause = .diagnostic error →
      ∃ before, write.before = some before ∧ write.after.phase = before.phase ∧ write.after.handle = before.handle) ?_
      write member error cause
    intro log entry _ _ follows error same
    cases follows with
    | creation law =>
      have reason := law.reason
      simp only at same
      rw [same] at reason
      cases reason
    | @patch _ before after _ law =>
      simp only at same
      have kept := law.follows
      rw [same] at kept
      have keeps : InteractionsLaw before.interactions before after := kept
      exact ⟨before, rfl, keeps.outcome.phase, keeps.handle⟩
  · intro index operation site error threw collects
    cases ports : operation.collects with
    | none => exact absurd ports collects
    | some ports_ =>
      have member := mem_of_getElem? threw
      have fits := avoids.diagnosable _ member
      simp only [ports, all_some] at fits
      exact (ExecutionRun.sound events).throws threw ports_ ports fits site error rfl

section Samples

def sampleLocator : RemoteLocator := ⟨false, "profile", "https://server", "workspace", "project", "canvas"⟩

def sampleBinding : RemoteBinding := ⟨"binding", sampleLocator, "T-001#B-001", ⟨1, 1, 1⟩, "content", "graph"⟩

def sampleReport (revision : Nat) (state : OperationState) : OperationObservation where
  operationId := "OP-1"
  projectId := "project"
  canvasId := "canvas"
  blockRef := "T-001#B-001"
  state := state
  dispatchId := "D-1"
  executionAttemptId := "A-1"
  attempt := ⟨"D-1", "A-1", revision, none⟩
  endpointId := some "endpoint"
  failureCode := none
  diagnostics := some
    ⟨revision, "A-1", "workspace", "project", "canvas", "endpoint", some ⟨1, 1, 1⟩, "content", "graph", none⟩

def samplePorts (afterCursor cursor : Nat) (message : String) : CallPorts where
  binding := sampleBinding
  agentEndpointId := "endpoint"
  generatedKey := "key"
  created := sampleReport 1 .running
  replays _ := ⟨"A-1", afterCursor, cursor, cursor, false, List.range' (afterCursor + 1) (cursor - afterCursor), []⟩
  errors _ := ⟨false, none, message⟩
  pageSize := 10
  rounds := 3

def sampleRequest : ExecutionRequest := ⟨sampleLocator, "T-001#B-001", true⟩

def sampleView : InteractionView :=
  ⟨"OP-1", ⟨"D-1", "L-1", "A-1", "S-1", "permission", 100, "proceed?"⟩, .pending, none⟩

def proceed (caller steps : Nat) : List (SharedEvent ExecutionOperation) := List.replicate steps (.advance caller true)

def executes (message : String) : List (SharedEvent ExecutionOperation) :=
  [.call (.execute (samplePorts 0 5 message) sampleRequest none)]

def reports (caller revision : Nat) (state : OperationState) (views : List InteractionView) :
    List (SharedEvent ExecutionOperation) :=
  [.call (.report "OP-1" (sampleReport revision state) views)] ++ proceed caller 1

def follows (afterCursor cursor : Nat) : List (SharedEvent ExecutionOperation) :=
  [.call (.follow (samplePorts afterCursor cursor "unavailable") sampleRequest 0)]

/-- A follower observes a new revision before the evidence of the first call is written, and writes it afterwards. -/
def staleCursor : List (SharedEvent ExecutionOperation) :=
  executes "unavailable" ++ proceed 0 18 ++ reports 1 2 .running [] ++ follows 0 7 ++ proceed 2 6 ++ proceed 0 13 ++ proceed 2 30

def lateInteraction : List (SharedEvent ExecutionOperation) :=
  executes "unavailable" ++ proceed 0 31 ++ reports 1 2 .completed [sampleView] ++ follows 5 5 ++ proceed 2 40

def untoldFailure : List (SharedEvent ExecutionOperation) :=
  executes "" ++ proceed 0 21 ++ [.advance 0 false] ++ proceed 0 5

def cursorsInOrder (earlier later : SessionRecord) : Bool :=
  match earlier.handle, later.handle with
  | some handle, some next => handle.executionAttemptId ≠ next.executionAttemptId || handle.eventCursor ≤ next.eventCursor
  | _, _ => true

theorem SessionRecord.Forward.cursorsInOrder {earlier later : SessionRecord} (forward : earlier.Forward later) :
    cursorsInOrder earlier later = true := by
  unfold WorkspaceExecution.cursorsInOrder
  split
  · rename_i handle next held holds
    obtain ⟨_, present, _, ahead⟩ := forward.handle handle held
    rw [holds] at present
    cases present
    by_cases attempt : handle.executionAttemptId = next.executionAttemptId
    · simp [attempt, (ahead attempt).2]
    · simp [attempt]
  · rfl

def ExecutionRun.failure (run : ExecutionRun) (index : Nat) : Option Failure :=
  match run.remaining index with
  | some (.throws reason) => some reason
  | _ => none

theorem ExecutionRun.threw_of_failure {run : ExecutionRun} {index : Nat} {reason : Failure}
    (failed : run.failure index = some reason) : ∃ operation, run.Threw index operation reason ∧
      (run.calls[index]?.map (·.operation)) = some operation := by
  unfold failure at failed
  split at failed
  · rename_i thrown left
    cases failed
    obtain ⟨call, found, rest⟩ := bind_eq_some_iff.mp left
    refine ⟨call.operation, ?_, by rw [found]; rfl⟩
    rw [SharedRun.Threw, found, ← rest]
  · cases failed

/-- Each of the three slips is enough for a run to break the checkpoints of its session. -/
theorem checkpoints_slip_back : ¬ (ExecutionRun.after staleCursor {}).MovesForward ∧
    ¬ (ExecutionRun.after lateInteraction {}).MovesForward ∧ ¬ (ExecutionRun.after untoldFailure {}).MovesForward := by
  refine ⟨fun forward => ?_, fun forward => ?_, fun forward => ?_⟩
  · have back : ¬ (ExecutionRun.after staleCursor {}).store.writes.Pairwise fun earlier later =>
        earlier.session = later.session → cursorsInOrder earlier.after later.after = true := by decide +kernel
    exact back (forward.checkpoints.imp fun ahead session => (ahead session).cursorsInOrder)
  · have pending : ∃ write ∈ (ExecutionRun.after lateInteraction {}).store.writes, write.after.phase.terminal = true ∧
        (write.after.interactions.get? sampleView.key).map (·.status) = some .pending := by decide +kernel
    obtain ⟨write, member, terminal, status⟩ := pending
    obtain ⟨interaction, found, waits⟩ := map_eq_some_iff.mp status
    exact forward.closed write member terminal sampleView.key interaction found waits
  · have failed : (ExecutionRun.after untoldFailure {}).failure 0 = some (.refused .diagnostics invalidState) := by
      decide +kernel
    have collecting : ((ExecutionRun.after untoldFailure {}).calls[0]?.map (·.operation)).all (·.collects.isSome) = true := by
      decide +kernel
    obtain ⟨operation, threw, called⟩ := ExecutionRun.threw_of_failure failed
    rw [called] at collecting
    have outside := forward.calls 0 operation .diagnostics invalidState threw (isSome_iff_ne_none.mp collecting)
    cases outside

/-- Two followers that read what stands, one of them at the end of the operation. -/
def steadyRun : List (SharedEvent ExecutionOperation) :=
  executes "unavailable" ++ proceed 0 31 ++ reports 1 2 .running [sampleView] ++ follows 5 7 ++ proceed 2 40 ++
    reports 3 3 .completed [{ sampleView with status := .expired }] ++ follows 7 7 ++ proceed 4 40

theorem moves_forward_steady : (ExecutionRun.after steadyRun {}).MovesForward :=
  ExecutionRun.moves_forward steadyRun ⟨by decide +kernel, by decide +kernel, by decide +kernel⟩

end Samples
end PlanWeave.WorkspaceExecution
