import PlanWeave.AutoRun.Transition

namespace PlanWeave
open AutoRunOperation Durable Function List Option

namespace AutoRunFiles

def trace (files : AutoRunFiles) : List (String × String) := files.written.map fun written => (written.transitionId, written.eventType)

def logged (files : AutoRunFiles) : List (String × String) :=
  files.events.filterMap fun event => event.transitionId.map fun id => (id, event.type)

def sessionLogged (files : AutoRunFiles) : List (String × String) :=
  files.sessionEvents.filterMap fun event =>
    if event.type ∈ finalRunSessionEventTypes then none else event.transitionId.map fun id => (id, event.type)

def finalEvents (files : AutoRunFiles) : List RunSessionEvent :=
  files.sessionEvents.filter fun event => decide (event.type ∈ finalRunSessionEventTypes)

def latest (first : DesktopAutoRunState) (files : AutoRunFiles) : DesktopAutoRunState :=
  (files.written.getLast?.map (·.state)).getD first

end AutoRunFiles

open AutoRunFiles

structure AutoRunKept (runId : String) (first : DesktopAutoRunState) (files : AutoRunFiles) : Prop where
  state : files.state = some (latest first files)
  runId : (latest first files).runId = runId
  runSession : (latest first files).runSessionId = first.runSessionId
  session : first.runSessionId.isSome = true → files.session.isSome = true
  distinct : (files.written.map (·.transitionId)).Nodup
  finals : (finalEvents files).length ≤ 1

structure AutoRunIdle (first : DesktopAutoRunState) (files : AutoRunFiles) : Prop where
  settled : files.intent = none
  markers : ∀ id, files.markers id = none
  events : logged files = trace files
  session : first.runSessionId.isSome = true → sessionLogged files = trace files

structure AutoRunPrepared (first : DesktopAutoRunState) (intent : AutoRunTransitionIntent) (files : AutoRunFiles) : Prop where
  pending : files.intent = some intent
  markers : ∀ id, files.markers id = none
  previous : buildExpectedAuthority (latest first files) = intent.previousAuthority
  changes : intent.previousAuthority ≠ intent.expectedAuthority
  events : logged files = trace files
  session : first.runSessionId.isSome = true → sessionLogged files = trace files

structure AutoRunCommitted (first : DesktopAutoRunState) (intent : AutoRunTransitionIntent) (before : List (String × String))
    (files : AutoRunFiles) : Prop where
  pending : files.intent = some intent
  history : trace files = before ++ [(intent.transitionId, intent.eventType)]
  expected : buildExpectedAuthority (latest first files) = intent.expectedAuthority
  marker : files.markers intent.transitionId = none ∨ files.markers intent.transitionId =
    some ⟨intent.transitionId, intent.runId, intent.expectedAuthority, latest first files⟩
  others : ∀ id, id ≠ intent.transitionId → files.markers id = none
  events : logged files = before ∨ logged files = trace files
  session : first.runSessionId.isSome = true → sessionLogged files = before ∨ sessionLogged files = trace files
  plain : intent.eventType ∉ finalRunSessionEventTypes

inductive AutoRunJournal (runId : String) (first : DesktopAutoRunState) (files : AutoRunFiles) : Prop where
  | idle (kept : AutoRunKept runId first files) (idle : AutoRunIdle first files)
  | prepared (kept : AutoRunKept runId first files) (intent : AutoRunTransitionIntent) (prepared : AutoRunPrepared first intent files)
  | committed (kept : AutoRunKept runId first files) (intent : AutoRunTransitionIntent) (before : List (String × String))
      (committed : AutoRunCommitted first intent before files)

variable {runId : String} {first : DesktopAutoRunState} {files : AutoRunFiles} {intent : AutoRunTransitionIntent}
  {before : List (String × String)} {buildSessionSummary : SessionSummaryBuilder}

theorem AutoRunJournal.kept (journal : AutoRunJournal runId first files) : AutoRunKept runId first files := by
  cases journal <;> assumption

theorem hasAutoRunTransitionEvent_iff : hasAutoRunTransitionEvent files intent = true ↔
    (intent.transitionId, intent.eventType) ∈ logged files := by
  simp only [hasAutoRunTransitionEvent, logged, List.any_eq_true, List.mem_filterMap, Bool.and_eq_true, beq_iff_eq,
    Option.map_eq_some_iff, Prod.mk.injEq]
  constructor
  · rintro ⟨event, member, type, id⟩
    exact ⟨event, member, intent.transitionId, id, rfl, type⟩
  · rintro ⟨event, member, _, named, same, type⟩
    exact ⟨event, member, type, by rw [named, same]⟩

theorem hasSessionTransitionEvent_iff (plain : intent.eventType ∉ finalRunSessionEventTypes) :
    hasSessionTransitionEvent files intent = true ↔ (intent.transitionId, intent.eventType) ∈ sessionLogged files := by
  simp only [hasSessionTransitionEvent, sessionLogged, List.any_eq_true, List.mem_filterMap, Bool.and_eq_true, beq_iff_eq]
  constructor
  · rintro ⟨event, member, type, id⟩
    rw [← type] at plain
    exact ⟨event, member, by rw [if_neg plain, id, type]; rfl⟩
  · rintro ⟨event, member, same⟩
    split at same
    · cases same
    · simp only [Option.map_eq_some_iff, Prod.mk.injEq] at same
      obtain ⟨_, named, equal, type⟩ := same
      exact ⟨event, member, type, by rw [named, equal]⟩

theorem AutoRunCommitted.fresh (kept : AutoRunKept runId first files) (committed : AutoRunCommitted first intent before files) :
    (intent.transitionId, intent.eventType) ∉ before := by
  intro member
  have distinct : ((trace files).map Prod.fst).Nodup := by
    have names : (trace files).map Prod.fst = files.written.map (·.transitionId) := by simp [trace]
    rw [names]
    exact kept.distinct
  rw [committed.history, map_append, nodup_append] at distinct
  exact distinct.2.2 intent.transitionId (mem_map_of_mem member) intent.transitionId (by simp) rfl

structure AutoRunProjected (runId : String) (first : DesktopAutoRunState) (intent : AutoRunTransitionIntent)
    (before : List (String × String)) (start files : AutoRunFiles) : Prop where
  kept : AutoRunKept runId first files
  committed : AutoRunCommitted first intent before files
  written : files.written = start.written
  events : logged start = trace start → logged files = trace files

theorem AutoRunProjected.refl (kept : AutoRunKept runId first files) (committed : AutoRunCommitted first intent before files) :
    AutoRunProjected runId first intent before files files := ⟨kept, committed, rfl, id⟩

theorem AutoRunProjected.trans {middle last : AutoRunFiles} (begun : AutoRunProjected runId first intent before files middle)
    (ended : AutoRunProjected runId first intent before middle last) : AutoRunProjected runId first intent before files last where
  kept := ended.kept
  committed := ended.committed
  written := ended.written.trans begun.written
  events holds := ended.events (begun.events holds)

theorem AutoRunProjected.journal {start : AutoRunFiles} (projected : AutoRunProjected runId first intent before start files) :
    AutoRunJournal runId first files := .committed projected.kept intent before projected.committed

abbrev Projects {α : Type} (runId : String) (first : DesktopAutoRunState) (intent : AutoRunTransitionIntent)
    (before : List (String × String)) (program : TransitionProgram α) (start : AutoRunFiles) (post : AutoRunFiles → Prop) : Prop :=
  program.Completes True start (AutoRunJournal runId first) fun _ left =>
    AutoRunProjected runId first intent before start left ∧ post left

variable {state : DesktopAutoRunState} {event : RunSessionEvent}

section
variable (kept : AutoRunKept runId first files) (committed : AutoRunCommitted first intent before files)
include kept committed

theorem ensureAutoRunEventProjection_projects :
    Projects runId first intent before (ensureAutoRunEventProjection state intent) files fun left => logged left = trace left := by
  apply completes_read_bind
  apply completes_when
  · intro missing
    have absent : logged files = before := by
      cases committed.events with
      | inl absent => exact absent
      | inr present =>
        have found : hasAutoRunTransitionEvent files intent = true ↔ _ := hasAutoRunTransitionEvent_iff
        rw [present, committed.history] at found
        simp [found.mpr (by simp)] at missing
    let event : AutoRunLogEvent :=
      ⟨intent.eventType, state.phase, state.stepCount, state.currentRef, some intent.transitionId, intent.data⟩
    let added : AutoRunFiles := { files with events := files.events ++ [event] }
    have events : logged added = trace added := by
      have whole := committed.history
      unfold trace at whole
      unfold logged at absent
      simp [logged, trace, added, event, absent, whole]
    have projected : AutoRunProjected runId first intent before files added :=
      { kept := { kept with }
        committed := { committed with events := .inr events }
        written := rfl
        events := fun _ => events }
    exact completes_write projected.journal ⟨projected, events⟩
  · intro present
    refine ⟨AutoRunProjected.refl kept committed, ?_⟩
    have found : (intent.transitionId, intent.eventType) ∈ logged files := by
      rw [← hasAutoRunTransitionEvent_iff]
      simpa using present
    cases committed.events with
    | inl absent => rw [absent] at found; exact absurd found (committed.fresh kept)
    | inr same => exact same

theorem updateRunSession_projects {runSessionId : String} {summary : Json} (present : first.runSessionId.isSome = true) :
    Projects runId first intent before (updateRunSession runSessionId state summary) files fun _ => True := by
  apply completes_read_bind
  have there := kept.session present
  cases found : files.session with
  | none =>
    rw [found] at there
    cases there
  | some session =>
    apply completes_write
    · exact .committed { kept with session := fun _ => rfl } intent before { committed with }
    · exact ⟨⟨{ kept with session := fun _ => rfl }, { committed with }, rfl, id⟩, trivial⟩

theorem appendRunSessionEvent_projects
    (finals : (finalEvents { files with sessionEvents := files.sessionEvents ++ [event] }).length ≤ 1)
    (session : first.runSessionId.isSome = true →
      sessionLogged { files with sessionEvents := files.sessionEvents ++ [event] } = before ∨
        sessionLogged { files with sessionEvents := files.sessionEvents ++ [event] } = trace files) :
    Projects runId first intent before (appendRunSessionEvent event) files
      fun left => left.sessionEvents = files.sessionEvents ++ [event] := by
  let added := { files with sessionEvents := files.sessionEvents ++ [event] }
  have projected : AutoRunProjected runId first intent before files added :=
    { kept := { kept with finals := finals }
      committed := { committed with session := session }
      written := rfl
      events := id }
  exact completes_write projected.journal ⟨projected, rfl⟩
end

theorem finalEvents_append_plain (plain : event.type ∉ finalRunSessionEventTypes) :
    finalEvents { files with sessionEvents := files.sessionEvents ++ [event] } = finalEvents files := by
  simp [finalEvents, filter_append, plain]

theorem sessionLogged_append_final (final : event.type ∈ finalRunSessionEventTypes) :
    sessionLogged { files with sessionEvents := files.sessionEvents ++ [event] } = sessionLogged files := by
  simp [sessionLogged, filterMap_append, final]

section
variable (kept : AutoRunKept runId first files) (committed : AutoRunCommitted first intent before files)
include kept committed

theorem transitionSessionEvent_projects (present : first.runSessionId.isSome = true) :
    Projects runId first intent before
      (Durable.when (!hasSessionTransitionEvent files intent) (appendRunSessionEvent (transitionSessionEvent state intent))) files
      fun left => sessionLogged left = trace left := by
  have plain := committed.plain
  apply completes_when
  · intro missing
    have absent : sessionLogged files = before := by
      cases committed.session present with
      | inl absent => exact absent
      | inr same =>
        have found : hasSessionTransitionEvent files intent = true ↔ _ := hasSessionTransitionEvent_iff plain
        rw [same, committed.history] at found
        simp [found.mpr (by simp)] at missing
    have logged : sessionLogged { files with sessionEvents := files.sessionEvents ++ [transitionSessionEvent state intent] } =
        trace files := by
      rw [committed.history, ← absent]
      simp [sessionLogged, filterMap_append, transitionSessionEvent, plain]
    apply (appendRunSessionEvent_projects kept committed _ fun _ => .inr logged).mono
    · rintro _ left ⟨projected, events⟩
      refine ⟨projected, ?_⟩
      have same : trace left = trace files := by simp [trace, projected.written]
      show sessionLogged left = trace left
      rw [same, ← logged]
      simp [sessionLogged, events]
    · rw [finalEvents_append_plain (by exact plain)]
      exact kept.finals
  · intro present'
    refine ⟨AutoRunProjected.refl kept committed, ?_⟩
    have found : (intent.transitionId, intent.eventType) ∈ sessionLogged files := by
      rw [← hasSessionTransitionEvent_iff plain]
      simpa using present'
    cases committed.session present with
    | inl absent => rw [absent] at found; exact absurd found (committed.fresh kept)
    | inr same => exact same

theorem appendFinalSessionEvent_projects :
    Projects runId first intent before (appendFinalSessionEvent state intent) files
      fun left => sessionLogged left = sessionLogged files := by
  unfold appendFinalSessionEvent
  cases ended : finalRunSessionEventTypeForPhase (runSessionPhaseForPhase state.phase) with
  | none => exact completes_pure ⟨AutoRunProjected.refl kept committed, rfl⟩
  | some type =>
    have final : (finalSessionEvent type state intent).type ∈ finalRunSessionEventTypes :=
      finalRunSessionEventTypeForPhase_final ended
    apply completes_read_bind
    apply completes_when
    · intro missing
      have none : finalEvents files = [] := by
        simp only [Bool.not_eq_true', List.any_eq_false, decide_eq_true_eq] at missing
        simpa [finalEvents, List.filter_eq_nil_iff] using missing
      apply (appendRunSessionEvent_projects kept committed _ _).mono
      · rintro _ _ ⟨projected, events⟩
        refine ⟨projected, ?_⟩
        rw [← sessionLogged_append_final final]
        simp [sessionLogged, events]
      · have one : finalEvents { files with sessionEvents := files.sessionEvents ++ [finalSessionEvent type state intent] } =
            finalEvents files ++ [finalSessionEvent type state intent] := by
          simp [finalEvents, List.filter_append, final]
        rw [one, none]
        simp
      · intro present
        rw [sessionLogged_append_final final]
        exact committed.session present
    · exact fun _ => ⟨AutoRunProjected.refl kept committed, rfl⟩

theorem projectSessionForTransition_projects (session : state.runSessionId = first.runSessionId) :
    Projects runId first intent before (projectSessionForTransition buildSessionSummary state intent) files
      fun left => first.runSessionId.isSome = true → sessionLogged left = trace left := by
  unfold projectSessionForTransition
  cases named : state.runSessionId with
  | none =>
    refine completes_pure ⟨AutoRunProjected.refl kept committed, fun present => ?_⟩
    rw [← session, named] at present
    cases present
  | some runSessionId =>
    have present : first.runSessionId.isSome = true := by rw [← session, named]; rfl
    apply (updateRunSession_projects kept committed present).bind
    rintro _ _ ⟨begun, -⟩
    apply completes_read_bind
    apply (transitionSessionEvent_projects begun.kept begun.committed present).bind
    rintro _ _ ⟨middle, events⟩
    apply (appendFinalSessionEvent_projects middle.kept middle.committed).mono
    rintro _ _ ⟨ended, same⟩
    refine ⟨begun.trans (middle.trans ended), fun _ => ?_⟩
    rw [same, events]
    simp [trace, ended.written]
end

theorem heal_projects {projection : TransitionProgram Unit} {code : TransitionDiagnosticCode} {post : AutoRunFiles → Prop}
    (projects : Projects runId first intent before projection files post) :
    (heal projection code intent).Completes True files (AutoRunJournal runId first) fun diagnostics left =>
      (AutoRunProjected runId first intent before files left ∧ post left) ∧ diagnostics = [] := by
  apply Completes.recover
  apply projects.bind
  intro _ left holds
  exact completes_pure ⟨holds, rfl⟩

theorem clear_idle (kept : AutoRunKept runId first files) (committed : AutoRunCommitted first intent before files)
    (events : logged files = trace files) (session : first.runSessionId.isSome = true → sessionLogged files = trace files)
    {α : Type} (value : α) :
    (clearCommittedTransitionAuthority intent >>= fun _ => clearPendingTransitionIntent >>= fun _ =>
      (pure value : TransitionProgram α)).Completes True files (AutoRunJournal runId first) fun result left =>
        result = value ∧ AutoRunKept runId first left ∧ AutoRunIdle first left ∧ left.written = files.written := by
  have cleared : ∀ id, update files.markers intent.transitionId none id = none := by
    intro id
    by_cases same : id = intent.transitionId
    · rw [same, update_self]
    · rw [update_of_ne same]
      exact committed.others id same
  apply completes_write_bind
  · exact .committed { kept with } intent before
      { committed with
        marker := .inl (cleared _)
        others := fun id _ => cleared id }
  apply completes_write_bind
  · exact .idle { kept with } ⟨rfl, cleared, events, session⟩
  exact completes_pure ⟨rfl, { kept with }, ⟨rfl, cleared, events, session⟩, rfl⟩

structure AutoRunSettled (runId : String) (first : DesktopAutoRunState) (start files : AutoRunFiles) : Prop where
  kept : AutoRunKept runId first files
  idle : AutoRunIdle first files
  written : files.written = start.written

variable {exposed next : DesktopAutoRunState}

theorem replayProjections_settles (kept : AutoRunKept runId first files)
    (committed : AutoRunCommitted first intent before files) :
    (replayProjections buildSessionSummary intent (latest first files) exposed).Completes True files (AutoRunJournal runId first)
      fun result left => AutoRunSettled runId first files left ∧ result.unreadable = false := by
  apply (heal_projects (ensureAutoRunEventProjection_projects kept committed)).bind
  rintro _ _ ⟨⟨begun, events⟩, rfl⟩
  have session : (latest first files).runSessionId = first.runSessionId := kept.runSession
  apply (heal_projects (projectSessionForTransition_projects begun.kept begun.committed session)).bind
  rintro _ _ ⟨⟨middle, sessionEvents⟩, rfl⟩
  apply (clear_idle middle.kept middle.committed (middle.events events) sessionEvents _).mono
  rintro _ _ ⟨rfl, keeps, idle, written⟩
  exact ⟨⟨keeps, idle, written.trans (middle.written.trans begun.written)⟩, rfl⟩

theorem AutoRunCommitted.matches (committed : AutoRunCommitted first intent before files) :
    matchesExpectedAuthority (latest first files) intent.expectedAuthority = true :=
  matchesExpectedAuthority_iff.mpr committed.expected

theorem AutoRunCommitted.read_marker (committed : AutoRunCommitted first intent before files) :
    readCommittedTransitionAuthority files intent = .absent ∨
      readCommittedTransitionAuthority files intent = .ok (latest first files) := by
  unfold readCommittedTransitionAuthority
  cases committed.marker with
  | inl absent => rw [absent]; exact .inl rfl
  | inr present =>
    rw [present]
    simp only [true_and, committed.matches, if_true]
    exact .inr trivial

theorem AutoRunPrepared.unmatched (prepared : AutoRunPrepared first intent files) :
    matchesExpectedAuthority (latest first files) intent.expectedAuthority = false := by
  rw [Bool.eq_false_iff]
  intro same
  have expected := matchesExpectedAuthority_iff.mp same
  rw [prepared.previous] at expected
  exact prepared.changes expected

theorem writeMarker_committed (kept : AutoRunKept runId first files) (committed : AutoRunCommitted first intent before files) :
    Projects runId first intent before (writeCommittedTransitionAuthority intent (latest first files)) files fun left =>
      logged left = logged files := by
  let marker : CommittedTransition := ⟨intent.transitionId, intent.runId, intent.expectedAuthority, latest first files⟩
  let marked : AutoRunFiles := { files with markers := update files.markers intent.transitionId (some marker) }
  have projected : AutoRunProjected runId first intent before files marked :=
    { kept := { kept with }
      committed :=
        { committed with
          marker := .inr (update_self ..)
          others := fun id other => by
            show update files.markers intent.transitionId (some marker) id = none
            rw [update_of_ne other]
            exact committed.others id other }
      written := rfl
      events := id }
  exact completes_write projected.journal ⟨projected, rfl⟩

theorem AutoRunProjected.latest_eq {left : AutoRunFiles} (projected : AutoRunProjected runId first intent before files left) :
    latest first left = latest first files := by
  simp [latest, projected.written]

section
variable (journal : AutoRunJournal runId first files)
include journal

/-- Every journal is recovered: the recovery ends with a readable result, and leaves no intent behind. -/
theorem recoverPendingTransition_recovers :
    (recoverPendingTransition buildSessionSummary).Completes True files (AutoRunJournal runId first) fun result left =>
      AutoRunSettled runId first files left ∧ result.unreadable = false := by
  apply completes_read_bind
  cases journal with
  | idle kept idle =>
    rw [idle.settled]
    exact completes_pure ⟨⟨kept, idle, rfl⟩, rfl⟩
  | prepared kept intent prepared =>
    have absent : readCommittedTransitionAuthority files intent = .absent := by
      simp [readCommittedTransitionAuthority, prepared.markers]
    have previous : matchesExpectedAuthority (latest first files) intent.previousAuthority = true :=
      matchesExpectedAuthority_iff.mpr prepared.previous
    simp only [prepared.pending, absent, recoverWithoutMarker, kept.state, prepared.unmatched, Bool.false_eq_true, if_false,
      previous, if_true]
    have idle : AutoRunIdle first { files with intent := none } := ⟨rfl, prepared.markers, prepared.events, prepared.session⟩
    apply completes_write_bind
    · exact .idle { kept with } idle
    · exact completes_pure ⟨⟨{ kept with }, idle, rfl⟩, rfl⟩
  | committed kept _ _ committed =>
    rw [committed.pending]
    cases committed.read_marker with
    | inl absent =>
      simp only [absent, recoverWithoutMarker, kept.state, committed.matches, if_true]
      apply (writeMarker_committed kept committed).bind
      rintro _ _ ⟨begun, -⟩
      rw [← begun.latest_eq]
      apply (replayProjections_settles begun.kept begun.committed).mono
      rintro _ _ ⟨settled, readable⟩
      exact ⟨⟨settled.kept, settled.idle, settled.written.trans begun.written⟩, readable⟩
    | inr present =>
      simp only [present, recoverWithMarker, kept.state, committed.matches, if_true]
      exact replayProjections_settles kept committed

theorem recoverAndReadAuthority_settles {memoryState : DesktopAutoRunState} :
    (recoverAndReadAuthority buildSessionSummary runId memoryState).Ensures files (AutoRunJournal runId first)
      fun authority left => AutoRunSettled runId first files left ∧ authority = latest first files := by
  apply ensures_read_bind
  refine Ensures.bind (?settles : Durable.Ensures _ files (AutoRunJournal runId first) fun _ left =>
    AutoRunSettled runId first files left) ?_
  case settles =>
    apply ensures_when
    · intro _
      apply (recoverPendingTransition_recovers journal).toEnsures.bind
      rintro _ _ ⟨settled, readable⟩
      rw [readable, if_neg Bool.false_ne_true]
      apply ensures_read_bind
      rw [settled.idle.settled]
      exact ensures_pure settled
    · intro absent
      have none : files.intent = none := by simpa using absent
      cases journal with
      | idle kept idle => exact ⟨kept, idle, rfl⟩
      | prepared _ _ prepared => rw [prepared.pending] at none; cases none
      | committed _ _ _ committed => rw [committed.pending] at none; cases none
  intro _ left settled
  apply ensures_read_bind
  apply ensures_pure
  refine ⟨settled, ?_⟩
  rw [settled.kept.state]
  simp [latest, settled.written]
end

variable {datetime : String → Bool}

section
variable (kept : AutoRunKept runId first files)
include kept

theorem writePendingTransitionIntent_prepares (idle : AutoRunIdle first files)
    (previous : buildExpectedAuthority (latest first files) = intent.previousAuthority)
    (changes : intent.previousAuthority ≠ intent.expectedAuthority) :
    (writePendingTransitionIntent datetime intent).Ensures files (AutoRunJournal runId first) fun _ left =>
      AutoRunKept runId first left ∧ AutoRunPrepared first intent left ∧ left.written = files.written := by
  unfold writePendingTransitionIntent
  split
  · have prepared : AutoRunPrepared first intent { files with intent := some intent } :=
      ⟨rfl, idle.markers, previous, changes, idle.events, idle.session⟩
    exact ensures_write (.prepared { kept with } intent prepared) ⟨{ kept with }, prepared, rfl⟩
  · exact ensures_fail _

theorem writePersistedAutoRunState_commits
    (prepared : AutoRunPrepared first intent files) (fresh : intent.transitionId ∉ files.written.map (·.transitionId))
    (expected : buildExpectedAuthority next = intent.expectedAuthority) (run : next.runId = runId)
    (session : next.runSessionId = first.runSessionId) (plain : intent.eventType ∉ finalRunSessionEventTypes) :
    (writePersistedAutoRunState intent next).Ensures files (AutoRunJournal runId first) fun _ left =>
      AutoRunKept runId first left ∧ AutoRunCommitted first intent (trace files) left ∧ latest first left = next := by
  let stated : AutoRunFiles :=
    { files with state := some next, written := files.written ++ [⟨intent.transitionId, intent.eventType, next⟩] }
  have last : latest first stated = next := by simp [latest, stated]
  have keeps : AutoRunKept runId first stated :=
    { state := by rw [last]
      runId := by rw [last]; exact run
      runSession := by rw [last]; exact session
      session := kept.session
      distinct := by
        simp only [stated, map_append, map_cons, map_nil]
        exact nodup_append.mpr ⟨kept.distinct, nodup_singleton _, fun id member other single same => by
          rw [mem_singleton.mp single] at same
          rw [same] at member
          exact fresh member⟩
      finals := kept.finals }
  have commits : AutoRunCommitted first intent (trace files) stated :=
    { pending := prepared.pending
      history := by simp [trace, stated]
      expected := by rw [last]; exact expected
      marker := .inl (prepared.markers _)
      others := fun id _ => prepared.markers id
      events := .inl prepared.events
      session := fun present => .inl (prepared.session present)
      plain }
  exact ensures_write (.committed keeps intent _ commits) ⟨keeps, commits, last⟩

theorem commitTransition_settles (idle : AutoRunIdle first files)
    (previous : buildExpectedAuthority (latest first files) = intent.previousAuthority)
    (changes : intent.previousAuthority ≠ intent.expectedAuthority)
    (fresh : intent.transitionId ∉ files.written.map (·.transitionId))
    (expected : buildExpectedAuthority next = intent.expectedAuthority) (run : next.runId = runId)
    (session : next.runSessionId = first.runSessionId) (plain : intent.eventType ∉ finalRunSessionEventTypes) :
    (commitTransition datetime buildSessionSummary intent next).Ensures files (AutoRunJournal runId first) fun _ left =>
      AutoRunKept runId first left ∧ AutoRunIdle first left := by
  apply (writePendingTransitionIntent_prepares kept idle previous changes).bind
  rintro _ _ ⟨keeps, prepared, same⟩
  rw [← same] at fresh
  apply (writePersistedAutoRunState_commits keeps prepared fresh expected run session plain).bind
  rintro _ _ ⟨held, committed, last⟩
  have marks := writeMarker_committed held committed
  rw [last] at marks
  apply marks.toEnsures.bind
  rintro _ _ ⟨begun, -⟩
  apply (ensureAutoRunEventProjection_projects begun.kept begun.committed).toEnsures.bind
  rintro _ _ ⟨middle, events⟩
  apply (projectSessionForTransition_projects middle.kept middle.committed session).toEnsures.bind
  rintro _ _ ⟨ended, sessionEvents⟩
  have clears := clear_idle ended.kept ended.committed (ended.events events) sessionEvents ()
  exact clears.toEnsures.mono fun _ left holds => ⟨holds.2.1, holds.2.2.1⟩
end

def AutoRunOperation.Distinguished (files : AutoRunFiles) : AutoRunOperation → Prop
  | mutate mutation => ∀ authority, files.state = some authority →
      mutation.transitionId ∉ files.written.map (·.transitionId) ∧
        ∀ next, mutation.mutate authority = some next → buildExpectedAuthority next ≠ buildExpectedAuthority authority
  | recover => True

theorem mutateAutoRunTransition_keeps {mutation : AutoRunMutation} (journal : AutoRunJournal runId first files)
    (distinguished : (AutoRunOperation.mutate mutation).Distinguished files) :
    (mutateAutoRunTransition datetime buildSessionSummary runId mutation).Ensures files (AutoRunJournal runId first)
      fun _ _ => True := by
  have fresh := distinguished _ journal.kept.state
  apply (recoverAndReadAuthority_settles journal).bind
  rintro _ settled ⟨idle, rfl⟩
  cases mutated : mutation.mutate (latest first files) with
  | none => exact ensures_pure trivial
  | some next =>
    have same : latest first settled = latest first files := by simp [latest, idle.written]
    have shape : next = mutation.patch.apply mutation.now (latest first files) := by
      unfold AutoRunMutation.mutate at mutated
      split at mutated
      · cases mutated
        rfl
      · cases mutated
    have runs : next.runId = runId := by rw [shape]; exact journal.kept.runId
    have session : next.runSessionId = first.runSessionId := by rw [shape]; exact journal.kept.runSession
    simp only [runs, ne_eq, not_true, if_false]
    have unused : mutation.transitionId ∉ settled.written.map (·.transitionId) := by
      rw [idle.written]
      exact fresh.1
    apply (commitTransition_settles idle.kept idle.idle (congrArg buildExpectedAuthority same)
      (fun equal => fresh.2 next mutated equal.symm) unused rfl runs session mutation.plain).bind
    exact fun _ _ _ => ensures_pure trivial

theorem perform_keeps {operation : AutoRunOperation} (journal : AutoRunJournal runId first files)
    (distinguished : operation.Distinguished files) :
    (operation.perform datetime buildSessionSummary runId).Keeps files (AutoRunJournal runId first) := by
  cases operation with
  | mutate =>
    exact (mutateAutoRunTransition_keeps journal distinguished).keeps_then
  | recover => exact (recoverPendingTransition_recovers journal).keeps_then

structure AutoRunStart (runId : String) (first : DesktopAutoRunState) (files : AutoRunFiles) : Prop where
  state : files.state = some first
  runId : first.runId = runId
  intent : files.intent = none
  markers : ∀ id, files.markers id = none
  events : logged files = []
  session : first.runSessionId.isSome = true → files.session.isSome = true
  sessionEvents : sessionLogged files = []
  finals : (finalEvents files).length ≤ 1
  written : files.written = []

theorem AutoRunStart.journal (start : AutoRunStart runId first files) : AutoRunJournal runId first files := by
  have last : latest first files = first := by simp [latest, start.written]
  have empty : trace files = [] := by simp [trace, start.written]
  apply AutoRunJournal.idle
  · exact
      { state := by rw [last]; exact start.state
        runId := by rw [last]; exact start.runId
        runSession := by rw [last]
        session := start.session
        distinct := by rw [start.written]; exact nodup_nil
        finals := start.finals }
  · exact
      { settled := start.intent
        markers := start.markers
        events := by rw [empty]; exact start.events
        session := fun _ => by rw [empty]; exact start.sessionEvents }

/-- The log names the written transitions in their order; the last of them may still be missing while it is pending. -/
theorem AutoRunJournal.logged_trace (journal : AutoRunJournal runId first files) :
    (logged files = trace files ∨ files.intent ≠ none ∧ logged files = (trace files).dropLast) ∧
      (first.runSessionId.isSome = true →
        sessionLogged files = trace files ∨ files.intent ≠ none ∧ sessionLogged files = (trace files).dropLast) := by
  cases journal with
  | idle _ idle => exact ⟨.inl idle.events, fun present => .inl (idle.session present)⟩
  | prepared _ _ prepared => exact ⟨.inl prepared.events, fun present => .inl (prepared.session present)⟩
  | committed _ intent before committed =>
    have earlier : before = (trace files).dropLast := by rw [committed.history, dropLast_concat]
    have pending : files.intent ≠ none := by rw [committed.pending]; exact some_ne_none _
    constructor
    · exact committed.events.symm.imp_right fun absent => ⟨pending, absent.trans earlier⟩
    · exact fun present => (committed.session present).symm.imp_right fun absent => ⟨pending, absent.trans earlier⟩

/-- While every transition changes the identity of the state, its events are exactly those of the written states, the session has
at most one final event, and a recovery that is not interrupted leaves nothing pending and the state as it is. -/
theorem transitions_recorded_once {start files : AutoRunFiles} (begun : AutoRunStart runId first start)
    (run : Durable.Reaches (perform datetime buildSessionSummary runId)
      (fun files operation => operation.Distinguished files) start files) :
    let recovered := (recoverPendingTransition buildSessionSummary).final files
    (files.written.map (·.transitionId)).Nodup ∧
      (logged files = trace files ∨ files.intent ≠ none ∧ logged files = (trace files).dropLast) ∧
      (first.runSessionId.isSome = true →
        sessionLogged files = trace files ∨ files.intent ≠ none ∧ sessionLogged files = (trace files).dropLast) ∧
      (finalEvents files).length ≤ 1 ∧ files.state = some (latest first files) ∧
      logged recovered = trace files ∧ (first.runSessionId.isSome = true → sessionLogged recovered = trace files) ∧
      recovered.state = files.state ∧ recovered.intent = none ∧
      ∀ memoryState, (recoverAndReadAuthority buildSessionSummary runId memoryState).Succeeds recovered := by
  intro recovered
  have journal : AutoRunJournal runId first files :=
    run.holds_of_keeps begun.journal fun _ _ journal distinguished => perform_keeps journal distinguished
  have recovers : (recoverPendingTransition buildSessionSummary).Completes True files _ _ := recoverPendingTransition_recovers journal
  obtain ⟨_, settled, _⟩ := (recovers.succeeds trivial).ensures recovers.toEnsures
  have same : trace recovered = trace files := by simp [trace, recovered, settled.written]
  have state : recovered.state = files.state := by
    rw [settled.kept.state, journal.kept.state]
    simp [latest, settled.written]
  refine ⟨journal.kept.distinct, journal.logged_trace.1, journal.logged_trace.2, journal.kept.finals, journal.kept.state, ?_, ?_,
    state, settled.idle.settled, ?_⟩
  · rw [← same]
    exact settled.idle.events
  · intro present
    rw [← same]
    exact settled.idle.session present
  · intro memoryState
    have none : recovered.intent.isSome = false := by rw [settled.idle.settled]; rfl
    refine ⟨recovered.state.getD memoryState, ?_⟩
    unfold recoverAndReadAuthority Durable.result
    simp only [Bind.bind, Durable.read, List.getLastD_nil, none]
    rfl

def firstAutoRunState : DesktopAutoRunState where
  runId := "DESKTOP-RUN-0001"
  runSessionId := some "session"
  phase := .running
  stepCount := 1
  currentRef := some "T#B"
  currentExecutor := none
  latestOutputSummary := none
  latestRecordId := none
  latestRecordPath := none
  error := none
  updatedAt := "2026-01-01T00:00:00.000Z"

def firstAutoRunFiles : AutoRunFiles where
  state := some firstAutoRunState
  intent := none
  markers _ := none
  events := []
  session := some ⟨0, .running, none, none, none, none, none⟩
  sessionEvents := [⟨"session_started", .running, none, []⟩]
  written := []

theorem firstAutoRunFiles_start : AutoRunStart "DESKTOP-RUN-0001" firstAutoRunState firstAutoRunFiles where
  state := rfl
  runId := rfl
  intent := rfl
  markers _ := rfl
  events := rfl
  session _ := rfl
  sessionEvents := rfl
  finals := by decide
  written := rfl

def repeatedMillisecond : AutoRunMutation where
  transitionId := "T1"
  now := "2026-01-01T00:00:00.000Z"
  eventType := "phase_change"
  patch := ⟨none, none, none, none, some (some "output"), none, none, none⟩
  data := ⟨[], by simp⟩
  shouldApply _ := true
  memoryState := firstAutoRunState
  plain := by decide

/-- The crash comes after the intent is written and before the state: the recovery takes the old state for the new one. -/
theorem repeated_millisecond_records_unwritten :
    ∃ files, Durable.Reaches (perform (fun _ => true) (fun _ _ => .object []) "DESKTOP-RUN-0001")
        (fun files operation => ∀ mutation, operation = .mutate mutation →
          mutation.transitionId ∉ files.written.map (·.transitionId)) firstAutoRunFiles files ∧
      files.intent = none ∧ files.written = [] ∧ logged files = [("T1", "phase_change")] := by
  let crashed : AutoRunFiles :=
    { firstAutoRunFiles with
      intent := some (repeatedMillisecond.intent firstAutoRunState
        (repeatedMillisecond.patch.apply repeatedMillisecond.now firstAutoRunState)) }
  refine ⟨(perform (fun _ => true) (fun _ _ => .object []) "DESKTOP-RUN-0001" .recover).final crashed, ?_, ?_⟩
  · have first : Durable.Reaches (perform (fun _ => true) (fun _ _ => .object []) "DESKTOP-RUN-0001")
        (fun files operation => ∀ mutation, operation = .mutate mutation →
          mutation.transitionId ∉ files.written.map (·.transitionId)) firstAutoRunFiles crashed := by
      apply Relation.ReflTransGen.single
      refine ⟨.mutate repeatedMillisecond, fun mutation _ => not_mem_nil, ?_⟩
      exact mem_of_getElem? (i := 0) rfl
    exact first.trans (Durable.Reaches.final fun mutation wrong => by cases wrong)
  · exact ⟨rfl, rfl, rfl⟩

theorem transitions_recorded_once_after_step :
    let files := (perform (fun _ => true) (fun _ _ => .object []) "DESKTOP-RUN-0001"
      (.mutate { repeatedMillisecond with now := "2026-01-01T00:00:00.001Z" })).final firstAutoRunFiles
    logged ((recoverPendingTransition fun _ _ => .object []).final files) = trace files := by
  have run : Durable.Reaches (perform (fun _ => true) (fun _ _ => .object []) "DESKTOP-RUN-0001")
      (fun files operation => operation.Distinguished files) firstAutoRunFiles
      ((perform (fun _ => true) (fun _ _ => .object []) "DESKTOP-RUN-0001"
        (.mutate { repeatedMillisecond with now := "2026-01-01T00:00:00.001Z" })).final firstAutoRunFiles) := by
    apply Durable.Reaches.final
    rintro _ ⟨⟩
    refine ⟨not_mem_nil, ?_⟩
    rintro _ ⟨⟩
    decide
  exact (transitions_recorded_once firstAutoRunFiles_start run).2.2.2.2.2.1

end PlanWeave
