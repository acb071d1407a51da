import PlanWeave.WorkspaceExecution.AdapterSafety

namespace PlanWeave.WorkspaceExecution
open List

def CallPorts.diagnosable (ports : CallPorts) : Bool :=
  (diagnosticOf (ports.errors .sessions)).fits && (diagnosticOf (ports.errors .evidence)).fits &&
    (diagnosticOf (workspaceExecutionPortError (ports.errors .replay) "remote_replay_unavailable")).fits &&
    (diagnosticOf (workspaceExecutionPortError (ports.errors .interactions) "remote_interactions_unavailable")).fits

inductive CallPorts.InteractionFailure (ports : CallPorts) : ExecutionError → Prop
  | port : InteractionFailure ports (workspaceExecutionPortError (ports.errors .interactions) "remote_interactions_unavailable")
  | mismatch : InteractionFailure ports resumeMismatch
  | unstable : InteractionFailure ports (.ofCode "remote_interaction_snapshot_unstable")

/-- What collecting evidence throws has a diagnostic that fits, if the errors of the ports have one. -/
def CallPorts.Caught (ports : CallPorts) (reason : Failure) : Prop :=
  ∀ site error, reason = .refused site error → ports.diagnosable = true → (diagnosticOf error).fits = true

structure Endures (ports : CallPorts) (thrown : Failure → Prop) : Prop extends Tolerates thrown where
  diagnostics : ports.diagnosable = false → thrown (.refused .diagnostics invalidState)

section Evidence
variable {caller : Nat} {thrown : Failure → Prop} {store : ExecutionStore} {ports : CallPorts} {site : Site}
  {binding : RemoteBinding} {session : SessionRecord} {handle : RemoteHandle} {operationId : String}
  {snapshot : AdapterSnapshot}

variable {error : ExecutionError}

theorem caught_of_fits (fits : (diagnosticOf error).fits = true) : ports.Caught (.refused site error) := by
  intro _ _ same _
  cases same
  exact fits

theorem caught_unfinished : ports.Caught .unfinished := fun _ _ same => by cases same

theorem caught_port (fits : ports.diagnosable = true → (diagnosticOf error).fits = true) :
    ports.Caught (.refused site error) := by
  intro _ _ same diagnosable
  cases same
  exact fits diagnosable

theorem caught_sessions : ports.Caught (ports.fails .sessions) := by
  apply caught_port
  intro diagnosable
  simp only [CallPorts.diagnosable, Bool.and_eq_true] at diagnosable
  exact diagnosable.1.1.1

theorem caught_evidence : ports.Caught (ports.fails .evidence) := by
  apply caught_port
  intro diagnosable
  simp only [CallPorts.diagnosable, Bool.and_eq_true] at diagnosable
  exact diagnosable.1.1.2

theorem caught_replay : ports.Caught (portFailure ports .replay "remote_replay_unavailable") := by
  apply caught_port
  intro diagnosable
  simp only [CallPorts.diagnosable, Bool.and_eq_true] at diagnosable
  exact diagnosable.1.2

theorem caught_interactions (failure : ports.InteractionFailure error) : ports.Caught (.refused site error) := by
  cases failure with
  | port =>
    apply caught_port
    intro diagnosable
    simp only [CallPorts.diagnosable, Bool.and_eq_true] at diagnosable
    exact diagnosable.2
  | mismatch => exact caught_of_fits (by decide)
  | unstable => exact caught_of_fits (by decide)

theorem assertReplayCursorDomain_error {replay : EventReplay} {cursor : Nat}
    (refused : assertReplayCursorDomain replay cursor = .error error) : error = .ofCode "remote_event_cursor_gap" := by
  unfold assertReplayCursorDomain at refused
  split at refused
  · cases refused
    rfl
  split at refused
  · cases refused
    rfl
  · split at refused
    · cases refused
    · cases refused
      rfl

theorem keeps_replayEvents (page afterCursor count : Nat) (valid : store.Valid) :
    Keeps caller (fun _ _ => True) ports.Caught (replayEvents ports handle page afterCursor count) store := by
  induction count generalizing page afterCursor store with
  | zero => exact fun _ _ => caught_unfinished
  | succ _ ih =>
    apply keeps_unlessFails caught_replay
    apply keeps_demand (caught_of_fits (by decide))
    intro _
    apply keeps_checked
    · intro error refused
      rw [assertReplayCursorDomain_error refused]
      exact caught_of_fits (by decide)
    · intro _ _
      apply keeps_unlessFails caught_evidence
      split
      · apply keeps_demand (caught_of_fits (by decide))
        exact fun _ => ih (page + 1) _ valid
      · exact fun _ _ => trivial

theorem keeps_queryInteractions {cursor : Nat}
    (failed : thrown (portFailure ports .interactions "remote_interactions_unavailable")) :
    Keeps caller (fun answer last => ∀ view ∈ answer.1, last.ShownBy operationId view) thrown
      (queryInteractions ports operationId cursor) store := by
  apply Custody.Safe.orFail
  · apply Custody.safe_observe
    · intro seen _ answer looked last further view member
      cases found : seen.operations.get? operationId with
      | none =>
        rw [found] at looked
        cases looked
      | some operation =>
        rw [found] at looked
        cases looked
        have among := mem_of_mem_drop (mem_of_mem_take member)
        have shown : seen.ShownBy operationId view := ⟨operation, view, found, among, rfl, rfl, .inr rfl⟩
        exact shown.grows further.grows
    · intro seen _ reason looked _ _
      split at looked
      · cases looked
      · cases looked
        exact failed
  · exact fun _ _ => failed

theorem keeps_readInteractionSnapshot (cursor count : Nat) (valid : store.Valid) (unfinished : thrown .unfinished)
    (failed : ∀ error, ports.InteractionFailure error → thrown (.refused .interactions error)) :
    Keeps caller (fun views last => ∀ view ∈ views, last.ShownBy operationId view) thrown
      (readInteractionSnapshot ports operationId cursor count) store := by
  induction count generalizing cursor store with
  | zero => exact fun _ _ => unfinished
  | succ _ ih =>
    apply keeps_unlessFails (failed _ .port)
    apply (keeps_queryInteractions (failed _ .port)).bind valid
    intro answer last holds _ shown
    apply keeps_unlessFails (failed _ .port)
    cases answer.2 with
    | none => exact fun later between view member => (shown view member).grows between.grows
    | some next =>
      apply keeps_demand (failed _ .unstable)
      intro _
      apply (ih next holds).bind holds
      intro others final _ further known later between view member
      rcases mem_append.mp member with first | rest
      · exact (shown view first).grows (executionRules.trans further between.grows)
      · exact (known view rest).grows between.grows

theorem keeps_readInteractions (valid : store.Valid) (unfinished : thrown .unfinished)
    (failed : ∀ error, ports.InteractionFailure error → thrown (.refused .interactions error)) :
    Keeps caller (fun views last => ∀ view ∈ views, last.Shown view) thrown (readInteractions ports binding handle) store := by
  apply keeps_demand (failed _ .mismatch)
  intro _
  apply (keeps_readInteractionSnapshot 0 ports.rounds valid unfinished failed).bind valid
  intro views last _ _ shown
  apply keeps_demand (failed _ .mismatch)
  intro belongs later between view member
  have mine := all_eq_true.mp belongs view member
  simp only [InteractionView.belongsTo, Bool.and_eq_true, decide_eq_true_eq] at mine
  have known := (shown view member).grows between.grows
  rw [← mine.1.1.1] at known
  exact known

theorem keeps_gatherEvidence (valid : store.Valid) :
    Keeps caller (fun answer last => (∃ cursor, answer.1 = { handle with phase := .acpSession, eventCursor := cursor }) ∧
      ∀ view ∈ answer.2, last.Shown view) ports.Caught (gatherEvidence ports binding handle) store := by
  apply (keeps_replayEvents 0 _ ports.rounds valid).bind valid
  intro cursor last holds _ _
  apply (keeps_readInteractions holds caught_unfinished fun _ failure => caught_interactions failure).bind holds
  intro views final _ _ shown
  apply keeps_demand (caught_of_fits (by decide))
  intro _ later between
  exact ⟨⟨cursor, rfl⟩, fun view member => (shown view member).grows between.grows⟩

theorem origin_of_evidence {operation : ServerOperation} (origin : store.Origin session handle operation)
    (phase : HandlePhase) (eventCursor : Nat) :
    store.Origin session { handle with phase, eventCursor } operation := by
  obtain ⟨report, member, describes⟩ := origin.reported
  exact ⟨origin.found, ⟨report, member, ⟨describes.revision, describes.attempt, describes.version⟩⟩, origin.place, origin.reason⟩

theorem replayHandle_eq (handle : RemoteHandle) (evidenceCursor : Option EvidenceCursor) :
    ∃ cursor, replayHandle handle evidenceCursor = { handle with eventCursor := cursor } := by
  cases evidenceCursor with
  | none => exact ⟨handle.eventCursor, rfl⟩
  | some => exact ⟨_, rfl⟩

theorem keeps_collectEvidence (valid : store.Valid) (known : store.Known session) (handled : session.handle = some handle)
    (evidenceCursor : Option EvidenceCursor) (endures : Endures ports thrown) :
    Keeps caller (fun _ _ => True) thrown (collectEvidence ports binding session handle evidenceCursor) store := by
  apply Custody.Safe.tryCatch (fun reason _ => ports.Caught reason) _ valid
  · intro reason last holds further caught
    cases reason with
    | unfinished => exact fun _ _ => endures.unfinished
    | refused site error =>
      have still := known.grows further
      have rounds : Rounds caller last (.diagnostic error) session (fun _ => True) thrown (diagnosticPatch error) := by
        apply diagnostic_rounds
        intro unfit
        apply endures.diagnostics
        cases diagnosable : ports.diagnosable with
        | false => rfl
        | true =>
          have fits := caught site error rfl diagnosable
          rw [unfit] at fits
          cases fits
      apply (keeps_persistFrom ports ports.rounds holds (.refl last) rounds still rfl (.refl session)
        (endures.refused _ _ rfl) endures.unfinished).bind holds
      intro persisted final _ _ ended
      obtain ⟨_, present, _⟩ := ended.leads.handle handle handled
      simp only [present]
      exact fun _ _ => trivial
  · obtain ⟨_, same⟩ := replayHandle_eq handle evidenceCursor
    rw [same]
    apply (keeps_gatherEvidence valid).bind valid
    intro answer last holds further gathered
    obtain ⟨⟨cursor, shape⟩, shown⟩ := gathered
    have still := known.grows further
    obtain ⟨operation, origin⟩ := holds.originOf still handled
    have rounds : Rounds caller last (.evidence answer.1 answer.2) session (fun _ => True) ports.Caught
        (evidencePatch answer.1 answer.2) := by
      apply evidence_rounds (caught_of_fits (by decide)) _ shown
      rw [shape]
      exact ⟨operation, origin_of_evidence origin .acpSession cursor⟩
    apply (keeps_persistFrom ports ports.rounds holds (.refl last) rounds still rfl (.refl session) caught_sessions
      caught_unfinished).bind holds
    intro persisted final _ _ _
    apply keeps_unlessFails caught_evidence
    exact fun _ _ => trivial

theorem keeps_acceptCheckpoint (valid : store.Valid) (known : store.Known session)
    (observed : Observed store binding session snapshot) (evidenceCursor : Option EvidenceCursor) (endures : Endures ports thrown) :
    Keeps caller (fun _ _ => True) thrown (acceptCheckpoint ports binding session snapshot evidenceCursor) store := by
  apply (keeps_persistReading ports true ports.rounds valid (.refl store)
    (observation_rounds endures.toTolerates observed) known (endures.refused _ _ rfl) endures.unfinished).bind valid
  intro persisted last holds _ ended
  cases handled : persisted.handle with
  | none => exact keeps_refuse (endures.refused _ _ rfl)
  | some handle =>
    have collects : Keeps caller (fun _ _ => True) thrown (collectEvidence ports binding persisted handle evidenceCursor) last :=
      keeps_collectEvidence holds ended.known handled evidenceCursor endures
    simp only
    split
    · apply keeps_unlessFails (endures.refused _ _ rfl)
      apply keeps_unlessFails (endures.refused _ _ rfl)
      exact collects
    · apply keeps_unlessFails (endures.refused _ _ rfl)
      exact collects

end Evidence
end PlanWeave.WorkspaceExecution
