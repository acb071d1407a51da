import PlanWeave.WorkspaceExecution.StoreMoves

namespace PlanWeave.WorkspaceExecution

namespace ExecutionStore

def Known (store : ExecutionStore) (record : SessionRecord) : Prop := ∃ write ∈ store.writes, write.after = record

/-- A record of the session that is not older than the ones which `base` knows. -/
structure ReadSince (base : ExecutionStore) (sessionId : Nat) (record : SessionRecord) (store : ExecutionStore) : Prop where
  known : store.Known record
  session : record.sessionId = sessionId
  leads : ∀ old, base.Known old → old.sessionId = sessionId → old.Leads record

structure Allowed (store : ExecutionStore) (cause : WriteCause) (before after : SessionRecord) : Prop where
  law : PatchLaw cause before after
  origin : ∀ handle, after.handle = some handle → ∃ operation, store.Origin after handle operation
  shown : ∀ view ∈ cause.page, store.Shown view

variable {store later base : ExecutionStore} {record current : SessionRecord} {sessionId : Nat} {cause : WriteCause}
  {before after : SessionRecord}

theorem Known.grows (known : store.Known record) (grows : store.Grows later) : later.Known record :=
  known.elim fun write found => ⟨write, grows.writes.subset found.1, found.2⟩

theorem ReadSince.grows (read : ReadSince base sessionId record store) (grows : store.Grows later) :
    ReadSince base sessionId record later := ⟨read.known.grows grows, read.session, read.leads⟩

theorem Allowed.grows (allowed : store.Allowed cause before after) (grows : store.Grows later) :
    later.Allowed cause before after where
  law := allowed.law
  origin handle present := (allowed.origin handle present).elim fun _ origin => origin.grows grows
  shown view among := (allowed.shown view among).grows grows

section
variable (valid : store.Valid)
include valid

theorem Valid.known_of_get? (found : store.sessions.get? sessionId = some current) :
    store.Known current ∧ current.sessionId = sessionId := by
  rw [valid.stored] at found
  obtain ⟨write, last, rfl⟩ := Option.map_eq_some_iff.mp found
  have spec := History.latest_spec last
  exact ⟨⟨write, spec.1, rfl⟩, spec.2⟩

theorem Valid.current_cases (known : store.Known record) (found : store.sessions.get? record.sessionId = some current) :
    record = current ∨ record.Leads current ∧ record.stateVersion < current.stateVersion := by
  obtain ⟨_, member, rfl⟩ := known
  rw [valid.stored] at found
  obtain ⟨_, final, rfl⟩ := Option.map_eq_some_iff.mp found
  rcases History.related_latest (records_lead valid.lawful) member final with rfl | related
  · exact .inl rfl
  · exact .inr related

theorem Valid.current_leads (known : store.Known record)
    (found : store.sessions.get? record.sessionId = some current) : record.Leads current := by
  rcases valid.current_cases known found with rfl | ⟨leads, _⟩
  · exact .refl record
  · exact leads

theorem Valid.current_of_version (known : store.Known record)
    (found : store.sessions.get? record.sessionId = some current) (version : current.stateVersion = record.stateVersion) :
    current = record := by
  rcases valid.current_cases known found with rfl | ⟨_, _⟩
  · rfl
  · omega

theorem Valid.readSince (grows : base.Grows store) (found : store.sessions.get? sessionId = some current) :
    ReadSince base sessionId current store := by
  have read := valid.known_of_get? found
  refine ⟨read.1, read.2, fun old known session => ?_⟩
  apply valid.current_leads (known.grows grows)
  rw [session]
  exact found
end
end ExecutionStore

section Programs
variable {α β : Type} {caller : Nat} {returned : α → ExecutionStore → Prop} {result : β → ExecutionStore → Prop}
  {thrown : Failure → Prop} {store base : ExecutionStore} {site : Site} {error : ExecutionError}

/-- A program of a caller keeps the rules of the store; why it fails does not depend on the store. -/
abbrev Keeps (caller : Nat) (returned : α → ExecutionStore → Prop) (thrown : Failure → Prop) (program : ExecutionProgram α)
    (store : ExecutionStore) : Prop :=
  executionRules.Safe caller returned (fun reason _ => thrown reason) program store

theorem keeps_refuse (failed : thrown (.refused site error)) : Keeps caller returned thrown (refuse site error) store :=
  fun _ _ => failed

variable {rest : Unit → ExecutionProgram β} {value : Except ExecutionError α}

theorem keeps_demand {holds : Bool} (failed : thrown (.refused site error))
    (goes : holds = true → Keeps caller result thrown (rest ()) store) :
    Keeps caller result thrown (demand holds site error >>= rest) store := by
  cases holds with
  | true => exact goes rfl
  | false => exact fun _ _ => failed

section
variable (failed : ∀ error, value = .error error → thrown (.refused site error))
include failed

theorem keeps_checked {rest : α → ExecutionProgram β}
    (goes : ∀ answer, value = .ok answer → Keeps caller result thrown (rest answer) store) :
    Keeps caller result thrown (checked site value >>= rest) store := by
  cases value with
  | ok answer => exact goes answer rfl
  | error error => exact fun _ _ => failed error rfl

theorem keeps_answer
    (ends : ∀ answer, value = .ok answer → ∀ last, executionRules.Rely caller store last → returned answer last) :
    Keeps caller returned thrown (checked site value) store := by
  cases value with
  | ok answer => exact ends answer rfl
  | error error => exact fun _ _ => failed error rfl
end

theorem keeps_unlessFails {reason : Failure} (failed : thrown reason)
    (goes : Keeps caller result thrown (rest ()) store) :
    Keeps caller result thrown ((pure () : ExecutionProgram Unit).orFail reason >>= rest) store :=
  ⟨goes, fun _ _ => failed⟩

theorem keeps_readClock : Keeps caller (fun _ _ => True) thrown readClock store :=
  Custody.safe_observe (fun _ _ _ _ _ _ => trivial) fun _ _ _ looked => by cases looked

variable (ports : CallPorts)

theorem keeps_getSession {sessionId : Nat} (failed : thrown (ports.fails .sessions)) :
    Keeps caller (ExecutionStore.ReadSince store sessionId) thrown (getSession ports sessionId) store := by
  apply Custody.Safe.orFail
  · apply Custody.safe_observe
    · intro seen between record looked last further
      cases found : seen.sessions.get? sessionId with
      | none =>
        rw [found] at looked
        cases looked
      | some =>
        rw [found] at looked
        cases looked
        exact (between.valid.readSince between.grows found).grows further.grows
    · intro seen _ reason looked _ _
      cases found : seen.sessions.get? sessionId with
      | none =>
        rw [found] at looked
        cases looked
        exact failed
      | some =>
        rw [found] at looked
        cases looked
  · exact fun _ _ => failed

variable {cause : WriteCause} {current : SessionRecord} {patch : SessionPatch}

theorem update_moves (valid : store.Valid) (known : store.Known current)
    (allowed : store.Allowed cause current (current.patched patch)) :
    executionRules.Moves caller store (store.updateSession cause current.sessionId current.stateVersion patch) := by
  unfold ExecutionStore.updateSession
  cases found : store.sessions.get? current.sessionId with
  | none => exact .refl valid
  | some stored =>
    simp only
    split
    · rename_i version
      have same := valid.current_of_version known found version
      rw [same] at found ⊢
      have last := (valid.stored current.sessionId).symm.trans found
      obtain ⟨write, member, equal⟩ := known
      have below : (current.patched patch).sessionId < store.nextSession := by
        rw [← equal]
        exact valid.numbered write member
      apply ExecutionStore.write_moves valid (.patch last allowed.law) below (Nat.le_refl _) allowed.origin allowed.shown
      · intro operationId observes
        rw [allowed.law.observed, ← equal] at observes
        rw [allowed.law.blockRef, ← equal]
        exact valid.watched write member operationId observes
      · intro absurd_
        cases absurd_
    · exact .refl valid

theorem keeps_updateSession (known : store.Known current) (allowed : store.Allowed cause current (current.patched patch))
    (failed : thrown (ports.fails .sessions)) :
    Keeps caller (fun result last => ∀ updated, result = some updated →
      last.Known updated ∧ updated = current.patched patch) thrown
      (updateSession ports cause current.sessionId current.stateVersion patch) store := by
  have moves : ∀ last, executionRules.Rely caller store last →
      executionRules.Moves caller last (last.updateSession cause current.sessionId current.stateVersion patch) :=
    fun last between => update_moves between.valid (known.grows between.grows) (allowed.grows between.grows)
  refine ⟨⟨fun last between => ⟨moves last between, ?_⟩, fun _ _ => failed⟩,
    fun last between => ⟨moves last between, fun _ _ => failed⟩⟩
  simp only
  cases found : last.sessions.get? current.sessionId with
  | none => exact fun _ _ => failed
  | some stored =>
    by_cases version : stored.stateVersion = current.stateVersion
    · have same := between.valid.current_of_version (known.grows between.grows) found version
      have written : (last.updateSession cause current.sessionId current.stateVersion patch).Known
          (current.patched patch) := by
        simp only [ExecutionStore.updateSession, found, if_true, same]
        exact ⟨_, List.mem_append_right _ (List.mem_singleton.mpr rfl), rfl⟩
      simp only [version, if_true]
      intro final further updated equal
      cases equal
      rw [same]
      exact ⟨written.grows further.grows, rfl⟩
    · simp only [version, if_false]
      intro final _ updated equal
      cases equal

section Loops
variable {decide : SessionRecord → ExecutionProgram (Option SessionPatch)} {original : SessionRecord}
  {ended : SessionRecord → Prop}

def Rounds (caller : Nat) (base : ExecutionStore) (cause : WriteCause) (original : SessionRecord) (ended : SessionRecord → Prop)
    (thrown : Failure → Prop) (decide : SessionRecord → ExecutionProgram (Option SessionPatch)) : Prop :=
  ∀ current store, store.Valid → base.Grows store → store.Known current → current.sessionId = original.sessionId →
    original.Leads current →
    Keeps caller (fun result last => (result = none → ended current) ∧ ∀ patch, result = some patch →
      last.Allowed cause current (current.patched patch) ∧ ended (current.patched patch)) thrown (decide current) store

structure Persisted (original : SessionRecord) (ended : SessionRecord → Prop) (record : SessionRecord) (store : ExecutionStore) :
    Prop where
  known : store.Known record
  session : record.sessionId = original.sessionId
  leads : original.Leads record
  ended : ended record

theorem keeps_round {retry : ExecutionProgram SessionRecord} (valid : store.Valid) (grows : base.Grows store)
    (rounds : Rounds caller base cause original ended thrown decide) (known : store.Known current)
    (session : current.sessionId = original.sessionId) (leads : original.Leads current)
    (failed : thrown (ports.fails .sessions))
    (again : ∀ last, last.Valid → store.Grows last → Keeps caller (Persisted original ended) thrown retry last) :
    Keeps caller (Persisted original ended) thrown (do
      match ← decide current with
      | none => pure current
      | some patch =>
        match ← updateSession ports cause current.sessionId current.stateVersion patch with
        | some updated => pure updated
        | none => retry) store := by
  apply (rounds current store valid grows known session leads).bind valid
  intro result last holds further decided
  cases result with
  | none => exact fun final between => ⟨known.grows (executionRules.trans further between.grows), session, leads, decided.1 rfl⟩
  | some patch =>
    have chosen := decided.2 patch rfl
    apply (keeps_updateSession ports (known.grows further) chosen.1 failed).bind holds
    intro result final still ahead written
    cases result with
    | none => exact again final still (executionRules.trans further ahead)
    | some updated =>
      intro end_ between
      have facts := written updated rfl
      refine ⟨facts.1.grows between.grows, ?_, ?_, ?_⟩
      · rw [facts.2]
        exact session
      · rw [facts.2]
        exact leads.trans chosen.1.law.leads
      · rw [facts.2]
        exact chosen.2

theorem keeps_persistFrom (count : Nat) (valid : store.Valid) (grows : base.Grows store)
    (rounds : Rounds caller base cause original ended thrown decide) (known : store.Known current)
    (session : current.sessionId = original.sessionId) (leads : original.Leads current)
    (failed : thrown (ports.fails .sessions)) (unfinished : thrown .unfinished) :
    Keeps caller (Persisted original ended) thrown (persistFrom ports cause decide current count) store := by
  induction count generalizing current store with
  | zero => exact fun _ _ => unfinished
  | succ _ ih =>
    apply keeps_round ports valid grows rounds known session leads failed
    intro last holds further
    apply (keeps_getSession ports failed).bind holds
    intro next final still ahead read
    have reached := executionRules.trans grows (executionRules.trans further ahead)
    exact ih still reached read.known (read.session.trans session)
      (leads.trans (read.leads current (known.grows further) rfl))

theorem keeps_persistReading (rereads : Bool) (count : Nat) (valid : store.Valid) (grows : base.Grows store)
    (rounds : Rounds caller base cause original ended thrown decide) (known : store.Known original)
    (failed : thrown (ports.fails .sessions)) (unfinished : thrown .unfinished) :
    Keeps caller (Persisted original ended) thrown
      (persistReading ports cause decide rereads original.sessionId count) store := by
  induction count generalizing store with
  | zero => exact fun _ _ => unfinished
  | succ _ ih =>
    apply (keeps_getSession ports failed).bind valid
    intro current last holds further read
    apply keeps_round ports holds (executionRules.trans grows further) rounds read.known read.session
      (read.leads original known rfl) failed
    intro next still ahead
    have reached := executionRules.trans grows (executionRules.trans further ahead)
    have stands := known.grows (executionRules.trans further ahead)
    cases rereads with
    | false => exact ih still reached stands
    | true =>
      apply (keeps_getSession ports failed).bind still
      intro _ final remains beyond _
      exact ih remains (executionRules.trans reached beyond) (stands.grows beyond)

end Loops
end Programs
end PlanWeave.WorkspaceExecution
