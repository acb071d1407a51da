import PlanWeave.WorkspaceExecution.StoreRules

namespace PlanWeave.WorkspaceExecution
open List Option OrderedMap

namespace ExecutionStore
variable {store : ExecutionStore} {caller : Nat}

section
variable (valid : store.Valid)
include valid

theorem quiet_moves (locks : OrderedMap String Nat) (clock : Nat)
    (kept : ∀ other, other ≠ caller → ∀ blockRef, locks.get? blockRef = some other ↔ store.locks.get? blockRef = some other) :
    executionRules.Moves caller store { store with locks, clock } where
  valid := valid.kept ⟨prefix_refl _, prefix_refl _, prefix_refl _, Nat.le_refl _,
    fun _ operation found => ⟨operation, found, .refl operation⟩⟩ rfl rfl rfl rfl valid.server
    fun _ operation _ found named => ⟨operation, found, named, rfl⟩
  grows := ⟨prefix_refl _, prefix_refl _, prefix_refl _, Nat.le_refl _,
    fun _ operation found => ⟨operation, found, .refl operation⟩⟩
  spares other apart := ⟨kept other apart, fun _ _ => rfl, id,
    fun _ _ _ _ operation _ found key place => ⟨operation, found, key, place⟩⟩

theorem acquire_moves (blockRef : String) : executionRules.Moves caller store
      (if store.locks.has blockRef then store else { store with locks := store.locks.set blockRef caller }) := by
  split
  · exact .refl valid
  rename_i free
  apply quiet_moves valid
  intro other apart scope
  rw [get?_set]
  split
  · rename_i same
    have empty : store.locks.get? scope = none := by
      have absent := free
      rw [OrderedMap.has, ← same] at absent
      simpa using absent
    rw [empty]
    simp [Ne.symm apart]
  · exact Iff.rfl

theorem release_moves : executionRules.Moves caller store (store.release caller) := by
  apply quiet_moves valid
  intro other apart scope
  rw [get?_filter]
  cases held : store.locks.get? scope with
  | none => simp
  | some holder =>
    by_cases mine : holder = caller
    · simp [mine, Ne.symm apart]
    · simp only [Option.some.injEq, filter_some, ne_eq, mine, not_false_eq_true, decide_true, if_true]

theorem tick_moves (clock : Nat) : executionRules.Moves caller store { store with clock } :=
  quiet_moves valid store.locks clock fun _ _ _ => Iff.rfl
end

variable {intent : DispatchIntent}

theorem intent_blockRef {log : List SessionWrite} (lawful : History.Lawful WriteLaw log) {write : SessionWrite}
    (member : write ∈ log) (intends : write.after.dispatchIntent = some intent) :
    intent.blockRef = write.after.blockRef := by
  obtain ⟨_, present, fit, place⟩ := records_bound lawful write member
  simp only [SessionRecord.dispatchIntent, present, bind_some] at intends
  simp only [SessionState.valid, intends, Bool.and_eq_true, all_some, SessionState.intentMatches,
    decide_eq_true_eq] at fit
  obtain ⟨⟨⟨⟨_, ⟨⟨⟨⟨_, scope⟩, _⟩, _⟩, _⟩⟩, _⟩, _⟩, _⟩ := fit
  exact scope.trans place

section Writes
variable {cause : WriteCause} {before : Option SessionRecord} {after : SessionRecord} {next : Nat}

/-- An operation that is observed in the scope was not dispatched for a session that is created there afterwards. -/
theorem unserved_of_creation (valid : store.Valid) (law : WriteLaw store.writes ⟨cause, before, after⟩) {earlier : SessionWrite}
    (member : earlier ∈ store.writes) (new : before = none) (place : earlier.after.blockRef = after.blockRef)
    (operationId : String) (operation : ServerOperation) (intent : DispatchIntent)
    (observes : earlier.after.observedOperationId = some operationId)
    (found : store.operations.get? operationId = some operation) (intends : after.dispatchIntent = some intent) :
    operation.key ≠ some intent.idempotencyKey := by
  intro keyed
  cases law with
  | patch => cases new
  | creation law =>
    have reason := law.reason
    cases reason with
    | observing unintended =>
      rw [unintended] at intends
      cases intends
    | dispatching intended _ _ free =>
      rw [intended] at intends
      cases intends
      obtain ⟨_, known, scope⟩ := valid.watched earlier member operationId observes
      rw [found] at known
      cases known
      obtain ⟨entry, dispatched, same, there⟩ := valid.placed operationId operation _ found keyed
      obtain ⟨write, written, _, also⟩ := valid.dispatched entry dispatched
      apply free write written _ entry.intent also same
      rw [← intent_blockRef valid.lawful written also, there, scope, place]

theorem write_moves (valid : store.Valid) (law : WriteLaw store.writes ⟨cause, before, after⟩) (below : after.sessionId < next)
    (further : store.nextSession ≤ next)
    (origin : ∀ handle, after.handle = some handle → ∃ operation, store.Origin after handle operation)
    (shown : ∀ view ∈ cause.page, store.Shown view)
    (watched : ∀ operationId, after.observedOperationId = some operationId →
      ∃ operation, store.operations.get? operationId = some operation ∧ operation.blockRef = after.blockRef)
    (held : before = none → store.locks.get? after.blockRef = some caller) :
    executionRules.Moves caller store { store.write cause before after with nextSession := next } := by
  have grows : store.Grows { store.write cause before after with nextSession := next } :=
    ⟨prefix_append _ _, prefix_refl _, prefix_refl _, further,
      fun _ operation found => ⟨operation, found, .refl operation⟩⟩
  refine ⟨?_, grows, fun other apart => ?_⟩
  · constructor
    · exact .snoc valid.lawful law
    · intro sessionId
      simp only [write, get?_set, History.latest_snoc, SessionWrite.session, valid.stored]
      by_cases same : sessionId = after.sessionId
      · simp [same]
      · simp [same, Ne.symm same]
    · intro write member
      rcases mem_append.mp member with earlier | final
      · exact Nat.lt_of_lt_of_le (valid.numbered write earlier) further
      · rw [mem_singleton.mp final]
        exact below
    · exact valid.server
    · exact valid.keyed
    · exact valid.placed
    · intro write member handle present
      rcases mem_append.mp member with earlier | final
      · exact (valid.origin write earlier handle present).elim fun _ known => known.grows grows
      · rw [mem_singleton.mp final] at present ⊢
        exact (origin handle present).elim fun _ known => known.grows grows
    · intro write member view among
      rcases mem_append.mp member with earlier | final
      · exact (valid.shown write earlier view among).grows grows
      · rw [mem_singleton.mp final] at among
        exact (shown view among).grows grows
    · intro write member operationId observes
      rcases mem_append.mp member with earlier | final
      · exact valid.watched write earlier operationId observes
      · rw [mem_singleton.mp final] at observes ⊢
        exact watched operationId observes
    · refine pairwise_append.mpr ⟨valid.apart, pairwise_singleton _ _, fun earlier member later single => ?_⟩
      rw [mem_singleton.mp single]
      exact unserved_of_creation valid law member
    · intro entry member
      obtain ⟨write, known, facts⟩ := valid.dispatched entry member
      exact ⟨write, mem_append_left _ known, facts⟩
    · exact valid.single
    · intro sent member
      obtain ⟨write, known, facts⟩ := valid.sent sent member
      exact ⟨write, mem_append_left _ known, facts⟩
  · refine ⟨fun _ => Iff.rfl, fun blockRef locked => ?_, id,
      fun _ _ _ _ operation _ found key place => ⟨operation, found, key, place⟩⟩
    have outside : (before.isNone && decide (after.blockRef = blockRef)) = false := by
      cases before with
      | some => rfl
      | none =>
        have mine := held rfl
        simp only [isNone_none, Bool.true_and, decide_eq_false_iff_not]
        intro same
        rw [same, locked] at mine
        exact apart (Option.some.inj mine)
    simp [creations, write, filter_append, outside]

end Writes

section Server

theorem server_moves (valid : store.Valid) {operationId : String} {operation next : ServerOperation}
    (found : store.operations.get? operationId = some operation) (extends_ : operation.Extends next)
    (kept : next.Valid operationId) :
    executionRules.Moves caller store { store with operations := store.operations.set operationId next } := by
  have grows : store.Grows { store with operations := store.operations.set operationId next } := by
    refine ⟨prefix_refl _, prefix_refl _, prefix_refl _, Nat.le_refl _, fun other another known => ?_⟩
    simp only [get?_set]
    split
    · rename_i same
      rw [same, found] at known
      cases known
      exact ⟨next, rfl, extends_⟩
    · exact ⟨another, known, .refl another⟩
  have before : ∀ other another key, (store.operations.set operationId next).get? other = some another →
      another.key = some key → ∃ old, store.operations.get? other = some old ∧ old.key = some key ∧
        old.blockRef = another.blockRef := by
    intro other another key known named
    rw [get?_set] at known
    split at known
    · rename_i same
      cases known
      rw [same]
      exact ⟨operation, found, extends_.key.symm.trans named, extends_.blockRef.symm⟩
    · exact ⟨another, known, named, rfl⟩
  refine ⟨valid.kept grows rfl rfl rfl rfl ?_ before, grows, fun other _ => ?_⟩
  · exact forall_get?_set valid.server kept
  · refine ⟨fun _ => Iff.rfl, fun _ _ => rfl, id, fun _ blockRef _ other another key known named place => ?_⟩
    obtain ⟨old, was, keyed, there⟩ := before other another key known named
    exact ⟨old, was, keyed, there.trans place⟩

variable {operation : ServerOperation} {operationId : String}

theorem forward_spec {observation : OperationObservation}
    {views : List InteractionView} (ordered : operation.reports.Pairwise OperationObservation.Precedes)
    (named : ∀ report ∈ operation.reports, report.operationId = operationId ∧ report.blockRef = operation.blockRef)
    (forward : operation.forward operationId observation views = true) :
    operation.Extends { operation with reports := operation.reports ++ [observation], interactions := views } ∧
      ServerOperation.Valid operationId
        { operation with reports := operation.reports ++ [observation], interactions := views } := by
  simp only [ServerOperation.forward, Bool.and_eq_true, decide_eq_true_eq, List.all_eq_true, List.any_eq_true,
    Bool.or_eq_true] at forward
  obtain ⟨⟨⟨⟨same, placed⟩, later⟩, stands⟩, distinct⟩ := forward
  refine ⟨⟨rfl, rfl, List.prefix_append _ _, fun old member => ?_⟩, by simp, ?_, fun report member => ?_, distinct⟩
  · obtain ⟨new, among, ⟨key, request⟩, still⟩ := stands old member
    exact ⟨new, among, key, request, still⟩
  · refine List.pairwise_append.mpr ⟨ordered, List.pairwise_singleton _ _, fun old member new single => ?_⟩
    rw [List.mem_singleton.mp single]
    have precedes := later old member
    constructor
    · intro before after was now
      have revisions := precedes.1
      rw [was, now] at revisions
      simpa using revisions
    · intro same
      rcases precedes.2 with different | version
      · exact absurd same (by simpa using different)
      · exact version
  · rcases List.mem_append.mp member with earlier | final
    · exact named report earlier
    · rw [List.mem_singleton.mp final]
      exact ⟨same, placed⟩

theorem serve_moves (valid : store.Valid) (operations : OrderedMap String ServerOperation) (entries : List DispatchEntry)
    (kept : ∀ operationId operation, store.operations.get? operationId = some operation →
      operations.get? operationId = some operation)
    (server : ∀ operationId operation, operations.get? operationId = some operation → operation.Valid operationId)
    (keyed : ∀ operationId operation other another key, operations.get? operationId = some operation →
      operations.get? other = some another → operation.key = some key → another.key = some key → operationId = other)
    (placed : ∀ operationId operation key, operations.get? operationId = some operation → operation.key = some key →
      ∃ entry ∈ store.dispatches ++ entries, entry.intent.idempotencyKey = key ∧ entry.intent.blockRef = operation.blockRef)
    (dispatched : ∀ entry ∈ entries, ∃ write ∈ store.writes, write.session = entry.sessionId ∧
      write.after.dispatchIntent = some entry.intent)
    (single : store.Guarded → (∀ entry ∈ entries, entry.locked = true) → ∀ entry ∈ entries, entry.handle = none)
    (others : ∀ other, other ≠ caller → (∀ entry ∈ entries, entry.locked = true) → ∀ blockRef,
      store.locks.get? blockRef = some other → ∀ operationId operation key, operations.get? operationId = some operation →
      operation.key = some key → operation.blockRef = blockRef → store.operations.get? operationId = some operation) :
    executionRules.Moves caller store { store with operations, dispatches := store.dispatches ++ entries } := by
  have grows : store.Grows { store with operations, dispatches := store.dispatches ++ entries } :=
    ⟨prefix_refl _, prefix_append _ _, prefix_refl _, Nat.le_refl _,
      fun operationId operation found => ⟨operation, kept operationId operation found, .refl operation⟩⟩
  refine ⟨⟨valid.lawful, valid.stored, valid.numbered, server, keyed, placed, ?_, ?_, ?_, ?_, ?_, ?_, valid.sent⟩, grows,
    fun other apart => ⟨fun _ => Iff.rfl, fun _ _ => rfl, fun guarded => guarded.before grows, ?_⟩⟩
  · intro write member handle present
    exact (valid.origin write member handle present).elim fun _ known => known.grows grows
  · exact fun write member view among => (valid.shown write member view among).grows grows
  · intro write member operationId observes
    obtain ⟨operation, found, place⟩ := valid.watched write member operationId observes
    exact ⟨operation, kept operationId operation found, place⟩
  · apply valid.apart.imp_of_mem
    intro earlier later first _ free new place operationId operation intent observes found intends
    obtain ⟨old, was, _⟩ := valid.watched earlier first operationId observes
    have same := kept operationId old was
    rw [found] at same
    cases same
    exact free new place operationId operation intent observes was intends
  · intro entry member
    rcases mem_append.mp member with earlier | new
    · exact valid.dispatched entry earlier
    · exact dispatched entry new
  · intro guarded entry member
    rcases mem_append.mp member with earlier | new
    · exact valid.single (guarded.before grows) entry earlier
    · exact single (guarded.before grows) (fun entry among => guarded entry (mem_append_right _ among)) entry new
  · intro guarded blockRef held operationId operation key found named place
    have locked : ∀ entry ∈ entries, entry.locked = true :=
      fun entry among => guarded entry (mem_append_right _ among)
    exact ⟨operation, others other apart locked blockRef held operationId operation key found named place, named, place⟩

theorem report_moves (valid : store.Valid) (operationId : String) (observation : OperationObservation)
    (views : List InteractionView) : executionRules.Moves caller store (store.report operationId observation views) := by
  unfold report
  cases found : store.operations.get? operationId with
  | some operation =>
    simp only
    split
    · rename_i forward
      have was := valid.server operationId operation found
      have spec := forward_spec was.ordered was.named forward
      exact server_moves valid found spec.1 spec.2
    · exact .refl valid
  | none =>
    simp only
    split
    · rename_i forward
      have spec := forward_spec .nil (fun _ member => absurd member not_mem_nil) forward
      have moves := @serve_moves store caller valid
        (store.operations.set operationId ⟨none, observation.blockRef, [observation], views⟩) []
      simp only [append_nil] at moves
      have known : ∀ other operation, (store.operations.set operationId
          ⟨none, observation.blockRef, [observation], views⟩).get? other = some operation →
          other = operationId ∧ operation.key = none ∧ operation.Valid operationId ∨
            store.operations.get? other = some operation :=
        forall_get?_set (fun _ _ present => .inr present) (.inl ⟨rfl, rfl, spec.2⟩)
      have stood : ∀ other operation key, (store.operations.set operationId
          ⟨none, observation.blockRef, [observation], views⟩).get? other = some operation → operation.key = some key →
          store.operations.get? other = some operation := by
        intro other operation key present named
        rcases known other operation present with ⟨_, none_, _⟩ | was
        · rw [none_] at named
          cases named
        · exact was
      apply moves
      · intro other operation present
        have apart : other ≠ operationId := by
          intro same
          rw [same, found] at present
          cases present
        rw [get?_set_of_ne _ _ apart, present]
      · intro other operation present
        rcases known other operation present with ⟨same, _, holds⟩ | was
        · exact same ▸ holds
        · exact valid.server other operation was
      · intro first operation second another key present also named same
        exact valid.keyed first operation second another key (stood first operation key present named)
          (stood second another key also same) named same
      · intro other operation key present named
        exact valid.placed other operation key (stood other operation key present named) named
      · exact fun _ member => absurd member not_mem_nil
      · exact fun _ _ _ member => absurd member not_mem_nil
      · intro other _ _ _ _ another operation key present named _
        exact stood another operation key present named
    · exact .refl valid

variable {key : String} {sessionId : Nat}

theorem operationOf_spec (found : store.operationOf key = some (operationId, operation)) :
    store.operations.get? operationId = some operation ∧ operation.key = some key := by
  have member := mem_of_find?_eq_some found
  have named := find?_some found
  exact ⟨(get?_eq_some_iff _).mpr member, of_decide_eq_true named⟩

theorem operationOf_eq_none (none_ : store.operationOf key = none)
    (found : store.operations.get? operationId = some operation) : operation.key ≠ some key := by
  intro named
  have absent := find?_eq_none.mp none_ (operationId, operation) ((get?_eq_some_iff _).mp found)
  exact absent (decide_eq_true named)

theorem dispatch_moves (valid : store.Valid) (created : OperationObservation)
    (intended : ∃ write ∈ store.writes, write.session = sessionId ∧ write.after.dispatchIntent = some intent)
    (free : store.Guarded → store.locks.get? intent.blockRef = some caller → ∀ record,
      store.sessions.get? sessionId = some record → record.handle = none) :
    executionRules.Moves caller store (store.dispatch caller sessionId intent created) := by
  have known : ∀ operationId operation, (store.accept intent created).get? operationId = some operation →
      store.operations.get? operationId = some operation ∨ operationId = created.operationId ∧
        store.operationOf intent.idempotencyKey = none ∧ created.blockRef = intent.blockRef ∧
        operation = ⟨some intent.idempotencyKey, intent.blockRef, [created], []⟩ := by
    intro operationId operation present
    unfold accept at present
    split at present
    · exact .inl present
    rename_i new
    simp only [ne_eq, Bool.or_eq_true, decide_eq_true_eq, not_or, Decidable.not_not, Bool.not_eq_true,
      isSome_eq_false_iff, isNone_iff_eq_none] at new
    revert operationId operation
    exact forall_get?_set (fun _ _ present => .inl present) (.inr ⟨rfl, new.1.1, new.2, rfl⟩)
  apply serve_moves valid
  · intro operationId operation present
    unfold accept
    split
    · exact present
    rename_i new
    have apart : operationId ≠ created.operationId := by
      intro same
      have has : store.operations.has created.operationId = true := by rw [OrderedMap.has, ← same, present]; rfl
      simp [has] at new
    rw [get?_set_of_ne _ _ apart, present]
  · intro operationId operation present
    rcases known operationId operation present with was | ⟨same, _, place, shape⟩
    · exact valid.server operationId operation was
    · rw [same, shape]
      refine ⟨cons_ne_nil _ _, pairwise_singleton _ _, fun report member => ?_, nodup_nil⟩
      rw [mem_singleton.mp member]
      exact ⟨rfl, place⟩
  · intro first operation second another key present also named keyed
    rcases known first operation present with was | ⟨same, absent, _, shape⟩
    · rcases known second another also with stood | ⟨_, absent, _, shape⟩
      · exact valid.keyed first operation second another key was stood named keyed
      · rw [shape] at keyed
        cases keyed
        exact absurd named (operationOf_eq_none absent was)
    · rcases known second another also with stood | ⟨equal, _⟩
      · rw [shape] at named
        cases named
        exact absurd keyed (operationOf_eq_none absent stood)
      · rw [same, equal]
  · intro operationId operation key present named
    rcases known operationId operation present with was | ⟨_, _, _, shape⟩
    · obtain ⟨entry, member, facts⟩ := valid.placed operationId operation key was named
      exact ⟨entry, mem_append_left _ member, facts⟩
    · rw [shape] at named ⊢
      cases named
      exact ⟨_, mem_append_right _ (mem_singleton.mpr rfl), rfl, rfl⟩
  · intro entry member
    rw [mem_singleton.mp member]
    exact intended
  · intro guarded locked entry member
    have held := locked entry member
    rw [mem_singleton.mp member] at held ⊢
    have mine := of_decide_eq_true held
    cases present : store.sessions.get? sessionId with
    | none => rfl
    | some record => exact free guarded mine record present
  · intro other apart locked blockRef held operationId operation key present _ place
    rcases known operationId operation present with was | ⟨_, _, _, shape⟩
    · exact was
    have mine := of_decide_eq_true (locked _ (mem_singleton.mpr rfl))
    rw [shape] at place
    have scope : intent.blockRef = blockRef := place
    rw [scope, held] at mine
    exact absurd (Option.some.inj mine) apart

theorem settle_key (response : InteractionResponse) (view : InteractionView) : (view.settle response).key = view.key := by
  unfold InteractionView.settle
  split <;> rfl

theorem settle_moves (valid : store.Valid) {response : InteractionResponse}
    (intended : ∃ write ∈ store.writes, write.session = sessionId ∧
      write.after.Intends (response.identity operationId) response) :
    executionRules.Moves caller store (store.settle sessionId operationId response) := by
  have sent : executionRules.Moves caller store
      { store with responses := store.responses ++ [⟨sessionId, response.identity operationId, response⟩] } := by
    have grows : store.Grows
        { store with responses := store.responses ++ [⟨sessionId, response.identity operationId, response⟩] } :=
      ⟨List.prefix_refl _, List.prefix_refl _, List.prefix_append _ _, Nat.le_refl _,
        fun _ operation found => ⟨operation, found, .refl operation⟩⟩
    refine ⟨⟨valid.lawful, valid.stored, valid.numbered, valid.server, valid.keyed, valid.placed, ?_, ?_, valid.watched,
      valid.apart, valid.dispatched, valid.single, fun sent member => ?_⟩, grows,
      fun other _ => ⟨fun _ => Iff.rfl, fun _ _ => rfl, id,
        fun _ _ _ _ operation _ found key place => ⟨operation, found, key, place⟩⟩⟩
    · intro write member handle present
      exact (valid.origin write member handle present).elim fun _ known => known.grows grows
    · exact fun write member view among => (valid.shown write member view among).grows grows
    · rcases List.mem_append.mp member with earlier | new
      · exact valid.sent sent earlier
      · rw [List.mem_singleton.mp new]
        exact intended
  unfold settle
  simp only
  cases found : store.operations.get? operationId with
  | none => exact sent
  | some operation =>
    have was := valid.server operationId operation found
    have keys : ∀ view : InteractionView, (if view.key = response.identity operationId then view.settle response else view).key = view.key := by
      intro view
      split
      · exact settle_key response view
      · rfl
    have settled := @server_moves _ caller sent.valid operationId operation
      { operation with interactions := operation.interactions.map fun view =>
        if view.key = response.identity operationId then view.settle response else view } found
      ⟨rfl, rfl, List.prefix_refl _, fun old member => ⟨_, List.mem_map_of_mem member, keys old, ?_, ?_⟩⟩
      ⟨was.known, was.ordered, was.named, ?_⟩
    · refine ⟨settled.valid, executionRules.trans sent.grows settled.grows, fun other apart => ?_⟩
      exact executionRules.spares_trans (sent.spares other apart) (settled.spares other apart)
    · unfold InteractionView.settle
      split
      · split <;> rfl
      · rfl
    · unfold InteractionView.settle
      by_cases pending : old.status = .pending
      · exact .inl pending
      · simp [pending]
    · have same : InteractionView.key ∘ (fun view : InteractionView =>
          if view.key = response.identity operationId then view.settle response else view) = InteractionView.key :=
        funext keys
      rw [List.map_map, same]
      exact was.distinct

end Server
end ExecutionStore
end PlanWeave.WorkspaceExecution
