import PlanWeave.State.Reconciliation

namespace PlanWeave
open List Option
variable {graph graph' : Graph} {left right : Manifest} {stored : RuntimeState} {ref : String}

def ReorderedTask (left right : ManifestTask) : Prop :=
  right = { left with blocks := right.blocks } ∧ left.blocks.Perm right.blocks

/-- The same manifest with its nodes, and the blocks inside them, in another order. -/
def Reordered (left right : Manifest) : Prop :=
  right = { left with nodes := right.nodes } ∧ ∃ nodes, List.Forall₂ ReorderedTask left.nodes nodes ∧ nodes.Perm right.nodes

/-- Reconciling the state to either manifest gives every block and every task the same status, or is refused. -/
def DerivesAlike (left right : Manifest) (stored : RuntimeState) : Prop :=
  ((∃ next, ensureStateForManifest left stored = .ok next) ↔ ∃ next, ensureStateForManifest right stored = .ok next) ∧
    ∀ next next', ensureStateForManifest left stored = .ok next → ensureStateForManifest right stored = .ok next' →
      (∀ ref, next.status ref = next'.status ref) ∧ ∀ taskId, next.taskStatus taskId = next'.taskStatus taskId

/-- A review that the first loop makes ready although its task has active feedback: all that it depends on is
completed and was visited before it. -/
def EarlyReview (graph : Graph) (stored : RuntimeState) (ref : String) : Prop :=
  graph.isReview ref = true ∧ hasOpenFeedbackForTask graph (prunedState graph stored) (graph.taskOfRef ref) = true ∧
    hasStartedBlock (keptBlock graph stored ref).status = false ∧
    neighbors graph.taskDependenciesByTask (graph.taskOfRef ref) = [] ∧
    ∀ dependency ∈ neighbors graph.blockDependenciesByRef ref, (keptBlock graph stored dependency).status = .completed ∧
      dependency ∈ graph.blockRefsInManifestOrder.takeWhile (fun other => other ≠ ref)

section Graphs
variable {task : ManifestTask}

theorem ReorderedTask.id_eq {other : ManifestTask} (same : ReorderedTask task other) : other.id = task.id := by
  rw [same.1]

structure Rearranged (left right : Manifest) : Prop where
  edges : left.edges = right.edges
  forth : ∀ task ∈ left.nodes, ∃ other ∈ right.nodes, ReorderedTask task other
  back : ∀ task ∈ right.nodes, ∃ other ∈ left.nodes, ReorderedTask task other

theorem ReorderedTask.symm {other : ManifestTask} (same : ReorderedTask task other) : ReorderedTask other task :=
  ⟨by rw [same.1], same.2.symm⟩

theorem Rearranged.symm (same : Rearranged left right) : Rearranged right left :=
  ⟨same.edges.symm, same.back, same.forth⟩

theorem Reordered.rearranged (reordered : Reordered left right) : Rearranged left right := by
  obtain ⟨rest, nodes, each, perm⟩ := reordered
  have both : (∀ task ∈ left.nodes, ∃ other ∈ nodes, ReorderedTask task other) ∧
      ∀ task ∈ nodes, ∃ other ∈ left.nodes, ReorderedTask task other := by
    generalize left.nodes = tasks at each
    clear rest perm
    induction each with
    | nil => exact ⟨fun _ member => (not_mem_nil member).elim, fun _ member => (not_mem_nil member).elim⟩
    | cons same _ ih =>
      simp only [mem_cons, forall_eq_or_imp]
      exact ⟨⟨⟨_, .inl rfl, same⟩, fun task later => (ih.1 task later).imp fun _ found => ⟨.inr found.1, found.2⟩⟩,
        ⟨_, .inl rfl, same.symm⟩, fun task later => (ih.2 task later).imp fun _ found => ⟨.inr found.1, found.2⟩⟩
  exact ⟨by rw [rest], fun task member => (both.1 task member).imp fun _ found => ⟨perm.mem_iff.mp found.1, found.2⟩,
    fun task member => both.2 task (perm.mem_iff.mpr member)⟩

section
variable (same : Rearranged left right) (valid : Wellformed left) (valid' : Wellformed right)
include same valid valid'

theorem Rearranged.taskOf {id : String} (found : taskOf left id = some task) :
    ∃ other, taskOf right id = some other ∧ ReorderedTask task other := by
  obtain ⟨member, named⟩ := (taskOf_iff valid.distinct).mp found
  obtain ⟨other, among, reordered⟩ := same.forth task member
  exact ⟨other, (taskOf_iff valid'.distinct).mpr ⟨among, reordered.id_eq.trans named⟩, reordered⟩

theorem Rearranged.taskOf_isSome (id : String) : (PlanWeave.taskOf left id).isSome = (PlanWeave.taskOf right id).isSome := by
  rw [Bool.eq_iff_iff, isSome_iff_exists, isSome_iff_exists]
  exact ⟨fun ⟨_, found⟩ => (same.taskOf valid valid' found).imp fun _ both => both.1,
    fun ⟨_, found⟩ => (same.symm.taskOf valid' valid found).imp fun _ both => both.1⟩

theorem Rearranged.entryOf {block : ManifestBlock} (found : entryOf left ref = some (task, block)) :
    ∃ other, entryOf right ref = some (other, block) ∧ other.id = task.id := by
  obtain ⟨member, memberBlock, named⟩ := (entryOf_iff valid.toIndexable).mp found
  obtain ⟨other, among, reordered⟩ := same.forth task member
  exact ⟨other, (entryOf_iff valid'.toIndexable).mpr ⟨among, reordered.2.mem_iff.mp memberBlock,
    reordered.id_eq ▸ named⟩, reordered.id_eq⟩

theorem Rearranged.map_entryOf {γ : Type} (value : ManifestTask × ManifestBlock → γ)
    (read : ∀ task other block, task.id = other.id → value (task, block) = value (other, block)) (ref : String) :
    (PlanWeave.entryOf left ref).map value = (PlanWeave.entryOf right ref).map value := by
  cases found : PlanWeave.entryOf left ref with
  | some entry =>
    obtain ⟨other, found', named⟩ := same.entryOf valid valid' found
    rw [found', map_some, map_some, read entry.1 other entry.2 named.symm]
  | none =>
    cases found' : PlanWeave.entryOf right ref with
    | none => rfl
    | some =>
      obtain ⟨_, impossible, _⟩ := same.symm.entryOf valid' valid found'
      rw [found] at impossible
      cases impossible

theorem Rearranged.readsAlike
    (indexes : Indexes graph left) (indexes' : Indexes graph' right) : ReadsAlike graph graph' where
  tasks := by
    intro taskId
    rw [indexes.taskOrder, indexes'.taskOrder, ← PlanWeave.taskOf_isSome, ← PlanWeave.taskOf_isSome,
      same.taskOf_isSome valid valid']
  refs := by
    have within : ∀ {left right : Manifest} {graph graph' : Graph}, Rearranged left right → Wellformed left → Wellformed right →
        Indexes graph left → Indexes graph' right → ∀ taskId ref, ref ∈ neighbors graph.blocksByTask taskId →
        ref ∈ neighbors graph'.blocksByTask taskId := by
      intro left right graph graph' same valid valid' indexes indexes' taskId ref member
      unfold neighbors at member ⊢
      rw [indexes.taskBlocks] at member
      rw [indexes'.taskBlocks]
      cases found : PlanWeave.taskOf left taskId with
      | none =>
        rw [found] at member
        cases member
      | some =>
        obtain ⟨_, found', reordered⟩ := same.taskOf valid valid' found
        rw [found] at member
        rw [found']
        obtain ⟨block, memberBlock, rfl⟩ := mem_map.mp member
        exact mem_map.mpr ⟨block, reordered.2.mem_iff.mp memberBlock, by rw [reordered.id_eq]⟩
    exact fun taskId ref => ⟨within same valid valid' indexes indexes' taskId ref,
      within same.symm valid' valid indexes' indexes taskId ref⟩
  blocks := fun ref => by
    rw [indexes.blocks, indexes'.blocks, same.map_entryOf valid valid' _ fun _ _ _ _ => rfl]
  owners := fun ref => by
    rw [indexes.blockTask, indexes'.blockTask, same.map_entryOf valid valid' _ fun _ _ _ named => named]
  taskDependencies := by
    intro taskId
    have listed : taskDependencies left taskId = taskDependencies right taskId := by
      unfold taskDependencies connectedEdges
      simp only [same.edges, same.taskOf_isSome valid valid']
    have known := same.taskOf_isSome valid valid' taskId
    unfold neighbors
    rw [indexes.dependencies, indexes'.dependencies, listed]
    cases found : PlanWeave.taskOf left taskId <;> cases found' : PlanWeave.taskOf right taskId <;>
      simp_all
  blockDependencies := fun ref => by
    unfold neighbors
    rw [indexes.blockDependencies, indexes'.blockDependencies, same.map_entryOf valid valid' _ fun _ _ _ named => by
      simp only [blockDependencies, named]]
end
end Graphs

section Statuses

section
variable (alike : ReadsAlike graph graph')
include alike

theorem ReadsAlike.listed (filed : graph.Filed) (filed' : graph'.Filed) (ref : String) :
    ref ∈ graph.blockRefsInManifestOrder ↔ ref ∈ graph'.blockRefsInManifestOrder := by
  rw [filed.owned, filed'.owned, alike.owners]

theorem ReadsAlike.kept (stored : RuntimeState) (ref : String) :
    keptBlock graph stored ref = keptBlock graph' stored ref := by
  unfold keptBlock existingBlock receiptDrifts
  rw [alike.blocks]

theorem ReadsAlike.feedback (filed : graph.Filed) (filed' : graph'.Filed)
    (stored : RuntimeState) : (prunedState graph stored).feedback = (prunedState graph' stored).feedback := by
  unfold prunedState
  simp only [alike.listed filed filed']

theorem ReadsAlike.openFeedback {state state' : RuntimeState}
    (feedback : state.feedback = state'.feedback) (taskId : String) :
    hasOpenFeedbackForTask graph state taskId = hasOpenFeedbackForTask graph' state' taskId := by
  unfold hasOpenFeedbackForTask PlanWeave.openFeedback
  simp only [feedback, alike.owners]

theorem ReadsAlike.owners_iff (filed : graph.Filed) (filed' : graph'.Filed) :
    OwnersActive graph stored ↔ OwnersActive graph' stored := by
  unfold OwnersActive
  simp only [alike.listed filed filed']
end

theorem seeded_ready_iff (sound : graph.Sound) (inside : ref ∈ graph.blockRefsInManifestOrder)
    (idle : hasStartedBlock (keptBlock graph stored ref).status = false) :
    (seededState graph stored).status ref = .ready ↔ neighbors graph.taskDependenciesByTask (graph.taskOfRef ref) = [] ∧
      ∀ dependency ∈ neighbors graph.blockDependenciesByRef ref, (keptBlock graph stored dependency).status = .completed ∧
        dependency ∈ graph.blockRefsInManifestOrder.takeWhile (fun other => other ≠ ref) := by
  obtain ⟨before, after, split, absent⟩ := eq_append_cons_of_mem inside
  have taken : graph.blockRefsInManifestOrder.takeWhile (fun other => other ≠ ref) = before := by
    rw [split, takeWhile_append_of_pos fun other member => by
      simpa using fun same : other = ref => absent (same ▸ member)]
    simp
  have distinct := sound.refsDistinct
  rw [split, nodup_append] at distinct
  rw [taken]
  exact seeded_ready_visited split (nodup_cons.mp distinct.2.1).1 idle

theorem ReadsAlike.taskStatus (alike : ReadsAlike graph graph') (sound : graph.Sound) (filed' : graph'.Filed)
    (stored : RuntimeState) (taskId : String) :
    (derivedState graph stored).taskStatus taskId = (derivedState graph' stored).taskStatus taskId := by
  have rebuilt := derivedState_rebuilt sound.filed stored
  have rebuilt' := derivedState_rebuilt filed' stored
  have fixed := fixedPoint sound.filed rebuilt (derivedState_settled sound.filed stored)
  have fixed' := fixedPoint filed' rebuilt' (derivedState_settled filed' stored)
  generalize derivedState graph stored = next at rebuilt fixed ⊢
  generalize derivedState graph' stored = next' at rebuilt' fixed' ⊢
  have same : ∀ taskId, taskDependenciesSatisfied graph next taskId = taskDependenciesSatisfied graph' next' taskId →
      next.taskStatus taskId = next'.taskStatus taskId := by
    intro taskId satisfied
    unfold RuntimeState.taskStatus
    by_cases listed : taskId ∈ graph.taskNodesInManifestOrder
    · rw [fixed.tasks taskId listed, fixed'.tasks taskId ((alike.tasks taskId).mp listed),
        aggregateTaskStatus_alike alike satisfied]
      · rw [rebuilt.feedback, rebuilt'.feedback, alike.feedback sound.filed filed']
      intro ref member
      have inside := (sound.owned ref).mpr ⟨taskId, (sound.taskRefs ref taskId).mpr member⟩
      obtain ⟨block, found, settles⟩ := rebuilt.blocks ref inside
      obtain ⟨_, found', settles'⟩ := rebuilt'.blocks ref ((alike.listed sound.filed filed' ref).mp inside)
      unfold RuntimeState.block
      rw [found, found', Option.getD_some, Option.getD_some]
      exact settles.symm.trans (alike.kept stored ref ▸ settles')
    · rw [fixed.tasksListed taskId listed, fixed'.tasksListed taskId fun listed' => listed ((alike.tasks taskId).mpr listed')]
  by_contra differs
  have some' : (graph.taskNodesInManifestOrder.toFinset.filter
      fun taskId => next.taskStatus taskId ≠ next'.taskStatus taskId).Nonempty := by
    refine ⟨taskId, Finset.mem_filter.mpr ⟨List.mem_toFinset.mpr ?_, differs⟩⟩
    by_contra outside
    apply differs
    unfold RuntimeState.taskStatus
    rw [fixed.tasksListed taskId outside, fixed'.tasksListed taskId fun listed' => outside ((alike.tasks taskId).mpr listed')]
  obtain ⟨first, member, minimal⟩ := sound.acyclic.exists_minimal some'
  refine (Finset.mem_filter.mp member).2 (same first ?_)
  rw [Bool.eq_iff_iff, taskDependenciesSatisfied_iff, taskDependenciesSatisfied_iff, ← alike.taskDependencies]
  refine forall₂_congr fun dependency step => ?_
  have agrees := minimal dependency step
  rw [Finset.mem_filter, List.mem_toFinset, not_and, not_not] at agrees
  rw [agrees (sound.dependencyListed first dependency step)]

theorem ReadsAlike.blockStatus_iff (alike : ReadsAlike graph graph') (sound : graph.Sound) (sound' : graph'.Sound)
    (stored : RuntimeState) (ref : String) : (derivedState graph stored).status ref = (derivedState graph' stored).status ref ↔
      (EarlyReview graph stored ref ↔ EarlyReview graph' stored ref) := by
  have rebuilt := derivedState_rebuilt sound.filed stored
  have rebuilt' := derivedState_rebuilt sound'.filed stored
  have sameRefs := alike.listed sound.filed sound'.filed
  have sameKept := alike.kept stored
  by_cases inside : ref ∈ graph.blockRefsInManifestOrder
  · cases idle : hasStartedBlock (keptBlock graph stored ref).status with
    | true =>
      have never : ∀ {graph : Graph}, hasStartedBlock (keptBlock graph stored ref).status = true → ¬ EarlyReview graph stored ref := by
        rintro _ started ⟨_, _, idle, _⟩
        rw [started] at idle
        cases idle
      have same : (derivedState graph stored).status ref = (derivedState graph' stored).status ref := by
        rw [(rebuilt.status_iff inside idle).mpr rfl, sameKept]
        exact ((rebuilt'.status_iff ((sameRefs ref).mp inside) (sameKept ref ▸ idle)).mpr rfl).symm
      simp only [same, never idle, never (sameKept ref ▸ idle)]
    | false =>
      have idle' : hasStartedBlock (keptBlock graph' stored ref).status = false := sameKept ref ▸ idle
      have inside' := (sameRefs ref).mp inside
      have guards : (graph.isReview ref = true ∧
          hasOpenFeedbackForTask graph (prunedState graph stored) (graph.taskOfRef ref) = true) ↔
          (graph'.isReview ref = true ∧
            hasOpenFeedbackForTask graph' (prunedState graph' stored) (graph'.taskOfRef ref) = true) := by
        rw [Graph.isReview, Graph.isReview, Graph.taskOfRef, Graph.taskOfRef, alike.blocks, alike.owners,
          alike.openFeedback (alike.feedback sound.filed sound'.filed stored)]
      have readies : (derivedState graph stored).status ref = (derivedState graph' stored).status ref ↔
          ((derivedState graph stored).status ref = .ready ↔ (derivedState graph' stored).status ref = .ready) := by
        rcases status_of_idle idle (rebuilt.blocks ref inside) with status | status <;>
          rcases status_of_idle idle' (rebuilt'.blocks ref inside') with status' | status' <;> simp [status, status']
      rw [readies, derived_ready_iff sound.filed inside idle, derived_ready_iff sound'.filed inside' idle']
      unfold EarlyReview
      by_cases guarded : graph.isReview ref = true ∧
        hasOpenFeedbackForTask graph (prunedState graph stored) (graph.taskOfRef ref) = true
      · have guarded' := guards.mp guarded
        rw [if_pos guarded, if_pos guarded', seeded_ready_iff sound inside idle, seeded_ready_iff sound' inside' idle']
        simp only [guarded.1, guarded.2, guarded'.1, guarded'.2, idle, idle', true_and]
      · have free := fun guarded' => guarded (guards.mpr guarded')
        rw [if_neg guarded, if_neg free]
        refine iff_of_true (and_congr ?_ ?_) (iff_of_false (fun early => guarded ⟨early.1, early.2.1⟩)
          (fun early => free ⟨early.1, early.2.1⟩))
        · rw [taskDependenciesSatisfied_iff, taskDependenciesSatisfied_iff, Graph.taskOfRef, Graph.taskOfRef, alike.owners,
            alike.taskDependencies]
          simp only [alike.taskStatus sound sound'.filed]
        · rw [blockDependenciesCompleted_iff, blockDependenciesCompleted_iff, ← alike.blockDependencies]
          refine forall₂_congr fun dependency step => ?_
          have among := (sound.blockDependency ref dependency step).1
          rw [rebuilt.status_iff among rfl, rebuilt'.status_iff ((sameRefs dependency).mp among) rfl, sameKept]
  · have absent : ∀ {graph : Graph}, graph.Sound → ref ∉ graph.blockRefsInManifestOrder → ¬ EarlyReview graph stored ref := by
      rintro graph sound outside ⟨review, _⟩
      apply outside
      rw [sound.declared, OrderedMap.has]
      cases found : graph.blocksByRef.get? ref with
      | none => rw [Graph.isReview, found] at review; cases review
      | some => rfl
    have outside' := fun inside' => inside ((sameRefs ref).mpr inside')
    refine iff_of_true ?_ (iff_of_false (absent sound inside) (absent sound' outside'))
    unfold RuntimeState.status RuntimeState.block
    rw [rebuilt.absent ref inside, rebuilt'.absent ref outside']

end Statuses

/-- Reordering nodes and blocks changes no status unless a review that has not started, of a task with active feedback,
is listed behind all that it depends on in one order only; a refused state is refused in both. -/
theorem reordering_agrees_iff (reordered : Reordered left right) (compiled : compileTaskGraph left = .ok graph)
    (clean : graph.errors = []) (compiled' : compileTaskGraph right = .ok graph') (clean' : graph'.errors = [])
    (stored : RuntimeState) : DerivesAlike left right stored ↔
      (OwnersActive graph stored → ∀ ref, EarlyReview graph stored ref ↔ EarlyReview graph' stored ref) := by
  have sound := Graph.Sound.of_compile compiled clean
  have sound' := Graph.Sound.of_compile compiled' clean'
  have valid := (compileTaskGraph_accepts_iff left).mp ⟨graph, compiled, clean⟩
  have valid' := (compileTaskGraph_accepts_iff right).mp ⟨graph', compiled', clean'⟩
  have alike := reordered.rearranged.readsAlike valid valid' (compiled_indexes compiled valid.toIndexable)
    (compiled_indexes compiled' valid'.toIndexable)
  unfold DerivesAlike
  simp only [ensureStateForManifest_ok compiled, ensureStateForManifest_ok compiled',
    ← alike.owners_iff sound.filed sound'.filed, exists_and_left, exists_eq, and_true, iff_self, true_and]
  constructor
  · intro same active ref
    exact (alike.blockStatus_iff sound sound' stored ref).mp ((same _ _ ⟨active, rfl⟩ ⟨active, rfl⟩).1 ref)
  · rintro same _ _ ⟨active, rfl⟩ ⟨_, rfl⟩
    exact ⟨fun ref => (alike.blockStatus_iff sound sound' stored ref).mpr (same active ref),
      alike.taskStatus sound sound'.filed stored⟩

def reviewFirst : Manifest := sampleManifest
  [sampleTask "T" [{ sampleReview "r" {} with dependsOn := ["a"] }, sampleImplementation "a"]] []

theorem reviewLast_reordered : Reordered reviewLast reviewFirst :=
  ⟨rfl, reviewFirst.nodes, .cons ⟨rfl, .swap _ _ _⟩ .nil, .refl _⟩

theorem reordering_agrees_answering : ∃ graph graph', compileTaskGraph reviewLast = .ok graph ∧
    compileTaskGraph reviewFirst = .ok graph' ∧ (DerivesAlike reviewLast reviewFirst answering ↔
      (OwnersActive graph answering → ∀ ref, EarlyReview graph answering ref ↔ EarlyReview graph' answering ref)) := by
  obtain ⟨graph, compiled, clean⟩ := (compilesCleanly_iff reviewLast).mp (by decide +kernel)
  obtain ⟨graph', compiled', clean'⟩ := (compilesCleanly_iff reviewFirst).mp (by decide +kernel)
  exact ⟨graph, graph', compiled, compiled',
    reordering_agrees_iff reviewLast_reordered compiled clean compiled' clean' answering⟩

/-- The review is ready behind its implementation, and planned in front of it. -/
theorem review_order_changes_status : Reordered reviewLast reviewFirst ∧ compilesCleanly reviewLast = true ∧
    compilesCleanly reviewFirst = true ∧
    (ensureStateForManifest reviewLast answering).toOption.any (fun next => next.status "T#r" = .ready) = true ∧
    (ensureStateForManifest reviewFirst answering).toOption.any (fun next => next.status "T#r" = .planned) = true :=
  ⟨reviewLast_reordered, by decide +kernel⟩

end PlanWeave
