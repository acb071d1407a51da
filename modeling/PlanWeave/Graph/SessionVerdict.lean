import PlanWeave.Graph.SessionValidation

namespace PlanWeave
open Checked List
variable {block : ManifestBlock} {graph : Graph} {manifest : Manifest}
variable {session : Session} {task : ManifestTask}

section Diagnostics
variable {graph' : Graph} {operation : GraphEditOperation}

theorem pushed_diagnostics {edge : ManifestEdge} (done : addEdgeIndexes graph edge = .ok graph') :
    graph'.errors = graph.errors := by
  rw [(addEdgeIndexes_same done).rest]

theorem rebuildEdgeIndexes_errors
    (done : rebuildEdgeIndexes graph manifest = .ok graph') : graph'.errors = graph.errors := by
  have ran : (connected graph.nodesById manifest.edges).foldlM addEdgeIndexes (clearEdges graph) = .ok graph' := done
  have kept := foldlM_keeps Graph.errors (fun _ _ _ step => pushed_diagnostics step) ran
  exact kept

variable {taskId : String}

theorem addBlockIndexes_errors (done : addBlockIndexes taskId graph block = .ok graph') : graph'.errors = graph.errors := by
  obtain ⟨_, done⟩ := rest_ok done
  split at done
  · obtain ⟨_, done⟩ := rest_ok done
    cases done
    rfl
  · cases done
    rfl

theorem wireBlockDependencyIndexes_errors
    (done : wireBlockDependencyIndexes taskId graph block = .ok graph') : graph'.errors = graph.errors := by
  obtain ⟨_, _, done⟩ := rest_ok₂ done
  cases done
  rfl

theorem addTaskIndexes_errors (done : addTaskIndexes graph task = .ok graph') : graph'.errors = graph.errors := by
  obtain ⟨indexed, first, done⟩ := bind_ok.mp done
  rw [foldlM_keeps Graph.errors (fun _ _ _ step => wireBlockDependencyIndexes_errors step) done,
    foldlM_keeps Graph.errors (fun _ _ _ step => addBlockIndexes_errors step) first]
  rfl

theorem removeTaskIndexes_errors {result : Graph × List String}
    (done : removeTaskIndexes graph taskId = .ok result) : result.1.errors = graph.errors := by
  obtain ⟨_, done⟩ := rest_ok done
  cases done
  rfl

variable {progress : Session × List Issue}

theorem applyGraphEditOperation_errors
    (done : applyGraphEditOperation session operation = .ok progress) :
    progress.1.graph.errors = session.graph.errors := by
  cases operation with
  | addNode =>
    simp only [applyGraphEditOperation] at done
    split at done
    · cases done; rfl
    split at done
    · cases done; rfl
    obtain ⟨graph, added, done⟩ := bind_ok.mp done
    obtain ⟨_, done⟩ := rest_ok done
    cases done
    have kept := addTaskIndexes_errors added
    exact kept
  | updateNode =>
    simp only [applyGraphEditOperation] at done
    split at done
    · cases done; rfl
    split at done
    · cases done; rfl
    obtain ⟨_, ran, done⟩ := bind_ok.mp done
    obtain ⟨_, added, done⟩ := bind_ok.mp done
    obtain ⟨_, done⟩ := rest_ok done
    cases done
    have first := removeTaskIndexes_errors ran
    have second := addTaskIndexes_errors added
    exact second.trans first
  | removeNode =>
    simp only [applyGraphEditOperation] at done
    split at done
    · cases done; rfl
    obtain ⟨_, ran, done⟩ := bind_ok.mp done
    obtain ⟨_, ranTask, done⟩ := bind_ok.mp done
    cases done
    have first := removeTaskIndexes_errors ranTask
    rw [first, (foldlM_removeEdgeIndexes_same ran).rest]
  | addEdge =>
    simp only [applyGraphEditOperation] at done
    split at done
    · cases done; rfl
    split at done
    · cases done; rfl
    obtain ⟨_, added, done⟩ := bind_ok.mp done
    cases done
    exact pushed_diagnostics added
  | removeEdge =>
    simp only [applyGraphEditOperation] at done
    split at done
    · obtain ⟨graph, removed, done⟩ := bind_ok.mp done
      cases done
      rw [(removeEdgeIndexes_same removed).rest]
    · cases done; rfl

theorem applyQueuedOperation_errors {progress' : Session × List Issue}
    (done : applyQueuedOperation progress operation = .ok progress') :
    progress'.1.graph.errors = progress.1.graph.errors := by
  obtain ⟨_, ran, done⟩ := bind_ok.mp done
  obtain ⟨_, rebuilt, done⟩ := bind_ok.mp done
  cases done
  exact (rebuildEdgeIndexes_errors rebuilt).trans (applyGraphEditOperation_errors ran)

end Diagnostics

variable {next before after : Manifest} {id : String}

theorem clean_of_drained {promptIssues : List Issue × List Issue} {session' : Session}
    (drained : drainManifestChange promptIssues session next = .ok session') (clean : session'.diagnostics = []) :
    session.graph.errors = [] := by
  obtain ⟨applied, graph, ran, rebuilt, _, _, none⟩ := drain_inv drained clean
  have kept : applied.graph.errors = session.graph.errors :=
    foldlM_keeps (fun progress => progress.1.graph.errors) (fun _ _ _ step => applyQueuedOperation_errors step) ran
  have aligned := rebuildEdgeIndexes_errors rebuilt
  have last : graph.errors = applied.graph.errors := aligned
  rw [← kept, ← last]
  exact (append_eq_nil_iff.mp none).1

theorem setAll_empty_has {map : OrderedMap String (List String)} {ids : List String} (member : id ∈ ids) :
    (map.setAll (ids.map (fun id => (id, ([] : List String))))).has id = true := by
  rw [OrderedMap.has, OrderedMap.get?_setAll, ← map_reverse, find_empty, if_pos (mem_reverse.mpr member)]
  rfl

/-- The last rebuild of a drain cannot fail, even when the new manifest repeats ids. -/
theorem rebuildEdgeIndexes_ok (listed : ∀ id, graph.nodesById.has id = true → id ∈ graph.taskNodesInManifestOrder) :
    ∃ graph', rebuildEdgeIndexes graph manifest = .ok graph' ∧ graph'.errors = graph.errors ∧
      graph'.warnings = graph.warnings := by
  have ends : ∀ edge ∈ connected graph.nodesById manifest.edges,
      graph.nodesById.has edge.source = true ∧ graph.nodesById.has edge.target = true := by
    intro edge member
    have both := (mem_filter.mp member).2
    rwa [Bool.and_eq_true] at both
  refine ⟨withEdges (clearEdges graph) (connected graph.nodesById manifest.edges), ?_, rfl, rfl⟩
  apply foldlM_addEdgeIndexes
  · intro edge member
    exact setAll_empty_has (listed _ (ends edge member).1)
  · intro edge member
    exact setAll_empty_has (listed _ (ends edge member).2)

theorem compiled_warnings (compiled : compileTaskGraph manifest = .ok graph) : graph.warnings = [] := by
  obtain ⟨_, compiled⟩ := rest_ok compiled
  cases compiled
  rfl

/-- The session's graph answers and reports what the compiled graph of its manifest does. Insertion
orders in its maps may differ, as they do after a drain. -/
structure HoldsCompiled (session : Session) (graph : Graph) : Prop where
  compiled : compileTaskGraph session.manifest = .ok graph
  indexes : SameIndexes session.graph graph
  errors : session.graph.errors = graph.errors
  warnings : session.graph.warnings = graph.warnings

theorem HoldsCompiled.taskIndexes (holds : HoldsCompiled session graph) (indexable : Indexable session.manifest) :
    TaskIndexes session.graph session.manifest := by
  have indexes := compiled_indexes holds.compiled indexable
  have same := holds.indexes
  exact {
    nodes := fun id => (same.nodes id).trans (indexes.nodes id)
    tasks := fun id => (same.tasks id).trans (indexes.tasks id)
    taskOrder := same.taskOrder.trans indexes.taskOrder
    dependencies := fun id => (same.dependencies id).trans (indexes.dependencies id)
    dependents := fun id => (same.dependents id).trans (indexes.dependents id)
    taskBlocks := fun id => (same.taskBlocks id).trans (indexes.taskBlocks id)
    reviewBlocks := fun id => (same.reviewBlocks id).trans (indexes.reviewBlocks id) }

theorem openSession_holdsCompiled {start : Manifest} (compiled : compileTaskGraph start = .ok graph) :
    HoldsCompiled (openSession start graph) graph where
  compiled := compiled
  indexes := by constructor <;> first | rfl | exact fun _ => rfl | exact fun _ _ => rfl
  errors := rfl
  warnings := rfl

/-- A drain without diagnostics leaves a session that the next drain can start from. -/
theorem drained_holdsCompiled {promptIssues : List Issue × List Issue} {session' : Session}
    (mirror : Mirror session.graph session.manifest) (schema : manifestSchema next = true) (valid : Wellformed next)
    (drained : drainManifestChange promptIssues session next = .ok session') (clean : session'.diagnostics = []) :
    session'.manifest = next ∧ ∃ graph, HoldsCompiled session' graph := by
  have referable : Referable next := ⟨valid.distinct, fun task member => (valid.tasks task member).plain⟩
  obtain ⟨reached, same⟩ := drain_mirror mirror schema referable drained clean
  obtain ⟨_, _, _, _, sameGraph, _, quiet⟩ := drain_inv drained clean
  obtain ⟨graph, compiled, errors⟩ := (compileTaskGraph_accepts_iff next).mpr valid
  have indexes := reached.indexes
  rw [same] at indexes
  rw [← sameGraph, append_eq_nil_iff] at quiet
  refine ⟨same, graph, ?_, indexes.same (compiled_indexes compiled valid.toIndexable) valid.named, ?_, ?_⟩
  · rw [same]
    exact compiled
  · rw [quiet.1, errors]
  · rw [quiet.2, compiled_warnings compiled]

/-- From a clean session, a drain reports nothing exactly when the changed parts pass their checks. -/
theorem drain_clean_iff (promptIssues : List Issue × List Issue)
    (holds : HoldsCompiled session graph) (valid : Wellformed session.manifest)
    (schema : manifestSchema next = true) :
    (∃ session', drainManifestChange promptIssues session next = .ok session' ∧ session'.diagnostics = []) ↔
      ChangesChecked session.manifest next ∧
        Search.Acyclic (edgeStep (keptEdges session.manifest next ++ addedEdges session.manifest next)) := by
  have indexes := holds.taskIndexes valid.toIndexable
  have named := @diff_named session.manifest next schema
  rw [← diff_accepted_iff valid schema]
  constructor
  · rintro ⟨_, drained, clean⟩
    obtain ⟨_, _, ran, _⟩ := drain_inv drained clean
    exact allAccepted_of_applied named indexes valid.editable ran
  · intro accepted
    obtain ⟨applied, ran, reached, errors, warnings⟩ :=
      applied_of_allAccepted named indexes valid.editable accepted
    have clean : session.graph.errors = [] := by
      obtain ⟨_, compiled, clean⟩ := (compileTaskGraph_accepts_iff session.manifest).mpr valid
      rw [holds.compiled] at compiled
      cases compiled
      exact holds.errors.trans clean
    have ids : ∀ id, id ∈ ((diffManifestToGraphOps session.manifest next).foldl editManifest session.manifest).nodes.map
        ManifestTask.id → id ∈ next.nodes.map ManifestTask.id := by
      intro id member
      unfold diffManifestToGraphOps at member
      rw [foldl_append, nodes_edgeOperations] at member
      · exact (beforeNewEdges_ids valid id).mp member
      · intro operation inside
        obtain ⟨edge, _, same⟩ := mem_map.mp inside
        exact ⟨edge, .inl same.symm⟩
    obtain ⟨graph, rebuilt, errors', warnings'⟩ := @rebuildEdgeIndexes_ok (alignGraphOrder applied.graph next) next (by
      intro id present
      apply ids
      rw [← taskOf_isSome, ← reached.nodes]
      exact present)
    have quiet : graph.errors ++ graph.warnings = [] := by
      have first : graph.errors = [] := by
        rw [errors']
        exact errors.trans clean
      have second : graph.warnings = [] := by
        rw [warnings']
        exact (warnings.trans holds.warnings).trans (compiled_warnings holds.compiled)
      rw [first, second]
      rfl
    refine ⟨_, by
      simp only [drainManifestChange, ran, rebuilt, ne_eq, not_true_eq_false, if_false, Bind.bind, Except.bind,
        Pure.pure, Except.pure]
      rfl, quiet⟩

theorem blockStep_within (indexable : Indexable manifest)
    (member : task ∈ manifest.nodes) {last : String} (memberBlock : block ∈ task.blocks)
    (same : block.id = id) (path : Relation.TransGen (blockStep manifest) (blockRef task.id id) last) :
    ∃ lastId, last = blockRef task.id lastId ∧ Relation.TransGen (idStep task) id lastId := by
  have stays : ∀ {inner : ManifestBlock} {ref : String}, inner ∈ task.blocks →
      blockStep manifest (blockRef task.id inner.id) ref → ∃ next ∈ task.blocks, ref = blockRef task.id next.id ∧
        idStep task inner.id next.id := by
    intro inner ref memberInner step
    obtain ⟨owner, memberOwner, source, memberSource, sameRef, listed⟩ := step
    have plain := ((indexable.tasks task member).plain inner memberInner).1
    have plainOwner := ((indexable.tasks owner memberOwner).plain source memberSource).1
    obtain ⟨sameTask, sameId⟩ := blockRef_injective plain plainOwner sameRef
    have equal := indexable.same_task memberOwner member sameTask.symm
    subst equal
    obtain ⟨dependency, inside, sameTarget⟩ := mem_map.mp listed
    obtain ⟨next, memberNext, nextId⟩ :=
      mem_map.mp ((indexable.tasks owner member).known source memberSource dependency inside)
    exact ⟨next, memberNext, by rw [← sameTarget, nextId], source, memberSource, sameId.symm, nextId ▸ inside⟩
  have reach : ∃ lastBlock ∈ task.blocks, last = blockRef task.id lastBlock.id ∧
      Relation.TransGen (idStep task) id lastBlock.id := by
    induction path with
    | single step =>
      obtain ⟨next, memberNext, ref, idStep'⟩ := stays memberBlock (same ▸ step)
      exact ⟨next, memberNext, ref, .single (same ▸ idStep')⟩
    | tail _ step ih =>
      obtain ⟨_, memberMiddle, ref, walked⟩ := ih
      obtain ⟨next, memberNext, ref', idStep'⟩ := stays memberMiddle (ref ▸ step)
      exact ⟨next, memberNext, ref', walked.tail idStep'⟩
  obtain ⟨lastBlock, _, ref, walked⟩ := reach
  exact ⟨lastBlock.id, ref, walked⟩

theorem blocksAcyclic_iff (indexable : Indexable manifest) :
    Search.Acyclic (blockStep manifest) ↔ ∀ task ∈ manifest.nodes, Search.Acyclic (idStep task) := by
  constructor
  · intro acyclic task member id loop
    apply acyclic (blockRef task.id id)
    exact Relation.TransGen.lift (blockRef task.id) (fun source target step => by
      obtain ⟨block, memberBlock, same, listed⟩ := step
      exact ⟨task, member, block, memberBlock, by rw [same], mem_map_of_mem listed⟩) _ _ loop
  · intro acyclic ref loop
    obtain ⟨_, step, _⟩ := (Relation.TransGen.head'_iff).mp loop
    obtain ⟨task, member, block, memberBlock, same, _⟩ := step
    subst same
    obtain ⟨_, sameRef, walked⟩ := blockStep_within indexable member memberBlock rfl loop
    rw [← blockRef_right_injective sameRef] at walked
    exact acyclic task member block.id walked

/-- What only the full compiler looks at: ids over the whole manifest, implementation blocks, and
edges that the change did not bring in. -/
structure WholeChecks (manifest : Manifest) : Prop where
  ids : (manifest.nodes.map ManifestTask.id).Nodup
  plain : ∀ task ∈ manifest.nodes, ∀ block ∈ task.blocks, PlainId task.id ∧ PlainId block.id
  implemented : ∀ task ∈ manifest.nodes, ∃ block ∈ task.blocks, block.isImplementation = true
  edgeKeys : (manifest.edges.map edgeKey).Nodup
  source : ∀ edge ∈ manifest.edges, edge.source ∈ manifest.nodes.map ManifestTask.id
  target : ∀ edge ∈ manifest.edges, edge.target ∈ manifest.nodes.map ManifestTask.id

def BlocksChecked (manifest : Manifest) : Prop :=
  ∀ task ∈ manifest.nodes, BlocksKnown task ∧ Search.Acyclic (idStep task)

theorem wellformed_iff_checks (named : "" ∉ manifest.nodes.map ManifestTask.id) :
    Wellformed manifest ↔ WholeChecks manifest ∧ BlocksChecked manifest ∧ Search.Acyclic (edgeStep manifest.edges) := by
  constructor
  · intro valid
    have acyclic := valid.tasksAcyclic
    rw [valid.editable.taskStep_eq] at acyclic
    exact ⟨⟨valid.distinct, fun task member => (valid.tasks task member).plain, valid.implemented, valid.edgeKeys,
      valid.edgeSource, valid.edgeTarget⟩, fun task member => ⟨(valid.tasks task member).toBlocksKnown,
      (blocksAcyclic_iff valid.toIndexable).mp valid.blocksAcyclic task member⟩, acyclic⟩
  · rintro ⟨whole, blocks, acyclic⟩
    have indexable : Indexable manifest :=
      ⟨whole.ids, fun task member => ⟨(blocks task member).1, whole.plain task member⟩⟩
    have editable : Editable manifest := ⟨whole.ids, named, whole.source, whole.target⟩
    exact { indexable with
      edgeKeys := whole.edgeKeys
      edgeSource := whole.source
      edgeTarget := whole.target
      tasksAcyclic := by rw [editable.taskStep_eq]; exact acyclic
      blocksAcyclic := (blocksAcyclic_iff indexable).mpr (fun task member => (blocks task member).2)
      implemented := whole.implemented }

theorem changesChecked_of_whole (whole : WholeChecks after) (blocks : BlocksChecked after) :
    ChangesChecked before after where
  ids := whole.ids.sublist (filter_sublist.map _)
  blocks node member _ := blocks node member
  edges := (List.Nodup.of_map _ whole.edgeKeys).filter _
  ends edge member := ⟨whole.source edge (mem_filter.mp member).1, whole.target edge (mem_filter.mp member).1⟩

theorem blocksChecked_of_changes (valid : Wellformed before)
    (checked : ChangesChecked before after) : BlocksChecked after := by
  intro task member
  by_cases unchanged : taskOf before task.id = some task
  · have old := ((taskOf_iff valid.distinct).mp unchanged).1
    exact ⟨(valid.tasks task old).toBlocksKnown, (blocksAcyclic_iff valid.toIndexable).mp valid.blocksAcyclic task old⟩
  · exact checked.blocks task member unchanged

/-- When the two validators give the same verdict. From a clean manifest, a change that passes the
incremental checks must have none of the defects that only a look at the whole manifest shows,
and edges that share a key with another edge must not change whether there is a cycle. A
manifest with errors of its own keeps reporting them, so only another refused one agrees. -/
def VerdictsAgree (before after : Manifest) : Prop :=
  (Wellformed before ∧
    (ChangesChecked before after →
      Search.Acyclic (edgeStep (keptEdges before after ++ addedEdges before after)) → WholeChecks after) ∧
    (ChangesChecked before after → WholeChecks after →
      (Search.Acyclic (edgeStep (keptEdges before after ++ addedEdges before after)) ↔
        Search.Acyclic (edgeStep after.edges)))) ∨
  (¬ Wellformed before ∧ ¬ Wellformed after)

theorem drain_agrees_with_compile_iff {session : Session} {graph : Graph} {next : Manifest}
    {promptIssues : List Issue × List Issue} (holds : HoldsCompiled session graph) (schema : manifestSchema next = true) :
    ((∃ session', drainManifestChange promptIssues session next = .ok session' ∧ session'.diagnostics = []) ↔
      ∃ graph, compileTaskGraph next = .ok graph ∧ graph.errors = []) ↔ VerdictsAgree session.manifest next := by
  have whole := @wellformed_iff_checks next (manifestSchema_named schema)
  rw [compileTaskGraph_accepts_iff]
  by_cases valid : Wellformed session.manifest
  · have changed := fun (checks : WholeChecks next) (blocks : BlocksChecked next) =>
      @changesChecked_of_whole session.manifest next checks blocks
    have blocks := @blocksChecked_of_changes session.manifest next valid
    rw [drain_clean_iff promptIssues holds valid schema, whole]
    constructor
    · intro agree
      refine .inl ⟨valid, fun checked acyclic => (agree.mp ⟨checked, acyclic⟩).1, fun checked checks => ⟨?_, ?_⟩⟩
      · intro acyclic
        exact (agree.mp ⟨checked, acyclic⟩).2.2
      · intro acyclicNext
        exact (agree.mpr ⟨checks, blocks checked, acyclicNext⟩).2
    · intro agree
      rcases agree with ⟨_, covered, cycles⟩ | ⟨invalid, _⟩
      · constructor
        · rintro ⟨checked, acyclic⟩
          have checks := covered checked acyclic
          exact ⟨checks, blocks checked, (cycles checked checks).mp acyclic⟩
        · rintro ⟨checks, blocksNext, acyclicNext⟩
          have checked := changed checks blocksNext
          exact ⟨checked, (cycles checked checks).mpr acyclicNext⟩
      · exact absurd valid invalid
  · have never : ¬ ∃ session', drainManifestChange promptIssues session next = .ok session' ∧
        session'.diagnostics = [] := by
      rintro ⟨_, drained, clean⟩
      exact valid ((compileTaskGraph_accepts_iff session.manifest).mp
        ⟨graph, holds.compiled, holds.errors.symm.trans (clean_of_drained drained clean)⟩)
    constructor
    · intro agree
      exact .inr ⟨valid, fun validNext => never (agree.mpr validNext)⟩
    · intro agree
      rcases agree with ⟨validNow, _⟩ | ⟨_, invalidNext⟩
      · exact absurd validNow valid
      · exact ⟨fun drained => absurd drained never, fun validNext => absurd validNext invalidNext⟩

def sampleReview (id : String) (settings : ReviewSettings) : ManifestBlock :=
  { id, type := .review settings, title := id, prompt := "nodes/" ++ id ++ ".md" }

def reviewOnly : Manifest := sampleManifest [sampleTask "T" [sampleReview "r" {}]] []

def compilesCleanly (manifest : Manifest) : Bool :=
  match compileTaskGraph manifest with
  | .error _ => false
  | .ok graph => graph.errors = []

theorem compilesCleanly_iff (manifest : Manifest) :
    compilesCleanly manifest = true ↔ ∃ graph, compileTaskGraph manifest = .ok graph ∧ graph.errors = [] := by
  unfold compilesCleanly
  split
  · rename_i reason failed
    simp [failed]
  · rename_i graph compiled
    simp [compiled]

theorem drainsCleanly_drained {start : Manifest} (cleanly : drainsCleanly start next = true) :
    ∃ graph, compileTaskGraph start = .ok graph ∧
      ∃ session', drainManifestChange ([], []) (openSession start graph) next = .ok session' ∧
        session'.diagnostics = [] := by
  unfold drainsCleanly at cleanly
  split at cleanly
  · cases cleanly
  rename_i graph compiled
  split at cleanly
  · cases cleanly
  · rename_i session drained
    simp only [Bool.and_eq_true, decide_eq_true_eq] at cleanly
    exact ⟨graph, compiled, session, drained, cleanly.2⟩

/-- A second drain, from the session that the first one left. -/
theorem drain_agrees_with_compile_twice : ∃ graph session,
    compileTaskGraph oneTask = .ok graph ∧ drainManifestChange ([], []) (openSession oneTask graph) grownTasks = .ok session ∧
      VerdictsAgree session.manifest oneTask := by
  have schema : manifestSchema oneTask = true := by decide +kernel
  have valid : ∀ manifest, compilesCleanly manifest = true → Wellformed manifest := fun manifest cleanly =>
    (compileTaskGraph_accepts_iff manifest).mp ((compilesCleanly_iff manifest).mp cleanly)
  have first := valid oneTask (by decide +kernel)
  have second := valid grownTasks (by decide +kernel)
  obtain ⟨graph, compiled, session, drained, clean⟩ := @drainsCleanly_drained grownTasks oneTask (by decide +kernel)
  have mirror : Mirror graph oneTask := ⟨compiled_indexes compiled first.toIndexable, first.toIndexable⟩
  obtain ⟨same, _, holds⟩ := drained_holdsCompiled mirror (by decide +kernel) second drained clean
  have back : ∃ session', drainManifestChange ([], []) session oneTask = .ok session' ∧ session'.diagnostics = [] := by
    obtain ⟨_, again, session', drained', clean'⟩ := @drainsCleanly_drained oneTask grownTasks (by decide +kernel)
    have checked := (drain_clean_iff _ (openSession_holdsCompiled again) second schema).mp ⟨session', drained', clean'⟩
    rw [drain_clean_iff _ holds (same ▸ second) schema, same]
    exact checked
  have accepted := (compilesCleanly_iff oneTask).mp (by decide +kernel)
  exact ⟨graph, session, compiled, drained,
    (@drain_agrees_with_compile_iff session _ oneTask ([], []) holds schema).mp ⟨fun _ => accepted, fun _ => back⟩⟩

theorem review_only_task_disagrees : manifestSchema reviewOnly = true ∧
    ∃ graph, compileTaskGraph oneTask = .ok graph ∧
      ¬ ((∃ session', drainManifestChange ([], []) (openSession oneTask graph) reviewOnly = .ok session' ∧
          session'.diagnostics = []) ↔
        ∃ graph, compileTaskGraph reviewOnly = .ok graph ∧ graph.errors = []) := by
  obtain ⟨graph, compiled, drained⟩ := @drainsCleanly_drained reviewOnly oneTask (by decide +kernel)
  refine ⟨by decide +kernel, graph, compiled, fun agree => ?_⟩
  have clean := (compilesCleanly_iff reviewOnly).mpr (agree.mp drained)
  have refused : compilesCleanly reviewOnly = false := by decide +kernel
  rw [refused] at clean
  cases clean

end PlanWeave
