import PlanWeave.Graph.SessionRun

namespace PlanWeave
open List OrderedMap

def PlainOperation : GraphEditOperation → Prop
  | .addNode node => ∀ block ∈ node.blocks, PlainId node.id ∧ PlainId block.id
  | .updateNode node => ∀ block ∈ node.blocks, PlainId node.id ∧ PlainId block.id
  | _ => True

variable {operation : GraphEditOperation} {manifest : Manifest}
variable {session' : Session} {nodes : List ManifestTask} {operations : List GraphEditOperation}
variable {session : Session} {before : Manifest}

theorem operation_distinct (indexes : TaskIndexes session.graph session.manifest)
    (distinct : (session.manifest.nodes.map ManifestTask.id).Nodup)
    (done : applyGraphEditOperation session operation = .ok (session', [])) :
    ((editManifest session.manifest operation).nodes.map ManifestTask.id).Nodup := by
  cases operation with
  | addNode node =>
    by_cases accepts : Accepts session.manifest (.addNode node)
    · show ((session.manifest.nodes ++ [node]).map ManifestTask.id).Nodup
      rw [map_append, nodup_append]
      refine ⟨distinct, by simp, ?_⟩
      intro left inside right single same
      simp only [map_cons, map_nil, mem_singleton] at single
      exact accepts.1 (single ▸ same ▸ inside)
    · obtain ⟨_, found, refused⟩ := addNode_refused indexes accepts
      rw [refused] at done
      cases done
      exact absurd rfl found
  | updateNode node =>
    show ((replaceFirst node session.manifest.nodes).map ManifestTask.id).Nodup
    rw [replaceFirst_ids]
    exact distinct
  | removeNode => exact distinct.sublist (filter_sublist.map _)
  | addEdge => exact distinct
  | removeEdge => exact distinct

theorem operation_blocks (indexes : TaskIndexes session.graph session.manifest)
    (named : NamedOperation operation) (done : applyGraphEditOperation session operation = .ok (session', [])) :
    ∀ node, operation = .addNode node ∨ operation = .updateNode node → BlocksKnown node := by
  intro node origin
  rcases origin with same | same
  · subst same
    by_cases accepts : Accepts session.manifest (.addNode node)
    · exact ((validateTaskBlocks_clean_iff named.2).mp accepts.2).1
    · obtain ⟨_, found, refused⟩ := addNode_refused indexes accepts
      rw [refused] at done
      cases done
      exact absurd rfl found
  · subst same
    by_cases accepts : Accepts session.manifest (.updateNode node)
    · exact ((validateTaskBlocks_clean_iff named.2).mp accepts.2).1
    · obtain ⟨_, found, refused⟩ := updateNode_refused accepts
      rw [refused] at done
      cases done
      exact absurd rfl found

theorem mem_replaceFirst {node task : ManifestTask}
    (member : task ∈ replaceFirst node nodes) : task = node ∨ task ∈ nodes := by
  induction nodes with
  | nil => cases member
  | cons first _ ih =>
    by_cases same : first.id = node.id
    · simp only [replaceFirst, same, if_true, mem_cons] at member
      exact member.imp_right (mem_cons_of_mem _)
    · simp only [replaceFirst, same, if_false, mem_cons] at member
      rcases member with here | later
      · exact .inr (here ▸ mem_cons_self)
      · exact (ih later).imp_right (mem_cons_of_mem _)

theorem operation_indexable (indexes : TaskIndexes session.graph session.manifest)
    (indexable : Indexable session.manifest) (named : NamedOperation operation)
    (plain : PlainOperation operation) (done : applyGraphEditOperation session operation = .ok (session', [])) :
    Indexable (editManifest session.manifest operation) := by
  have distinct := operation_distinct indexes indexable.distinct done
  have blocks := operation_blocks indexes named done
  refine ⟨distinct, ?_⟩
  intro task member
  cases operation with
  | addNode =>
    rcases mem_append.mp member with old | new
    · exact indexable.tasks task old
    · rw [mem_singleton] at new
      subst new
      exact ⟨blocks task (.inl rfl), plain⟩
  | updateNode =>
    rcases mem_replaceFirst member with new | old
    · subst new
      exact ⟨blocks task (.inr rfl), plain⟩
    · exact indexable.tasks task old
  | removeNode => exact indexable.tasks task (mem_filter.mp member).1
  | addEdge => exact indexable.tasks task member
  | removeEdge => exact indexable.tasks task member

structure Mirror (graph : Graph) (manifest : Manifest) : Prop where
  indexes : Indexes graph manifest
  indexable : Indexable manifest

theorem applyQueuedOperation_mirror
    (mirror : Mirror session.graph session.manifest) (named : NamedOperation operation) (plain : PlainOperation operation)
    (done : applyQueuedOperation (session, []) operation = .ok (session', [])) :
    Mirror session'.graph session'.manifest ∧ session'.manifest = editManifest session.manifest operation := by
  simp only [applyQueuedOperation, Bind.bind, Except.bind, Pure.pure, Except.pure] at done
  split at done
  · cases done
  rename_i result ran
  obtain ⟨_, _⟩ := result
  split at done
  · cases done
  rename_i graph rebuilt
  simp only [Except.ok.injEq, Prod.mk.injEq, nil_append] at done
  obtain ⟨same, clean⟩ := done
  subst clean same
  have tasks := mirror.indexes.toTaskIndexes
  have applied := operation_applied tasks named ran
  have indexable := operation_indexable tasks mirror.indexable named plain ran
  rw [← applied.manifest] at indexable
  rw [rebuildEdgeIndexes_eq indexable.distinct applied.nodes] at rebuilt
  cases rebuilt
  have blocks := applied.blocks mirror.indexable indexable mirror.indexes.toBlockIndexes
  exact ⟨⟨{ rebuilt_taskIndexes indexable.distinct applied.nodes, rebuilt_blockIndexes blocks with }, indexable⟩,
    applied.manifest⟩

theorem applyQueuedOperations_mirror
    (mirror : Mirror session.graph session.manifest) (named : ∀ operation ∈ operations, NamedOperation operation)
    (plain : ∀ operation ∈ operations, PlainOperation operation)
    (done : operations.foldlM applyQueuedOperation (session, []) = .ok (session', [])) :
    Mirror session'.graph session'.manifest ∧ session'.manifest = operations.foldl editManifest session.manifest := by
  induction operations generalizing session with
  | nil => cases done; exact ⟨mirror, rfl⟩
  | cons operation _ ih =>
    obtain ⟨⟨_, diagnostics⟩, first, tail⟩ := Checked.foldlM_cons_inv done
    have clean : diagnostics = [] := by
      by_contra found
      exact applyQueuedOperations_keeps tail found rfl
    subst clean
    obtain ⟨middle, edited⟩ := applyQueuedOperation_mirror mirror (named operation (by simp)) (plain operation (by simp)) first
    obtain ⟨last, result⟩ := ih middle (fun other member => named other (mem_cons_of_mem _ member))
      (fun other member => plain other (mem_cons_of_mem _ member)) tail
    exact ⟨last, by rw [result, edited, foldl_cons]⟩

theorem nodeMap_get? (distinct : (manifest.nodes.map ManifestTask.id).Nodup) (id : String) :
    (nodeMap manifest).get? id = taskOf manifest id :=
  get?_ofList (by simpa [Function.comp_def] using distinct) id

theorem taskOf_removeNodes (ids : List String) (manifest : Manifest) (id : String) :
    taskOf ((ids.map GraphEditOperation.removeNode).foldl editManifest manifest) id =
      if id ∈ ids then none else taskOf manifest id := by
  induction ids generalizing manifest with
  | nil => simp
  | cons removed _ ih =>
    rw [map_cons, foldl_cons, ih]
    have here : taskOf (editManifest manifest (.removeNode removed)) id =
        if id = removed then none else taskOf manifest id := taskOf_filter removed id
    rw [here]
    by_cases same : id = removed
    · simp [same]
    · simp [same]

theorem taskOf_nodeChanges (distinctBefore : (before.nodes.map ManifestTask.id).Nodup)
    (distinct : (nodes.map ManifestTask.id).Nodup)
    (same : ∀ node ∈ nodes, taskOf manifest node.id = taskOf before node.id) (id : String) :
    taskOf ((nodes.filterMap (nodeChange before)).foldl editManifest manifest) id =
      (find id (nodes.map (fun node => (node.id, node)))).or (taskOf manifest id) := by
  induction nodes generalizing manifest with
  | nil => simp [find]
  | cons node rest ih =>
    rw [map_cons, nodup_cons] at distinct
    have sameHere := same node (by simp)
    have others : ∀ other ∈ rest, other.id ≠ node.id :=
      fun other member equal => distinct.1 (equal ▸ mem_map_of_mem member)
    have change : ∃ manifest', (List.filterMap (nodeChange before) (node :: rest)).foldl editManifest manifest =
        (rest.filterMap (nodeChange before)).foldl editManifest manifest' ∧
        ∀ id, taskOf manifest' id = if id = node.id then some node else taskOf manifest id := by
      have lookup := nodeMap_get? distinctBefore node.id
      cases found : taskOf before node.id with
      | none =>
        have fresh : node.id ∉ manifest.nodes.map ManifestTask.id := by
          rw [← taskOf_isSome, sameHere, found]
          simp
        rw [found] at lookup
        refine ⟨editManifest manifest (.addNode node), ?_, taskOf_append_fresh fresh⟩
        rw [filterMap_cons_some (by unfold nodeChange; rw [lookup]), foldl_cons]
      | some previous =>
        rw [found] at lookup
        by_cases equal : previous = node
        · subst equal
          refine ⟨manifest, ?_, ?_⟩
          · rw [filterMap_cons_none (by unfold nodeChange; rw [lookup]; simp)]
          · intro id
            by_cases wanted : id = previous.id
            · rw [if_pos wanted, wanted, sameHere, found]
            · rw [if_neg wanted]
        · have listed : node.id ∈ manifest.nodes.map ManifestTask.id := by
            rw [← taskOf_isSome, sameHere, found]
            rfl
          refine ⟨editManifest manifest (.updateNode node), ?_, taskOf_replaceFirst listed⟩
          have changed : nodeChange before node = some (.updateNode node) := by
            unfold nodeChange
            rw [lookup]
            exact if_neg equal
          rw [filterMap_cons_some changed, foldl_cons]
    obtain ⟨_, folded, after⟩ := change
    rw [folded, ih distinct.2, after]
    · by_cases wanted : id = node.id
      · have absent : find id (rest.map (fun node => (node.id, node))) = none := by
          rw [find_eq_none, map_map, wanted]
          exact distinct.1
        rw [absent, map_cons]
        simp [find, wanted]
      · have different : ¬ node.id = id := fun equal => wanted equal.symm
        simp [find, wanted, different]
    · intro other member
      rw [after, if_neg (others other member)]
      exact same other (mem_cons_of_mem _ member)

theorem nodes_edgeOperations
    (edges : ∀ operation ∈ operations, ∃ edge, operation = .addEdge edge ∨ operation = .removeEdge edge) :
    (operations.foldl editManifest manifest).nodes = manifest.nodes := by
  induction operations generalizing manifest with
  | nil => rfl
  | cons operation _ ih =>
    rw [foldl_cons, ih (fun other member => edges other (mem_cons_of_mem _ member))]
    obtain ⟨_, kind⟩ := edges operation (by simp)
    rcases kind with same | same <;> subst same <;> rfl

theorem taskOf_congr {left right : Manifest} (same : left.nodes = right.nodes) (id : String) :
    taskOf left id = taskOf right id := by
  unfold taskOf
  rw [same]

theorem taskOf_diff {after : Manifest} (distinctBefore : (before.nodes.map ManifestTask.id).Nodup)
    (distinctAfter : (after.nodes.map ManifestTask.id).Nodup) (id : String) :
    taskOf ((diffManifestToGraphOps before after).foldl editManifest before) id = taskOf after id := by
  unfold diffManifestToGraphOps
  rw [append_assoc, foldl_append]
  have edges : ∀ operation ∈ removedEdges before after ++ (addedEdges before after).map GraphEditOperation.addEdge,
      ∃ edge, operation = .addEdge edge ∨ operation = .removeEdge edge := by
    intro operation member
    rcases mem_append.mp member with old | new
    · obtain ⟨edge, _, same⟩ := mem_map.mp old
      exact ⟨edge, .inr same.symm⟩
    · obtain ⟨edge, _, same⟩ := mem_map.mp new
      exact ⟨edge, .inl same.symm⟩
  rw [taskOf_congr (nodes_edgeOperations edges), foldl_append]
  have removed : ∀ id, taskOf ((removedNodes before after).foldl editManifest before) id =
      if id ∈ after.nodes.map ManifestTask.id then taskOf before id else none := by
    intro id
    have ids := taskOf_removeNodes ((before.nodes.filter (fun node => (nodeMap after).has node.id = false)).map
      ManifestTask.id) before id
    rw [map_map] at ids
    show taskOf ((List.map (GraphEditOperation.removeNode ∘ ManifestTask.id) _).foldl editManifest before) id = _
    rw [ids]
    by_cases kept : id ∈ after.nodes.map ManifestTask.id
    · have present := (nodeMap_has after id).mpr kept
      rw [if_pos kept, if_neg]
      intro gone
      obtain ⟨_, member, same⟩ := mem_map.mp gone
      have missing := (mem_filter.mp member).2
      rw [same, present] at missing
      cases missing
    · rw [if_neg kept]
      split
      · rfl
      rename_i stays
      rw [← Option.not_isSome_iff_eq_none, taskOf_isSome]
      intro inside
      obtain ⟨node, member, same⟩ := mem_map.mp inside
      apply stays
      refine mem_map.mpr ⟨node, mem_filter.mpr ⟨member, ?_⟩, same⟩
      rw [← nodeMap_has, Bool.not_eq_true, ← same] at kept
      simpa using kept
  rw [taskOf_nodeChanges distinctBefore distinctAfter]
  · rw [removed]
    show (taskOf after id).or _ = _
    cases found : taskOf after id with
    | some => rfl
    | none =>
      have absent : id ∉ after.nodes.map ManifestTask.id := by
        rw [← taskOf_isSome, found]
        simp
      rw [if_neg absent]
      rfl
  · intro node member
    rw [removed, if_pos (mem_map_of_mem member)]

end PlanWeave
