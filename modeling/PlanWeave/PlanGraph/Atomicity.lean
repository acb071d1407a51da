import PlanWeave.PlanGraph.Execute

namespace PlanWeave
open Checked Function List Option OrderedMap Prod Text

def blockShape (block : ManifestBlock) : String × List String × Bool :=
  (block.id, block.dependsOn, block.isImplementation)

def taskShape (task : ManifestTask) : String × List (String × List String × Bool) :=
  (task.id, task.blocks.map blockShape)

section
variable {left right : Manifest}
variable {task other : ManifestTask}

theorem shape_task (nodes : right.nodes.map taskShape = left.nodes.map taskShape)
    (member : task ∈ right.nodes) : ∃ other ∈ left.nodes, taskShape other = taskShape task :=
  mem_map.mp (nodes ▸ mem_map_of_mem member)

theorem shape_ids (same : taskShape other = taskShape task) :
    other.blocks.map ManifestBlock.id = task.blocks.map ManifestBlock.id := by
  have ids := congrArg (List.map fst) (congrArg snd same)
  simpa [taskShape, blockShape, comp_def] using ids

theorem shape_block (same : taskShape other = taskShape task) {block : ManifestBlock}
    (member : block ∈ task.blocks) : ∃ kept ∈ other.blocks, kept.id = block.id ∧ kept.dependsOn = block.dependsOn ∧
      kept.isImplementation = block.isImplementation := by
  have listed : other.blocks.map blockShape = task.blocks.map blockShape := congrArg snd same
  obtain ⟨kept, memberKept, equal⟩ := mem_map.mp (listed ▸ mem_map_of_mem member)
  simp only [blockShape, Prod.mk.injEq] at equal
  exact ⟨kept, memberKept, equal⟩

theorem blockStep_of_shape (nodes : right.nodes.map taskShape = left.nodes.map taskShape) {source target : String}
    (step : blockStep right source target) : blockStep left source target := by
  obtain ⟨task, member, _, memberBlock, from', _⟩ := step
  obtain ⟨other, memberOther, same⟩ := shape_task nodes member
  obtain ⟨kept, memberKept, id, dependsOn, _⟩ := shape_block same memberBlock
  have sameId : other.id = task.id := congrArg fst same
  refine ⟨other, memberOther, kept, memberKept, by rw [from', sameId, id], ?_⟩
  unfold blockDependencies
  rwa [dependsOn, sameId]

theorem Wellformed.of_shape (valid : Wellformed left) (edges : right.edges = left.edges)
    (nodes : right.nodes.map taskShape = left.nodes.map taskShape) : Wellformed right := by
  have ids : right.nodes.map ManifestTask.id = left.nodes.map ManifestTask.id := by
    simpa [taskShape, comp_def] using congrArg (List.map fst) nodes
  have tasks : ∀ source target, taskStep left source target ↔ taskStep right source target := by
    intro source target
    have known : ∀ id, (taskOf right id).isSome = (taskOf left id).isSome := by
      intro id
      rw [Bool.eq_iff_iff, taskOf_isSome, taskOf_isSome, ids]
    unfold taskStep taskDependencies connectedEdges
    simp only [known, edges]
  have blocks : ∀ source target, blockStep left source target ↔ blockStep right source target := fun _ _ =>
    ⟨blockStep_of_shape nodes.symm, blockStep_of_shape nodes⟩
  refine ⟨⟨ids ▸ valid.distinct, ?_⟩, edges ▸ valid.edgeKeys, ?_, ?_, (Acyclic.congr tasks).mp valid.tasksAcyclic,
    (Acyclic.congr blocks).mp valid.blocksAcyclic, ?_⟩
  · intro task member
    obtain ⟨other, memberOther, same⟩ := shape_task nodes member
    have old := valid.tasks other memberOther
    have sameId : other.id = task.id := congrArg fst same
    refine ⟨⟨shape_ids same ▸ old.distinct, ?_⟩, ?_⟩
    · intro block memberBlock dependency listed
      obtain ⟨kept, memberKept, _, dependsOn, _⟩ := shape_block same memberBlock
      exact shape_ids same ▸ old.known kept memberKept dependency (dependsOn ▸ listed)
    · intro block memberBlock
      obtain ⟨kept, memberKept, id, _⟩ := shape_block same memberBlock
      exact sameId ▸ id ▸ old.plain kept memberKept
  · exact fun edge member => ids ▸ valid.edgeSource edge (edges ▸ member)
  · exact fun edge member => ids ▸ valid.edgeTarget edge (edges ▸ member)
  · intro task member
    obtain ⟨other, memberOther, same⟩ := shape_task nodes member
    obtain ⟨_, memberBlock, implementation⟩ := valid.implemented other memberOther
    obtain ⟨kept, memberKept, _, _, kind⟩ := shape_block same.symm memberBlock
    exact ⟨kept, memberKept, kind.trans implementation⟩
end

structure Prepared (manifest : Manifest) : Prop where
  schema : manifestSchema manifest = true
  wellformed : Wellformed manifest

theorem prepare_ok_iff {manifest : Manifest} : prepareManifestForWrite manifest = .ok () ↔ Prepared manifest := by
  have accepts := compileTaskGraph_accepts_iff manifest
  unfold prepareManifestForWrite
  constructor
  · intro prepared
    split at prepared
    · rename_i schema
      refine ⟨schema, accepts.mp ?_⟩
      split at prepared
      · cases prepared
      rename_i graph compiled
      split at prepared
      · rename_i clean
        exact ⟨graph, compiled, clean⟩
      · cases prepared
    · cases prepared
  · intro prepared
    obtain ⟨_, compiled, clean⟩ := accepts.mpr prepared.wellformed
    simp [prepared.schema, compiled, clean]

def executorsKnown (manifest : Manifest) (task : ManifestTask) : Bool :=
  task.executor.all (knownExecutor manifest) && task.blocks.all (fun block => block.executor.all (knownExecutor manifest))

section
variable {manifest : Manifest} {task next : ManifestTask}

theorem replaceTask_shape (distinct : (manifest.nodes.map ManifestTask.id).Nodup) (member : task ∈ manifest.nodes)
    (same : taskShape next = taskShape task) :
    (replaceTask manifest next).nodes.map taskShape = manifest.nodes.map taskShape := by
  have sameId : next.id = task.id := congrArg fst same
  unfold replaceTask
  rw [List.map_map]
  apply List.map_congr_left
  intro node memberNode
  by_cases replaced : node.id = next.id
  · have equal : node = task := List.inj_on_of_nodup_map distinct memberNode member (replaced.trans sameId)
    rw [comp_apply, if_pos replaced, same, equal]
  · rw [comp_apply, if_neg replaced]

theorem schema_replaceTask (schema : manifestSchema manifest = true) (member : task ∈ manifest.nodes)
    (same : next.id = task.id) :
    manifestSchema (replaceTask manifest next) = (manifestNodeSchema next && executorsKnown manifest next) := by
  have parts := schema
  unfold manifestSchema at parts
  simp only [Bool.and_eq_true, List.all_eq_true] at parts
  rw [Bool.eq_iff_iff]
  unfold manifestSchema replaceTask executorsKnown
  simp only [Bool.and_eq_true, List.all_eq_true, List.mem_map]
  constructor
  · intro after
    have present : ∃ node ∈ manifest.nodes, (if node.id = next.id then next else node) = next :=
      ⟨task, member, if_pos same.symm⟩
    exact ⟨after.1.1.1.2 next present, after.2 next present⟩
  · rintro ⟨node, known⟩
    refine ⟨⟨⟨⟨parts.1.1.1.1, ?_⟩, parts.1.1.2⟩, parts.1.2⟩, ?_⟩
    · rintro _ ⟨other, memberOther, rfl⟩
      split
      · exact node
      · exact parts.1.1.1.2 other memberOther
    · rintro _ ⟨other, memberOther, rfl⟩
      split
      · exact known
      · exact parts.2 other memberOther

theorem Prepared.replaceTask (prepared : Prepared manifest) (member : task ∈ manifest.nodes)
    (same : taskShape next = taskShape task) (schema : manifestSchema (replaceTask manifest next) = true) :
    Prepared (replaceTask manifest next) :=
  ⟨schema, prepared.wellformed.of_shape rfl (replaceTask_shape prepared.wellformed.distinct member same)⟩
end

def Checks {α β : Type} (check : α → Except String β) (good : α → Bool) (clean : α → β) : Prop :=
  ∀ value, (check value).toOption = if good value then some (clean value) else none

variable {α β : Type} {taskId key : String}

theorem toOption_ok (value : α) : (Except.ok value : Except String α).toOption = some value := rfl

theorem toOption_bind (action : Except String α) (next : α → Except String β) :
    (action >>= next).toOption = action.toOption.bind (fun value => (next value).toOption) := by
  cases action <;> rfl

def named (value : String) : Bool := trim value ≠ ""

namespace FieldEdit

theorem nonEmpty_checks (field : String) : Checks (nonEmpty field) named trim := by
  intro value
  unfold nonEmpty named
  by_cases blank : trim value = "" <;> simp [blank, Except.toOption]

theorem optionalText_checks : Checks optionalText (Option.all named) (Option.map trim) := by
  intro value
  cases value with
  | none => rfl
  | some name =>
    have checked := nonEmpty_checks "executor" name
    simp only [optionalText, all_some, map_some]
    cases ran : nonEmpty "executor" name <;> rw [ran] at checked <;> split at checked <;>
      simp_all [Except.toOption, Except.map]

theorem stringArray_checks (field : String) : Checks (stringArray field) (List.all · named) (List.map trim) := by
  intro values
  unfold stringArray
  generalize 0 = start
  induction values generalizing start with
  | nil => rfl
  | cons value rest ih =>
    rw [zipIdx_cons, mapM_cons, toOption_bind, nonEmpty_checks]
    simp only [toOption_bind, ih, all_cons]
    by_cases first : named value = true
    · by_cases later : rest.all named = true
      · simp only [first, later, if_true, Bool.and_self]
        rfl
      · simp only [first, later, if_true, Bool.true_and]
        rfl
    · simp [first]

theorem nonEmptyStringArray_checks (field : String) :
    Checks (nonEmptyStringArray field) (fun values => values ≠ [] && values.all named) (List.map trim) := by
  intro values
  unfold nonEmptyStringArray
  rw [toOption_bind, stringArray_checks]
  cases values with
  | nil => rfl
  | cons value rest =>
    by_cases all : (value :: rest).all named = true
    · simp only [all]
      rfl
    · simp only [all]
      rfl

theorem edited_checks {α β : Type} {check : α → Except String β} {good : α → Bool} {clean : α → β}
    (checks : Checks check good clean) (old : β) :
    Checks (edited check old) (Option.all good) (fun value => (value.map clean).getD old) := by
  intro value
  cases value with
  | none => rfl
  | some value => exact checks value

end FieldEdit

def fieldsNamed (fields : TaskFields) : Bool :=
  fields.title.all named && fields.executor.all (Option.all named) &&
    fields.acceptance.all (fun values => values ≠ [] && values.all named)

def restoredTask (task : ManifestTask) (fields : TaskFields) : ManifestTask :=
  { task with
    title := (fields.title.map trim).getD task.title
    executor := (fields.executor.map (Option.map trim)).getD task.executor
    acceptance := (fields.acceptance.map (List.map trim)).getD task.acceptance
    blocks := if fields.executor.isSome then task.blocks.map (fun block => { block with executor := none })
      else task.blocks }

variable {fields : TaskFields} {env : CommandEnv} {package : Package} {restores : List ManifestBlock}

open FieldEdit in
theorem taskEdit_toOption {manifest : Manifest} {task : ManifestTask}
    (found : taskFromManifest manifest taskId = some task) (edits : fields.executor.isSome = true) :
    (buildPlanPackageTaskFieldEditMutation manifest taskId fields).toOption = if fieldsNamed fields then
      some ⟨replaceTask manifest (restoredTask task fields), writePromptSideEffects task.prompt fields.promptMarkdown⟩
      else none := by
  have present : requireTask manifest taskId = .ok task := by simp [requireTask, found]
  have some_field : { fields with basePromptHash := none } ≠ ({} : TaskFields) := by
    intro empty
    have absent : fields.executor = none := congrArg TaskFields.executor empty
    simp [absent] at edits
  have title := edited_checks (nonEmpty_checks "title") task.title fields.title
  have executor := edited_checks optionalText_checks task.executor fields.executor
  have acceptance := edited_checks (nonEmptyStringArray_checks "acceptance") task.acceptance fields.acceptance
  unfold buildPlanPackageTaskFieldEditMutation fieldsNamed
  rw [present, Checked.demand, if_pos some_field]
  simp only [toOption_bind, toOption_ok, bind_some,
    title, executor, acceptance]
  cases fields.title.all named <;> cases fields.executor.all (Option.all named) <;>
    cases fields.acceptance.all (fun values => values ≠ [] && values.all named) <;> rfl

theorem find?_key {key : α → String} {items : List α} (distinct : (items.map key).Nodup) {item : α}
    (member : item ∈ items) {id : String} (same : key item = id) : items.find? (fun other => key other = id) = some item := by
  obtain ⟨found, search⟩ := isSome_iff_exists.mp
    (find?_isSome.mpr ⟨item, member, decide_eq_true same⟩ : (items.find? (fun other => key other = id)).isSome)
  have foundKey : key found = id := by simpa using find?_some search
  rw [search, inj_on_of_nodup_map distinct (mem_of_find?_eq_some search) member (foundKey.trans same.symm)]

def restoredBlock (task : ManifestTask) (block : ManifestBlock) : ManifestTask :=
  { task with blocks := task.blocks.map (fun item =>
      if item.id = block.id then { item with executor := block.executor.map trim } else item) }

section
variable {manifest : Manifest} {task : ManifestTask} {block : ManifestBlock}

theorem blockFromManifest_restored (valid : Wellformed manifest) (member : task ∈ manifest.nodes)
    {item : ManifestBlock} (memberItem : item ∈ task.blocks) (same : item.id = block.id) :
    blockFromManifest manifest (blockRef task.id block.id) = .ok (some (task, item)) := by
  have plain := (valid.tasks task member).plain item memberItem
  rw [same] at plain
  unfold blockFromManifest taskFromManifest
  rw [parseBlockRef_blockRef plain.1 plain.2]
  simp only
  rw [find?_key valid.distinct member rfl, bind_eq_bind, bind_some,
    find?_key (valid.tasks task member).distinct memberItem same]
  rfl

open FieldEdit in
theorem blockEdit_toOption (valid : Wellformed manifest) (member : task ∈ manifest.nodes)
    (listed : block.id ∈ task.blocks.map ManifestBlock.id) :
    (buildPlanPackageBlockFieldEditMutation manifest (blockRef task.id block.id) { executor := some block.executor }).toOption =
      if block.executor.all named then some ⟨replaceTask manifest (restoredBlock task block), []⟩ else none := by
  obtain ⟨item, memberItem, same⟩ := mem_map.mp listed
  have distinct := (valid.tasks task member).distinct
  have plain := (valid.tasks task member).plain item memberItem
  rw [same] at plain
  have present : requireTask manifest task.id = .ok task := by
    simp [requireTask, taskFromManifest, find?_key valid.distinct member rfl]
  have executor := optionalText_checks block.executor
  have kept : editBlockType { executor := some block.executor } item.type = .ok item.type := by
    cases item.type <;> rfl
  have others : task.blocks.map (fun other => if other.id = block.id then
      { item with executor := block.executor.map trim } else other) = (restoredBlock task block).blocks := by
    apply map_congr_left
    intro other memberOther
    split
    · rename_i chosen
      rw [inj_on_of_nodup_map distinct memberOther memberItem (chosen.trans same.symm)]
    · rfl
  have ensured : ensureBlockFieldCompatibility item { executor := some block.executor } = .ok () := by
    simp [ensureBlockFieldCompatibility, Checked.demand, Bind.bind, Except.bind]
  unfold buildPlanPackageBlockFieldEditMutation
  rw [parseBlockRef_blockRef plain.1 plain.2]
  simp only [toOption_bind, toOption_ok, bind_some, present, find?_key distinct memberItem same, Checked.present,
    ensured, edited, executor, kept]
  by_cases good : block.executor.all named = true
  · rw [if_pos good, if_pos good, bind_some, others]
    rfl
  · rw [if_neg good, if_neg good]
    rfl

def executorKnown (manifest : Manifest) (name : Option String) : Bool :=
  (name.map trim).all (knownExecutor manifest)

theorem nonempty_trim {value : String} : nonempty (trim value) = named value := rfl

theorem replaceTask_self (prepared : Prepared manifest) (member : task ∈ manifest.nodes) :
    replaceTask manifest task = manifest := by
  unfold replaceTask
  congr 1
  apply (map_congr_left _).trans (map_id _)
  intro node memberNode
  split
  · rename_i equal
    exact inj_on_of_nodup_map prepared.wellformed.distinct member memberNode equal.symm
  · rfl

theorem prepared_task (prepared : Prepared manifest) (member : task ∈ manifest.nodes) :
    manifestNodeSchema task = true ∧ executorsKnown manifest task = true := by
  have whole := schema_replaceTask prepared.schema member rfl
  rw [replaceTask_self prepared member, prepared.schema] at whole
  exact Bool.and_eq_true_iff.mp whole.symm

theorem restoredTask_shape : taskShape (restoredTask task fields) = taskShape task := by
  unfold taskShape restoredTask
  split
  · simp only [List.map_map]
    rfl
  · rfl

theorem restoredTask_schema (prepared : Prepared manifest) (member : task ∈ manifest.nodes)
    (good : fieldsNamed fields = true) (edits : fields.executor.isSome = true) :
    manifestSchema (replaceTask manifest (restoredTask task fields)) = fields.executor.all (executorKnown manifest) := by
  rw [schema_replaceTask prepared.schema member (congrArg fst restoredTask_shape), Bool.eq_iff_iff,
    Bool.and_eq_true]
  obtain ⟨schema, _⟩ := prepared_task prepared member
  obtain ⟨executor, given⟩ := Option.isSome_iff_exists.mp edits
  unfold fieldsNamed at good
  simp only [given, Bool.and_eq_true, Option.all_some] at good
  have title : nonempty ((fields.title.map trim).getD task.title) = true := by
    unfold manifestNodeSchema at schema
    cases edit : fields.title <;> simp_all [nonempty_trim]
  have acceptance : (fields.acceptance.map (List.map trim)).getD task.acceptance ≠ [] ∧
      ((fields.acceptance.map (List.map trim)).getD task.acceptance).all nonempty = true := by
    unfold manifestNodeSchema at schema
    cases edit : fields.acceptance <;> simp_all [nonempty_trim]
  have cleaned : optionalNonempty (executor.map trim) = true := by
    cases executor <;> simp_all [optionalNonempty, nonempty_trim]
  unfold manifestNodeSchema at schema
  simp only [Bool.and_eq_true, List.all_eq_true] at schema
  have blocks : ∀ block ∈ task.blocks, manifestBlockSchema { block with executor := none } = true := by
    intro block memberBlock
    have old := schema.2 block memberBlock
    unfold manifestBlockSchema at old ⊢
    simp_all [optionalNonempty]
  unfold manifestNodeSchema executorsKnown restoredTask executorKnown
  simp [given, title, acceptance, cleaned, schema]
  exact fun _ => blocks

theorem restoredBlock_shape : taskShape (restoredBlock task block) = taskShape task := by
  unfold taskShape restoredBlock
  simp only [List.map_map]
  congr 1
  apply List.map_congr_left
  intro item _
  rw [comp_apply]
  split <;> rfl

theorem restoredBlock_schema (prepared : Prepared manifest) (member : task ∈ manifest.nodes)
    (listed : block.id ∈ task.blocks.map ManifestBlock.id) (good : block.executor.all named = true) :
    manifestSchema (replaceTask manifest (restoredBlock task block)) = executorKnown manifest block.executor := by
  rw [schema_replaceTask prepared.schema member (congrArg fst restoredBlock_shape), Bool.eq_iff_iff,
    Bool.and_eq_true]
  obtain ⟨schema, known⟩ := prepared_task prepared member
  obtain ⟨item, memberItem, chosen⟩ := List.mem_map.mp listed
  have cleaned : optionalNonempty (block.executor.map trim) = true := by
    cases edit : block.executor <;> simp_all [optionalNonempty, nonempty_trim]
  unfold manifestNodeSchema executorsKnown restoredBlock at *
  simp only [Bool.and_eq_true, List.all_map, List.all_eq_true, comp_apply] at *
  constructor
  · intro after
    have restored := after.2.2 item memberItem
    rwa [if_pos chosen] at restored
  · intro accepted
    refine ⟨⟨⟨schema.1.1, by simpa using schema.1.2⟩, ?_⟩, known.1, ?_⟩
    · intro other memberOther
      have old := schema.2 other memberOther
      split
      · simp_all [manifestBlockSchema]
      · exact old
    · intro other memberOther
      split
      · exact accepted
      · exact known.2 other memberOther
end

theorem execute_fieldEdit {edit : PlanGraphEdit} {inverse : List PlanGraphCommand}
    {raw : Except String GraphMutation} {mutation : GraphMutation} {good : Bool} (canvas : edit.storesElsewhere = false)
    (inverted : commandInverse env package edit = .ok inverse) (caught : commandMutation env package edit = caughtMutation raw)
    (checked : raw.toOption = if good then some mutation else none) (prepared : Prepared package.manifest)
    {known : Bool} (schema : good = true → manifestSchema mutation.nextManifest = known)
    (valid : manifestSchema mutation.nextManifest = true → Prepared mutation.nextManifest) :
    ((good && known) = true → ∃ committed, executePlanGraphCommand env package ⟨edit, none⟩ =
      .ok ⟨package.commit mutation, inverse, committed⟩) ∧
    ((good && known) = false → ∃ issues, executePlanGraphCommand env package ⟨edit, none⟩ = .error (.diagnostics issues)) := by
  have versioned : validateBaseVersion env package ⟨edit, none⟩ = .ok () := by simp [validateBaseVersion]
  unfold executePlanGraphCommand
  simp only [canvas, if_false, inverted, versioned, caught, Bool.false_eq_true]
  cases raw with
  | error =>
    cases good with
    | true => cases checked
    | false => exact ⟨fun impossible => (by cases impossible), fun _ => ⟨_, rfl⟩⟩
  | ok =>
    cases good with
    | false => cases checked
    | true =>
      cases checked
      rw [Bool.true_and]
      by_cases noop : mutation = ⟨package.manifest, []⟩
      · refine ⟨fun _ => ⟨false, ?_⟩, fun refused => ?_⟩
        · simp only [caughtMutation, Bind.bind, Except.bind, noop, if_true]
          rfl
        · rw [← schema rfl, noop, prepared.schema] at refused
          cases refused
      · refine ⟨fun agreed => ⟨true, ?_⟩, fun refused => ⟨[issue "manifest_schema_invalid" "" "manifest.json"], ?_⟩⟩
        · have accepted := prepare_ok_iff.mpr (valid ((schema rfl).trans agreed))
          simp only [caughtMutation, Bind.bind, Except.bind, noop, if_false, accepted]
          rfl
        · simp only [caughtMutation, Bind.bind, Except.bind, noop, if_false, prepareManifestForWrite, schema rfl, refused,
            Bool.false_eq_true]

def executorAccepted (manifest : Manifest) (name : Option String) : Bool := name.all named && executorKnown manifest name

def fieldsAccepted (manifest : Manifest) (fields : TaskFields) : Bool :=
  fieldsNamed fields && fields.executor.all (executorKnown manifest)

theorem execute_restore (env : CommandEnv) {task : ManifestTask} {block : ManifestBlock}
    (prepared : Prepared package.manifest) (member : task ∈ package.manifest.nodes)
    (listed : block.id ∈ task.blocks.map ManifestBlock.id) :
    (executorAccepted package.manifest block.executor = true → ∃ inverse committed,
      executePlanGraphCommand env package (commandForHistoryReplay (restoreExecutor task.id block)) =
        .ok ⟨⟨replaceTask package.manifest (restoredBlock task block), package.prompts⟩, inverse, committed⟩) ∧
    (executorAccepted package.manifest block.executor = false → ∃ issues,
      executePlanGraphCommand env package (commandForHistoryReplay (restoreExecutor task.id block)) =
        .error (.diagnostics issues)) := by
  obtain ⟨_, memberItem, same⟩ := mem_map.mp listed
  have inverted : ∃ inverse, commandInverse env package
      (.updateBlockFields (blockRef task.id block.id) { executor := some block.executor }) = .ok inverse := by
    simp only [commandInverse, inverseBlockFieldsCommand,
      blockFromManifest_restored prepared.wellformed member memberItem same]
    exact ⟨_, rfl⟩
  obtain ⟨inverse, inverted⟩ := inverted
  have ran := execute_fieldEdit rfl inverted rfl (blockEdit_toOption prepared.wellformed member listed) prepared
    (fun good => restoredBlock_schema prepared member listed good) (prepared.replaceTask member restoredBlock_shape)
  exact ⟨fun accepted => ⟨inverse, ran.1 accepted⟩, ran.2⟩

def Staffed (task : ManifestTask) : Prop := ∃ block ∈ task.blocks, block.executor.isSome = true

structure Restored (package : Package) (task : ManifestTask) (restores : List ManifestBlock)
    (result : Package × Option CommandFailure) : Prop where
  prompts : result.1.prompts = package.prompts
  kept : ∃ current ∈ result.1.manifest.nodes, current.id = task.id ∧ current.title = task.title ∧
    current.executor = task.executor ∧ current.acceptance = task.acceptance ∧
    (Staffed task ∨ restores.head?.any (fun block => executorAccepted package.manifest block.executor) = true → Staffed current)
  whole : restores.all (fun block => executorAccepted package.manifest block.executor) = true → result.2 = none
  refused : restores.all (fun block => executorAccepted package.manifest block.executor) = false →
    ∃ issues, result.2 = some (.diagnostics issues)
  first : restores.head?.any (fun block => executorAccepted package.manifest block.executor) = false → result.1 = package

theorem mem_replaceTask {manifest : Manifest} {task next : ManifestTask} (member : task ∈ manifest.nodes)
    (same : next.id = task.id) : next ∈ (replaceTask manifest next).nodes :=
  mem_map.mpr ⟨task, member, if_pos same.symm⟩

theorem replay_restores (env : CommandEnv) {task : ManifestTask} (prepared : Prepared package.manifest)
    (member : task ∈ package.manifest.nodes)
    (listed : ∀ block ∈ restores, block.executor.isSome = true ∧ block.id ∈ task.blocks.map ManifestBlock.id) :
    Restored package task restores (replayCommands env package (restores.map (restoreExecutor task.id))) := by
  induction restores generalizing package task with
  | nil => exact ⟨rfl, ⟨task, member, rfl, rfl, rfl, rfl, by simp⟩, fun _ => rfl, by simp, fun _ => rfl⟩
  | cons block _ ih =>
    have step := execute_restore env prepared member (listed block mem_cons_self).2
    rw [map_cons, replayCommands]
    cases accepted : executorAccepted package.manifest block.executor with
    | false =>
      obtain ⟨issues, refused⟩ := step.2 accepted
      rw [refused]
      exact ⟨rfl, ⟨task, member, rfl, rfl, rfl, rfl, by simp [accepted]⟩, by simp [accepted], fun _ => ⟨issues, rfl⟩,
        fun _ => rfl⟩
    | true =>
      obtain ⟨_, _, ran⟩ := step.1 accepted
      have schema := (restoredBlock_schema prepared member (listed block mem_cons_self).2
        (Bool.and_eq_true_iff.mp accepted).1).trans (Bool.and_eq_true_iff.mp accepted).2
      have next := @ih ⟨replaceTask package.manifest (restoredBlock task block), package.prompts⟩ (restoredBlock task block)
        (prepared.replaceTask member restoredBlock_shape schema) (mem_replaceTask member rfl) (by
          intro other memberOther
          rw [shape_ids restoredBlock_shape]
          exact listed other (mem_cons_of_mem _ memberOther))
      have staffed : Staffed (restoredBlock task block) := by
        obtain ⟨given, chosen⟩ := listed block mem_cons_self
        obtain ⟨_, memberItem, same⟩ := mem_map.mp chosen
        refine ⟨_, mem_map_of_mem memberItem, ?_⟩
        rw [if_pos same]
        simpa using given
      obtain ⟨current, memberCurrent, id, title, executor, acceptance, last⟩ := next.kept
      rw [ran]
      refine ⟨next.prompts, ⟨current, memberCurrent, id, title, executor, acceptance, fun _ => last (.inl staffed)⟩,
        ?_, ?_, by simp [accepted]⟩
      · rw [all_cons, accepted, Bool.true_and]
        exact next.whole
      · rw [all_cons, accepted, Bool.true_and]
        exact next.refused

structure ExecutorEdit (package : Package) (commands : List PlanGraphCommand) (task : ManifestTask) (fields : TaskFields)
    (restores : List ManifestBlock) : Prop where
  prepared : Prepared package.manifest
  member : task ∈ package.manifest.nodes
  commands : commands = ⟨.updateTaskFields task.id fields, none⟩ :: restores.map (restoreExecutor task.id)
  edits : fields.executor.isSome = true
  prompt : fields.promptMarkdown.isSome = true → (package.prompts.get? task.prompt).isSome = true
  cleared : ¬ Staffed task
  listed : ∀ block ∈ restores, block.executor.isSome = true ∧ block.id ∈ task.blocks.map ManifestBlock.id

variable {applied : AppliedCommand} {commands : List PlanGraphCommand}

theorem execute_committed {command : PlanGraphCommand}
    (ran : executePlanGraphCommand env package command = .ok applied) (committed : applied.committed = true) :
    commandInverse env package command.edit = .ok applied.inverse ∧
      ∃ mutation, commandMutation env package command.edit = .ok mutation ∧ Prepared mutation.nextManifest ∧
        applied.package = package.commit mutation := by
  unfold executePlanGraphCommand at ran
  split at ran
  · obtain ⟨_, _, rfl⟩ := map_ok.mp ran
    cases committed
  obtain ⟨_, inverted, ran⟩ := bind_ok.mp ran
  obtain ⟨_, ran⟩ := rest_ok ran
  obtain ⟨mutation, mutated, ran⟩ := bind_ok.mp ran
  split at ran
  · cases ran
    cases committed
  · obtain ⟨_, prepared, ran⟩ := bind_ok.mp ran
    cases ran
    exact ⟨inverted, mutation, mutated, prepare_ok_iff.mp prepared, rfl⟩

theorem replacedPrompt_isSome {path missing subject : String} {asked found : Option String}
    (ran : replacedPrompt package path missing subject asked = .ok found) : found.isSome = asked.isSome := by
  unfold replacedPrompt at ran
  split at ran
  · cases ran
    rfl
  · split at ran
    · cases ran
    · cases ran
      rfl

theorem executorEdit_of_commit {before : Package} {base : Option String}
    (ran : executePlanGraphCommand env before ⟨.updateTaskFields taskId fields, base⟩ = .ok applied)
    (committed : applied.committed = true) (edits : fields.executor.isSome = true) :
    ∃ task inverse restores, ExecutorEdit applied.package applied.inverse task inverse restores := by
  obtain ⟨inverted, _, mutated, prepared, package⟩ := execute_committed ran committed
  obtain ⟨task, found, inverted⟩ := bind_ok.mp inverted
  obtain ⟨_, read, inverted⟩ := bind_ok.mp inverted
  rw [present_ok] at found
  have checked := taskEdit_toOption found edits
  cases raw : buildPlanPackageTaskFieldEditMutation before.manifest taskId fields with
  | error =>
    simp only [commandMutation, raw] at mutated
    cases mutated
  | ok =>
    simp only [commandMutation, raw] at mutated
    cases mutated
    rw [raw, toOption_ok] at checked
    split at checked
    · cases checked
      have member : task ∈ before.manifest.nodes := mem_of_find?_eq_some found
      have id : task.id = taskId := by simpa using find?_some found
      rw [if_pos edits] at inverted
      rw [package, ← Except.ok.inj inverted]
      refine ⟨restoredTask task fields, _, _, prepared, mem_replaceTask member rfl, by rw [← id]; rfl, ?_, ?_, ?_, ?_⟩
      · simpa using edits
      · intro asked
        rw [replacedPrompt_isSome read] at asked
        obtain ⟨_, given⟩ := isSome_iff_exists.mp asked
        simp [Package.commit, given, writePromptSideEffects, restoredTask]
      · rintro ⟨_, memberBlock, named⟩
        simp only [restoredTask, edits, if_true] at memberBlock
        obtain ⟨_, _, rfl⟩ := mem_map.mp memberBlock
        cases named
      · intro block memberBlock
        obtain ⟨inside, given⟩ := mem_filter.mp memberBlock
        refine ⟨given, ?_⟩
        rw [shape_ids restoredTask_shape]
        exact mem_map_of_mem inside
    · cases checked

theorem recorded_cases {entry : OperationLogEntry} (recorded : RecordedEntry env entry) :
    (∃ command, entry.inverse = [command]) ∨ promptHistoryTarget entry.command = none ∧ ∃ after task fields restores,
      env.graphVersion after = entry.graphVersionAfter ∧ ExecutorEdit after entry.inverse task fields restores := by
  induction recorded with
  | @executed _ command applied _ _ ran committed =>
    have inverted := (execute_committed ran committed).1
    obtain ⟨edit, _⟩ := command
    unfold commandInverse at inverted
    split at inverted
    · rename_i taskId fields same
      cases same
      by_cases edits : fields.executor.isSome = true
      · obtain ⟨task, inverse, restores, edit⟩ := executorEdit_of_commit ran committed edits
        refine .inr ⟨?_, applied.package, task, inverse, restores, rfl, edit⟩
        simp [promptHistoryTarget, TaskFields.onlyPrompt, isSome_iff_ne_none.mp edits]
      · obtain ⟨_, _, inverted⟩ := rest_ok₂ inverted
        rw [if_neg edits] at inverted
        exact .inl ⟨_, (Except.ok.inj inverted).symm⟩
    · obtain ⟨command, _, same⟩ := map_ok.mp inverted
      exact .inl ⟨command, same.symm⟩
    · obtain ⟨command, _, same⟩ := map_ok.mp inverted
      exact .inl ⟨command, same.symm⟩
  | elsewhere => exact .inl ⟨_, rfl⟩
  | merged _ _ continued ih =>
    rcases ih with single | ⟨untargeted, _⟩
    · exact .inl single
    · unfold coalesces at continued
      simp only [Bool.and_eq_true, decide_eq_true_eq] at continued
      rw [← continued.1.2, untargeted] at continued
      cases continued.1.1

def restoresNothing (package : Package) (taskId : String) (fields : TaskFields) : Bool :=
  (taskFromManifest package.manifest taskId).any (fun task =>
    fields.title.all (fun title => trim title = task.title) &&
      fields.executor.all (fun executor => executor.map trim = task.executor) &&
      fields.acceptance.all (fun acceptance => acceptance.map trim = task.acceptance) &&
      fields.promptMarkdown.all (fun markdown => package.prompts.get? task.prompt = some markdown))

def restoreAccepted (manifest : Manifest) (command : PlanGraphCommand) : Bool :=
  match command.edit with
  | .updateBlockFields _ fields => fields.executor.all (executorAccepted manifest)
  | _ => true

/-- The commands of an inverse are all accepted, or the first that is refused follows none that changed the package. -/
def UndoesWhole (env : CommandEnv) (package : Package) (entry : OperationLogEntry) : Prop :=
  env.graphVersion package = entry.graphVersionAfter →
    match entry.inverse with
    | ⟨.updateTaskFields taskId fields, _⟩ :: restores =>
      fieldsAccepted package.manifest fields = true → restores.all (restoreAccepted package.manifest) = false →
        restoresNothing package taskId fields = true ∧ restores.head?.any (restoreAccepted package.manifest) = false
    | _ => True

theorem put_of_find {value : String} {entries : List (String × String)} (found : find key entries = some value) :
    put key value entries = entries := by
  induction entries with
  | nil => cases found
  | cons entry =>
    by_cases same : entry.1 = key
    · rw [find, if_pos same] at found
      rw [put, if_pos same, ← same, ← Option.some.inj found]
    · simp_all [find, put]

def Package.withFields (package : Package) (task : ManifestTask) (fields : TaskFields) : Package :=
  package.commit ⟨replaceTask package.manifest (restoredTask task fields),
    writePromptSideEffects task.prompt fields.promptMarkdown⟩

theorem Package.withFields_self {task : ManifestTask} (prepared : Prepared package.manifest)
    (member : task ∈ package.manifest.nodes) (same : restoredTask task fields = task)
    (prompt : ∀ markdown ∈ fields.promptMarkdown, package.prompts.get? task.prompt = some markdown) :
    package.withFields task fields = package := by
  have manifest := replaceTask_self prepared member
  unfold Package.withFields Package.commit
  rw [same, manifest]
  cases given : fields.promptMarkdown with
  | none => rfl
  | some markdown =>
    have kept : package.prompts.set task.prompt markdown = package.prompts := by
      unfold OrderedMap.set
      congr 1
      exact put_of_find (prompt markdown given)
    simp only [writePromptSideEffects, foldl_cons, foldl_nil, kept]

theorem execute_fields (env : CommandEnv) {task : ManifestTask}
    (edit : ExecutorEdit package commands task fields restores) :
    (fieldsAccepted package.manifest fields = true → ∃ inverse committed,
      executePlanGraphCommand env package (commandForHistoryReplay ⟨.updateTaskFields task.id fields, none⟩) =
        .ok ⟨package.withFields task fields, inverse, committed⟩) ∧
    (fieldsAccepted package.manifest fields = false → ∃ issues,
      executePlanGraphCommand env package (commandForHistoryReplay ⟨.updateTaskFields task.id fields, none⟩) =
        .error (.diagnostics issues)) := by
  have found : taskFromManifest package.manifest task.id = some task :=
    find?_key edit.prepared.wellformed.distinct edit.member rfl
  have inverted : ∃ inverse, commandInverse env package
      (.updateTaskFields task.id { fields with basePromptHash := none }) = .ok inverse := by
    simp only [commandInverse, inverseTaskFieldsCommand, found]
    cases asked : fields.promptMarkdown with
    | none => exact ⟨_, rfl⟩
    | some =>
      obtain ⟨_, read⟩ := isSome_iff_exists.mp (edit.prompt (by rw [asked]; rfl))
      simp only [replacedPrompt, Checked.present, Bind.bind, Except.bind, read]
      exact ⟨_, rfl⟩
  obtain ⟨inverse, inverted⟩ := inverted
  have ran := execute_fieldEdit rfl inverted rfl (taskEdit_toOption found edit.edits) edit.prepared
    (fun good => restoredTask_schema edit.prepared edit.member good edit.edits)
    (edit.prepared.replaceTask edit.member restoredTask_shape)
  exact ⟨fun accepted => ⟨inverse, ran.1 accepted⟩, ran.2⟩

theorem historyVersion_fields (env : CommandEnv) (package : Package) (taskId : String) (fields : TaskFields)
    (base : Option String) (restores : List PlanGraphCommand) :
    historyVersion env package (⟨.updateTaskFields taskId fields, base⟩ :: restores) = env.graphVersion package := by
  cases restores <;> rfl

theorem all_getD [DecidableEq β] {value : Option α} {clean : α → β} {old : β} :
    value.all (fun value => clean value = old) = true ↔ (value.map clean).getD old = old := by
  cases value <;> simp

theorem restoresNothing_iff {task : ManifestTask} (found : taskFromManifest package.manifest task.id = some task) :
    restoresNothing package task.id fields = true ↔ ((restoredTask task fields).title = task.title ∧
      (restoredTask task fields).executor = task.executor ∧ (restoredTask task fields).acceptance = task.acceptance) ∧
      ∀ markdown ∈ fields.promptMarkdown, package.prompts.get? task.prompt = some markdown := by
  unfold restoresNothing restoredTask
  rw [found, Option.any_some, Bool.and_eq_true, Bool.and_eq_true, Bool.and_eq_true, all_getD, all_getD, all_getD]
  simp [Option.all_eq_true, and_assoc]

theorem restoredTask_self {task : ManifestTask} (edits : fields.executor.isSome = true)
    (cleared : ¬ Staffed task) (title : (restoredTask task fields).title = task.title)
    (executor : (restoredTask task fields).executor = task.executor)
    (acceptance : (restoredTask task fields).acceptance = task.acceptance) : restoredTask task fields = task := by
  have blocks : (restoredTask task fields).blocks = task.blocks := by
    unfold restoredTask
    rw [if_pos edits]
    apply (map_congr_left _).trans (map_id _)
    intro block member
    have bare : block.executor = none := by
      rw [← not_isSome_iff_eq_none]
      exact fun given => cleared ⟨block, member, given⟩
    rw [← bare, id]
  calc restoredTask task fields
    _ = ⟨task.id, (restoredTask task fields).title, task.prompt, (restoredTask task fields).executor,
        (restoredTask task fields).acceptance, (restoredTask task fields).blocks⟩ := rfl
    _ = task := by rw [title, executor, acceptance, blocks]

theorem executorEdit_failsWhole_iff (env : CommandEnv) {task : ManifestTask}
    (edit : ExecutorEdit package commands task fields restores) :
    (∀ issues, (replayCommands env package commands).2 = some (.diagnostics issues) →
      (replayCommands env package commands).1 = package) ↔ (fieldsAccepted package.manifest fields = true →
      (restores.map (restoreExecutor task.id)).all (restoreAccepted package.manifest) = false →
      restoresNothing package task.id fields = true ∧
        (restores.map (restoreExecutor task.id)).head?.any (restoreAccepted package.manifest) = false) := by
  have step := execute_fields env edit
  have found : taskFromManifest package.manifest task.id = some task :=
    find?_key edit.prepared.wellformed.distinct edit.member rfl
  rw [edit.commands, List.all_map, List.head?_map, Option.any_map]
  cases accepted : fieldsAccepted package.manifest fields with
  | false =>
    obtain ⟨_, refused⟩ := step.2 accepted
    rw [replayCommands, refused]
    exact ⟨fun _ impossible => (by cases impossible), fun _ _ _ => rfl⟩
  | true =>
    obtain ⟨_, _, ran⟩ := step.1 accepted
    obtain ⟨good, known⟩ := Bool.and_eq_true_iff.mp accepted
    have schema := (restoredTask_schema edit.prepared edit.member good edit.edits).trans known
    have rest : Restored (package.withFields task fields) (restoredTask task fields) restores
        (replayCommands env (package.withFields task fields) (restores.map (restoreExecutor task.id))) := by
      apply replay_restores env (edit.prepared.replaceTask edit.member restoredTask_shape schema)
        (mem_replaceTask edit.member (congrArg fst restoredTask_shape))
      intro block member
      rw [shape_ids restoredTask_shape]
      exact edit.listed block member
    have replayed : replayCommands env package (⟨.updateTaskFields task.id fields, none⟩ ::
        restores.map (restoreExecutor task.id)) =
        replayCommands env (package.withFields task fields) (restores.map (restoreExecutor task.id)) := by
      rw [replayCommands, ran]
    rw [replayed]
    generalize replayCommands env (package.withFields task fields) (restores.map (restoreExecutor task.id)) = result at rest ⊢
    obtain ⟨reached, failure⟩ := result
    constructor
    · intro whole _ torn
      obtain ⟨issues, refused⟩ := rest.refused torn
      have unchanged : reached = package := whole issues refused
      subst unchanged
      obtain ⟨current, memberCurrent, id, title, executor, acceptance, staffed⟩ := rest.kept
      have equal : current = task :=
        List.inj_on_of_nodup_map edit.prepared.wellformed.distinct memberCurrent edit.member id
      subst equal
      have prompts : reached.prompts = (reached.withFields current fields).prompts := rest.prompts
      refine ⟨(restoresNothing_iff found).mpr ⟨⟨title.symm, executor.symm, acceptance.symm⟩, ?_⟩, ?_⟩
      · intro markdown given
        rw [Option.mem_def] at given
        rw [prompts]
        simp [Package.withFields, Package.commit, given, writePromptSideEffects]
      · rw [Bool.eq_false_iff]
        exact fun first => edit.cleared (staffed (.inr first))
    · intro condition issues refused
      have torn : restores.all (fun block => executorAccepted package.manifest block.executor) = false := by
        rw [Bool.eq_false_iff]
        intro all
        have done : failure = none := rest.whole all
        rw [done] at refused
        cases refused
      obtain ⟨nothing, first⟩ := condition rfl torn
      have unchanged : reached = package.withFields task fields := rest.first first
      obtain ⟨⟨title, executor, acceptance⟩, prompt⟩ := (restoresNothing_iff found).mp nothing
      have same := restoredTask_self edit.edits edit.cleared title executor acceptance
      exact unchanged.trans (Package.withFields_self edit.prepared edit.member same prompt)

theorem undo_failsWhole {now : Nat} {state : HistoryState} {row : OperationLogRow}
    (latest : state.log.latestUndoable key = some row) :
    FailsWhole state (undoPlanGraphCommand env key now state) ↔ ∀ issues,
      (applyHistoryCommand env state.package row.entry.inverse row.entry.graphVersionAfter).2 = some (.diagnostics issues) →
      (applyHistoryCommand env state.package row.entry.inverse row.entry.graphVersionAfter).1 = state.package := by
  simp only [FailsWhole, undoPlanGraphCommand, latest]
  generalize applyHistoryCommand env state.package row.entry.inverse row.entry.graphVersionAfter = result
  obtain ⟨package, _ | _⟩ := result
  · exact ⟨fun _ _ impossible => (by cases impossible), fun _ _ impossible => (by cases impossible)⟩
  constructor
  · exact fun whole issues failed => congrArg HistoryState.package (whole issues failed)
  · intro whole issues failed
    have same : package = state.package := whole issues failed
    simp only [same]

def promptPaths (manifest : Manifest) : List String :=
  manifest.nodes.flatMap (fun task => task.prompt :: task.blocks.map ManifestBlock.prompt)

/-- Packages of one fingerprint: the same manifest, up to the order of its executor profiles, and the same prompts at the
paths that it names. The order of the prompts and any other prompt file play no part. -/
structure SameContent (left right : Package) : Prop where
  manifest : { left.manifest with executors := right.manifest.executors } = right.manifest
  executors : ∀ name, name ∈ right.manifest.executors ↔ name ∈ left.manifest.executors
  prompts : ∀ path ∈ promptPaths right.manifest, left.prompts.get? path = right.prompts.get? path

theorem manifestSchema_executors {manifest : Manifest} {executors : List String}
    (same : ∀ name, name ∈ executors ↔ name ∈ manifest.executors) :
    manifestSchema { manifest with executors } = manifestSchema manifest := by
  have known : knownExecutor { manifest with executors } = knownExecutor manifest := by
    funext name
    simp [knownExecutor, same]
  have all : executors.all nonempty = manifest.executors.all nonempty := by
    rw [Bool.eq_iff_iff]
    simp [same]
  unfold manifestSchema
  simp only [known, all]

theorem ExecutorEdit.of_content {after : Package} {task : ManifestTask} (edit : ExecutorEdit after commands task fields restores)
    (same : SameContent after package) : ExecutorEdit package commands task fields restores := by
  have nodes : after.manifest.nodes = package.manifest.nodes := by rw [← same.manifest]
  have edges : after.manifest.edges = package.manifest.edges := by rw [← same.manifest]
  have member : task ∈ package.manifest.nodes := nodes ▸ edit.member
  have schema : manifestSchema package.manifest = true := by
    rw [← same.manifest, manifestSchema_executors same.executors]
    exact edit.prepared.schema
  refine { edit with
    prepared := ⟨schema, edit.prepared.wellformed.of_shape edges.symm (by rw [nodes])⟩
    member
    prompt := fun asked => ?_ }
  rw [← same.prompts task.prompt (mem_flatMap.mpr ⟨task, member, mem_cons_self⟩)]
  exact edit.prompt asked

/-- A failed redo changes nothing. A failed undo changes nothing unless it takes back the executor of a task, one command
after the other, and some block's executor is refused after a change; only the same content has the version of this one. -/
theorem history_failsWhole_iff (env : CommandEnv) (key : String) (now : Nat) (state : HistoryState) (row : OperationLogRow)
    (latest : state.log.latestUndoable key = some row) (recorded : RecordedEntry env row.entry)
    (collisionFree : ∀ other, env.graphVersion other = env.graphVersion state.package → SameContent other state.package) :
    FailsWhole state (redoPlanGraphCommand env key state) ∧
      (FailsWhole state (undoPlanGraphCommand env key now state) ↔ UndoesWhole env state.package row.entry) := by
  refine ⟨redo_failsWhole env key state, ?_⟩
  rw [undo_failsWhole latest]
  unfold UndoesWhole
  rcases recorded_cases recorded with ⟨_, single⟩ | ⟨_, after, _, _, restores, version, edit⟩
  · rw [single]
    refine ⟨fun _ _ => ?_, fun _ issues failed => history_single failed⟩
    split
    · rename_i restores same
      cases same
      exact fun _ impossible => by cases impossible
    · trivial
  · rw [← version]
    by_cases agreed : env.graphVersion state.package = env.graphVersion after
    · have current := edit.of_content (collisionFree after agreed.symm)
      have replayed : applyHistoryCommand env state.package row.entry.inverse (env.graphVersion after) =
          replayCommands env state.package row.entry.inverse := by
        unfold applyHistoryCommand
        rw [edit.commands, historyVersion_fields, if_neg (not_not.mpr agreed), if_neg (cons_ne_nil _ _)]
      rw [replayed, executorEdit_failsWhole_iff env current, edit.commands]
      exact ⟨fun whole _ => whole, fun whole => whole agreed⟩
    · refine ⟨fun _ equal => absurd equal agreed, fun _ issues _ => ?_⟩
      unfold applyHistoryCommand
      rw [edit.commands, historyVersion_fields, if_pos agreed]

/-- A block names an executor with blanks around it, which the schema takes and a field edit does not restore. -/
def spacedTask : ManifestTask :=
  { id := "T", title := "T", prompt := "T.md", acceptance := ["done"], blocks := [
    { id := "a", type := .implementation none none, title := "a", prompt := "a.md", executor := some "codex" },
    { id := "b", type := .implementation none none, title := "b", prompt := "b.md", executor := some " x " }] }

def spacedPackage (task : ManifestTask) : Package :=
  ⟨{ title := "P", description := "", parallelEnabled := false, maxConcurrent := 1, executors := [" x "], nodes := [task],
     edges := [] }, {}⟩

def spacedEdited : Package := spacedPackage (restoredTask spacedTask { executor := some (some "pi") })

def spacedEnv : CommandEnv where
  graphVersion package := if package = spacedEdited then "pgv-after" else "pgv-other"
  projectGraphVersion := "pgg"
  contentHash text := text
  inverse _ _ := .error (.diagnostics [])
  mutation _ _ := .error (.diagnostics [])
  elsewhere _ := .error (.diagnostics [])

def spacedCommand : PlanGraphCommand := { edit := .updateTaskFields "T" { executor := some (some "pi") } }

def spacedRow : OperationLogRow where
  id := 1
  projectRoot := "p"
  entry := ⟨⟨"{}", none⟩, "pgv-other", "pgv-after", spacedCommand,
    ⟨.updateTaskFields "T" { executor := some none }, none⟩ :: spacedTask.blocks.map (restoreExecutor "T"), {}⟩
  createdAt := 1

def spacedState : HistoryState := ⟨spacedEdited, ⟨[spacedRow], 1⟩⟩

theorem spacedRow_recorded : RecordedEntry spacedEnv spacedRow.entry := by
  have ran : executePlanGraphCommand spacedEnv (spacedPackage spacedTask) spacedCommand =
      .ok ⟨spacedEdited, spacedRow.entry.inverse, true⟩ := by rfl
  exact RecordedEntry.executed ⟨"{}", none⟩ {} ran rfl

/-- The undo stores the executor of the first block, then refuses the second. -/
theorem undo_halfDone : spacedState.log.latestUndoable "p" = some spacedRow ∧ RecordedEntry spacedEnv spacedRow.entry ∧
    ¬ FailsWhole spacedState (undoPlanGraphCommand spacedEnv "p" 2 spacedState) := by
  refine ⟨rfl, spacedRow_recorded, ?_⟩
  intro whole
  exact absurd (whole [issue "manifest_schema_invalid" "" "manifest.json"] (by rfl)) (by decide +kernel)

theorem history_failsWhole_spaced : FailsWhole spacedState (redoPlanGraphCommand spacedEnv "p" spacedState) ∧
    (FailsWhole spacedState (undoPlanGraphCommand spacedEnv "p" 2 spacedState) ↔
      UndoesWhole spacedEnv spacedState.package spacedRow.entry) := by
  apply history_failsWhole_iff spacedEnv "p" 2 spacedState spacedRow rfl spacedRow_recorded
  intro other same
  by_cases found : other = spacedEdited
  · subst found
    exact ⟨rfl, fun _ => .rfl, fun _ _ => rfl⟩
  · rw [show spacedEnv.graphVersion other = "pgv-other" from if_neg found] at same
    exact absurd same (by decide +kernel)

end PlanWeave
