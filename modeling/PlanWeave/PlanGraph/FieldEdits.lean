import PlanWeave.PlanGraph.Commands
import PlanWeave.ManifestSchema
import PlanWeave.Graph.Wellformed

namespace PlanWeave
open Checked

structure Package where
  manifest : Manifest
  prompts : OrderedMap String String
deriving DecidableEq

/-- The next manifest, and the prompts to write (or to remove, `none`). -/
structure GraphMutation where
  nextManifest : Manifest
  sideEffects : List (String × Option String) := []
deriving DecidableEq

inductive CommandFailure where
  | diagnostics (issues : List Issue)
  | thrown (message : String)

namespace FieldEdit

def nonEmpty (field value : String) : Except String String :=
  if Text.trim value = "" then .error s!"{field} must not be empty." else .ok (Text.trim value)

def optionalText : Option String → Except String (Option String)
  | none => .ok none
  | some value => (nonEmpty "executor" value).map some

def stringArray (field : String) (values : List String) : Except String (List String) :=
  values.zipIdx.mapM (fun item => nonEmpty s!"{field}[{item.2}]" item.1)

def nonEmptyStringArray (field : String) (values : List String) : Except String (List String) := do
  let normalized ← stringArray field values
  demand (normalized ≠ []) s!"{field} must include at least one item."
  return normalized

/-- The value of a field after the edit: an absent edit keeps the old one. -/
def edited {α β : Type} (check : α → Except String β) (old : β) : Option α → Except String β
  | none => .ok old
  | some value => check value

end FieldEdit

def taskFromManifest (manifest : Manifest) (taskId : String) : Option ManifestTask :=
  manifest.nodes.find? (fun node => node.id = taskId)

def requireTask (manifest : Manifest) (taskId : String) : Except String ManifestTask :=
  present (taskFromManifest manifest taskId) s!"Task '{taskId}' does not exist."

def replaceTask (manifest : Manifest) (task : ManifestTask) : Manifest :=
  { manifest with nodes := manifest.nodes.map (fun node => if node.id = task.id then task else node) }

def writePromptSideEffects (packagePath : String) : Option String → List (String × Option String)
  | none => []
  | some markdown => [(packagePath, some markdown)]

open FieldEdit in
def buildPlanPackageTaskFieldEditMutation (manifest : Manifest) (taskId : String) (fields : TaskFields) :
    Except String GraphMutation := do
  let task ← requireTask manifest taskId
  let title ← edited (nonEmpty "title") task.title fields.title
  let executor ← edited optionalText task.executor fields.executor
  let acceptance ← edited (nonEmptyStringArray "acceptance") task.acceptance fields.acceptance
  demand ({ fields with basePromptHash := none } ≠ ({} : TaskFields))
    "edit-task requires at least one field to update."
  -- an executor of the task takes the place of the executors of its blocks
  let blocks := if fields.executor.isSome then task.blocks.map (fun block => { block with executor := none })
    else task.blocks
  return ⟨replaceTask manifest { task with title, executor, acceptance, blocks },
    writePromptSideEffects task.prompt fields.promptMarkdown⟩

def ensureBlockFieldCompatibility (block : ManifestBlock) (fields : BlockFields) : Except String Unit := do
  demand (block.isImplementation ∨ fields.sharedResources = none)
    "parallel fields can only be edited on implementation blocks."
  demand (block.isImplementation ∨ fields.requiredCapabilities = none)
    "capability requirements can only be edited on implementation blocks."
  demand (block.isReview ∨
      fields.reviewRequired = none ∧ fields.maxFeedbackCycles = none ∧ fields.reviewHook = none)
    "review fields can only be edited on review blocks."

/-- `userRequiredCapabilitiesSchema.parse`, which also takes an empty list. -/
def parseCapabilities (capabilities : List String) : Except String (Option (List String)) :=
  if capabilities = [] then .ok none
  else if capabilitiesSchema capabilities then .ok (some capabilities)
  else .error "Invalid capability requirements."

open FieldEdit in
def editBlockType (fields : BlockFields) : BlockType → Except String BlockType
  | .implementation requirements sharedResources => do
    let sharedResources ← edited (fun resources => do
      let named ← resources.mapM (nonEmpty "shared resource")
      return if named = [] then none else some (uniqueInOrder named)) sharedResources fields.sharedResources
    let requirements ← edited parseCapabilities requirements fields.requiredCapabilities
    return .implementation requirements sharedResources
  | .review settings => return .review { settings with
      required := fields.reviewRequired.getD settings.required
      maxFeedbackCycles := fields.maxFeedbackCycles.getD settings.maxFeedbackCycles
      hook := fields.reviewHook.getD settings.hook }

open FieldEdit in
def buildPlanPackageBlockFieldEditMutation (manifest : Manifest) (ref : String) (fields : BlockFields) :
    Except String GraphMutation := do
  let (taskId, blockId) ← parseBlockRef ref
  let task ← requireTask manifest taskId
  let block ← present (task.blocks.find? (fun item => item.id = blockId)) s!"Block '{ref}' does not exist."
  ensureBlockFieldCompatibility block fields
  let title ← edited (nonEmpty "title") block.title fields.title
  let executor ← edited optionalText block.executor fields.executor
  let dependsOn ← edited (stringArray "dependsOn") block.dependsOn fields.dependsOn
  let type ← editBlockType fields block.type
  demand ({ fields with basePromptHash := none } ≠ ({} : BlockFields))
    "edit-block requires at least one field to update."
  let next := { block with title, executor, dependsOn, type }
  return ⟨replaceTask manifest { task with
      blocks := task.blocks.map (fun item => if item.id = blockId then next else item) },
    writePromptSideEffects block.prompt fields.promptMarkdown⟩

def blockFromManifest (manifest : Manifest) (ref : String) : Except CommandFailure (Option (ManifestTask × ManifestBlock)) :=
  match parseBlockRef ref with
  | .error message => .error (.thrown message)
  | .ok (taskId, blockId) => .ok (do
    let task ← taskFromManifest manifest taskId
    let block ← task.blocks.find? (fun item => item.id = blockId)
    return (task, block))

def replacedPrompt (package : Package) (path missing subject : String) : Option String →
    Except CommandFailure (Option String)
  | none => .ok none
  | some _ => match package.prompts.get? path with
    | none => .error (.diagnostics [issue "prompt_missing" missing subject])
    | some markdown => .ok (some markdown)

/-- Blocks lose their executors when the task gets one, so each has a command of its own. -/
def restoreExecutor (taskId : String) (block : ManifestBlock) : PlanGraphCommand :=
  { edit := .updateBlockFields (blockRef taskId block.id) { executor := some block.executor } }

def inverseTaskFieldsCommand (package : Package) (taskId : String) (fields : TaskFields) :
    Except CommandFailure (List PlanGraphCommand) := do
  let task ← present (taskFromManifest package.manifest taskId)
    (.diagnostics [issue "task_missing" s!"Task '{taskId}' does not exist." taskId])
  let promptMarkdown ← replacedPrompt package task.prompt s!"Prompt for task '{taskId}' is not indexed." taskId
    fields.promptMarkdown
  return { edit := .updateTaskFields taskId {
      title := fields.title.map (fun _ => task.title)
      promptMarkdown
      executor := fields.executor.map (fun _ => task.executor)
      acceptance := fields.acceptance.map (fun _ => task.acceptance) } } ::
    if fields.executor.isSome then
      (task.blocks.filter (fun block => block.executor.isSome)).map (restoreExecutor task.id) else []

def inverseBlockFieldsCommand (package : Package) (ref : String) (fields : BlockFields) :
    Except CommandFailure PlanGraphCommand := do
  let current ← blockFromManifest package.manifest ref
  let (_, block) ← present current
    (.diagnostics [issue "block_missing" s!"Block '{ref}' does not exist." ref])
  let promptMarkdown ← replacedPrompt package block.prompt s!"Prompt for block '{ref}' is not indexed." ref
    fields.promptMarkdown
  let common : BlockFields := {
    title := fields.title.map (fun _ => block.title)
    promptMarkdown
    executor := fields.executor.map (fun _ => block.executor)
    dependsOn := fields.dependsOn.map (fun _ => block.dependsOn) }
  return { edit := .updateBlockFields ref (match block.type with
    | .implementation requirements sharedResources => { common with
        sharedResources := fields.sharedResources.map (fun _ => sharedResources.getD [])
        requiredCapabilities := fields.requiredCapabilities.map (fun _ => requirements.getD []) }
    | .review settings => { common with
        reviewRequired := fields.reviewRequired.map (fun _ => settings.required)
        maxFeedbackCycles := fields.maxFeedbackCycles.map (fun _ => settings.maxFeedbackCycles)
        reviewHook := fields.reviewHook.map (fun _ => settings.hook) }) }

end PlanWeave
