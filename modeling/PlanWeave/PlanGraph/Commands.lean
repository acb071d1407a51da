import PlanWeave.Manifest

namespace PlanWeave

/-- `null` is `some none`; an absent field is `none`. -/
structure TaskFields where
  title : Option String := none
  promptMarkdown : Option String := none
  executor : Option (Option String) := none
  acceptance : Option (List String) := none
  basePromptHash : Option String := none
deriving DecidableEq

structure BlockFields where
  title : Option String := none
  promptMarkdown : Option String := none
  executor : Option (Option String) := none
  dependsOn : Option (List String) := none
  sharedResources : Option (List String) := none
  requiredCapabilities : Option (List String) := none
  reviewRequired : Option Bool := none
  maxFeedbackCycles : Option Nat := none
  reviewHook : Option (Option ReviewHook) := none
  basePromptHash : Option String := none
deriving DecidableEq

structure ExecutionPolicyFields where
  defaultExecutor : Option (Option String) := none
  parallelEnabled : Option Bool := none
  maxConcurrent : Option Nat := none
deriving DecidableEq

/-- A removed task with its prompts and edges. Its place on the desktop is left out: no modelled function reads it. -/
structure TaskComponentSnapshot where
  task : ManifestTask
  taskPromptMarkdown : String
  blockPromptMarkdown : List (String × String)
  insertIndex : Option Nat
  affectedTaskEdges : List ManifestEdge
deriving DecidableEq

structure BlockComponentSnapshot where
  taskId : String
  block : ManifestBlock
  promptMarkdown : String
  insertIndex : Option Nat
  affectedDependsOn : List (String × List String)
deriving DecidableEq

structure ProjectTaskRef where
  canvasId : String
  taskId : String
deriving DecidableEq

inductive LayoutScope where
  | desktop | canvas
deriving DecidableEq

inductive PlanGraphEdit where
  | addTaskDependency (fromTaskId toTaskId : String) (insertIndex : Option Nat)
  | removeTaskDependency (fromTaskId toTaskId : String)
  | reconnectTaskDependency (fromTaskId oldToTaskId : String) (newFromTaskId : Option String) (newToTaskId : String)
  | updateTaskPrompt (taskId promptMarkdown : String) (basePromptHash : Option String)
  | updateBlockPrompt (blockRef promptMarkdown : String) (basePromptHash : Option String)
  | updateTaskFields (taskId : String) (fields : TaskFields)
  | updateBlockFields (blockRef : String) (fields : BlockFields)
  | bulkUpdateBlocks (updates : List (String × BlockFields))
  | bulkUpdateParallelPolicy (canvasPolicy : Option ExecutionPolicyFields)
    (blocks : List (String × Option (List String)))
  | addTask (snapshot : TaskComponentSnapshot)
  | removeTask (taskId : String)
  | restoreTask (snapshot : TaskComponentSnapshot)
  | addBlock (snapshot : BlockComponentSnapshot)
  | removeBlock (blockRef : String)
  | restoreBlock (snapshot : BlockComponentSnapshot)
  | updateReviewPipeline (taskId : String) (maxFeedbackCycles : Nat) (reviewBlocks : List ManifestBlock)
    (promptMarkdownByBlockId : List (String × String))
  | updateLayout (layoutScope : LayoutScope) (layout : String)
  | addCanvasDependency (fromCanvasId toCanvasId : String)
  | removeCanvasDependency (fromCanvasId toCanvasId : String)
  | addCrossTaskDependency (source target : ProjectTaskRef)
  | removeCrossTaskDependency (source target : ProjectTaskRef)
deriving DecidableEq

structure PlanGraphCommand where
  edit : PlanGraphEdit
  baseGraphVersion : Option String := none
deriving DecidableEq

structure AffectedRefs where
  canvases : List String := []
  tasks : List String := []
  blocks : List String := []
  prompts : List String := []
  packageFiles : List String := []
deriving DecidableEq

def TaskFields.onlyPrompt (fields : TaskFields) : Bool :=
  fields.promptMarkdown.isSome && fields.title.isNone && fields.executor.isNone && fields.acceptance.isNone

def BlockFields.onlyPrompt (fields : BlockFields) : Bool :=
  fields.promptMarkdown.isSome && fields.title.isNone && fields.executor.isNone && fields.dependsOn.isNone &&
    fields.sharedResources.isNone && fields.requiredCapabilities.isNone && fields.reviewRequired.isNone &&
    fields.maxFeedbackCycles.isNone && fields.reviewHook.isNone

def promptHistoryTarget (command : PlanGraphCommand) : Option String :=
  match command.edit with
  | .updateTaskPrompt taskId _ _ => some ("task:" ++ taskId)
  | .updateBlockPrompt blockRef _ _ => some ("block:" ++ blockRef)
  | .updateTaskFields taskId fields => if fields.onlyPrompt then some ("task:" ++ taskId) else none
  | .updateBlockFields blockRef fields => if fields.onlyPrompt then some ("block:" ++ blockRef) else none
  | _ => none

def PlanGraphCommand.promptMarkdown (command : PlanGraphCommand) : Option String :=
  match command.edit with
  | .updateTaskPrompt _ promptMarkdown _ => some promptMarkdown
  | .updateBlockPrompt _ promptMarkdown _ => some promptMarkdown
  | .updateTaskFields _ fields => fields.promptMarkdown
  | .updateBlockFields _ fields => fields.promptMarkdown
  | _ => none

def inversePromptCommand (content : String) (command : PlanGraphCommand) : PlanGraphCommand :=
  match command.edit with
  | .updateTaskPrompt taskId _ _ => { edit := .updateTaskPrompt taskId content none }
  | .updateBlockPrompt blockRef _ _ => { edit := .updateBlockPrompt blockRef content none }
  | .updateTaskFields taskId _ => { edit := .updateTaskFields taskId { promptMarkdown := some content } }
  | .updateBlockFields blockRef _ => { edit := .updateBlockFields blockRef { promptMarkdown := some content } }
  | _ => command

end PlanWeave
