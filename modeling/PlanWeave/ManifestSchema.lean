import PlanWeave.Manifest

namespace PlanWeave

def builtinExecutorNames : List String :=
  ["default", "manual", "codex", "codex-auto", "codex-acp", "opencode", "opencode-acp", "claude-code",
    "claude-code-auto", "claude-code-acp", "pi", "pi-auto", "pi-acp", "grok", "grok-acp", "codebuddy-acp"]

def nonempty (text : String) : Bool := text ≠ ""

def optionalNonempty (text : Option String) : Bool := text.all nonempty

def capabilityChar (c : Char) : Bool :=
  c.isLower || c.isDigit || c = '.' || c = '_' || c = ':' || c = '-'

def capabilitySchema (capability : String) : Bool :=
  match capability.toList with
  | [] => false
  | first :: rest => (first.isLower || first.isDigit) && rest.all capabilityChar && rest.length < 128 &&
      !("planweave.internal.".toList.isPrefixOf (first :: rest))

def capabilitiesSchema (capabilities : List String) : Bool :=
  capabilities ≠ [] && capabilities.length ≤ 128 && capabilities.all capabilitySchema && decide capabilities.Nodup

def reviewHookSchema (hook : ReviewHook) : Bool := nonempty hook.id && nonempty hook.command

def reviewSettingsSchema (settings : ReviewSettings) : Bool :=
  optionalNonempty settings.preset && optionalNonempty settings.inputContext &&
    optionalNonempty settings.passCriteria && optionalNonempty settings.feedbackFormat &&
    settings.hook.all reviewHookSchema

/-- Parsing removes repeated shared resources and drops an empty list. -/
def blockTypeSchema : BlockType → Bool
  | .implementation requirements sharedResources => requirements.all capabilitiesSchema &&
      sharedResources.all (fun resources => resources ≠ [] && resources.all nonempty && decide resources.Nodup)
  | .review settings => reviewSettingsSchema settings

def manifestBlockSchema (block : ManifestBlock) : Bool :=
  nonempty block.id && nonempty block.title && nonempty block.prompt && block.dependsOn.all nonempty &&
    optionalNonempty block.executor && blockTypeSchema block.type

def manifestNodeSchema (task : ManifestTask) : Bool :=
  nonempty task.id && nonempty task.title && nonempty task.prompt && optionalNonempty task.executor &&
    task.acceptance ≠ [] && task.acceptance.all nonempty && task.blocks ≠ [] && task.blocks.all manifestBlockSchema

def knownExecutor (manifest : Manifest) (name : String) : Bool :=
  builtinExecutorNames.contains name || manifest.executors.contains name

/-- What `manifestSchema.parse` guarantees of the manifest it returns. -/
def manifestSchema (manifest : Manifest) : Bool :=
  nonempty manifest.title && optionalNonempty manifest.defaultExecutor && 0 < manifest.maxConcurrent &&
    manifest.executors.all nonempty && manifest.nodes.all manifestNodeSchema &&
    manifest.edges.all (fun edge => nonempty edge.source && nonempty edge.target) &&
    manifest.defaultExecutor.all (knownExecutor manifest) &&
    manifest.nodes.all (fun task => task.executor.all (knownExecutor manifest) &&
      task.blocks.all (fun block => block.executor.all (knownExecutor manifest)))

variable {task : ManifestTask}

theorem manifestSchema_node {manifest : Manifest} (accepted : manifestSchema manifest = true)
    (member : task ∈ manifest.nodes) : manifestNodeSchema task = true := by
  unfold manifestSchema at accepted
  simp only [Bool.and_eq_true, List.all_eq_true] at accepted
  exact accepted.1.1.1.2 task member

theorem manifestNodeSchema_id (accepted : manifestNodeSchema task = true) : task.id ≠ "" := by
  unfold manifestNodeSchema at accepted
  simp only [Bool.and_eq_true] at accepted
  simpa [nonempty] using accepted.1.1.1.1.1.1.1

end PlanWeave
