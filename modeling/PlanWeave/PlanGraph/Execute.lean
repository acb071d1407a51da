import PlanWeave.PlanGraph.FieldEdits
import PlanWeave.PlanGraph.OperationLog

namespace PlanWeave

structure CommandEnv where
  graphVersion : Package → String
  projectGraphVersion : String
  contentHash : String → String
  inverse : Package → PlanGraphEdit → Except CommandFailure PlanGraphCommand
  mutation : Package → PlanGraphEdit → Except CommandFailure GraphMutation
  /-- A layout or a project graph command, which stores nothing in the package; its inverse. -/
  elsewhere : PlanGraphCommand → Except CommandFailure PlanGraphCommand

structure AppliedCommand where
  package : Package
  inverse : List PlanGraphCommand
  committed : Bool

def PlanGraphEdit.isProjectGraphCommand : PlanGraphEdit → Bool
  | .addCanvasDependency .. | .removeCanvasDependency .. | .addCrossTaskDependency .. | .removeCrossTaskDependency .. => true
  | _ => false

def PlanGraphEdit.storesElsewhere (edit : PlanGraphEdit) : Bool :=
  match edit with
  | .updateLayout .. => true
  | _ => edit.isProjectGraphCommand

def commandInverse (env : CommandEnv) (package : Package) : PlanGraphEdit → Except CommandFailure (List PlanGraphCommand)
  | .updateTaskFields taskId fields => inverseTaskFieldsCommand package taskId fields
  | .updateBlockFields ref fields => (inverseBlockFieldsCommand package ref fields).map (fun command => [command])
  | edit => (env.inverse package edit).map (fun command => [command])

def caughtMutation : Except String GraphMutation → Except CommandFailure GraphMutation
  | .error message => .error (.diagnostics [⟨"command_validation_failed", message, none⟩])
  | .ok mutation => .ok mutation

def commandMutation (env : CommandEnv) (package : Package) : PlanGraphEdit → Except CommandFailure GraphMutation
  | .updateTaskFields taskId fields => caughtMutation (buildPlanPackageTaskFieldEditMutation package.manifest taskId fields)
  | .updateBlockFields ref fields => caughtMutation (buildPlanPackageBlockFieldEditMutation package.manifest ref fields)
  | edit => env.mutation package edit

/-- The prompt that a command replaces: its target, the hash it is based on, the hash it has. -/
def commandPrompt (env : CommandEnv) (package : Package) (command : PlanGraphCommand) :
    Option (String × Option String × Option String) :=
  let task (taskId : String) := (taskFromManifest package.manifest taskId).bind (fun task => package.prompts.get? task.prompt)
  let block (ref : String) := (blockFromManifest package.manifest ref).toOption.join.bind
    (fun entry => package.prompts.get? entry.2.prompt)
  match command.edit with
  | .updateTaskPrompt taskId _ base => some (taskId, base, (task taskId).map env.contentHash)
  | .updateBlockPrompt ref _ base => some (ref, base, (block ref).map env.contentHash)
  | .updateTaskFields taskId fields => fields.promptMarkdown.map
      (fun _ => (taskId, fields.basePromptHash, (task taskId).map env.contentHash))
  | .updateBlockFields ref fields => fields.promptMarkdown.map
      (fun _ => (ref, fields.basePromptHash, (block ref).map env.contentHash))
  | _ => none

def validateBaseVersion (env : CommandEnv) (package : Package) (command : PlanGraphCommand) : Except CommandFailure Unit :=
  if command.baseGraphVersion.getD "" = "" ∨ command.baseGraphVersion = some (env.graphVersion package) then .ok ()
  else match commandPrompt env package command with
    | some (target, base, current) =>
      if base.getD "" ≠ "" ∧ current = base then .ok ()
      else .error (.diagnostics [issue "graph_version_conflict"
        "Prompt changed after the command base graph version; refusing to overwrite newer prompt content." target])
    | none => .error (.diagnostics [⟨"graph_version_conflict",
        "Plan graph changed after the command base graph version; re-read the graph before applying this structural command.",
        none⟩])

/-- The checks before a package is written. The texts of schema issues are the schema library's. -/
def prepareManifestForWrite (manifest : Manifest) : Except CommandFailure Unit :=
  if manifestSchema manifest then
    match compileTaskGraph manifest with
    | .error message => .error (.thrown message)
    | .ok graph => if graph.errors = [] then .ok () else .error (.diagnostics graph.errors)
  else .error (.diagnostics [issue "manifest_schema_invalid" "" "manifest.json"])

def Package.commit (package : Package) (mutation : GraphMutation) : Package where
  manifest := mutation.nextManifest
  prompts := mutation.sideEffects.foldl (fun prompts effect => match effect.2 with
    | none => prompts.erase effect.1
    | some markdown => prompts.set effect.1 markdown) package.prompts

def executePlanGraphCommand (env : CommandEnv) (package : Package) (command : PlanGraphCommand) :
    Except CommandFailure AppliedCommand :=
  if command.edit.storesElsewhere then
    (env.elsewhere command).map (fun inverse => ⟨package, [inverse], false⟩)
  else do
    let inverse ← commandInverse env package command.edit
    validateBaseVersion env package command
    let mutation ← commandMutation env package command.edit
    if mutation = ⟨package.manifest, []⟩ then return ⟨package, inverse, false⟩
    prepareManifestForWrite mutation.nextManifest
    return ⟨package.commit mutation, inverse, true⟩

def commandForHistoryReplay (command : PlanGraphCommand) : PlanGraphCommand where
  edit := match command.edit with
    | .updateTaskPrompt taskId promptMarkdown _ => .updateTaskPrompt taskId promptMarkdown none
    | .updateBlockPrompt ref promptMarkdown _ => .updateBlockPrompt ref promptMarkdown none
    | .updateTaskFields taskId fields => .updateTaskFields taskId { fields with basePromptHash := none }
    | .updateBlockFields ref fields => .updateBlockFields ref { fields with basePromptHash := none }
    | edit => edit

/-- Each command is committed on its own; a refused one ends the loop. -/
def replayCommands (env : CommandEnv) (package : Package) : List PlanGraphCommand → Package × Option CommandFailure
  | [] => (package, none)
  | command :: rest =>
    match executePlanGraphCommand env package (commandForHistoryReplay command) with
    | .error failure => (package, some failure)
    | .ok applied => replayCommands env applied.package rest

def historyVersion (env : CommandEnv) (package : Package) : List PlanGraphCommand → String
  | [command] => if command.edit.isProjectGraphCommand then env.projectGraphVersion else env.graphVersion package
  | _ => env.graphVersion package

def applyHistoryCommand (env : CommandEnv) (package : Package) (commands : List PlanGraphCommand)
    (expectedGraphVersion : String) : Package × Option CommandFailure :=
  if historyVersion env package commands ≠ expectedGraphVersion then
    (package, some (.diagnostics [⟨"graph_version_conflict",
      "Plan graph changed after this history entry was recorded; refusing to apply stale undo/redo.", none⟩]))
  else if commands = [] then (package, some (.diagnostics [⟨"history_empty", "No command to apply.", none⟩]))
  else replayCommands env package commands

structure HistoryState where
  package : Package
  log : OperationLogTable
deriving DecidableEq

def undoPlanGraphCommand (env : CommandEnv) (key : String) (now : Nat) (state : HistoryState) :
    HistoryState × Option CommandFailure :=
  match state.log.latestUndoable key with
  | none => (state, some (.diagnostics [⟨"history_empty", "No command to undo.", none⟩]))
  | some row =>
    match applyHistoryCommand env state.package row.entry.inverse row.entry.graphVersionAfter with
    | (package, none) => (⟨package, state.log.markUndone key row.id now⟩, none)
    | (package, some failure) => (⟨package, state.log⟩, some failure)

def redoPlanGraphCommand (env : CommandEnv) (key : String) (state : HistoryState) : HistoryState × Option CommandFailure :=
  match state.log.latestRedoable key with
  | none => (state, some (.diagnostics [⟨"history_empty", "No command to redo.", none⟩]))
  | some row =>
    match applyHistoryCommand env state.package [row.entry.command] row.entry.graphVersionBefore with
    | (package, none) => (⟨package, state.log.markRedone key row.id⟩, none)
    | (package, some failure) => (⟨package, state.log⟩, some failure)

/-- The entries of the log: executed commands, and prompt edits that continue one another. -/
inductive RecordedEntry (env : CommandEnv) : OperationLogEntry → Prop where
  | executed {before : Package} {command : PlanGraphCommand} {applied : AppliedCommand}
      (workspaceRef : PackageWorkspaceRef) (affected : AffectedRefs)
      (ran : executePlanGraphCommand env before command = .ok applied) (committed : applied.committed = true) :
      RecordedEntry env
        ⟨workspaceRef, env.graphVersion before, env.graphVersion applied.package, command, applied.inverse, affected⟩
  | elsewhere {command inverse : PlanGraphCommand} (workspaceRef : PackageWorkspaceRef) (affected : AffectedRefs)
      (before after : String) (stored : command.edit.storesElsewhere = true)
      (ran : env.elsewhere command = .ok inverse) :
      RecordedEntry env ⟨workspaceRef, before, after, command, [inverse], affected⟩
  | merged {earlier later : OperationLogEntry} (first : RecordedEntry env earlier) (second : RecordedEntry env later)
      (continued : coalesces earlier later = true) : RecordedEntry env (mergeEntry earlier later)

variable {command : PlanGraphCommand} {failure : CommandFailure}
variable {env : CommandEnv} {package : Package}

theorem replay_single
    (refused : (replayCommands env package [command]).2 = some failure) :
    (replayCommands env package [command]).1 = package := by
  unfold replayCommands at refused ⊢
  split
  · rfl
  · rename_i applied ran
    rw [ran] at refused
    cases refused

theorem history_single {expected : String}
    (refused : (applyHistoryCommand env package [command] expected).2 = some failure) :
    (applyHistoryCommand env package [command] expected).1 = package := by
  unfold applyHistoryCommand at refused ⊢
  split
  · rfl
  · rename_i agreed
    rw [if_neg agreed, if_neg (List.cons_ne_nil _ _)] at refused
    rw [if_neg (List.cons_ne_nil _ _)]
    exact replay_single refused

def FailsWhole (state : HistoryState) (result : HistoryState × Option CommandFailure) : Prop :=
  ∀ issues, result.2 = some (.diagnostics issues) → result.1 = state

theorem redo_failsWhole (env : CommandEnv) (key : String) (state : HistoryState) :
    FailsWhole state (redoPlanGraphCommand env key state) := by
  intro issues failed
  unfold redoPlanGraphCommand at failed ⊢
  split
  · rfl
  rename_i row found
  rw [found] at failed
  split
  · rename_i package ran
    simp only [ran] at failed
    cases failed
  · rename_i package failure ran
    have same := history_single (by rw [ran])
    rw [ran] at same
    rw [show package = state.package from same]

end PlanWeave
