import PlanWeave.PlanGraph.Execute

namespace PlanWeave
open List OrderedMap

/-- A path below the package directory, by its segments. -/
abbrev PackagePath := List String

abbrev PackageFiles := OrderedMap PackagePath String

inductive PackageSideEffect where
  | writePrompt (packagePath markdown : String)
  | removePrompt (packagePath : String)
  | removeTaskDirectory (packagePath : String)

structure StagedMutation where
  baseManifest : Manifest
  nextManifest : Manifest
  sideEffects : List PackageSideEffect

/-- `resolvePackagePath`, and the JSON text of a manifest. -/
structure PackageFormat where
  resolve : String → Except String PackagePath
  parse : String → Option Manifest
  render : Manifest → String

inductive SideEffectBackup where
  | absent (targetPath : PackagePath)
  | file (targetPath : PackagePath) (content : String)
  | directory (targetPath : PackagePath) (contents : PackageFiles)

inductive RestoreStep where
  | remove (path : PackagePath)
  | write (path : PackagePath) (content : String)

inductive CommitOutcome where
  | committed
  | refused
  | threw

def manifestPath : PackagePath := ["manifest.json"]

def PackageFormat.load (format : PackageFormat) (files : PackageFiles) : Option Manifest :=
  (files.get? manifestPath).bind format.parse

namespace PackageSideEffect

def packagePath : PackageSideEffect → String
  | writePrompt path _ => path
  | removePrompt path => path
  | removeTaskDirectory path => path

def perform (target : PackagePath) (files : PackageFiles) : PackageSideEffect → PackageFiles
  | writePrompt _ markdown => files.set target markdown
  | removePrompt _ => files.erase target
  | removeTaskDirectory _ => files.filter fun path _ => !target.isPrefixOf path

/-- What the effect may make of a path, also when it fails on the way: a write breaks off, a removal leaves files behind. -/
def MayLeave (target path : PackagePath) (content : Option String) : PackageSideEffect → Prop
  | writePrompt _ _ => path = target
  | removePrompt _ => path = target ∧ content = none
  | removeTaskDirectory _ => target <+: path ∧ content = none

end PackageSideEffect

def RestoreStep.run (files : PackageFiles) : RestoreStep → PackageFiles
  | remove target => files.filter fun path _ => !target.isPrefixOf path
  | write path content => files.set path content

/-- Directories are known by the files that stand below them. -/
def backupSideEffectTarget (files : PackageFiles) (target : PackagePath) : SideEffectBackup :=
  if files.keys.any fun path => target.isPrefixOf path && target ≠ path then
    .directory target (files.filter fun path _ => target.isPrefixOf path)
  else match files.get? target with
    | some content => .file target content
    | none => .absent target

def restoreSideEffectBackup : SideEffectBackup → List RestoreStep
  | .absent target => [.remove target]
  | .file target content => [.write target content]
  | .directory target contents => .remove target :: contents.entries.map fun file => .write file.1 file.2

inductive Interleaved {α : Type} : List (List α) → List α → Prop where
  | done {parts : List (List α)} (finished : ∀ part ∈ parts, part = []) : Interleaved parts []
  | step {before after : List (List α)} {part rest : List α} {first : α} (later : Interleaved (before ++ part :: after) rest) :
    Interleaved (before ++ (first :: part) :: after) (first :: rest)

variable (format : PackageFormat)

def sideEffectTargets (effects : List PackageSideEffect) : Except String (List PackagePath) :=
  effects.mapM fun effect => format.resolve effect.packagePath

inductive Performs : List PackageSideEffect → PackageFiles → PackageFiles → Prop where
  | done (files : PackageFiles) : Performs [] files files
  | step {effect : PackageSideEffect} {rest : List PackageSideEffect} {target : PackagePath} {files left : PackageFiles}
    (resolved : format.resolve effect.packagePath = .ok target) (later : Performs rest (effect.perform target files) left) :
    Performs (effect :: rest) files left
  | fails {effect : PackageSideEffect} {rest : List PackageSideEffect} {target : PackagePath} {files left : PackageFiles}
    (resolved : format.resolve effect.packagePath = .ok target)
    (contained : ∀ path, left.get? path = files.get? path ∨ effect.MayLeave target path (left.get? path)) :
    Performs (effect :: rest) files left

/-- `applyMutationSideEffectsWithRollback` around the write of the manifest, which renames a finished file. -/
inductive AppliesWithRollback (effects : List PackageSideEffect) (manifest : Manifest) (files : PackageFiles) :
    CommitOutcome → PackageFiles → Prop where
  /-- A target lies outside of the package, or its backup fails. -/
  | refused : AppliesWithRollback effects manifest files .threw files
  | written {targets : List PackagePath} (resolved : sideEffectTargets format effects = .ok targets) :
    AppliesWithRollback effects manifest files .committed
      (((effects.zip targets).foldl (fun files step => step.1.perform step.2 files) files).set manifestPath (format.render manifest))
  | undone {targets : List PackagePath} {left : PackageFiles} {steps : List RestoreStep}
    (resolved : sideEffectTargets format effects = .ok targets) (performed : Performs format effects files left)
    (restored : Interleaved (targets.dedup.map fun target => restoreSideEffectBackup (backupSideEffectTarget files target)) steps) :
    AppliesWithRollback effects manifest files .threw (steps.foldl RestoreStep.run left)

inductive CommitsStaged (mutation : StagedMutation) (files : PackageFiles) : CommitOutcome → PackageFiles → Prop where
  | invalid {failure : CommandFailure} (invalid : prepareManifestForWrite mutation.nextManifest = .error failure) :
    CommitsStaged mutation files .refused files
  | unreadable (prepared : prepareManifestForWrite mutation.nextManifest = .ok ()) (unread : format.load files = none) :
    CommitsStaged mutation files .threw files
  | baseRejected (prepared : prepareManifestForWrite mutation.nextManifest = .ok ()) {current : Manifest}
    (loaded : format.load files = some current) (rejected : manifestSchema mutation.baseManifest = false) :
    CommitsStaged mutation files .threw files
  | conflict (prepared : prepareManifestForWrite mutation.nextManifest = .ok ()) {current : Manifest}
    (loaded : format.load files = some current) (accepted : manifestSchema mutation.baseManifest = true)
    (stale : current ≠ mutation.baseManifest) : CommitsStaged mutation files .refused files
  | applied {outcome : CommitOutcome} {left : PackageFiles}
    (prepared : prepareManifestForWrite mutation.nextManifest = .ok ())
    (loaded : format.load files = some mutation.baseManifest) (accepted : manifestSchema mutation.baseManifest = true)
    (ran : AppliesWithRollback format mutation.sideEffects mutation.nextManifest files outcome left) :
    CommitsStaged mutation files outcome left

variable {format} {files left state : PackageFiles} {path target : PackagePath}

def RestoreStep.Touches (path : PackagePath) : RestoreStep → Prop
  | remove target => target <+: path
  | write other _ => other = path

def Restores (files : PackageFiles) (path : PackagePath) : List RestoreStep → Prop
  | [] => True
  | .write other content :: rest => (other = path → files.get? path = some content) ∧ Restores files path rest
  | .remove target :: rest =>
    (target <+: path → files.get? path = none ∨ ∃ content, RestoreStep.write path content ∈ rest) ∧ Restores files path rest

theorem get?_without (files : PackageFiles) (target path : PackagePath) :
    (files.filter fun path _ => !target.isPrefixOf path).get? path = if target <+: path then none else files.get? path := by
  rw [get?_filter]
  by_cases below : target <+: path
  · have test : target.isPrefixOf path = true := isPrefixOf_iff_prefix.mpr below
    rw [if_pos below]
    cases files.get? path <;> simp [test]
  · have test : target.isPrefixOf path = false := Bool.eq_false_iff.mpr fun test => below ( isPrefixOf_iff_prefix.mp test)
    rw [if_neg below]
    cases files.get? path <;> simp [test]

variable {step : RestoreStep} {steps : List RestoreStep} {effects : List PackageSideEffect}

theorem run_untouched (apart : ¬ step.Touches path) : (step.run state).get? path = state.get? path := by
  cases step with
  | remove target => exact (get?_without state target path).trans (if_neg apart)
  | write => exact get?_set_of_ne _ _ fun same => apart same.symm

/-- A step at the path restores it, or leaves that to a later step of its backup. -/
theorem run_touched {part : List RestoreStep} (touches : step.Touches path)
    (restores : Restores files path (step :: part)) :
    (step.run state).get? path = files.get? path ∨ ∃ later ∈ part, later.Touches path := by
  cases step with
  | remove target =>
    rcases restores.1 touches with absent | ⟨_, member⟩
    · exact .inl (((get?_without state target path).trans (if_pos touches)).trans absent.symm)
    · exact .inr ⟨_, member, rfl⟩
  | write =>
    cases touches
    exact .inl (by rw [RestoreStep.run, get?_set_self, restores.1 rfl])

theorem restored_interleaved {parts : List (List RestoreStep)} (order : Interleaved parts steps)
    (restores : ∀ part ∈ parts, Restores files path part)
    (pending : state.get? path = files.get? path ∨ ∃ part ∈ parts, ∃ step ∈ part, step.Touches path) :
    (steps.foldl RestoreStep.run state).get? path = files.get? path := by
  induction order generalizing state with
  | done finished =>
    rcases pending with same | ⟨part, member, _, inside, _⟩
    · exact same
    · rw [finished part member] at inside
      cases inside
  | @step _ _ part _ first later ih =>
    have own : Restores files path (first :: part) := restores _ (by simp)
    have tail : Restores files path part := by
      cases first with
      | remove => exact own.2
      | write => exact own.2
    refine ih (fun other member => ?_) ?_
    · rcases mem_append.mp member with front | back
      · exact restores other (mem_append_left _ front)
      · rcases mem_cons.mp back with rfl | behind
        · exact tail
        · exact restores other (by simp [behind])
    · by_cases touches : first.Touches path
      · rcases @run_touched _ state _ _ _ touches own with same | ⟨later, inside, reaches⟩
        · exact .inl same
        · exact .inr ⟨part, by simp, later, inside, reaches⟩
      · rw [run_untouched touches]
        rcases pending with same | ⟨other, member, step, inside, reaches⟩
        · exact .inl same
        right
        rcases mem_append.mp member with front | back
        · exact ⟨other, mem_append_left _ front, step, inside, reaches⟩
        rcases mem_cons.mp back with rfl | behind
        · rcases mem_cons.mp inside with rfl | inside
          · exact absurd reaches touches
          · exact ⟨part, by simp, step, inside, reaches⟩
        · exact ⟨other, by simp [behind], step, inside, reaches⟩

theorem restores_writes {entries : List (PackagePath × String)} (stored : ∀ file ∈ entries, files.get? file.1 = some file.2) :
    Restores files path (entries.map fun file => .write file.1 file.2) := by
  induction entries with
  | nil => exact True.intro
  | cons file _ ih =>
    refine ⟨fun same => ?_, ih fun other member => stored other (mem_cons_of_mem _ member)⟩
    rw [← same]
    exact stored file mem_cons_self

theorem backup_restores (files : PackageFiles) (target path : PackagePath) :
    Restores files path (restoreSideEffectBackup (backupSideEffectTarget files target)) := by
  unfold backupSideEffectTarget
  split
  · have contents : ∀ other content, (other, content) ∈ (files.filter fun path _ => target.isPrefixOf path).entries ↔
        files.get? other = some content ∧ target <+: other := by
      intro other content
      rw [get?_eq_some_iff, ← isPrefixOf_iff_prefix]
      exact mem_filter
    refine ⟨fun below => ?_, restores_writes fun file member => ((contents _ _).mp member).1⟩
    cases present : files.get? path with
    | none => exact .inl rfl
    | some content => exact .inr ⟨content, mem_map.mpr ⟨_, (contents path content).mpr ⟨present, below⟩, rfl⟩⟩
  · rename_i empty
    split
    · rename_i content present
      exact ⟨fun same => same ▸ present, True.intro⟩
    rename_i absent
    refine ⟨fun below => .inl ?_, True.intro⟩
    by_cases same : target = path
    · rw [← same]
      exact absent
    · rw [get?_eq_none_iff]
      intro member
      exact empty (any_eq_true.mpr ⟨path, member, by simp [ isPrefixOf_iff_prefix.mpr below, same]⟩)

theorem backup_touches (below : target <+: path) (reached : target = path ∨ files.get? path ≠ none) :
    ∃ step ∈ restoreSideEffectBackup (backupSideEffectTarget files target), step.Touches path := by
  unfold backupSideEffectTarget
  split
  · exact ⟨.remove target, mem_cons_self, below⟩
  rename_i empty
  have same : target = path := by
    rcases reached with same | present
    · exact same
    · by_contra different
      rw [ne_eq, get?_eq_none_iff, not_not] at present
      exact empty (any_eq_true.mpr ⟨path, present, by simp [ isPrefixOf_iff_prefix.mpr below, different]⟩)
  split
  · exact ⟨_, mem_singleton_self _, same⟩
  · exact ⟨_, mem_singleton_self _, below⟩

theorem sideEffect_leaves (effect : PackageSideEffect) (target path : PackagePath) (files : PackageFiles) :
    (effect.perform target files).get? path = files.get? path ∨
      effect.MayLeave target path ((effect.perform target files).get? path) := by
  cases effect with
  | writePrompt =>
    by_cases same : path = target
    · exact .inr same
    · exact .inl (get?_set_of_ne _ _ same)
  | removePrompt =>
    simp only [PackageSideEffect.perform, get?_erase]
    split
    · rename_i same
      exact .inr ⟨same, rfl⟩
    · exact .inl rfl
  | removeTaskDirectory =>
    simp only [PackageSideEffect.perform, get?_without]
    split
    · rename_i below
      exact .inr ⟨below, rfl⟩
    · exact .inl rfl

theorem performs_leaves (performed : Performs format effects files left) (path : PackagePath) :
    left.get? path = files.get? path ∨ ∃ effect ∈ effects, ∃ target, format.resolve effect.packagePath = .ok target ∧
      effect.MayLeave target path (left.get? path) := by
  induction performed with
  | done => exact .inl rfl
  | @step effect _ target files _ resolved _ ih =>
    rcases ih with same | ⟨other, member, reached⟩
    · rw [same]
      rcases sideEffect_leaves effect target path files with kept | changed
      · exact .inl kept
      · exact .inr ⟨effect, mem_cons_self, target, resolved, changed⟩
    · exact .inr ⟨other, mem_cons_of_mem _ member, reached⟩
  | @fails effect _ target _ _ resolved contained =>
    rcases contained path with kept | changed
    · exact .inl kept
    · exact .inr ⟨effect, mem_cons_self, target, resolved, changed⟩

theorem undone_restores {targets : List PackagePath}
    (resolved : sideEffectTargets format effects = .ok targets) (performed : Performs format effects files left)
    (restored : Interleaved (targets.dedup.map fun target => restoreSideEffectBackup (backupSideEffectTarget files target)) steps)
    (path : PackagePath) : (steps.foldl RestoreStep.run left).get? path = files.get? path := by
  refine restored_interleaved restored (fun part member => ?_) ?_
  · obtain ⟨target, _, rfl⟩ := mem_map.mp member
    exact backup_restores files target path
  have touched : ∀ {effect : PackageSideEffect} {target : PackagePath}, effect ∈ effects →
      format.resolve effect.packagePath = .ok target → target <+: path → (target = path ∨ files.get? path ≠ none) →
      ∃ part ∈ targets.dedup.map fun target => restoreSideEffectBackup (backupSideEffectTarget files target),
        ∃ step ∈ part, step.Touches path := by
    intro effect target member found below reached
    obtain ⟨_, listed, again⟩ := Checked.mapM_member resolved member
    cases found.symm.trans again
    exact ⟨_, mem_map_of_mem (mem_dedup.mpr listed), backup_touches below reached⟩
  rcases performs_leaves performed path with same | ⟨effect, member, _, found, changed⟩
  · exact .inl same
  cases effect with
  | writePrompt =>
    cases changed
    exact .inr (touched member found (prefix_refl _) (.inl rfl))
  | removePrompt =>
    cases changed.1
    exact .inr (touched member found (prefix_refl _) (.inl rfl))
  | removeTaskDirectory =>
    by_cases absent : files.get? path = none
    · exact .inl (changed.2.trans absent.symm)
    · exact .inr (touched member found changed.1 (.inr absent))

theorem prepareManifestForWrite_compiles {manifest : Manifest} (prepared : prepareManifestForWrite manifest = .ok ()) :
    ∃ graph, compileTaskGraph manifest = .ok graph ∧ graph.errors = [] := by
  unfold prepareManifestForWrite at prepared
  split at prepared
  · split at prepared
    · cases prepared
    rename_i graph compiled
    split at prepared
    · rename_i clean
      exact ⟨graph, compiled, clean⟩
    · cases prepared
  · cases prepared

/-- A commit that does not succeed leaves the package as it was. One that does was staged from the manifest that it replaces, by one
that compiles without errors; another edit staged from there is committed only if the manifest has not changed. -/
theorem staged_commit_is_atomic (mutation : StagedMutation) (files : PackageFiles) (outcome : CommitOutcome) (left : PackageFiles)
    (reads : format.parse (format.render mutation.nextManifest) = some mutation.nextManifest)
    (ran : CommitsStaged format mutation files outcome left) :
    (outcome ≠ .committed → ∀ path, left.get? path = files.get? path) ∧
      (outcome = .committed → format.load files = some mutation.baseManifest ∧ format.load left = some mutation.nextManifest ∧
        (∃ graph, compileTaskGraph mutation.nextManifest = .ok graph ∧ graph.errors = []) ∧
        ∀ other later, other.baseManifest = mutation.baseManifest → CommitsStaged format other left .committed later →
          mutation.nextManifest = mutation.baseManifest) := by
  cases ran with
  | invalid => exact ⟨fun _ _ => rfl, fun done => nomatch done⟩
  | unreadable => exact ⟨fun _ _ => rfl, fun done => nomatch done⟩
  | baseRejected => exact ⟨fun _ _ => rfl, fun done => nomatch done⟩
  | conflict => exact ⟨fun _ _ => rfl, fun done => nomatch done⟩
  | applied prepared loaded _ ran =>
    cases ran with
    | refused => exact ⟨fun _ _ => rfl, fun done => nomatch done⟩
    | undone resolved performed restored =>
      exact ⟨fun _ path => undone_restores resolved performed restored path, fun done => nomatch done⟩
    | @written targets _ =>
      have stored : format.load (((mutation.sideEffects.zip targets).foldl (fun files step => step.1.perform step.2 files) files).set
          manifestPath (format.render mutation.nextManifest)) = some mutation.nextManifest := by
        rw [PackageFormat.load, get?_set_self]
        exact reads
      refine ⟨fun failed => absurd rfl failed, fun _ => ⟨loaded, stored, ?_, fun other later same again => ?_⟩⟩
      · exact prepareManifestForWrite_compiles prepared
      · cases again with
        | applied _ reloaded => exact Option.some.inj ((stored.symm.trans reloaded).trans (congrArg some same))

def stagedManifest : Manifest :=
  { title := "P", description := "", parallelEnabled := false, maxConcurrent := 1, edges := [], nodes := [
    { id := "T", title := "T", prompt := "T.md", acceptance := ["done"], blocks := [
      { id := "a", type := .implementation none none, title := "a", prompt := "a.md" }] }] }

def stagedText : String := "\x7b\"version\":\"plan-package/v1\"\x7d"

def stagedFormat : PackageFormat where
  resolve path := .ok [path]
  parse text := if text = stagedText then some stagedManifest else none
  render _ := stagedText

def stagedFiles : PackageFiles := ofList [(manifestPath, stagedText), (["T.md"], "Old")]

def promptEdit (markdown : String) : StagedMutation := ⟨stagedManifest, stagedManifest, [.writePrompt "T.md" markdown]⟩

theorem promptEdit_commits (markdown : String) (loaded : stagedFormat.load files = some stagedManifest) :
    CommitsStaged stagedFormat (promptEdit markdown) files .committed
      ((files.set ["T.md"] markdown).set manifestPath stagedText) :=
  .applied (by rfl) loaded (by rfl) (@AppliesWithRollback.written _ _ _ _ [["T.md"]] (by rfl))

theorem prompt_edits_both_commit : ∃ left later,
    CommitsStaged stagedFormat (promptEdit "First") stagedFiles .committed left ∧
      CommitsStaged stagedFormat (promptEdit "Second") left .committed later :=
  ⟨_, _, promptEdit_commits "First" (by rfl), promptEdit_commits "Second" (by rfl)⟩

theorem staged_commit_is_atomic_sample :
    stagedFormat.load ((stagedFiles.set ["T.md"] "First").set manifestPath stagedText) = some stagedManifest :=
  ((staged_commit_is_atomic (promptEdit "First") stagedFiles .committed _ (by rfl) (promptEdit_commits "First" (by rfl))).2 rfl).2.1

end PlanWeave
