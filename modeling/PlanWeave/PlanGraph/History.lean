import PlanWeave.PlanGraph.OperationLog
import PlanWeave.Lib.UndoStack
import Mathlib.Logic.Function.Basic
import Mathlib.Data.List.Induction

namespace PlanWeave
open List OperationLogTable Option PlanGraphCommand

/-- Edits that the log keeps as one entry: an edit and those that continued it. -/
structure EditRun where
  first : OperationLogEntry
  rest : List OperationLogEntry := []

namespace EditRun

def entry (run : EditRun) : OperationLogEntry := run.rest.foldl mergeEntry run.first

def join (run next : EditRun) : Option EditRun :=
  if coalesces run.entry next.first then some { run with rest := run.rest ++ next.first :: next.rest } else none

def SameTarget (run : EditRun) : Prop :=
  ∀ edit ∈ run.rest, ∃ target, promptHistoryTarget run.first.command = some target ∧
    promptHistoryTarget edit.command = some target ∧ run.first.workspaceRef.content = edit.workspaceRef.content

def last (run : EditRun) : OperationLogEntry := run.rest.getLastD run.first

end EditRun

def performHistory (stack : UndoStack EditRun) : LogOperation → UndoStack EditRun
  | .append entry => stack.push EditRun.join { first := entry }
  | .undo applied => if applied then stack.undo else stack
  | .redo applied => if applied then stack.redo else stack

def runHistory (operations : List (Nat × LogOperation)) : UndoStack EditRun :=
  operations.foldl (fun stack timed => performHistory stack timed.2) {}

section
variable {precedes : OperationLogRow → OperationLogRow → Bool} {best : OperationLogRow} {rows : List OperationLogRow}

theorem foldl_rising (rising : (best :: rows).Pairwise (fun row later => precedes later row = true)) :
    rows.foldl (betterRow precedes) (some best) = (best :: rows).getLast? := by
  induction rows generalizing best with
  | nil => rfl
  | cons row _ ih =>
    have newer : precedes row best = true := rel_of_pairwise_cons rising mem_cons_self
    rw [foldl_cons, betterRow, if_pos newer, ih rising.of_cons, getLast?_cons_cons]

theorem firstRow_rising (rising : rows.Pairwise (fun row later => precedes later row = true)) :
    firstRow precedes rows = rows.getLast? := by
  cases rows with
  | nil => rfl
  | cons => exact foldl_rising rising

theorem foldl_falling (falling : ∀ row ∈ rows, precedes row best = false) :
    rows.foldl (betterRow precedes) (some best) = some best := by
  induction rows with
  | nil => rfl
  | cons row _ ih =>
    have older : ¬ precedes row best = true := by simp [falling row mem_cons_self]
    rw [foldl_cons, betterRow, if_neg older]
    exact ih (fun other member => falling other (mem_cons_of_mem _ member))

theorem firstRow_falling (falling : rows.Pairwise (fun row later => precedes later row = false)) :
    firstRow precedes rows = rows.head? := by
  cases rows with
  | nil => rfl
  | cons => exact foldl_falling (fun other member => rel_of_pairwise_cons falling member)
end

structure LogLayout (key : String) (clock : Nat) (table : OperationLogTable) (done undone : List OperationLogRow) : Prop where
  own : table.rows.filter (fun row => row.projectRoot = key) = done.reverse ++ undone
  applied : ∀ row ∈ done, row.undoneAt = none
  reverted : ∀ row ∈ undone, ∃ time, time ≤ clock ∧ row.undoneAt = some time
  increasing : ((done.reverse ++ undone).map OperationLogRow.id).Pairwise (· < ·)
  bounded : ∀ id ∈ (done.reverse ++ undone).map OperationLogRow.id, id ≤ table.sequence
  recent : undone.Pairwise (fun row earlier => earlier.undoneAt.getD 0 ≤ row.undoneAt.getD 0)

variable {entry : OperationLogEntry} {command : PlanGraphCommand} {target : String}

namespace LogLayout
variable {key : String} {clock : Nat} {table : OperationLogTable} {done undone : List OperationLogRow}

section
variable (layout : LogLayout key clock table done undone)
include layout

theorem filter_applied :
    table.rows.filter (fun row => row.projectRoot = key && row.undoneAt.isNone) = done.reverse := by
  rw [← List.filter_filter, List.filter_comm, layout.own, List.filter_append]
  have kept : done.reverse.filter (fun row => row.undoneAt.isNone) = done.reverse := by
    apply List.filter_eq_self.mpr
    intro row member
    rw [layout.applied row (List.mem_reverse.mp member)]
    rfl
  have dropped : undone.filter (fun row => row.undoneAt.isNone) = [] := by
    apply List.filter_eq_nil_iff.mpr
    intro row member
    obtain ⟨_, _, stamped⟩ := layout.reverted row member
    simp [stamped]
  rw [kept, dropped, List.append_nil]

theorem filter_reverted : table.rows.filter (fun row => row.projectRoot = key && row.undoneAt.isSome) = undone := by
  rw [← List.filter_filter, List.filter_comm, layout.own, List.filter_append]
  have dropped : done.reverse.filter (fun row => row.undoneAt.isSome) = [] := by
    apply List.filter_eq_nil_iff.mpr
    intro row member
    simp [layout.applied row (List.mem_reverse.mp member)]
  have kept : undone.filter (fun row => row.undoneAt.isSome) = undone := by
    apply List.filter_eq_self.mpr
    intro row member
    obtain ⟨_, _, stamped⟩ := layout.reverted row member
    rw [stamped]
    rfl
  rw [kept, dropped, List.nil_append]

theorem latestUndoable : table.latestUndoable key = done.head? := by
  unfold OperationLogTable.latestUndoable
  rw [layout.filter_applied, firstRow_rising, getLast?_reverse]
  apply (pairwise_append.mp (pairwise_map.mp layout.increasing)).1.imp
  intro row later older
  simpa [newerRow] using older

theorem latestRedoable : table.latestRedoable key = undone.head? := by
  unfold OperationLogTable.latestRedoable
  rw [layout.filter_reverted, firstRow_falling]
  have ids := (pairwise_append.mp (pairwise_map.mp layout.increasing)).2.1
  apply (layout.recent.and ids).imp
  intro row earlier both
  unfold laterUndone
  simp only [Bool.or_eq_false_iff, decide_eq_false_iff_not, Bool.and_eq_false_iff]
  exact ⟨by omega, .inr (by omega)⟩
end

theorem own_update {id : Nat} {change : OperationLogRow → OperationLogRow}
    (same : ∀ row, (change row).projectRoot = row.projectRoot) :
    (table.update key id change).rows.filter (fun row => row.projectRoot = key) =
      (table.rows.filter (fun row => row.projectRoot = key)).map (fun row => if row.id = id then change row else row) := by
  unfold update
  induction table.rows with
  | nil => rfl
  | cons row _ ih =>
    by_cases mine : row.projectRoot = key
    · by_cases chosen : row.id = id <;> simp [mine, chosen, same, ih]
    · simp [mine, ih]

variable {row : OperationLogRow}

theorem map_change {before after : List OperationLogRow}
    (increasing : ((before ++ row :: after).map OperationLogRow.id).Pairwise (· < ·))
    (change : OperationLogRow → OperationLogRow) :
    (before ++ row :: after).map (fun other => if other.id = row.id then change other else other) =
      before ++ change row :: after := by
  obtain ⟨_, upper, across⟩ := pairwise_append.mp (pairwise_map.mp increasing)
  have earlier : before.map (fun other => if other.id = row.id then change other else other) = before := by
    refine (map_congr_left ?_).trans (map_id before)
    intro other member
    have smaller := across other member row mem_cons_self
    rw [if_neg (by omega), id_eq]
  have later : after.map (fun other => if other.id = row.id then change other else other) = after := by
    refine (map_congr_left ?_).trans (map_id after)
    intro other member
    have larger := rel_of_pairwise_cons upper member
    rw [if_neg (by omega), id_eq]
  rw [map_append, map_cons, earlier, later, if_pos rfl]

section
variable (layout : LogLayout key clock table (row :: done) undone)
include layout

theorem own_cons : table.rows.filter (fun row => row.projectRoot = key) = done.reverse ++ row :: undone := by
  rw [layout.own, reverse_cons, append_assoc]
  rfl

theorem increasing_cons : ((done.reverse ++ row :: undone).map OperationLogRow.id).Pairwise (· < ·) := by
  have increasing := layout.increasing
  rwa [reverse_cons, append_assoc, singleton_append] at increasing

theorem bounded_cons : ∀ id ∈ (done.reverse ++ row :: undone).map OperationLogRow.id, id ≤ table.sequence := by
  have bounded := layout.bounded
  rwa [reverse_cons, append_assoc, singleton_append] at bounded

theorem undo {now : Nat} (later : clock ≤ now) :
    LogLayout key now (table.markUndone key row.id now) done ({ row with undoneAt := some now } :: undone) := by
  refine ⟨?_, ?_, ?_, ?_, ?_, ?_⟩
  · unfold markUndone
    rw [own_update, layout.own_cons, map_change layout.increasing_cons]
    exact fun _ => rfl
  · exact fun other member => layout.applied other (mem_cons_of_mem _ member)
  · intro other member
    rcases mem_cons.mp member with rfl | earlier
    · exact ⟨now, le_refl now, rfl⟩
    · obtain ⟨time, _, stamped⟩ := layout.reverted other earlier
      exact ⟨time, by omega, stamped⟩
  · have increasing := layout.increasing_cons
    simpa using increasing
  · have bounded := layout.bounded_cons
    simpa [markUndone, update] using bounded
  · refine List.Pairwise.cons ?_ layout.recent
    intro other member
    obtain ⟨_, _, stamped⟩ := layout.reverted other member
    simp only [stamped, getD_some]
    omega
end

variable {now : Nat}

theorem redo (layout : LogLayout key clock table done (row :: undone)) (later : clock ≤ now) :
    LogLayout key now (table.markRedone key row.id) ({ row with undoneAt := none } :: done) undone := by
  refine ⟨?_, ?_, ?_, ?_, ?_, ?_⟩
  · unfold markRedone
    rw [own_update, layout.own, map_change layout.increasing, reverse_cons, append_assoc]
    · rfl
    · exact fun _ => rfl
  · intro other member
    rcases mem_cons.mp member with rfl | earlier
    · rfl
    · exact layout.applied other earlier
  · intro other member
    obtain ⟨time, _, stamped⟩ := layout.reverted other (mem_cons_of_mem _ member)
    exact ⟨time, by omega, stamped⟩
  · have increasing := layout.increasing
    simpa using increasing
  · have bounded := layout.bounded
    simpa [markRedone, update] using bounded
  · exact layout.recent.of_cons

theorem withoutUndone (layout : LogLayout key clock table done undone) :
    LogLayout key now (table.withoutUndone key) done [] := by
  have own : (table.withoutUndone key).rows.filter (fun row => row.projectRoot = key) = done.reverse := by
    unfold OperationLogTable.withoutUndone
    rw [List.filter_filter, ← layout.filter_applied]
    apply List.filter_congr
    intro row _
    by_cases mine : row.projectRoot = key <;> cases row.undoneAt <;> simp [mine]
  refine ⟨by simpa using own, layout.applied, by simp, ?_, ?_, List.Pairwise.nil⟩
  · have increasing := layout.increasing
    rw [List.map_append] at increasing
    simpa using (List.pairwise_append.mp increasing).1
  · intro id member
    apply layout.bounded id
    rw [List.map_append]
    exact List.mem_append_left _ (by simpa using member)

theorem insert (layout : LogLayout key now table done []) (entry : OperationLogEntry) :
    ∃ row, row.entry = entry ∧ LogLayout key now (table.insert key entry now) (row :: done) [] := by
  refine ⟨{ id := table.sequence + 1, projectRoot := key, entry, createdAt := now }, rfl, ?_, ?_, by simp, ?_, ?_,
    List.Pairwise.nil⟩
  · unfold OperationLogTable.insert
    rw [filter_append, layout.own]
    simp
  · intro other member
    rcases mem_cons.mp member with rfl | earlier
    · rfl
    · exact layout.applied other earlier
  · have increasing := layout.increasing
    have bounded := layout.bounded
    rw [append_nil] at increasing bounded ⊢
    rw [reverse_cons, map_append, pairwise_append]
    refine ⟨increasing, pairwise_singleton _ _, ?_⟩
    intro id member new fresh
    have small := bounded id member
    simp only [map_cons, map_nil, mem_singleton] at fresh
    omega
  · intro id member
    have bounded := layout.bounded
    simp only [reverse_cons, append_nil, map_append, map_cons, map_nil, mem_append,
      mem_singleton] at member bounded
    unfold OperationLogTable.insert
    rcases member with earlier | _
    · have small := bounded id earlier
      simp only
      omega
    · simp only
      omega

theorem merge (layout : LogLayout key now table (row :: done) undone) :
    LogLayout key now (table.update key row.id (fun row => { row with entry := mergeEntry row.entry entry }))
      ({ row with entry := mergeEntry row.entry entry } :: done) undone := by
  refine ⟨?_, ?_, layout.reverted, ?_, ?_, layout.recent⟩
  · rw [own_update, layout.own_cons, map_change layout.increasing_cons, reverse_cons, append_assoc]
    · rfl
    · exact fun _ => rfl
  · intro other member
    rcases mem_cons.mp member with rfl | earlier
    · exact layout.applied row mem_cons_self
    · exact layout.applied other (mem_cons_of_mem _ earlier)
  · have increasing := layout.increasing
    simpa using increasing
  · have bounded := layout.bounded
    simpa [update] using bounded

end LogLayout

def LogHolds (key : String) (clock : Nat) (table : OperationLogTable) (stack : UndoStack EditRun) : Prop :=
  ∃ done undone, LogLayout key clock table done undone ∧
    done.map OperationLogRow.entry = stack.done.map EditRun.entry ∧
    undone.map OperationLogRow.entry = stack.undone.map EditRun.entry

section
variable {key : String} {clock now : Nat} {table : OperationLogTable} {stack : UndoStack EditRun}

theorem LogHolds.latest (holds : LogHolds key clock table stack) :
    (table.latestUndoable key).map OperationLogRow.entry = stack.done.head?.map EditRun.entry ∧
      (table.latestRedoable key).map OperationLogRow.entry = stack.undone.head?.map EditRun.entry := by
  obtain ⟨_, _, layout, doneEntries, undoneEntries⟩ := holds
  rw [layout.latestUndoable, layout.latestRedoable, ← head?_map, ← head?_map, ← head?_map,
    ← head?_map, doneEntries, undoneEntries]
  exact ⟨rfl, rfl⟩

theorem EditRun.join_entry {run joined : EditRun} (together : run.join { first := entry } = some joined) :
    coalesces run.entry entry = true ∧ joined.entry = mergeEntry run.entry entry := by
  unfold EditRun.join at together
  split at together
  · rename_i same
    cases together
    refine ⟨same, ?_⟩
    simp [EditRun.entry, foldl_append]
  · cases together

theorem LogHolds.append (holds : LogHolds key clock table stack) (entry : OperationLogEntry) :
    LogHolds key now (table.append key entry now) (stack.push EditRun.join { first := entry }) := by
  obtain ⟨done, _, layout, doneEntries, _⟩ := holds
  have kept : LogLayout key now (table.withoutUndone key) done [] := layout.withoutUndone
  unfold OperationLogTable.append UndoStack.push
  simp only
  rw [kept.latestUndoable]
  cases done with
  | nil =>
    have empty : stack.done = [] := map_eq_nil_iff.mp doneEntries.symm
    obtain ⟨row, same, inserted⟩ := kept.insert entry
    rw [empty]
    exact ⟨[row], [], inserted, by simp [same, EditRun.entry], rfl⟩
  | cons latest earlier =>
    cases runs : stack.done with
    | nil => simp [runs] at doneEntries
    | cons run =>
      rw [runs, map_cons, map_cons, List.cons.injEq] at doneEntries
      obtain ⟨sameLatest, sameEarlier⟩ := doneEntries
      simp only [head?_cons]
      rw [sameLatest]
      cases joined : run.join { first := entry } with
      | some =>
        obtain ⟨same, merged⟩ := EditRun.join_entry joined
        rw [if_pos same]
        exact ⟨_, [], kept.merge, by simp [sameLatest, merged, sameEarlier], rfl⟩
      | none =>
        have apart : ¬ coalesces run.entry entry = true := by
          intro same
          simp [EditRun.join, same] at joined
        rw [if_neg apart]
        obtain ⟨row, same, inserted⟩ := kept.insert entry
        exact ⟨row :: latest :: earlier, [], inserted, by simp [same, EditRun.entry, sameLatest, sameEarlier], rfl⟩

theorem LogLayout.later {done undone : List OperationLogRow} (layout : LogLayout key clock table done undone)
    (later : clock ≤ now) : LogLayout key now table done undone := by
  refine ⟨layout.own, layout.applied, ?_, layout.increasing, layout.bounded, layout.recent⟩
  intro row member
  obtain ⟨time, _, stamped⟩ := layout.reverted row member
  exact ⟨time, by omega, stamped⟩

theorem LogHolds.later (holds : LogHolds key clock table stack) (later : clock ≤ now) : LogHolds key now table stack := by
  obtain ⟨done, undone, layout, entries⟩ := holds
  exact ⟨done, undone, layout.later later, entries⟩

section
variable (holds : LogHolds key clock table stack)
include holds

theorem LogHolds.undo (later : clock ≤ now) (applied : Bool) :
    LogHolds key now (performLog key table now (.undo applied)) (performHistory stack (.undo applied)) := by
  have waits := holds.later later
  obtain ⟨done, _, layout, doneEntries, undoneEntries⟩ := holds
  unfold performLog performHistory
  rw [layout.latestUndoable]
  cases done with
  | nil =>
    have empty : stack.done = [] := map_eq_nil_iff.mp doneEntries.symm
    have same : stack.undo = stack := by
      unfold UndoStack.undo
      rw [empty]
    simpa [same] using waits
  | cons _ rest =>
    cases applied with
    | false => simpa using waits
    | true =>
      cases runs : stack.done with
      | nil => simp [runs] at doneEntries
      | cons =>
        rw [runs, map_cons, map_cons, List.cons.injEq] at doneEntries
        refine ⟨rest, _, layout.undo later, ?_, ?_⟩
        · simp [UndoStack.undo, runs, doneEntries.2]
        · simp [UndoStack.undo, runs, doneEntries.1, undoneEntries]

theorem LogHolds.redo (later : clock ≤ now) (applied : Bool) :
    LogHolds key now (performLog key table now (.redo applied)) (performHistory stack (.redo applied)) := by
  have waits := holds.later later
  obtain ⟨_, undone, layout, doneEntries, undoneEntries⟩ := holds
  unfold performLog performHistory
  rw [layout.latestRedoable]
  cases undone with
  | nil =>
    have empty : stack.undone = [] := map_eq_nil_iff.mp undoneEntries.symm
    have same : stack.redo = stack := by
      unfold UndoStack.redo
      rw [empty]
    simpa [same] using waits
  | cons _ rest =>
    cases applied with
    | false => simpa using waits
    | true =>
      cases runs : stack.undone with
      | nil => simp [runs] at undoneEntries
      | cons =>
        rw [runs, map_cons, map_cons, List.cons.injEq] at undoneEntries
        refine ⟨_, rest, layout.redo later, ?_, ?_⟩
        · simp [UndoStack.redo, runs, undoneEntries.1, doneEntries]
        · simp [UndoStack.redo, runs, undoneEntries.2]

theorem LogHolds.perform (later : clock ≤ now) (operation : LogOperation) :
    LogHolds key now (performLog key table now operation) (performHistory stack operation) := by
  cases operation with
  | append entry => exact holds.append entry
  | undo applied => exact holds.undo later applied
  | redo applied => exact holds.redo later applied

theorem LogHolds.run {operations : List (Nat × LogOperation)}
    (clocked : (clock :: operations.map Prod.fst).Pairwise (· ≤ ·)) :
    ∃ reached, LogHolds key reached (runLog key table operations)
      (operations.foldl (fun stack timed => performHistory stack timed.2) stack) := by
  induction operations generalizing clock table stack with
  | nil => exact ⟨clock, holds⟩
  | cons timed _ ih =>
    have later : clock ≤ timed.1 := rel_of_pairwise_cons clocked (by simp)
    exact ih (holds.perform later timed.2) clocked.of_cons
end
end

theorem EditRun.entry_append (first : OperationLogEntry) (rest : List OperationLogEntry) (edit : OperationLogEntry) :
    EditRun.entry { first, rest := rest ++ [edit] } = mergeEntry (EditRun.entry { first, rest }) edit := by
  simp [EditRun.entry, foldl_append]

theorem EditRun.entry_ends (run : EditRun) :
    run.entry.workspaceRef = run.first.workspaceRef ∧ run.entry.inverse = run.first.inverse ∧
      run.entry.graphVersionBefore = run.first.graphVersionBefore ∧ run.entry.command = run.last.command ∧
      run.entry.graphVersionAfter = run.last.graphVersionAfter := by
  obtain ⟨_, rest⟩ := run
  induction rest using List.reverseRecOn with
  | nil => exact ⟨rfl, rfl, rfl, rfl, rfl⟩
  | append_singleton _ _ ih =>
    rw [EditRun.entry_append]
    refine ⟨ih.1, ih.2.1, ih.2.2.1, ?_, ?_⟩ <;> simp [EditRun.last, mergeEntry]

theorem EditRun.last_mem (run : EditRun) : run.last = run.first ∨ run.last ∈ run.rest := by
  unfold EditRun.last
  cases rest : run.rest with
  | nil => exact .inl rfl
  | cons edit others =>
    rw [getLastD_cons, ← getLast_eq_getLastD (cons_ne_nil edit others)]
    exact .inr (getLast_mem _)

theorem EditRun.SameTarget.last {run : EditRun} (same : run.SameTarget) :
    promptHistoryTarget run.last.command = promptHistoryTarget run.first.command := by
  rcases run.last_mem with first | later
  · rw [first]
  · obtain ⟨_, first, last, _⟩ := same run.last later
    rw [first, last]

theorem EditRun.SameTarget.join {run joined : EditRun} (same : run.SameTarget)
    (together : run.join { first := entry } = some joined) : joined.SameTarget := by
  unfold EditRun.join at together
  split at together
  · rename_i matching
    cases together
    simp only [coalesces, Bool.and_eq_true, decide_eq_true_eq, sameWorkspaceRef] at matching
    obtain ⟨⟨some', target⟩, workspace⟩ := matching
    obtain ⟨found, isTarget⟩ := isSome_iff_exists.mp some'
    obtain ⟨firstWorkspace, _, _, lastCommand, _⟩ := run.entry_ends
    intro edit member
    rcases mem_append.mp member with earlier | new
    · exact same edit earlier
    · rw [mem_singleton] at new
      subst new
      refine ⟨found, ?_, isTarget, firstWorkspace ▸ workspace⟩
      rw [← same.last, ← lastCommand, target, isTarget]
  · cases together

theorem performHistory_sameTarget {stack : UndoStack EditRun} (all : stack.All EditRun.SameTarget)
    (operation : LogOperation) : (performHistory stack operation).All EditRun.SameTarget := by
  cases operation with
  | append =>
    exact all.push (fun edit member => absurd member not_mem_nil) (fun _ _ same together => same.join together)
  | undo applied =>
    cases applied with
    | false => exact all
    | true => exact all.undo
  | redo applied =>
    cases applied with
    | false => exact all
    | true => exact all.redo

theorem foldl_sameTarget {stack : UndoStack EditRun} (all : stack.All EditRun.SameTarget)
    (operations : List (Nat × LogOperation)) :
    (operations.foldl (fun stack timed => performHistory stack timed.2) stack).All EditRun.SameTarget := by
  induction operations generalizing stack with
  | nil => exact all
  | cons timed _ ih => exact ih (performHistory_sameTarget all timed.2)

abbrev PromptContents := String × String → String

def writePrompt (promptPath : String → String) (workspaceRef : PackageWorkspaceRef) (contents : PromptContents)
    (command : PlanGraphCommand) : PromptContents :=
  match promptHistoryTarget command, command.promptMarkdown with
  | some target, some text => Function.update contents (workspaceRef.content, promptPath target) text
  | _, _ => contents

def EditRun.written (promptPath : String → String) (run : EditRun) (contents : PromptContents) : PromptContents :=
  (run.first :: run.rest).foldl (fun contents edit => writePrompt promptPath edit.workspaceRef contents edit.command)
    contents

theorem promptMarkdown_of_target
    (found : promptHistoryTarget command = some target) : ∃ text, command.promptMarkdown = some text := by
  unfold promptHistoryTarget at found
  unfold promptMarkdown
  split at found
  · exact ⟨_, rfl⟩
  · exact ⟨_, rfl⟩
  · split at found
    · rename_i _ only
      simp only [TaskFields.onlyPrompt, Bool.and_eq_true] at only
      exact isSome_iff_exists.mp only.1.1.1
    · cases found
  · split at found
    · rename_i _ only
      simp only [BlockFields.onlyPrompt, Bool.and_eq_true] at only
      exact isSome_iff_exists.mp only.1.1.1.1.1.1.1.1
    · cases found
  · cases found

theorem inversePromptCommand_edit (content : String) (found : promptHistoryTarget command = some target) :
    promptHistoryTarget (inversePromptCommand content command) = some target ∧
      (inversePromptCommand content command).promptMarkdown = some content := by
  unfold promptHistoryTarget at found
  split at found
  · rename_i edit
    simpa [inversePromptCommand, edit, promptHistoryTarget, promptMarkdown] using found
  · rename_i edit
    simpa [inversePromptCommand, edit, promptHistoryTarget, promptMarkdown] using found
  · rename_i edit
    split at found
    · simpa [inversePromptCommand, edit, promptHistoryTarget, promptMarkdown, TaskFields.onlyPrompt]
        using found
    · cases found
  · rename_i edit
    split at found
    · simpa [inversePromptCommand, edit, promptHistoryTarget, promptMarkdown, BlockFields.onlyPrompt]
        using found
    · cases found
  · cases found

variable {promptPath : String → String}

theorem writePrompt_target {workspaceRef : PackageWorkspaceRef} {contents : PromptContents}
    {text : String} (found : promptHistoryTarget command = some target) (writes : command.promptMarkdown = some text) :
    writePrompt promptPath workspaceRef contents command =
      Function.update contents (workspaceRef.content, promptPath target) text := by
  unfold writePrompt
  rw [found, writes]

theorem EditRun.written_eq {run : EditRun} (before : PromptContents)
    (same : run.SameTarget) (found : promptHistoryTarget run.first.command = some target) :
    ∃ text, run.last.command.promptMarkdown = some text ∧ run.written promptPath before =
      Function.update before (run.first.workspaceRef.content, promptPath target) text := by
  obtain ⟨first, rest⟩ := run
  simp only at found
  induction rest using List.reverseRecOn with
  | nil =>
    obtain ⟨text, writes⟩ := promptMarkdown_of_target found
    exact ⟨text, writes, writePrompt_target found writes⟩
  | append_singleton rest edit ih =>
    have earlier : EditRun.SameTarget { first, rest } := fun other member => same other (mem_append_left _ member)
    obtain ⟨_, _, written⟩ := ih earlier
    obtain ⟨other, sameFirst, sameEdit, workspace⟩ := same edit (mem_append_right _ mem_cons_self)
    have isTarget : other = target := Option.some.inj (sameFirst.symm.trans found)
    subst isTarget
    obtain ⟨text, writes⟩ := promptMarkdown_of_target sameEdit
    refine ⟨text, by simpa [EditRun.last] using writes, ?_⟩
    have step : EditRun.written promptPath { first, rest := rest ++ [edit] } before = writePrompt promptPath
        edit.workspaceRef (EditRun.written promptPath { first, rest } before) edit.command := by
      simp [EditRun.written, foldl_append]
    rw [step, written, writePrompt_target sameEdit writes, ← workspace, Function.update_idem]

/-- Undoing a run restores the prompts from before its first edit; redoing it writes those after its last one. -/
theorem EditRun.undo_redo {run : EditRun} {before : PromptContents}
    (same : run.SameTarget) (found : promptHistoryTarget run.first.command = some target)
    (recorded : run.first.inverse = [inversePromptCommand
      (before (run.first.workspaceRef.content, promptPath target)) run.first.command]) :
    run.entry.inverse.foldl (writePrompt promptPath run.entry.workspaceRef) (run.written promptPath before) = before ∧
      writePrompt promptPath run.entry.workspaceRef before run.entry.command = run.written promptPath before := by
  obtain ⟨workspace, inverse, _, command, _⟩ := run.entry_ends
  obtain ⟨_, writes, written⟩ := @EditRun.written_eq target promptPath run before same found
  rw [workspace, inverse, command, recorded, written]
  refine ⟨?_, ?_⟩
  · obtain ⟨back, old⟩ := inversePromptCommand_edit (before (run.first.workspaceRef.content, promptPath target)) found
    rw [foldl_cons, foldl_nil, writePrompt_target back old, Function.update_idem, Function.update_eq_self]
  · exact writePrompt_target (same.last.trans found) writes

structure EditRun.Faithful (run : EditRun) : Prop where
  target : run.SameTarget
  before : run.entry.graphVersionBefore = run.first.graphVersionBefore
  after : run.entry.graphVersionAfter = run.last.graphVersionAfter
  content : ∀ promptPath target before, promptHistoryTarget run.first.command = some target →
    run.first.inverse = [inversePromptCommand (before (run.first.workspaceRef.content, promptPath target))
      run.first.command] →
    run.entry.inverse.foldl (writePrompt promptPath run.entry.workspaceRef) (run.written promptPath before) = before ∧
    writePrompt promptPath run.entry.workspaceRef before run.entry.command = run.written promptPath before

theorem EditRun.SameTarget.faithful {run : EditRun} (same : run.SameTarget) : run.Faithful := by
  obtain ⟨_, _, versionBefore, _, versionAfter⟩ := run.entry_ends
  exact ⟨same, versionBefore, versionAfter, fun _ _ _ found recorded => EditRun.undo_redo same found recorded⟩

/-- The log is a pair of stacks of edit runs, and the two queries return their tops. -/
theorem operation_log_is_undo_stack {key : String} {table : OperationLogTable} {operations : List (Nat × LogOperation)}
    (fresh : ∀ row ∈ table.rows, row.projectRoot ≠ key) (clocked : (operations.map Prod.fst).Pairwise (· ≤ ·)) :
    ((runLog key table operations).latestUndoable key).map OperationLogRow.entry =
      (runHistory operations).done.head?.map EditRun.entry ∧
    ((runLog key table operations).latestRedoable key).map OperationLogRow.entry =
      (runHistory operations).undone.head?.map EditRun.entry ∧
    (runHistory operations).All EditRun.Faithful := by
  have start : LogHolds key 0 table {} := by
    have empty : table.rows.filter (fun row => row.projectRoot = key) = [] := by
      apply filter_eq_nil_iff.mpr
      intro row member
      simpa using fresh row member
    exact ⟨[], [], ⟨by simpa using empty, by simp, by simp, by simp, by simp, by simp⟩, rfl, rfl⟩
  obtain ⟨_, holds⟩ := start.run (List.Pairwise.cons (fun _ _ => Nat.zero_le _) clocked)
  obtain ⟨undoable, redoable⟩ := holds.latest
  have all : (runHistory operations).All EditRun.SameTarget := foldl_sameTarget ⟨by simp, by simp⟩ operations
  exact ⟨undoable, redoable, fun run member => (all.1 run member).faithful, fun run member => (all.2 run member).faithful⟩

def samplePromptEdit (before after old new : String) : OperationLogEntry where
  workspaceRef := { content := "workspace" }
  graphVersionBefore := before
  graphVersionAfter := after
  command := { edit := .updateTaskPrompt "T-001" new none }
  inverse := [{ edit := .updateTaskPrompt "T-001" old none }]

def sampleTitleEdit : OperationLogEntry where
  workspaceRef := { content := "workspace" }
  graphVersionBefore := "v1"
  graphVersionAfter := "v2"
  command := { edit := .updateTaskFields "T-001" { title := some "New title" } }
  inverse := [{ edit := .updateTaskFields "T-001" { title := some "Title" } }]

def editsAroundUndo : List (Nat × LogOperation) :=
  [(1, .append (samplePromptEdit "v0" "v1" "a" "b")), (2, .append sampleTitleEdit), (3, .undo true),
    (4, .append (samplePromptEdit "v1" "v3" "b" "c"))]

theorem operation_log_is_undo_stack_sample :
    ((runLog "/project" {} editsAroundUndo).latestUndoable "/project").map OperationLogRow.entry =
      (runHistory editsAroundUndo).done.head?.map EditRun.entry :=
  (operation_log_is_undo_stack (fun _ member => absurd member not_mem_nil) (by decide)).1

theorem prompt_edits_merge_across_undone_entry :
    (runLog "/project" {} editsAroundUndo).rows.map OperationLogRow.entry =
      [mergeEntry (samplePromptEdit "v0" "v1" "a" "b") (samplePromptEdit "v1" "v3" "b" "c")] := by
  decide +kernel

end PlanWeave
