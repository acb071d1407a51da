import PlanWeave.PlanGraph.Commands

namespace PlanWeave

/-- A package workspace: the stable JSON of its fields without the results storage, and the results storage. -/
structure PackageWorkspaceRef where
  content : String
  resultsStorageIdentity : Option String := none
deriving DecidableEq

def sameWorkspaceRef (left right : PackageWorkspaceRef) : Bool := left.content = right.content

structure OperationLogEntry where
  workspaceRef : PackageWorkspaceRef
  graphVersionBefore : String
  graphVersionAfter : String
  command : PlanGraphCommand
  inverse : List PlanGraphCommand
  affected : AffectedRefs := {}
deriving DecidableEq

/-- A row of `operation_log`; times are those of the ISO strings, which sort as the times do. -/
structure OperationLogRow where
  id : Nat
  projectRoot : String
  entry : OperationLogEntry
  createdAt : Nat
  undoneAt : Option Nat := none
deriving DecidableEq

structure OperationLogTable where
  rows : List OperationLogRow := []
  sequence : Nat := 0
deriving DecidableEq

def betterRow (precedes : OperationLogRow → OperationLogRow → Bool) (best : Option OperationLogRow)
    (row : OperationLogRow) : Option OperationLogRow :=
  match best with
  | none => some row
  | some current => if precedes row current then some row else some current

/-- `ORDER BY … LIMIT 1`. -/
def firstRow (precedes : OperationLogRow → OperationLogRow → Bool) (rows : List OperationLogRow) : Option OperationLogRow :=
  rows.foldl (betterRow precedes) none

def newerRow (row other : OperationLogRow) : Bool := other.id < row.id

/-- `undone_at DESC, id ASC`. -/
def laterUndone (row other : OperationLogRow) : Bool :=
  other.undoneAt.getD 0 < row.undoneAt.getD 0 || (other.undoneAt = row.undoneAt && row.id < other.id)

def mergeAffectedRefs (left right : AffectedRefs) : AffectedRefs where
  canvases := (left.canvases ++ right.canvases).eraseDups
  tasks := (left.tasks ++ right.tasks).eraseDups
  blocks := (left.blocks ++ right.blocks).eraseDups
  prompts := (left.prompts ++ right.prompts).eraseDups
  packageFiles := (left.packageFiles ++ right.packageFiles).eraseDups

/-- The row of an edit that continues the last one: the inverse and the version before it stay. -/
def mergeEntry (earlier later : OperationLogEntry) : OperationLogEntry :=
  { earlier with
    graphVersionAfter := later.graphVersionAfter
    command := later.command
    affected := mergeAffectedRefs earlier.affected later.affected }

def coalesces (earlier later : OperationLogEntry) : Bool :=
  (promptHistoryTarget later.command).isSome &&
    promptHistoryTarget earlier.command = promptHistoryTarget later.command &&
    sameWorkspaceRef earlier.workspaceRef later.workspaceRef

namespace OperationLogTable

def latestUndoable (table : OperationLogTable) (key : String) : Option OperationLogRow :=
  firstRow newerRow (table.rows.filter (fun row => row.projectRoot = key && row.undoneAt.isNone))

def latestRedoable (table : OperationLogTable) (key : String) : Option OperationLogRow :=
  firstRow laterUndone (table.rows.filter (fun row => row.projectRoot = key && row.undoneAt.isSome))

def update (table : OperationLogTable) (key : String) (id : Nat) (change : OperationLogRow → OperationLogRow) :
    OperationLogTable :=
  { table with rows := table.rows.map (fun row => if row.id = id ∧ row.projectRoot = key then change row else row) }

def insert (table : OperationLogTable) (key : String) (entry : OperationLogEntry) (now : Nat) : OperationLogTable where
  rows := table.rows ++ [{ id := table.sequence + 1, projectRoot := key, entry, createdAt := now }]
  sequence := table.sequence + 1

def withoutUndone (table : OperationLogTable) (key : String) : OperationLogTable :=
  { table with rows := table.rows.filter (fun row => !(row.projectRoot = key && row.undoneAt.isSome)) }

def append (table : OperationLogTable) (key : String) (entry : OperationLogEntry) (now : Nat) : OperationLogTable :=
  let kept := table.withoutUndone key
  match kept.latestUndoable key with
  | none => kept.insert key entry now
  | some latest =>
    if coalesces latest.entry entry then
      kept.update key latest.id (fun row => { row with entry := mergeEntry row.entry entry })
    else kept.insert key entry now

def markUndone (table : OperationLogTable) (key : String) (id now : Nat) : OperationLogTable :=
  table.update key id (fun row => { row with undoneAt := some now })

def markRedone (table : OperationLogTable) (key : String) (id : Nat) : OperationLogTable :=
  table.update key id (fun row => { row with undoneAt := none })

end OperationLogTable

/-- What the executor does with the log. An undo or a redo whose commands are refused leaves it alone. -/
inductive LogOperation where
  | append (entry : OperationLogEntry)
  | undo (applied : Bool)
  | redo (applied : Bool)

def performLog (key : String) (table : OperationLogTable) (now : Nat) : LogOperation → OperationLogTable
  | .append entry => table.append key entry now
  | .undo applied =>
    match table.latestUndoable key with
    | some row => if applied then table.markUndone key row.id now else table
    | none => table
  | .redo applied =>
    match table.latestRedoable key with
    | some row => if applied then table.markRedone key row.id else table
    | none => table

def runLog (key : String) (table : OperationLogTable) (operations : List (Nat × LogOperation)) : OperationLogTable :=
  operations.foldl (fun reached timed => performLog key reached timed.1 timed.2) table

end PlanWeave
