import PlanWeave.Lib.Text

namespace PlanWeave
open List String

structure ReviewHook where
  id : String
  command : String
  args : List String
deriving DecidableEq

inductive ReviewTriggerCondition where
  | afterRequiredWorkCompleted
  | manual
deriving DecidableEq

structure ReviewSettings where
  required : Bool := true
  maxFeedbackCycles : Nat := 1
  preset : Option String := none
  triggerCondition : Option ReviewTriggerCondition := none
  inputContext : Option String := none
  passCriteria : Option String := none
  feedbackFormat : Option String := none
  hook : Option ReviewHook := none
deriving DecidableEq

/-- What the two block types do not share: `requirements.capabilities` and
`parallel.sharedResources` of an implementation, the settings of a review. -/
inductive BlockType where
  | implementation (requirements : Option (List String)) (sharedResources : Option (List String))
  | review (settings : ReviewSettings)
deriving DecidableEq

structure ManifestBlock where
  id : String
  type : BlockType
  title : String
  prompt : String
  dependsOn : List String := []
  executor : Option String := none
deriving DecidableEq

def ManifestBlock.isReview (block : ManifestBlock) : Bool :=
  match block.type with
  | .review _ => true
  | .implementation _ _ => false

def ManifestBlock.isImplementation (block : ManifestBlock) : Bool := !block.isReview

structure ManifestTask where
  id : String
  title : String
  prompt : String
  executor : Option String := none
  acceptance : List String
  blocks : List ManifestBlock
deriving DecidableEq

/-- A `depends_on` edge, the only edge type of the plan package format. -/
structure ManifestEdge where
  source : String
  target : String
deriving DecidableEq

structure Manifest where
  title : String
  description : String
  defaultExecutor : Option String := none
  parallelEnabled : Bool
  maxConcurrent : Nat
  maxFeedbackCycles : Nat := 1
  executors : List String := []
  nodes : List ManifestTask
  edges : List ManifestEdge
deriving DecidableEq

structure Issue where
  code : String
  message : String
  path : Option String
deriving DecidableEq

def issue (code message path : String) : Issue := ⟨code, message, some path⟩

def blockRef (taskId blockId : String) : String := taskId ++ "#" ++ blockId

def parseBlockRef (ref : String) : Except String (String × String) :=
  match Text.pieces '#' ref.toList with
  | [taskId, blockId] =>
    if taskId = [] ∨ blockId = [] then
      .error s!"Invalid block ref '{ref}'. Expected '<task-id>#<block-id>'."
    else .ok (ofList taskId, ofList blockId)
  | _ => .error s!"Invalid block ref '{ref}'. Expected '<task-id>#<block-id>'."

/-- An id that a block ref can carry. -/
def PlainId (id : String) : Prop := id ≠ "" ∧ '#' ∉ id.toList

instance (id : String) : Decidable (PlainId id) := inferInstanceAs (Decidable (_ ∧ _))

theorem blockRef_toList (taskId blockId : String) :
    (blockRef taskId blockId).toList = taskId.toList ++ '#' :: blockId.toList := by
  simp [blockRef, toList_append]

variable {taskId blockId blockId' : String}

theorem parseBlockRef_blockRef (task : PlainId taskId) (block : PlainId blockId) :
    parseBlockRef (blockRef taskId blockId) = .ok (taskId, blockId) := by
  have taskChars : taskId.toList ≠ [] := fun empty => task.1 (toList_inj.mp (by simpa using empty))
  have blockChars : blockId.toList ≠ [] := fun empty => block.1 (toList_inj.mp (by simpa using empty))
  rw [parseBlockRef, blockRef_toList, Text.pieces_append_separator _ task.2, Text.pieces_of_free block.2]
  simp [taskChars, blockChars]

theorem plain_of_parseBlockRef {parsed : String × String}
    (accepted : parseBlockRef (blockRef taskId blockId) = .ok parsed) : PlainId taskId ∧ PlainId blockId := by
  unfold parseBlockRef at accepted
  split at accepted
  · rename_i left right split
    have count := Text.pieces_length '#' (blockRef taskId blockId).toList
    rw [split, blockRef_toList, count_append, count_cons_self] at count
    simp only [length_cons, length_nil] at count
    have taskFree : '#' ∉ taskId.toList := List.count_eq_zero.mp (by omega)
    have blockFree : '#' ∉ blockId.toList := List.count_eq_zero.mp (by omega)
    rw [blockRef_toList, Text.pieces_append_separator _ taskFree, Text.pieces_of_free blockFree] at split
    simp only [List.cons.injEq, and_true] at split
    obtain ⟨rfl, rfl⟩ := split
    split at accepted
    · cases accepted
    rename_i parts
    rw [not_or] at parts
    refine ⟨⟨?_, taskFree⟩, ⟨?_, blockFree⟩⟩
    · rintro rfl
      exact parts.1 rfl
    · rintro rfl
      exact parts.2 rfl
  · cases accepted

theorem blockRef_injective {taskId' : String}
    (task : PlainId taskId) (task' : PlainId taskId') (same : blockRef taskId blockId = blockRef taskId' blockId') :
    taskId = taskId' ∧ blockId = blockId' := by
  have chars := congrArg toList same
  rw [blockRef_toList, blockRef_toList] at chars
  obtain ⟨left, right⟩ := Text.join_injective task.2 task'.2 chars
  exact ⟨toList_inj.mp left, toList_inj.mp right⟩

theorem blockRef_right_injective
    (same : blockRef taskId blockId = blockRef taskId blockId') : blockId = blockId' := by
  have chars := congrArg toList same
  rw [blockRef_toList, blockRef_toList] at chars
  exact toList_inj.mp (by simpa using chars)

end PlanWeave
