import PlanWeave.Manifest
import PlanWeave.Lib.OrderedMap

namespace PlanWeave

inductive TaskStatus where
  | planned | ready | inProgress | implemented
deriving DecidableEq

inductive BlockStatus where
  | planned | ready | inProgress | completed | needsChanges | blocked | diverged
deriving DecidableEq

inductive FeedbackStatus where
  | «open» | inProgress | resolved | dismissed
deriving DecidableEq

inductive ReviewVerdict where
  | passed | needsChanges
deriving DecidableEq

inductive CompletionReason where
  | passed | maxCyclesReached
deriving DecidableEq

inductive ControlPlane where
  | collaboration | owner
deriving DecidableEq

inductive InterruptionReason where
  | hostRestart | transportLost | acpSessionLost | leaseLost
deriving DecidableEq

def InterruptionReason.text : InterruptionReason → String
  | hostRestart => "host_restart"
  | transportLost => "transport_lost"
  | acpSessionLost => "acp_session_lost"
  | leaseLost => "lease_lost"

def BlockStatus.text : BlockStatus → String
  | planned => "planned"
  | ready => "ready"
  | inProgress => "in_progress"
  | completed => "completed"
  | needsChanges => "needs_changes"
  | blocked => "blocked"
  | diverged => "diverged"

def opaqueIdentifierSchema (value : String) : Bool :=
  match value.toList with
  | [] => false
  | first :: rest => first.isAlphanum && rest.length < 128 &&
      rest.all (fun c => c.isAlphanum || c = '.' || c = '_' || c = ':' || c = '-')

def submissionRunIdSchema (value : String) : Bool :=
  match value.toList with
  | [] => false
  | first :: rest => first ≠ '.' && !(first.isAlpha && rest.head? = some ':') &&
      (first :: rest).all (fun c => c ≠ '/' && c ≠ Char.ofNat 92 && c ≠ Char.ofNat 0)

/-- An identifier that came through `opaqueIdentifierSchema`. -/
@[ext] structure OpaqueId where
  text : String
  wire : opaqueIdentifierSchema text = true

instance : DecidableEq OpaqueId := fun _ _ => decidable_of_iff' _ OpaqueId.ext_iff

@[ext] structure RunName where
  text : String
  plain : submissionRunIdSchema text = true

instance : DecidableEq RunName := fun _ _ => decidable_of_iff' _ RunName.ext_iff

@[ext] structure AttemptId where
  text : String
  named : text ≠ ""

instance : DecidableEq AttemptId := fun _ _ => decidable_of_iff' _ AttemptId.ext_iff

def parseOpaqueId (value : String) : Except String OpaqueId :=
  if valid : opaqueIdentifierSchema value = true then .ok ⟨value, valid⟩ else .error s!"Invalid identifier '{value}'."

structure RemoteSource where
  operationId : OpaqueId
  sourceRevision : OpaqueId
  graphFingerprint : OpaqueId
  controlPlane : Option ControlPlane := none
deriving DecidableEq

structure RemoteIdentity extends RemoteSource where
  dispatchId : OpaqueId
  executionAttemptId : OpaqueId
deriving DecidableEq

inductive RemoteOwnership where
  | preparing (source : RemoteSource)
  | active (identity : RemoteIdentity)
deriving DecidableEq

def RemoteOwnership.source : RemoteOwnership → RemoteSource
  | preparing source => source
  | active identity => identity.toRemoteSource

structure RemoteInterruption where
  reason : InterruptionReason
  resumable : Bool
deriving DecidableEq

structure NormalizedFailure where
  code : OpaqueId
  message : String
  retryable : Bool
  sized : 0 < message.length ∧ message.length ≤ 16384
deriving DecidableEq

inductive ReceiptOutcome where
  | completed (runId : OpaqueId)
  | failed (failure : NormalizedFailure)
deriving DecidableEq

inductive BlockKind where
  | implementation | review
deriving DecidableEq

def ManifestBlock.kind (block : ManifestBlock) : BlockKind :=
  if block.isReview then .review else .implementation

structure RemoteOperationReceipt where
  identity : RemoteIdentity
  outcome : ReceiptOutcome
  blockType : Option BlockKind
deriving DecidableEq

/-- `null` and an absent field are one value here: no reader tells them apart. -/
@[ext] structure BlockState where
  status : BlockStatus
  lastRunId : Option String := none
  submissionAttemptId : Option AttemptId := none
  submissionRunId : Option RunName := none
  latestReviewAttemptId : Option String := none
  activeFeedbackId : Option String := none
  pendingFeedbackId : Option String := none
  blockedReason : Option String := none
  divergenceReason : Option String := none
  completionReason : Option CompletionReason := none
  passedWorkRevision : Option String := none
  remoteOwnership : Option RemoteOwnership := none
  remoteInterruption : Option RemoteInterruption := none
  remoteOperationReceipt : Option RemoteOperationReceipt := none

instance : DecidableEq BlockState := fun _ _ => decidable_of_iff' _ BlockState.ext_iff

@[ext] structure TaskState where
  status : TaskStatus
  openFeedbackCount : Nat

instance : DecidableEq TaskState := fun _ _ => decidable_of_iff' _ TaskState.ext_iff

@[ext] structure FeedbackEnvelope where
  status : FeedbackStatus
  sourceReviewBlockRef : String
  latestSubmissionId : Option String
  content : String

instance : DecidableEq FeedbackEnvelope := fun _ _ => decidable_of_iff' _ FeedbackEnvelope.ext_iff

def isActiveFeedbackStatus : FeedbackStatus → Bool
  | .open | .inProgress => true
  | .resolved | .dismissed => false

def FeedbackEnvelope.isActive (feedback : FeedbackEnvelope) : Bool := isActiveFeedbackStatus feedback.status

/-- The contents of `state.json`. The reset receipt is left out: none of the modelled operations
writes or reads it. -/
@[ext] structure RuntimeState where
  currentRefs : List String := []
  currentFeedbackId : Option String := none
  currentReviewBlockRef : Option String := none
  tasks : OrderedMap String TaskState := ∅
  blocks : OrderedMap String BlockState := ∅
  feedback : OrderedMap String FeedbackEnvelope := ∅

instance : DecidableEq RuntimeState := fun _ _ => decidable_of_iff' _ RuntimeState.ext_iff

def createEmptyState : RuntimeState := {}

namespace RuntimeState

def setBlock (state : RuntimeState) (ref : String) (block : BlockState) : RuntimeState :=
  { state with blocks := state.blocks.set ref block }

/-- The entry of a block. Reconciliation seeds one for every block of the package, so the default
is never read for a ref of the compiled graph. -/
def block (state : RuntimeState) (ref : String) : BlockState := (state.blocks.get? ref).getD { status := .planned }

def status (state : RuntimeState) (ref : String) : BlockStatus := (state.block ref).status

def taskStatus (state : RuntimeState) (taskId : String) : TaskStatus :=
  ((state.tasks.get? taskId).map TaskState.status).getD .planned

section
variable (state : RuntimeState)
include state

theorem block_setBlock (ref other : String) (block : BlockState) :
    (state.setBlock ref block).block other = if other = ref then block else state.block other := by
  unfold setBlock RuntimeState.block
  rw [OrderedMap.get?_set]
  split <;> rfl

@[simp] theorem block_setBlock_self (ref : String) (block : BlockState) :
    (state.setBlock ref block).block ref = block := by
  rw [block_setBlock, if_pos rfl]

theorem block_setBlock_of_ne {ref other : String} (block : BlockState) (different : other ≠ ref) :
    (state.setBlock ref block).block other = state.block other := by
  rw [block_setBlock, if_neg different]

theorem setBlock_setBlock (ref : String) (first second : BlockState) :
    (state.setBlock ref first).setBlock ref second = state.setBlock ref second := by
  unfold setBlock
  simp only [OrderedMap.set_set]
end
end RuntimeState
end PlanWeave
