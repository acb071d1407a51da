import Mathlib.Algebra.Group.Int.Defs
import PlanWeave.Lib.Text
import PlanWeave.Lib.Json

namespace PlanWeave

structure InteractionTextRules where
  datetime : String → Bool
  uuid : String → Bool
  containsUnredactedRunnerEventSecret : String → Bool

def isIdentifierStart (c : Char) : Bool := c.isAlphanum

def isIdentifierPart (c : Char) : Bool := c.isAlphanum || c == '.' || c == '_' || c == ':' || c == '-'

/-- `^[A-Za-z0-9][A-Za-z0-9._:-]*$` of bounded length -/
def identifierOf (max : Nat) (text : String) : Bool :=
  match text.toList with
  | [] => false
  | first :: rest => isIdentifierStart first && rest.all isIdentifierPart && text.length ≤ max

def identifierSchema (text : String) : Bool := identifierOf 256 text

def runnerInteractionClientLabelSchema (text : String) : Bool := identifierOf 128 text

/-- `^[^#\s]+#[^#\s]+$` -/
def claimRefSchema (text : String) : Bool :=
  3 ≤ (Json.utf16 text).length && (Json.utf16 text).length ≤ 513 &&
    match Text.pieces '#' text.toList with
    | [task, block] => !task.isEmpty && !block.isEmpty && !task.any Text.isBlank && !block.any Text.isBlank
    | _ => false

def opaqueAcpIdSchema (text : String) : Bool := text != "" && text.utf8ByteSize ≤ 1024

def InteractionTextRules.nonEmptySafeText (rules : InteractionTextRules) (maxBytes : Nat) (text : String) : Bool :=
  text.utf8ByteSize ≤ maxBytes && !rules.containsUnredactedRunnerEventSecret text && Text.trim text != ""

structure RunnerInteractionIdentity where
  projectId : String
  canvasId : String
  claimRef : String
  executorRunId : String
  sessionId : String
  requestId : String
  ownerLeaseId : String
  ownerGeneration : Int
deriving DecidableEq

inductive RunnerPermissionDecision where
  | approve | deny
deriving DecidableEq

structure RunnerPermissionOption where
  optionId : String
  label : String
  decision : RunnerPermissionDecision
deriving DecidableEq

structure RunnerInteractionRequest where
  version : String
  kind : String
  identity : RunnerInteractionIdentity
  requestedAt : String
  summary : String
  toolCallId : String
  options : List RunnerPermissionOption
deriving DecidableEq

inductive RunnerPermissionInteractionDecision where
  | select (optionId : String)
  | cancel
deriving DecidableEq

structure RunnerPermissionInteractionResponse where
  version : String
  identity : RunnerInteractionIdentity
  decision : RunnerPermissionInteractionDecision
  respondedAt : String
  decisionSource : String
  reason : Option String
deriving DecidableEq

inductive OwnerResultReason where
  | establishmentFailed | aborted | deadline | terminalCleanup
deriving DecidableEq

structure RunnerInteractionOwnerResult where
  version : String
  identity : RunnerInteractionIdentity
  outcome : String
  reason : OwnerResultReason
  recordedAt : String
  message : String
deriving DecidableEq

inductive RunnerInteractionSettlement where
  | response (version : String) (response : RunnerPermissionInteractionResponse)
  | ownerResult (version : String) (ownerResult : RunnerInteractionOwnerResult)

inductive RunnerInteractionStatus where
  | pending | answered | expired
deriving DecidableEq

structure RunnerInteractionSnapshot where
  version : String
  interactionId : String
  status : RunnerInteractionStatus
  request : RunnerInteractionRequest
  response : Option RunnerPermissionInteractionResponse
  ownerResult : Option RunnerInteractionOwnerResult

structure RunnerInteractionResponseReceipt where
  version : String
  identity : RunnerInteractionIdentity
  acceptedAt : String
  decision : RunnerPermissionInteractionDecision
  selectedOption : Option RunnerPermissionOption
  decisionSource : String

inductive RunnerInteractionErrorCode where
  | contractInvalid | requestConflict | alreadyAnswered | identityMismatch | ownerReplaced | ownerUnavailable | runTerminal
  | optionNotAdvertised | notFound | pathInvalid | pathUnsafe

def runnerInteractionSettlementVersion : String := "planweave.runner-interaction-settlement/v1"

def runnerInteractionSnapshotVersion : String := "planweave.runner-interaction-snapshot/v1"

def runnerInteractionResponseReceiptVersion : String := "planweave.runner-interaction-response-receipt/v1"

section Schemas
variable (rules : InteractionTextRules)

/-- `runnerInteractionIdentitySchema`; a safe integer is below 2^53. -/
def RunnerInteractionIdentity.valid (identity : RunnerInteractionIdentity) : Bool :=
  identifierSchema identity.projectId && identifierSchema identity.canvasId && claimRefSchema identity.claimRef &&
    identifierSchema identity.executorRunId && identifierSchema identity.sessionId && identifierSchema identity.requestId &&
    rules.uuid identity.ownerLeaseId && 0 < identity.ownerGeneration && identity.ownerGeneration < 2 ^ 53

def RunnerPermissionOption.valid (option : RunnerPermissionOption) : Bool :=
  opaqueAcpIdSchema option.optionId && rules.nonEmptySafeText 1024 option.label

/-- `runnerPermissionInteractionRequestSchema`; the last check is its `superRefine`. -/
def RunnerInteractionRequest.valid (request : RunnerInteractionRequest) : Bool :=
  request.version == "planweave.runner-interaction/v1" && request.kind == "permission" && request.identity.valid rules &&
    rules.datetime request.requestedAt && rules.nonEmptySafeText 4096 request.summary &&
    opaqueAcpIdSchema request.toolCallId && 1 ≤ request.options.length && request.options.length ≤ 64 &&
    request.options.all (·.valid rules) && decide (request.options.map (·.optionId)).Nodup

def RunnerPermissionInteractionDecision.valid : RunnerPermissionInteractionDecision → Bool
  | select optionId => opaqueAcpIdSchema optionId
  | cancel => true

def RunnerPermissionInteractionResponse.valid (response : RunnerPermissionInteractionResponse) : Bool :=
  response.version == "planweave.runner-interaction-response/v1" && response.identity.valid rules &&
    response.decision.valid && rules.datetime response.respondedAt &&
    runnerInteractionClientLabelSchema response.decisionSource &&
    response.reason.all (rules.nonEmptySafeText 4096) && !(response.decision == .cancel && response.reason.isNone)

def RunnerInteractionOwnerResult.valid (result : RunnerInteractionOwnerResult) : Bool :=
  result.version == "planweave.runner-interaction-owner-result/v1" && result.identity.valid rules &&
    result.outcome == "expired" && rules.datetime result.recordedAt && rules.nonEmptySafeText 4096 result.message

def RunnerInteractionSettlement.valid : RunnerInteractionSettlement → Bool
  | response version document => version == runnerInteractionSettlementVersion && document.valid rules
  | ownerResult version document => version == runnerInteractionSettlementVersion && document.valid rules

def interactionStatus (response : Option RunnerPermissionInteractionResponse)
    (ownerResult : Option RunnerInteractionOwnerResult) : RunnerInteractionStatus :=
  if response.isSome then .answered else if ownerResult.isSome then .expired else .pending

def RunnerInteractionSnapshot.valid (snapshot : RunnerInteractionSnapshot) : Bool :=
  snapshot.version == runnerInteractionSnapshotVersion && identifierSchema snapshot.interactionId &&
    snapshot.request.valid rules && snapshot.response.all (·.valid rules) && snapshot.ownerResult.all (·.valid rules) &&
    snapshot.status == interactionStatus snapshot.response snapshot.ownerResult &&
    !(snapshot.response.isSome && snapshot.ownerResult.isSome) &&
    snapshot.interactionId == snapshot.request.identity.requestId

def RunnerInteractionResponseReceipt.valid (receipt : RunnerInteractionResponseReceipt) : Bool :=
  receipt.version == runnerInteractionResponseReceiptVersion && receipt.identity.valid rules &&
    rules.datetime receipt.acceptedAt && receipt.decision.valid && receipt.selectedOption.all (·.valid rules) &&
    runnerInteractionClientLabelSchema receipt.decisionSource &&
    (receipt.decision == .cancel) == receipt.selectedOption.isNone &&
    match receipt.decision with
    | .select optionId => receipt.selectedOption.map (·.optionId) == some optionId
    | .cancel => true

end Schemas

def runnerInteractionIdentityMatches (left right : RunnerInteractionIdentity) : Bool :=
  left.projectId == right.projectId && left.canvasId == right.canvasId && left.claimRef == right.claimRef &&
    left.executorRunId == right.executorRunId && left.sessionId == right.sessionId && left.requestId == right.requestId &&
    left.ownerLeaseId == right.ownerLeaseId && left.ownerGeneration == right.ownerGeneration

namespace RunnerInteractionSettlement

def responseOf : RunnerInteractionSettlement → Option RunnerPermissionInteractionResponse
  | response _ document => some document
  | ownerResult _ _ => none

def ownerResultOf : RunnerInteractionSettlement → Option RunnerInteractionOwnerResult
  | response _ _ => none
  | ownerResult _ document => some document

def identity : RunnerInteractionSettlement → RunnerInteractionIdentity
  | response _ document => document.identity
  | ownerResult _ document => document.identity

variable {rules : InteractionTextRules} {settlement : RunnerInteractionSettlement}

theorem eq_response {document : RunnerPermissionInteractionResponse} (valid : settlement.valid rules = true)
    (derived : settlement.responseOf = some document) :
    settlement = response runnerInteractionSettlementVersion document ∧ document.valid rules = true := by
  cases settlement with
  | response =>
    cases derived
    simp only [RunnerInteractionSettlement.valid, Bool.and_eq_true, beq_iff_eq] at valid
    exact ⟨by rw [valid.1], valid.2⟩
  | ownerResult => cases derived

theorem eq_ownerResult {document : RunnerInteractionOwnerResult} (valid : settlement.valid rules = true)
    (derived : settlement.ownerResultOf = some document) :
    settlement = ownerResult runnerInteractionSettlementVersion document ∧ document.valid rules = true := by
  cases settlement with
  | response => cases derived
  | ownerResult =>
    cases derived
    simp only [RunnerInteractionSettlement.valid, Bool.and_eq_true, beq_iff_eq] at valid
    exact ⟨by rw [valid.1], valid.2⟩

end RunnerInteractionSettlement
end PlanWeave
