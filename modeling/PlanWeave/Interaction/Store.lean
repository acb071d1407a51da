import PlanWeave.Interaction.Contract
import PlanWeave.Lib.Interleaving

namespace PlanWeave
open Process

/-- A published file, with the call whose temporary file was linked; none for a file that was there before. -/
structure PublishedDocument (Document : Type) where
  document : Document
  linkedBy : Option Nat

/-- The directory of one interaction; the files are complete when they appear. -/
structure InteractionDirectory where
  made : Bool
  request : Option (PublishedDocument RunnerInteractionRequest)
  response : Option (PublishedDocument RunnerPermissionInteractionResponse)
  ownerResult : Option (PublishedDocument RunnerInteractionOwnerResult)
  settlement : Option (PublishedDocument RunnerInteractionSettlement)

/-- The interactions of a run directory by their identifier, whose encoding is the directory's name. -/
abbrev InteractionStore := String → InteractionDirectory

structure InteractionFile (Document : Type) where
  find : InteractionDirectory → Option (PublishedDocument Document)
  put : PublishedDocument Document → InteractionDirectory → InteractionDirectory
  valid : InteractionTextRules → Document → Bool
  subject : String

def requestFile : InteractionFile RunnerInteractionRequest where
  find directory := directory.request
  put file directory := { directory with request := some file }
  valid rules document := document.valid rules
  subject := "Runner interaction request"

def responseFile : InteractionFile RunnerPermissionInteractionResponse where
  find directory := directory.response
  put file directory := { directory with response := some file }
  valid rules document := document.valid rules
  subject := "Runner interaction response"

def ownerResultFile : InteractionFile RunnerInteractionOwnerResult where
  find directory := directory.ownerResult
  put file directory := { directory with ownerResult := some file }
  valid rules document := document.valid rules
  subject := "Runner interaction owner result"

def settlementFile : InteractionFile RunnerInteractionSettlement where
  find directory := directory.settlement
  put file directory := { directory with settlement := some file }
  valid rules document := document.valid rules
  subject := "Runner interaction settlement"

structure AlreadySettledDetails where
  respondedAt : String
  decisionSource : String
  winnerKind : String

inductive InteractionError where
  /-- `RunnerInteractionStoreError` -/
  | store (code : RunnerInteractionErrorCode) (message : String) (details : Option AlreadySettledDetails)
  /-- `ENOENT` -/
  | missingFile

def InteractionError.code : InteractionError → Option RunnerInteractionErrorCode
  | store code _ _ => some code
  | missingFile => none

def contractError (subject : String) : InteractionError :=
  .store .contractInvalid (subject ++ " does not match the runner interaction contract.") none

def parseContract {α : Type} (valid : Bool) (value : α) (subject : String) : Except InteractionError α :=
  if valid then .ok value else .error (contractError subject)

def encodedInteractionId (interactionId : String) : Except InteractionError String :=
  if identifierSchema interactionId then .ok interactionId
  else .error (.store .pathInvalid "Runner interaction id is not a valid safe identifier." none)

def identityMismatch (subject : String) : InteractionError :=
  .store .identityMismatch ("Runner interaction " ++ subject ++ " identity does not exactly match its request.") none

def validateResponseForRequest (request : RunnerInteractionRequest) (response : RunnerPermissionInteractionResponse) :
    Except InteractionError (Option RunnerPermissionOption) :=
  if runnerInteractionIdentityMatches request.identity response.identity then
    match response.decision with
    | .cancel => .ok none
    | .select selectedOptionId =>
      match request.options.find? (·.optionId == selectedOptionId) with
      | none => .error (.store .optionNotAdvertised
          "Runner interaction response selected an option that the Agent did not advertise." none)
      | some selectedOption => .ok (some selectedOption)
  else .error (identityMismatch "response")

def validateSettlementForRequest (request : RunnerInteractionRequest) (settlement : RunnerInteractionSettlement) :
    Except InteractionError Unit :=
  match settlement with
  | .response _ response => (validateResponseForRequest request response).map fun _ => ()
  | .ownerResult _ ownerResult =>
    if runnerInteractionIdentityMatches request.identity ownerResult.identity then .ok ()
    else .error (identityMismatch "owner result")

def alreadySettledError : RunnerInteractionSettlement → InteractionError
  | .response _ response => .store .alreadyAnswered "Runner interaction already has an immutable response."
      (some ⟨response.respondedAt, response.decisionSource, "response"⟩)
  | .ownerResult _ ownerResult => .store .alreadyAnswered "Runner interaction was already expired by its owner."
      (some ⟨ownerResult.recordedAt, "run-owner", "owner_result"⟩)

structure RunnerInteractionSettlementResult where
  accepted : Bool
  winner : RunnerInteractionSettlement

inductive Publication where
  | created | exists

abbrev InteractionProgram (α : Type) := Process InteractionStore InteractionError α

namespace InteractionStore
variable {Document : Type}

def linked (store : InteractionStore) (id : String) (file : InteractionFile Document) (document : PublishedDocument Document) :
    InteractionStore :=
  match file.find (store id) with
  | some _ => store
  | none => Function.update store id (file.put document (store id))

def makeDirectory (store : InteractionStore) (id : String) : InteractionStore :=
  Function.update store id { store id with made := true }

end InteractionStore

section Programs
variable {Document : Type} (rules : InteractionTextRules) (id : String)

/-- The temporary file is written first; the link is the one step that others see. -/
def publishPrivateJsonExclusive (call : Nat) (file : InteractionFile Document) (document : Document) :
    InteractionProgram Publication :=
  .step (fun store => store.linked id file ⟨document, some call⟩)
    fun before => .returns (if (file.find (before id)).isSome then .exists else .created)

def readPrivateJson (file : InteractionFile Document) : InteractionProgram Document :=
  .observe fun store => match file.find (store id) with
    | none => .error .missingFile
    | some found => parseContract (file.valid rules found.document) found.document file.subject

/-- `readOptionalResponse`, `readOptionalSettlement` and `readOptionalOwnerResult` -/
def readOptional (file : InteractionFile Document) : InteractionProgram (Option Document) :=
  .observe fun store => match file.find (store id) with
    | none => .ok none
    | some found => (parseContract (file.valid rules found.document) found.document file.subject).map some

def ensureInteractionDirectory : InteractionProgram Unit := do
  let _ ← lift (encodedInteractionId id)
  .change (·.makeDirectory id)

def resolveExistingInteractionDirectory : InteractionProgram Unit := do
  let _ ← lift (encodedInteractionId id)
  .observe fun store =>
    if (store id).made then .ok () else .error (.store .notFound "Runner interaction does not exist." none)

def readLegacySettlement (request : RunnerInteractionRequest) : InteractionProgram (Option RunnerInteractionSettlement) := do
  let (response, ownerResult) ← both (readOptional rules id responseFile) (readOptional rules id ownerResultFile)
  match response, ownerResult with
  | some _, some _ => .throws (contractError "Runner interaction settlement")
  | some response, none =>
    let _ ← lift (validateResponseForRequest request response)
    pure (some (.response runnerInteractionSettlementVersion response))
  | none, some ownerResult =>
    let settlement := RunnerInteractionSettlement.ownerResult runnerInteractionSettlementVersion ownerResult
    let _ ← lift (validateSettlementForRequest request settlement)
    pure (some settlement)
  | none, none => pure none

/-- What `validateMaterializedSettlement` checks of the two files it has read. -/
def checkMaterializedSettlement (request : RunnerInteractionRequest) (settlement : RunnerInteractionSettlement)
    (requireTarget : Bool) (response : Option RunnerPermissionInteractionResponse)
    (ownerResult : Option RunnerInteractionOwnerResult) : Except InteractionError Unit :=
  match settlement with
  | .response _ settled =>
    if ownerResult.isSome then .error (contractError "Runner interaction settlement")
    else match response with
      | some response => do
        let _ ← validateResponseForRequest request response
        if response = settled then .ok () else .error (contractError "Runner interaction response settlement")
      | none => if requireTarget then .error (contractError "Runner interaction response settlement") else .ok ()
  | .ownerResult _ settled =>
    if response.isSome then .error (contractError "Runner interaction settlement")
    else match ownerResult with
      | some ownerResult => do
        validateSettlementForRequest request settlement
        if ownerResult = settled then .ok () else .error (contractError "Runner interaction owner result settlement")
      | none => if requireTarget then .error (contractError "Runner interaction owner result settlement") else .ok ()

def validateMaterializedSettlement (request : RunnerInteractionRequest) (settlement : RunnerInteractionSettlement)
    (requireTarget : Bool) : InteractionProgram Unit := do
  let (response, ownerResult) ← both (readOptional rules id responseFile) (readOptional rules id ownerResultFile)
  lift (checkMaterializedSettlement request settlement requireTarget response ownerResult)

def publishTarget (call : Nat) : RunnerInteractionSettlement → InteractionProgram Publication
  | .response _ response => publishPrivateJsonExclusive id call responseFile response
  | .ownerResult _ ownerResult => publishPrivateJsonExclusive id call ownerResultFile ownerResult

def materializeSettlement (call : Nat) (request : RunnerInteractionRequest) (settlement : RunnerInteractionSettlement) :
    InteractionProgram Unit := do
  let _ ← publishTarget id call settlement
  validateMaterializedSettlement rules id request settlement true

/-- The part of `settle` that finds the winner, or makes the proposed settlement it. -/
def settleWinner (call : Nat) (request : RunnerInteractionRequest) (proposed : RunnerInteractionSettlement) :
    InteractionProgram RunnerInteractionSettlementResult := do
  match ← readOptional rules id settlementFile with
  | some winner => pure ⟨false, winner⟩
  | none =>
    let legacy ← readLegacySettlement rules id request
    match ← publishPrivateJsonExclusive id call settlementFile (legacy.getD proposed) with
    | .created => pure ⟨legacy.isNone, legacy.getD proposed⟩
    | .exists =>
      let winner ← readPrivateJson rules id settlementFile
      pure ⟨false, winner⟩

def settle (call : Nat) (request : RunnerInteractionRequest) (proposed : RunnerInteractionSettlement) :
    InteractionProgram RunnerInteractionSettlementResult := do
  let settled ← settleWinner rules id call request proposed
  lift (validateSettlementForRequest request settled.winner)
  materializeSettlement rules id call request settled.winner
  pure settled

def settleOwnerResultForRequest (call : Nat) (request : RunnerInteractionRequest) (result : RunnerInteractionOwnerResult) :
    InteractionProgram RunnerInteractionSettlementResult :=
  settle rules id call request (.ownerResult runnerInteractionSettlementVersion result)

/-- `readOptionalSettlement(..) ?? readLegacySettlement(..)` -/
def readWinner (request : RunnerInteractionRequest) : InteractionProgram (Option RunnerInteractionSettlement) := do
  match ← readOptional rules id settlementFile with
  | some settlement => pure (some settlement)
  | none => readLegacySettlement rules id request

def readSettlement (request : RunnerInteractionRequest) : InteractionProgram (Option RunnerInteractionSettlement) := do
  match ← readWinner rules id request with
  | none => pure none
  | some settlement =>
    lift (validateSettlementForRequest request settlement)
    validateMaterializedSettlement rules id request settlement false
    pure (some settlement)

def snapshotOf (request : RunnerInteractionRequest) (settlement : Option RunnerInteractionSettlement) :
    RunnerInteractionSnapshot :=
  let response := settlement.bind (·.responseOf)
  let ownerResult := settlement.bind (·.ownerResultOf)
  { version := runnerInteractionSnapshotVersion
    interactionId := request.identity.requestId
    status := interactionStatus response ownerResult
    request, response, ownerResult }

end Programs

section Calls
variable (rules : InteractionTextRules)

def readSnapshot (interactionId : String) : InteractionProgram RunnerInteractionSnapshot := do
  resolveExistingInteractionDirectory interactionId
  let request ← readPrivateJson rules interactionId requestFile
  if request.identity.requestId = interactionId then
    let settlement ← readSettlement rules interactionId request
    lift (parseContract ((snapshotOf request settlement).valid rules) (snapshotOf request settlement)
      "Runner interaction snapshot")
  else .throws (contractError "Runner interaction directory identity")

def createRequest (call : Nat) (requestInput : RunnerInteractionRequest) : InteractionProgram RunnerInteractionSnapshot := do
  let request ← lift (parseContract (requestInput.valid rules) requestInput requestFile.subject)
  let id := request.identity.requestId
  ensureInteractionDirectory id
  match ← publishPrivateJsonExclusive id call requestFile request with
  | .created => readSnapshot rules id
  | .exists =>
    let existing ← readPrivateJson rules id requestFile
    if existing = request then readSnapshot rules id
    else .throws (.store .requestConflict "An immutable interaction request already exists with different content." none)

def receiptOf (response : RunnerPermissionInteractionResponse) (selectedOption : Option RunnerPermissionOption) :
    RunnerInteractionResponseReceipt where
  version := runnerInteractionResponseReceiptVersion
  identity := response.identity
  acceptedAt := response.respondedAt
  decision := response.decision
  selectedOption
  decisionSource := response.decisionSource

def createResponse (call : Nat) (responseInput : RunnerPermissionInteractionResponse) :
    InteractionProgram RunnerInteractionResponseReceipt := do
  let response ← lift (parseContract (responseInput.valid rules) responseInput responseFile.subject)
  let id := response.identity.requestId
  resolveExistingInteractionDirectory id
  let request ← readPrivateJson rules id requestFile
  let selectedOption ← lift (validateResponseForRequest request response)
  let settlement ← settle rules id call request (.response runnerInteractionSettlementVersion response)
  if !settlement.accepted || settlement.winner.responseOf.isNone then .throws (alreadySettledError settlement.winner)
  else lift (parseContract ((receiptOf response selectedOption).valid rules) (receiptOf response selectedOption)
    "Runner interaction response receipt")

def settleOwnerResult (call : Nat) (resultInput : RunnerInteractionOwnerResult) :
    InteractionProgram RunnerInteractionSettlementResult := do
  let result ← lift (parseContract (resultInput.valid rules) resultInput ownerResultFile.subject)
  let id := result.identity.requestId
  resolveExistingInteractionDirectory id
  let request ← readPrivateJson rules id requestFile
  lift (validateSettlementForRequest request (.ownerResult runnerInteractionSettlementVersion result))
  settleOwnerResultForRequest rules id call request result

/-- `settleOwnerResult`, and then the same result must have won. -/
def createOwnerResult (call : Nat) (resultInput : RunnerInteractionOwnerResult) :
    InteractionProgram RunnerInteractionOwnerResult := do
  let settlement ← settleOwnerResult rules call resultInput
  if settlement.winner.ownerResultOf = some resultInput then pure resultInput
  else .throws (alreadySettledError settlement.winner)

end Calls

inductive InteractionCall where
  | createRequest (requestInput : RunnerInteractionRequest)
  | createResponse (responseInput : RunnerPermissionInteractionResponse)
  | createOwnerResult (resultInput : RunnerInteractionOwnerResult)
  | settleOwnerResult (resultInput : RunnerInteractionOwnerResult)
  | readSnapshot (interactionId : String)

inductive InteractionAnswer where
  | snapshot (snapshot : RunnerInteractionSnapshot)
  | receipt (receipt : RunnerInteractionResponseReceipt)
  | ownerResult (ownerResult : RunnerInteractionOwnerResult)
  | settled (result : RunnerInteractionSettlementResult)

namespace InteractionCall

def body (rules : InteractionTextRules) (call : Nat) : InteractionCall → InteractionProgram InteractionAnswer
  | createRequest requestInput => do pure (.snapshot (← PlanWeave.createRequest rules call requestInput))
  | createResponse responseInput => do pure (.receipt (← PlanWeave.createResponse rules call responseInput))
  | createOwnerResult resultInput => do pure (.ownerResult (← PlanWeave.createOwnerResult rules call resultInput))
  | settleOwnerResult resultInput => do pure (.settled (← PlanWeave.settleOwnerResult rules call resultInput))
  | readSnapshot interactionId => do pure (.snapshot (← PlanWeave.readSnapshot rules interactionId))

def interactionId : InteractionCall → String
  | createRequest requestInput => requestInput.identity.requestId
  | createResponse responseInput => responseInput.identity.requestId
  | createOwnerResult resultInput => resultInput.identity.requestId
  | settleOwnerResult resultInput => resultInput.identity.requestId
  | readSnapshot interactionId => interactionId

end InteractionCall

abbrev InteractionRun := SharedRun InteractionCall InteractionStore InteractionError InteractionAnswer

end PlanWeave
