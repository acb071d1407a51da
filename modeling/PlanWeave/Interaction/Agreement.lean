import PlanWeave.Interaction.Calls

namespace PlanWeave
open List

def RunnerInteractionSnapshot.winner (snapshot : RunnerInteractionSnapshot) : Option RunnerInteractionSettlement :=
  match snapshot.response, snapshot.ownerResult with
  | some response, _ => some (.response runnerInteractionSettlementVersion response)
  | none, some ownerResult => some (.ownerResult runnerInteractionSettlementVersion ownerResult)
  | none, none => none

/-- The winner that an answer reports; a receipt is that of the call's own response. -/
def InteractionCall.reported : InteractionCall → InteractionAnswer → Option RunnerInteractionSettlement
  | _, .snapshot snapshot => snapshot.winner
  | .createResponse responseInput, .receipt _ => some (.response runnerInteractionSettlementVersion responseInput)
  | _, .receipt _ => none
  | _, .ownerResult ownerResult => some (.ownerResult runnerInteractionSettlementVersion ownerResult)
  | _, .settled result => some result.winner

def InteractionAnswer.accepted : InteractionAnswer → Bool
  | .receipt _ => true
  | .settled result => result.accepted
  | _ => false

def InteractionCall.inputValid (rules : InteractionTextRules) : InteractionCall → Bool
  | createRequest requestInput => requestInput.valid rules
  | createResponse responseInput => responseInput.valid rules
  | createOwnerResult resultInput => resultInput.valid rules
  | settleOwnerResult resultInput => resultInput.valid rules
  | readSnapshot _ => true

variable {rules : InteractionTextRules} {id : String} {store : InteractionStore}

section Snapshots
variable {request : RunnerInteractionRequest} {settlement : Option RunnerInteractionSettlement}

theorem snapshotOf_winner (valid : ∀ settled, settlement = some settled → settled.valid rules = true) :
    (snapshotOf request settlement).winner = settlement := by
  cases settlement with
  | none => rfl
  | some settled =>
    cases settled with
    | response =>
      rw [(RunnerInteractionSettlement.eq_response (valid _ rfl) rfl).1]
      rfl
    | ownerResult =>
      rw [(RunnerInteractionSettlement.eq_ownerResult (valid _ rfl) rfl).1]
      rfl

theorem snapshotOf_pending_iff : (snapshotOf request settlement).status = .pending ↔ settlement = none := by
  cases settlement with
  | none => simp [snapshotOf, interactionStatus]
  | some settled =>
    cases settled with
    | response => simp [snapshotOf, interactionStatus, RunnerInteractionSettlement.responseOf]
    | ownerResult =>
      simp [snapshotOf, interactionStatus, RunnerInteractionSettlement.responseOf, RunnerInteractionSettlement.ownerResultOf]

theorem snapshotOf_valid (valid : request.valid rules = true)
    (settled : ∀ winner, settlement = some winner → winner.valid rules = true) :
    (snapshotOf request settlement).valid rules = true := by
  have known : identifierSchema request.identity.requestId = true := by
    simp only [RunnerInteractionRequest.valid, RunnerInteractionIdentity.valid, Bool.and_eq_true] at valid
    simp [valid]
  cases settlement with
  | none => simp [RunnerInteractionSnapshot.valid, snapshotOf, known, valid]
  | some winner =>
    have holds := settled winner rfl
    cases winner with
    | response =>
      simp only [RunnerInteractionSettlement.valid, Bool.and_eq_true] at holds
      simp [RunnerInteractionSnapshot.valid, snapshotOf, known, valid, holds.2, RunnerInteractionSettlement.responseOf,
        RunnerInteractionSettlement.ownerResultOf]
    | ownerResult =>
      simp only [RunnerInteractionSettlement.valid, Bool.and_eq_true] at holds
      simp [RunnerInteractionSnapshot.valid, snapshotOf, known, valid, holds.2, RunnerInteractionSettlement.responseOf,
        RunnerInteractionSettlement.ownerResultOf]

end Snapshots

theorem encodedInteractionId_code {reason : InteractionError} (failed : encodedInteractionId id = .error reason) :
    reason.code ≠ some .contractInvalid := by
  unfold encodedInteractionId at failed
  split at failed
  · cases failed
  · cases failed
    simp [InteractionError.code]

theorem ensureInteractionDirectory_settles (kept : (interactionDiscipline rules).valid store) :
    SettlesAs rules (fun _ _ => True) (ensureInteractionDirectory id) store := by
  apply (lift_settles fun _ => encodedInteractionId_code).bind kept
  intro _ later _ _ _ seen valid _
  have coherent : ({ seen id with made := true } : InteractionDirectory).Coherent rules id := { valid id with }
  have moved := interactionDiscipline_update valid coherent { InteractionDirectory.Grows.refl (seen id) with made := fun _ => rfl }
  exact ⟨moved, fun _ _ _ => trivial⟩

theorem resolveExistingInteractionDirectory_settles (kept : (interactionDiscipline rules).valid store) :
    SettlesAs rules (fun _ _ => True) (resolveExistingInteractionDirectory id) store := by
  apply (lift_settles fun _ => encodedInteractionId_code).bind kept
  intro _ later _ _ _
  apply Discipline.safe_observe
  · exact fun _ _ _ _ _ _ _ _ => trivial
  intro seen _ _ reason failed _ _ _
  split at failed
  · cases failed
  · cases failed
    simp [InteractionError.code]

structure WinnerRead (id : String) (start : InteractionStore) (answer : Option RunnerInteractionSettlement)
    (last : InteractionStore) : Prop where
  shows : ∀ settlement, answer = some settlement → (last id).winner = some settlement
  found : answer = none → (start id).winner = none

theorem WinnerRead.keeps {start last : InteractionStore} {answer : Option RunnerInteractionSettlement}
    {settlement : RunnerInteractionSettlement} (read : WinnerRead id start answer last)
    (grown : (interactionDiscipline rules).grows start last) (won : (start id).winner = some settlement) :
    answer = some settlement := by
  cases answer with
  | none =>
    have wrong := read.found rfl
    rw [won] at wrong
    cases wrong
  | some other =>
    have shown := read.shows other rfl
    rw [(grown id).winner settlement won] at shown
    exact shown.symm

theorem readWinner_settles (request : RunnerInteractionRequest) (kept : (interactionDiscipline rules).valid store) :
    SettlesAs rules (WinnerRead id store) (readWinner rules id request) store := by
  apply (readOptional_settles settlementFile_checked).bind kept
  intro existing first holds begun observed
  cases existing with
  | some winner =>
    intro last _ further
    obtain ⟨_, _, _, after, same⟩ := observed
    have there : SettledAs id winner last := SettledAs.later same.symm ((interactionDiscipline rules).trans after further)
    exact
      { shows := fun settlement equal => by
          cases equal
          exact there.wins
        found := fun silent => by cases silent }
  | none =>
    have absent : (store id).settlement = none := observed.absent_before fun grows => grows.settlement
    apply (readLegacySettlement_settles request holds).mono
    · intro legacy last _ read
      refine { shows := read.wins, found := fun silent => ?_ }
      have first := read.absent silent
      have response : (store id).response = none := InteractionDirectory.absent_of_kept (begun id).response first.1
      have owner : (store id).ownerResult = none := InteractionDirectory.absent_of_kept (begun id).ownerResult first.2
      simp [InteractionDirectory.winner, absent, response, owner]
    · exact fun _ _ _ code => code

theorem readSettlement_settles (request : RunnerInteractionRequest) (kept : (interactionDiscipline rules).valid store) :
    SettlesAs rules (WinnerRead id store) (readSettlement rules id request) store := by
  apply (readWinner_settles request kept).bind kept
  intro answer first holds _ read
  cases answer with
  | none =>
    intro last _ _
    exact
      { shows := fun _ silent => by cases silent
        found := read.found }
  | some settlement =>
    apply (lift_settles fun _ => validateSettlementForRequest_code).bind holds
    intro _ second coherent grown _
    have won := (grown id).winner settlement (read.shows settlement rfl)
    apply (validateMaterializedSettlement_settles coherent won fun required => by cases required).bind coherent
    intro _ third _ further _ last _ after
    exact
      { shows := fun other same => by cases same; exact (after id).winner _ ((further id).winner _ won)
        found := fun silent => by cases silent }

theorem request_known {request : RunnerInteractionRequest} {last : InteractionStore}
    (observed : Observed rules id store requestFile (some request) last) :
    request.valid rules = true ∧ request.identity.requestId = id := by
  obtain ⟨seen, valid, -, -, same⟩ := observed
  obtain ⟨file, found, rfl⟩ := Option.map_eq_some_iff.mp same.symm
  exact (valid id).request file found

structure SnapshotRead (id : String) (start : InteractionStore) (snapshot : RunnerInteractionSnapshot)
    (last : InteractionStore) : Prop where
  shows : ∀ settlement, snapshot.winner = some settlement → (last id).winner = some settlement
  keeps : ∀ settlement, (start id).winner = some settlement → snapshot.winner = some settlement
  pending : snapshot.status = .pending ↔ snapshot.winner = none

theorem readSnapshot_settles (kept : (interactionDiscipline rules).valid store) :
    SettlesAs rules (SnapshotRead id store) (readSnapshot rules id) store := by
  apply (resolveExistingInteractionDirectory_settles kept).bind kept
  intro _ first holds begun _
  apply (readPrivateJson_settles requestFile_checked).bind holds
  intro request second coherent grown observed
  have known := request_known observed
  rw [if_pos known.2]
  apply (readSettlement_settles request coherent).bind coherent
  intro settlement third further more seen
  have settled : ∀ winner, settlement = some winner → winner.valid rules = true := by
    intro winner same
    exact (further id).winner_valid (seen.shows winner same)
  rw [parseContract_of_valid (snapshotOf_valid known.1 settled)]
  intro last _ after
  exact
    { shows := fun winner shown => by
        rw [snapshotOf_winner settled] at shown
        exact (after id).winner winner (seen.shows winner shown)
      keeps := fun winner won => by
        rw [snapshotOf_winner settled]
        exact seen.keeps more ((grown id).winner winner ((begun id).winner winner won))
      pending := by
        rw [snapshotOf_winner settled]
        exact snapshotOf_pending_iff }

variable {call : Nat}

theorem createRequest_settles {request : RunnerInteractionRequest} (valid : request.valid rules = true)
    (kept : (interactionDiscipline rules).valid store) :
    SettlesAs rules (SnapshotRead request.identity.requestId store) (createRequest rules call request) store := by
  unfold createRequest
  rw [parseContract_of_valid valid]
  apply (ensureInteractionDirectory_settles kept).bind kept
  intro _ first holds begun _
  have reads : ∀ later, (interactionDiscipline rules).valid later → (interactionDiscipline rules).grows store later →
      SettlesAs rules (SnapshotRead request.identity.requestId store) (readSnapshot rules request.identity.requestId) later := by
    intro later coherent grown
    apply (readSnapshot_settles coherent).mono
    · intro snapshot last _ read
      exact
        { shows := read.shows
          keeps := fun settlement won => read.keeps settlement ((grown _).winner settlement won)
          pending := read.pending }
    · exact fun _ _ _ code => code
  have published : SettlesAs rules (fun _ _ => True)
      (publishPrivateJsonExclusive request.identity.requestId call requestFile request) first := by
    apply publishPrivateJsonExclusive_settles
    · exact fun later coherent _ absent => (coherent _).putRequest absent valid rfl
    · exact fun _ _ _ _ => trivial
    · exact fun _ _ _ _ _ _ => trivial
  apply published.bind holds
  intro publication second coherent grown _
  cases publication with
  | created => exact reads second coherent ((interactionDiscipline rules).trans begun grown)
  | «exists» =>
    apply (readPrivateJson_settles requestFile_checked).bind coherent
    intro existing third further more _
    by_cases same : existing = request
    · rw [if_pos same]
      exact reads third further ((interactionDiscipline rules).trans begun ((interactionDiscipline rules).trans grown more))
    · rw [if_neg same]
      exact fun _ _ _ => by simp [InteractionError.code]

variable {response : RunnerPermissionInteractionResponse} {result : RunnerInteractionOwnerResult}

theorem receiptOf_valid {request : RunnerInteractionRequest}
    {selectedOption : Option RunnerPermissionOption} (known : request.valid rules = true) (valid : response.valid rules = true)
    (validated : validateResponseForRequest request response = .ok selectedOption) :
    (receiptOf response selectedOption).valid rules = true := by
  simp only [RunnerPermissionInteractionResponse.valid, Bool.and_eq_true] at valid
  unfold validateResponseForRequest at validated
  split at validated
  · split at validated
    · rename_i cancelled
      cases validated
      have decision := valid.1.1.1.1.2
      rw [cancelled] at decision
      simp [RunnerInteractionResponseReceipt.valid, receiptOf, valid, cancelled, decision]
    · rename_i optionId selected
      split at validated
      · cases validated
      rename_i option found
      cases validated
      have member := mem_of_find?_eq_some found
      have own := find?_some found
      simp only [beq_iff_eq] at own
      have options : option.valid rules = true := by
        simp only [RunnerInteractionRequest.valid, Bool.and_eq_true, all_eq_true] at known
        exact known.1.2 option member
      have decision := valid.1.1.1.1.2
      rw [selected] at decision
      simp [RunnerInteractionResponseReceipt.valid, receiptOf, valid, selected, decision, options, own]
  · cases validated

theorem alreadySettledError_code {settlement : RunnerInteractionSettlement} :
    (alreadySettledError settlement).code ≠ some .contractInvalid := by
  cases settlement with
  | response => simp [alreadySettledError, InteractionError.code]
  | ownerResult => simp [alreadySettledError, InteractionError.code]

structure ReceiptRead (call : Nat) (response : RunnerPermissionInteractionResponse) (receipt : RunnerInteractionResponseReceipt)
    (last : InteractionStore) : Prop where
  won : SettledAs response.identity.requestId (.response runnerInteractionSettlementVersion response) last
  linked : (last response.identity.requestId).settlement.bind (·.linkedBy) = some call
  receipt : ∃ selectedOption, receipt = receiptOf response selectedOption

theorem createResponse_settles (valid : response.valid rules = true)
    (kept : (interactionDiscipline rules).valid store) :
    SettlesAs rules (ReceiptRead call response) (createResponse rules call response) store := by
  unfold createResponse
  rw [parseContract_of_valid valid]
  apply (resolveExistingInteractionDirectory_settles kept).bind kept
  intro _ first holds _ _
  apply (readPrivateJson_settles requestFile_checked).bind holds
  intro request second coherent _ observed
  apply (lift_settles fun _ => validateResponseForRequest_code).bind coherent
  intro selectedOption third further _ validated
  have proposed : (RunnerInteractionSettlement.response runnerInteractionSettlementVersion response).valid rules = true := by
    simp [RunnerInteractionSettlement.valid, valid]
  apply (settle_settles further proposed).bind further
  intro result fourth _ _ done
  by_cases lost : (!result.accepted || result.winner.responseOf.isNone) = true
  · rw [if_pos lost]
    exact fun _ _ _ => alreadySettledError_code
  · rw [if_neg lost, parseContract_of_valid (receiptOf_valid (request_known observed).1 valid validated)]
    simp only [Bool.or_eq_true, not_or, Bool.not_eq_true', Bool.not_eq_false] at lost
    intro last _ after
    have kept := done.later after
    have own := kept.accepted lost.1
    exact
      { won := own.1 ▸ kept.settled
        linked := own.2
        receipt := ⟨selectedOption, rfl⟩ }

theorem settleOwnerResult_settles (valid : result.valid rules = true)
    (kept : (interactionDiscipline rules).valid store) :
    SettlesAs rules (SettledBy result.identity.requestId call (.ownerResult runnerInteractionSettlementVersion result))
      (settleOwnerResult rules call result) store := by
  unfold settleOwnerResult
  rw [parseContract_of_valid valid]
  apply (resolveExistingInteractionDirectory_settles kept).bind kept
  intro _ first holds _ _
  apply (readPrivateJson_settles requestFile_checked).bind holds
  intro request second coherent _ _
  apply (lift_settles fun _ => validateSettlementForRequest_code).bind coherent
  intro _ third further _ _
  have proposed : (RunnerInteractionSettlement.ownerResult runnerInteractionSettlementVersion result).valid rules = true := by
    simp [RunnerInteractionSettlement.valid, valid]
  exact settle_settles further proposed

theorem createOwnerResult_settles (valid : result.valid rules = true)
    (kept : (interactionDiscipline rules).valid store) :
    SettlesAs rules (fun answer last => SettledAs result.identity.requestId (.ownerResult runnerInteractionSettlementVersion answer) last)
      (createOwnerResult rules call result) store := by
  apply (settleOwnerResult_settles valid kept).bind kept
  intro settlement first holds _ done
  by_cases own : settlement.winner.ownerResultOf = some result
  · rw [if_pos own]
    intro last _ after
    have settled := done.settled
    rw [(RunnerInteractionSettlement.eq_ownerResult ((holds _).winner_valid settled.wins) own).1] at settled
    exact settled.later after
  · rw [if_neg own]
    exact fun _ _ _ => alreadySettledError_code

end PlanWeave
