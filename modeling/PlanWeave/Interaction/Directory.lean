import PlanWeave.Interaction.Store

namespace PlanWeave
open RunnerInteractionSettlement

namespace InteractionDirectory

/-- The settlement, or what the derived files of an older version stand for. -/
def winner (directory : InteractionDirectory) : Option RunnerInteractionSettlement :=
  match directory.settlement, directory.response, directory.ownerResult with
  | some settlement, _, _ => some settlement.document
  | none, some response, _ => some (.response runnerInteractionSettlementVersion response.document)
  | none, none, some ownerResult => some (.ownerResult runnerInteractionSettlementVersion ownerResult.document)
  | none, none, none => none

structure Coherent (rules : InteractionTextRules) (id : String) (directory : InteractionDirectory) : Prop where
  request : ∀ file, directory.request = some file → file.document.valid rules = true ∧ file.document.identity.requestId = id
  response : ∀ file, directory.response = some file → file.document.valid rules = true
  ownerResult : ∀ file, directory.ownerResult = some file → file.document.valid rules = true
  settlement : ∀ file, directory.settlement = some file → file.document.valid rules = true
  single : directory.response = none ∨ directory.ownerResult = none
  derivedResponse : ∀ settled file, directory.settlement = some settled → directory.response = some file →
    settled.document.responseOf = some file.document
  derivedOwnerResult : ∀ settled file, directory.settlement = some settled → directory.ownerResult = some file →
    settled.document.ownerResultOf = some file.document

structure Grows (before after : InteractionDirectory) : Prop where
  made : before.made = true → after.made = true
  request : ∀ file, before.request = some file → after.request = some file
  response : ∀ file, before.response = some file → after.response = some file
  ownerResult : ∀ file, before.ownerResult = some file → after.ownerResult = some file
  settlement : ∀ file, before.settlement = some file → after.settlement = some file
  unsettled : after.settlement = none → after.response = before.response ∧ after.ownerResult = before.ownerResult
  winner : ∀ settlement, before.winner = some settlement → after.winner = some settlement

variable {rules : InteractionTextRules} {id : String} {directory middle last : InteractionDirectory}

theorem winner_of_settlement {file : PublishedDocument RunnerInteractionSettlement} (settled : directory.settlement = some file) :
    directory.winner = some file.document := by
  unfold winner
  simp [settled]

variable {file : PublishedDocument RunnerPermissionInteractionResponse}
variable {settled : PublishedDocument RunnerInteractionSettlement}

section
variable (coherent : directory.Coherent rules id)
include coherent

theorem Coherent.winner_of_response (found : directory.response = some file) :
    directory.winner = some (.response runnerInteractionSettlementVersion file.document) := by
  cases settled : directory.settlement with
  | none => simp [winner, settled, found]
  | some settlement =>
    have holds := coherent.derivedResponse settlement file settled found
    rw [winner_of_settlement settled, (eq_response (coherent.settlement _ settled) holds).1]

theorem Coherent.winner_of_ownerResult
    {file : PublishedDocument RunnerInteractionOwnerResult} (found : directory.ownerResult = some file) :
    directory.winner = some (.ownerResult runnerInteractionSettlementVersion file.document) := by
  cases settled : directory.settlement with
  | none =>
    have alone : directory.response = none := by
      cases coherent.single with
      | inl none => exact none
      | inr none => rw [none] at found; cases found
    simp [winner, settled, found, alone]
  | some settlement =>
    have holds := coherent.derivedOwnerResult settlement file settled found
    rw [winner_of_settlement settled, (eq_ownerResult (coherent.settlement _ settled) holds).1]

theorem Coherent.winner_valid {settlement : RunnerInteractionSettlement}
    (won : directory.winner = some settlement) : settlement.valid rules = true := by
  cases settled : directory.settlement with
  | some file =>
    rw [winner_of_settlement settled] at won
    cases won
    exact coherent.settlement file settled
  | none =>
    cases answered : directory.response with
    | some file =>
      rw [coherent.winner_of_response answered] at won
      cases won
      simp [RunnerInteractionSettlement.valid, coherent.response file answered]
    | none =>
      cases expired : directory.ownerResult with
      | some file =>
        rw [coherent.winner_of_ownerResult expired] at won
        cases won
        simp [RunnerInteractionSettlement.valid, coherent.ownerResult file expired]
      | none => simp [winner, settled, answered, expired] at won
end

theorem Grows.refl (directory : InteractionDirectory) : directory.Grows directory where
  made holds := holds
  request _ found := found
  response _ found := found
  ownerResult _ found := found
  settlement _ found := found
  unsettled _ := ⟨rfl, rfl⟩
  winner _ won := won

theorem absent_of_kept {α : Type} {before after : Option α} (kept : ∀ file, before = some file → after = some file)
    (absent : after = none) : before = none := by
  cases found : before with
  | none => rfl
  | some file =>
    rw [kept file found] at absent
    cases absent

theorem Grows.trans (first : directory.Grows middle) (second : middle.Grows last) : directory.Grows last where
  made holds := second.made (first.made holds)
  request file found := second.request file (first.request file found)
  response file found := second.response file (first.response file found)
  ownerResult file found := second.ownerResult file (first.ownerResult file found)
  settlement file found := second.settlement file (first.settlement file found)
  unsettled open_ := by
    have later := second.unsettled open_
    have earlier := first.unsettled (absent_of_kept second.settlement open_)
    exact ⟨later.1.trans earlier.1, later.2.trans earlier.2⟩
  winner settlement won := second.winner settlement (first.winner settlement won)

section
variable (coherent : directory.Coherent rules id)
include coherent

theorem Coherent.putResponse (present : directory.settlement = some settled)
    (absent : directory.response = none) (derived : settled.document.responseOf = some file.document) :
    (responseFile.put file directory).Coherent rules id ∧ directory.Grows (responseFile.put file directory) := by
  obtain ⟨same, holds⟩ := eq_response (coherent.settlement settled present) derived
  have alone : directory.ownerResult = none := by
    cases found : directory.ownerResult with
    | none => rfl
    | some other =>
      have wrong := coherent.derivedOwnerResult settled other present found
      rw [same] at wrong
      cases wrong
  constructor
  · exact
      { coherent with
        response := fun other found => by cases found; exact holds
        single := .inr alone
        derivedResponse := fun other added held found => by
          cases found
          cases present.symm.trans held
          exact derived }
  · exact
      { Grows.refl directory with
        response := fun other found => by rw [absent] at found; cases found
        unsettled := fun open_ => by simp [responseFile, present] at open_
        winner := fun settlement won => by
          rw [winner_of_settlement present] at won
          rw [← won]
          exact winner_of_settlement present }

theorem Coherent.putOwnerResult {file : PublishedDocument RunnerInteractionOwnerResult}
    (present : directory.settlement = some settled) (absent : directory.ownerResult = none)
    (derived : settled.document.ownerResultOf = some file.document) :
    (ownerResultFile.put file directory).Coherent rules id ∧ directory.Grows (ownerResultFile.put file directory) := by
  obtain ⟨same, holds⟩ := eq_ownerResult (coherent.settlement settled present) derived
  have alone : directory.response = none := by
    cases found : directory.response with
    | none => rfl
    | some other =>
      have wrong := coherent.derivedResponse settled other present found
      rw [same] at wrong
      cases wrong
  constructor
  · exact
      { coherent with
        ownerResult := fun other found => by cases found; exact holds
        single := .inl alone
        derivedOwnerResult := fun other added held found => by
          cases found
          cases present.symm.trans held
          exact derived }
  · exact
      { Grows.refl directory with
        ownerResult := fun other found => by rw [absent] at found; cases found
        unsettled := fun open_ => by simp [ownerResultFile, present] at open_
        winner := fun settlement won => by
          rw [winner_of_settlement present] at won
          rw [← won]
          exact winner_of_settlement present }

theorem Coherent.putSettlement {file : PublishedDocument RunnerInteractionSettlement} (absent : directory.settlement = none)
    (valid : file.document.valid rules = true) (keeps : ∀ settlement, directory.winner = some settlement → settlement = file.document) :
    (settlementFile.put file directory).Coherent rules id ∧ directory.Grows (settlementFile.put file directory) := by
  constructor
  · exact
      { coherent with
        settlement := fun other found => by cases found; exact valid
        derivedResponse := fun other response found held => by
          cases found
          rw [← keeps _ (coherent.winner_of_response held)]
          rfl
        derivedOwnerResult := fun other ownerResult found held => by
          cases found
          rw [← keeps _ (coherent.winner_of_ownerResult held)]
          rfl }
  · exact
      { Grows.refl directory with
        settlement := fun other found => by rw [absent] at found; cases found
        unsettled := fun open_ => by cases open_
        winner := fun settlement won => by
          rw [keeps settlement won]
          rfl }

theorem Coherent.putRequest {file : PublishedDocument RunnerInteractionRequest}
    (absent : directory.request = none) (valid : file.document.valid rules = true) (own : file.document.identity.requestId = id) :
    (requestFile.put file directory).Coherent rules id ∧ directory.Grows (requestFile.put file directory) := by
  constructor
  · exact { coherent with request := fun other found => by cases found; exact ⟨valid, own⟩ }
  · exact { Grows.refl directory with request := fun other found => by rw [absent] at found; cases found }
end
end InteractionDirectory

def interactionDiscipline (rules : InteractionTextRules) : Discipline InteractionStore where
  valid store := ∀ id, (store id).Coherent rules id
  grows before after := ∀ id, (before id).Grows (after id)
  refl store id := InteractionDirectory.Grows.refl (store id)
  trans first second id := (first id).trans (second id)

theorem interactionDiscipline_update {rules : InteractionTextRules} {store : InteractionStore} {id : String}
    {directory : InteractionDirectory} (kept : (interactionDiscipline rules).valid store)
    (coherent : directory.Coherent rules id) (grows : (store id).Grows directory) :
    (interactionDiscipline rules).valid (Function.update store id directory) ∧
      (interactionDiscipline rules).grows store (Function.update store id directory) := by
  constructor
  · intro other
    by_cases same : other = id
    · subst other
      simpa using coherent
    · simpa [Function.update_of_ne same] using kept other
  · intro other
    by_cases same : other = id
    · subst other
      simpa using grows
    · simpa [Function.update_of_ne same] using InteractionDirectory.Grows.refl (store other)

end PlanWeave
