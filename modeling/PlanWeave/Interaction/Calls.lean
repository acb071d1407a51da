import PlanWeave.Interaction.Directory

namespace PlanWeave
open InteractionError Option
variable {rules : InteractionTextRules} {id : String} {store : InteractionStore} {Document : Type}

abbrev SettlesAs (rules : InteractionTextRules) {α : Type} (returned : α → InteractionStore → Prop) (program : InteractionProgram α)
    (store : InteractionStore) : Prop :=
  (interactionDiscipline rules).Safe returned (fun reason _ => reason.code ≠ some .contractInvalid) program store

def Observed (rules : InteractionTextRules) (id : String) (start : InteractionStore) (file : InteractionFile Document)
    (answer : Option Document) (last : InteractionStore) : Prop :=
  ∃ seen, (interactionDiscipline rules).valid seen ∧ (interactionDiscipline rules).grows start seen ∧
    (interactionDiscipline rules).grows seen last ∧ answer = (file.find (seen id)).map (·.document)

variable {file : InteractionFile Document} {call : Nat} {reason : InteractionError}
variable {request : RunnerInteractionRequest} {settlement : RunnerInteractionSettlement}

theorem Observed.later {start middle last : InteractionStore} {answer : Option Document}
    (observed : Observed rules id start file answer middle) (grown : (interactionDiscipline rules).grows middle last) :
    Observed rules id start file answer last := by
  obtain ⟨seen, kept, before, after, same⟩ := observed
  exact ⟨seen, kept, before, (interactionDiscipline rules).trans after grown, same⟩

def InteractionFile.Checked (rules : InteractionTextRules) (file : InteractionFile Document) : Prop :=
  ∀ id directory, InteractionDirectory.Coherent rules id directory → ∀ found, file.find directory = some found →
    file.valid rules found.document = true

theorem requestFile_checked : requestFile.Checked rules := fun _ _ coherent found present => (coherent.request found present).1

theorem responseFile_checked : responseFile.Checked rules := fun _ _ coherent found present => coherent.response found present

theorem ownerResultFile_checked : ownerResultFile.Checked rules :=
  fun _ _ coherent found present => coherent.ownerResult found present

theorem settlementFile_checked : settlementFile.Checked rules :=
  fun _ _ coherent found present => coherent.settlement found present

theorem parseContract_of_valid {α : Type} {valid : Bool} {value : α} {subject : String} (holds : valid = true) :
    parseContract valid value subject = .ok value := by
  unfold parseContract
  rw [if_pos holds]

theorem readOptional_settles (checked : file.Checked rules) :
    SettlesAs rules (fun answer last => Observed rules id store file answer last) (readOptional rules id file) store := by
  apply Discipline.safe_observe
  · intro seen kept grown answer looked last valid further
    refine ⟨seen, kept, grown, further, ?_⟩
    cases found : file.find (seen id) with
    | none =>
      rw [found] at looked
      cases looked
      rfl
    | some document =>
      rw [found] at looked
      simp only [parseContract_of_valid (checked id _ (kept id) document found), Except.map] at looked
      cases looked
      rfl
  · intro seen kept _ reason looked
    cases found : file.find (seen id) with
    | none => rw [found] at looked; cases looked
    | some document =>
      rw [found] at looked
      simp only [parseContract_of_valid (checked id _ (kept id) document found), Except.map] at looked
      cases looked

theorem readPrivateJson_settles (checked : file.Checked rules) :
    SettlesAs rules (fun document last => Observed rules id store file (some document) last) (readPrivateJson rules id file)
      store := by
  apply Discipline.safe_observe
  · intro seen kept grown answer looked last valid further
    refine ⟨seen, kept, grown, further, ?_⟩
    cases found : file.find (seen id) with
    | none => rw [found] at looked; cases looked
    | some document =>
      rw [found] at looked
      simp only [parseContract_of_valid (checked id _ (kept id) document found)] at looked
      cases looked
      rfl
  · intro seen kept _ reason looked last valid further
    cases found : file.find (seen id) with
    | none =>
      rw [found] at looked
      cases looked
      simp [code]
    | some document =>
      rw [found] at looked
      simp only [parseContract_of_valid (checked id _ (kept id) document found)] at looked
      cases looked

theorem publishPrivateJsonExclusive_settles {document : Document} {returned : Publication → InteractionStore → Prop}
    (adds : ∀ later, (interactionDiscipline rules).valid later → (interactionDiscipline rules).grows store later →
      file.find (later id) = none → InteractionDirectory.Coherent rules id (file.put ⟨document, some call⟩ (later id)) ∧
        (later id).Grows (file.put ⟨document, some call⟩ (later id)))
    (created : ∀ last directory, (interactionDiscipline rules).grows store last →
      (file.put ⟨document, some call⟩ directory).Grows (last id) → returned .created last)
    (exists_ : ∀ last directory found, (interactionDiscipline rules).grows store last → directory.Grows (last id) →
      file.find directory = some found → returned .exists last) :
    SettlesAs rules returned (publishPrivateJsonExclusive id call file document) store := by
  intro later kept grown
  cases found : file.find (later id) with
  | some present =>
    have same : later.linked id file ⟨document, some call⟩ = later := by simp [InteractionStore.linked, found]
    simp only [same, found, isSome_some, if_true]
    refine ⟨⟨kept, (interactionDiscipline rules).refl later⟩, fun last _ further => ?_⟩
    exact exists_ last (later id) present ((interactionDiscipline rules).trans grown further) (further id) found
  | none =>
    have added : later.linked id file ⟨document, some call⟩ =
        Function.update later id (file.put ⟨document, some call⟩ (later id)) := by simp [InteractionStore.linked, found]
    have keeps := adds later kept grown found
    have moves := interactionDiscipline_update kept keeps.1 keeps.2
    simp only [added, found]
    refine ⟨moves, fun last _ further => ?_⟩
    apply created last (later id)
    · exact (interactionDiscipline rules).trans grown ((interactionDiscipline rules).trans moves.2 further)
    · simpa using further id

theorem validateResponseForRequest_code {response : RunnerPermissionInteractionResponse}
    (failed : validateResponseForRequest request response = .error reason) : reason.code ≠ some .contractInvalid := by
  unfold validateResponseForRequest at failed
  split at failed
  · split at failed
    · cases failed
    · split at failed
      · cases failed
        simp [code]
      · cases failed
  · cases failed
    simp [identityMismatch, code]

theorem validateSettlementForRequest_code (failed : validateSettlementForRequest request settlement = .error reason) :
    reason.code ≠ some .contractInvalid := by
  cases settlement with
  | response _ response =>
    simp only [validateSettlementForRequest] at failed
    cases validated : validateResponseForRequest request response with
    | ok => rw [validated] at failed; cases failed
    | error =>
      rw [validated] at failed
      cases failed
      exact validateResponseForRequest_code validated
  | ownerResult =>
    simp only [validateSettlementForRequest] at failed
    split at failed
    · cases failed
    · cases failed
      simp [identityMismatch, code]

theorem readDerived_settles (kept : (interactionDiscipline rules).valid store) :
    SettlesAs rules (fun seen last => Observed rules id store responseFile seen.1 last ∧
      Observed rules id store ownerResultFile seen.2 last)
      (Process.both (readOptional rules id responseFile) (readOptional rules id ownerResultFile)) store := by
  apply Discipline.safe_both (fun value last => Observed rules id store responseFile value last)
    (fun value last => Observed rules id store ownerResultFile value last) kept
  · intro last _ grown
    refine (readOptional_settles responseFile_checked).mono ?_ fun _ _ _ holds => holds
    rintro _ _ - ⟨seen, coherent, before, after, same⟩
    exact ⟨seen, coherent, (interactionDiscipline rules).trans grown before, after, same⟩
  · intro last _ grown
    refine (readOptional_settles ownerResultFile_checked).mono ?_ fun _ _ _ holds => holds
    rintro _ _ - ⟨seen, coherent, before, after, same⟩
    exact ⟨seen, coherent, (interactionDiscipline rules).trans grown before, after, same⟩
  · exact fun _ _ _ further observed => observed.later further
  · exact fun _ _ _ further observed => observed.later further
  · exact fun _ _ _ _ _ first second => ⟨first, second⟩

namespace Observed
variable {last : InteractionStore} {response : RunnerPermissionInteractionResponse} {ownerResult : RunnerInteractionOwnerResult}

theorem response_wins (observed : Observed rules id store responseFile (some response) last) :
    (last id).winner = some (.response runnerInteractionSettlementVersion response) := by
  obtain ⟨seen, kept, -, after, same⟩ := observed
  cases found : (seen id).response with
  | none => simp [responseFile, found] at same
  | some =>
    simp only [responseFile, found, map_some, Option.some.injEq] at same
    have won := (kept id).winner_of_response found
    rw [same]
    exact (after id).winner _ won

theorem ownerResult_wins (observed : Observed rules id store ownerResultFile (some ownerResult) last) :
    (last id).winner = some (.ownerResult runnerInteractionSettlementVersion ownerResult) := by
  obtain ⟨seen, kept, -, after, same⟩ := observed
  cases found : (seen id).ownerResult with
  | none => simp [ownerResultFile, found] at same
  | some =>
    simp only [ownerResultFile, found, map_some, Option.some.injEq] at same
    have won := (kept id).winner_of_ownerResult found
    rw [same]
    exact (after id).winner _ won

theorem absent_before (grows : ∀ {before after : InteractionDirectory}, before.Grows after →
      ∀ found, (file : InteractionFile Document).find before = some found → file.find after = some found)
    (observed : Observed rules id store file none last) : file.find (store id) = none := by
  obtain ⟨_, -, before, -, same⟩ := observed
  cases found : file.find (store id) with
  | none => rfl
  | some present =>
    rw [grows (before id) present found] at same
    cases same

theorem absent_unsettled (observed : Observed rules id store responseFile none last)
    (expired : Observed rules id store ownerResultFile none last) (unsettled : (last id).settlement = none) :
    (last id).winner = none := by
  obtain ⟨seen, -, -, after, same⟩ := observed
  obtain ⟨looked, -, -, further, equal⟩ := expired
  have response : (seen id).response = none := by simpa [responseFile] using same.symm
  have owner : (looked id).ownerResult = none := by simpa [ownerResultFile] using equal.symm
  have first : (last id).response = none := ((after id).unsettled unsettled).1.trans response
  have second : (last id).ownerResult = none := ((further id).unsettled unsettled).2.trans owner
  simp [InteractionDirectory.winner, unsettled, first, second]

end Observed

theorem lift_settles {α : Type} {value : Except InteractionError α}
    (codes : ∀ reason, value = .error reason → reason.code ≠ some .contractInvalid) :
    SettlesAs rules (fun result _ => value = .ok result) (Process.lift value) store := by
  apply Discipline.safe_lift
  · exact fun result same _ _ _ => same
  · exact fun reason same _ _ _ => codes reason same

structure LegacyRead (id : String) (start : InteractionStore) (legacy : Option RunnerInteractionSettlement)
    (last : InteractionStore) : Prop where
  wins : ∀ settlement, legacy = some settlement → (last id).winner = some settlement
  absent : legacy = none → (start id).response = none ∧ (start id).ownerResult = none
  unsettled : legacy = none → (last id).settlement = none → (last id).winner = none

theorem readLegacySettlement_settles (request : RunnerInteractionRequest) (kept : (interactionDiscipline rules).valid store) :
    SettlesAs rules (LegacyRead id store) (readLegacySettlement rules id request) store := by
  apply (readDerived_settles kept).bind kept
  rintro ⟨response, ownerResult⟩ _ valid _ ⟨answered, expired⟩
  cases response with
  | some =>
    cases ownerResult with
    | some =>
      have first := answered.response_wins
      have second := expired.ownerResult_wins
      rw [first] at second
      cases second
    | none =>
      apply (lift_settles fun _ => validateResponseForRequest_code).bind valid
      intro option last _ further _ final _ after
      have reached := (answered.later further).later after
      exact
        { wins := fun settlement same => by cases same; exact reached.response_wins
          absent := fun none => by cases none
          unsettled := fun none => by cases none }
  | none =>
    cases ownerResult with
    | some =>
      apply (lift_settles fun _ => validateSettlementForRequest_code).bind valid
      intro checked last _ further _ final _ after
      have reached := (expired.later further).later after
      exact
        { wins := fun settlement same => by cases same; exact reached.ownerResult_wins
          absent := fun none => by cases none
          unsettled := fun none => by cases none }
    | none =>
      intro last _ further
      have response := answered.later further
      have owner := expired.later further
      exact
        { wins := fun settlement same => by cases same
          absent := fun _ => ⟨response.absent_before fun grows => grows.response, owner.absent_before fun grows => grows.ownerResult⟩
          unsettled := fun _ => response.absent_unsettled owner }

variable {requireTarget : Bool} {proposed : RunnerInteractionSettlement}

theorem checkMaterializedSettlement_code {response : Option RunnerPermissionInteractionResponse}
    {ownerResult : Option RunnerInteractionOwnerResult}
    (answered : ∀ document, response = some document → settlement.responseOf = some document)
    (expired : ∀ document, ownerResult = some document → settlement.ownerResultOf = some document)
    (target : requireTarget = true → response.isSome = true ∨ ownerResult.isSome = true)
    (failed : checkMaterializedSettlement request settlement requireTarget response ownerResult = .error reason) :
    reason.code ≠ some .contractInvalid := by
  cases settlement with
  | response _ settled =>
    have alone : ownerResult = none := by
      cases ownerResult with
      | none => rfl
      | some document => cases expired document rfl
    subst alone
    cases response with
    | none =>
      have loose : requireTarget = false := by simpa using target
      simp [checkMaterializedSettlement, loose] at failed
    | some document =>
      have same : settled = document := by simpa [RunnerInteractionSettlement.responseOf] using answered document rfl
      simp only [checkMaterializedSettlement, isSome_none, Bool.false_eq_true, if_false, same, if_true] at failed
      cases validated : validateResponseForRequest request document with
      | ok => rw [validated] at failed; cases failed
      | error =>
        rw [validated] at failed
        cases failed
        exact validateResponseForRequest_code validated
  | ownerResult version settled =>
    have alone : response = none := by
      cases response with
      | none => rfl
      | some document => cases answered document rfl
    subst alone
    cases ownerResult with
    | none =>
      have loose : requireTarget = false := by simpa using target
      simp [checkMaterializedSettlement, loose] at failed
    | some document =>
      have same : settled = document := by simpa [RunnerInteractionSettlement.ownerResultOf] using expired document rfl
      simp only [checkMaterializedSettlement, isSome_none, Bool.false_eq_true, if_false, same, if_true] at failed
      cases validated : validateSettlementForRequest request (.ownerResult version document) with
      | ok => rw [validated] at failed; cases failed
      | error =>
        rw [validated] at failed
        cases failed
        exact validateSettlementForRequest_code validated

theorem validateMaterializedSettlement_settles
    (kept : (interactionDiscipline rules).valid store) (won : (store id).winner = some settlement)
    (target : requireTarget = true → (store id).response.isSome = true ∨ (store id).ownerResult.isSome = true) :
    SettlesAs rules (fun _ _ => True) (validateMaterializedSettlement rules id request settlement requireTarget) store := by
  apply (readDerived_settles kept).bind kept
  rintro ⟨response, ownerResult⟩ _ _ grown ⟨answered, expired⟩
  have still := (grown id).winner settlement won
  refine (lift_settles fun reason failed => checkMaterializedSettlement_code ?_ ?_ ?_ failed).mono (fun _ _ _ _ => trivial)
    fun _ _ _ holds => holds
  · intro document same
    rw [same] at answered
    have wins := answered.response_wins
    rw [still] at wins
    cases wins
    rfl
  · intro document same
    rw [same] at expired
    have wins := expired.ownerResult_wins
    rw [still] at wins
    cases wins
    rfl
  · intro required
    cases response with
    | some => exact .inl rfl
    | none =>
      cases ownerResult with
      | some => exact .inr rfl
      | none =>
        have first : (store id).response = none := answered.absent_before fun grows => grows.response
        have second : (store id).ownerResult = none := expired.absent_before fun grows => grows.ownerResult
        simpa [first, second] using target required

def SettledAs (id : String) (settlement : RunnerInteractionSettlement) (store : InteractionStore) : Prop :=
  (store id).settlement.map (·.document) = some settlement

section
variable (settled : SettledAs id settlement store)
include settled

theorem SettledAs.later {last : InteractionStore}
    (grown : (interactionDiscipline rules).grows store last) : SettledAs id settlement last := by
  unfold SettledAs at settled ⊢
  cases found : (store id).settlement with
  | none => rw [found] at settled; cases settled
  | some file =>
    rw [(grown id).settlement file found, ← settled, found]

theorem SettledAs.wins : (store id).winner = some settlement := by
  unfold SettledAs at settled
  cases found : (store id).settlement with
  | none => rw [found] at settled; cases settled
  | some =>
    rw [InteractionDirectory.winner_of_settlement found]
    simpa [found] using settled

theorem publishTarget_settles :
    SettlesAs rules (fun _ last => (last id).response.isSome = true ∨ (last id).ownerResult.isSome = true)
      (publishTarget id call settlement) store := by
  have present : ∀ later, (interactionDiscipline rules).grows store later →
      ∃ file, (later id).settlement = some file ∧ file.document = settlement := by
    intro later grown
    have there := settled.later grown
    unfold SettledAs at there
    cases found : (later id).settlement with
    | none => rw [found] at there; cases there
    | some file => exact ⟨file, rfl, by simpa [found] using there⟩
  cases settlement with
  | response _ response =>
    apply publishPrivateJsonExclusive_settles
    · intro later valid grown absent
      obtain ⟨_, found, same⟩ := present later grown
      exact (valid id).putResponse found absent (by rw [same]; rfl)
    · intro last directory _ grown
      exact .inl (by rw [grown.response _ rfl]; rfl)
    · intro last directory file _ grown found
      exact .inl (by rw [grown.response file found]; rfl)
  | ownerResult _ ownerResult =>
    apply publishPrivateJsonExclusive_settles
    · intro later valid grown absent
      obtain ⟨_, found, same⟩ := present later grown
      exact (valid id).putOwnerResult found absent (by rw [same]; rfl)
    · intro last directory _ grown
      exact .inr (by rw [grown.ownerResult _ rfl]; rfl)
    · intro last directory file _ grown found
      exact .inr (by rw [grown.ownerResult file found]; rfl)
end

theorem materializeSettlement_settles
    (kept : (interactionDiscipline rules).valid store) (settled : SettledAs id settlement store) :
    SettlesAs rules (fun _ _ => True) (materializeSettlement rules id call request settlement) store := by
  apply (publishTarget_settles settled).bind kept
  intro _ last valid grown target
  exact validateMaterializedSettlement_settles valid (settled.later grown).wins fun _ => target

structure SettledBy (id : String) (call : Nat) (proposed : RunnerInteractionSettlement) (result : RunnerInteractionSettlementResult)
    (last : InteractionStore) : Prop where
  settled : SettledAs id result.winner last
  accepted : result.accepted = true →
    result.winner = proposed ∧ (last id).settlement.bind (·.linkedBy) = some call

theorem SettledBy.later {result : RunnerInteractionSettlementResult} {first last : InteractionStore}
    (done : SettledBy id call proposed result first) (grown : (interactionDiscipline rules).grows first last) :
    SettledBy id call proposed result last where
  settled := done.settled.later grown
  accepted accepted := by
    refine ⟨(done.accepted accepted).1, ?_⟩
    have own := (done.accepted accepted).2
    cases found : (first id).settlement with
    | none => rw [found] at own; cases own
    | some file =>
      rw [(grown id).settlement file found, ← found]
      exact own

theorem settleWinner_settles (kept : (interactionDiscipline rules).valid store) (valid : proposed.valid rules = true) :
    SettlesAs rules (SettledBy id call proposed) (settleWinner rules id call request proposed) store := by
  apply (readOptional_settles settlementFile_checked).bind kept
  intro existing first holds _ observed
  cases existing with
  | some =>
    intro last _ further
    obtain ⟨_, _, _, after, same⟩ := observed
    exact
      { settled := SettledAs.later same.symm ((interactionDiscipline rules).trans after further)
        accepted := fun wrong => by cases wrong }
  | none =>
    apply (readLegacySettlement_settles request holds).bind holds
    intro legacy second coherent _ read
    have published : SettlesAs rules (fun publication last => ∃ file, (last id).settlement = some file ∧
          (publication = .created → file = ⟨legacy.getD proposed, some call⟩))
        (publishPrivateJsonExclusive id call settlementFile (legacy.getD proposed)) second := by
      apply publishPrivateJsonExclusive_settles
      · intro later further more absent
        apply (further id).putSettlement absent
        · cases legacy with
          | none => exact valid
          | some settlement => exact (coherent id).winner_valid (read.wins settlement rfl)
        · intro settlement won
          cases legacy with
          | some other =>
            have still := (more id).winner other (read.wins other rfl)
            rw [still] at won
            cases won
            rfl
          | none =>
            have before : (second id).settlement = none := InteractionDirectory.absent_of_kept (more id).settlement absent
            have unsettled := read.unsettled rfl before
            have same := (more id).unsettled absent
            have there : (later id).winner = none := by
              have first : (later id).settlement = none := absent
              unfold InteractionDirectory.winner at unsettled ⊢
              rw [first, same.1, same.2]
              rw [before] at unsettled
              exact unsettled
            rw [there] at won
            cases won
      · exact fun last directory _ added => ⟨_, added.settlement _ rfl, fun _ => rfl⟩
      · exact fun last directory file _ added found => ⟨file, added.settlement file found, fun wrong => by cases wrong⟩
    apply published.bind coherent
    intro publication third further _ there
    cases publication with
    | created =>
      intro last _ after
      obtain ⟨_, found, own⟩ := there
      have same := own rfl
      subst same
      have present := (after id).settlement _ found
      exact
        { settled := by simp [SettledAs, present]
          accepted := fun fresh => by
            have none : legacy = none := by simpa using fresh
            simp [present, none] }
    | «exists» =>
      apply (readPrivateJson_settles settlementFile_checked).bind further
      intro winner fourth _ _ observed last _ after
      obtain ⟨_, _, _, moved, same⟩ := observed
      exact
        { settled := SettledAs.later same.symm ((interactionDiscipline rules).trans moved after)
          accepted := fun wrong => by cases wrong }

theorem settle_settles (kept : (interactionDiscipline rules).valid store) (valid : proposed.valid rules = true) :
    SettlesAs rules (SettledBy id call proposed) (settle rules id call request proposed) store := by
  apply (settleWinner_settles kept valid).bind kept
  intro result first holds _ done
  apply (lift_settles fun _ => validateSettlementForRequest_code).bind holds
  intro checked second coherent grown _
  apply (materializeSettlement_settles coherent (done.settled.later grown)).bind coherent
  intro _ third _ further _ last _ after
  exact done.later ((interactionDiscipline rules).trans grown ((interactionDiscipline rules).trans further after))

end PlanWeave
