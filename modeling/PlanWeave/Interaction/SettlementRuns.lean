import PlanWeave.Interaction.Agreement

namespace PlanWeave

/-- A directory that an older version may have left: valid documents, at most one of the two answers, no settlement. -/
structure LegacyDirectory (rules : InteractionTextRules) (id : String) (directory : InteractionDirectory) : Prop where
  request : ∀ file, directory.request = some file → file.document.valid rules = true ∧ file.document.identity.requestId = id
  response : ∀ file, directory.response = some file → file.document.valid rules = true
  ownerResult : ∀ file, directory.ownerResult = some file → file.document.valid rules = true
  single : directory.response = none ∨ directory.ownerResult = none
  unsettled : directory.settlement = none

theorem LegacyDirectory.coherent {rules : InteractionTextRules} {id : String} {directory : InteractionDirectory}
    (legacy : LegacyDirectory rules id directory) : directory.Coherent rules id where
  request := legacy.request
  response := legacy.response
  ownerResult := legacy.ownerResult
  settlement file found := by rw [legacy.unsettled] at found; cases found
  single := legacy.single
  derivedResponse settled file found := by rw [legacy.unsettled] at found; cases found
  derivedOwnerResult settled file found := by rw [legacy.unsettled] at found; cases found

namespace InteractionCall

structure Answers (base : InteractionStore) (index : Nat) (call : InteractionCall) (answer : InteractionAnswer)
    (last : InteractionStore) : Prop where
  wins : ∀ winner, call.reported answer = some winner → (last call.interactionId).winner = some winner
  keeps : ∀ winner, (base call.interactionId).winner = some winner → call.reported answer = some winner
  linked : answer.accepted = true → (last call.interactionId).settlement.bind (·.linkedBy) = some index
  pending : ∀ snapshot, answer = .snapshot snapshot → (snapshot.status = .pending ↔ snapshot.winner = none)

/-- A contract error is about the input of the call alone. -/
def Fails (rules : InteractionTextRules) (call : InteractionCall) (reason : InteractionError) : Prop :=
  reason.code = some .contractInvalid → call.inputValid rules = false

variable {rules : InteractionTextRules} {base store : InteractionStore} {index : Nat}
variable {call : InteractionCall}
variable {last : InteractionStore}

theorem Answers.ofSnapshot {snapshot : RunnerInteractionSnapshot}
    (grown : (interactionDiscipline rules).grows base store) (read : SnapshotRead call.interactionId store snapshot last) :
    Answers base index call (.snapshot snapshot) last where
  wins winner shown := read.shows winner (by simpa [reported] using shown)
  keeps winner won := by simpa [reported] using read.keeps winner ((grown _).winner winner won)
  linked wrong := by cases wrong
  pending other same := by cases same; exact read.pending

theorem Answers.ofSettled {answer : InteractionAnswer} {winner : RunnerInteractionSettlement}
    (grown : (interactionDiscipline rules).grows base last)
    (settled : SettledAs call.interactionId winner last) (reported : call.reported answer = some winner)
    (linked : answer.accepted = true → (last call.interactionId).settlement.bind (·.linkedBy) = some index)
    (other : ∀ snapshot, answer ≠ .snapshot snapshot) : Answers base index call answer last where
  wins shown same := by
    rw [reported] at same
    cases same
    exact settled.wins
  keeps shown won := by
    have still := (grown _).winner shown won
    rw [settled.wins] at still
    rw [reported, still]
  linked := linked
  pending snapshot same := absurd same (other snapshot)

theorem body_of_invalid (index : Nat) (refused : call.inputValid rules = false) :
    ∃ subject, body rules index call = .throws (contractError subject) := by
  cases call with
  | createRequest request =>
    refine ⟨requestFile.subject, ?_⟩
    simp only [body, PlanWeave.createRequest, parseContract, show request.valid rules = false from refused]
    rfl
  | createResponse response =>
    refine ⟨responseFile.subject, ?_⟩
    simp only [body, PlanWeave.createResponse, parseContract, show response.valid rules = false from refused]
    rfl
  | createOwnerResult result =>
    refine ⟨ownerResultFile.subject, ?_⟩
    simp only [body, PlanWeave.createOwnerResult, PlanWeave.settleOwnerResult, parseContract,
      show result.valid rules = false from refused]
    rfl
  | settleOwnerResult result =>
    refine ⟨ownerResultFile.subject, ?_⟩
    simp only [body, PlanWeave.settleOwnerResult, parseContract, show result.valid rules = false from refused]
    rfl
  | readSnapshot => cases refused

theorem body_answers (call : InteractionCall) (kept : (interactionDiscipline rules).valid store)
    (grown : (interactionDiscipline rules).grows base store) :
    (interactionDiscipline rules).Safe (Answers base index call) (fun reason _ => Fails rules call reason)
      (body rules index call) store := by
  have fails : ∀ (reason : InteractionError) (last : InteractionStore), (interactionDiscipline rules).valid last →
      reason.code ≠ some .contractInvalid → Fails rules call reason := fun _ _ _ code same => absurd same code
  have onward : ∀ last, (interactionDiscipline rules).grows store last → (interactionDiscipline rules).grows base last :=
    fun _ further => (interactionDiscipline rules).trans grown further
  by_cases valid : call.inputValid rules = true
  · cases call with
    | createRequest =>
      exact (createRequest_settles valid kept).map (fun _ _ _ _ read => Answers.ofSnapshot grown read) fails
    | createResponse =>
      apply (createResponse_settles valid kept).map ?_ fails
      intro receipt last _ further read
      exact Answers.ofSettled (onward last further) read.won rfl (fun _ => read.linked) fun _ same => by cases same
    | createOwnerResult =>
      apply (createOwnerResult_settles valid kept).map ?_ fails
      intro answer last _ further settled
      exact Answers.ofSettled (onward last further) settled rfl (fun wrong => by cases wrong) fun _ same => by cases same
    | settleOwnerResult =>
      apply (settleOwnerResult_settles valid kept).map ?_ fails
      intro answer last _ further done
      exact Answers.ofSettled (onward last further) done.settled rfl (fun accepted => (done.accepted accepted).2)
        fun _ same => by cases same
    | readSnapshot =>
      exact (readSnapshot_settles kept).map (fun _ _ _ _ read => Answers.ofSnapshot grown read) fails
  · have refused : call.inputValid rules = false := by simpa using valid
    obtain ⟨_, same⟩ := body_of_invalid index refused
    rw [same]
    exact fun _ _ _ _ => refused

end InteractionCall

namespace InteractionRun

def Reported (run : InteractionRun) (index : Nat) (id : String) (winner : RunnerInteractionSettlement) : Prop :=
  ∃ call answer, run.Returned index call answer ∧ call.interactionId = id ∧ call.reported answer = some winner

def Accepted (run : InteractionRun) (index : Nat) (id : String) : Prop :=
  ∃ call answer, run.Returned index call answer ∧ call.interactionId = id ∧ answer.accepted = true

abbrev after (rules : InteractionTextRules) (events : List (SharedEvent InteractionCall)) (run : InteractionRun) : InteractionRun :=
  Runs.run (SharedRun.step (InteractionCall.body rules)) events run

abbrev Answering (rules : InteractionTextRules) (base : InteractionStore) (run : InteractionRun) : Prop :=
  run.Sound (interactionDiscipline rules) (InteractionCall.Answers base) (fun _ call reason _ => InteractionCall.Fails rules call reason) base

variable {rules : InteractionTextRules} {store : InteractionStore}

theorem answering_start (kept : (interactionDiscipline rules).valid store) (events : List (SharedEvent InteractionCall)) :
    Answering rules store (after rules events (SharedRun.start store)) := by
  apply SharedRun.Sound.run
  · exact
      { valid := kept
        grown := (interactionDiscipline rules).refl store
        safe := fun index call program found => by simp [SharedRun.start] at found }
  · exact fun _ call _ _ valid grown => InteractionCall.body_answers call valid grown

end InteractionRun

open InteractionRun in
/-- However the calls on a run directory interleave and crash, one settlement of each interaction is accepted, every call and
reader that reports a winner reports that one, and a settled interaction is settled for every later call. -/
theorem interaction_settles_once {rules : InteractionTextRules} {store : InteractionStore}
    (legacy : ∀ id, LegacyDirectory rules id (store id)) (events more : List (SharedEvent InteractionCall)) :
    let earlier := after rules events (SharedRun.start store)
    let reached := after rules more earlier
    (∀ id first second, Accepted reached first id → Accepted reached second id → first = second) ∧
      (∀ id first second winner other, Reported reached first id winner → Reported reached second id other → winner = other) ∧
      (∀ id first winner, Reported earlier first id winner → ∀ later call answer, earlier.calls.length ≤ later →
        reached.Returned later call answer → call.interactionId = id →
        call.reported answer = some winner ∧ ∀ snapshot, answer = .snapshot snapshot → snapshot.status ≠ .pending) ∧
      ∀ index id reason, reached.Threw index (.readSnapshot id) reason → reason.code ≠ some .contractInvalid := by
  intro earlier reached
  have kept : (interactionDiscipline rules).valid store := fun id => (legacy id).coherent
  have whole : Answering rules store reached := by
    have joined : Answering rules store _ := answering_start kept (events ++ more)
    rw [after, Runs.run_append] at joined
    exact joined
  have begun : Answering rules store earlier := answering_start kept events
  refine ⟨?_, ?_, ?_, ?_⟩
  · rintro _ _ _ ⟨_, _, ended, rfl, won⟩ ⟨_, _, closed, same, also⟩
    have linked := (whole.returns ended).linked won
    have again := (whole.returns closed).linked also
    rw [same, linked] at again
    cases again
    rfl
  · rintro _ _ _ winner loser ⟨_, _, ended, rfl, won⟩ ⟨_, _, closed, same, also⟩
    have wins := (whole.returns ended).wins winner won
    have again := (whole.returns closed).wins loser also
    rw [same, wins] at again
    cases again
    rfl
  · rintro _ _ winner ⟨call, answer, ended, rfl, won⟩ _ _ _ beyond closed same
    have there := (begun.returns ended).wins winner won
    have onward : SharedRun.Sound (interactionDiscipline rules)
        (fun index call answer last => earlier.calls.length ≤ index → InteractionCall.Answers earlier.store index call answer last)
        (fun index call reason _ => earlier.calls.length ≤ index → InteractionCall.Fails rules call reason)
        earlier.store reached := by
      apply begun.rebase.run
      intro index call last _ valid grown
      exact (InteractionCall.body_answers call valid grown).mono (fun _ _ _ holds _ => holds) (fun _ _ _ holds _ => holds)
    have answers := onward.returns closed beyond
    have shown := answers.keeps winner (by rw [same]; exact there)
    refine ⟨shown, ?_⟩
    rintro snapshot rfl pending
    have silent := (answers.pending snapshot rfl).mp pending
    simp [InteractionCall.reported, silent] at shown
  · intro index id reason threw code
    have wrong := whole.throws threw code
    cases wrong

def legacyResponse : RunnerPermissionInteractionResponse where
  version := "planweave.runner-interaction-response/v1"
  identity := ⟨"project", "canvas", "T#B", "run", "session", "request", "lease", 1⟩
  decision := .select "allow"
  respondedAt := "2026-01-01T00:00:00Z"
  decisionSource := "desktop"
  reason := none

def legacyRequest : RunnerInteractionRequest where
  version := "planweave.runner-interaction/v1"
  kind := "permission"
  identity := legacyResponse.identity
  requestedAt := "2026-01-01T00:00:00Z"
  summary := "Write a file"
  toolCallId := "tool"
  options := [⟨"allow", "Allow", .approve⟩]

def anyTextRules : InteractionTextRules := ⟨fun _ => true, fun _ => true, fun _ => false⟩

def legacyStore : InteractionStore := fun id =>
  if id = "request" then ⟨true, some ⟨legacyRequest, none⟩, some ⟨legacyResponse, none⟩, none, none⟩
  else ⟨false, none, none, none, none⟩

theorem legacyStore_legacy (id : String) : LegacyDirectory anyTextRules id (legacyStore id) := by
  by_cases same : id = "request"
  · subst same
    exact
      { request := fun file found => by cases found; exact ⟨by decide, rfl⟩
        response := fun file found => by cases found; decide
        ownerResult := fun file found => by cases found
        single := .inr rfl
        unsettled := rfl }
  · have empty : legacyStore id = ⟨false, none, none, none, none⟩ := by simp [legacyStore, same]
    rw [empty]
    exact
      { request := fun file found => by cases found
        response := fun file found => by cases found
        ownerResult := fun file found => by cases found
        single := .inr rfl
        unsettled := rfl }

/-- Two callers answer a request that an older version left answered, each a step at a time, and a third one reads it. -/
def answerRace : List (SharedEvent InteractionCall) :=
  .call (.createResponse legacyResponse) :: .call (.createResponse { legacyResponse with decision := .cancel }) ::
    (List.replicate 12 [.advance 0 true, .advance 1 true]).flatten

def raceRead : List (SharedEvent InteractionCall) := .call (.readSnapshot "request") :: List.replicate 8 (.advance 2 true)

theorem interaction_settles_once_in_race :
    let reached := InteractionRun.after anyTextRules raceRead (InteractionRun.after anyTextRules answerRace (SharedRun.start legacyStore))
    ∀ id first second winner other, InteractionRun.Reported reached first id winner →
      InteractionRun.Reported reached second id other → winner = other :=
  (interaction_settles_once legacyStore_legacy answerRace raceRead).2.1

open InteractionRun in
/-- However calls interleave and crash, every directory stays coherent, and no file in one is written again. -/
theorem interaction_files_kept {rules : InteractionTextRules} {store : InteractionStore}
    (legacy : ∀ id, LegacyDirectory rules id (store id)) (events more : List (SharedEvent InteractionCall)) (id : String) :
    let earlier := after rules events (SharedRun.start store)
    let reached := after rules more earlier
    (reached.store id).Coherent rules id ∧ (earlier.store id).Grows (reached.store id) := by
  intro earlier reached
  have begun : Answering rules store earlier := answering_start (fun id => (legacy id).coherent) events
  have onward := begun.rebase.run (fun index call last _ valid grown =>
    (@InteractionCall.body_answers rules _ last index call valid grown).mono (fun _ _ _ holds _ => holds)
      (fun _ _ _ holds _ => holds)) more
  exact ⟨onward.valid id, onward.grown id⟩

theorem interaction_files_kept_in_race :
    let raced := InteractionRun.after anyTextRules answerRace (SharedRun.start legacyStore)
    (raced.store "request").Grows ((InteractionRun.after anyTextRules raceRead raced).store "request") :=
  (interaction_files_kept legacyStore_legacy answerRace raceRead "request").2

end PlanWeave
