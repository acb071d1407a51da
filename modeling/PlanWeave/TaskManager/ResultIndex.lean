import PlanWeave.TaskManager.World

namespace PlanWeave
open Durable List

def idDigits (number : Nat) : List Char := (Nat.toDigits 10 number).leftpad 3 '0'

/-- `<kind>-NNN`, counted from one. -/
def nextId (kind : String) (count : Nat) : String := String.ofList (kind.toList ++ '-' :: idDigits (count + 1))

def isIdOf (kind name : String) : Bool :=
  let digits := name.toList.drop (kind.length + 1)
  name.toList.take (kind.length + 1) = kind.toList ++ ['-'] && digits ≠ [] && digits.all Char.isDigit

/-- The first candidate that no directory has yet. The source gives up after 1000. -/
def firstFree {α : Type} (name : Nat → α) (count : Nat) (taken : α → Bool) : Option α :=
  ((List.range 1000).map (fun attempt => name (count + attempt))).find? (fun candidate => !taken candidate)

theorem firstFree_free {α : Type} {name : Nat → α} {count : Nat} {taken : α → Bool} {chosen : α}
    (found : firstFree name count taken = some chosen) : taken chosen = false := by
  simpa using find?_some found

theorem idDigits_isDigit {number : Nat} {c : Char} (member : c ∈ idDigits number) : c.isDigit = true := by
  rcases mem_append.mp member with padding | digit
  · rw [eq_of_mem_replicate padding]
    decide
  · exact Nat.isDigit_of_mem_toDigits (by decide) (by decide) digit

theorem nextRunId_plain (count : Nat) : submissionRunIdSchema (nextId "RUN" count) = true := by
  have chars : (nextId "RUN" count).toList = 'R' :: 'U' :: 'N' :: '-' :: idDigits (count + 1) := by
    simp [nextId]
  have digits : (idDigits (count + 1)).all (fun c => c ≠ '/' && c ≠ Char.ofNat 92 && c ≠ Char.ofNat 0) = true := by
    rw [all_eq_true]
    intro c member
    have digit := idDigits_isDigit member
    have slash : c ≠ '/' := fun same => by rw [same] at digit; exact absurd digit (by decide)
    have backslash : c ≠ Char.ofNat 92 := fun same => by rw [same] at digit; exact absurd digit (by decide)
    have null : c ≠ Char.ofNat 0 := fun same => by rw [same] at digit; exact absurd digit (by decide)
    simp [slash, backslash, null]
  unfold submissionRunIdSchema
  rw [chars]
  simp only [all_cons, digits, head?_cons]
  rfl

def nextRunName (count : Nat) : RunName := ⟨nextId "RUN" count, nextRunId_plain count⟩

def allocateRunId (ref : String) : Locked RunName := do
  let world ← read
  let runs := world.results.runsOf ref
  let count := (runs.keys.filter (fun name => isIdOf "RUN" name.text)).length
  match firstFree nextRunName count runs.has with
  | some runId =>
    writeResults (fun results => results.setRun ref runId {})
    return runId
  | none => fail s!"Unable to allocate a run id under '{ref}/runs'"

def allocateAttemptId (ref : String) : Locked String := do
  let world ← read
  let attempts := world.results.attemptsOf ref
  match firstFree (nextId "REV") (attempts.keys.filter (isIdOf "REV")).length attempts.has with
  | some attemptId =>
    writeResults (fun results => results.setAttempt ref attemptId {})
    return attemptId
  | none => fail s!"Unable to allocate a REV id under '{ref}/attempts'"

def Results.feedbackFolder (results : Results) (taskId feedbackId : String) : FeedbackFolder :=
  ((results.feedbackOf taskId).get? feedbackId).getD {}

def Results.setSubmission (results : Results) (taskId feedbackId submissionId : String) (submission : FeedbackSubmission) :
    Results :=
  let folder := results.feedbackFolder taskId feedbackId
  results.setFeedback taskId feedbackId { folder with submissions := folder.submissions.set submissionId submission }

def allocateSubmissionId (taskId feedbackId : String) : Locked String := do
  let world ← read
  let submissions := (world.results.feedbackFolder taskId feedbackId).submissions
  match firstFree (nextId "FS") (submissions.keys.filter (isIdOf "FS")).length submissions.has with
  | some submissionId =>
    writeResults (fun results => results.setSubmission taskId feedbackId submissionId {})
    return submissionId
  | none => fail s!"Unable to allocate a FS id under '{feedbackId}/submissions'"

/-- Reserve an `FE-*` directory whose id the state does not hold either. -/
def nextFeedbackId (taskId : String) (state : RuntimeState) : Locked String := do
  let world ← read
  let folders := world.results.feedbackOf taskId
  match firstFree (nextId "FE") (max state.feedback.size folders.size)
    (fun feedbackId => state.feedback.has feedbackId || folders.has feedbackId) with
  | some feedbackId =>
    writeResults (fun results => results.setFeedback taskId feedbackId {})
    return feedbackId
  | none => fail s!"Unable to allocate a feedback id under '{taskId}/feedback'"

def recordReviewCompletionReason (taskId reviewBlockRef : String) (completionReason : CompletionReason)
    (warning : Option Issue) : Locked Unit :=
  updateTaskIndex taskId (fun index => { index with
    reviewCompletionReasonByBlock := index.reviewCompletionReasonByBlock.set reviewBlockRef completionReason
    warnings := index.warnings ++ warning.toList })

end PlanWeave
