import PlanWeave.State.Types

namespace PlanWeave
open List

structure SchemaIssue where
  path : List String
  message : String

def refinement (broken : Bool) (path : List String) (message : String) : List SchemaIssue :=
  if broken then [⟨path, message⟩] else []

def RemoteOwnership.isActive : RemoteOwnership → Bool
  | .preparing _ => false
  | .active _ => true

def ReceiptOutcome.status : ReceiptOutcome → BlockStatus
  | .completed _ => .completed
  | .failed _ => .blocked

def ReceiptOutcome.runId : ReceiptOutcome → Option String
  | .completed runId => some runId.text
  | .failed _ => none

/-- The refinements of `blockStateSchema`. The shape of each field is in its type. -/
def blockStateSchema (block : BlockState) : List SchemaIssue :=
  refinement (block.submissionRunId.isSome && block.submissionAttemptId.isNone) ["submissionRunId"]
    "submission run reservation requires a submission attempt identity" ++
  refinement (block.remoteOwnership.isSome && block.status ≠ .inProgress && block.status ≠ .diverged) ["remoteOwnership"]
    "remote ownership is allowed only while a block is in_progress or diverged" ++
  refinement (block.remoteInterruption.isSome &&
      (block.status ≠ .diverged || !block.remoteOwnership.any RemoteOwnership.isActive)) ["remoteInterruption"]
    "remote interruption requires a diverged block with active remote ownership" ++
  refinement (block.remoteOperationReceipt.any (fun receipt => receipt.outcome.status ≠ block.status))
    ["remoteOperationReceipt"] "remote operation receipt must match the terminal block status" ++
  refinement (block.remoteOperationReceipt.any (fun receipt =>
      receipt.outcome.runId.isSome && block.lastRunId ≠ receipt.outcome.runId)) ["remoteOperationReceipt", "runId"]
    "completed remote operation receipt must reference lastRunId"

def runtimeStateSchema (state : RuntimeState) : List SchemaIssue :=
  state.blocks.entries.flatMap (fun entry =>
    (blockStateSchema entry.2).map (fun issue => { issue with path := "blocks" :: entry.1 :: issue.path }))

def issueText (issue : SchemaIssue) : String := String.intercalate "." issue.path ++ ": " ++ issue.message

def readState (stored : RuntimeState) : Except String RuntimeState :=
  let issues := runtimeStateSchema stored
  if issues = [] then .ok stored
  else
    let details := String.intercalate "; " (issues.map issueText)
    .error s!"Runtime state is invalid: {details}. Run planweave doctor to inspect, or restore the file."

structure BlockState.Valid (block : BlockState) : Prop where
  reservation : block.submissionRunId.isSome = true → block.submissionAttemptId.isSome = true
  ownership : block.remoteOwnership.isSome = true → block.status = .inProgress ∨ block.status = .diverged
  interruption : block.remoteInterruption.isSome = true →
    block.status = .diverged ∧ block.remoteOwnership.any RemoteOwnership.isActive = true
  receipt : ∀ receipt, block.remoteOperationReceipt = some receipt → receipt.outcome.status = block.status
  receiptRun : ∀ receipt runId, block.remoteOperationReceipt = some receipt → receipt.outcome = .completed runId →
    block.lastRunId = some runId.text

theorem refinement_nil_iff {broken : Bool} {path : List String} {message : String} :
    refinement broken path message = [] ↔ broken = false := by
  cases broken <;> simp [refinement]

theorem receiptRun_iff (block : BlockState) :
    block.remoteOperationReceipt.any (fun receipt =>
      receipt.outcome.runId.isSome && block.lastRunId ≠ receipt.outcome.runId) = false ↔
    ∀ receipt runId, block.remoteOperationReceipt = some receipt → receipt.outcome = .completed runId →
      block.lastRunId = some runId.text := by
  cases block.remoteOperationReceipt with
  | none => simp
  | some receipt =>
    cases outcome : receipt.outcome with
    | completed runId =>
      simp only [Option.any_some, outcome, ReceiptOutcome.runId]
      constructor
      · intro same found id present completed
        cases present
        rw [outcome] at completed
        cases completed
        simpa using same
      · intro all
        simpa using all receipt runId rfl outcome
    | failed =>
      simp only [Option.any_some, outcome, ReceiptOutcome.runId]
      refine ⟨?_, fun _ => rfl⟩
      intro _ found id present completed
      cases present
      rw [outcome] at completed
      cases completed

theorem blockStateSchema_nil_iff (block : BlockState) : blockStateSchema block = [] ↔ block.Valid := by
  unfold blockStateSchema
  simp only [append_eq_nil_iff, refinement_nil_iff, receiptRun_iff]
  constructor
  · rintro ⟨⟨⟨⟨reservation, ownership⟩, interruption⟩, receipt⟩, run⟩
    refine ⟨?_, ?_, ?_, ?_, run⟩
    · intro reserved
      simpa [reserved] using reservation
    · intro owned
      by_cases running : block.status = .inProgress
      · exact .inl running
      · exact .inr (by simpa [owned, running] using ownership)
    · intro interrupted
      simpa [interrupted] using interruption
    · intro found present
      simpa [present] using receipt
  · intro valid
    refine ⟨⟨⟨⟨?_, ?_⟩, ?_⟩, ?_⟩, valid.receiptRun⟩
    · cases reserved : block.submissionRunId.isSome with
      | false => rfl
      | true => simpa using valid.reservation reserved
    · cases owned : block.remoteOwnership.isSome with
      | false => rfl
      | true => rcases valid.ownership owned with status | status <;> simp [status]
    · cases interrupted : block.remoteInterruption.isSome with
      | false => rfl
      | true =>
        obtain ⟨status, active⟩ := valid.interruption interrupted
        simp [status, active]
    · cases found : block.remoteOperationReceipt with
      | none => rfl
      | some receipt => simpa using valid.receipt receipt found

def RuntimeState.Valid (state : RuntimeState) : Prop :=
  ∀ ref block, state.blocks.get? ref = some block → block.Valid

theorem runtimeStateSchema_nil_iff (state : RuntimeState) : runtimeStateSchema state = [] ↔ state.Valid := by
  unfold runtimeStateSchema RuntimeState.Valid
  simp only [flatMap_eq_nil_iff, map_eq_nil_iff, blockStateSchema_nil_iff, OrderedMap.get?_eq_some_iff]
  exact ⟨fun all ref block member => all (ref, block) member, fun all entry member => all entry.1 entry.2 member⟩

theorem readState_ok_iff (stored state : RuntimeState) : readState stored = .ok state ↔ stored.Valid ∧ stored = state := by
  unfold readState
  simp only [← runtimeStateSchema_nil_iff]
  split <;> simp [*]

end PlanWeave
