import PlanWeave.HostState.CanvasRuntimeRpc
import PlanWeave.Lib.Runs

namespace PlanWeave
open Checked EventOutbox List Option Runs Table

inductive CanvasRuntimeStep where
  | accept (command : CanvasRuntimeCommand) (inboxSequence : Nat)
  | begin (requestId : OpaqueId)
  | complete (requestId : OpaqueId) (response : CanvasRuntimeResponse Json) (reconcileRequired : Bool)
      (messageId replacementId : String)
  | resolveReset (scope : CanvasRuntimeLogicalScope) (operationId : OpaqueId)
      (resolution : CanvasRuntimeResetResolution Json)
  | queueOther (key : String) (messageId json : String)
  | acknowledge (messageId : String)
  | setMaxPayloadBytes (bytes : Nat)

namespace CanvasRuntimeRpc
variable {limits : OutboxLimits} {rpc next : CanvasRuntimeRpc}

/-- The state after a step; one that throws leaves the state as it was. A crash between two steps is a run that goes on
with other steps. -/
def perform (limits : OutboxLimits) (rpc : CanvasRuntimeRpc) : CanvasRuntimeStep → CanvasRuntimeRpc
  | .accept command inboxSequence =>
    ((rpc.accept limits command inboxSequence).toOption.map (·.1)).getD rpc
  | .begin requestId => (rpc.begin requestId).1
  | .complete requestId response reconcileRequired messageId replacementId =>
    ((rpc.complete limits requestId response reconcileRequired messageId replacementId).toOption.map (·.1)).getD rpc
  | .resolveReset scope operationId resolution =>
    ((rpc.resolveReset scope operationId resolution).toOption.map (·.1)).getD rpc
  | .queueOther key messageId json =>
    ((rpc.outbox.queue limits (.other key) ⟨messageId, .other json⟩).toOption.map fun queued =>
      { rpc with outbox := queued.1 }).getD rpc
  | .acknowledge messageId => { rpc with outbox := rpc.outbox.acknowledge messageId }
  | .setMaxPayloadBytes bytes => { rpc with outbox := rpc.outbox.setMaxPayloadBytes bytes }

variable {scope : CanvasRuntimeLogicalScope} {receipt : CanvasRuntimeReceipt}

section Steps
variable {command : CanvasRuntimeCommand} {inboxSequence : Nat} {requestId operationId : OpaqueId}
  {response : CanvasRuntimeResponse Json} {reconcileRequired : Bool} {messageId replacementId : String}
  {event : QueuedHostEvent}

theorem accept_ok {acceptance : CanvasRuntimeReceiptAcceptance}
    (done : rpc.accept limits command inboxSequence = .ok (next, acceptance)) :
    next = rpc ∨
      (∃ existing known queued, rpc.receipts.find command.requestId = some existing ∧ existing.response = some known ∧
        rpc.outbox.queue limits (.canvasRuntimeResponse command.requestId) known = .ok (next.outbox, queued) ∧
          next = { rpc with outbox := next.outbox }) ∨
      (rpc.receipts.find command.requestId = none ∧ rpc.checkReset command = .ok () ∧
        next = { rpc with receipts :=
          rpc.receipts.put ⟨command.requestId, inboxSequence, command, .pending, none, none, none⟩ }) := by
  unfold accept at done
  split at done
  · rename_i existing found
    split at done
    · cases done
    split at done
    · cases done
    split at done
    · cases done
      exact .inl rfl
    rename_i known answered
    split at done
    · obtain ⟨⟨_, queued⟩, queueing, result⟩ := bind_ok.mp done
      cases result
      exact .inr (.inl ⟨existing, known, queued, found, answered, queueing, rfl⟩)
    · cases done
  · rename_i absent
    obtain ⟨_, checked, done⟩ := bind_ok.mp done
    split at done
    · cases done
    · cases done
      exact .inr (.inr ⟨absent, checked, rfl⟩)

theorem complete_ok
    (done : rpc.complete limits requestId response reconcileRequired messageId replacementId = .ok (next, event)) :
    response.requestId = requestId ∧ ∃ existing, rpc.receipts.find requestId = some existing ∧
      ((∃ known answer, existing.response = some known ∧ known.payload = .canvasRuntimeResponse answer ∧
          answer.digest = response.digest ∧ next.receipts = rpc.receipts ∧
          rpc.outbox.queue limits (.canvasRuntimeResponse requestId) known = .ok (next.outbox, event)) ∨
        (existing.response = none ∧ ∃ status answer, status ≠ .pending ∧
          answer = (responseEvent limits rpc.outbox response reconcileRequired messageId replacementId).1 ∧
          next.receipts = rpc.receipts.put { existing with status := status, response := some (stored answer) } ∧
          rpc.outbox.queue limits (.canvasRuntimeResponse requestId) answer = .ok (next.outbox, event))) := by
  unfold complete at done
  split at done
  · cases done
  rename_i identified
  refine ⟨not_not.mp identified, ?_⟩
  split at done
  · cases done
  rename_i existing found
  refine ⟨existing, found, ?_⟩
  split at done
  · cases done
  · rename_i known _ answered
    split at done
    · rename_i answer shape
      split at done
      · cases done
      rename_i same
      obtain ⟨⟨_, _⟩, queueing, result⟩ := bind_ok.mp done
      cases result
      exact .inl ⟨known, answer, answered, shape, not_not.mp same, rfl, queueing⟩
    · cases done
  · rename_i _ unanswered
    obtain ⟨⟨_, _⟩, queueing, result⟩ := bind_ok.mp done
    cases result
    have begun : ∀ reconcile : Bool, (if reconcile then CanvasRuntimeReceiptStatus.reconcileRequired else .terminal) ≠
        .pending := by decide
    exact .inr ⟨unanswered, _, _, begun _, rfl, rfl, queueing⟩

theorem begin_cases (rpc : CanvasRuntimeRpc) (requestId : OpaqueId) :
    rpc.begin requestId = (rpc, false) ∨ ∃ receipt, rpc.receipts.find requestId = some receipt ∧
      receipt.status = .pending ∧ receipt.response = none ∧
        rpc.begin requestId = ({ rpc with receipts := rpc.receipts.put { receipt with status := .running } }, true) := by
  unfold begin
  split
  · exact .inl rfl
  rename_i receipt found
  split
  · rename_i idle
    exact .inr ⟨receipt, found, idle.1, isNone_iff_eq_none.mp idle.2, rfl⟩
  · exact .inl rfl

theorem resolveReset_ok {resolution outcome : CanvasRuntimeResetResolution Json}
    (done : rpc.resolveReset scope operationId resolution = .ok (next, outcome)) :
    ∃ receipt ∈ rpc.receipts, receipt.command.scope = scope ∧ receipt.operationId = some operationId ∧
      ((next = rpc ∧ receipt.resetResolution = some outcome) ∨ (receipt.resetResolution = none ∧
          next = { rpc with receipts := rpc.receipts.put { receipt with
            resetResolution := some (resolution.map Json.reparsed) } })) := by
  unfold resolveReset at done
  split at done
  · cases done
  split at done
  · cases done
  rename_i receipt found
  have member : receipt ∈ rpc.receipts := mem_of_find?_eq_some found
  have matched := find?_some found
  simp only [decide_eq_true_eq] at matched
  refine ⟨receipt, member, matched.1, matched.2, ?_⟩
  split at done
  · cases done
  split at done
  · rename_i known resolved
    split at done
    · cases done
    · cases done
      exact .inl ⟨rfl, resolved⟩
  · rename_i unresolved
    cases done
    exact .inr ⟨unresolved, rfl⟩

inductive ReceiptChange (rpc : CanvasRuntimeRpc) : CanvasRuntimeReceipt → Prop where
  | created (command : CanvasRuntimeCommand) (inboxSequence : Nat) :
      rpc.receipts.find command.requestId = none → rpc.checkReset command = .ok () →
        ReceiptChange rpc ⟨command.requestId, inboxSequence, command, .pending, none, none, none⟩
  | begun (receipt : CanvasRuntimeReceipt) : receipt ∈ rpc.receipts → receipt.status = .pending →
      ReceiptChange rpc { receipt with status := .running }
  | completed (receipt : CanvasRuntimeReceipt) (status : CanvasRuntimeReceiptStatus) (event : QueuedHostEvent) :
      receipt ∈ rpc.receipts → receipt.response = none → status ≠ .pending →
        ReceiptChange rpc { receipt with status := status, response := some event }
  | resolved (receipt : CanvasRuntimeReceipt) (resolution : CanvasRuntimeResetResolution Json) :
      receipt ∈ rpc.receipts → receipt.resetResolution = none →
        ReceiptChange rpc { receipt with resetResolution := some resolution }

structure Moved (rpc next : CanvasRuntimeRpc) : Prop where
  outbox : rpc.outbox.Grown next.outbox
  receipts : next.receipts = rpc.receipts ∨ ∃ receipt, ReceiptChange rpc receipt ∧ next.receipts = rpc.receipts.put receipt

theorem Moved.refl (rpc : CanvasRuntimeRpc) : Moved rpc rpc := ⟨.refl _, .inl rfl⟩

theorem complete_moved
    (done : rpc.complete limits requestId response reconcileRequired messageId replacementId = .ok (next, event)) :
    Moved rpc next := by
  obtain ⟨_, existing, found, cases⟩ := complete_ok done
  rcases cases with ⟨_, _, _, _, _, same, queueing⟩ | ⟨unanswered, status, _, begun, _, put, queueing⟩
  · exact ⟨(queue_grown queueing).1, .inl same⟩
  · have member := (find_eq_some.mp found).1
    exact ⟨(queue_grown queueing).1, .inr ⟨_, .completed existing status _ member unanswered begun, put⟩⟩

theorem perform_moved (limits : OutboxLimits) (rpc : CanvasRuntimeRpc) (step : CanvasRuntimeStep) :
    Moved rpc (rpc.perform limits step) := by
  cases step with
  | accept command inboxSequence =>
    rw [perform]
    cases done : rpc.accept limits command inboxSequence with
    | error => exact .refl rpc
    | ok result =>
      obtain ⟨next, _⟩ := result
      rcases accept_ok done with rfl | ⟨_, _, _, _, _, queueing, same⟩ | ⟨absent, checked, rfl⟩
      · exact .refl _
      · have receipts : next.receipts = rpc.receipts := by rw [same]
        exact ⟨(queue_grown queueing).1, .inl receipts⟩
      · exact ⟨.refl _, .inr ⟨_, .created command inboxSequence absent checked, rfl⟩⟩
  | begin requestId =>
    rw [perform]
    rcases begin_cases rpc requestId with same | ⟨receipt, found, pending, _, begun⟩
    · rw [same]
      exact .refl rpc
    · rw [begun]
      exact ⟨.refl _, .inr ⟨_, .begun receipt (find_eq_some.mp found).1 pending, rfl⟩⟩
  | complete requestId response reconcileRequired messageId replacementId =>
    rw [perform]
    cases done : rpc.complete limits requestId response reconcileRequired messageId replacementId with
    | error => exact .refl rpc
    | ok => exact complete_moved done
  | resolveReset scope operationId resolution =>
    rw [perform]
    cases done : rpc.resolveReset scope operationId resolution with
    | error => exact .refl rpc
    | ok result =>
      obtain ⟨_, _⟩ := result
      obtain ⟨receipt, member, _, _, same | ⟨unresolved, put⟩⟩ := resolveReset_ok done
      · rw [same.1]
        exact .refl rpc
      · subst put
        exact ⟨.refl _, .inr ⟨_, .resolved receipt _ member unresolved, rfl⟩⟩
  | queueOther key messageId json =>
    rw [perform]
    cases done : rpc.outbox.queue limits (.other key) ⟨messageId, .other json⟩ with
    | error => exact .refl rpc
    | ok => exact ⟨(queue_grown done).1, .inl rfl⟩
  | acknowledge => exact ⟨acknowledge_grown _ _, .inl rfl⟩
  | setMaxPayloadBytes => exact ⟨.refl rpc.outbox, .inl rfl⟩

end Steps

section Kept

structure Follows (receipt later : CanvasRuntimeReceipt) : Prop where
  command : later.command = receipt.command
  begun : receipt.status ≠ .pending → later.status ≠ .pending
  response : ∀ event, receipt.response = some event → later.response = some event
  resolution : ∀ outcome, receipt.resetResolution = some outcome → later.resetResolution = some outcome

theorem Follows.refl (receipt : CanvasRuntimeReceipt) : Follows receipt receipt :=
  ⟨rfl, id, fun _ => id, fun _ => id⟩

theorem Follows.trans {first second third : CanvasRuntimeReceipt} (left : Follows first second)
    (right : Follows second third) : Follows first third where
  command := right.command.trans left.command
  begun := right.begun ∘ left.begun
  response := fun event => right.response event ∘ left.response event
  resolution := fun outcome => right.resolution outcome ∘ left.resolution outcome

theorem ReceiptChange.follows {old : CanvasRuntimeReceipt} (change : ReceiptChange rpc receipt)
    (found : rpc.receipts.find receipt.requestId = some old) : Follows old receipt := by
  cases change with
  | created _ _ absent =>
    rw [absent] at found
    cases found
  | begun current member pending =>
    have same : old = current := Option.some.inj (found.symm.trans (find_of_mem member))
    subst same
    exact ⟨rfl, fun started => absurd pending started, fun _ => id, fun _ => id⟩
  | completed current _ event member unanswered begun =>
    have same : old = current := Option.some.inj (found.symm.trans (find_of_mem member))
    subst same
    refine ⟨rfl, fun _ => begun, fun event answered => ?_, fun _ => id⟩
    rw [unanswered] at answered
    cases answered
  | resolved current _ member unresolved =>
    have same : old = current := Option.some.inj (found.symm.trans (find_of_mem member))
    subst same
    refine ⟨rfl, id, fun _ => id, fun outcome resolved => ?_⟩
    rw [unresolved] at resolved
    cases resolved

structure Kept (rpc later : CanvasRuntimeRpc) : Prop where
  outbox : rpc.outbox.Grown later.outbox
  receipts : ∀ requestId receipt, rpc.receipts.find requestId = some receipt →
    ∃ kept, later.receipts.find requestId = some kept ∧ Follows receipt kept

theorem Kept.refl (rpc : CanvasRuntimeRpc) : Kept rpc rpc := ⟨.refl _, fun _ receipt found => ⟨receipt, found, .refl _⟩⟩

theorem Kept.trans {middle last : CanvasRuntimeRpc} (left : Kept rpc middle) (right : Kept middle last) :
    Kept rpc last := by
  refine ⟨left.outbox.trans right.outbox, fun requestId receipt found => ?_⟩
  obtain ⟨between, present, first⟩ := left.receipts requestId receipt found
  obtain ⟨kept, final, second⟩ := right.receipts requestId between present
  exact ⟨kept, final, first.trans second⟩

theorem Moved.kept (moved : Moved rpc next) : Kept rpc next := by
  refine ⟨moved.outbox, fun requestId receipt found => ?_⟩
  rcases moved.receipts with same | ⟨changed, change, put⟩
  · exact ⟨receipt, same ▸ found, .refl _⟩
  rw [put]
  by_cases here : requestId = changed.requestId
  · subst here
    exact ⟨changed, find_put, change.follows found⟩
  · exact ⟨receipt, (find_put_of_ne here).trans found, .refl _⟩

theorem run_kept (limits : OutboxLimits) (steps : List CanvasRuntimeStep) (rpc : CanvasRuntimeRpc) :
    Kept rpc (run (perform limits) steps rpc) := by
  induction steps generalizing rpc with
  | nil => exact .refl rpc
  | cons step _ ih => exact (perform_moved limits rpc step).kept.trans (ih _)

def ResetsOnce (rpc : CanvasRuntimeRpc) : Prop :=
  ∀ left ∈ rpc.receipts, ∀ right ∈ rpc.receipts, left.command.scope = right.command.scope →
    left.operationId = right.operationId → left.operationId ≠ none → left = right

theorem resetReceipt_eq_none {operationId : OpaqueId}
    (absent : rpc.resetReceipt scope operationId = none) (member : receipt ∈ rpc.receipts)
    (same : receipt.command.scope = scope) : receipt.operationId ≠ some operationId := by
  have other := find?_eq_none.mp absent receipt member
  simp only [decide_eq_true_eq, not_and] at other
  exact other same

theorem checkReset_fresh {command : CanvasRuntimeCommand} (checked : rpc.checkReset command = .ok ())
    (member : receipt ∈ rpc.receipts) (same : receipt.command.scope = command.scope)
    (reset : command.reset.map (·.operationId) ≠ none) : receipt.operationId ≠ command.reset.map (·.operationId) := by
  unfold checkReset at checked
  split at checked
  · rename_i none
    rw [none] at reset
    exact absurd rfl reset
  · rename_i recorded shape
    split at checked
    · rename_i absent
      rw [shape, map_some]
      exact resetReceipt_eq_none absent member same
    · split at checked <;> cases checked

theorem ReceiptChange.operation (change : ReceiptChange rpc receipt) :
    (∃ old ∈ rpc.receipts, old.requestId = receipt.requestId ∧ old.command = receipt.command) ∨
      rpc.checkReset receipt.command = .ok () := by
  cases change with
  | created _ _ _ checked => exact .inr checked
  | begun current member => exact .inl ⟨current, member, rfl, rfl⟩
  | completed current _ _ member => exact .inl ⟨current, member, rfl, rfl⟩
  | resolved current _ member => exact .inl ⟨current, member, rfl, rfl⟩

theorem ResetsOnce.moved (once : ResetsOnce rpc) (moved : Moved rpc next) : ResetsOnce next := by
  rcases moved.receipts with same | ⟨changed, change, put⟩
  · unfold ResetsOnce
    rw [same]
    exact once
  · have other : ∀ receipt ∈ rpc.receipts, receipt.requestId ≠ changed.requestId →
        receipt.command.scope = changed.command.scope → changed.operationId ≠ none →
          receipt.operationId ≠ changed.operationId := by
      intro receipt member different scope reset operation
      rcases change.operation with ⟨old, present, keyed, command⟩ | checked
      · have operationOld : old.operationId = changed.operationId := by
          rw [CanvasRuntimeReceipt.operationId, command]
          rfl
        have same := once receipt member old present (by rw [command]; exact scope) (operation.trans operationOld.symm)
          (by rw [operation]; exact reset)
        exact different (same ▸ keyed)
      · exact checkReset_fresh checked member scope reset operation
    intro left leftMember right rightMember scope operation reset
    rw [put] at leftMember rightMember
    rcases mem_put.mp leftMember with ⟨leftOld, leftOther⟩ | rfl
    · rcases mem_put.mp rightMember with ⟨rightOld, _⟩ | rfl
      · exact once left leftOld right rightOld scope operation reset
      · exact absurd operation (other left leftOld leftOther scope (operation ▸ reset))
    · rcases mem_put.mp rightMember with ⟨rightOld, rightOther⟩ | rfl
      · exact absurd operation.symm (other right rightOld rightOther scope.symm reset)
      · rfl

theorem run_resetsOnce (limits : OutboxLimits) (steps : List CanvasRuntimeStep) (once : ResetsOnce rpc) :
    ResetsOnce (run (perform limits) steps rpc) := by
  induction steps generalizing rpc with
  | nil => exact once
  | cons step _ ih => exact ih (once.moved (perform_moved limits rpc step))

def starts (requestId : OpaqueId) (rpc : CanvasRuntimeRpc) : CanvasRuntimeStep → Bool
  | .begin begun => begun = requestId && (rpc.begin begun).2
  | _ => false

def begins (limits : OutboxLimits) (requestId : OpaqueId) : CanvasRuntimeRpc → List CanvasRuntimeStep → Nat
  | _, [] => 0
  | rpc, step :: rest =>
    (if starts requestId rpc step then 1 else 0) + begins limits requestId (rpc.perform limits step) rest

theorem starts_inv (limits : OutboxLimits) {requestId : OpaqueId} {step : CanvasRuntimeStep} (started : starts requestId rpc step = true) :
    ∃ receipt, rpc.receipts.find requestId = some receipt ∧ receipt.status = .pending ∧
      (rpc.perform limits step).receipts.find requestId = some { receipt with status := .running } := by
  cases step with
  | begin begun =>
    simp only [starts, Bool.and_eq_true, decide_eq_true_eq] at started
    obtain ⟨rfl, done⟩ := started
    rcases begin_cases rpc begun with same | ⟨receipt, found, pending, _, result⟩
    · rw [same] at done
      cases done
    · have keyed := (find_eq_some.mp found).2
      refine ⟨receipt, found, pending, ?_⟩
      rw [perform, result, ← keyed]
      exact find_put
  | accept | complete | resolveReset | queueOther | acknowledge | setMaxPayloadBytes => cases started

theorem begins_of_begun (steps : List CanvasRuntimeStep) {requestId : OpaqueId}
    (found : rpc.receipts.find requestId = some receipt) (begun : receipt.status ≠ .pending) :
    begins limits requestId rpc steps = 0 := by
  induction steps generalizing rpc receipt with
  | nil => rfl
  | cons step _ ih =>
    obtain ⟨kept, present, follows⟩ := (perform_moved limits rpc step).kept.receipts requestId receipt found
    have idle : ¬ starts requestId rpc step = true := by
      intro started
      obtain ⟨_, foundCurrent, pending, _⟩ := starts_inv limits started
      rw [found] at foundCurrent
      cases foundCurrent
      exact begun pending
    rw [begins, if_neg idle, ih present (follows.begun begun)]

theorem begins_le_one (limits : OutboxLimits) (requestId : OpaqueId) (rpc : CanvasRuntimeRpc)
    (steps : List CanvasRuntimeStep) : begins limits requestId rpc steps ≤ 1 := by
  induction steps generalizing rpc with
  | nil => exact Nat.zero_le 1
  | cons _ rest ih =>
    rw [begins]
    split
    · rename_i started
      obtain ⟨_, _, _, running⟩ := starts_inv limits started
      rw [begins_of_begun rest running (fun pending => by cases pending)]
    · rw [Nat.zero_add]
      exact ih _

end Kept

section Answers

/-- The step completes no response that its budget replaces or whose canonical text is read back in another order, and
it lowers the budget below no response that is stored. -/
def KeepsAnswers (limits : OutboxLimits) (rpc : CanvasRuntimeRpc) : CanvasRuntimeStep → Prop
  | .complete requestId response _ messageId _ =>
    (∀ receipt ∈ rpc.receipts.rows, receipt.requestId = requestId → receipt.response = none →
      response.reparsed = response ∧
        limits.bytes ⟨messageId, .canvasRuntimeResponse response⟩ ≤ rpc.outbox.maxPayloadBytes)
  | .setMaxPayloadBytes bytes => ∀ receipt ∈ rpc.receipts.rows, ∀ event ∈ receipt.response, limits.bytes event ≤ bytes
  | _ => True

structure Answer (limits : OutboxLimits) (outbox : EventOutbox) (requestId : OpaqueId) (event : QueuedHostEvent) :
    Prop where
  payload : ∃ response, event.payload = .canvasRuntimeResponse response
  queued : ∃ row, outbox.rows.find (.canvasRuntimeResponse requestId) = some row ∧ row.event = event
  fits : limits.bytes event ≤ outbox.maxPayloadBytes

structure Answered (limits : OutboxLimits) (rpc : CanvasRuntimeRpc) : Prop where
  current : ∀ requestId receipt, rpc.receipts.find requestId = some receipt → receipt.protocolArchiveReason = none
  answers : ∀ requestId receipt, rpc.receipts.find requestId = some receipt →
    ∀ event, receipt.response = some event → Answer limits rpc.outbox requestId event
  quiet : ∀ requestId row, rpc.outbox.rows.find (.canvasRuntimeResponse requestId) = some row →
    ∃ receipt event, rpc.receipts.find requestId = some receipt ∧ receipt.response = some event

theorem initial_answered (limits : OutboxLimits) (maxPayloadBytes : Nat) : Answered limits (initial maxPayloadBytes) := by
  refine ⟨?_, ?_, ?_⟩
  all_goals exact fun _ _ found => absurd (find_eq_some.mp found).1 not_mem_empty

variable {outbox : EventOutbox}

theorem Answer.queue {event : QueuedHostEvent} {requestId : OpaqueId} (answer : Answer limits outbox requestId event) :
    outbox.queue limits (.canvasRuntimeResponse requestId) event = .ok (outbox, event) := by
  obtain ⟨_, found, rfl⟩ := answer.queued
  exact queue_again found answer.fits

section
variable (answered : Answered limits rpc)
include answered

theorem Answered.congr (receipts : next.receipts = rpc.receipts)
    (outbox : next.outbox = rpc.outbox) : Answered limits next where
  current := receipts ▸ answered.current
  answers := receipts ▸ outbox ▸ answered.answers
  quiet := receipts ▸ outbox ▸ answered.quiet

theorem Answered.answer {existing : CanvasRuntimeReceipt} {event : QueuedHostEvent}
    {answer : CanvasRuntimeResponse Json} {status : CanvasRuntimeReceiptStatus}
    (found : rpc.receipts.find existing.requestId = some existing) (payload : event.payload = .canvasRuntimeResponse answer)
    (fits : limits.bytes event ≤ rpc.outbox.maxPayloadBytes)
    (receipts : next.receipts = rpc.receipts.put { existing with status := status, response := some event })
    (outbox : next.outbox = { rpc.outbox with
      rows := rpc.outbox.rows.put ⟨.canvasRuntimeResponse existing.requestId, event, false⟩ }) :
    Answered limits next := by
  have here : next.receipts.find existing.requestId =
      some { existing with status := status, response := some event } := by
    rw [receipts]
    exact find_put
  have elsewhere : ∀ requestId, requestId ≠ existing.requestId →
      next.receipts.find requestId = rpc.receipts.find requestId ∧
        next.outbox.rows.find (.canvasRuntimeResponse requestId) =
          rpc.outbox.rows.find (.canvasRuntimeResponse requestId) := by
    intro requestId other
    rw [receipts, outbox]
    refine ⟨find_put_of_ne other, find_put_of_ne ?_⟩
    exact fun same => other (HostEventKey.canvasRuntimeResponse.inj same)
  have row : next.outbox.rows.find (.canvasRuntimeResponse existing.requestId) =
      some ⟨.canvasRuntimeResponse existing.requestId, event, false⟩ := by
    rw [outbox]
    exact find_put
  have budget : next.outbox.maxPayloadBytes = rpc.outbox.maxPayloadBytes := by rw [outbox]
  refine ⟨fun requestId receipt present => ?_, fun requestId receipt present known response => ?_,
    fun requestId other present => ?_⟩
  · by_cases same : requestId = existing.requestId
    · subst same
      cases here.symm.trans present
      exact answered.current _ existing found
    · exact answered.current requestId receipt ((elsewhere requestId same).1.symm.trans present)
  · by_cases same : requestId = existing.requestId
    · subst same
      cases here.symm.trans present
      cases response
      exact ⟨⟨answer, payload⟩, ⟨_, row, rfl⟩, budget ▸ fits⟩
    · obtain ⟨shape, ⟨old, oldFound, equal⟩, small⟩ :=
        answered.answers requestId receipt ((elsewhere requestId same).1.symm.trans present) known response
      exact ⟨shape, ⟨old, (elsewhere requestId same).2.trans oldFound, equal⟩, budget ▸ small⟩
  · by_cases same : requestId = existing.requestId
    · subst same
      exact ⟨_, event, here, rfl⟩
    · obtain ⟨receipt, known, receiptFound, response⟩ :=
        answered.quiet requestId other ((elsewhere requestId same).2.symm.trans present)
      exact ⟨receipt, known, (elsewhere requestId same).1.trans receiptFound, response⟩

theorem Answered.put (archive : receipt.protocolArchiveReason = none)
    (response : receipt.response = (rpc.receipts.find receipt.requestId).bind (·.response)) :
    Answered limits { rpc with receipts := rpc.receipts.put receipt } := by
  refine ⟨fun requestId other found => ?_, fun requestId other found event answer => ?_, fun requestId row found => ?_⟩
  · by_cases same : requestId = receipt.requestId
    · subst same
      cases find_put.symm.trans found
      exact archive
    · exact answered.current requestId other ((find_put_of_ne same).symm.trans found)
  · by_cases same : requestId = receipt.requestId
    · subst same
      cases find_put.symm.trans found
      rw [response] at answer
      obtain ⟨old, present, known⟩ := bind_eq_some_iff.mp answer
      exact answered.answers _ old present event known
    · exact answered.answers requestId other ((find_put_of_ne same).symm.trans found) event answer
  · obtain ⟨old, event, present, known⟩ := answered.quiet requestId row found
    by_cases same : requestId = receipt.requestId
    · subst same
      refine ⟨receipt, event, find_put, ?_⟩
      rw [response, present]
      exact known
    · exact ⟨old, event, (find_put_of_ne same).trans present, known⟩

theorem Answered.withOutbox (rows : ∀ requestId, (outbox.rows.find (.canvasRuntimeResponse requestId)).map (·.event) =
      (rpc.outbox.rows.find (.canvasRuntimeResponse requestId)).map (·.event))
    (fits : ∀ requestId receipt, rpc.receipts.find requestId = some receipt → ∀ event, receipt.response = some event →
      limits.bytes event ≤ outbox.maxPayloadBytes) : Answered limits { rpc with outbox := outbox } := by
  refine ⟨answered.current, fun requestId receipt found event known => ?_, fun requestId row found => ?_⟩
  · obtain ⟨payload, ⟨_, present, same⟩, _⟩ := answered.answers requestId receipt found event known
    have mapped := rows requestId
    rw [present] at mapped
    obtain ⟨other, otherFound, equal⟩ := map_eq_some_iff.mp mapped
    exact ⟨payload, ⟨other, otherFound, equal.trans same⟩, fits requestId receipt found event known⟩
  · have mapped := (rows requestId).symm
    rw [found] at mapped
    obtain ⟨other, otherFound, _⟩ := map_eq_some_iff.mp mapped
    exact answered.quiet requestId other otherFound
end

section Steps
variable {command : CanvasRuntimeCommand} {inboxSequence : Nat} {requestId operationId : OpaqueId}
  {response : CanvasRuntimeResponse Json} {reconcileRequired : Bool} {messageId replacementId : String}
  {event : QueuedHostEvent}

section
variable (answered : Answered limits rpc)
include answered

theorem Answered.accept {acceptance : CanvasRuntimeReceiptAcceptance}
    (done : rpc.accept limits command inboxSequence = .ok (next, acceptance)) : Answered limits next := by
  rcases accept_ok done with rfl | ⟨existing, known, _, found, response, queueing, same⟩ | ⟨absent, _, rfl⟩
  · exact answered
  · rw [(answered.answers _ existing found known response).queue] at queueing
    have unchanged : next.outbox = rpc.outbox := (congrArg Prod.fst (Except.ok.inj queueing)).symm
    rw [same, unchanged]
    exact answered
  · refine answered.put rfl ?_
    rw [absent]
    rfl

theorem Answered.begin (requestId : OpaqueId) : Answered limits (rpc.begin requestId).1 := by
  rcases begin_cases rpc requestId with same | ⟨receipt, found, _, _, result⟩
  · rw [same]
    exact answered
  rw [result]
  have keyed := (find_eq_some.mp found).2
  refine answered.put (answered.current requestId receipt found) ?_
  rw [keyed, found]
  rfl

theorem Answered.resolveReset {resolution outcome : CanvasRuntimeResetResolution Json}
    (done : rpc.resolveReset scope operationId resolution = .ok (next, outcome)) : Answered limits next := by
  obtain ⟨receipt, member, _, _, same | ⟨_, result⟩⟩ := resolveReset_ok done
  · rw [same.1]
    exact answered
  rw [result]
  have found := find_of_mem member
  refine answered.put (answered.current _ receipt found) ?_
  rw [found]
  rfl
end

theorem responseEvent_of_fits (fits : limits.bytes ⟨messageId, .canvasRuntimeResponse response⟩ ≤ outbox.maxPayloadBytes) :
    (responseEvent limits outbox response reconcileRequired messageId replacementId).1 =
      ⟨messageId, .canvasRuntimeResponse response⟩ := by
  unfold responseEvent encode
  rw [if_neg (Nat.not_lt.mpr fits)]

section
variable (answered : Answered limits rpc)
include answered

theorem Answered.complete
    (allowed : KeepsAnswers limits rpc (.complete requestId response reconcileRequired messageId replacementId))
    (done : rpc.complete limits requestId response reconcileRequired messageId replacementId = .ok (next, event)) :
    Answered limits next ∧ ∃ receipt answer, next.receipts.find requestId = some receipt ∧
      receipt.response = some event ∧ event.payload = .canvasRuntimeResponse answer ∧
        answer.digest = response.digest := by
  obtain ⟨_, existing, found, cases⟩ := complete_ok done
  obtain ⟨member, keyed⟩ := find_eq_some.mp found
  rcases cases with ⟨known, answer, response, payload, same, receipts, queueing⟩ |
    ⟨unanswered, status, answer, _, made, receipts, queueing⟩
  · rw [(answered.answers requestId existing found known response).queue] at queueing
    obtain ⟨outbox, queued⟩ := Prod.mk.inj (Except.ok.inj queueing)
    subst queued
    exact ⟨answered.congr receipts outbox.symm, existing, answer, receipts ▸ found, response, payload, same⟩
  · obtain ⟨sorted, fits⟩ := allowed existing member keyed unanswered
    rw [responseEvent_of_fits fits] at made
    have same : stored answer = answer := by
      rw [made]
      simp only [stored, sorted]
    rw [same] at receipts
    have payload : answer.payload = .canvasRuntimeResponse response := by rw [made]
    rcases (queue_ok queueing).2 with ⟨row, present, _⟩ | ⟨_, queued, outbox⟩
    · obtain ⟨_, _, receiptFound, answeredBefore⟩ := answered.quiet requestId row present
      rw [found] at receiptFound
      cases receiptFound
      rw [unanswered] at answeredBefore
      cases answeredBefore
    · subst queued
      refine ⟨answered.answer (keyed.symm ▸ found) payload (made.symm ▸ fits) receipts (keyed.symm ▸ outbox), ?_⟩
      refine ⟨{ existing with status := status, response := some event }, response, ?_, rfl, payload, rfl⟩
      rw [receipts, ← keyed]
      exact find_put

theorem Answered.queueOther {key : String} {queued : EventOutbox × QueuedHostEvent}
    (done : rpc.outbox.queue limits (.other key) event = .ok queued) :
    Answered limits { rpc with outbox := queued.1 } := by
  have budget := (queue_grown done).2
  refine answered.withOutbox (fun requestId => ?_) fun requestId receipt found known response => ?_
  · rcases (queue_ok done).2 with ⟨_, _, _, same, _⟩ | ⟨_, _, added⟩
    · rw [same]
    · rw [added]
      exact congrArg _ (find_put_of_ne (by simp))
  · rw [budget]
    exact (answered.answers requestId receipt found known response).fits

theorem Answered.acknowledge (messageId : String) :
    Answered limits { rpc with outbox := rpc.outbox.acknowledge messageId } := by
  refine answered.withOutbox (fun requestId => ?_) fun requestId receipt found known response =>
    (answered.answers requestId receipt found known response).fits
  rw [EventOutbox.acknowledge, find_update, Option.map_map]
  congr 1
  funext row
  simp only [Function.comp_apply]
  split <;> rfl

theorem Answered.setMaxPayloadBytes {bytes : Nat} (allowed : KeepsAnswers limits rpc (.setMaxPayloadBytes bytes)) :
    Answered limits { rpc with outbox := rpc.outbox.setMaxPayloadBytes bytes } :=
  answered.withOutbox (fun _ => rfl) fun _ receipt found known response =>
    allowed receipt (find_eq_some.mp found).1 known response

theorem Answered.perform (step : CanvasRuntimeStep)
    (allowed : KeepsAnswers limits rpc step) : Answered limits (rpc.perform limits step) := by
  cases step with
  | accept command inboxSequence =>
    rw [CanvasRuntimeRpc.perform]
    cases done : rpc.accept limits command inboxSequence with
    | error => exact answered
    | ok => exact answered.accept done
  | begin requestId => exact answered.begin requestId
  | complete requestId response reconcileRequired messageId replacementId =>
    rw [CanvasRuntimeRpc.perform]
    cases done : rpc.complete limits requestId response reconcileRequired messageId replacementId with
    | error => exact answered
    | ok => exact (answered.complete allowed done).1
  | resolveReset scope operationId resolution =>
    rw [CanvasRuntimeRpc.perform]
    cases done : rpc.resolveReset scope operationId resolution with
    | error => exact answered
    | ok => exact answered.resolveReset done
  | queueOther key messageId json =>
    rw [CanvasRuntimeRpc.perform]
    cases done : rpc.outbox.queue limits (.other key) ⟨messageId, .other json⟩ with
    | error => exact answered
    | ok => exact answered.queueOther done
  | acknowledge messageId => exact answered.acknowledge messageId
  | setMaxPayloadBytes => exact answered.setMaxPayloadBytes allowed

theorem Answered.accept_again
    (found : rpc.receipts.find command.requestId = some receipt) (response : receipt.response = some event)
    {answer : CanvasRuntimeResponse Json} (payload : event.payload = .canvasRuntimeResponse answer)
    (same : command.digest = receipt.command.digest) :
    rpc.accept limits command inboxSequence = .ok (rpc, .replay answer) := by
  have queueing := (answered.answers _ receipt found event response).queue
  unfold CanvasRuntimeRpc.accept
  rw [found]
  simp only [answered.current _ receipt found, same, ne_eq, not_true_eq_false, ite_false, response, payload, queueing]
  rfl

theorem Answered.complete_again (found : rpc.receipts.find requestId = some receipt) (known : receipt.response = some event)
    {answer : CanvasRuntimeResponse Json} (payload : event.payload = .canvasRuntimeResponse answer)
    (identified : response.requestId = requestId) (same : answer.digest = response.digest) :
    rpc.complete limits requestId response reconcileRequired messageId replacementId = .ok (rpc, event) := by
  have queueing := (answered.answers _ receipt found event known).queue
  unfold CanvasRuntimeRpc.complete
  rw [if_neg (not_not.mpr identified), found]
  simp only [answered.current _ receipt found, known, payload, same, ne_eq, not_true_eq_false, ite_false, queueing]
  rfl
end
end Steps
end Answers

/-- In every run that keeps the answers, a request is begun once, answered once and answered alike ever after, and a
reset operation has one receipt and one outcome. -/
theorem canvas_runtime_rpc_idempotent (limits : OutboxLimits) (maxPayloadBytes : Nat) (steps : List CanvasRuntimeStep)
    (keeps : Runs.Along (perform limits) (KeepsAnswers limits) steps (initial maxPayloadBytes)) :
    let reached := fun steps => run (perform limits) steps (initial maxPayloadBytes)
    (∀ requestId, begins limits requestId (initial maxPayloadBytes) steps ≤ 1) ∧
    (∀ earlier later, steps = earlier ++ later → ∀ receipt ∈ (reached earlier).receipts.rows,
      ∃ kept ∈ (reached steps).receipts.rows, kept.requestId = receipt.requestId ∧ Follows receipt kept) ∧
    (∀ earlier later, steps = earlier ++ later → ∀ row ∈ (reached earlier).outbox.rows.rows,
      ∃ kept ∈ (reached steps).outbox.rows.rows, kept.event = row.event ∧
        ∀ other ∈ (reached steps).outbox.rows.rows, other.eventKey = row.eventKey → other = kept) ∧
    (∀ earlier later requestId response reconcileRequired messageId replacementId state event,
      steps = earlier ++ .complete requestId response reconcileRequired messageId replacementId :: later →
        (reached earlier).complete limits requestId response reconcileRequired messageId replacementId =
          .ok (state, event) →
        ∀ again anew reconciled replaced, again.requestId = requestId → again.digest = response.digest →
          (reached steps).complete limits requestId again reconciled anew replaced = .ok (reached steps, event)) ∧
    (∀ receipt ∈ (reached steps).receipts.rows, ∀ event answer, receipt.response = some event →
      event.payload = .canvasRuntimeResponse answer → ∀ command inboxSequence, command.requestId = receipt.requestId →
        command.digest = receipt.command.digest →
          (reached steps).accept limits command inboxSequence = .ok (reached steps, .replay answer)) ∧
    ∀ left ∈ (reached steps).receipts.rows, ∀ right ∈ (reached steps).receipts.rows,
      left.command.scope = right.command.scope → left.operationId = right.operationId → left.operationId ≠ none →
        left = right := by
  intro reached
  have kept : ∀ earlier later, steps = earlier ++ later → Kept (reached earlier) (reached steps) := by
    rintro earlier later rfl
    have joined : reached (earlier ++ later) = run (perform limits) later (reached earlier) :=
      run_append earlier later _
    rw [joined]
    exact run_kept limits later (reached earlier)
  have answered : ∀ earlier later, steps = earlier ++ later → Answered limits (reached earlier) := by
    rintro _ _ rfl
    exact (along_append.mp keeps).1.invariant (Answered limits)
      (fun state step holds allowed => holds.perform step allowed) (initial_answered limits maxPayloadBytes)
  refine ⟨fun requestId => begins_le_one limits requestId _ steps, ?_, ?_, ?_, ?_, ?_⟩
  · intro earlier later split receipt member
    obtain ⟨later, found, follows⟩ := (kept earlier later split).receipts _ receipt (find_of_mem member)
    obtain ⟨present, keyed⟩ := find_eq_some.mp found
    exact ⟨later, present, keyed, follows⟩
  · intro earlier later split row member
    obtain ⟨later, found, same⟩ := (kept earlier later split).outbox _ row (find_of_mem member)
    obtain ⟨present, keyed⟩ := find_eq_some.mp found
    exact ⟨later, present, same, fun other inside equal => eq_of_key inside present (equal.trans keyed.symm)⟩
  · intro earlier later requestId response reconcileRequired messageId replacementId state event split done again anew
      reconciled replaced identified same
    let step := CanvasRuntimeStep.complete requestId response reconcileRequired messageId replacementId
    have allowed : KeepsAnswers limits (reached earlier) step := by
      rw [split] at keeps
      exact (along_append.mp keeps).2.1
    obtain ⟨_, receipt, _, found, known, payload, digest⟩ := (answered earlier _ split).complete allowed done
    have after : reached (earlier ++ [step]) = state := by
      have joined : reached (earlier ++ [step]) = (reached earlier).perform limits step := run_append earlier [step] _
      rw [joined, perform, done]
      rfl
    have rejoined : steps = (earlier ++ [step]) ++ later := by rw [split, append_assoc]; rfl
    obtain ⟨_, lastFound, follows⟩ := (after ▸ kept (earlier ++ [step]) later rejoined).receipts requestId receipt found
    exact (answered steps [] (by simp)).complete_again lastFound (follows.response event known) payload identified
      (digest.trans same.symm)
  · intro receipt member event answer known payload command inboxSequence keyed same
    have found : (reached steps).receipts.find command.requestId = some receipt := keyed ▸ find_of_mem member
    exact (answered steps [] (by simp)).accept_again found known payload same
  · exact run_resetsOnce limits steps fun left member => absurd member not_mem_empty

section Sample

def canvasLimits : OutboxLimits := ⟨16, fun _ => 200⟩

def statusRequest : CanvasRuntimeCommand :=
  let id : OpaqueId := ⟨"status-request", by decide⟩
  ⟨id, ⟨id, id, id⟩, none, .token "status"⟩

def statusResponse (keys : List String) : CanvasRuntimeResponse Json :=
  ⟨statusRequest.requestId, "status", .success [] (some (.object (keys.map fun key => (key, .token "1"))))⟩

def statusSteps (keys : List String) : List CanvasRuntimeStep :=
  [.accept statusRequest 1, .begin statusRequest.requestId,
    .complete statusRequest.requestId (statusResponse keys) false "message-1" "message-2"]

theorem canvas_runtime_rpc_idempotent_status :
    ((run (perform canvasLimits) (statusSteps ["active", "done"]) (initial 1000)).accept canvasLimits
      statusRequest 2).toOption.map (·.2) = some (.replay (statusResponse ["active", "done"])) := by
  have keeps : Runs.Along (perform canvasLimits) (KeepsAnswers canvasLimits) (statusSteps ["active", "done"])
      (initial 1000) := ⟨trivial, trivial, fun _ _ _ _ => ⟨rfl, by decide⟩, trivial⟩
  have again := (canvas_runtime_rpc_idempotent canvasLimits 1000 (statusSteps ["active", "done"]) keeps).2.2.2.2.1
  rw [again _ (mem_singleton.mpr rfl) ⟨"message-1", .canvasRuntimeResponse (statusResponse ["active", "done"])⟩ _
    rfl rfl statusRequest 2 rfl rfl]
  rfl

/-- A response whose keys are not sorted is neither completed nor delivered a second time. -/
theorem unsorted_response_conflicts :
    let rpc := run (perform canvasLimits) (statusSteps ["done", "active"]) (initial 1000)
    rpc.receipts.rows.map (·.response.isSome) = [true] ∧
      Checked.errorOf (rpc.complete canvasLimits statusRequest.requestId (statusResponse ["done", "active"]) false
        "message-3" "message-4") = some .hostEventIdentityConflict ∧
      Checked.errorOf (rpc.accept canvasLimits statusRequest 2) = some .hostEventIdentityConflict := by
  decide +kernel

end Sample
end CanvasRuntimeRpc
end PlanWeave
