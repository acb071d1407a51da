import PlanWeave.State.Types
import Mathlib.Logic.Function.Basic
import Mathlib.Algebra.GroupWithZero.Nat

namespace PlanWeave

abbrev SessionId := Nat

/-- What `serializeMessage` looks at in a command. -/
inductive CommandForm where
  | permissionHistory | current | outdated
deriving DecidableEq

structure MailboxCommand where
  form : CommandForm
  bytes : Nat
deriving DecidableEq

structure MailboxMessage where
  sequence : Nat
  previousSequence : Nat
  messageId : OpaqueId
  hostId : OpaqueId
  command : MailboxCommand
  acknowledged : Bool := false
deriving DecidableEq

/-- `mailbox_messages`, oldest row first, with the columns of `agent_hosts` that the mailbox reads. `lastRowid` is the
row counter of the AUTOINCREMENT key. -/
structure MailboxStore where
  rows : List MailboxMessage := []
  lastRowid : Nat := 0
  lastAcknowledgedSequence : OpaqueId → Nat := fun _ => 0
  revoked : OpaqueId → Bool := fun _ => false

inductive MailboxError where
  | ackBeyondHighestSequence | ackOutOfOrder | identityConflict
deriving DecidableEq

namespace MailboxStore

def message (store : MailboxStore) (messageId : OpaqueId) : Option MailboxMessage :=
  store.rows.find? (·.messageId = messageId)

def lastSequence (store : MailboxStore) (hostId : OpaqueId) : Nat :=
  ((store.rows.filter (·.hostId = hostId)).map (·.sequence)).foldl max 0

/-- `enqueue` is the call with a message id that no row has. -/
def enqueueOnce (messageId hostId : OpaqueId) (command : MailboxCommand) (store : MailboxStore) :
    Except MailboxError MailboxStore :=
  match store.message messageId with
  | some existing =>
    if existing.hostId ≠ hostId ∨ existing.command ≠ command then .error .identityConflict else .ok store
  | none => .ok
    { store with
      rows := store.rows ++ [⟨store.lastRowid + 1, store.lastSequence hostId, messageId, hostId, command, false⟩]
      lastRowid := store.lastRowid + 1 }

/-- `listPageAfter(hostId, sequence, 1)[0]` -/
def nextAfter (store : MailboxStore) (hostId : OpaqueId) (sequence : Nat) : Option MailboxMessage :=
  store.rows.find? fun row => row.hostId = hostId ∧ sequence < row.sequence

def row (store : MailboxStore) (hostId : OpaqueId) (sequence : Nat) : Option MailboxMessage :=
  store.rows.find? fun row => row.hostId = hostId ∧ row.sequence = sequence

def hasAcknowledgedSequence (store : MailboxStore) (hostId : OpaqueId) (sequence : Nat) : Bool :=
  store.rows.any fun row => row.hostId = hostId ∧ row.sequence = sequence ∧ row.acknowledged

def acknowledgeSequence (hostId : OpaqueId) (sequence : Nat) (store : MailboxStore) :
    Except MailboxError MailboxStore :=
  match store.row hostId sequence with
  | none => .error .ackBeyondHighestSequence
  | some target =>
    if sequence ≤ store.lastAcknowledgedSequence hostId then .ok store
    else if target.previousSequence ≠ store.lastAcknowledgedSequence hostId then .error .ackOutOfOrder
    else .ok
      { store with
        rows := store.rows.map fun row =>
          if row.hostId = hostId ∧ row.sequence = sequence then { row with acknowledged := true } else row
        lastAcknowledgedSequence :=
          if store.revoked hostId then store.lastAcknowledgedSequence
          else Function.update store.lastAcknowledgedSequence hostId
            (max (store.lastAcknowledgedSequence hostId) sequence) }

end MailboxStore

/-- `DurableMailbox.listeners`: the sets live on a heap of their own, since a closure may hold one that the map no
longer does. A set is named by the session whose `subscribe` created it, a listener by its session. -/
structure MailboxListeners where
  sets : SessionId → List SessionId := fun _ => []
  listeners : OpaqueId → Option SessionId := fun _ => none

namespace MailboxListeners

/-- `subscribe` of the session `id`; the second component is the set that the returned closure holds. -/
def subscribe (hostId : OpaqueId) (id : SessionId) (mailbox : MailboxListeners) : MailboxListeners × SessionId :=
  let ref := (mailbox.listeners hostId).getD id
  let members := if (mailbox.listeners hostId).isSome then mailbox.sets ref else []
  ({ sets := Function.update mailbox.sets ref (if id ∈ members then members else members ++ [id])
     listeners := Function.update mailbox.listeners hostId (some ref) }, ref)

/-- The closure that `subscribe` returns. -/
def unsubscribe (hostId : OpaqueId) (ref id : SessionId) (mailbox : MailboxListeners) : MailboxListeners :=
  let members := (mailbox.sets ref).filter (· ≠ id)
  { sets := Function.update mailbox.sets ref members
    listeners := if members = [] then Function.update mailbox.listeners hostId none else mailbox.listeners }

def of (mailbox : MailboxListeners) (hostId : OpaqueId) : List SessionId :=
  match mailbox.listeners hostId with
  | none => []
  | some ref => mailbox.sets ref

end MailboxListeners
end PlanWeave
