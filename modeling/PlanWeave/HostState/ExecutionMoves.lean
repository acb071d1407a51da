import PlanWeave.HostState.AgentHostState

namespace PlanWeave
open Table

namespace AgentHostExecutionStatus

/-- At most so many steps of the transitions table. -/
inductive Leads (status : AgentHostExecutionStatus) : Nat → AgentHostExecutionStatus → Prop
  | refl {shifts : Nat} : Leads status shifts status
  | step {shifts : Nat} {middle next : AgentHostExecutionStatus} (leads : status.Leads shifts middle)
      (allowed : next ∈ middle.transitions) : Leads status (shifts + 1) next

variable {status middle next : AgentHostExecutionStatus}

theorem Leads.mono {shifts most : Nat} (leads : status.Leads shifts next) (fewer : shifts ≤ most) :
    status.Leads most next := by
  induction leads generalizing most with
  | refl => exact .refl
  | step _ allowed ih =>
    obtain ⟨_, rfl⟩ := Nat.exists_eq_add_of_lt fewer
    exact .step (ih (Nat.le_add_right _ _)) allowed

theorem Leads.trans {shifts later : Nat} (leads : status.Leads shifts middle) (rest : middle.Leads later next) :
    status.Leads (shifts + later) next := by
  induction rest with
  | refl => exact leads.mono (Nat.le_add_right _ _)
  | step _ allowed ih => exact .step ih allowed

theorem active_of_transition (allowed : next ∈ status.transitions) : status.terminal = false ∧ status ≠ next := by
  revert allowed
  cases status <;> cases next <;> decide

end AgentHostExecutionStatus

namespace ExecutionHostEvent

def ending : ExecutionHostEvent → Option (LeaseIdentity × DispatchOutcome)
  | dispatchCompleted identity result => some (identity, .result result)
  | dispatchFailed identity failure => some (identity, .failure failure)
  | _ => none

end ExecutionHostEvent

@[simp] theorem AgentHostState.terminalEvent_ending (identity : LeaseIdentity) (payload : DispatchOutcome) :
    (terminalEvent identity payload).2.ending = some (identity, payload) := by
  cases payload <;> rfl

namespace OutboxRow

def ending (row : OutboxRow) : Option (LeaseIdentity × DispatchOutcome) :=
  match row.event.payload with
  | .execution event => event.ending
  | _ => none

def relayed (row : OutboxRow) : Option AcpEventsMessage :=
  match row.event.payload with
  | .execution (.acpEvents message) => some message
  | _ => none

def endsAttempt (row : OutboxRow) (attempt : OpaqueId × OpaqueId) : Prop :=
  row.ending.any fun ended => ended.1.attempt = attempt

instance (row : OutboxRow) (attempt : OpaqueId × OpaqueId) : Decidable (row.endsAttempt attempt) :=
  inferInstanceAs (Decidable (_ = true))

theorem endsAttempt_iff {row : OutboxRow} {attempt : OpaqueId × OpaqueId} :
    row.endsAttempt attempt ↔ ∃ ended, row.ending = some ended ∧ ended.1.attempt = attempt := by
  unfold endsAttempt
  cases row.ending <;> simp

structure Keyed (row : OutboxRow) : Prop where
  accepted : ∀ identity, row.event.payload = .execution (.dispatchAccepted identity) →
    row.eventKey = .other (AgentHostState.acceptedKey identity)
  interrupted : ∀ identity reason recovery,
    row.event.payload = .execution (.dispatchInterrupted identity reason recovery) →
      row.eventKey = .other (AgentHostState.interruptedKey identity)

end OutboxRow

namespace ExecutionRow

/-- The row without the cursors that late records still move. -/
def settled (row : ExecutionRow) : ExecutionRow :=
  { row with eventProtocolVersion := none, eventCursor := 0, actionCursor := 0 }

/-- The recorded session can be named on the wire, and a resume is authorized for the lease of the row. -/
structure Evidenced (row : ExecutionRow) : Prop where
  session : ∀ acpSessionId, row.acpSessionId = some acpSessionId → opaqueIdentifierSchema acpSessionId = true
  recovery : ∀ recoveryId, row.recoveryId = some recoveryId → opaqueIdentifierSchema recoveryId = true
  cursor : row.acpSessionId = none → row.eventCursor = 0
  resumed : ∀ leaseId leaseExpiresAt priorLeaseId priorRecovery,
    row.recoveryIntent = some (.resumeSameSession leaseId leaseExpiresAt priorLeaseId priorRecovery) → leaseId = row.leaseId

/-- `new` is `old` with other evidence; of a terminal execution only the cursors move. -/
structure Touched (old new : ExecutionRow) : Prop where
  sequence : new.sequence = old.sequence
  command : new.command = old.command
  leaseId : new.leaseId = old.leaseId
  status : new.status = old.status
  terminal : new.terminal = old.terminal
  kept : old.status.terminal = true → new.settled = old.settled
  evidenced : old.Evidenced → new.Evidenced

/-- The relay of the records sees no difference: the lease may only be replaced behind a session. -/
structure Unheard (old new : ExecutionRow) : Prop where
  command : new.command = old.command
  session : new.acpSessionId = old.acpSessionId
  cursor : new.eventCursor = old.eventCursor
  lease : old.acpSessionId = none → new.leaseId = old.leaseId

end ExecutionRow

namespace AgentHostState

def ActionsFollow (state next : AgentHostState) : Prop :=
  ∀ action ∈ next.actions, action.kind = .authentication → ∃ prior ∈ state.actions, prior.kind = .authentication

variable {state next : AgentHostState}

theorem ActionsFollow.of_eq (same : next.actions = state.actions) :
    state.ActionsFollow next := by
  intro action member kind
  exact ⟨action, same ▸ member, kind⟩

structure SameRecords (state next : AgentHostState) : Prop where
  records : next.records = state.records
  last : next.lastRecordSequence = state.lastRecordSequence

/-- What the operations do to the executions and the outbox, one change after another; `sequence` is the execution that
the change is about, only a `loud` change is one that the relay of the records makes or sees, and the index says whether a
status moves in the table. -/
inductive Move (loud : Prop) (sequence : Nat) (state next : AgentHostState) : Bool → Prop
  | aside (executions : next.executions = state.executions) (outbox : next.outbox.rows = state.outbox.rows)
      (actions : state.ActionsFollow next) (highWater : state.receivedHighWater ≤ next.receivedHighWater)
      (heard : loud ∨ state.SameRecords next) : Move loud sequence state next false
  | touched (old new : ExecutionRow) (found : state.executions.find sequence = some old) (touched : old.Touched new)
      (executions : next.executions = state.executions.put new) (outbox : next.outbox = state.outbox)
      (actions : state.ActionsFollow next) (highWater : next.receivedHighWater = state.receivedHighWater)
      (heard : loud ∨ state.SameRecords next ∧ old.Unheard new) : Move loud sequence state next false
  | inserted (row : ExecutionRow) (fresh : state.executions.find sequence = none)
      (unknown : ∀ other ∈ state.executions, other.attempt ≠ row.attempt) (keyed : row.sequence = sequence)
      (accepted : row.status = .accepted) (open_ : row.terminal = none) (evidenced : row.Evidenced)
      (executions : next.executions = state.executions.put row) (outbox : next.outbox = state.outbox)
      (actions : next.actions = state.actions) (highWater : next.receivedHighWater = state.receivedHighWater)
      (received : sequence ≤ state.receivedHighWater) (unheard : state.SameRecords next ∧ row.acpSessionId = none) :
      Move loud sequence state next false
  /-- A status that is not terminal, perhaps under a new lease. -/
  | moved (old new : ExecutionRow) (found : state.executions.find sequence = some old) (keyed : new.sequence = sequence)
      (status : new.status ∈ old.status.transitions) (active : new.status.terminal = false)
      (command : new.command = old.command) (open_ : new.terminal = old.terminal)
      (evidenced : old.Evidenced → new.Evidenced) (executions : next.executions = state.executions.put new)
      (outbox : next.outbox = state.outbox) (actions : next.actions = state.actions)
      (highWater : next.receivedHighWater = state.receivedHighWater)
      (unheard : state.SameRecords next ∧ old.Unheard new) : Move loud sequence state next true
  | queued (row : OutboxRow) (fresh : state.outbox.rows.find row.eventKey = none) (plain : row.ending = none)
      (keyed : row.Keyed) (executions : next.executions = state.executions)
      (outbox : next.outbox.rows = state.outbox.rows.put row) (actions : next.actions = state.actions)
      (highWater : next.receivedHighWater = state.receivedHighWater) (records : state.SameRecords next)
      (heard : loud ∨ row.relayed = none) : Move loud sequence state next false
  | ended (old : ExecutionRow) (row : OutboxRow) (terminal : ExecutionTerminal)
      (found : state.executions.find sequence = some old) (active : old.status.terminal = false)
      (status : terminal.kind.status ∈ old.status.transitions) (fresh : state.outbox.rows.find row.eventKey = none)
      (event : row.ending = some (old.identity, terminal.payload)) (id : row.event.messageId = terminal.eventMessageId)
      (keyed : row.Keyed)
      (executions : next.executions = state.executions.put
        { old with status := terminal.kind.status, terminal := some terminal })
      (outbox : next.outbox.rows = state.outbox.rows.put row) (actions : next.actions = state.actions)
      (highWater : next.receivedHighWater = state.receivedHighWater) (records : state.SameRecords next) :
      Move loud sequence state next true

/-- Moves about one execution that leave its status alone. -/
abbrev Rests (loud : Prop) (sequence : Nat) : AgentHostState → AgentHostState → Prop :=
  Relation.ReflTransGen fun state next => Move loud sequence state next false

abbrev Moves (loud : Prop) : AgentHostState → AgentHostState → Prop :=
  Relation.ReflTransGen fun state next => ∃ sequence shifts, Move loud sequence state next shifts

end AgentHostState

variable {out : OutboxRow}

namespace ExecutionRow

/-- What the outbox holds about an execution: no terminal event while it is active, and else exactly one, which names its
lease. -/
def Accounted (outbox : Table OutboxRow.eventKey) (row : ExecutionRow) : Prop :=
  match row.terminal with
  | none => row.status.terminal = false ∧ ∀ out ∈ outbox, ¬ out.endsAttempt row.attempt
  | some terminal => row.status = terminal.kind.status ∧ ∃ out ∈ outbox,
      out.ending = some (row.identity, terminal.payload) ∧ out.event.messageId = terminal.eventMessageId ∧
        ∀ other ∈ outbox, other.endsAttempt row.attempt → other = out

variable {outbox : Table OutboxRow.eventKey} {old new row : ExecutionRow}

theorem Accounted.congr (accounted : old.Accounted outbox) (command : new.command = old.command)
    (leaseId : new.leaseId = old.leaseId) (status : new.status = old.status) (terminal : new.terminal = old.terminal) :
    new.Accounted outbox := by
  unfold Accounted attempt identity at *
  rw [command, leaseId, status, terminal]
  exact accounted

section
variable (accounted : row.Accounted outbox)
include accounted

theorem Accounted.active : row.terminal = none ↔ row.status.terminal = false := by
  unfold Accounted at accounted
  split at accounted
  · rename_i open_
    simp [open_, accounted.1]
  · rename_i terminal ended
    have final : terminal.kind.status.terminal = true := by cases terminal.kind <;> rfl
    simp [ended, accounted.1, final]

theorem Accounted.unended (active : row.status.terminal = false)
    (member : out ∈ outbox) : ¬ out.endsAttempt row.attempt := by
  have open_ := accounted.active.mpr active
  unfold Accounted at accounted
  rw [open_] at accounted
  exact accounted.2 out member

theorem Accounted.put (fresh : outbox.find out.eventKey = none)
    (other : ¬ out.endsAttempt row.attempt) : row.Accounted (outbox.put out) := by
  have kept : ∀ known ∈ outbox, known ∈ outbox.put out := fun known member =>
    mem_put.mpr (.inl ⟨member, find_eq_none.mp fresh known member⟩)
  have old : ∀ known ∈ outbox.put out, known.endsAttempt row.attempt → known ∈ outbox := by
    intro known member ends
    rcases mem_put.mp member with ⟨present, _⟩ | rfl
    · exact present
    · exact absurd ends other
  unfold Accounted at *
  split
  · rename_i open_
    rw [open_] at accounted
    exact ⟨accounted.1, fun known member ends => accounted.2 known (old known member ends) ends⟩
  · rename_i terminal ended
    rw [ended] at accounted
    obtain ⟨status, event, member, names, id, only⟩ := accounted
    exact ⟨status, event, kept event member, names, id, fun known present ends => only known (old known present ends) ends⟩
end
end ExecutionRow

namespace AgentHostState

structure Sound (state : AgentHostState) : Prop where
  attempts : ∀ left ∈ state.executions, ∀ right ∈ state.executions, left.attempt = right.attempt → left = right
  evidenced : ∀ row ∈ state.executions, row.Evidenced
  accounted : ∀ row ∈ state.executions, row.Accounted state.outbox.rows
  known : ∀ out ∈ state.outbox.rows, ∀ ended, out.ending = some ended → ∃ row ∈ state.executions,
    row.attempt = ended.1.attempt
  keyed : ∀ out ∈ state.outbox.rows, out.Keyed
  actions : ∀ action ∈ state.actions, action.kind ≠ .authentication
  received : ∀ row ∈ state.executions, row.sequence ≤ state.receivedHighWater

theorem Sound.initial (maxPayloadBytes : Nat) : (initial maxPayloadBytes).Sound where
  attempts _ member := absurd member not_mem_empty
  evidenced _ member := absurd member not_mem_empty
  accounted _ member := absurd member not_mem_empty
  known _ member := absurd member not_mem_empty
  keyed _ member := absurd member not_mem_empty
  actions _ member := absurd member not_mem_empty
  received _ member := absurd member not_mem_empty

section Preservation
variable {state next : AgentHostState} {loud : Prop} {sequence : Nat} {old new : ExecutionRow}

theorem ActionsFollow.keep (follow : state.ActionsFollow next) (sound : state.Sound) :
    ∀ action ∈ next.actions, action.kind ≠ .authentication := by
  intro action member kind
  obtain ⟨prior, present, same⟩ := follow action member kind
  exact sound.actions prior present same

section Put
variable (sound : state.Sound) (fits : ∀ row ∈ state.executions, row.attempt = new.attempt ↔ row.sequence = new.sequence)
  (received : new.sequence ≤ state.receivedHighWater) (evidenced : new.Evidenced)
  (executions : next.executions = state.executions.put new) (actions : ∀ action ∈ next.actions, action.kind ≠ .authentication)
  (highWater : next.receivedHighWater = state.receivedHighWater)
include sound fits received evidenced executions actions highWater

/-- A row written under the sequence of the attempt that it continues, or under a new one. -/
theorem Sound.put (accounted : new.Accounted next.outbox.rows)
    (others : ∀ row ∈ state.executions, row.attempt ≠ new.attempt → row.Accounted next.outbox.rows)
    (known : ∀ out ∈ next.outbox.rows, ∀ ended, out.ending = some ended →
      out ∈ state.outbox.rows ∨ ended.1.attempt = new.attempt) (keys : ∀ out ∈ next.outbox.rows, out.Keyed) :
    next.Sound := by
  have cases_new : ∀ row ∈ next.executions, (row ∈ state.executions ∧ row.attempt ≠ new.attempt) ∨ row = new := by
    intro row member
    rw [executions] at member
    exact (mem_put.mp member).imp_left fun kept => ⟨kept.1, fun same => kept.2 ((fits row kept.1).mp same)⟩
  constructor
  · intro left leftMember right rightMember same
    rcases cases_new left leftMember with ⟨leftKept, leftOther⟩ | rfl
    · rcases cases_new right rightMember with ⟨rightKept, _⟩ | rfl
      · exact sound.attempts left leftKept right rightKept same
      · exact absurd same leftOther
    · rcases cases_new right rightMember with ⟨_, rightOther⟩ | rfl
      · exact absurd same.symm rightOther
      · rfl
  · intro row member
    rcases cases_new row member with ⟨kept, _⟩ | rfl
    · exact sound.evidenced row kept
    · exact evidenced
  · intro row member
    rcases cases_new row member with ⟨kept, other⟩ | rfl
    · exact others row kept other
    · exact accounted
  · intro out member ended names
    rw [executions]
    rcases known out member ended names with before | same
    · obtain ⟨row, rowMember, rowAttempt⟩ := sound.known out before ended names
      by_cases replaced : row.attempt = new.attempt
      · exact ⟨new, mem_put.mpr (.inr rfl), replaced.symm.trans rowAttempt⟩
      · exact ⟨row, mem_put.mpr (.inl ⟨rowMember, fun same => replaced ((fits row rowMember).mpr same)⟩), rowAttempt⟩
    · exact ⟨new, mem_put.mpr (.inr rfl), same.symm⟩
  · exact keys
  · exact actions
  · intro row member
    rw [highWater]
    rcases cases_new row member with ⟨kept, _⟩ | rfl
    · exact sound.received row kept
    · exact received

theorem Sound.put_beside (outbox : next.outbox = state.outbox) (accounted : new.Accounted state.outbox.rows) :
    next.Sound := by
  apply sound.put fits received evidenced executions actions highWater
  all_goals rw [outbox]
  · exact accounted
  · exact fun row member _ => sound.accounted row member
  · exact fun out member _ _ => .inl member
  · exact sound.keyed
end Put

theorem Sound.fits (sound : state.Sound) (found : state.executions.find sequence = some old)
    (keyed : new.sequence = sequence) (command : new.command = old.command) :
    (∀ row ∈ state.executions, row.attempt = new.attempt ↔ row.sequence = new.sequence) ∧
      new.sequence ≤ state.receivedHighWater := by
  obtain ⟨present, oldKeyed⟩ := find_eq_some.mp found
  have attempt : new.attempt = old.attempt := by
    unfold ExecutionRow.attempt
    rw [command]
  rw [attempt, keyed.trans oldKeyed.symm]
  refine ⟨fun row member => ⟨fun same => ?_, fun same => ?_⟩, sound.received old present⟩
  · rw [sound.attempts row member old present same]
  · rw [eq_of_key member present same]

theorem Sound.keys_put (sound : state.Sound) (keyed : out.Keyed)
    (outbox : next.outbox.rows = state.outbox.rows.put out) : ∀ known ∈ next.outbox.rows, known.Keyed := by
  intro known member
  rw [outbox] at member
  rcases mem_put.mp member with ⟨present, _⟩ | rfl
  · exact sound.keyed known present
  · exact keyed

theorem Sound.queued (sound : state.Sound) (fresh : state.outbox.rows.find out.eventKey = none) (plain : out.ending = none)
    (keyed : out.Keyed) (executions : next.executions = state.executions)
    (outbox : next.outbox.rows = state.outbox.rows.put out) (actions : next.actions = state.actions)
    (highWater : next.receivedHighWater = state.receivedHighWater) : next.Sound := by
  have unending : ∀ attempt, ¬ out.endsAttempt attempt := by
    intro attempt ends
    rw [OutboxRow.endsAttempt, plain] at ends
    cases ends
  constructor
  · rw [executions]; exact sound.attempts
  · rw [executions]; exact sound.evidenced
  · rw [executions, outbox]
    exact fun other member => (sound.accounted other member).put fresh (unending _)
  · intro row member ended names
    rw [outbox] at member
    rw [executions]
    rcases mem_put.mp member with ⟨present, _⟩ | rfl
    · exact sound.known row present ended names
    · rw [plain] at names
      cases names
  · exact sound.keys_put keyed outbox
  · rw [actions]; exact sound.actions
  · rw [executions, highWater]; exact sound.received

theorem Sound.ended {terminal : ExecutionTerminal} (sound : state.Sound)
    (found : state.executions.find sequence = some old) (active : old.status.terminal = false)
    (fresh : state.outbox.rows.find out.eventKey = none) (event : out.ending = some (old.identity, terminal.payload))
    (id : out.event.messageId = terminal.eventMessageId) (keyed : out.Keyed)
    (executions : next.executions = state.executions.put
      { old with status := terminal.kind.status, terminal := some terminal })
    (outbox : next.outbox.rows = state.outbox.rows.put out) (actions : next.actions = state.actions)
    (highWater : next.receivedHighWater = state.receivedHighWater) : next.Sound := by
  obtain ⟨present, oldKeyed⟩ := find_eq_some.mp found
  have ends : ∀ attempt, out.endsAttempt attempt ↔ old.attempt = attempt := by
    intro attempt
    rw [OutboxRow.endsAttempt, event]
    exact decide_eq_true_iff
  have held := sound.evidenced old present
  let new : ExecutionRow := { old with status := terminal.kind.status, terminal := some terminal }
  have keyed_new : new.sequence = sequence := oldKeyed
  obtain ⟨fits, received⟩ := sound.fits found keyed_new rfl
  apply sound.put fits received ⟨held.session, held.recovery, held.cursor, held.resumed⟩ executions
    (actions ▸ sound.actions) highWater
  · rw [outbox]
    refine ⟨rfl, out, mem_put.mpr (.inr rfl), event, id, fun other member names => ?_⟩
    rcases mem_put.mp member with ⟨before, _⟩ | same
    · exact absurd names ((sound.accounted old present).unended active before)
    · exact same
  · intro other member different
    rw [outbox]
    exact (sound.accounted other member).put fresh fun names => different ((ends _).mp names).symm
  · intro row member ended names
    rw [outbox] at member
    rcases mem_put.mp member with ⟨before, _⟩ | rfl
    · exact .inl before
    · rw [event] at names
      cases names
      exact .inr rfl
  · exact sound.keys_put keyed outbox

theorem Move.sound {shifts : Bool} (move : Move loud sequence state next shifts) (sound : state.Sound) : next.Sound := by
  cases move with
  | aside executions outbox actions highWater =>
    constructor
    · rw [executions]; exact sound.attempts
    · rw [executions]; exact sound.evidenced
    · rw [executions, outbox]; exact sound.accounted
    · rw [executions, outbox]; exact sound.known
    · rw [outbox]; exact sound.keyed
    · exact actions.keep sound
    · rw [executions]; exact fun row member => (sound.received row member).trans highWater
  | touched old _ found touched executions outbox actions highWater =>
    obtain ⟨present, oldKeyed⟩ := find_eq_some.mp found
    obtain ⟨fits, received⟩ := sound.fits found (touched.sequence.trans oldKeyed) touched.command
    exact sound.put_beside fits received (touched.evidenced (sound.evidenced old present)) executions
      (actions.keep sound) highWater outbox
      ((sound.accounted old present).congr touched.command touched.leaseId touched.status touched.terminal)
  | inserted row fresh unknown keyed accepted open_ evidenced executions outbox actions highWater received =>
    have fits : ∀ other ∈ state.executions, other.attempt = row.attempt ↔ other.sequence = row.sequence :=
      fun other member => iff_of_false (unknown other member) (keyed ▸ find_eq_none.mp fresh other member)
    refine sound.put_beside fits (keyed ▸ received) evidenced executions (actions ▸ sound.actions) highWater outbox ?_
    unfold ExecutionRow.Accounted
    rw [open_, accepted]
    refine ⟨rfl, fun out present ends => ?_⟩
    obtain ⟨ended, names, same⟩ := OutboxRow.endsAttempt_iff.mp ends
    obtain ⟨holder, holderMember, holderAttempt⟩ := sound.known out present ended names
    exact unknown holder holderMember (holderAttempt.trans same)
  | moved old _ found keyed status active command open_ evidenced executions outbox actions highWater =>
    obtain ⟨present, _⟩ := find_eq_some.mp found
    obtain ⟨fits, received⟩ := sound.fits found keyed command
    have account := sound.accounted old present
    have oldActive := (AgentHostExecutionStatus.active_of_transition status).1
    have unended : old.terminal = none := account.active.mpr oldActive
    refine sound.put_beside fits received (evidenced (sound.evidenced old present)) executions
      (actions ▸ sound.actions) highWater outbox ?_
    unfold ExecutionRow.Accounted ExecutionRow.attempt
    rw [open_, unended, command]
    exact ⟨active, fun out member => account.unended oldActive member⟩
  | queued _ fresh plain keyed executions outbox actions highWater =>
    exact sound.queued fresh plain keyed executions outbox actions highWater
  | ended _ _ _ found active _ fresh event id keyed executions outbox actions highWater =>
    exact sound.ended found active fresh event id keyed executions outbox actions highWater

theorem Move.elsewhere {shifts : Bool} (move : Move loud sequence state next shifts) {other : Nat} (different : other ≠ sequence) :
    next.executions.find other = state.executions.find other := by
  cases move with
  | aside executions => rw [executions]
  | touched _ _ found touched executions =>
    rw [executions]
    exact find_put_of_ne (touched.sequence ▸ (find_eq_some.mp found).2 ▸ different)
  | inserted _ _ _ keyed _ _ _ executions =>
    rw [executions]
    exact find_put_of_ne (keyed ▸ different)
  | moved _ _ _ keyed _ _ _ _ _ executions =>
    rw [executions]
    exact find_put_of_ne (keyed ▸ different)
  | queued _ _ _ _ executions => rw [executions]
  | ended old _ _ found _ _ _ _ _ _ executions =>
    rw [executions]
    have same : old.sequence = sequence := (find_eq_some.mp found).2
    exact find_put_of_ne (same ▸ different)

theorem Moves.sound (moves : Moves loud state next) (sound : state.Sound) : next.Sound := by
  induction moves with
  | refl => exact sound
  | tail _ move ih =>
    obtain ⟨_, _, move⟩ := move
    exact move.sound ih

end Preservation
end AgentHostState

/-- What an operation makes of an execution: its status takes at most so many steps of the table, and when it has ended only
its cursors move. -/
inductive ExecutionRow.Follows (shifts : Nat) : Option ExecutionRow → Option ExecutionRow → Prop
  | absent : Follows shifts none none
  | inserted (new : ExecutionRow) (status : AgentHostExecutionStatus.accepted.Leads shifts new.status) :
      Follows shifts none (some new)
  | kept (old new : ExecutionRow) (command : new.command = old.command) (status : old.status.Leads shifts new.status)
      (settled : old.status.terminal = true → new.status = old.status ∧ new.settled = old.settled) :
      Follows shifts (some old) (some new)

namespace ExecutionRow.Follows
variable {shifts later : Nat} {first second third : Option ExecutionRow}

theorem refl : (row : Option ExecutionRow) → Follows shifts row row
  | none => .absent
  | some row => .kept row row rfl .refl fun _ => ⟨rfl, rfl⟩

theorem mono (follows : Follows shifts first second) (fewer : shifts ≤ later) : Follows later first second := by
  cases follows with
  | absent => exact .absent
  | inserted new status => exact .inserted new (status.mono fewer)
  | kept old new command status settled => exact .kept old new command (status.mono fewer) settled

theorem trans (left : Follows shifts first second) (right : Follows later second third) :
    Follows (shifts + later) first third := by
  cases left with
  | absent => exact right.mono (Nat.le_add_left _ _)
  | inserted _ status =>
    cases right with
    | kept _ last _ later => exact .inserted last (status.trans later)
  | kept old _ command status settled =>
    cases right with
    | kept _ last laterCommand later laterSettled =>
      apply Follows.kept old last (laterCommand.trans command) (status.trans later)
      intro ended
      obtain ⟨same, row⟩ := settled ended
      obtain ⟨again, last⟩ := laterSettled (same ▸ ended)
      exact ⟨again.trans same, last.trans row⟩

end ExecutionRow.Follows

namespace AgentHostState
variable {state middle next : AgentHostState} {loud : Prop} {sequence shifts later : Nat}

theorem Move.follows {shifts : Bool} (move : Move loud sequence state next shifts) :
    ExecutionRow.Follows shifts.toNat (state.executions.find sequence) (next.executions.find sequence) := by
  cases move with
  | aside executions =>
    rw [executions]
    exact .refl _
  | touched old new found touched executions =>
    have keyed : new.sequence = sequence := touched.sequence.trans (find_eq_some.mp found).2
    rw [executions, found, ← keyed, find_put]
    exact .kept old new touched.command (touched.status ▸ .refl) fun ended => ⟨touched.status, touched.kept ended⟩
  | inserted row fresh _ keyed accepted _ _ executions =>
    rw [executions, fresh, ← keyed, find_put]
    exact .inserted row (accepted ▸ .refl)
  | moved old new found keyed status _ command _ _ executions =>
    rw [executions, found, ← keyed, find_put]
    apply ExecutionRow.Follows.kept old new command (.step .refl status)
    intro ended
    rw [(AgentHostExecutionStatus.active_of_transition status).1] at ended
    cases ended
  | queued _ _ _ _ executions =>
    rw [executions]
    exact .refl _
  | ended old _ terminal found active status _ _ _ keyed executions =>
    let new : ExecutionRow := { old with status := terminal.kind.status, terminal := some terminal }
    have present : (state.executions.put new).find sequence = some new := by
      have same : old.sequence = sequence := (find_eq_some.mp found).2
      have keyed : new.sequence = sequence := same
      rw [← keyed, find_put]
    rw [executions, found, present]
    apply ExecutionRow.Follows.kept old new rfl (.step .refl status)
    intro ended
    rw [active] at ended
    cases ended

structure Steps (loud : Prop) (shifts : Nat) (state next : AgentHostState) : Prop where
  moves : Moves loud state next
  follows : ∀ sequence, ExecutionRow.Follows shifts (state.executions.find sequence) (next.executions.find sequence)

structure StepsAt (loud : Prop) (sequence shifts : Nat) (state next : AgentHostState) : Prop
    extends Steps loud shifts state next where
  elsewhere : ∀ other, other ≠ sequence → next.executions.find other = state.executions.find other

theorem Steps.refl : Steps loud shifts state state :=
  ⟨.refl, fun _ => .refl _⟩

theorem Steps.mono (steps : Steps loud shifts state next) (fewer : shifts ≤ later) : Steps loud later state next :=
  ⟨steps.moves, fun sequence => (steps.follows sequence).mono fewer⟩

theorem Steps.trans (steps : Steps loud shifts state middle) (rest : Steps loud later middle next) :
    Steps loud (shifts + later) state next :=
  ⟨Relation.ReflTransGen.trans steps.moves rest.moves, fun sequence => (steps.follows sequence).trans (rest.follows sequence)⟩

namespace StepsAt

theorem refl : StepsAt loud sequence shifts state state :=
  ⟨Steps.refl, fun _ _ => rfl⟩

theorem trans (steps : StepsAt loud sequence shifts state middle) (rest : StepsAt loud sequence later middle next) :
    StepsAt loud sequence (shifts + later) state next :=
  ⟨steps.toSteps.trans rest.toSteps, fun other different =>
    (rest.elsewhere other different).trans (steps.elsewhere other different)⟩

theorem mono (steps : StepsAt loud sequence shifts state next) (fewer : shifts ≤ later) :
    StepsAt loud sequence later state next :=
  ⟨steps.toSteps.mono fewer, steps.elsewhere⟩

end StepsAt

theorem Move.stepsAt {shifts : Bool} (move : Move loud sequence state next shifts) :
    StepsAt loud sequence shifts.toNat state next := by
  refine ⟨⟨.single ⟨sequence, shifts, move⟩, fun other => ?_⟩, fun other different => move.elsewhere different⟩
  by_cases same : other = sequence
  · exact same ▸ move.follows
  · rw [move.elsewhere same]
    exact .refl _

theorem Move.rest (move : Move loud sequence state next false) : StepsAt loud sequence 0 state next :=
  move.stepsAt

theorem Move.shift (move : Move loud sequence state next true) : StepsAt loud sequence 1 state next :=
  move.stepsAt

theorem Rests.stepsAt (rests : Rests loud sequence state next) : StepsAt loud sequence 0 state next := by
  induction rests with
  | refl => exact .refl
  | tail _ move ih => exact ih.trans move.rest

end AgentHostState
end PlanWeave
