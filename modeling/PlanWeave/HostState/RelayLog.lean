import Mathlib.Data.List.SplitBy
import PlanWeave.HostState.RelayCalls

namespace PlanWeave
open List Table

namespace RunnerBodyFragment
variable {body : RunnerBodyFragment}

theorem withContent_self {content : String} (known : body.splittable = some content) :
    body.withContent content = body := by
  unfold splittable at known
  split at known <;> cases known <;> rfl

theorem withContent_withContent (body : RunnerBodyFragment) (first second : String) :
    (body.withContent first).withContent second = body.withContent second := by
  cases body <;> rfl

theorem withContent_splittable {known : String} (splittable : body.splittable = some known)
    (content : String) : (body.withContent content).splittable = some content := by
  unfold RunnerBodyFragment.splittable at splittable
  split at splittable <;> cases splittable <;> rfl

end RunnerBodyFragment

namespace RunnerEventFragment

def content : RunnerEventFragment → List Char
  | runnerBody body => (body.splittable.getD "").toList
  | _ => []

def join : List RunnerEventFragment → Option RunnerEventFragment
  | runnerBody body :: second :: rest =>
    some (runnerBody (body.withContent (String.ofList ((runnerBody body :: second :: rest).flatMap content))))
  | chunks => chunks.head?

theorem Splits.join {fragment : RunnerEventFragment} {chunks : List RunnerEventFragment} (splits : Splits fragment chunks) :
    join chunks = some fragment := by
  cases splits with
  | whole _ =>
    unfold RunnerEventFragment.join
    split
    · rename_i same
      cases same
    · rfl
  | parts body parts present known =>
    have contents : (parts.map fun part => runnerBody (body.withContent (String.ofList part))).flatMap content =
        parts.flatten := by
      rw [flatMap_map, ← flatMap_id]
      apply flatMap_congr
      intro part _
      simp only [content, RunnerBodyFragment.withContent_splittable known, Option.getD_some, String.toList_ofList, id]
    match parts, present with
    | [part], _ =>
      rw [flatten_singleton] at known
      exact congrArg (fun body => some (runnerBody body)) (RunnerBodyFragment.withContent_self known)
    | first :: second :: rest, _ =>
      unfold RunnerEventFragment.join
      simp only [map_cons] at contents ⊢
      rw [contents, RunnerBodyFragment.withContent_withContent, RunnerBodyFragment.withContent_self known]

end RunnerEventFragment

abbrev SourcedEvent := LeaseIdentity × RemoteEngineEvent

structure ReadEvent where
  identity : LeaseIdentity
  sourceSequence : Nat
  timestamp : String
  fragment : RunnerEventFragment
deriving DecidableEq

def SourcedEvent.read (sourced : SourcedEvent) : ReadEvent :=
  ⟨sourced.1, sourced.2.sequence, sourced.2.timestamp, remoteAcpEngineFragment sourced.2⟩

namespace AcpEventsMessage

def sameSource (left right : AcpEventsMessage) : Bool :=
  left.identity = right.identity && left.sourceSequence = right.sourceSequence

def readGroup (messages : List AcpEventsMessage) : Option ReadEvent :=
  match messages.head?, RunnerEventFragment.join (messages.map (·.fragment)) with
  | some first, some fragment => some ⟨first.identity, first.sourceSequence, first.timestamp, fragment⟩
  | _, _ => none

/-- The events that messages carry: the messages of one source one behind the other are the chunks of one event. -/
def readEvents (messages : List AcpEventsMessage) : List ReadEvent := (messages.splitBy sameSource).filterMap readGroup

structure Carries (messages : List AcpEventsMessage) (sourced : SourcedEvent) : Prop where
  splits : (remoteAcpEngineFragment sourced.2).Splits (messages.map (·.fragment))
  source : ∀ message ∈ messages, message.identity = sourced.1 ∧ message.sourceSequence = sourced.2.sequence ∧
    message.timestamp = sourced.2.timestamp

def Carried (messages : List AcpEventsMessage) (log : List SourcedEvent) : Prop :=
  ∃ groups, groups.flatten = messages ∧ List.Forall₂ Carries groups log

variable {messages more : List AcpEventsMessage} {sourced : SourcedEvent} {log : List SourcedEvent}

theorem Carries.ne_nil (carries : Carries messages sourced) : messages ≠ [] := by
  rintro rfl
  obtain ⟨_, head⟩ := carries.splits.head
  cases head

theorem Carries.readGroup (carries : Carries messages sourced) : readGroup messages = some sourced.read := by
  have joined := carries.splits.join
  cases messages with
  | nil => exact absurd rfl carries.ne_nil
  | cons first =>
    obtain ⟨identity, sequence, timestamp⟩ := carries.source first mem_cons_self
    unfold AcpEventsMessage.readGroup SourcedEvent.read
    rw [joined, ← identity, ← sequence, ← timestamp]
    rfl

theorem Carried.nil_iff (carried : Carried messages log) : messages = [] ↔ log = [] := by
  obtain ⟨_, rfl, each⟩ := carried
  cases each with
  | nil => simp
  | cons carries => simp [carries.ne_nil]

theorem Carried.last (carried : Carried messages (log ++ [sourced])) :
    ∃ front group, messages = front ++ group ∧ Carried front log ∧ Carries group sourced := by
  obtain ⟨groups, rfl, each⟩ := carried
  have before := forall₂_take_append groups log [sourced] each
  have behind := forall₂_drop_append groups log [sourced] each
  have whole := congrArg List.flatten (take_append_drop log.length groups)
  rw [flatten_append] at whole
  generalize groups.drop log.length = last at behind whole
  cases behind with
  | cons carries none =>
    cases none
    rw [flatten_singleton] at whole
    exact ⟨_, _, whole.symm, ⟨_, rfl, before⟩, carries⟩

theorem Carries.breaks {next : SourcedEvent} (carries : Carries messages sourced) (later : Carries more next)
    (distinct : ¬ (sourced.1 = next.1 ∧ sourced.2.sequence = next.2.sequence)) :
    sameSource (messages.getLast carries.ne_nil) (more.head later.ne_nil) = false := by
  obtain ⟨identity, sequence, _⟩ := carries.source _ (getLast_mem carries.ne_nil)
  obtain ⟨nextIdentity, nextSequence, _⟩ := later.source _ (head_mem later.ne_nil)
  unfold sameSource
  rw [identity, sequence, nextIdentity, nextSequence, Bool.and_eq_false_iff, decide_eq_false_iff_not,
    decide_eq_false_iff_not]
  exact not_and_or.mp distinct

theorem Carries.chain (carries : Carries messages sourced) : messages.IsChain fun left right => sameSource left right := by
  apply List.Pairwise.isChain
  apply pairwise_of_forall_mem_list
  intro left leftMember right rightMember
  obtain ⟨identity, sequence, _⟩ := carries.source left leftMember
  obtain ⟨otherIdentity, otherSequence, _⟩ := carries.source right rightMember
  unfold sameSource
  rw [identity, sequence, otherIdentity, otherSequence]
  simp

def Distinct (log : List SourcedEvent) : Prop :=
  log.Pairwise fun left right => ¬ (left.1 = right.1 ∧ left.2.sequence = right.2.sequence)

theorem Carried.read (carried : Carried messages log) (distinct : Distinct log) :
    readEvents messages = log.map SourcedEvent.read := by
  obtain ⟨groups, rfl, each⟩ := carried
  have whole : [] ∉ groups ∧ (∀ group ∈ groups, group.IsChain fun left right => sameSource left right) ∧
      (groups.IsChain fun left right =>
        ∃ leftPresent rightPresent, sameSource (left.getLast leftPresent) (right.head rightPresent) = false) ∧
      groups.filterMap AcpEventsMessage.readGroup = log.map SourcedEvent.read := by
    induction each with
    | nil => exact ⟨not_mem_nil, fun _ member => absurd member not_mem_nil, .nil, rfl⟩
    | @cons _ _ _ _ carries each ih =>
      obtain ⟨first, distinct⟩ := pairwise_cons.mp distinct
      obtain ⟨present, runs, breaks, read⟩ := ih distinct
      refine ⟨?_, ?_, isChain_cons.mpr ⟨?_, breaks⟩, ?_⟩
      · rw [mem_cons, not_or]
        exact ⟨carries.ne_nil.symm, present⟩
      · intro other member
        rcases mem_cons.mp member with rfl | member
        · exact carries.chain
        · exact runs other member
      · intro next head
        cases each with
        | nil => cases head
        | @cons _ later _ _ following _ =>
          cases head
          exact ⟨carries.ne_nil, following.ne_nil, carries.breaks following (first later mem_cons_self)⟩
      · rw [filterMap_cons_some carries.readGroup, read, map_cons]
  unfold readEvents
  rw [splitBy_flatten whole.1 whole.2.1 whole.2.2.1, whole.2.2.2]

end AcpEventsMessage

def RecordRow.sourced (row : RecordRow) : Option SourcedEvent :=
  match row.record.body with
  | .engineEvent event => some (row.record.identity, event)
  | _ => none

theorem RecordRow.sourced_eq {row : RecordRow} {sourced : SourcedEvent} :
    row.sourced = some sourced ↔ row.record = ⟨sourced.1, .engineEvent sourced.2⟩ := by
  obtain ⟨_, _, body⟩ := row
  obtain ⟨_, _⟩ := sourced
  unfold RecordRow.sourced
  cases body <;> simp

namespace ExecutionRow

def waiting (row : ExecutionRow) (log : List SourcedEvent) : List SourcedEvent :=
  if row.acpSessionId = none then log else []

/-- The messages count the cursor of the execution, and they carry the log up to `rest`, which is of the current lease. -/
structure RelayedTo (row : ExecutionRow) (messages : List AcpEventsMessage) (log rest : List SourcedEvent) : Prop where
  cursors : messages.map (fun message => (message.afterCursor, message.cursor)) =
    (List.range row.eventCursor).map fun cursor => (cursor, cursor + 1)
  carried : ∃ sent, log = sent ++ rest ∧ AcpEventsMessage.Carried messages sent
  current : ∀ sourced ∈ rest, sourced.1 = row.identity

theorem Unheard.refl (row : ExecutionRow) : row.Unheard row := ⟨rfl, rfl, rfl, fun _ => rfl⟩

variable {old new : ExecutionRow} {messages : List AcpEventsMessage} {log : List SourcedEvent}

theorem Unheard.attempt (unheard : old.Unheard new) : new.attempt = old.attempt := by
  unfold ExecutionRow.attempt
  rw [unheard.command]

theorem Unheard.relayed (unheard : old.Unheard new) (relayed : old.RelayedTo messages log (old.waiting log)) :
    new.RelayedTo messages log (new.waiting log) := by
  have waits : new.waiting log = old.waiting log := by
    unfold waiting
    rw [unheard.session]
  constructor
  · rw [unheard.cursor]
    exact relayed.cursors
  · rw [waits]
    exact relayed.carried
  intro sourced member
  rw [waits] at member
  have same := relayed.current sourced member
  unfold waiting at member
  split at member
  · rename_i missing
    unfold identity at same ⊢
    rw [unheard.command, unheard.lease missing]
    exact same
  · exact absurd member not_mem_nil

end ExecutionRow

namespace AgentHostState

def messages (state : AgentHostState) : List (HostEventKey × AcpEventsMessage) :=
  state.outbox.rows.rows.filterMap fun out => out.relayed.map fun message => (out.eventKey, message)

def messagesOf (state : AgentHostState) (attempt : OpaqueId × OpaqueId) : List AcpEventsMessage :=
  (state.messages.map Prod.snd).filter fun message => message.identity.attempt = attempt

def engineLog (state : AgentHostState) (attempt : OpaqueId × OpaqueId) : List SourcedEvent :=
  (state.records.rows.filterMap RecordRow.sourced).filter fun sourced => sourced.1.attempt = attempt

def Ordered (state : AgentHostState) : Prop := state.records.rows.Pairwise fun left right => left.sequence < right.sequence

/-- The records and the messages belong to executions; the records are numbered, and the messages are kept under their
cursors. -/
structure Recorded (state : AgentHostState) : Prop where
  ordered : state.Ordered
  numbered : ∀ record ∈ state.records, 0 < record.sequence ∧ record.sequence ≤ state.lastRecordSequence
  recorded : ∀ record ∈ state.records, ∃ row ∈ state.executions, row.attempt = record.record.identity.attempt
  keyed : ∀ entry ∈ state.messages, entry.1 = .other (acpEventsKey entry.2.identity.attempt entry.2.cursor)
  known : ∀ entry ∈ state.messages, ∃ row ∈ state.executions, row.attempt = entry.2.identity.attempt

/-- The invariant of the relay between two operations: what an execution with a session recorded is relayed. -/
structure Relayed (state : AgentHostState) : Prop extends Recorded state where
  relayed : ∀ row ∈ state.executions, row.RelayedTo (state.messagesOf row.attempt) (state.engineLog row.attempt)
    (row.waiting (state.engineLog row.attempt))

/-- Neither the records nor the messages change, nor what the relay reads of the executions. -/
structure Quiet (state next : AgentHostState) : Prop where
  records : state.SameRecords next
  messages : next.messages = state.messages
  rows : ∀ new ∈ next.executions, (∃ old ∈ state.executions, old.Unheard new) ∨
    (new.acpSessionId = none ∧ new.eventCursor = 0 ∧ ∀ old ∈ state.executions, old.attempt ≠ new.attempt)
  kept : ∀ old ∈ state.executions, ∃ new ∈ next.executions, new.attempt = old.attempt

section Quiet
variable {state next : AgentHostState} {sequence : Nat} {old new : ExecutionRow}

theorem Quiet.executions (executions : next.executions = state.executions) (records : state.SameRecords next)
    (messages : next.messages = state.messages) : Quiet state next where
  records := records
  messages := messages
  rows row member := .inl ⟨row, executions ▸ member, .refl row⟩
  kept row member := ⟨row, executions ▸ member, rfl⟩

theorem Quiet.put (found : state.executions.find sequence = some old) (keyed : new.sequence = sequence)
    (unheard : old.Unheard new) (executions : next.executions = state.executions.put new)
    (records : state.SameRecords next) (messages : next.messages = state.messages) : Quiet state next := by
  obtain ⟨present, oldKeyed⟩ := find_eq_some.mp found
  refine ⟨records, messages, fun row member => .inl ?_, fun row member => ?_⟩
  · rw [executions] at member
    rcases mem_put.mp member with ⟨kept, _⟩ | rfl
    · exact ⟨row, kept, .refl row⟩
    · exact ⟨old, present, unheard⟩
  · rw [executions]
    by_cases same : row = old
    · exact ⟨new, mem_put.mpr (.inr rfl), same ▸ unheard.attempt⟩
    · refine ⟨row, mem_put.mpr (.inl ⟨member, fun key => same ?_⟩), rfl⟩
      exact eq_of_key member present (key.trans (keyed.trans oldKeyed.symm))

theorem messages_put {out : OutboxRow} (fresh : state.outbox.rows.find out.eventKey = none)
    (outbox : next.outbox.rows = state.outbox.rows.put out) :
    next.messages = state.messages ++ (out.relayed.map fun message => (out.eventKey, message)).toList := by
  unfold messages
  rw [outbox, put_fresh fresh, filterMap_append]
  congr 1

theorem Move.quiet {shifts : Bool} (move : Move False sequence state next shifts) : Quiet state next := by
  cases move with
  | aside executions outbox _ _ heard =>
    have records := heard.resolve_left id
    exact .executions executions records (by unfold messages; rw [outbox])
  | touched _ _ found touched executions outbox _ _ heard =>
    obtain ⟨records, unheard⟩ := heard.resolve_left id
    have keyed := touched.sequence.trans (find_sequence found)
    exact .put found keyed unheard executions records (by unfold messages; rw [outbox])
  | inserted _ fresh unknown keyed _ _ evidenced executions outbox _ _ _ unheard =>
    obtain ⟨records, session⟩ := unheard
    refine ⟨records, by unfold messages; rw [outbox], fun other member => ?_, fun other member => ?_⟩
    · rw [executions] at member
      rcases mem_put.mp member with ⟨kept, _⟩ | rfl
      · exact .inl ⟨other, kept, .refl other⟩
      · exact .inr ⟨session, evidenced.cursor session, unknown⟩
    · refine ⟨other, ?_, rfl⟩
      rw [executions]
      exact mem_put.mpr (.inl ⟨member, keyed ▸ find_eq_none.mp fresh other member⟩)
  | moved _ _ found keyed _ _ _ _ _ executions outbox _ _ unheard =>
    exact .put found keyed unheard.2 executions unheard.1 (by unfold messages; rw [outbox])
  | queued _ fresh _ _ executions outbox _ _ records heard =>
    refine .executions executions records ?_
    rw [messages_put fresh outbox, heard.resolve_left id]
    exact append_nil _
  | ended old row terminal found _ status fresh event _ keyed executions outbox _ _ records =>
    have silent : row.relayed = none := by
      unfold OutboxRow.relayed
      split
      · rename_i message same
        rw [OutboxRow.ending, same] at event
        cases event
      · rfl
    let new : ExecutionRow := { old with status := terminal.kind.status, terminal := some terminal }
    have keyed : old.sequence = sequence := find_sequence found
    have unheard : old.Unheard new := ⟨rfl, rfl, rfl, fun _ => rfl⟩
    refine .put found (show new.sequence = sequence from keyed) unheard executions records ?_
    rw [messages_put fresh outbox, silent]
    exact append_nil _

theorem Relayed.quiet (relayed : state.Relayed) (quiet : Quiet state next) : next.Relayed := by
  have log : ∀ attempt, next.engineLog attempt = state.engineLog attempt := by
    intro attempt
    unfold engineLog
    rw [quiet.records.records]
  have messages : ∀ attempt, next.messagesOf attempt = state.messagesOf attempt := by
    intro attempt
    unfold messagesOf
    rw [quiet.messages]
  have kept : ∀ {attempt}, (∃ row ∈ state.executions, row.attempt = attempt) → ∃ row ∈ next.executions, row.attempt = attempt := by
    rintro _ ⟨row, member, same⟩
    obtain ⟨new, present, equal⟩ := quiet.kept row member
    exact ⟨new, present, equal.trans same⟩
  constructor
  · constructor
    · unfold Ordered
      rw [quiet.records.records]
      exact relayed.ordered
    · rw [quiet.records.records, quiet.records.last]
      exact relayed.numbered
    · rw [quiet.records.records]
      exact fun record member => kept (relayed.recorded record member)
    · rw [quiet.messages]
      exact relayed.keyed
    · rw [quiet.messages]
      exact fun entry member => kept (relayed.known entry member)
  · intro new member
    rw [log, messages]
    rcases quiet.rows new member with ⟨old, present, unheard⟩ | ⟨session, cursor, unknown⟩
    · rw [unheard.attempt]
      exact unheard.relayed (relayed.relayed old present)
    have noMessages : state.messagesOf new.attempt = [] := by
      apply filter_eq_nil_iff.mpr
      intro message member same
      obtain ⟨entry, inside, rfl⟩ := mem_map.mp member
      obtain ⟨row, present, attempt⟩ := relayed.known entry inside
      exact unknown row present (attempt.trans (of_decide_eq_true same))
    have noLog : state.engineLog new.attempt = [] := by
      apply filter_eq_nil_iff.mpr
      intro sourced member same
      obtain ⟨record, inside, source⟩ := mem_filterMap.mp member
      obtain ⟨row, present, attempt⟩ := relayed.recorded record inside
      rw [RecordRow.sourced_eq.mp source] at attempt
      exact unknown row present (attempt.trans (of_decide_eq_true same))
    rw [noMessages, noLog]
    unfold ExecutionRow.waiting
    rw [if_pos session]
    refine ⟨?_, ⟨[], rfl, [], rfl, .nil⟩, fun _ member => absurd member not_mem_nil⟩
    rw [cursor]
    rfl

end Quiet
end AgentHostState
end PlanWeave
