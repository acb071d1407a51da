import PlanWeave.HostState.RelaySteps
import PlanWeave.HostState.ExecutionRuns

namespace PlanWeave
open Checked List Runs Table

namespace AgentHostState
variable {limits : AgentHostLimits} {state next : AgentHostState} {sequence : Nat} {row new : ExecutionRow}
  {rest : List SourcedEvent}

section Relaying

structure Relaying (sequence : Nat) (row : ExecutionRow) (rest : List SourcedEvent) (state : AgentHostState) : Prop
    extends Recorded state where
  found : state.executions.find sequence = some row
  relayed : row.RelayedTo (state.messagesOf row.attempt) (state.engineLog row.attempt) rest
  others : ∀ other ∈ state.executions, other.sequence ≠ sequence →
    other.RelayedTo (state.messagesOf other.attempt) (state.engineLog other.attempt)
      (other.waiting (state.engineLog other.attempt))
  attempts : ∀ other ∈ state.executions, other.sequence ≠ sequence → other.attempt ≠ row.attempt

theorem Relaying.done (relaying : Relaying sequence row rest state)
    (waits : rest = row.waiting (state.engineLog row.attempt)) : state.Relayed where
  toRecorded := relaying.toRecorded
  relayed other member := by
    by_cases same : other.sequence = sequence
    · have isRow : other = row := by
        have found := find_of_mem member
        rw [same, relaying.found] at found
        exact (Option.some.inj found).symm
      rw [isRow, ← waits]
      exact relaying.relayed
    · exact relaying.others other member same

structure Alike (old new : ExecutionRow) : Prop where
  command : new.command = old.command
  leaseId : new.leaseId = old.leaseId
  cursor : new.eventCursor = old.eventCursor

theorem SameRecords.log (records : state.SameRecords next) (attempt : OpaqueId × OpaqueId) :
    next.engineLog attempt = state.engineLog attempt := by
  unfold engineLog
  rw [records.records]

section
variable (relaying : Relaying sequence row rest state)
include relaying

theorem Relaying.step {left : List SourcedEvent} {more : List AcpEventsMessage}
    (records : state.SameRecords next)
    (elsewhere : ∀ other, other ≠ sequence → next.executions.find other = state.executions.find other)
    (found : next.executions.find sequence = some new) (command : new.command = row.command)
    (messages : next.messages = state.messages ++ more.map keyedMessage)
    (attempts : ∀ message ∈ more, message.identity.attempt = row.attempt)
    (relayed : new.RelayedTo (next.messagesOf row.attempt) (state.engineLog row.attempt) left) :
    Relaying sequence new left next := by
  obtain ⟨inserted, _⟩ := find_eq_some.mp found
  obtain ⟨present, oldKeyed⟩ := find_eq_some.mp relaying.found
  have attempt : new.attempt = row.attempt := by
    unfold ExecutionRow.attempt
    rw [command]
  have sent := messagesOf_sent messages attempts
  have kept : ∀ other ∈ next.executions, other.sequence ≠ sequence → other ∈ state.executions := by
    intro other member different
    have inside := find_of_mem member
    rw [elsewhere _ different] at inside
    exact (find_eq_some.mp inside).1
  have known : ∀ {wanted}, (∃ other ∈ state.executions, other.attempt = wanted) →
      ∃ other ∈ next.executions, other.attempt = wanted := by
    rintro _ ⟨other, member, same⟩
    by_cases here : other.sequence = sequence
    · have isRow : other = row := eq_of_key member present (here.trans oldKeyed.symm)
      exact ⟨new, inserted, attempt.trans (isRow ▸ same)⟩
    · have inside := find_of_mem member
      rw [← elsewhere _ here] at inside
      exact ⟨other, (find_eq_some.mp inside).1, same⟩
  constructor
  · constructor
    · exact records.ordered relaying.ordered
    · rw [records.records, records.last]
      exact relaying.numbered
    · rw [records.records]
      exact fun record member => known (relaying.recorded record member)
    · intro entry member
      rw [messages] at member
      rcases mem_append.mp member with before | after
      · exact relaying.keyed entry before
      · obtain ⟨_, _, rfl⟩ := mem_map.mp after
        rfl
    · intro entry member
      rw [messages] at member
      rcases mem_append.mp member with before | after
      · exact known (relaying.known entry before)
      · obtain ⟨message, inside, rfl⟩ := mem_map.mp after
        exact ⟨new, inserted, attempt.trans (attempts message inside).symm⟩
  · exact found
  · rw [attempt, records.log]
    exact relayed
  · intro other member different
    have before := kept other member different
    rw [sent.2 _ (relaying.attempts other before different), records.log]
    exact relaying.others other before different
  · intro other member different
    rw [attempt]
    exact relaying.attempts other (kept other member different) different

theorem Relaying.setRow (keyed : new.sequence = sequence)
    (alike : Alike row new) : Relaying sequence new rest (state.setRow new) := by
  have none : (state.setRow new).messages = state.messages ++ ([] : List AcpEventsMessage).map keyedMessage :=
    (append_nil _).symm
  have records : state.SameRecords (state.setRow new) := ⟨rfl, rfl⟩
  apply relaying.step records _ (setRow_found state keyed) alike.command none
    (fun _ member => absurd member not_mem_nil)
  · have relayed := relaying.relayed
    constructor
    · rw [alike.cursor]
      exact relayed.cursors
    · exact relayed.carried
    intro sourced member
    have current := relayed.current sourced member
    unfold ExecutionRow.identity at current ⊢
    rw [alike.command, alike.leaseId]
    exact current
  · intro other different
    exact find_put_of_ne (keyed ▸ different)

theorem Relaying.sends {groups : List (List AcpEventsMessage)}
    (sends : Sends sequence row groups.flatten state next) (each : List.Forall₂ AcpEventsMessage.Carries groups rest) :
    Relaying sequence { row with eventCursor := row.eventCursor + groups.flatten.length } [] next := by
  apply relaying.step sends.records sends.others sends.found rfl sends.messages sends.attempts
  obtain ⟨sent, log, before, flat, carried⟩ := relaying.relayed.carried
  refine ⟨sends.counted, ⟨sent ++ rest, by rw [log, append_nil], before ++ groups, ?_, ?_⟩, ?_⟩
  · rw [flatten_append, flat, (messagesOf_sent sends.messages sends.attempts).1]
  · exact rel_append carried each
  · exact fun _ member => absurd member not_mem_nil

theorem Relaying.relayV2 (session : row.acpSessionId ≠ none)
    (done : state.relayV2 limits sequence = .ok next) : next.Relayed ∧ state.SameRecords next := by
  obtain ⟨_, required, done⟩ := bind_ok.mp done
  cases relaying.found.symm.trans (require_ok.mp required)
  have keyed := find_sequence relaying.found
  rw [if_neg session] at done
  obtain ⟨⟨pinState, _⟩, pinning, done⟩ := bind_ok.mp done
  obtain ⟨pinRow, pinRelaying, command, leaseId, cursor, pinSession, records⟩ : ∃ pinRow,
      Relaying sequence pinRow rest pinState ∧ pinRow.command = row.command ∧ pinRow.leaseId = row.leaseId ∧
        pinRow.eventCursor = row.eventCursor ∧ pinRow.acpSessionId = row.acpSessionId ∧ state.SameRecords pinState := by
    obtain ⟨_, again, pinning⟩ := bind_ok.mp pinning
    cases required.symm.trans again
    split at pinning
    · cases pinning
      exact ⟨row, relaying, rfl, rfl, rfl, rfl, .refl _⟩
    · cases pinning
      exact ⟨{ row with eventProtocolVersion := some 2 }, relaying.setRow keyed ⟨rfl, rfl, rfl⟩, rfl, rfl, rfl, rfl, rfl, rfl⟩
  dsimp only at done
  split at done
  · cases done
  obtain ⟨afterSequence, start, done⟩ := bind_ok.mp done
  have identity : pinRow.identity = row.identity := by
    unfold ExecutionRow.identity
    rw [command, leaseId]
  rw [← identity, ← cursor] at start
  rw [← identity] at done
  obtain ⟨_, log, carried⟩ := pinRelaying.relayed.carried
  have left := relayedSequence_rest pinRelaying.toRecorded pinRelaying.relayed.cursors carried log
    pinRelaying.relayed.current start
  have enough : (pinState.pending pinRow.identity afterSequence).length < pinState.records.rows.length + 1 := by
    have kept : (pinState.pending pinRow.identity afterSequence).length ≤ pinState.storedEvents.length :=
      length_filter_le _ _
    have all : pinState.storedEvents.length ≤ pinState.records.rows.length := length_filterMap_le _ _
    omega
  have relayed := relayRounds_all pinRelaying.ordered enough done
  have events : ((pinState.pending pinRow.identity afterSequence).map fun entry => entry.2.2) = rest.map Prod.snd := by
    rw [← left, map_map]
    rfl
  rw [events] at relayed
  have attempt : pinRow.identity.attempt = pinRow.attempt := rfl
  obtain ⟨groups, sends, each⟩ := relayEvents_send pinRelaying.found pinRelaying.relayed.cursors attempt relayed
  have sourced : (rest.map Prod.snd).map (fun event => (pinRow.identity, event)) = rest := by
    rw [map_map]
    apply (map_congr_left fun sourced member => ?_).trans (map_id _)
    rw [Function.comp_apply, ← pinRelaying.relayed.current sourced member]
    rfl
  rw [sourced] at each
  refine ⟨(pinRelaying.sends sends each).done ?_, records.trans sends.records⟩
  have known : ({ pinRow with eventCursor := pinRow.eventCursor + groups.flatten.length } : ExecutionRow).acpSessionId ≠ none := by
    rw [← pinSession] at session
    exact session
  exact (if_neg known).symm
end
end Relaying

variable {sourced : SourcedEvent}

section Storing
variable {record : RemoteExecutionRecord}

def sourcedOf (record : RemoteExecutionRecord) (attempt : OpaqueId × OpaqueId) : List SourcedEvent :=
  ((RecordRow.sourced ⟨0, record⟩).filter fun sourced => sourced.1.attempt = attempt).toList

theorem mem_sourcedOf {attempt : OpaqueId × OpaqueId} : sourced ∈ sourcedOf record attempt ↔
    record = ⟨sourced.1, .engineEvent sourced.2⟩ ∧ sourced.1.attempt = attempt := by
  unfold sourcedOf
  rw [Option.mem_toList, Option.filter_eq_some_iff, RecordRow.sourced_eq, decide_eq_true_iff]

theorem insertRecord_cases {stored : Bool} (done : state.insertRecord limits record = .ok (next, stored)) :
    (stored = false ∧ next = state ∧ ∃ known ∈ state.records, known.record = record) ∨
      (stored = true ∧ (∃ execution ∈ state.executions, execution.identity = record.identity) ∧
        (∀ known ∈ state.records, known.record ≠ record) ∧ next.executions = state.executions ∧ next.outbox = state.outbox ∧
        next.lastRecordSequence = state.lastRecordSequence + 1 ∧
        next.records.rows = state.records.rows ++ [⟨state.lastRecordSequence + 1, record⟩]) := by
  unfold insertRecord at done
  split at done
  · cases done
  split at done
  · cases done
  rename_i execution found
  split at done
  · cases done
  rename_i lease
  obtain ⟨present, attempt⟩ := findByAttempt_some found
  split at done
  · rename_i existing known
    split at done
    · cases done
    · rename_i same
      cases done
      exact .inl ⟨rfl, rfl, existing, (find_eq_some.mp known).1, not_not.mp same⟩
  · rename_i fresh
    split at done
    · cases done
    cases done
    refine .inr ⟨rfl, ⟨execution, (find_eq_some.mp present).1, ?_⟩, ?_, rfl, rfl, rfl, ?_⟩
    · calc execution.identity = ⟨execution.attempt.1, execution.leaseId, execution.attempt.2⟩ := rfl
        _ = record.identity := by rw [attempt, not_not.mp lease]; rfl
    · intro known member same
      have key : known.key = (record.identity, record.kind, record.id) := by rw [RecordRow.key, same]
      exact find_eq_none.mp fresh known member key
    · exact put_fresh fresh

theorem engineLog_stored (attempt : OpaqueId × OpaqueId) {number : Nat}
    (records : next.records.rows = state.records.rows ++ [⟨number, record⟩]) :
    next.engineLog attempt = state.engineLog attempt ++ sourcedOf record attempt := by
  unfold engineLog sourcedOf
  rw [records, filterMap_append, filter_append]
  congr 1
  have same : RecordRow.sourced ⟨number, record⟩ = RecordRow.sourced ⟨0, record⟩ := rfl
  cases source : RecordRow.sourced ⟨0, record⟩ with
  | none => simp [same, source]
  | some sourced => by_cases here : sourced.1.attempt = attempt <;> simp [same, source, Option.filter, here]

theorem Recorded.stored (recorded : state.Recorded) (execution : ∃ execution ∈ state.executions, execution.identity = record.identity)
    (executions : next.executions = state.executions) (outbox : next.outbox = state.outbox)
    (last : next.lastRecordSequence = state.lastRecordSequence + 1)
    (records : next.records.rows = state.records.rows ++ [⟨state.lastRecordSequence + 1, record⟩]) : next.Recorded := by
  have messages : next.messages = state.messages := by
    unfold AgentHostState.messages
    rw [outbox]
  constructor
  · unfold Ordered
    rw [records, pairwise_append]
    refine ⟨recorded.ordered, pairwise_singleton _ _, fun known member new inside => ?_⟩
    have bound := (recorded.numbered known member).2
    rw [mem_singleton.mp inside]
    dsimp only
    omega
  · intro known member
    have member : known ∈ next.records.rows := member
    rw [records] at member
    rw [last]
    rcases mem_append.mp member with before | new
    · have bounds := recorded.numbered known before
      omega
    · rw [mem_singleton.mp new]
      dsimp only
      omega
  · intro known member
    have member : known ∈ next.records.rows := member
    rw [records] at member
    rw [executions]
    rcases mem_append.mp member with before | new
    · exact recorded.recorded known before
    · obtain ⟨holder, present, identity⟩ := execution
      rw [mem_singleton.mp new, ← identity]
      exact ⟨holder, present, rfl⟩
  · rw [messages]
    exact recorded.keyed
  · rw [messages, executions]
    exact recorded.known

theorem Relayed.storedRequest (relayed : state.Relayed) (recorded : next.Recorded) (executions : next.executions = state.executions)
    (outbox : next.outbox = state.outbox) (log : ∀ attempt, next.engineLog attempt = state.engineLog attempt) : next.Relayed where
  toRecorded := recorded
  relayed row member := by
    have messages : next.messagesOf row.attempt = state.messagesOf row.attempt := by
      unfold messagesOf AgentHostState.messages
      rw [outbox]
    rw [log, messages]
    rw [executions] at member
    exact relayed.relayed row member

theorem Relayed.storedEvent {event : SourcedEvent} (relayed : state.Relayed) (sound : state.Sound) (recorded : next.Recorded)
    (found : state.executions.find sequence = some row) (identity : event.1 = row.identity)
    (executions : next.executions = state.executions) (outbox : next.outbox = state.outbox)
    (log : ∀ attempt, next.engineLog attempt = state.engineLog attempt ++ if event.1.attempt = attempt then [event] else []) :
    Relaying sequence row (row.waiting (state.engineLog row.attempt) ++ [event]) next := by
  obtain ⟨present, keyed⟩ := find_eq_some.mp found
  have messages : ∀ attempt, next.messagesOf attempt = state.messagesOf attempt := by
    intro attempt
    unfold messagesOf AgentHostState.messages
    rw [outbox]
  have attempt : event.1.attempt = row.attempt := by rw [identity]; rfl
  have others : ∀ other ∈ state.executions, other.sequence ≠ sequence → other.attempt ≠ row.attempt := by
    intro other member different same
    exact different (sound.attempts other member row present same ▸ keyed)
  constructor
  · exact recorded
  · rw [executions]
    exact found
  · have before := relayed.relayed row present
    obtain ⟨sent, log', carried⟩ := before.carried
    rw [messages, log, if_pos attempt]
    refine ⟨before.cursors, ⟨sent, ?_, carried⟩, fun sourced member => ?_⟩
    · rw [← append_assoc, ← log']
    · rcases mem_append.mp member with waits | new
      · exact before.current sourced waits
      · rw [mem_singleton.mp new]
        exact identity
  · intro other member different
    rw [executions] at member
    have elsewhere : event.1.attempt ≠ other.attempt := fun same => others other member different (same.symm.trans attempt)
    rw [messages, log, if_neg elsewhere, append_nil]
    exact relayed.relayed other member
  · rw [executions]
    exact others

end Storing

section Appending
variable {middle : AgentHostState} {record : RemoteExecutionRecord}

theorem transition_cases {status : AgentHostExecutionStatus} (found : state.executions.find sequence = some row)
    (done : state.transition sequence status = .ok next) : next = state ∨ next = state.setRow { row with status := status } := by
  obtain ⟨_, required, done⟩ := bind_ok.mp done
  cases found.symm.trans (require_ok.mp required)
  split at done
  · cases done
    exact .inl rfl
  split at done
  · cases done
    exact .inr rfl
  · cases done

theorem Relaying.engineEvent {event : RemoteEngineEvent} (relaying : Relaying row.sequence row rest state)
    (done : state.relayEngineEvent limits row event = .ok next) :
    ∃ new, Relaying row.sequence new rest next ∧ (new.acpSessionId = none → row.acpSessionId = none) ∧
      new.attempt = row.attempt ∧ state.SameRecords next := by
  unfold relayEngineEvent at done
  split at done
  · split at done
    · cases done
    · rcases recordSession_ok relaying.found done with rfl | ⟨_, _, rfl⟩
      · exact ⟨row, relaying, id, rfl, .refl _⟩
      · exact ⟨_, relaying.setRow rfl ⟨rfl, rfl, rfl⟩, (fun missing => by cases missing), rfl, ⟨rfl, rfl⟩⟩
  · split at done
    · rcases transition_cases relaying.found done with rfl | rfl
      · exact ⟨row, relaying, id, rfl, .refl _⟩
      · exact ⟨_, relaying.setRow rfl ⟨rfl, rfl, rfl⟩, id, rfl, ⟨rfl, rfl⟩⟩
    · cases done
      exact ⟨row, relaying, id, rfl, .refl _⟩
  · split at done
    · cases done
      exact ⟨row, relaying, id, rfl, .refl _⟩
    · cases done
  · cases done
    exact ⟨row, relaying, id, rfl, .refl _⟩

theorem Relaying.relayed_event {log : List SourcedEvent} {event : SourcedEvent}
    (relaying : Relaying sequence new (row.waiting log ++ [event]) state)
    (session : new.acpSessionId = none → row.acpSessionId = none)
    (whole : state.engineLog new.attempt = log ++ [event])
    (done : state.relayV2 limits sequence = .ok next) : next.Relayed ∧ state.SameRecords next := by
  by_cases missing : new.acpSessionId = none
  · have same : next = state := by
      obtain ⟨_, required, done⟩ := bind_ok.mp done
      cases relaying.found.symm.trans (require_ok.mp required)
      rw [if_pos missing] at done
      cases done
      rfl
    rw [same]
    refine ⟨relaying.done ?_, .refl _⟩
    unfold ExecutionRow.waiting
    rw [if_pos missing, if_pos (session missing), whole]
  · exact relaying.relayV2 missing done

theorem Moves.relayed (moves : Moves False state next) (relayed : state.Relayed) :
    next.Relayed ∧ state.SameRecords next := by
  induction moves with
  | refl => exact ⟨relayed, .refl _⟩
  | tail _ move ih =>
    obtain ⟨_, _, move⟩ := move
    exact ⟨ih.1.quiet move.quiet, ih.2.trans move.quiet.records⟩

def addNew (log events : List SourcedEvent) : List SourcedEvent := log ++ events.filter (· ∉ log)

variable {attempt : OpaqueId × OpaqueId}

theorem mem_engineLog : sourced ∈ state.engineLog attempt ↔
    (∃ row ∈ state.records, row.record = ⟨sourced.1, .engineEvent sourced.2⟩) ∧ sourced.1.attempt = attempt := by
  unfold engineLog
  rw [mem_filter, mem_filterMap, decide_eq_true_iff]
  simp only [RecordRow.sourced_eq]
  rfl

theorem addNew_known (known : ∃ row ∈ state.records, row.record = record) :
    addNew (state.engineLog attempt) (sourcedOf record attempt) = state.engineLog attempt := by
  have none : (sourcedOf record attempt).filter (· ∉ state.engineLog attempt) = [] := by
    apply filter_eq_nil_iff.mpr
    intro sourced member fresh
    obtain ⟨source, here⟩ := mem_sourcedOf.mp member
    exact of_decide_eq_true fresh (mem_engineLog.mpr ⟨source ▸ known, here⟩)
  unfold addNew
  rw [none, append_nil]

theorem addNew_fresh (fresh : ∀ row ∈ state.records, row.record ≠ record) :
    addNew (state.engineLog attempt) (sourcedOf record attempt) = state.engineLog attempt ++ sourcedOf record attempt := by
  unfold addNew
  congr 1
  apply filter_eq_self.mpr
  intro sourced member
  apply decide_eq_true
  intro known
  obtain ⟨source, _⟩ := mem_sourcedOf.mp member
  obtain ⟨⟨row, present, same⟩, _⟩ := mem_engineLog.mp known
  exact fresh row present (same.trans source.symm)

theorem Relayed.append (held : state.Relayed) (sound : state.Sound) (done : state.append limits record = .ok next) :
    next.Relayed ∧ ∀ attempt, next.engineLog attempt = addNew (state.engineLog attempt) (sourcedOf record attempt) := by
  obtain ⟨⟨inserted, stored⟩, inserting, relaying⟩ := bind_ok.mp done
  dsimp only at relaying
  rcases insertRecord_cases inserting with ⟨rfl, rfl, known⟩ | ⟨rfl, execution, fresh, executions, outbox, last, records⟩
  · rw [if_neg (by decide)] at relaying
    cases relaying
    exact ⟨held, fun attempt => (addNew_known known).symm⟩
  rw [if_pos rfl] at relaying
  suffices kept : next.Relayed ∧ inserted.SameRecords next by
    refine ⟨kept.1, fun attempt => ?_⟩
    rw [kept.2.log, engineLog_stored attempt records, addNew_fresh fresh]
  have recorded := held.toRecorded.stored execution executions outbox last records
  have logs := fun attempt => @engineLog_stored state inserted record attempt _ records
  obtain ⟨row, present, identity⟩ := execution
  have attempts : ∀ other ∈ inserted.executions, ∀ also ∈ inserted.executions, other.attempt = also.attempt → other = also := by
    rw [executions]
    exact sound.attempts
  have inside : row ∈ inserted.executions := executions ▸ present
  unfold relay at relaying
  split at relaying
  · cases relaying
  rename_i holder known
  obtain ⟨found, named⟩ := findByIdentity_some known
  have isRow : holder = row := by
    apply attempts holder (find_eq_some.mp found).1 row inside
    have same : holder.identity.attempt = row.identity.attempt := by rw [named, identity]
    exact same
  subst isRow
  split at relaying
  · rename_i event body
    split at relaying
    · cases relaying
    obtain ⟨middle, accepted, relayed⟩ := bind_ok.mp relaying
    have source : RecordRow.sourced ⟨0, record⟩ = some (record.identity, event) := by
      unfold RecordRow.sourced
      rw [body]
    have log : ∀ attempt, inserted.engineLog attempt = state.engineLog attempt ++
        if record.identity.attempt = attempt then [(record.identity, event)] else [] := by
      intro attempt
      rw [logs, sourcedOf, source]
      by_cases here : record.identity.attempt = attempt <;> simp [Option.filter, here]
    have before : state.executions.find holder.sequence = some holder := executions ▸ found
    have start := @Relayed.storedEvent state inserted holder.sequence holder (record.identity, event) held sound
      recorded before identity.symm executions outbox log
    obtain ⟨new, relaying, session, attempt, same⟩ := start.engineEvent accepted
    have here : record.identity.attempt = holder.attempt := by rw [← identity]; rfl
    have whole : middle.engineLog new.attempt = state.engineLog holder.attempt ++ [(record.identity, event)] := by
      rw [attempt, same.log, log, if_pos here]
    have kept := relaying.relayed_event session whole relayed
    exact ⟨kept.1, same.trans kept.2⟩
  all_goals
    rename_i request deadline body
    have none : ∀ attempt, inserted.engineLog attempt = state.engineLog attempt := by
      intro attempt
      rw [logs, sourcedOf, RecordRow.sourced, body]
      exact append_nil _
    have quiet : StepsAt False holder.sequence 1 inserted next := relayRequest_moves (by decide) relaying
    exact quiet.moves.relayed (held.storedRequest recorded executions outbox none)

end Appending

section Runs

def appends (limits : AgentHostLimits) (state : AgentHostState) (attempt : OpaqueId × OpaqueId) : ExecutionStep → List SourcedEvent
  | .append record => if (state.append limits record).isOk then sourcedOf record attempt else []
  | _ => []

def appending (limits : AgentHostLimits) (attempt : OpaqueId × OpaqueId) (reached : List SourcedEvent × AgentHostState)
    (step : ExecutionStep) : List SourcedEvent × AgentHostState :=
  (addNew reached.1 (reached.2.appends limits attempt step), reached.2.perform limits step)

def appended (limits : AgentHostLimits) (attempt : OpaqueId × OpaqueId) (steps : List ExecutionStep) (start : AgentHostState) :
    List SourcedEvent :=
  (run (appending limits attempt) steps ([], start)).1

variable {step : ExecutionStep} {attempt : OpaqueId × OpaqueId} {maxPayloadBytes : Nat} {steps : List ExecutionStep}

theorem addNew_nil (log : List SourcedEvent) : addNew log [] = log := append_nil log

variable {record : RemoteExecutionRecord}

theorem appends_ok (done : state.append limits record = .ok next) :
    state.appends limits attempt (.append record) = sourcedOf record attempt := by
  have stored : (state.append limits record).isOk = true := by rw [done]; rfl
  exact if_pos stored

theorem appends_error {reason : HostStateError}
    (failed : state.append limits record = .error reason) : state.appends limits attempt (.append record) = [] := by
  have thrown : ¬ (state.append limits record).isOk = true := by rw [failed]; exact Bool.false_ne_true
  exact if_neg thrown

theorem Relayed.initial (maxPayloadBytes : Nat) : (AgentHostState.initial maxPayloadBytes).Relayed where
  ordered := List.Pairwise.nil
  numbered _ member := absurd member not_mem_nil
  recorded _ member := absurd member not_mem_nil
  keyed _ member := absurd member not_mem_nil
  known _ member := absurd member not_mem_nil
  relayed _ member := absurd member not_mem_nil

theorem Relayed.perform (relayed : state.Relayed) (sound : state.Sound) :
    (state.perform limits step).Relayed ∧ ∀ attempt,
      (state.perform limits step).engineLog attempt = addNew (state.engineLog attempt) (state.appends limits attempt step) := by
  unfold AgentHostState.perform
  cases done : state.outcome limits step with
  | error =>
    refine ⟨relayed, fun attempt => ?_⟩
    cases step with
    | append =>
      rw [appends_error done]
      exact (addNew_nil _).symm
    | _ => exact (addNew_nil _).symm
  | ok next =>
    have quiet : Moves False state next → next.Relayed ∧ ∀ attempt, next.engineLog attempt = addNew (state.engineLog attempt) [] := by
      intro moves
      obtain ⟨kept, records⟩ := moves.relayed relayed
      refine ⟨kept, fun attempt => ?_⟩
      rw [records.log, addNew_nil]
    cases step with
    | append =>
      obtain ⟨kept, log⟩ := relayed.append sound done
      refine ⟨kept, fun attempt => ?_⟩
      rw [appends_ok done]
      exact log attempt
    | _ => exact quiet (outcome_moves sound done).moves

theorem Relayed.run (relayed : state.Relayed) (sound : state.Sound) (attempt : OpaqueId × OpaqueId) (steps : List ExecutionStep) :
    (run (AgentHostState.perform limits) steps state).Relayed ∧
      run (appending limits attempt) steps (state.engineLog attempt, state) =
        ((run (AgentHostState.perform limits) steps state).engineLog attempt, run (AgentHostState.perform limits) steps state) := by
  induction steps generalizing state with
  | nil => exact ⟨relayed, rfl⟩
  | cons _ _ ih =>
    obtain ⟨kept, log⟩ := relayed.perform sound
    obtain ⟨last, appended⟩ := ih kept ((perform_moves sound).moves.sound sound)
    refine ⟨last, ?_⟩
    rw [log] at appended
    exact appended

theorem engineLog_distinct (state : AgentHostState) (attempt : OpaqueId × OpaqueId) :
    AcpEventsMessage.Distinct (state.engineLog attempt) := by
  have keys : state.records.rows.Pairwise fun left right => left.key ≠ right.key := pairwise_map.mp state.records.unique
  have sourced : (state.records.rows.filterMap RecordRow.sourced).Pairwise fun left right =>
      ¬ (left.1 = right.1 ∧ left.2.sequence = right.2.sequence) := by
    apply List.Pairwise.filterMap _ _ keys
    rintro _ _ different _ source _ other ⟨identity, sequence⟩
    apply different
    rw [RecordRow.key, RecordRow.key, RecordRow.sourced_eq.mp source, RecordRow.sourced_eq.mp other]
    simp only [RemoteExecutionRecord.kind, RemoteExecutionRecord.id, identity, sequence]
  exact List.Pairwise.filter _ sourced

/-- The `acp.events` messages of an execution are numbered from 1 through its cursor, and a reader of them finds every
engine event that was appended, once and in order, as soon as there is a session; before that there are none. -/
structure ReadsAppended (log : List SourcedEvent) (row : ExecutionRow) (messages : List AcpEventsMessage) : Prop where
  cursors : messages.map (·.cursor) = (List.range row.eventCursor).map (· + 1)
  waiting : row.acpSessionId = none → messages = []
  read : row.acpSessionId ≠ none → AcpEventsMessage.readEvents messages = log.map SourcedEvent.read

theorem Relayed.reads (relayed : state.Relayed) (present : row ∈ state.executions) :
    ReadsAppended (state.engineLog row.attempt) row (state.messagesOf row.attempt) := by
  obtain ⟨cursors, ⟨sent, log, carried⟩, _⟩ := relayed.relayed row present
  constructor
  · have cursors := congrArg (List.map Prod.snd) cursors
    rw [map_map, map_map] at cursors
    exact cursors
  · intro missing
    have waits : row.waiting (state.engineLog row.attempt) = state.engineLog row.attempt := if_pos missing
    rw [waits] at log
    have none : sent = [] := self_eq_append_left.mp log
    exact carried.nil_iff.mpr none
  · intro session
    have waits : row.waiting (state.engineLog row.attempt) = [] := if_neg session
    rw [waits, append_nil] at log
    rw [log]
    exact carried.read (log ▸ engineLog_distinct state row.attempt)

/-- After every run the messages of an execution carry what was appended to it, and an append that throws changes nothing. -/
theorem runner_records_relayed (limits : AgentHostLimits) (maxPayloadBytes : Nat) (steps : List ExecutionStep) :
    (∀ row ∈ (run (perform limits) steps (initial maxPayloadBytes)).executions,
      ReadsAppended (appended limits row.attempt steps (initial maxPayloadBytes)) row
        ((run (perform limits) steps (initial maxPayloadBytes)).messagesOf row.attempt)) ∧
      ∀ (state : AgentHostState) record reason, state.append limits record = .error reason → state.perform limits (.append record) = state := by
  constructor
  · intro row present
    obtain ⟨relayed, log⟩ := (Relayed.initial maxPayloadBytes).run (Sound.initial maxPayloadBytes) row.attempt steps
    have same : appended limits row.attempt steps (initial maxPayloadBytes) =
        (run (perform limits) steps (initial maxPayloadBytes)).engineLog row.attempt := congrArg Prod.fst log
    rw [same]
    exact relayed.reads present
  · intro state record reason failed
    have thrown : state.outcome limits (.append record) = .error reason := failed
    unfold AgentHostState.perform
    rw [thrown]

end Runs

section Sample

def unsessionedSteps : List ExecutionStep :=
  .setRemoteRunnerEventProtocolVersion (some 2) :: startSteps ++ [engineRecord hostIdentity 1 (.lifecycle "starting")]

/-- The first event of a runner is appended, and no message carries it as long as there is no session. -/
theorem waiting_record_unread :
    ¬ ∀ row ∈ (run (perform (hostLimits 64)) unsessionedSteps (initial 1000)).executions.rows,
      AcpEventsMessage.readEvents ((run (perform (hostLimits 64)) unsessionedSteps (initial 1000)).messagesOf row.attempt) =
        (appended (hostLimits 64) row.attempt unsessionedSteps (initial 1000)).map SourcedEvent.read := by
  decide +kernel

end Sample
end AgentHostState
end PlanWeave
