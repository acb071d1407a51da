import PlanWeave.HostState.RelayLog

namespace PlanWeave
open Checked List Option Table

namespace AgentHostState
variable {limits : AgentHostLimits} {state next : AgentHostState} {sequence : Nat} {row : ExecutionRow}
  {identity : LeaseIdentity}

theorem SameRecords.refl (state : AgentHostState) : state.SameRecords state := ⟨rfl, rfl⟩

theorem SameRecords.trans {last : AgentHostState} (left : state.SameRecords next) (right : next.SameRecords last) :
    state.SameRecords last := ⟨right.records.trans left.records, right.last.trans left.last⟩

variable {message : AcpEventsMessage} {afterSequence : Nat} {entry : Nat × SourcedEvent}
variable {event : RemoteEngineEvent} {events : List RemoteEngineEvent}

section Sending

def keyedMessage (message : AcpEventsMessage) : HostEventKey × AcpEventsMessage :=
  (.other (acpEventsKey message.identity.attempt message.cursor), message)

def Counted (state : AgentHostState) (row : ExecutionRow) : Prop :=
  (state.messagesOf row.attempt).map (fun message => (message.afterCursor, message.cursor)) =
    (range row.eventCursor).map fun cursor => (cursor, cursor + 1)

structure Sends (sequence : Nat) (row : ExecutionRow) (sent : List AcpEventsMessage) (state next : AgentHostState) : Prop where
  records : state.SameRecords next
  others : ∀ other, other ≠ sequence → next.executions.find other = state.executions.find other
  found : next.executions.find sequence = some { row with eventCursor := row.eventCursor + sent.length }
  messages : next.messages = state.messages ++ sent.map keyedMessage
  attempts : ∀ message ∈ sent, message.identity.attempt = row.attempt
  counted : next.Counted { row with eventCursor := row.eventCursor + sent.length }

theorem Sends.nil (found : state.executions.find sequence = some row) (counted : state.Counted row) :
    Sends sequence row [] state state where
  records := .refl state
  others _ _ := rfl
  found := found
  messages := (append_nil _).symm
  attempts _ member := absurd member not_mem_nil
  counted := counted

theorem Sends.append {middle : AgentHostState} {first second : List AcpEventsMessage}
    (left : Sends sequence row first state middle)
    (right : Sends sequence { row with eventCursor := row.eventCursor + first.length } second middle next) :
    Sends sequence row (first ++ second) state next where
  records := left.records.trans right.records
  others other different := (right.others other different).trans (left.others other different)
  found := by
    rw [right.found, length_append, Nat.add_assoc]
  messages := by
    rw [right.messages, left.messages, map_append, append_assoc]
  attempts message member := (mem_append.mp member).elim (left.attempts message) (right.attempts message)
  counted := by
    have counted := right.counted
    rw [length_append, ← Nat.add_assoc]
    exact counted

theorem mem_messages {out : OutboxRow} (member : out ∈ state.outbox.rows)
    (payload : out.event.payload = .execution (.acpEvents message)) : (out.eventKey, message) ∈ state.messages := by
  apply mem_filterMap.mpr
  refine ⟨out, member, ?_⟩
  unfold OutboxRow.relayed
  rw [payload]
  rfl

variable {attempt : OpaqueId × OpaqueId}

theorem mem_messagesOf {key : HostEventKey}
    (member : (key, message) ∈ state.messages) (same : message.identity.attempt = attempt) :
    message ∈ state.messagesOf attempt :=
  mem_filter.mpr ⟨mem_map.mpr ⟨_, member, rfl⟩, decide_eq_true same⟩

theorem Counted.le (counted : state.Counted row)
    (member : message ∈ state.messagesOf row.attempt) : message.cursor ≤ row.eventCursor := by
  have counts : (message.afterCursor, message.cursor) ∈ (range row.eventCursor).map fun cursor => (cursor, cursor + 1) := by
    rw [← counted]
    exact mem_map.mpr ⟨message, member, rfl⟩
  obtain ⟨cursor, below, same⟩ := mem_map.mp counts
  have bound := mem_range.mp below
  have count : cursor + 1 = message.cursor := congrArg Prod.snd same
  omega

variable {more : List AcpEventsMessage}

section
variable (messages : next.messages = state.messages ++ more.map keyedMessage)
include messages

theorem messagesOf_append :
    next.messagesOf attempt = state.messagesOf attempt ++ more.filter fun message => message.identity.attempt = attempt := by
  unfold messagesOf
  rw [messages, List.map_append, List.filter_append, List.map_map]
  congr 2
  exact map_id _

theorem messagesOf_sent (attempts : ∀ message ∈ more, message.identity.attempt = attempt) :
    next.messagesOf attempt = state.messagesOf attempt ++ more ∧
      ∀ other, other ≠ attempt → next.messagesOf other = state.messagesOf other := by
  constructor
  · rw [messagesOf_append messages]
    congr 1
    exact filter_eq_self.mpr fun message member => decide_eq_true (attempts message member)
  · intro other different
    have none : more.filter (fun message => message.identity.attempt = other) = [] := by
      apply filter_eq_nil_iff.mpr
      intro message member same
      exact different ((of_decide_eq_true same).symm.trans (attempts message member))
    rw [messagesOf_append messages, none, append_nil]
end

theorem Counted.snoc (counted : state.Counted row)
    (messages : next.messages = state.messages ++ [message].map keyedMessage) (attempt : message.identity.attempt = row.attempt)
    (start : message.afterCursor = row.eventCursor) (follows : message.cursor = message.afterCursor + 1) :
    next.Counted { row with eventCursor := row.eventCursor + 1 } := by
  have sent : next.messagesOf row.attempt = state.messagesOf row.attempt ++ [message] := by
    refine (messagesOf_sent messages fun one member => ?_).1
    rw [mem_singleton.mp member, attempt]
  have held : (state.messagesOf row.attempt).map (fun message => (message.afterCursor, message.cursor)) = _ := counted
  change (next.messagesOf row.attempt).map _ = (range (row.eventCursor + 1)).map _
  rw [sent, map_append, held, range_succ, map_append, map_singleton, map_singleton, follows, start]

section
variable (found : state.executions.find sequence = some row) (counted : state.Counted row)
include found counted

theorem relayChunk_sends (attempt : message.identity.attempt = row.attempt)
    (follows : message.cursor = message.afterCursor + 1)
    (done : relayChunk limits sequence state message = .ok next) : Sends sequence row [message] state next := by
  have keyed := find_sequence found
  obtain ⟨⟨_, queued⟩, queueing, done⟩ := bind_ok.mp done
  obtain ⟨outbox, rfl, _, known | ⟨fresh, same, rows⟩⟩ := queue_ok queueing
  all_goals
    unfold advanceEventCursor at done
    dsimp only at done
    rw [found] at done
    dsimp only at done
    split at done
  case inl.isFalse => cases done
  case inr.isFalse => cases done
  case inl.isTrue =>
    obtain ⟨_, _, known, payload, _⟩ := known
    have sent := mem_messagesOf (mem_messages (find_eq_some.mp known).1 payload) attempt
    have bound := counted.le sent
    omega
  case inr.isTrue =>
    rename_i cursor
    cases done
    let advanced : ExecutionRow := { row with eventCursor := message.cursor }
    have count : row.eventCursor + [message].length = message.cursor := by
      rw [length_singleton]
      omega
    have rowOf : ({ row with eventCursor := row.eventCursor + [message].length } : ExecutionRow) = advanced := by rw [count]
    have messages : (setRow { state with outbox := outbox, drawnIds := state.drawnIds + 1 } advanced).messages =
        state.messages ++ [message].map keyedMessage := by
      have put := @messages_put state (setRow { state with outbox := outbox, drawnIds := state.drawnIds + 1 } advanced)
        ⟨.other (acpEventsKey message.identity.attempt message.cursor), queued, false⟩ fresh rows
      rw [put]
      congr 1
      subst same
      rfl
    refine ⟨⟨rfl, rfl⟩, fun other different => ?_, ?_, messages, ?_, ?_⟩
    · have other : other ≠ advanced.sequence := keyed ▸ different
      exact find_put_of_ne other
    · rw [rowOf]
      exact setRow_found _ keyed
    · intro one member
      rw [mem_singleton.mp member]
      exact attempt
    · exact counted.snoc messages attempt cursor.symm follows

theorem relayChunks_send {messages : List AcpEventsMessage}
    (attempts : ∀ message ∈ messages, message.identity.attempt = row.attempt)
    (follow : ∀ message ∈ messages, message.cursor = message.afterCursor + 1)
    (done : messages.foldlM (relayChunk limits sequence) state = .ok next) : Sends sequence row messages state next := by
  induction messages generalizing state row with
  | nil =>
    cases done
    exact .nil found counted
  | cons _ _ ih =>
    obtain ⟨_, first, done⟩ := foldlM_cons_inv done
    obtain ⟨attempt, attempts⟩ := forall_mem_cons.mp attempts
    obtain ⟨follows, follow⟩ := forall_mem_cons.mp follow
    have head := relayChunk_sends found counted attempt follows first
    exact head.append (ih head.found head.counted attempts follow done)

theorem relayEvent_sends (attempt : identity.attempt = row.attempt)
    (done : relayEvent limits identity sequence state event = .ok next) :
    ∃ group, Sends sequence row group state next ∧ AcpEventsMessage.Carries group (identity, event) := by
  obtain ⟨_, required, done⟩ := bind_ok.mp done
  cases found.symm.trans (require_ok.mp required)
  split at done
  · cases done
  rename_i acpSessionId _
  obtain ⟨_, relayed, done⟩ := bind_ok.mp done
  obtain ⟨chunks, wired, same⟩ := bind_ok.mp relayed
  cases same
  have each : ∀ message ∈ chunks.mapIdx fun index fragment => acpEventsMessage identity acpSessionId row.eventCursor event fragment index,
      ∃ fragment index, message = acpEventsMessage identity acpSessionId row.eventCursor event fragment index := by
    intro message member
    obtain ⟨_, _, rfl⟩ := mem_mapIdx.mp member
    exact ⟨_, _, rfl⟩
  refine ⟨_, relayChunks_send found counted (fun message member => ?_) (fun message member => ?_) done, ?_, ?_⟩
  · obtain ⟨_, _, rfl⟩ := each message member
    exact attempt
  · obtain ⟨_, _, rfl⟩ := each message member
    rfl
  · have fragments : (chunks.mapIdx fun index fragment =>
        acpEventsMessage identity acpSessionId row.eventCursor event fragment index).map (·.fragment) = chunks := by
      apply ext_getElem?
      intro index
      rw [getElem?_map, getElem?_mapIdx, Option.map_map]
      exact congrFun Option.map_id _
    rw [fragments]
    exact (RunnerEventFragment.wireChunks_ok wired).1
  · intro message member
    obtain ⟨_, _, rfl⟩ := each message member
    exact ⟨rfl, rfl, rfl⟩

theorem relayEvents_send (attempt : identity.attempt = row.attempt)
    (done : events.foldlM (relayEvent limits identity sequence) state = .ok next) :
    ∃ groups, Sends sequence row groups.flatten state next ∧
      List.Forall₂ AcpEventsMessage.Carries groups (events.map fun event => (identity, event)) := by
  induction events generalizing state row with
  | nil =>
    cases done
    exact ⟨[], .nil found counted, .nil⟩
  | cons _ _ ih =>
    obtain ⟨_, first, done⟩ := foldlM_cons_inv done
    obtain ⟨group, head, carries⟩ := relayEvent_sends found counted attempt first
    obtain ⟨groups, tail, each⟩ := ih head.found head.counted attempt done
    exact ⟨group :: groups, head.append tail, .cons carries each⟩
end
end Sending

section Rounds

def storedEvents (state : AgentHostState) : List (Nat × SourcedEvent) :=
  state.records.rows.filterMap fun row => row.sourced.map fun sourced => (row.sequence, sourced)

def pending (state : AgentHostState) (identity : LeaseIdentity) (afterSequence : Nat) : List (Nat × SourcedEvent) :=
  state.storedEvents.filter fun entry => entry.2.1 = identity ∧ afterSequence < entry.1

theorem mem_storedEvents :
    entry ∈ state.storedEvents ↔ ∃ row ∈ state.records, row.sequence = entry.1 ∧ row.sourced = some entry.2 := by
  unfold storedEvents
  rw [mem_filterMap]
  constructor
  · rintro ⟨row, member, same⟩
    obtain ⟨_, source, rfl⟩ := map_eq_some_iff.mp same
    exact ⟨row, member, rfl, source⟩
  · rintro ⟨row, member, sequence, source⟩
    exact ⟨row, member, by rw [source, map_some, sequence]⟩

theorem Ordered.stored (ordered : state.Ordered) :
    state.storedEvents.Pairwise fun left right => left.1 < right.1 := by
  apply List.Pairwise.filterMap _ _ ordered
  intro left right before entry same other alike
  obtain ⟨_, _, rfl⟩ := map_eq_some_iff.mp same
  obtain ⟨_, _, rfl⟩ := map_eq_some_iff.mp alike
  exact before

theorem Ordered.between (ordered : state.Ordered) (afterSequence limit : Nat) :
    state.engineRecordsBetween identity afterSequence (state.upperStorageSequence identity) limit =
      ((state.pending identity afterSequence).map fun entry => (entry.1, entry.2.2)).take limit := by
  have sorted : state.records.rows.insertionSort (fun left right => left.sequence ≤ right.sequence) = state.records.rows :=
    (List.Pairwise.imp Nat.le_of_lt ordered).insertionSort_eq
  unfold engineRecordsBetween pending storedEvents
  rw [sorted, filter_filterMap, map_filterMap]
  congr 1
  apply filterMap_congr
  intro row member
  have upper := stored_le_upper member
  unfold RecordRow.sourced
  cases body : row.record.body with
  | engineEvent =>
    by_cases same : row.record.identity = identity
    · rw [same] at upper
      by_cases behind : afterSequence < row.sequence
      · simp [same, behind, upper]
      · have late := Nat.not_lt.mp behind
        simp [behind, late]
    · simp [same]
  | permissionRequest => rfl
  | elicitationRequest => rfl

variable {last : Nat × SourcedEvent}
variable {front back : List (Nat × SourcedEvent)}

theorem behind_entry
    (rising : (front ++ last :: back).Pairwise fun left right => left.1 < right.1) :
    (front ++ last :: back).filter (fun entry => last.1 < entry.1) = back := by
  obtain ⟨_, after, before⟩ := pairwise_append.mp rising
  obtain ⟨after, _⟩ := pairwise_cons.mp after
  have none : front.filter (fun entry => last.1 < entry.1) = [] := by
    apply filter_eq_nil_iff.mpr
    intro entry member later
    have earlier := before entry member last mem_cons_self
    have late := of_decide_eq_true later
    omega
  have all : back.filter (fun entry => last.1 < entry.1) = back :=
    filter_eq_self.mpr fun entry member => decide_eq_true (after entry member)
  rw [filter_append, none, nil_append, filter_cons_of_neg (by simp), all]

theorem Ordered.behind (ordered : state.Ordered)
    (split : state.pending identity afterSequence = front ++ last :: back) : state.pending identity last.1 = back := by
  have rising : (state.pending identity afterSequence).Pairwise fun left right => left.1 < right.1 :=
    ordered.stored.sublist List.filter_sublist
  have behind : afterSequence < last.1 := by
    have member : last ∈ state.pending identity afterSequence := by
      rw [split]
      exact List.mem_append_right _ List.mem_cons_self
    exact (of_decide_eq_true (List.mem_filter.mp member).2).2
  have again : state.pending identity last.1 = (state.pending identity afterSequence).filter fun entry => last.1 < entry.1 := by
    unfold pending
    rw [List.filter_filter]
    apply List.filter_congr
    intro entry _
    by_cases later : last.1 < entry.1
    · simp [later, behind.trans later]
    · simp [later]
  rw [split] at rising again
  exact again.trans (behind_entry rising)

theorem relayEvent_records (done : relayEvent limits identity sequence state event = .ok next) :
    state.SameRecords next := by
  obtain ⟨_, done⟩ := rest_ok done
  split at done
  · cases done
  obtain ⟨_, done⟩ := rest_ok done
  have kept := foldlM_keeps (fun state : AgentHostState => (state.records, state.lastRecordSequence))
    (fun start message last chunk => ?_) done
  · exact ⟨congrArg Prod.fst kept, congrArg Prod.snd kept⟩
  obtain ⟨⟨_, _⟩, queueing, chunk⟩ := bind_ok.mp chunk
  obtain ⟨_, rfl, _⟩ := queue_ok queueing
  dsimp only at chunk
  unfold advanceEventCursor at chunk
  split at chunk
  · cases chunk
  · split at chunk
    · cases chunk
      rfl
    · cases chunk

theorem SameRecords.pending (records : state.SameRecords next) :
    next.pending identity = state.pending identity ∧
      next.upperStorageSequence identity = state.upperStorageSequence identity := by
  unfold AgentHostState.pending storedEvents upperStorageSequence
  rw [records.records]
  exact ⟨rfl, rfl⟩

theorem SameRecords.ordered (records : state.SameRecords next) (ordered : state.Ordered) : next.Ordered := by
  unfold Ordered
  rw [records.records]
  exact ordered

theorem relayEvents_records
    (done : events.foldlM (relayEvent limits identity sequence) state = .ok next) : state.SameRecords next := by
  induction events generalizing state with
  | nil =>
    cases done
    exact .refl _
  | cons _ _ ih =>
    obtain ⟨_, first, done⟩ := foldlM_cons_inv done
    exact (relayEvent_records first).trans (ih done)

theorem pending_le_upper (member : entry ∈ state.pending identity afterSequence) :
    afterSequence < entry.1 ∧ entry.1 ≤ state.upperStorageSequence identity := by
  obtain ⟨stored, held⟩ := mem_filter.mp member
  obtain ⟨same, behind⟩ := of_decide_eq_true held
  obtain ⟨_, present, sequence, source⟩ := mem_storedEvents.mp stored
  have upper := stored_le_upper present
  rw [RecordRow.sourced_eq.mp source, sequence, same] at upper
  exact ⟨behind, upper⟩

theorem relayRounds_all {rounds : Nat} (ordered : state.Ordered)
    (enough : (state.pending identity afterSequence).length < rounds)
    (done : relayRounds limits identity sequence (state.upperStorageSequence identity) rounds afterSequence state = .ok next) :
    ((state.pending identity afterSequence).map fun entry => entry.2.2).foldlM (relayEvent limits identity sequence) state =
      .ok next := by
  induction rounds generalizing afterSequence state with
  | zero => exact absurd enough (Nat.not_lt_zero _)
  | succ rounds ih =>
    unfold relayRounds at done
    by_cases below : afterSequence < state.upperStorageSequence identity
    · rw [if_pos below] at done
      dsimp only at done
      rw [ordered.between, ← map_take] at done
      rcases List.eq_nil_or_concat ((state.pending identity afterSequence).take 256) with empty | ⟨front, last, split⟩
      · have none := (take_eq_nil_iff.mp empty).resolve_left (by decide)
        rw [empty] at done
        rw [none]
        exact done
      · rw [List.concat_eq_append] at split
        have whole : state.pending identity afterSequence = front ++ last :: (state.pending identity afterSequence).drop 256 := by
          have joined := take_append_drop 256 (state.pending identity afterSequence)
          rw [split, List.append_assoc] at joined
          exact joined.symm
        rw [split, List.map_append, List.map_singleton, getLast?_concat] at done
        obtain ⟨middle, relayed, done⟩ := bind_ok.mp done
        have records := relayEvents_records relayed
        obtain ⟨again, upper⟩ := @SameRecords.pending state middle identity records
        have later : middle.pending identity last.1 = (state.pending identity afterSequence).drop 256 := by
          rw [again]
          exact ordered.behind whole
        have fewer : (middle.pending identity last.1).length < rounds := by
          have length := congrArg List.length whole
          rw [List.length_append, length_cons] at length
          rw [later]
          omega
        have rest := ih (records.ordered ordered) fewer (by rw [upper]; exact done)
        have first : (front ++ [last]).map (fun entry => entry.2.2) =
            (front.map (fun entry => (entry.1, entry.2.2)) ++ [(last.1, last.2.2)]).map fun entry => entry.2 := by
          rw [List.map_append, List.map_append, List.map_map]
          rfl
        rw [later] at rest
        rw [whole, append_cons, List.map_append, foldlM_append, first, relayed]
        exact rest
    · have none : state.pending identity afterSequence = [] := by
        apply eq_nil_iff_forall_not_mem.mpr
        intro entry member
        obtain ⟨_, _⟩ := pending_le_upper member
        omega
      rw [if_neg below] at done
      rw [none]
      exact done

end Rounds

section Checkpoint
variable {sent rest : List SourcedEvent}

theorem Counted.rising (counted : state.Counted row) :
    (state.messagesOf row.attempt).Pairwise fun left right => left.cursor < right.cursor := by
  have cursors : ((range row.eventCursor).map fun cursor => (cursor, cursor + 1)).Pairwise
      fun left right => left.2 < right.2 := by
    rw [pairwise_map]
    exact pairwise_lt_range.imp fun before => Nat.succ_lt_succ before
  rw [← counted, pairwise_map] at cursors
  exact cursors

theorem Counted.last (counted : state.Counted row) {last : SourcedEvent}
    (carried : AcpEventsMessage.Carried (state.messagesOf row.attempt) (sent ++ [last]))
    (member : message ∈ state.messagesOf row.attempt) (cursor : message.cursor = row.eventCursor) :
    message.identity = last.1 ∧ message.sourceSequence = last.2.sequence := by
  obtain ⟨_, group, split, _, carries⟩ := carried.last
  have rising := counted.rising
  rw [split] at rising member
  rcases mem_append.mp member with before | inside
  · obtain ⟨_, _, order⟩ := pairwise_append.mp rising
    have head := head_mem carries.ne_nil
    have late : group.head carries.ne_nil ∈ state.messagesOf row.attempt := by
      rw [split]
      exact mem_append_right _ head
    have above := order message before _ head
    have bound := counted.le late
    omega
  · obtain ⟨identity, sequence, _⟩ := carries.source message inside
    exact ⟨identity, sequence⟩

def attemptEvents (state : AgentHostState) (attempt : OpaqueId × OpaqueId) : List (Nat × SourcedEvent) :=
  state.storedEvents.filter fun entry => entry.2.1.attempt = attempt

theorem attemptEvents_log (attempt : OpaqueId × OpaqueId) :
    (state.attemptEvents attempt).map Prod.snd = state.engineLog attempt := by
  unfold attemptEvents engineLog storedEvents
  rw [filter_filterMap, map_filterMap, filter_filterMap]
  apply filterMap_congr
  intro row _
  cases row.sourced with
  | none => rfl
  | some sourced => by_cases same : sourced.1.attempt = attempt <;> simp [Option.filter, same]

theorem pending_eq (afterSequence : Nat) : state.pending identity afterSequence =
    (state.attemptEvents identity.attempt).filter fun entry => entry.2.1 = identity ∧ afterSequence < entry.1 := by
  unfold pending attemptEvents
  rw [List.filter_filter]
  apply List.filter_congr
  intro entry _
  by_cases same : entry.2.1 = identity
  · simp [same]
  · simp [same]

theorem relayedSequence_last (counted : state.Counted row)
    {last : SourcedEvent} (carried : AcpEventsMessage.Carried (state.messagesOf row.attempt) (sent ++ [last]))
    (start : state.relayedSequence row.identity row.eventCursor = .ok afterSequence)
    (member : entry ∈ state.storedEvents) (names : entry.2 = last) : entry.1 = afterSequence := by
  obtain ⟨_, found, start⟩ := bind_ok.mp start
  unfold remoteEngineCheckpoint at found
  split at found
  · rename_i zero
    have empty : state.messagesOf row.attempt = [] := by
      have counts : (state.messagesOf row.attempt).map _ = (range row.eventCursor).map _ := counted
      rw [zero] at counts
      exact map_eq_nil_iff.mp counts
    exact absurd (carried.nil_iff.mp empty) (by simp)
  split at found
  · cases found
  rename_i out known
  split at found
  · rename_i message payload
    split at found
    · cases found
    rename_i agrees
    obtain ⟨attempt, cursor⟩ := not_or.mp agrees
    cases found
    have sent := mem_messagesOf (mem_messages (find_eq_some.mp known).1 payload) (not_not.mp attempt)
    obtain ⟨source, sourceSequence⟩ := counted.last carried sent (not_not.mp cursor)
    obtain ⟨stored, inside, number, sourced⟩ := mem_storedEvents.mp member
    have key : stored.key = (message.identity, "engine_event", .inl message.sourceSequence) := by
      rw [source, sourceSequence, ← names, RecordRow.key, RecordRow.sourced_eq.mp sourced]
      rfl
    have present := find_of_mem inside
    rw [key] at present
    dsimp only at start
    rw [storageSequence, present] at start
    cases start
    exact number.symm
  · cases found

theorem relayedSequence_rest (recorded : state.Recorded) (counted : state.Counted row)
    (carried : AcpEventsMessage.Carried (state.messagesOf row.attempt) sent)
    (log : state.engineLog row.attempt = sent ++ rest) (current : ∀ sourced ∈ rest, sourced.1 = row.identity)
    (start : state.relayedSequence row.identity row.eventCursor = .ok afterSequence) :
    (state.pending row.identity afterSequence).map Prod.snd = rest := by
  have attempt : row.identity.attempt = row.attempt := rfl
  have events := @attemptEvents_log state row.attempt
  rw [log] at events
  obtain ⟨before, behind, split, beforeSent, behindRest⟩ := map_eq_append_iff.mp events
  have rising : (state.attemptEvents row.attempt).Pairwise fun left right => left.1 < right.1 :=
    recorded.ordered.stored.sublist filter_sublist
  -- Behind the checkpoint lie exactly the events that were not sent.
  have later : ((state.attemptEvents row.attempt).filter fun entry => afterSequence < entry.1) = behind := by
    rcases eq_nil_or_concat before with rfl | ⟨_, last, rfl⟩
    · have none : state.messagesOf row.attempt = [] := carried.nil_iff.mpr beforeSent.symm
      have counts : (state.messagesOf row.attempt).map _ = (range row.eventCursor).map _ := counted
      rw [none, map_nil, eq_comm, map_eq_nil_iff, range_eq_nil] at counts
      rw [counts] at start
      cases start
      rw [split, nil_append]
      apply filter_eq_self.mpr
      intro entry member
      have inside : entry ∈ state.attemptEvents row.attempt := by
        rw [split]
        exact member
      obtain ⟨stored, present, number, _⟩ := mem_storedEvents.mp (mem_filter.mp inside).1
      have positive := (recorded.numbered stored present).1
      exact decide_eq_true (number ▸ positive)
    · rw [concat_eq_append] at split beforeSent
      rw [map_append, map_singleton] at beforeSent
      rw [append_assoc, singleton_append] at split
      have member : last ∈ state.storedEvents := by
        have inside : last ∈ state.attemptEvents row.attempt := by
          rw [split]
          exact mem_append_right _ mem_cons_self
        exact (mem_filter.mp inside).1
      have checkpoint := relayedSequence_last counted (beforeSent ▸ carried) start member rfl
      rw [split] at rising ⊢
      rw [← checkpoint]
      exact behind_entry rising
  have same : state.pending row.identity afterSequence = behind := by
    rw [pending_eq, attempt, ← later]
    apply filter_congr
    intro entry member
    by_cases late : afterSequence < entry.1
    · have inside : entry ∈ behind := by
        rw [← later]
        exact mem_filter.mpr ⟨member, decide_eq_true late⟩
      have named := current entry.2 (behindRest ▸ mem_map.mpr ⟨entry, inside, rfl⟩)
      simp [late, named]
    · simp [late]
  rw [same, behindRest]

end Checkpoint
end AgentHostState
end PlanWeave
