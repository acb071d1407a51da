import PlanWeave.HostState.ExecutionCalls

namespace PlanWeave
open Checked List Table

namespace RunnerEventFragment
variable {schema : RunnerEventFragment → Bool} {fits : RunnerEventFragment → Nat → Bool}
  {fragment : RunnerEventFragment} {chunks : List RunnerEventFragment}

inductive Splits : RunnerEventFragment → List RunnerEventFragment → Prop
  | whole (fragment : RunnerEventFragment) : Splits fragment [fragment]
  | parts (body : RunnerBodyFragment) (parts : List (List Char)) (present : parts ≠ [])
      (content : body.splittable = some (String.ofList parts.flatten)) :
      Splits (runnerBody body) (parts.map fun part => runnerBody (body.withContent (String.ofList part)))

theorem Splits.head (splits : Splits fragment chunks) : ∃ first, chunks[0]? = some first := by
  cases splits with
  | whole => exact ⟨_, rfl⟩
  | parts _ parts present =>
    cases parts with
    | nil => exact absurd rfl present
    | cons => exact ⟨_, rfl⟩

def Parted (fits : RunnerEventFragment → Nat → Bool) (body : RunnerBodyFragment) (characters : List Char) (count : Nat)
    (chunks : List RunnerEventFragment) : Prop :=
  ∃ parts : List (List Char), parts ≠ [] ∧ parts.flatten = characters ∧
    (chunks = parts.map fun part => runnerBody (body.withContent (String.ofList part))) ∧
    ∀ index chunk, chunks[index]? = some chunk → fits chunk (count + index) = true

variable {body : RunnerBodyFragment} {characters : List Char}
variable {count : Nat}

theorem Parted.halves {middle : Nat}
    {left right : List RunnerEventFragment} (first : Parted fits body (characters.take middle) count left)
    (second : Parted fits body (characters.drop middle) (count + left.length) right) :
    Parted fits body characters count (left ++ right) := by
  obtain ⟨leftParts, present, leftFlat, rfl, leftFits⟩ := first
  obtain ⟨rightParts, _, rightFlat, rfl, rightFits⟩ := second
  refine ⟨leftParts ++ rightParts, append_ne_nil_of_left_ne_nil present _, ?_, map_append.symm, ?_⟩
  · rw [flatten_append, leftFlat, rightFlat, take_append_drop]
  intro index chunk found
  rcases Nat.lt_or_ge index leftParts.length with before | behind
  · rw [getElem?_append_left (by simpa using before)] at found
    exact leftFits index chunk found
  · rw [getElem?_append_right (by simpa using behind)] at found
    have fit := rightFits _ chunk found
    have shift : count + leftParts.length + (index - leftParts.length) = count + index := by omega
    rwa [length_map, shift] at fit

theorem Parted.single
    (takes : fits (runnerBody (body.withContent (String.ofList characters))) count = true) :
    Parted fits body characters count [runnerBody (body.withContent (String.ofList characters))] := by
  refine ⟨[characters], cons_ne_nil _ _, flatten_singleton, rfl, fun index chunk found => ?_⟩
  cases index with
  | zero =>
    cases found
    exact takes
  | succ => cases found

theorem split_ok
    (done : split fits body characters count = .ok chunks) : Parted fits body characters count chunks := by
  induction characters, count using split.induct fits body generalizing chunks with
  | case1 =>
    rename_i takes
    rw [split, if_pos takes] at done
    cases done
    exact .single takes
  | case2 _ _ _ refuses =>
    rename_i single
    rw [split, if_neg refuses, dif_pos single] at done
    cases done
  | case3 _ _ _ refuses several _ leftIh =>
    rename_i rightIh
    rw [split, if_neg refuses, dif_neg several] at done
    obtain ⟨left, leftDone, done⟩ := bind_ok.mp done
    obtain ⟨_, rightDone, done⟩ := bind_ok.mp done
    cases done
    exact .halves (leftIh leftDone) (rightIh left rightDone)

theorem wireChunks_ok (done : fragment.wireChunks schema fits = .ok chunks) :
    Splits fragment chunks ∧ ∀ index chunk, chunks[index]? = some chunk → fits chunk index = true := by
  unfold wireChunks at done
  split at done
  · cases done
  split at done
  · rename_i takes
    cases done
    refine ⟨.whole _, fun index chunk found => ?_⟩
    cases index with
    | zero =>
      cases found
      exact takes
    | succ => cases found
  split at done
  · rename_i body _ _
    split at done
    · cases done
    rename_i content splittable
    dsimp only at done
    split at done
    · cases done
    obtain ⟨left, leftDone, done⟩ := bind_ok.mp done
    obtain ⟨_, rightDone, done⟩ := bind_ok.mp done
    cases done
    rw [← Nat.zero_add left.length] at rightDone
    obtain ⟨parts, present, flat, chunked, fit⟩ := (split_ok leftDone).halves (split_ok rightDone)
    rw [chunked]
    refine ⟨.parts body parts present ?_, fun index chunk found => ?_⟩
    · rw [flat, String.ofList_toList]
      exact splittable
    · rw [← Nat.zero_add index]
      exact fit index chunk (chunked ▸ found)
  · cases done

end RunnerEventFragment

namespace AgentHostState
variable {limits : AgentHostLimits} {state next : AgentHostState} {loud : Prop} {sequence : Nat} {row : ExecutionRow}
  {record : RemoteExecutionRecord} {identity : LeaseIdentity}

variable {event : RemoteEngineEvent} {stored : RecordRow}

section Chunks

def HasSession (state : AgentHostState) (sequence : Nat) : Prop :=
  ∃ row, state.executions.find sequence = some row ∧ row.acpSessionId.isSome

theorem events_keyed (message : AcpEventsMessage) (key id : String) :
    OutboxRow.Keyed ⟨.other key, ⟨id, .execution (.acpEvents message)⟩, false⟩ := by
  constructor
  · intro _ same
    cases same
  · intro _ _ _ same
    cases same

theorem cursors_touched {old new : ExecutionRow} (cursors : new =
    { old with eventProtocolVersion := new.eventProtocolVersion, eventCursor := new.eventCursor, actionCursor := new.actionCursor })
    (cursor : old.acpSessionId = none → old.eventCursor = 0 → new.eventCursor = 0) : old.Touched new := by
  rw [cursors]
  refine ⟨rfl, rfl, rfl, rfl, rfl, fun _ => rfl, fun held => ⟨held.session, held.recovery, fun missing => ?_, held.resumed⟩⟩
  exact cursor missing (held.cursor missing)

theorem relayChunk_moves {message : AcpEventsMessage} (session : state.HasSession sequence)
    (done : relayChunk limits sequence state message = .ok next) :
    Rests True sequence state next ∧ next.HasSession sequence := by
  obtain ⟨row, found, known⟩ := session
  obtain ⟨⟨queueState, _⟩, queueing, done⟩ := bind_ok.mp done
  have event : Move True sequence state queueState false := queue_move queueing rfl (events_keyed _ _) (.inl trivial)
  obtain ⟨_, rfl, _⟩ := queue_ok queueing
  unfold advanceEventCursor at done
  dsimp only at done
  rw [found] at done
  dsimp only at done
  split at done
  · cases done
    have keyed := find_sequence found
    let advanced : ExecutionRow := { row with eventCursor := message.cursor }
    have touched : row.Touched advanced := by
      apply cursors_touched rfl
      intro missing
      rw [missing] at known
      cases known
    refine ⟨.tail (.single event) (.touched row advanced found touched rfl rfl (.of_eq rfl) rfl (.inl trivial)), advanced, ?_, known⟩
    exact setRow_found _ keyed
  · cases done

theorem relayEvent_moves (done : relayEvent limits identity sequence state event = .ok next) :
    Rests True sequence state next ∧ next.HasSession sequence := by
  obtain ⟨current, required, done⟩ := bind_ok.mp done
  split at done
  · cases done
  rename_i acpSessionId session
  obtain ⟨_, done⟩ := rest_ok done
  exact foldlM_invariant (fun _ _ _ session chunk => relayChunk_moves session chunk)
    ⟨current, require_ok.mp required, by rw [session]; rfl⟩ done

theorem relayRounds_moves {upperSequence rounds afterSequence : Nat}
    (done : relayRounds limits identity sequence upperSequence rounds afterSequence state = .ok next) :
    Rests True sequence state next := by
  induction rounds generalizing afterSequence state with
  | zero =>
    cases done
    exact .refl
  | succ _ ih =>
    unfold relayRounds at done
    split at done
    · dsimp only at done
      split at done
      · cases done
        exact .refl
      obtain ⟨_, relayed, done⟩ := bind_ok.mp done
      have each (start : AgentHostState) (event : RemoteEngineEvent) (last : AgentHostState) (_ : True)
          (relayed : relayEvent limits identity sequence start event = .ok last) : Rests True sequence start last ∧ True :=
        ⟨(relayEvent_moves relayed).1, trivial⟩
      exact (foldlM_invariant each trivial relayed).1.trans (ih done)
    · cases done
      exact .refl

theorem relayV2_moves (done : state.relayV2 limits sequence = .ok next) : Rests True sequence state next := by
  obtain ⟨evidence, required, done⟩ := bind_ok.mp done
  have found := require_ok.mp required
  split at done
  · cases done
    exact .refl
  obtain ⟨⟨pinState, _⟩, pinning, done⟩ := bind_ok.mp done
  have pin : Rests True sequence state pinState := by
    obtain ⟨_, again, pinning⟩ := bind_ok.mp pinning
    cases required.symm.trans again
    split at pinning
    · cases pinning
      exact .refl
    · cases pinning
      exact .single (.touched evidence { evidence with eventProtocolVersion := some 2 } found
        (cursors_touched rfl fun _ zero => zero) rfl rfl (.of_eq rfl) rfl (.inl trivial))
  dsimp only at done
  split at done
  · cases done
  obtain ⟨_, done⟩ := rest_ok done
  exact pin.trans (relayRounds_moves done)

end Chunks

variable {snapshot : AcpCapabilitySnapshot}

section Sessions

theorem stored_le_upper (member : stored ∈ state.records) :
    stored.sequence ≤ state.upperStorageSequence stored.record.identity := by
  have kept : stored ∈ state.records.rows.filter fun row => row.record.identity = stored.record.identity :=
    mem_filter.mpr ⟨member, decide_eq_true rfl⟩
  exact le_max?_getD_of_mem (mem_map.mpr ⟨stored, kept, rfl⟩)

theorem stored_pending (member : stored ∈ state.records)
    (body : stored.record.body = .engineEvent event) (positive : 0 < stored.sequence) :
    state.engineRecordsBetween stored.record.identity 0 (state.upperStorageSequence stored.record.identity) 256 ≠ [] := by
  unfold engineRecordsBetween
  rw [Ne, take_eq_nil_iff, not_or]
  refine ⟨by decide, ?_⟩
  apply @List.ne_nil_of_mem _ (stored.sequence, event)
  refine mem_filterMap.mpr ⟨stored, (mem_insertionSort _).mpr member, ?_⟩
  rw [body]
  exact if_pos ⟨rfl, positive, stored_le_upper member⟩

variable {acpSessionId : String}

theorem relayEvent_names (found : state.executions.find sequence = some row) (session : row.acpSessionId = some acpSessionId)
    (done : relayEvent limits identity sequence state event = .ok next) : opaqueIdentifierSchema acpSessionId = true := by
  obtain ⟨_, required, done⟩ := bind_ok.mp done
  cases found.symm.trans (require_ok.mp required)
  rw [session] at done
  obtain ⟨_, relayed, _⟩ := bind_ok.mp done
  obtain ⟨_, wired, _⟩ := bind_ok.mp relayed
  obtain ⟨splits, fits⟩ := RunnerEventFragment.wireChunks_ok wired
  obtain ⟨first, head⟩ := splits.head
  have fit := fits 0 first head
  unfold messageFits at fit
  rw [Bool.and_eq_true, Bool.and_eq_true] at fit
  exact fit.1.1

theorem relayV2_names (found : state.executions.find sequence = some row) (session : row.acpSessionId = some acpSessionId)
    (fresh : row.eventCursor = 0) (member : stored ∈ state.records) (body : stored.record.body = .engineEvent event)
    (identity : stored.record.identity = row.identity) (positive : 0 < stored.sequence)
    (done : state.relayV2 limits sequence = .ok next) : opaqueIdentifierSchema acpSessionId = true := by
  have keyed := find_sequence found
  obtain ⟨_, required, done⟩ := bind_ok.mp done
  cases found.symm.trans (require_ok.mp required)
  rw [if_neg (by rw [session]; exact Option.some_ne_none _)] at done
  obtain ⟨⟨pinState, _⟩, pinning, done⟩ := bind_ok.mp done
  have pin : pinState.records = state.records ∧
      ∃ pinRow, pinState.executions.find sequence = some pinRow ∧ pinRow.acpSessionId = some acpSessionId := by
    obtain ⟨_, again, pinning⟩ := bind_ok.mp pinning
    cases required.symm.trans again
    split at pinning
    · cases pinning
      exact ⟨rfl, row, found, session⟩
    · cases pinning
      exact ⟨rfl, _, setRow_found state keyed, session⟩
  obtain ⟨records, _, pinFound, pinSession⟩ := pin
  dsimp only at done
  split at done
  · cases done
  obtain ⟨_, start, done⟩ := bind_ok.mp done
  rw [fresh] at start
  cases start
  rw [← records] at member
  have upper := stored_le_upper member
  have pending := stored_pending member body positive
  rw [identity] at upper pending
  unfold relayRounds at done
  rw [if_pos (Nat.lt_of_lt_of_le positive upper)] at done
  dsimp only at done
  generalize listed : pinState.engineRecordsBetween row.identity 0 (pinState.upperStorageSequence row.identity) 256 = events
    at done pending
  cases events with
  | nil => exact absurd rfl pending
  | cons =>
    rw [getLast?_cons] at done
    obtain ⟨_, relayed, _⟩ := bind_ok.mp done
    rw [map_cons] at relayed
    obtain ⟨_, firstDone, _⟩ := foldlM_cons_inv relayed
    exact relayEvent_names pinFound pinSession firstDone

def withSession (row : ExecutionRow) (sessionId : String) (snapshot : AcpCapabilitySnapshot) (recoveryId : String) :
    ExecutionRow :=
  { row with acpSessionId := some sessionId, capabilitySnapshot := some snapshot, recoveryId := some recoveryId }

theorem recordSession_ok {sessionId recoveryId : String} (found : state.executions.find sequence = some row)
    (done : state.recordSession limits sequence sessionId snapshot recoveryId = .ok next) :
    next = state ∨ (row.status.terminal = false ∧ (row.acpSessionId = none ∨ row.acpSessionId = some sessionId) ∧
      next = state.setRow (withSession row sessionId snapshot recoveryId)) := by
  unfold recordSession at done
  split at done
  · cases done
  split at done
  · cases done
  obtain ⟨_, required, done⟩ := bind_ok.mp done
  cases found.symm.trans (require_ok.mp required)
  dsimp only at done
  split at done
  · cases done
  rename_i agrees
  split at done
  · cases done
    exact .inl rfl
  split at done
  · rename_i active
    cases done
    refine .inr ⟨?_, ?_, rfl⟩
    · rcases active with status | status | status <;> rw [status] <;> rfl
    cases session : row.acpSessionId with
    | none => exact .inl rfl
    | some =>
      rw [session] at agrees
      exact .inr (not_not.mp fun other => agrees ⟨rfl, fun same => other same.1⟩)
  · cases done

end Sessions

section Appending
variable {middle : AgentHostState} {deadline : Timestamp} {kind : InteractionActionKind}
variable {request : InteractionRequest}

theorem startSession_moves {sessionId : String} {recoveryId : OpaqueId} (sound : state.Sound)
    (found : state.executions.find sequence = some row) (member : stored ∈ state.records)
    (body : stored.record.body = .engineEvent event) (identity : stored.record.identity = row.identity)
    (positive : 0 < stored.sequence)
    (recorded : state.recordSession limits sequence sessionId snapshot recoveryId.text = .ok middle)
    (done : middle.relayV2 limits sequence = .ok next) : Rests True sequence state next := by
  have keyed := find_sequence found
  have held := sound.evidenced row (find_eq_some.mp found).1
  rcases recordSession_ok found recorded with rfl | ⟨active, session, rfl⟩
  · exact relayV2_moves done
  have present : (state.setRow (withSession row sessionId snapshot recoveryId.text)).executions.find sequence = some _ :=
    setRow_found state keyed
  have named : opaqueIdentifierSchema sessionId = true := by
    rcases session with fresh | known
    · exact relayV2_names present rfl (held.cursor fresh) member body identity positive done
    · exact held.session sessionId known
  have touched : row.Touched (withSession row sessionId snapshot recoveryId.text) := by
    refine ⟨rfl, rfl, rfl, rfl, rfl, fun terminal => ?_, fun _ => ⟨?_, ?_, ?_, held.resumed⟩⟩
    · rw [active] at terminal
      cases terminal
    · rintro _ ⟨⟩
      exact named
    · rintro _ ⟨⟩
      exact recoveryId.wire
    · intro missing
      cases missing
  have recording : Move True sequence state (state.setRow (withSession row sessionId snapshot recoveryId.text)) false :=
    .touched row _ found touched rfl rfl (.of_eq rfl) rfl (.inl trivial)
  exact .head recording (relayV2_moves done)

theorem transition_moves {status : AgentHostExecutionStatus} (active : status.terminal = false)
    (done : state.transition sequence status = .ok next) : StepsAt loud sequence 1 state next := by
  obtain ⟨_, required, done⟩ := bind_ok.mp done
  split at done
  · cases done
    exact .refl
  split at done
  · rename_i allowed
    cases done
    exact (status_move (require_ok.mp required) allowed active).shift
  · cases done

theorem recordAction_moves {sessionId actionId : String} {leaseId : OpaqueId}
    {fresh : Bool} (asks : kind ≠ .authentication)
    (done : state.recordAction limits sequence leaseId sessionId actionId kind deadline request = .ok (next, fresh)) :
    Rests loud sequence state next := by
  unfold recordAction at done
  split at done
  · cases done
  obtain ⟨current, required, done⟩ := bind_ok.mp done
  have found := require_ok.mp required
  split at done
  · cases done
  split at done
  · cases done
  split at done
  · split at done
    · cases done
    · cases done
      exact .refl
  · split at done
    · cases done
    cases done
    have touched : current.Touched { current with actionCursor := current.actionCursor + 1 } :=
      cursors_touched rfl fun _ zero => zero
    refine .single (.touched current _ found touched rfl rfl (fun action member asked => ?_) rfl (.inr ⟨⟨rfl, rfl⟩, ⟨rfl, rfl, rfl, fun _ => rfl⟩⟩))
    rcases mem_put.mp member with ⟨kept, _⟩ | rfl
    · exact ⟨action, kept, asked⟩
    · exact absurd asked asks

theorem requested_keyed (kind : InteractionActionKind) (identity : LeaseIdentity) (acpSessionId : String)
    (actionId : OpaqueId) (expiresAt : Timestamp) (request : InteractionRequest) (key id : String) :
    OutboxRow.Keyed
      ⟨.other key, ⟨id, .execution (.interactionRequested kind identity acpSessionId actionId expiresAt request)⟩, false⟩ := by
  constructor
  · intro _ same
    cases same
  · intro _ _ _ same
    cases same

theorem relayRequest_moves
    (asks : kind ≠ .authentication) (done : state.relayRequest limits row kind request deadline = .ok next) :
    StepsAt loud row.sequence 1 state next := by
  unfold relayRequest at done
  split at done
  · cases done
  split at done
  · cases done
  obtain ⟨⟨asked, _⟩, asking, done⟩ := bind_ok.mp done
  obtain ⟨waiting, wait, done⟩ := bind_ok.mp done
  have waits : StepsAt loud row.sequence 1 asked waiting := by
    unfold awaitAnswer at wait
    split at wait
    · exact transition_moves rfl wait
    · cases wait
      exact .refl
  split at done
  · obtain ⟨⟨_, _⟩, queueing, done⟩ := bind_ok.mp done
    cases done
    exact ((recordAction_moves asks asking).stepsAt.trans waits).trans
      (queue_move queueing rfl (requested_keyed _ _ _ _ _ _ _) (.inr fun _ same => by cases same)).rest
  · cases done

theorem insertRecord_ok {stored : Bool} (done : state.insertRecord limits record = .ok (next, stored)) :
    next.executions = state.executions ∧ next.outbox = state.outbox ∧ next.actions = state.actions ∧
      next.receivedHighWater = state.receivedHighWater ∧
      (stored = true → ∃ row ∈ next.records, row.record = record ∧ 0 < row.sequence) := by
  unfold insertRecord at done
  split at done
  · cases done
  split at done
  · cases done
  split at done
  · cases done
  split at done
  · split at done
    · cases done
    · cases done
      exact ⟨rfl, rfl, rfl, rfl, fun stored => by cases stored⟩
  · split at done
    · cases done
    · cases done
      exact ⟨rfl, rfl, rfl, rfl, fun _ => ⟨_, mem_put.mpr (.inr rfl), rfl, Nat.succ_pos _⟩⟩

theorem relayEngineEvent_moves
    (sound : state.Sound) (found : state.executions.find row.sequence = some row) (member : stored ∈ state.records)
    (body : stored.record.body = .engineEvent event) (identity : stored.record.identity = row.identity)
    (positive : 0 < stored.sequence) (accepted : state.relayEngineEvent limits row event = .ok middle)
    (done : middle.relayV2 limits row.sequence = .ok next) : StepsAt True row.sequence 1 state next := by
  unfold relayEngineEvent at accepted
  split at accepted
  · split at accepted
    · cases accepted
    · exact (startSession_moves sound found member body identity positive accepted done).stepsAt.mono (Nat.zero_le _)
  · split at accepted
    · exact (transition_moves rfl accepted).trans (relayV2_moves done).stepsAt
    · cases accepted
      exact (relayV2_moves done).stepsAt.mono (Nat.zero_le _)
  · split at accepted
    · cases accepted
      exact (relayV2_moves done).stepsAt.mono (Nat.zero_le _)
    · cases accepted
  · cases accepted
    exact (relayV2_moves done).stepsAt.mono (Nat.zero_le _)

theorem relay_moves (sound : state.Sound) (member : stored ∈ state.records)
    (positive : 0 < stored.sequence) (done : state.relay limits stored.record = .ok next) : Steps True 1 state next := by
  unfold relay at done
  split at done
  · cases done
  rename_i execution known
  obtain ⟨found, identity⟩ := findByIdentity_some known
  split at done
  · rename_i event body
    split at done
    · cases done
    obtain ⟨_, accepted, done⟩ := bind_ok.mp done
    exact (relayEngineEvent_moves sound found member body identity.symm positive accepted done).toSteps
  · exact (relayRequest_moves (fun same => by cases same) done).toSteps
  · exact (relayRequest_moves (fun same => by cases same) done).toSteps

theorem append_moves (sound : state.Sound) (done : state.append limits record = .ok next) : Steps True 1 state next := by
  obtain ⟨⟨inserted, _⟩, inserting, done⟩ := bind_ok.mp done
  obtain ⟨executions, outbox, actions, highWater, present⟩ := insertRecord_ok inserting
  have move : Move True 0 state inserted false := .aside executions (by rw [outbox]) (.of_eq actions) highWater.ge (.inl trivial)
  suffices rest : Steps True 1 inserted next from move.rest.toSteps.trans rest
  dsimp only at done
  split at done
  · rename_i new
    obtain ⟨_, member, rfl, positive⟩ := present new
    exact relay_moves (move.sound sound) member positive done
  · cases done
    exact .refl

end Appending
end AgentHostState
end PlanWeave
