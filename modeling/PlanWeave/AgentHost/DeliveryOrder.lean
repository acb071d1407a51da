import Mathlib.Data.List.Pairwise
import PlanWeave.AgentHost.SessionFrames

namespace PlanWeave
open List

structure MailboxStore.Ordered (store : MailboxStore) : Prop where
  increasing : store.rows.Pairwise (·.sequence < ·.sequence)
  counted : ∀ row ∈ store.rows, row.sequence ≤ store.lastRowid
  cursor : ∀ hostId, store.lastAcknowledgedSequence hostId ≤ store.lastRowid

structure MailboxStore.Grown (before after : MailboxStore) : Prop where
  kept : ∀ row ∈ before.rows, ∃ row' ∈ after.rows, row'.hostId = row.hostId ∧ row'.sequence = row.sequence
  fresh : ∀ row' ∈ after.rows, before.lastRowid < row'.sequence ∨
    ∃ row ∈ before.rows, row.hostId = row'.hostId ∧ row.sequence = row'.sequence
  counter : before.lastRowid ≤ after.lastRowid

variable {message : MailboxMessage}

namespace MailboxStore
variable {store before after : MailboxStore} {hostId : OpaqueId} {sequence : Nat}

theorem Grown.refl (store : MailboxStore) : store.Grown store :=
  ⟨fun row member => ⟨row, member, rfl, rfl⟩, fun row member => .inr ⟨row, member, rfl, rfl⟩, le_rfl⟩

theorem ordered_empty : ({} : MailboxStore).Ordered :=
  ⟨List.Pairwise.nil, fun _ => (nomatch ·), fun _ => le_rfl⟩

theorem Ordered.enqueueOnce (ordered : before.Ordered) {messageId : OpaqueId} {command : MailboxCommand}
    (done : before.enqueueOnce messageId hostId command = .ok after) : after.Ordered ∧ before.Grown after := by
  unfold MailboxStore.enqueueOnce at done
  split at done
  · split at done
    · cases done
    · cases done
      exact ⟨ordered, Grown.refl before⟩
  · cases done
    refine ⟨⟨?_, fun row member => ?_, fun other => Nat.le_succ_of_le (ordered.cursor other)⟩,
      fun row member => ⟨row, mem_append_left _ member, rfl, rfl⟩, fun row member => ?_, Nat.le_succ _⟩
    · refine pairwise_append.mpr ⟨ordered.increasing, pairwise_singleton _ _, fun row member new only => ?_⟩
      rw [mem_singleton.mp only]
      exact Nat.lt_succ_of_le (ordered.counted row member)
    · rcases mem_append.mp member with old | new
      · exact Nat.le_succ_of_le (ordered.counted row old)
      · rw [mem_singleton.mp new]
    · rcases mem_append.mp member with old | new
      · exact .inr ⟨row, old, rfl, rfl⟩
      · rw [mem_singleton.mp new]
        exact .inl (Nat.lt_succ_self _)

theorem row_mem {row : MailboxMessage} (found : store.row hostId sequence = some row) :
    row ∈ store.rows ∧ row.hostId = hostId ∧ row.sequence = sequence := by
  have wanted := find?_some found
  exact ⟨mem_of_find?_eq_some found, of_decide_eq_true wanted⟩

theorem Ordered.acknowledgeSequence (ordered : before.Ordered)
    (done : before.acknowledgeSequence hostId sequence = .ok after) :
    after.Ordered ∧ before.Grown after ∧ sequence ≤ before.lastRowid := by
  unfold MailboxStore.acknowledgeSequence at done
  split at done
  · cases done
  rename_i target found
  obtain ⟨member, -, here⟩ := row_mem found
  have counted : sequence ≤ before.lastRowid := here ▸ ordered.counted target member
  split at done
  · cases done
    exact ⟨ordered, Grown.refl before, counted⟩
  split at done
  · cases done
  cases done
  have same : ∀ row : MailboxMessage, (if row.hostId = hostId ∧ row.sequence = sequence then
      { row with acknowledged := true } else row).sequence = row.sequence ∧
      (if row.hostId = hostId ∧ row.sequence = sequence then
        { row with acknowledged := true } else row).hostId = row.hostId := by
    intro row
    split <;> exact ⟨rfl, rfl⟩
  refine ⟨⟨?_, fun row member => ?_, fun other => ?_⟩, ⟨fun row member => ?_, fun row member => ?_, le_rfl⟩, counted⟩
  · refine pairwise_map.mpr (ordered.increasing.imp fun {first second} less => ?_)
    rw [(same first).1, (same second).1]
    exact less
  · obtain ⟨old, known, rfl⟩ := mem_map.mp member
    rw [(same old).1]
    exact ordered.counted old known
  · simp only
    split
    · exact ordered.cursor other
    by_cases here : other = hostId
    · subst here
      rw [Function.update_self]
      exact max_le (ordered.cursor other) counted
    · rw [Function.update_of_ne here]
      exact ordered.cursor other
  · exact ⟨_, mem_map_of_mem member, (same row).2, (same row).1⟩
  · obtain ⟨old, known, rfl⟩ := mem_map.mp member
    exact .inr ⟨old, known, (same old).2.symm, (same old).1.symm⟩

theorem Ordered.unique (ordered : store.Ordered) {row row' : MailboxMessage} (member : row ∈ store.rows)
    (member' : row' ∈ store.rows) (same : row.sequence = row'.sequence) : row = row' := by
  by_contra different
  have apart : store.rows.Pairwise fun row row' => row.sequence ≠ row'.sequence := ordered.increasing.imp Nat.ne_of_lt
  have symm : Std.Symm fun row row' : MailboxMessage => row.sequence ≠ row'.sequence := ⟨fun _ _ => Ne.symm⟩
  exact apart.forall member member' different same

theorem Ordered.nextAfter (ordered : store.Ordered) (next : store.nextAfter hostId sequence = some message) :
    message ∈ store.rows ∧ message.hostId = hostId ∧ sequence < message.sequence ∧
      ∀ row ∈ store.rows, row.hostId = hostId → sequence < row.sequence → message.sequence ≤ row.sequence := by
  obtain ⟨found, _, _, split, before⟩ := find?_eq_some_iff_append.mp next
  obtain ⟨own, beyond⟩ := of_decide_eq_true found
  refine ⟨mem_of_find?_eq_some next, own, beyond, fun row member own' beyond' => ?_⟩
  rw [split] at member
  rcases mem_append.mp member with early | late
  · have skipped := before row early
    simp [own', beyond'] at skipped
  rcases mem_cons.mp late with rfl | late
  · exact le_rfl
  · have sorted := ordered.increasing
    rw [split] at sorted
    exact Nat.le_of_lt (rel_of_pairwise_cons (pairwise_append.mp sorted).2.1 late)

theorem nextAfter_none (none : store.nextAfter hostId sequence = none) :
    ∀ row ∈ store.rows, row.hostId = hostId → row.sequence ≤ sequence := by
  intro row member own
  have passed := find?_eq_none.mp none row member
  simpa [own] using passed

end MailboxStore

def HostConnection.sentSequences (connection : HostConnection) : List Nat :=
  connection.frames.filterMap fun
    | .mailboxMessage sequence => some sequence
    | _ => none

def HostConnection.Acknowledged (connection : HostConnection) (sequence : Nat) : Prop :=
  ∃ messageId acknowledged, .mailboxAck messageId acknowledged ∈ connection.handled ∧ sequence ≤ acknowledged

/-- What a delivery has behind it: every row of the host between its start and its last one was sent or acknowledged. -/
structure MailboxDelivery.Faithful (store : MailboxStore) (connection : HostConnection) (delivery : MailboxDelivery) :
    Prop where
  reached : ∀ sequence ∈ connection.sentSequences, sequence ≤ delivery.sentSequence
  bounded : delivery.sentSequence ≤ store.lastRowid
  bytes : delivery.inflightBytes = (delivery.inflight.map (·.2)).sum
  covered : ∀ row ∈ store.rows, row.hostId = connection.hostId → delivery.lastAcknowledgedSequence < row.sequence →
    row.sequence ≤ delivery.sentSequence → row.sequence ∈ connection.sentSequences ∨ connection.Acknowledged row.sequence

structure HostConnection.Faithful (store : MailboxStore) (connection : HostConnection) : Prop where
  increasing : connection.sentSequences.Pairwise (· < ·)
  own : ∀ sequence ∈ connection.sentSequences,
    ∃ row ∈ store.rows, row.hostId = connection.hostId ∧ row.sequence = sequence
  undelivered : connection.delivery = none → connection.sentSequences = []
  unwelcomed : connection.initialized = false → connection.delivery = none
  welcomed : connection.sessionInitialized = true → connection.delivery ≠ none
  acknowledging : ∀ sequence ∈ connection.acknowledging,
    (∃ messageId, .mailboxAck messageId sequence ∈ connection.handled) ∧ sequence ≤ store.lastRowid
  delivering : ∀ delivery, connection.delivery = some delivery → delivery.Faithful store connection

namespace HostConnection
variable {store before after : MailboxStore} {connection other : HostConnection} {delivery : MailboxDelivery}

/-- A connection that has sent the same rows and handled the same events, and was welcomed only if the other was. -/
structure SameRecord (connection other : HostConnection) : Prop where
  hostId : other.hostId = connection.hostId
  sent : other.sentSequences = connection.sentSequences
  handled : other.handled = connection.handled
  session : other.sessionInitialized = true → connection.sessionInitialized = true

theorem SameRecord.acknowledged (same : connection.SameRecord other) (sequence : Nat) :
    other.Acknowledged sequence ↔ connection.Acknowledged sequence := by
  unfold HostConnection.Acknowledged
  rw [same.handled]

theorem SameRecord.faithful (same : connection.SameRecord other) (faithful : delivery.Faithful store connection)
    {delivery' : MailboxDelivery} (started : delivery'.lastAcknowledgedSequence = delivery.lastAcknowledgedSequence)
    (reached : delivery'.sentSequence = delivery.sentSequence)
    (bytes : delivery'.inflightBytes = (delivery'.inflight.map (·.2)).sum) : delivery'.Faithful store other := by
  refine ⟨?_, ?_, bytes, ?_⟩
  · rw [same.sent, reached]
    exact faithful.reached
  · rw [reached]
    exact faithful.bounded
  · intro row member
    rw [same.hostId, started, reached, same.sent, same.acknowledged]
    exact faithful.covered row member

section
variable (faithful : connection.Faithful store)
include faithful

theorem Faithful.change (same : connection.SameRecord other) (initialized : other.initialized = connection.initialized)
    (acknowledging : ∀ sequence ∈ other.acknowledging, sequence ∈ connection.acknowledging)
    (delivering : ∀ delivery', other.delivery = some delivery' → ∃ delivery, connection.delivery = some delivery ∧
      delivery'.lastAcknowledgedSequence = delivery.lastAcknowledgedSequence ∧
      delivery'.sentSequence = delivery.sentSequence ∧ delivery'.inflightBytes = (delivery'.inflight.map (·.2)).sum)
    (kept : other.delivery = none → connection.delivery = none) : other.Faithful store := by
  refine ⟨?_, ?_, fun none => ?_, fun early => ?_, fun welcomed none => ?_, fun sequence member => ?_,
    fun delivery' known => ?_⟩
  · rw [same.sent]
    exact faithful.increasing
  · rw [same.sent, same.hostId]
    exact faithful.own
  · rw [same.sent]
    exact faithful.undelivered (kept none)
  · rw [initialized] at early
    cases known : other.delivery with
    | none => rfl
    | some delivery' =>
      obtain ⟨_, known', -⟩ := delivering delivery' known
      rw [faithful.unwelcomed early] at known'
      cases known'
  · exact faithful.welcomed (same.session welcomed) (kept none)
  · rw [same.handled]
    exact faithful.acknowledging sequence (acknowledging sequence member)
  · obtain ⟨delivery, known', started, reached, bytes⟩ := delivering delivery' known
    exact same.faithful (faithful.delivering delivery known') started reached bytes

theorem Faithful.congr (same : connection.SameRecord other)
    (initialized : other.initialized = connection.initialized) (acknowledging : other.acknowledging = connection.acknowledging)
    (delivery : other.delivery = connection.delivery) : other.Faithful store := by
  refine faithful.change same initialized (fun sequence member => acknowledging ▸ member) (fun delivery' known => ?_)
    fun none => delivery ▸ none
  rw [delivery] at known
  exact ⟨delivery', known, rfl, rfl, (faithful.delivering delivery' known).bytes⟩

theorem Faithful.onDelivery {update : MailboxDelivery → MailboxDelivery}
    (started : ∀ delivery, (update delivery).lastAcknowledgedSequence = delivery.lastAcknowledgedSequence)
    (reached : ∀ delivery, (update delivery).sentSequence = delivery.sentSequence)
    (bytes : ∀ delivery : MailboxDelivery, delivery.inflightBytes = (delivery.inflight.map (·.2)).sum →
      (update delivery).inflightBytes = ((update delivery).inflight.map (·.2)).sum) :
    (connection.onDelivery update).Faithful store := by
  refine faithful.change ⟨rfl, rfl, rfl, id⟩ rfl (fun _ member => member) (fun delivery' known => ?_) fun none => ?_
  · obtain ⟨delivery, known', rfl⟩ := Option.map_eq_some_iff.mp known
    exact ⟨delivery, known', started delivery, reached delivery, bytes delivery (faithful.delivering delivery known').bytes⟩
  · exact Option.map_eq_none_iff.mp none
end

variable {frame : ServerFrame}

theorem sentSequences_send (other : ∀ sequence, frame ≠ .mailboxMessage sequence) :
    (connection.send frame).sentSequences = connection.sentSequences := by
  unfold HostConnection.send
  split
  · cases frame with
    | mailboxMessage sequence => exact absurd rfl (other sequence)
    | welcome | eventAck | protocolError => simp [sentSequences]
  · rfl

theorem send_rest (frame : ServerFrame) (connection : HostConnection) :
    (connection.send frame).handled = connection.handled ∧ (connection.send frame).delivery = connection.delivery ∧
      (connection.send frame).acknowledging = connection.acknowledging ∧
      (connection.send frame).initialized = connection.initialized ∧ (connection.send frame).socket = connection.socket ∧
      (connection.send frame).sessionInitialized = connection.sessionInitialized := by
  unfold HostConnection.send
  split <;> exact ⟨rfl, rfl, rfl, rfl, rfl, rfl⟩

theorem sameRecord_send (other : ∀ sequence, frame ≠ .mailboxMessage sequence) :
    connection.SameRecord (connection.send frame) :=
  ⟨(AgentHostServer.identical_send frame).hostId connection, sentSequences_send other, (send_rest frame connection).1,
    fun welcomed => (send_rest frame connection).2.2.2.2.2 ▸ welcomed⟩

section
variable (faithful : connection.Faithful store)
include faithful

theorem Faithful.send (other : ∀ sequence, frame ≠ .mailboxMessage sequence) : (connection.send frame).Faithful store := by
  obtain ⟨-, delivery, acknowledging, initialized, -⟩ := send_rest frame connection
  exact faithful.congr (sameRecord_send other) initialized acknowledging delivery

theorem Faithful.withHandled (event : HostEvent) : (connection.withHandled event).Faithful store := by
  have later : ∀ sequence, connection.Acknowledged sequence → (connection.withHandled event).Acknowledged sequence := by
    rintro _ ⟨messageId, acknowledged, member, reached⟩
    exact ⟨messageId, acknowledged, mem_append_left _ member, reached⟩
  refine ⟨faithful.increasing, faithful.own, faithful.undelivered, faithful.unwelcomed, faithful.welcomed,
    fun sequence member => ?_, fun delivery known => ?_⟩
  · obtain ⟨⟨messageId, handled⟩, bounded⟩ := faithful.acknowledging sequence member
    exact ⟨⟨messageId, mem_append_left _ handled⟩, bounded⟩
  · have before := faithful.delivering delivery known
    refine ⟨before.reached, before.bounded, before.bytes, fun row member host beyond reached => ?_⟩
    exact (before.covered row member host beyond reached).imp_right (later _)

theorem Faithful.withAcknowledging {sequences : List Nat} (handled : ∀ sequence ∈ sequences,
      (∃ messageId, .mailboxAck messageId sequence ∈ connection.handled) ∧ sequence ≤ store.lastRowid) :
    (connection.withAcknowledging sequences).Faithful store := by
  refine ⟨faithful.increasing, faithful.own, faithful.undelivered, faithful.unwelcomed, faithful.welcomed, handled,
    fun delivery known => ?_⟩
  have kept := faithful.delivering delivery known
  exact ⟨kept.reached, kept.bounded, kept.bytes, kept.covered⟩

theorem Faithful.acknowledgeEvent {event : HostEvent} (handled : event ∈ connection.handled)
    (counted : ∀ messageId sequence, event = .mailboxAck messageId sequence → sequence ≤ store.lastRowid) :
    (AgentHostServer.acknowledgeEvent event connection).Faithful store := by
  cases event with
  | other => exact faithful.send nofun
  | mailboxAck messageId sequence =>
    have told : (connection.send (.eventAck messageId)).Faithful store := faithful.send nofun
    refine told.withAcknowledging fun other member => ?_
    rw [(send_rest (.eventAck messageId) connection).1]
    split at member
    · rcases mem_append.mp member with old | new
      · exact faithful.acknowledging other old
      · rw [mem_singleton.mp new]
        exact ⟨⟨messageId, handled⟩, counted messageId sequence rfl⟩
    · exact faithful.acknowledging other member
end

theorem Faithful.grown (faithful : connection.Faithful before) (grown : before.Grown after) :
    connection.Faithful after := by
  refine ⟨faithful.increasing, fun sequence member => ?_, faithful.undelivered, faithful.unwelcomed,
    faithful.welcomed, fun sequence member => ?_, fun delivery known => ?_⟩
  · obtain ⟨row, known, host, here⟩ := faithful.own sequence member
    obtain ⟨row', known', host', here'⟩ := grown.kept row known
    exact ⟨row', known', host'.trans host, here'.trans here⟩
  · obtain ⟨handled, bounded⟩ := faithful.acknowledging sequence member
    exact ⟨handled, bounded.trans grown.counter⟩
  · have kept := faithful.delivering delivery known
    refine ⟨kept.reached, kept.bounded.trans grown.counter, kept.bytes, fun row' member host beyond reached => ?_⟩
    rcases grown.fresh row' member with new | ⟨row, known', host', here⟩
    · exact absurd (reached.trans kept.bounded) (Nat.not_le_of_lt new)
    · rw [← here] at beyond reached ⊢
      exact kept.covered row known' (host'.trans host) beyond reached

theorem sum_partition (inflight : List (Nat × Nat)) (sequence : Nat) :
    ((inflight.filter (·.1 ≤ sequence)).map (·.2)).sum + ((inflight.filter (sequence < ·.1)).map (·.2)).sum =
      (inflight.map (·.2)).sum := by
  induction inflight with
  | nil => rfl
  | cons head _ ih =>
    by_cases passed : head.1 ≤ sequence
    · simp [passed, Nat.not_lt_of_le passed, ← ih, Nat.add_assoc]
    · simp [passed, Nat.lt_of_not_le passed, ← ih]
      omega

theorem wake_record (active : Bool) (delivery : MailboxDelivery) :
    (delivery.wake active).lastAcknowledgedSequence = delivery.lastAcknowledgedSequence ∧
      (delivery.wake active).sentSequence = delivery.sentSequence ∧
      (delivery.wake active).inflightBytes = delivery.inflightBytes ∧
      (delivery.wake active).inflight = delivery.inflight := by
  unfold MailboxDelivery.wake
  split <;> exact ⟨rfl, rfl, rfl, rfl⟩

section
variable (faithful : connection.Faithful store)
include faithful

theorem Faithful.wake (active : Bool) : (connection.onDelivery (MailboxDelivery.wake active)).Faithful store := by
  refine faithful.onDelivery (fun delivery => (wake_record active delivery).1)
    (fun delivery => (wake_record active delivery).2.1) fun delivery bytes => ?_
  rw [(wake_record active delivery).2.2.1, (wake_record active delivery).2.2.2, bytes]

theorem Faithful.confirm (active : Bool) {sequence : Nat}
    (handled : ∃ messageId, .mailboxAck messageId sequence ∈ connection.handled) (counted : sequence ≤ store.lastRowid) :
    (connection.onDelivery (MailboxDelivery.confirm active sequence)).Faithful store := by
  refine ⟨faithful.increasing, faithful.own, fun none => ?_, fun early => ?_, fun welcomed none => ?_,
    faithful.acknowledging, fun delivery' known => ?_⟩
  · exact faithful.undelivered (Option.map_eq_none_iff.mp none)
  · exact Option.map_eq_none_iff.mpr (faithful.unwelcomed early)
  · exact faithful.welcomed welcomed (Option.map_eq_none_iff.mp none)
  obtain ⟨delivery, known', rfl⟩ := Option.map_eq_some_iff.mp known
  have kept := faithful.delivering delivery known'
  have confirmed : (delivery.confirmed sequence).Faithful store
      (connection.onDelivery (MailboxDelivery.confirm active sequence)) := by
    refine ⟨fun other member => ?_, max_le kept.bounded counted, ?_, fun row member host beyond reached => ?_⟩
    · exact (kept.reached other member).trans (le_max_left _ _)
    · have partition := sum_partition delivery.inflight sequence
      simp only [MailboxDelivery.confirmed, kept.bytes]
      omega
    · have either : row.sequence ≤ delivery.sentSequence ∨ row.sequence ≤ sequence := by
        simp only [MailboxDelivery.confirmed] at reached
        omega
      rcases either with early | late
      · exact kept.covered row member host beyond early
      · obtain ⟨messageId, event⟩ := handled
        exact .inr ⟨messageId, sequence, event, late⟩
  unfold MailboxDelivery.confirm
  split
  · exact ⟨kept.reached, kept.bounded, kept.bytes, kept.covered⟩
  obtain ⟨started, reached, bytes, inflight⟩ := wake_record active (delivery.confirmed sequence)
  refine ⟨?_, ?_, ?_, ?_⟩
  · rw [reached]
    exact confirmed.reached
  · rw [reached]
    exact confirmed.bounded
  · rw [bytes, inflight]
    exact confirmed.bytes
  · rw [started, reached]
    exact confirmed.covered

theorem Faithful.transmit (ordered : store.Ordered)
    (delivering : connection.delivery = some delivery) (opened : connection.socket = .open)
    {bytes : Nat} (next : store.nextAfter connection.hostId delivery.sentSequence = some message) :
    (connection.transmit message bytes).Faithful store := by
  obtain ⟨member, host, beyond, first⟩ := ordered.nextAfter next
  have kept := faithful.delivering delivery delivering
  have shown : connection.transmit message bytes = { connection with
      frames := connection.frames ++ [.mailboxMessage message.sequence]
      delivery := some (delivery.sent message bytes) } := by
    simp [HostConnection.transmit, HostConnection.send, HostConnection.onDelivery, opened, delivering]
  have sent : (connection.transmit message bytes).sentSequences = connection.sentSequences ++ [message.sequence] := by
    rw [shown]
    simp [sentSequences]
  refine ⟨?_, fun sequence listed => ?_, fun none => ?_, fun early => ?_, ?_, ?_, fun delivery' known => ?_⟩
  · rw [sent]
    refine pairwise_append.mpr ⟨faithful.increasing, pairwise_singleton _ _, fun sequence listed last only => ?_⟩
    rw [mem_singleton.mp only]
    exact (kept.reached sequence listed).trans_lt beyond
  · rw [sent] at listed
    rw [shown]
    rcases mem_append.mp listed with old | new
    · exact faithful.own sequence old
    · rw [mem_singleton.mp new]
      exact ⟨message, member, host, rfl⟩
  · rw [shown] at none
    cases none
  · rw [shown] at early
    rw [faithful.unwelcomed early] at delivering
    cases delivering
  · rw [shown]
    intro _ none
    cases none
  · rw [shown]
    exact faithful.acknowledging
  · have rest : (connection.transmit message bytes).hostId = connection.hostId ∧
        (connection.transmit message bytes).handled = connection.handled := by
      rw [shown]
      exact ⟨rfl, rfl⟩
    rw [shown, Option.some.injEq] at known
    subst known
    refine ⟨fun sequence listed => ?_, ordered.counted message member, ?_, fun row row_mem own after reached => ?_⟩
    · rw [sent] at listed
      rcases mem_append.mp listed with old | new
      · exact Nat.le_of_lt ((kept.reached sequence old).trans_lt beyond)
      · exact Nat.le_of_eq (mem_singleton.mp new)
    · simp [MailboxDelivery.sent, kept.bytes]
    · rw [sent]
      rw [rest.1] at own
      by_cases old : row.sequence ≤ delivery.sentSequence
      · refine (kept.covered row row_mem own after old).imp (mem_append_left _) ?_
        unfold HostConnection.Acknowledged
        rw [rest.2]
        exact id
      · have same : row.sequence = message.sequence :=
          Nat.le_antisymm reached (first row row_mem own (Nat.lt_of_not_le old))
        exact .inl (mem_append_right _ (mem_singleton.mpr same))

theorem Faithful.greeted (early : connection.initialized = false)
    (started : delivery.sentSequence = delivery.lastAcknowledgedSequence) (idle : delivery.inflight = [])
    (bytes : delivery.inflightBytes = 0) (bounded : delivery.sentSequence ≤ store.lastRowid) :
    (connection.greeted delivery).Faithful store := by
  have told : (connection.send (.welcome delivery.lastAcknowledgedSequence)).sentSequences = connection.sentSequences :=
    sentSequences_send nofun
  have none : connection.sentSequences = [] := faithful.undelivered (faithful.unwelcomed early)
  have nothing : (connection.greeted delivery).sentSequences = [] := told.trans none
  obtain ⟨handled, -, acknowledging, -⟩ := send_rest (.welcome delivery.lastAcknowledgedSequence) connection
  refine ⟨?_, ?_, nofun, nofun, fun _ => nofun, fun sequence member => ?_, fun delivery' known => ?_⟩
  · rw [nothing]
    exact List.Pairwise.nil
  · rw [nothing]
    exact fun _ => (nomatch ·)
  · simp only [HostConnection.greeted, handled, acknowledging] at member ⊢
    exact faithful.acknowledging sequence member
  cases known
  refine ⟨?_, bounded, ?_, fun row _ _ beyond reached => ?_⟩
  · rw [nothing]
    exact fun _ => (nomatch ·)
  · rw [idle, bytes]
    rfl
  · exact absurd (beyond.trans_le reached) (started ▸ Nat.lt_irrefl _)
end
end HostConnection
end PlanWeave
