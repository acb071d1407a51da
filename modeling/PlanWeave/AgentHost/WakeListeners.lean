import PlanWeave.AgentHost.Attendance

namespace PlanWeave
open HostConnection List MailboxDelivery MailboxListeners Option

namespace AgentHostServer
variable {server : AgentHostServer} {id : SessionId} {hostId : OpaqueId} {connection : HostConnection}
  {delivery : MailboxDelivery} {woken : List SessionId} {event : AgentHostEvent}

variable {store : MailboxStore}

section Frames

theorem stale_of_running (id : SessionId) (running : (server.connections id).any fun connection =>
    connection.delivery.any (!·.stopped)) : server.stale id = false := by
  cases found : server.connections id with
  | none => simp [found] at running
  | some connection =>
    cases delivering : connection.delivery with
    | none => simp [stale, found, delivering]
    | some =>
      simp only [found, delivering, any_some, Bool.not_eq_true'] at running
      simp [stale, found, delivering, running]

theorem Attended.failDelivery (attended : server.Attended (id :: woken)) (code : RejectionCode) :
    (server.failDelivery code id).Attended woken ∧
      server.mailbox.Keeps (some id) (server.failDelivery code id).mailbox := by
  unfold AgentHostServer.failDelivery
  split
  · rename_i none
    refine ⟨attended.fill fun connection _ found => ?_, .refl _ _⟩
    rw [none] at found
    cases found
  · rename_i connection found
    split
    · rename_i running
      obtain ⟨stopped, kept⟩ := attended.stopDelivery (stale_of_running id (by simpa [found] using running))
      have filled : (server.stopDelivery id).Attended woken := stopped.fill fun _ _ found' delivering running' => by
        rw [stopDelivery_quiet found' delivering] at running'
        cases running'
      exact ⟨filled.send id nofun, kept⟩
    · rename_i ended
      refine ⟨attended.fill fun connection' delivery found' delivering running => ?_, .refl _ _⟩
      obtain rfl : connection = connection' := Option.some.inj (found.symm.trans found')
      simp [delivering, running] at ended

theorem Attended.onMessage (attended : server.Attended woken) (id : SessionId) (frame : HostFrame) :
    (server.onMessage id frame).Attended woken ∧ (server.onMessage id frame).mailbox = server.mailbox := by
  unfold AgentHostServer.onMessage
  split
  · exact ⟨attended, rfl⟩
  · split
    · exact ⟨attended, rfl⟩
    · exact ⟨attended.withProcessing id _, rfl⟩

theorem Attended.withStore (attended : server.Attended woken) (ordered : store.Ordered)
    (grown : server.store.Grown store) : { server with store }.Attended woken := by
  refine { attended with
    sound := attended.sound.withStore store
    ordered := ordered
    published := fun sequence known => (attended.published sequence known).trans grown.counter
    attentive := fun id connection delivery found delivering running current rest => ?_
    faithful := fun id connection found => (attended.faithful id connection found).grown grown }
  refine (attended.attentive id connection delivery found delivering running current rest).imp_right ?_
  intro caught row' member host known
  rcases grown.fresh row' member with new | ⟨row, member', host', here⟩
  · exact absurd (attended.published row'.sequence known) (Nat.not_le_of_lt new)
  · rw [← here] at known ⊢
    exact caught row member' (host'.trans host) known

theorem serve_ordered (ordered : store.Ordered) (hostId : OpaqueId) (event : HostEvent) (verdict : ServiceVerdict) :
    (serve hostId event verdict store).1.Ordered ∧ store.Grown (serve hostId event verdict store).1 ∧
      ((serve hostId event verdict store).2 = none →
        ∀ messageId sequence, event = .mailboxAck messageId sequence → sequence ≤ store.lastRowid) := by
  cases event with
  | other => exact ⟨ordered, .refl store, fun _ _ _ same => by cases same⟩
  | mailboxAck _ sequence =>
    simp only [serve, acknowledge]
    cases verdict.inbox with
    | reused => exact ⟨ordered, .refl store, fun served => by cases served⟩
    | repeated =>
      cases found : store.row hostId sequence with
      | none => exact ⟨ordered, .refl store, fun served => by cases served⟩
      | some row =>
        refine ⟨ordered, .refl store, fun _ messageId' sequence' same => ?_⟩
        cases same
        obtain ⟨member, -, here⟩ := MailboxStore.row_mem found
        exact here ▸ ordered.counted row member
    | fresh =>
      cases done : store.acknowledgeSequence hostId sequence with
      | error => exact ⟨ordered, .refl store, fun served => by cases served⟩
      | ok =>
        obtain ⟨ordered', grown, counted⟩ := ordered.acknowledgeSequence done
        refine ⟨ordered', grown, fun _ messageId' sequence' same => ?_⟩
        cases same
        exact counted

theorem Attended.handleHostEvent (attended : server.Attended woken) (id : SessionId) (hostId : OpaqueId)
    (event : HostEvent) (verdict : ServiceVerdict) :
    (server.handleHostEvent id hostId event verdict).1.Attended woken ∧
      (server.handleHostEvent id hostId event verdict).1.mailbox = server.mailbox := by
  obtain ⟨ordered, grown, counted⟩ := serve_ordered attended.ordered hostId event verdict
  have called := (attended.withHandled id event).withStore ordered grown
  unfold AgentHostServer.handleHostEvent
  simp only [onConnection_store]
  split
  · exact ⟨called, rfl⟩
  rename_i accepted
  refine ⟨called.calm id (identical_acknowledgeEvent event) (fun connection _ => ?_) fun connection found faithful => ?_, rfl⟩
  · obtain ⟨-, delivery, -, -, socket, -⟩ := send_rest (.eventAck event.messageId) connection
    have host := (identical_send (.eventAck event.messageId)).hostId connection
    cases event with
    | mailboxAck => exact .of_same host (fun opened => socket ▸ opened) delivery
    | other => exact .of_same host (fun opened => socket ▸ opened) delivery
  · refine faithful.acknowledgeEvent ?_ fun messageId sequence same => ?_
    · obtain ⟨_, -, rfl⟩ := map_eq_some_iff.mp ((onConnection_self id _).symm.trans found)
      exact mem_append_right _ (mem_singleton.mpr rfl)
    · exact (counted accepted messageId sequence same).trans grown.counter

theorem helloCursor_bounded (ordered : store.Ordered) {acknowledged recovery cursor : Nat}
    (accepted : helloCursor hostId acknowledged recovery store = .ok cursor) : cursor ≤ store.lastRowid := by
  unfold helloCursor at accepted
  simp only at accepted
  split at accepted
  · cases accepted
  · split at accepted
    · cases accepted
    · cases accepted
      exact (Nat.min_le_left _ _).trans (ordered.cursor hostId)

section
variable (attended : server.Attended woken)
include attended

section
variable (owned : server.owner id = some hostId)
include owned

theorem Attended.subscribe : { server with mailbox := (server.mailbox.subscribe hostId id).1 }.Attended woken ∧
      server.mailbox.Keeps none (server.mailbox.subscribe hostId id).1 := by
  have kept : ∀ {other host' ref'}, server.mailbox.listeners host' = some ref' → other ∈ server.mailbox.sets ref' →
      (server.mailbox.subscribe hostId id).1.listeners host' = some ref' ∧
        other ∈ (server.mailbox.subscribe hostId id).1.sets ref' := by
    intro other host' ref' listed member
    refine subscribe_registered listed member fun same => ?_
    have known := attended.sound.registered host' ref' listed
    rw [same, owned, Option.some.injEq] at known
    rw [known, listed]
  refine ⟨{ attended with
    sound := attended.sound.subscribe owned
    registered := fun other connection delivery found delivering running => ?_ }, fun host' other _ member => ?_⟩
  · obtain ⟨listed, member⟩ := attended.registered other connection delivery found delivering running
    exact kept listed member
  · obtain ⟨ref', listed, member⟩ := mem_of.mp member
    obtain ⟨listed', member'⟩ := kept listed member
    exact mem_of.mpr ⟨ref', listed', member'⟩

section
variable (early : ∀ connection, server.connections id = some connection → connection.initialized = false)
include early

theorem Attended.welcome {cursor : Nat}
    (bounded : cursor ≤ server.store.lastRowid) : (server.welcome id hostId cursor).Attended woken ∧
      server.mailbox.Keeps none (server.welcome id hostId cursor).mailbox := by
  obtain ⟨subscribed, kept⟩ := attended.subscribe owned
  obtain ⟨listed, member⟩ := MailboxListeners.subscribed server.mailbox hostId id
  have inside : { server with mailbox := (server.mailbox.subscribe hostId id).1 }.owner
      (server.mailbox.subscribe hostId id).2 = some hostId := subscribe_owner attended.sound owned
  let delivery : MailboxDelivery :=
    { lastAcknowledgedSequence := cursor, sentSequence := cursor, confirmedSequence := cursor
      subscription := (server.mailbox.subscribe hostId id).2 }
  have same : ∀ connection, (HostConnection.greeted delivery connection).hostId = connection.hostId :=
    (identical_send (.welcome cursor)).hostId
  have greeted := (subscribed.weaken_cons id).onSession id (HostConnection.greeted delivery)
    (subscribed.sound.deliver owned inside same fun _ => rfl) ?_ ?_ ?_
  · refine ⟨greeted.wake, ?_⟩
    unfold AgentHostServer.welcome
    simp only [wake_mailbox]
    exact kept
  · rintro connection _ found ⟨⟩ -
    rw [same]
    have host : connection.hostId = hostId := Option.some.inj ((owner_of found).symm.trans owned)
    rw [host]
    exact ⟨listed, member⟩
  · intro _ _ _ _ _ _ rest
    exact absurd mem_cons_self rest
  · intro connection found
    exact (attended.faithful id connection found).greeted (early connection found) rfl rfl rfl bounded

theorem Attended.handleHello
    (frame : HostFrame) (verdict : ServiceVerdict) : (server.handleHello id hostId frame verdict).1.Attended woken ∧
      server.mailbox.Keeps none (server.handleHello id hostId frame verdict).1.mailbox := by
  unfold AgentHostServer.handleHello
  split
  · split
    · exact ⟨attended, .refl _ _⟩
    split
    · exact ⟨attended, .refl _ _⟩
    split
    · exact ⟨attended, .refl _ _⟩
    · rename_i cursor accepted
      split
      · exact attended.welcome owned early (helloCursor_bounded attended.ordered accepted)
      · exact ⟨attended, .refl _ _⟩
  · exact ⟨attended, .refl _ _⟩
end
end

theorem Attended.handleFrame (owned : server.owner id = some connection.hostId)
    (known : ∀ connection', server.connections id = some connection' → connection'.initialized = connection.initialized)
    (frame : HostFrame) (verdict : ServiceVerdict) : (server.handleFrame id connection frame verdict).1.Attended woken ∧
      server.mailbox.Keeps none (server.handleFrame id connection frame verdict).1.mailbox := by
  refine handleFrame_cases (motive := fun handled => handled.1.Attended woken ∧
    server.mailbox.Keeps none handled.1.mailbox) (fun _ _ => ⟨attended, .refl _ _⟩) (fun early => ?_) fun event _ => ?_
  · exact attended.handleHello owned (fun connection' found => (known connection' found).trans early) frame verdict
  · obtain ⟨handled, same⟩ := attended.handleHostEvent id connection.hostId event verdict
    exact ⟨handled, same ▸ .refl _ _⟩

theorem Attended.processFrame (spared : server.shutsOut id = false) (verdict : ServiceVerdict) :
    (server.processFrame id verdict).Attended woken ∧ server.mailbox.Keeps none (server.processFrame id verdict).mailbox := by
  refine processFrame_cases (motive := fun after => after.Attended woken ∧ server.mailbox.Keeps none after.mailbox)
    spared ⟨attended, .refl _ _⟩ (fun rest => ⟨attended.withProcessing id rest, .refl _ _⟩) ?_
  intro connection frame rest handled code found _ _ served
  have owned : (server.onConnection id (HostConnection.withProcessing rest)).owner id = some connection.hostId := by
    rw [owner_onConnection (identical_withProcessing rest).hostId, owner_of found]
  have known : ∀ connection', (server.onConnection id (HostConnection.withProcessing rest)).connections id =
      some connection' → connection'.initialized = connection.initialized := by
    intro connection' found'
    rw [onConnection_self, found, map_some, Option.some.injEq] at found'
    exact found' ▸ rfl
  have progress := (attended.withProcessing id rest).handleFrame owned known frame verdict
  rw [served] at progress
  obtain ⟨kept, listening⟩ := progress
  cases code with
  | none => exact ⟨kept, listening⟩
  | some => exact ⟨kept.send id nofun, listening⟩
end

theorem confirm_pending (active : Bool) (sequence : Nat) (delivery : MailboxDelivery) :
    (delivery.confirm active sequence).stopped = delivery.stopped ∧
      (delivery.confirm active sequence = delivery ∨ (delivery.confirm active sequence).Pending) := by
  unfold confirm
  split
  · exact ⟨rfl, .inl rfl⟩
  · rename_i news
    simp only [Bool.or_eq_true, not_or] at news
    obtain ⟨stopped, -, pending⟩ := wake_pending active (delivery.confirmed sequence)
    exact ⟨stopped, .inr (pending (by simpa using news.1))⟩

theorem calm_confirm (active : Bool) (sequence : Nat) (connection : HostConnection) :
    Calm connection (connection.onDelivery (confirm active sequence)) := by
  refine ⟨rfl, fun opened => opened, fun delivery' known running => ?_⟩
  obtain ⟨delivery, known', rfl⟩ := map_eq_some_iff.mp known
  obtain ⟨stopped, same | pending⟩ := confirm_pending active sequence delivery
  · exact ⟨delivery, known', stopped ▸ running, confirm_subscription active sequence delivery,
      .inr ⟨congrArg _ same, same.symm ▸ id⟩⟩
  · exact ⟨delivery, known', stopped ▸ running, confirm_subscription active sequence delivery, .inl pending⟩

theorem Attended.onEventAcknowledged (attended : server.Attended woken) {failed : Bool}
    (fresh : ∀ id', server.stops (.eventAcknowledged id failed) = some id' → server.stale id' = false) :
    (server.onEventAcknowledged id failed).Attended woken ∧
      server.mailbox.Keeps (server.stops (.eventAcknowledged id failed)) (server.onEventAcknowledged id failed).mailbox := by
  unfold AgentHostServer.onEventAcknowledged
  split
  · exact ⟨attended, .refl _ _⟩
  rename_i connection found
  split
  · exact ⟨attended, .refl _ _⟩
  rename_i sequence rest queued
  have member : sequence ∈ connection.acknowledging := queued ▸ mem_cons_self
  have called : (server.onConnection id (withAcknowledging rest)).Attended woken := by
    refine attended.calm id (identical_withAcknowledging rest)
      (fun _ _ => .of_same rfl (fun opened => opened) rfl) fun connection' found' faithful => ?_
    obtain rfl : connection = connection' := Option.some.inj (found.symm.trans found')
    refine faithful.withAcknowledging fun other listed => ?_
    exact faithful.acknowledging other (queued ▸ mem_cons_of_mem sequence listed)
  split
  · rename_i broken
    have stopping : server.stops (.eventAcknowledged id failed) = some id := by simp [stops, found, queued, broken]
    rw [stopping]
    refine called.onSocketError ?_
    exact (stale_onConnection server id (withAcknowledging rest) (fun _ => rfl) fun _ => rfl).trans
      (fresh id stopping)
  · refine ⟨called.calm id (identical_onDelivery (confirm_subscription _ _)) (fun before _ => calm_confirm _ _ before)
      fun before found' faithful => ?_, .refl _ _⟩
    obtain ⟨old, known, rfl⟩ := map_eq_some_iff.mp ((onConnection_self id _).symm.trans found')
    obtain rfl : connection = old := Option.some.inj (found.symm.trans known)
    obtain ⟨handled, counted⟩ := (attended.faithful id connection found).acknowledging sequence member
    exact faithful.confirm _ handled counted

end Frames

section Pump

theorem Attended.fired (attended : server.Attended woken) (id : SessionId) (update : MailboxDelivery → MailboxDelivery)
    (same : ∀ delivery, (update delivery).subscription = delivery.subscription ∧
      (update delivery).stopped = delivery.stopped ∧ (update delivery).sentSequence = delivery.sentSequence ∧
      (update delivery).lastAcknowledgedSequence = delivery.lastAcknowledgedSequence ∧
      (update delivery).inflight = delivery.inflight ∧ (update delivery).inflightBytes = delivery.inflightBytes) :
    (server.onConnection id (onDelivery update)).Attended (id :: woken) := by
  refine (attended.weaken_cons id).onSession id _
    (attended.sound.onConnection id (identical_onDelivery fun delivery => (same delivery).1)) ?_ ?_ ?_
  · intro connection delivery' found delivering running
    obtain ⟨delivery, known, rfl⟩ := map_eq_some_iff.mp delivering
    obtain ⟨subscription, stopped, -⟩ := same delivery
    rw [subscription]
    exact attended.registered id connection delivery found known (stopped ▸ running)
  · intro _ _ _ _ _ _ rest
    exact absurd mem_cons_self rest
  · intro connection found
    refine (attended.faithful id connection found).onDelivery (fun delivery => (same delivery).2.2.2.1)
      (fun delivery => (same delivery).2.2.1) fun delivery bytes => ?_
    rw [(same delivery).2.2.2.2.2, (same delivery).2.2.2.2.1, bytes]

theorem retryBuffer_pending (delivery : MailboxDelivery) :
    delivery.retryBuffer.Pending ∧ delivery.retryBuffer.stopped = delivery.stopped := by
  unfold MailboxDelivery.retryBuffer
  split
  · rename_i waiting
    exact ⟨.inr (.inl waiting), rfl⟩
  · exact ⟨.inr (.inl rfl), rfl⟩

theorem Attended.retryBuffer (attended : server.Attended (id :: woken)) :
    (server.onConnection id (onDelivery MailboxDelivery.retryBuffer)).Attended woken := by
  have delayed : (server.onConnection id (onDelivery MailboxDelivery.retryBuffer)).Attended (id :: woken) := by
    refine attended.calm id (identical_onDelivery retryBuffer_subscription) (fun connection _ => ?_)
      fun connection _ faithful => ?_
    · refine ⟨rfl, fun opened => opened, fun delivery' known running => ?_⟩
      obtain ⟨delivery, known', rfl⟩ := map_eq_some_iff.mp known
      obtain ⟨pending, stopped⟩ := retryBuffer_pending delivery
      exact ⟨delivery, known', stopped ▸ running, retryBuffer_subscription delivery, .inl pending⟩
    · refine faithful.onDelivery (fun delivery => ?_) (fun delivery => ?_) fun delivery bytes => ?_
      all_goals
        unfold MailboxDelivery.retryBuffer
        split
      all_goals first | rfl | exact bytes
  refine delayed.fill fun connection delivery found delivering _ _ => .inl ?_
  obtain ⟨_, -, rfl⟩ := map_eq_some_iff.mp ((onConnection_self id _).symm.trans found)
  obtain ⟨old, -, rfl⟩ := map_eq_some_iff.mp delivering
  exact (retryBuffer_pending old).1

theorem windowFull_inflight (full : MailboxDelivery.windowFull delivery = true)
    (bytes : delivery.inflightBytes = (delivery.inflight.map (·.2)).sum) : delivery.inflight ≠ [] := by
  intro empty
  rw [empty] at bytes
  simp [MailboxDelivery.windowFull, empty, bytes, maxInflightMessages, maxInflightBytes] at full

theorem Attended.pump (attended : server.Attended (id :: woken)) (connection' : HostConnection)
    (found : server.connections id = some connection) (delivering : connection.delivery = some delivery)
    (host : connection'.hostId = connection.hostId) (socket : connection'.socket = connection.socket)
    (running : connection'.delivery.any (!·.stopped) = !delivery.stopped) (bufferedAmount : Nat) :
    (server.pump id connection' delivery bufferedAmount).Attended woken ∧
      server.mailbox.Keeps (some id) (server.pump id connection' delivery bufferedAmount).mailbox := by
  have active : server.active id connection' = (server.current id connection && !delivery.stopped) := by
    simp only [AgentHostServer.active, AgentHostServer.current, host, socket, running]
  have attentive : (server.current id connection = true → delivery.stopped = false → delivery.Pending ∨
      ∀ row ∈ server.store.rows, row.hostId = connection.hostId → row.sequence ∈ server.published →
        row.sequence ≤ delivery.sentSequence) → server.Attended woken := by
    refine fun fact => attended.fill fun other delivery' found' delivering' running' current => ?_
    obtain rfl : connection = other := Option.some.inj (found.symm.trans found')
    obtain rfl : delivery = delivery' := Option.some.inj (delivering.symm.trans delivering')
    exact fact current running'
  have faithful := (attended.faithful id connection found).delivering delivery delivering
  unfold AgentHostServer.pump
  rw [active, host]
  split
  · rename_i idle
    refine ⟨attentive fun current running' => .inl (.inr (.inr ?_)), .refl _ _⟩
    refine windowFull_inflight ?_ faithful.bytes
    simpa [current, running'] using idle
  · rename_i ready
    have open' : server.current id connection = true ∧ delivery.stopped = false := by
      simp only [Bool.or_eq_true, not_or, Bool.not_eq_true', Bool.not_eq_false, Bool.and_eq_true] at ready
      exact ready.1
    split
    · exact ⟨attended.retryBuffer, .refl _ _⟩
    split
    · rename_i exhausted
      exact ⟨attentive fun _ _ => .inr fun row member own _ => MailboxStore.nextAfter_none exhausted row member own,
        .refl _ _⟩
    · rename_i message next
      split
      · exact attended.failDelivery _
      rename_i bytes _
      split
      · rename_i full
        exact ⟨attentive fun _ _ => .inl (.inr (.inr full.1)), .refl _ _⟩
      split
      · exact ⟨attended.retryBuffer, .refl _ _⟩
      have sent : (server.onConnection id (HostConnection.transmit message bytes)).Attended (id :: woken) := by
        refine attended.onSession id _ (attended.sound.onConnection id (identical_transmit message bytes)) ?_ ?_ ?_
        · intro before delivery' found' delivering' _
          obtain rfl : connection = before := Option.some.inj (found.symm.trans found')
          rw [(identical_transmit message bytes).hostId]
          have kept := (identical_transmit message bytes).subscription connection
          rw [delivering', delivering, map_some, map_some, Option.some.injEq] at kept
          rw [kept]
          exact attended.registered id connection delivery found delivering open'.2
        · intro _ _ _ _ _ _ rest
          exact absurd mem_cons_self rest
        · intro before found'
          obtain rfl : connection = before := Option.some.inj (found.symm.trans found')
          exact (attended.faithful id connection found).transmit attended.ordered delivering
            (current_iff.mp open'.1).2.2 next
      refine ⟨sent.wake, ?_⟩
      unfold AgentHostServer.transmit
      rw [wake_mailbox]
      exact .refl _ _

theorem Attended.onImmediate (attended : server.Attended woken) (id : SessionId) (bufferedAmount : Nat) :
    (server.onImmediate id bufferedAmount).Attended woken ∧
      server.mailbox.Keeps (some id) (server.onImmediate id bufferedAmount).mailbox := by
  unfold AgentHostServer.onImmediate
  split
  · exact ⟨attended, .refl _ _⟩
  rename_i connection found
  split
  · exact ⟨attended, .refl _ _⟩
  rename_i delivery delivering
  split
  · exact ⟨attended, .refl _ _⟩
  have fired := attended.fired id immediateFired fun _ => ⟨rfl, rfl, rfl, rfl, rfl, rfl⟩
  have found' : (server.onConnection id (onDelivery immediateFired)).connections id =
      some (connection.onDelivery immediateFired) := by
    rw [onConnection_self, found]
    rfl
  refine fired.pump connection found' (congrArg (Option.map _) delivering) rfl rfl ?_ bufferedAmount
  rw [delivering]
  rfl

theorem Attended.onRetry (attended : server.Attended woken) (id : SessionId) :
    (server.onRetry id).Attended woken ∧ (server.onRetry id).mailbox = server.mailbox := by
  unfold AgentHostServer.onRetry
  split
  · exact ⟨attended, rfl⟩
  · split
    · have fired := attended.fired id retryFired fun _ => ⟨rfl, rfl, rfl, rfl, rfl, rfl⟩
      exact ⟨fired.wake, wake_mailbox⟩
    · exact ⟨attended, rfl⟩

theorem Attended.wakeAll {members : List SessionId} (attended : server.Attended members) :
    (members.foldl (fun server id => server.wake id) server).Attended [] ∧
      (members.foldl (fun server id => server.wake id) server).mailbox = server.mailbox := by
  induction members generalizing server with
  | nil => exact ⟨attended, rfl⟩
  | cons _ _ ih =>
    obtain ⟨woken, same⟩ := ih attended.wake
    exact ⟨woken, same.trans wake_mailbox⟩

theorem Attended.publish (attended : server.Attended []) (messageId : OpaqueId) :
    (server.publish messageId).Attended [] ∧ (server.publish messageId).mailbox = server.mailbox := by
  unfold AgentHostServer.publish
  split
  · exact ⟨attended, rfl⟩
  rename_i message stored
  have member : message ∈ server.store.rows := mem_of_find?_eq_some stored
  refine Attended.wakeAll { attended with
    sound := ⟨attended.sound.fresh, attended.sound.session, attended.sound.subscription, attended.sound.registered,
      attended.sound.members⟩
    published := fun sequence known => ?_
    attentive := fun id connection delivery found delivering running current rest => ?_ }
  · rcases mem_append.mp known with old | new
    · exact attended.published sequence old
    · rw [mem_singleton.mp new]
      exact attended.ordered.counted message member
  · obtain ⟨listed, listening⟩ := attended.registered id connection delivery found delivering running
    refine (attended.attentive id connection delivery found delivering running current not_mem_nil).imp_right ?_
    intro caught row row_mem host known
    rcases mem_append.mp known with old | new
    · exact caught row row_mem host old
    · have same : row = message := attended.ordered.unique row_mem member (mem_singleton.mp new)
      refine absurd (mem_of.mpr ⟨delivery.subscription, ?_, listening⟩) rest
      rw [← same, host]
      exact listed

end Pump

theorem Attended.enqueue (attended : server.Attended woken) (messageId hostId : OpaqueId) (command : MailboxCommand) :
    (server.enqueue messageId hostId command).Attended woken ∧
      (server.enqueue messageId hostId command).mailbox = server.mailbox := by
  unfold AgentHostServer.enqueue
  split
  · rename_i store stored
    obtain ⟨ordered, grown⟩ := attended.ordered.enqueueOnce stored
    exact ⟨attended.withStore ordered grown, rfl⟩
  · exact ⟨attended, rfl⟩

theorem Attended.revoke (attended : server.Attended woken) (hostId : OpaqueId) : (server.revoke hostId).Attended woken := by
  have ordered := attended.ordered
  have grown := MailboxStore.Grown.refl server.store
  exact attended.withStore ⟨ordered.increasing, ordered.counted, ordered.cursor⟩ ⟨grown.kept, grown.fresh, grown.counter⟩

/-- A step that stops no delivery a second time while its host listens through a later set, and that reads no message
of an incompatible version before a hello. -/
def orderly (server : AgentHostServer) (event : AgentHostEvent) : Bool :=
  (server.stops event).all (!server.stale ·) &&
    match event with
    | .process id _ => !server.shutsOut id
    | _ => true

theorem not_stale (orderly : server.orderly event = true) (stopped : server.stops event = some id) :
    server.stale id = false := by
  simpa [stopped] using (Bool.and_eq_true_iff.mp orderly).1

theorem Attended.step (attended : server.Attended []) (orderly : server.orderly event = true) :
    (server.step event).Attended [] ∧ server.mailbox.Keeps (server.mayStop event) (server.step event).mailbox := by
  have fresh : ∀ id, server.stops event = some id → server.stale id = false := fun _ => not_stale orderly
  cases event with
  | connect hostId exact' historical =>
    obtain ⟨superseded, kept⟩ := attended.supersede fresh
    exact ⟨superseded.accept hostId exact' historical, kept⟩
  | message id frame =>
    obtain ⟨queued, same⟩ := attended.onMessage id frame
    exact ⟨queued, same ▸ .refl _ _⟩
  | process _ verdict => exact attended.processFrame (by simpa [AgentHostServer.orderly, stops] using orderly) verdict
  | eventAcknowledged => exact attended.onEventAcknowledged fresh
  | sendFailed id => exact (attended.weaken_cons id).failDelivery .service
  | immediate id bufferedAmount => exact attended.onImmediate id bufferedAmount
  | retry id =>
    obtain ⟨woken, same⟩ := attended.onRetry id
    exact ⟨woken, same ▸ .refl _ _⟩
  | helloTimeout id => exact ⟨attended.helloTimeout id, .refl _ _⟩
  | ping id => exact ⟨attended.ping id, .refl _ _⟩
  | pong id => exact ⟨attended.pong id, .refl _ _⟩
  | socketError id => exact attended.onSocketError (fresh id rfl)
  | socketClosed => exact attended.onSocketClosed fresh
  | enqueue messageId hostId command =>
    obtain ⟨stored, same⟩ := attended.enqueue messageId hostId command
    exact ⟨stored, same ▸ .refl _ _⟩
  | publish messageId =>
    obtain ⟨woken, same⟩ := attended.publish messageId
    exact ⟨woken, same ▸ .refl _ _⟩
  | revoke hostId => exact ⟨attended.revoke hostId, .refl _ _⟩
  | disconnectHost => exact attended.disconnectHost fresh

def orderlyRun : AgentHostServer → List AgentHostEvent → Bool
  | _, [] => true
  | server, event :: events => server.orderly event && orderlyRun (server.step event) events

theorem Attended.run (attended : server.Attended []) {events : List AgentHostEvent}
    (orderly : orderlyRun server events = true) : (server.run events).Attended [] := by
  induction events generalizing server with
  | nil => exact attended
  | cons _ _ ih =>
    obtain ⟨now, later⟩ := Bool.and_eq_true_iff.mp orderly
    exact ih (attended.step now).1 later

/-- A server process that was just started over a mailbox: all that the mailbox holds was published before. -/
def started (store : MailboxStore) : AgentHostServer := { store, published := store.rows.map (·.sequence) }

theorem attended_started (ordered : store.Ordered) : (started store).Attended [] where
  sound := ⟨fun _ _ => rfl, fun _ _ => (nomatch ·), fun _ _ _ => (nomatch ·), fun _ _ => (nomatch ·),
    fun _ _ => (nomatch ·)⟩
  ordered := ordered
  opened := rfl
  published sequence known := by
    obtain ⟨row, member, rfl⟩ := mem_map.mp known
    exact ordered.counted row member
  registered _ _ _ := nofun
  attentive _ _ _ := nofun
  faithful _ _ := nofun

theorem Attended.behind (attended : server.Attended woken) (found : server.connections id = some connection)
    (delivering : connection.delivery = some delivery) {row : MailboxMessage} (member : row ∈ server.store.rows)
    (own : row.hostId = connection.hostId) (reached : row.sequence ≤ delivery.sentSequence) :
    row.sequence ≤ delivery.lastAcknowledgedSequence ∨ row.sequence ∈ connection.sentSequences ∨
      connection.Acknowledged row.sequence := by
  have kept := (attended.faithful id connection found).delivering delivery delivering
  rcases Nat.lt_or_ge delivery.lastAcknowledgedSequence row.sequence with beyond | behind
  · exact .inr (kept.covered row member own beyond reached)
  · exact .inl behind

/-- In a run of orderly steps the current session of a host listens until it is stopped, whatever was published has a
wake, a retry or an acknowledgement to wait for until it is sent, each session sends the rows of its host in order
without a gap, and no step unregisters a session that it does not stop. -/
theorem wakes_are_never_lost {store : MailboxStore} (ordered : store.Ordered) (events : List AgentHostEvent)
    (orderly : orderlyRun (started store) events = true) :
    let server := (started store).run events
    (∀ hostId id connection, server.sessions hostId = some id → server.connections id = some connection →
      connection.sessionInitialized = true →
      ∃ delivery, connection.delivery = some delivery ∧
        (delivery.stopped = false → id ∈ server.mailbox.of hostId ∧
          (connection.socket = .open → delivery.Pending ∨
            ∀ row ∈ server.store.rows, row.hostId = hostId → row.sequence ∈ server.published →
              row.sequence ≤ delivery.lastAcknowledgedSequence ∨ row.sequence ∈ connection.sentSequences ∨
                connection.Acknowledged row.sequence))) ∧
    (∀ id connection, server.connections id = some connection →
      connection.sentSequences.Pairwise (· < ·) ∧
      (∀ sequence ∈ connection.sentSequences,
        ∃ row ∈ server.store.rows, row.hostId = connection.hostId ∧ row.sequence = sequence) ∧
      ∀ delivery row, connection.delivery = some delivery → row ∈ server.store.rows → row.hostId = connection.hostId →
        (∃ sequence ∈ connection.sentSequences, row.sequence ≤ sequence) →
        row.sequence ≤ delivery.lastAcknowledgedSequence ∨ row.sequence ∈ connection.sentSequences ∨
          connection.Acknowledged row.sequence) ∧
    ∀ event, server.orderly event = true → server.mailbox.Keeps (server.mayStop event) (server.step event).mailbox := by
  intro server
  have attended : server.Attended [] := (attended_started ordered).run orderly
  refine ⟨fun hostId id connection listed found welcomed => ?_, fun id connection found => ?_,
    fun event next => (attended.step next).2⟩
  · have host : connection.hostId = hostId :=
      Option.some.inj ((owner_of found).symm.trans (attended.sound.session hostId id listed))
    obtain ⟨delivery, delivering⟩ := ne_none_iff_exists'.mp ((attended.faithful id connection found).welcomed welcomed)
    refine ⟨delivery, delivering, fun running => ⟨?_, fun opened => ?_⟩⟩
    · obtain ⟨registered, member⟩ := attended.registered id connection delivery found delivering running
      exact mem_of.mpr ⟨delivery.subscription, host ▸ registered, member⟩
    have current : server.current id connection = true := current_iff.mpr ⟨attended.opened, host ▸ listed, opened⟩
    refine (attended.attentive id connection delivery found delivering running current not_mem_nil).imp_right ?_
    intro caught row member own known
    have own' : row.hostId = connection.hostId := own.trans host.symm
    exact attended.behind found delivering member own' (caught row member own' known)
  · have faithful := attended.faithful id connection found
    refine ⟨faithful.increasing, faithful.own, ?_⟩
    rintro delivery _ delivering member own ⟨sequence, sent, earlier⟩
    refine attended.behind found delivering member own ?_
    exact earlier.trans ((faithful.delivering delivery delivering).reached sequence sent)

def wakeHost : OpaqueId := ⟨"host-awake", by decide⟩
def wakeMessage : OpaqueId := ⟨"message-awake", by decide⟩

def reconnection : List AgentHostEvent :=
  [.connect wakeHost true true, .message 0 (.hello true 0 0), .process 0 {}, .immediate 0 0, .connect wakeHost true true,
    .message 1 (.hello true 0 0), .process 1 {}, .immediate 1 0]

theorem superseded_session_is_replaced :
    let server := (started {}).run reconnection
    ∃ connection, server.connections 1 = some connection ∧
      ∃ delivery, connection.delivery = some delivery ∧ 1 ∈ server.mailbox.of wakeHost ∧
        (server.step (.enqueue wakeMessage wakeHost ⟨.current, 40⟩)).mailbox.of wakeHost = [1] := by
  intro server
  obtain ⟨listening, -, -⟩ := wakes_are_never_lost MailboxStore.ordered_empty reconnection (by decide)
  obtain ⟨connection, found⟩ : ∃ connection, server.connections 1 = some connection :=
    isSome_iff_exists.mp (by decide)
  have welcomed : (server.connections 1).any (·.sessionInitialized) = true := by decide
  have running : (server.connections 1).all (fun connection => connection.delivery.all (!·.stopped)) = true := by decide
  rw [found] at welcomed running
  obtain ⟨delivery, delivering, registered⟩ := listening wakeHost 1 connection (by decide) found welcomed
  refine ⟨connection, found, delivery, delivering, (registered ?_).1, by decide⟩
  simpa [delivering] using running

def lateClose : AgentHostServer := (started {}).run (reconnection ++ [.socketClosed 0,
  .enqueue wakeMessage wakeHost ⟨.current, 40⟩, .publish wakeMessage])

/-- The set of the second session is dropped, and its message waits for nothing. -/
theorem closed_socket_unregisters_the_next_session :
    lateClose.sessions wakeHost = some 1 ∧ lateClose.mailbox.of wakeHost = [] ∧ lateClose.published = [1] ∧
    (lateClose.connections 1).map (fun connection => (connection.socket, connection.sessionInitialized)) =
      some (.open, true) ∧
    ((lateClose.connections 1).bind (·.delivery)).map (fun delivery =>
      (delivery.stopped, delivery.scheduled, delivery.retry)) = some (false, false, false) ∧
    ((lateClose.connections 1).bind (·.delivery)).map (fun delivery => (delivery.inflight, delivery.sentSequence)) =
      some ([], 0) := by
  decide

end AgentHostServer
end PlanWeave
