import PlanWeave.AgentHost.SessionViews

namespace PlanWeave
open Function HostConnection List Option

namespace AgentHostEvent

def connectedHost : AgentHostEvent → Option OpaqueId
  | connect hostId _ _ => some hostId
  | _ => none

def connectedHosts (events : List AgentHostEvent) : List OpaqueId := events.filterMap connectedHost

def session : AgentHostEvent → Option SessionId
  | connect .. | enqueue .. | publish _ | revoke _ | disconnectHost _ => none
  | message id _ | process id _ | eventAcknowledged id _ | sendFailed id | immediate id _ | retry id
  | helloTimeout id | ping id | pong id | socketError id | socketClosed id => some id

/-- Whether the host takes part in an event, with the hosts of the sessions. The messages, acknowledgements, timers,
closes and disconnects of another host are not among these events. -/
def concerns (viewer : OpaqueId) (hosts : SessionId → Option OpaqueId) (event : AgentHostEvent) : Bool :=
  match event.session with
  | some id => hosts id = some viewer
  | none =>
    match event with
    | revoke hostId | disconnectHost hostId => hostId = viewer
    | _ => true

def perceived (viewer : OpaqueId) (events : List AgentHostEvent) : List AgentHostEvent :=
  events.filter (concerns viewer fun id => (connectedHosts events)[id]?)

end AgentHostEvent

namespace AgentHostServer
variable {viewer hostId : OpaqueId} {left right server : AgentHostServer} {id other : SessionId}
  {connection : HostConnection} {change : HostConnection → HostConnection}

variable {event : AgentHostEvent} {members : List SessionId} {hosts : SessionId → Option OpaqueId}
variable {events : List AgentHostEvent}

theorem owner_accepted : (server.accept connection).owner id =
    if id = server.nextSession then some connection.hostId else server.owner id := by
  by_cases here : id = server.nextSession
  · simp [AgentHostServer.owner, AgentHostServer.accept, here]
  · simp [AgentHostServer.owner, AgentHostServer.accept, here]

section Own

section
variable (alike : left.Alike viewer right)
include alike

theorem Alike.onConnection (id : SessionId)
    (same : ∀ connection, (change connection).hostId = connection.hostId) :
    (left.onConnection id change).Alike viewer (right.onConnection id change) where
  closing := alike.closing
  nextSession := alike.nextSession
  owner other := by
    rw [owner_onConnection same, owner_onConnection same]
    exact alike.owner other
  session := alike.session
  connection other own := by
    rw [owner_onConnection same] at own
    by_cases here : other = id
    · subst here
      rw [onConnection_self, onConnection_self, alike.connection other own]
    · rw [onConnection_other here, onConnection_other here, alike.connection other own]
  listener := alike.listener
  set ref own := alike.set ref (by rwa [owner_onConnection same] at own)
  store := alike.store

theorem Alike.withStore {left' right' : MailboxStore} (stores : left'.Alike viewer right') :
    { left with store := left' }.Alike viewer { right with store := right' } :=
  ⟨alike.closing, alike.nextSession, alike.owner, alike.session, alike.connection, alike.listener, alike.set, stores⟩

theorem Alike.shut : { left with closing := true }.Alike viewer { right with closing := true } :=
  ⟨rfl, alike.nextSession, alike.owner, alike.session, alike.connection, alike.listener, alike.set, alike.store⟩

theorem Alike.withSession (session : Option SessionId) :
    { left with sessions := update left.sessions viewer session }.Alike viewer
      { right with sessions := update right.sessions viewer session } :=
  ⟨alike.closing, alike.nextSession, alike.owner, by simp, alike.connection, alike.listener, alike.set, alike.store⟩

theorem Alike.unsubscribe {ref : SessionId} (own : left.owner ref = some viewer) :
    { left with mailbox := left.mailbox.unsubscribe viewer ref id }.Alike viewer
      { right with mailbox := right.mailbox.unsubscribe viewer ref id } where
  closing := alike.closing
  nextSession := alike.nextSession
  owner := alike.owner
  session := alike.session
  connection := alike.connection
  listener := by
    simp only [MailboxListeners.unsubscribe, alike.set ref own]
    split
    · simp
    · exact alike.listener
  set other own' := by
    simp only [MailboxListeners.unsubscribe, alike.set ref own]
    by_cases here : other = ref
    · simp [here]
    · rw [update_of_ne here, update_of_ne here]
      exact alike.set other own'
  store := alike.store

theorem Alike.subscribe (sound : left.Sound) (own : left.owner id = some viewer) :
    (left.mailbox.subscribe viewer id).2 = (right.mailbox.subscribe viewer id).2 ∧
    { left with mailbox := (left.mailbox.subscribe viewer id).1 }.Alike viewer
      { right with mailbox := (right.mailbox.subscribe viewer id).1 } := by
  have same : left.mailbox.sets ((left.mailbox.listeners viewer).getD id) =
      right.mailbox.sets ((left.mailbox.listeners viewer).getD id) := alike.set _ (subscribe_owner sound own)
  refine ⟨by simp [MailboxListeners.subscribe, alike.listener], alike.closing, alike.nextSession, alike.owner,
    alike.session, alike.connection, by simp [MailboxListeners.subscribe, alike.listener], fun ref own' => ?_, alike.store⟩
  simp only [MailboxListeners.subscribe, ← alike.listener]
  by_cases here : ref = (left.mailbox.listeners viewer).getD id
  · rw [here, update_self, update_self, same]
  · rw [update_of_ne here, update_of_ne here]
    exact alike.set ref own'
end

/-- Two states of the server that one host cannot tell apart, and one of its sessions. -/
structure Own (viewer : OpaqueId) (id : SessionId) (left right : AgentHostServer) : Prop where
  sound : left.Sound
  owned : left.owner id = some viewer
  alike : left.Alike viewer right

section
variable (alike : left.Alike viewer right)
include alike

theorem Alike.found (owned : left.owner id = some viewer) :
    ∃ connection, left.connections id = some connection ∧ right.connections id = some connection ∧
      connection.hostId = viewer := by
  obtain ⟨connection, found, host⟩ := map_eq_some_iff.mp owned
  exact ⟨connection, found, (alike.connection id owned).symm.trans found, host⟩

theorem Alike.current (host : connection.hostId = viewer) :
    left.current id connection = right.current id connection := by
  simp only [AgentHostServer.current, alike.closing, host, alike.session]

theorem Alike.active (host : connection.hostId = viewer) : left.active id connection = right.active id connection := by
  simp only [AgentHostServer.active, alike.current host]

theorem Alike.wake (owned : left.owner id = some viewer) : (left.wake id).Alike viewer (right.wake id) := by
  obtain ⟨_, found, found', host⟩ := alike.found owned
  simp only [AgentHostServer.wake, found, found', alike.active host]
  exact alike.onConnection id fun _ => rfl
end

section
variable (own : Own viewer id left right)
include own

theorem Own.next {left' right' : AgentHostServer} (serves : Serves id left left') (alike : left'.Alike viewer right') :
    Own viewer id left' right' :=
  ⟨serves.sound, (serves.same.owner id).trans own.owned, alike⟩

theorem Own.found : ∃ connection, left.connections id = some connection ∧ right.connections id = some connection ∧
    connection.hostId = viewer :=
  own.alike.found own.owned

theorem Own.onConnection (same : Identical change) :
    Own viewer id (left.onConnection id change) (right.onConnection id change) :=
  own.next (own.sound.serves.onConnection same) (own.alike.onConnection id same.hostId)

theorem Own.stopDelivery : Own viewer id (left.stopDelivery id) (right.stopDelivery id) := by
  refine own.next own.sound.serves.stopDelivery ?_
  obtain ⟨connection, found, found', host⟩ := own.found
  simp only [AgentHostServer.stopDelivery, found, found', host]
  cases delivering : connection.delivery with
  | none => exact own.alike
  | some delivery =>
    refine (own.alike.onConnection id identical_stopDelivery.hostId).unsubscribe ?_
    rw [owner_onConnection identical_stopDelivery.hostId, ← host]
    exact own.sound.subscription id connection delivery found delivering

theorem Own.stopSessionWork : Own viewer id (left.stopSessionWork id) (right.stopSessionWork id) :=
  (own.onConnection identical_clearTimers).stopDelivery

theorem Own.wake : Own viewer id (left.wake id) (right.wake id) :=
  own.next own.sound.serves.wake (own.alike.wake own.owned)

theorem Own.failDelivery (code : RejectionCode) :
    Own viewer id (left.failDelivery code id) (right.failDelivery code id) := by
  obtain ⟨_, found, found', _⟩ := own.found
  simp only [AgentHostServer.failDelivery, found, found']
  split
  · exact own.stopDelivery.onConnection (identical_send _)
  · exact own

theorem Own.onSocketError : Own viewer id (left.onSocketError id) (right.onSocketError id) :=
  own.stopSessionWork.onConnection identical_terminate

theorem Own.onSocketClosed : (left.onSocketClosed id).Alike viewer (right.onSocketClosed id) := by
  obtain ⟨connection, found, found', host⟩ := own.found
  have stopped := (own.stopSessionWork.onConnection identical_closed).alike
  have listed := stopped.session
  simp only [AgentHostServer.onSocketClosed, found, found', host]
  split
  · exact own.alike
  · rw [← listed]
    split
    · exact stopped.withSession none
    · exact stopped

theorem Own.onMessage (frame : HostFrame) : Own viewer id (left.onMessage id frame) (right.onMessage id frame) := by
  obtain ⟨_, found, found', -⟩ := own.found
  simp only [AgentHostServer.onMessage, found, found', own.alike.closing]
  split
  · exact own
  · exact own.onConnection (identical_withProcessing _)
end

theorem Alike.disconnectHost (alike : left.Alike viewer right) (sound : left.Sound) :
    (left.disconnectHost viewer).Alike viewer (right.disconnectHost viewer) := by
  unfold AgentHostServer.disconnectHost
  rw [← alike.session]
  split
  · exact alike
  · rename_i id listed
    have own : Own viewer id left right := ⟨sound, sound.session viewer id listed, alike⟩
    exact ((own.onConnection identical_uninitialized).stopSessionWork.onConnection (identical_close 4003)).alike

theorem Alike.serve {left right : MailboxStore} (alike : left.Alike viewer right) (event : HostEvent)
    (verdict : ServiceVerdict) : (serve viewer event verdict left).2 = (serve viewer event verdict right).2 ∧
      (serve viewer event verdict left).1.Alike viewer (serve viewer event verdict right).1 := by
  cases event with
  | other => exact ⟨rfl, alike⟩
  | mailboxAck _ sequence =>
    simp only [AgentHostServer.serve, acknowledge]
    cases verdict.inbox with
    | reused => exact ⟨rfl, alike⟩
    | repeated =>
      rw [← alike.row sequence]
      cases left.row viewer sequence with
      | none => exact ⟨rfl, alike⟩
      | some => exact ⟨rfl, alike⟩
    | fresh =>
      rcases alike.acknowledgeSequence sequence with ⟨_, refused, refused'⟩ | ⟨_, _, done, done', kept⟩
      · rw [refused, refused']
        exact ⟨rfl, alike⟩
      · rw [done, done']
        exact ⟨rfl, kept⟩

theorem Alike.handleHostEvent (alike : left.Alike viewer right) (id : SessionId) (event : HostEvent)
    (verdict : ServiceVerdict) : (left.handleHostEvent id viewer event verdict).2 =
        (right.handleHostEvent id viewer event verdict).2 ∧
      (left.handleHostEvent id viewer event verdict).1.Alike viewer (right.handleHostEvent id viewer event verdict).1 := by
  obtain ⟨same, stored⟩ := Alike.serve alike.store event verdict
  have called := (alike.onConnection id (identical_withHandled event).hostId).withStore stored
  unfold AgentHostServer.handleHostEvent
  simp only [onConnection_store, ← same]
  cases (AgentHostServer.serve viewer event verdict left.store).2 with
  | some => exact ⟨rfl, called⟩
  | none => exact ⟨rfl, called.onConnection id (identical_acknowledgeEvent event).hostId⟩

theorem Alike.helloCursor {left right : MailboxStore} (alike : left.Alike viewer right) (acknowledged recovery : Nat) :
    helloCursor viewer acknowledged recovery left = helloCursor viewer acknowledged recovery right := by
  simp only [AgentHostServer.helloCursor, alike.cursor, alike.hasAcknowledgedSequence]

section
variable (own : Own viewer id left right)
include own

theorem Own.welcome (cursor : Nat) : (left.welcome id viewer cursor).Alike viewer (right.welcome id viewer cursor) := by
  obtain ⟨same, subscribed⟩ := own.alike.subscribe own.sound own.owned
  unfold AgentHostServer.welcome
  simp only [← same]
  refine (subscribed.onConnection id (greeted_hostId _)).wake ?_
  rw [owner_onConnection (greeted_hostId _)]
  exact own.owned

theorem Own.handleHello (frame : HostFrame) (verdict : ServiceVerdict) :
    (left.handleHello id viewer frame verdict).2 = (right.handleHello id viewer frame verdict).2 ∧
      (left.handleHello id viewer frame verdict).1.Alike viewer (right.handleHello id viewer frame verdict).1 := by
  have idle := own.alike
  unfold AgentHostServer.handleHello
  split
  · rw [← Alike.helloCursor idle.store]
    split
    · exact ⟨rfl, idle⟩
    split
    · exact ⟨rfl, idle⟩
    split
    · exact ⟨rfl, idle⟩
    · split
      · exact ⟨rfl, own.welcome _⟩
      · exact ⟨rfl, idle⟩
  · exact ⟨rfl, idle⟩

theorem Own.handleFrame (host : connection.hostId = viewer) (frame : HostFrame) (verdict : ServiceVerdict) :
    (left.handleFrame id connection frame verdict).2 = (right.handleFrame id connection frame verdict).2 ∧
      Own viewer id (left.handleFrame id connection frame verdict).1 (right.handleFrame id connection frame verdict).1 := by
  suffices handled : _ ∧ Alike viewer _ _ from
    ⟨handled.1, own.next (own.sound.serves.handleFrame (own.owned.trans (congrArg some host.symm)) frame verdict) handled.2⟩
  have idle := own.alike
  unfold AgentHostServer.handleFrame
  rw [host]
  split
  · exact ⟨rfl, idle⟩
  · exact ⟨rfl, idle⟩
  · exact ⟨rfl, idle⟩
  split
  · exact own.handleHello frame verdict
  split
  · split
    · exact ⟨rfl, idle⟩
    · split
      · exact ⟨rfl, idle⟩
      · exact idle.handleHostEvent id _ verdict
  · exact idle.handleHostEvent id _ verdict
  · exact ⟨rfl, idle⟩

theorem Own.reject (code : RejectionCode) : (left.reject id code).Alike viewer (right.reject id code) := by
  have told := own.onConnection (identical_send (.protocolError code))
  have shut : Own viewer id { left.onConnection id (send (.protocolError code)) with closing := true }
      { right.onConnection id (send (.protocolError code)) with closing := true } :=
    ⟨told.sound.shut, told.owned, told.alike.shut⟩
  unfold AgentHostServer.reject
  simp only [← own.alike.connection id own.owned]
  split
  · exact (shut.stopSessionWork.onConnection (identical_close 4003)).alike
  · exact told.alike

theorem Own.processFrame (verdict : ServiceVerdict) :
    (left.processFrame id verdict).Alike viewer (right.processFrame id verdict) := by
  obtain ⟨connection, found, found', host⟩ := own.found
  simp only [AgentHostServer.processFrame, found, found', own.alike.current host]
  split
  · exact own.alike
  rename_i frame rest _
  have taken := own.onConnection (identical_withProcessing rest)
  obtain ⟨same, handled⟩ := taken.handleFrame host frame verdict
  split
  · exact taken.alike
  generalize (left.onConnection id (withProcessing rest)).handleFrame id connection frame verdict =
    served at same handled ⊢
  generalize (right.onConnection id (withProcessing rest)).handleFrame id connection frame verdict =
    served' at same handled ⊢
  obtain ⟨_, code⟩ := served
  obtain ⟨_, code'⟩ := served'
  obtain rfl : code = code' := same
  cases code with
  | none => exact handled.alike
  | some code => exact handled.reject code

theorem Own.onEventAcknowledged (failed : Bool) :
    Own viewer id (left.onEventAcknowledged id failed) (right.onEventAcknowledged id failed) := by
  obtain ⟨_, found, found', host⟩ := own.found
  simp only [AgentHostServer.onEventAcknowledged, found, found', own.alike.active host]
  split
  · exact own
  have called := own.onConnection (identical_withAcknowledging ‹List Nat›)
  split
  · exact called.onSocketError
  · exact called.onConnection (identical_onDelivery (confirm_subscription _ _))

theorem Own.pump (host : connection.hostId = viewer) (delivery : MailboxDelivery) (bufferedAmount : Nat) :
    Own viewer id (left.pump id connection delivery bufferedAmount)
      (right.pump id connection delivery bufferedAmount) := by
  have delayed := own.onConnection (identical_onDelivery retryBuffer_subscription)
  unfold AgentHostServer.pump
  rw [host, ← own.alike.active host, ← own.alike.store.nextAfter]
  split
  · exact own
  split
  · exact delayed
  split
  · exact own
  split
  · exact own.failDelivery _
  split
  · exact own
  · split
    · exact delayed
    · exact (own.onConnection (identical_transmit _ _)).wake

theorem Own.onImmediate (bufferedAmount : Nat) :
    Own viewer id (left.onImmediate id bufferedAmount) (right.onImmediate id bufferedAmount) := by
  obtain ⟨_, found, found', host⟩ := own.found
  simp only [AgentHostServer.onImmediate, found, found']
  split
  · exact own
  split
  · exact own
  · exact (own.onConnection identical_immediateFired).pump host _ bufferedAmount

theorem Own.onRetry : Own viewer id (left.onRetry id) (right.onRetry id) := by
  obtain ⟨_, found, found', _⟩ := own.found
  simp only [AgentHostServer.onRetry, found, found']
  split
  · exact (own.onConnection identical_retryFired).wake
  · exact own
end

theorem Alike.supersede (alike : left.Alike viewer right) (sound : left.Sound) (sound' : right.Sound)
    (hostId : OpaqueId) : (left.supersede hostId).Alike viewer (right.supersede hostId) := by
  by_cases same : hostId = viewer
  · subst same
    unfold AgentHostServer.supersede
    rw [← alike.session]
    split
    · exact alike
    · rename_i prior listed
      have own : Own hostId prior left right := ⟨sound, sound.session hostId prior listed, alike⟩
      exact (own.stopSessionWork.onConnection (identical_close 4001)).alike
  · exact (((sound.supersede hostId).2 viewer same).symm.trans alike).trans ((sound'.supersede hostId).2 viewer same)

theorem Sound.unopened (sound : server.Sound) (unknown : server.owner id = none) : server.mailbox.sets id = [] := by
  refine eq_nil_iff_forall_not_mem.mpr fun other member => ?_
  have opened := (sound.members id other member).2
  rw [unknown] at opened
  cases opened

section
variable (alike : left.Alike viewer right)
include alike

theorem Alike.accept (sound : left.Sound) (sound' : right.Sound) (connection : HostConnection) :
    (left.accept connection).Alike viewer (right.accept connection) := by
  refine ⟨alike.closing, congrArg (· + 1) alike.nextSession, fun id => ?_, ?_, fun id own => ?_, alike.listener,
    fun ref own => ?_, alike.store⟩
  · rw [owner_accepted, owner_accepted, alike.nextSession, alike.owner]
  · simp only [AgentHostServer.accept, alike.nextSession]
    by_cases here : viewer = connection.hostId
    · simp [here]
    · rw [update_of_ne here, update_of_ne here, alike.session]
  · simp only [AgentHostServer.accept, alike.nextSession]
    by_cases here : id = right.nextSession
    · rw [here, update_self, update_self]
    · rw [owner_accepted, alike.nextSession, if_neg here] at own
      rw [update_of_ne here, update_of_ne here, alike.connection id own]
  · by_cases here : ref = left.nextSession
    · have unknown : left.owner ref = none := by simp [AgentHostServer.owner, here, sound.fresh _ le_rfl]
      exact (sound.unopened unknown).trans (sound'.unopened ((alike.owner ref).symm.trans unknown)).symm
    · rw [owner_accepted, if_neg here] at own
      exact alike.set ref own

theorem Alike.handleConnection (sound : left.Sound) (sound' : right.Sound)
    (hostId : OpaqueId) (exact' historical : Bool) :
    (left.handleConnection hostId exact' historical).Alike viewer (right.handleConnection hostId exact' historical) :=
  (alike.supersede sound sound' hostId).accept (sound.supersede hostId).1 (sound'.supersede hostId).1 _

theorem Alike.enqueue (messageId hostId : OpaqueId) (command : MailboxCommand) :
    (left.enqueue messageId hostId command).Alike viewer (right.enqueue messageId hostId command) := by
  unfold AgentHostServer.enqueue
  rcases alike.store.enqueueOnce messageId hostId command with
    ⟨error, refused, refused'⟩ | ⟨left', right', stored, stored', kept⟩
  · rw [refused, refused']
    exact alike
  · rw [stored, stored']
    exact alike.withStore kept

theorem Alike.revoke (hostId : OpaqueId) : (left.revoke hostId).Alike viewer (right.revoke hostId) := by
  refine alike.withStore ⟨alike.store.rows, alike.store.lastRowid, alike.store.cursor, ?_⟩
  by_cases own : viewer = hostId
  · simp [own]
  · simp [update_of_ne own, alike.store.revoked]
end
end Own

section Publish

theorem alike_wakeAll (sound : server.Sound) (foreign : ∀ id ∈ members, server.owner id ≠ some viewer) :
    server.Alike viewer (members.foldl (fun server id => server.wake id) server) := by
  induction members generalizing server with
  | nil => exact Alike.refl viewer server
  | cons id _ ih =>
    have woken : Serves id server (server.wake id) := sound.serves.wake
    refine (woken.alike viewer (foreign id mem_cons_self)).trans (ih woken.sound fun other member => ?_)
    rw [woken.same.owner]
    exact foreign other (mem_cons_of_mem id member)

theorem Alike.wakeAll (alike : left.Alike viewer right) (sound : left.Sound)
    (owned : ∀ id ∈ members, left.owner id = some viewer) :
    (members.foldl (fun server id => server.wake id) left).Alike viewer
      (members.foldl (fun server id => server.wake id) right) := by
  induction members generalizing left right with
  | nil => exact alike
  | cons id _ ih =>
    have woken : Serves id left (left.wake id) := sound.serves.wake
    refine ih (alike.wake (owned id mem_cons_self)) woken.sound fun other member => ?_
    rw [woken.same.owner]
    exact owned other (mem_cons_of_mem id member)

theorem owner_listener (sound : server.Sound) (member : id ∈ server.mailbox.of hostId) :
    server.owner id = some hostId := by
  unfold MailboxListeners.of at member
  split at member
  · cases member
  · rename_i ref listed
    exact (sound.members ref id member).1.trans (sound.registered hostId ref listed)

theorem Alike.withPublished (alike : left.Alike viewer right) (published published' : List Nat) :
    { left with published }.Alike viewer { right with published := published' } :=
  ⟨alike.closing, alike.nextSession, alike.owner, alike.session, alike.connection, alike.listener, alike.set, alike.store⟩

theorem Alike.listeners (alike : left.Alike viewer right) (sound : left.Sound) :
    left.mailbox.of viewer = right.mailbox.of viewer := by
  unfold MailboxListeners.of
  rw [← alike.listener]
  split
  · rfl
  · rename_i ref listed
    exact alike.set ref (sound.registered viewer ref listed)

theorem alike_publish (sound : server.Sound) {messageId : OpaqueId}
    (foreign : ∀ message, server.store.message messageId = some message → message.hostId ≠ viewer) :
    server.Alike viewer (server.publish messageId) := by
  unfold AgentHostServer.publish
  split
  · exact Alike.refl viewer server
  · rename_i message stored
    refine ((Alike.refl viewer server).withPublished server.published (server.published ++ [message.sequence])).trans
      (alike_wakeAll (sound.published _) fun id member same => ?_)
    exact foreign message stored (Option.some.inj ((owner_listener sound member).symm.trans same))

theorem Alike.publish (alike : left.Alike viewer right) (sound : left.Sound) (sound' : right.Sound)
    (messageId : OpaqueId) : (left.publish messageId).Alike viewer (right.publish messageId) := by
  have same := alike.store.message messageId
  cases stored : left.store.message messageId with
  | none =>
    rw [stored, map_none] at same
    simpa only [AgentHostServer.publish, stored, map_eq_none_iff.mp same.symm] using alike
  | some message =>
    rw [stored, map_some] at same
    obtain ⟨message', stored', shown⟩ := map_eq_some_iff.mp same.symm
    have host : message'.hostId = message.hostId := by simpa using congrArg MailboxMessage.hostId shown
    by_cases own : message.hostId = viewer
    · simp only [AgentHostServer.publish, stored, stored', host, own, ← alike.listeners sound]
      refine (alike.withPublished _ _).wakeAll (sound.published _) fun id member => ?_
      have owned : left.owner id = some viewer := owner_listener sound member
      exact owned
    · have left' : left.Alike viewer (left.publish messageId) :=
        alike_publish sound fun other known => by rwa [← Option.some.inj (stored.symm.trans known)]
      have right' : right.Alike viewer (right.publish messageId) :=
        alike_publish sound' fun other known => by rwa [← Option.some.inj (stored'.symm.trans known), host]
      exact (left'.symm.trans alike).trans right'

end Publish

def handshakesCompatible (viewer : OpaqueId) : AgentHostServer → List AgentHostEvent → Bool
  | _, [] => true
  | server, event :: events =>
    (match event with
      | .process id _ => server.owner id = some viewer || !server.shutsOut id
      | _ => true) && handshakesCompatible viewer (server.step event) events

theorem Sound.sessionStep (sound : server.Sound) (named : event.session = some id)
    (spared : ∀ verdict, event = .process id verdict → server.shutsOut id = false) :
    Serves id server (server.step event) := by
  have idle : Serves id server server := sound.serves
  cases event with
  | connect | enqueue | publish | revoke | disconnectHost => cases named
  | message _ frame =>
    cases named
    exact idle.onMessage frame
  | process _ verdict =>
    cases named
    exact sound.processFrame_serves (spared verdict rfl) verdict
  | eventAcknowledged _ failed =>
    cases named
    exact idle.onEventAcknowledged failed
  | sendFailed =>
    cases named
    exact idle.failDelivery .service
  | immediate _ bufferedAmount =>
    cases named
    exact idle.onImmediate bufferedAmount
  | retry =>
    cases named
    exact idle.onRetry
  | helloTimeout =>
    cases named
    exact idle.onConnection identical_helloTimeout
  | ping =>
    cases named
    exact idle.onConnection identical_ping
  | pong =>
    cases named
    exact idle.onConnection identical_pong
  | socketError =>
    cases named
    exact idle.onSocketError
  | socketClosed =>
    cases named
    exact idle.onSocketClosed

theorem Sound.steps (sound : server.Sound) (event : AgentHostEvent) :
    (server.step event).Sound ∧ (event.connectedHost = none → server.SameSessions (server.step event)) := by
  by_cases processing : ∃ id verdict, event = .process id verdict
  · obtain ⟨id, verdict, rfl⟩ := processing
    exact ⟨(sound.processFrame id verdict).1, fun _ => (sound.processFrame id verdict).2⟩
  cases named : event.session with
  | some id =>
    have serves := sound.sessionStep named fun verdict same => absurd ⟨id, verdict, same⟩ processing
    exact ⟨serves.sound, fun _ => serves.same⟩
  | none =>
    cases event with
    | connect hostId => exact ⟨(sound.supersede hostId).1.accept _ rfl, (nomatch ·)⟩
    | enqueue =>
      simp only [AgentHostServer.step, AgentHostServer.enqueue]
      split
      · exact ⟨sound.withStore _, fun _ => ⟨fun _ => rfl, rfl⟩⟩
      · exact ⟨sound, fun _ => ⟨fun _ => rfl, rfl⟩⟩
    | publish messageId => exact ⟨(sound.publish messageId).1, fun _ => (sound.publish messageId).2⟩
    | revoke => exact ⟨sound.withStore _, fun _ => ⟨fun _ => rfl, rfl⟩⟩
    | disconnectHost hostId =>
      obtain ⟨viewer, foreign⟩ := exists_foreign (some hostId)
      obtain ⟨kept, alike⟩ := sound.disconnectHost hostId
      exact ⟨kept, fun _ => (alike viewer fun same => foreign (congrArg some same)).sameSessions⟩
    | message | process | eventAcknowledged | sendFailed | immediate | retry | helloTimeout | ping | pong | socketError
    | socketClosed => cases named

theorem Own.sessionStep (own : Own viewer id left right) (named : event.session = some id) :
    (left.step event).Alike viewer (right.step event) := by
  cases event with
  | connect | enqueue | publish | revoke | disconnectHost => cases named
  | message _ frame =>
    cases named
    exact (own.onMessage frame).alike
  | process _ verdict =>
    cases named
    exact own.processFrame verdict
  | eventAcknowledged _ failed =>
    cases named
    exact (own.onEventAcknowledged failed).alike
  | sendFailed =>
    cases named
    exact (own.failDelivery .service).alike
  | immediate _ bufferedAmount =>
    cases named
    exact (own.onImmediate bufferedAmount).alike
  | retry =>
    cases named
    exact own.onRetry.alike
  | helloTimeout =>
    cases named
    exact (own.onConnection identical_helloTimeout).alike
  | ping =>
    cases named
    exact (own.onConnection identical_ping).alike
  | pong =>
    cases named
    exact (own.onConnection identical_pong).alike
  | socketError =>
    cases named
    exact own.onSocketError.alike
  | socketClosed =>
    cases named
    exact own.onSocketClosed

theorem alike_step (sound : server.Sound)
    (foreign : event.concerns viewer hosts = false) (known : ∀ id, server.owner id = none ∨ server.owner id = hosts id)
    (spared : ∀ id verdict, event = .process id verdict → server.owner id ≠ some viewer → server.shutsOut id = false) :
    server.Alike viewer (server.step event) := by
  cases named : event.session with
  | some id =>
    simp only [AgentHostEvent.concerns, named, decide_eq_false_iff_not] at foreign
    have apart : server.owner id ≠ some viewer := by
      rcases known id with unknown | owned
      · rw [unknown]
        nofun
      · rwa [owned]
    exact (sound.sessionStep named fun verdict processing => spared id verdict processing apart).alike viewer apart
  | none =>
    simp only [AgentHostEvent.concerns, named] at foreign
    cases event with
    | connect | enqueue | publish => cases foreign
    | revoke => exact alike_revoke (of_decide_eq_false foreign)
    | disconnectHost hostId => exact (sound.disconnectHost hostId).2 viewer (of_decide_eq_false foreign)
    | message | process | eventAcknowledged | sendFailed | immediate | retry | helloTimeout | ping | pong | socketError
    | socketClosed => cases named

theorem Alike.step (alike : left.Alike viewer right) (sound : left.Sound) (sound' : right.Sound)
    (concerned : event.concerns viewer hosts = true) (known : ∀ id, left.owner id = none ∨ left.owner id = hosts id) :
    (left.step event).Alike viewer (right.step event) := by
  cases named : event.session with
  | some id =>
    simp only [AgentHostEvent.concerns, named, decide_eq_true_eq] at concerned
    rcases known id with unknown | owned
    · -- the session has not been opened: the step does nothing
      have closed : ∀ server : AgentHostServer, server.owner id = none → server.shutsOut id = false := by
        intro server unknown
        simp [shutsOut, map_eq_none_iff.mp unknown]
      have unknown' : right.owner id = none := (alike.owner id).symm.trans unknown
      have idle := (sound.sessionStep named fun _ _ => closed left unknown).alike viewer (by simp [unknown])
      have idle' := (sound'.sessionStep named fun _ _ => closed right unknown').alike viewer (by simp [unknown'])
      exact (idle.symm.trans alike).trans idle'
    · exact Own.sessionStep ⟨sound, owned.trans concerned, alike⟩ named
  | none =>
    simp only [AgentHostEvent.concerns, named] at concerned
    cases event with
    | connect hostId exact' historical => exact alike.handleConnection sound sound' hostId exact' historical
    | enqueue messageId hostId command => exact alike.enqueue messageId hostId command
    | publish messageId => exact alike.publish sound sound' messageId
    | revoke hostId => exact alike.revoke hostId
    | disconnectHost =>
      obtain rfl := of_decide_eq_true concerned
      exact alike.disconnectHost sound
    | message | process | eventAcknowledged | sendFailed | immediate | retry | helloTimeout | ping | pong | socketError
    | socketClosed => cases named

/-- The sessions opened so far and those to come belong to the hosts given. -/
structure Assigned (hosts : SessionId → Option OpaqueId) (server : AgentHostServer) (events : List AgentHostEvent) :
    Prop where
  opened : ∀ id, server.owner id = none ∨ server.owner id = hosts id
  coming : ∀ k hostId, (AgentHostEvent.connectedHosts events)[k]? = some hostId → hosts (server.nextSession + k) = some hostId

theorem Assigned.step (sound : server.Sound)
    (assigned : Assigned hosts server (event :: events)) : Assigned hosts (server.step event) events := by
  cases opening : event.connectedHost with
  | none =>
    have same := (sound.steps event).2 opening
    refine ⟨fun id => ?_, fun k hostId listed => ?_⟩
    · rw [same.owner]
      exact assigned.opened id
    · rw [same.nextSession]
      exact assigned.coming k hostId (by simpa [AgentHostEvent.connectedHosts, filterMap_cons, opening] using listed)
  | some hostId =>
    cases event with
    | connect =>
      cases opening
      obtain ⟨viewer, foreign⟩ := exists_foreign (some hostId)
      have same := ((sound.supersede hostId).2 viewer fun here => foreign (congrArg some here)).sameSessions
      refine ⟨fun id => ?_, fun k other listed => ?_⟩
      · show ((server.supersede hostId).accept _).owner id = none ∨ ((server.supersede hostId).accept _).owner id = _
        rw [owner_accepted, same.nextSession, same.owner]
        split
        · rename_i here
          exact .inr (here ▸ (assigned.coming 0 hostId rfl).symm)
        · exact assigned.opened id
      · show hosts ((server.supersede hostId).nextSession + 1 + k) = _
        rw [same.nextSession, Nat.add_assoc, Nat.add_comm 1]
        exact assigned.coming (k + 1) other listed
    | message | process | eventAcknowledged | sendFailed | immediate | retry | helloTimeout | ping | pong | socketError
    | socketClosed | enqueue | publish | revoke | disconnectHost => cases opening

theorem alike_perceived
    (assigned : Assigned hosts left events) (sound : left.Sound) (sound' : right.Sound) (alike : left.Alike viewer right)
    (compatible : handshakesCompatible viewer left events = true) :
    (left.run events).Alike viewer (right.run (events.filter (AgentHostEvent.concerns viewer hosts))) := by
  induction events generalizing left right with
  | nil => exact alike
  | cons event _ ih =>
    obtain ⟨now, rest⟩ := Bool.and_eq_true_iff.mp compatible
    have spared : ∀ id verdict, event = .process id verdict → left.owner id ≠ some viewer →
        left.shutsOut id = false := by
      rintro _ _ rfl foreign
      simpa [foreign] using now
    cases concerned : event.concerns viewer hosts with
    | true =>
      rw [filter_cons_of_pos concerned]
      exact ih (assigned.step sound) (sound.steps event).1 (sound'.steps event).1
        (alike.step sound sound' concerned assigned.opened) rest
    | false =>
      rw [filter_cons_of_neg (by simp [concerned])]
      have unseen := alike_step sound concerned assigned.opened spared
      exact ih (assigned.step sound) (sound.steps event).1 sound' (unseen.symm.trans alike) rest

theorem assigned_started (store : MailboxStore) (events : List AgentHostEvent) :
    Assigned (fun id => (AgentHostEvent.connectedHosts events)[id]?) { store } events :=
  ⟨fun _ => .inl rfl, fun k _ listed => by simpa using listed⟩

theorem alike_run (store : MailboxStore) (compatible : handshakesCompatible viewer { store } events = true) :
    (({ store } : AgentHostServer).run events).Alike viewer (({ store } : AgentHostServer).run (AgentHostEvent.perceived viewer events)) :=
  alike_perceived (assigned_started store events) (sound_started store) (sound_started store) (Alike.refl viewer _)
    compatible

/-- Two runs in which a host takes the same part, whatever the other hosts send and however they leave, are the same
to it: its sessions with the events that were handled, its deliveries and which of them may go on. -/
theorem sessions_are_isolated (store : MailboxStore) (events events' : List AgentHostEvent)
    (same : AgentHostEvent.perceived viewer events = AgentHostEvent.perceived viewer events')
    (compatible : handshakesCompatible viewer { store } events = true)
    (compatible' : handshakesCompatible viewer { store } events' = true) :
    (({ store } : AgentHostServer).run events).Alike viewer (({ store } : AgentHostServer).run events') ∧
    ∀ id connection, connection.hostId = viewer →
      (({ store } : AgentHostServer).run events).current id connection =
        (({ store } : AgentHostServer).run events').current id connection ∧
      (({ store } : AgentHostServer).run events).active id connection =
        (({ store } : AgentHostServer).run events').active id connection := by
  have left := alike_run store compatible
  have right := alike_run store compatible'
  rw [← same] at right
  have alike := left.trans right.symm
  exact ⟨alike, fun id connection host => ⟨alike.current host, alike.active host⟩⟩

def sampleEvent : HostEvent := .other ⟨"event-1", by decide⟩

theorem malformed_message_is_isolated :
    let greeting : List AgentHostEvent := [.connect sampleHost true true, .message 0 (.hello true 0 0), .process 0 {},
      .connect otherHost true true]
    let event : List AgentHostEvent := [.message 0 (.event sampleEvent), .process 0 {}]
    (({} : AgentHostServer).run (greeting ++ [.message 1 .malformed, .process 1 {}] ++ event)).Alike sampleHost
      (({} : AgentHostServer).run (greeting ++ event)) :=
  (sessions_are_isolated {} _ _ (by decide) (by decide) (by decide)).1

/-- One host's greeted session, an outdated client of another host, and an event of the first host. -/
theorem incompatible_client_closes_every_session :
    let greeting : List AgentHostEvent := [.connect sampleHost true true, .message 0 (.hello true 0 0), .process 0 {},
      .connect otherHost true true]
    let outdated : List AgentHostEvent := [.message 1 .incompatible, .process 1 {}]
    let event : List AgentHostEvent := [.message 0 (.event sampleEvent), .process 0 {}]
    let served := ({} : AgentHostServer).run (greeting ++ event)
    let refused := ({} : AgentHostServer).run (greeting ++ outdated ++ event)
    AgentHostEvent.perceived sampleHost (greeting ++ outdated ++ event) =
      AgentHostEvent.perceived sampleHost (greeting ++ event) ∧
    (served.connections 0).map (·.handled) = some [sampleEvent] ∧
    (refused.connections 0).map (fun connection => (connection.socket, connection.handled)) = some (.open, []) ∧
    refused.sessions sampleHost = some 0 := by
  decide

end AgentHostServer
end PlanWeave
