import PlanWeave.AgentHost.DeliveryOrder

namespace PlanWeave
open Function HostConnection List Option

/-- Something is on its way that pumps the delivery again. -/
def MailboxDelivery.Pending (delivery : MailboxDelivery) : Prop :=
  delivery.scheduled = true ∨ delivery.retry = true ∨ delivery.inflight ≠ []

def MailboxListeners.Keeps (stopped : Option SessionId) (before after : MailboxListeners) : Prop :=
  ∀ hostId id, stopped ≠ some id → id ∈ before.of hostId → id ∈ after.of hostId

namespace MailboxListeners
variable {mailbox : MailboxListeners} {hostId : OpaqueId} {ref id : SessionId}
  {stopped : Option SessionId}

theorem Keeps.refl (stopped : Option SessionId) (mailbox : MailboxListeners) : mailbox.Keeps stopped mailbox :=
  fun _ _ _ member => member

theorem mem_of : id ∈ mailbox.of hostId ↔ ∃ ref, mailbox.listeners hostId = some ref ∧ id ∈ mailbox.sets ref := by
  unfold of
  cases mailbox.listeners hostId with
  | none => simp
  | some => simp

section
variable (fresh : mailbox.listeners hostId = none ∨ mailbox.listeners hostId = some ref)
include fresh

theorem unsubscribe_registered {other : SessionId} {host' : OpaqueId} {ref' : SessionId} (different : other ≠ id)
    (listed : mailbox.listeners host' = some ref') (member : other ∈ mailbox.sets ref') :
    (mailbox.unsubscribe hostId ref id).listeners host' = some ref' ∧
      other ∈ (mailbox.unsubscribe hostId ref id).sets ref' := by
  simp only [unsubscribe]
  constructor
  · split
    · rename_i emptied
      have apart : host' ≠ hostId := by
        rintro rfl
        rcases fresh with none | some
        · rw [none] at listed
          cases listed
        obtain rfl : ref = ref' := Option.some.inj (some.symm.trans listed)
        have left : other ∈ (mailbox.sets ref).filter (· ≠ id) :=
          mem_filter.mpr ⟨member, decide_eq_true different⟩
        rw [emptied] at left
        cases left
      rw [update_of_ne apart]
      exact listed
    · exact listed
  · by_cases here : ref' = ref
    · subst here
      rw [update_self]
      exact mem_filter.mpr ⟨member, decide_eq_true different⟩
    · rwa [update_of_ne here]

theorem keeps_unsubscribe : mailbox.Keeps (some id) (mailbox.unsubscribe hostId ref id) := by
  intro host' other different member
  obtain ⟨ref', listed, member⟩ := mem_of.mp member
  exact mem_of.mpr ⟨ref', unsubscribe_registered fresh (fun same => different (same ▸ rfl)) listed member⟩
end

theorem subscribe_registered {other : SessionId} {host' : OpaqueId} {ref' : SessionId}
    (listed : mailbox.listeners host' = some ref') (member : other ∈ mailbox.sets ref')
    (apart : ref' = id → mailbox.listeners hostId = some ref') :
    (mailbox.subscribe hostId id).1.listeners host' = some ref' ∧ other ∈ (mailbox.subscribe hostId id).1.sets ref' := by
  simp only [subscribe]
  constructor
  · by_cases here : host' = hostId
    · subst here
      rw [update_self, listed]
      rfl
    · rwa [update_of_ne here]
  · by_cases here : ref' = (mailbox.listeners hostId).getD id
    · have known : mailbox.listeners hostId = some ref' := by
        cases registered : mailbox.listeners hostId with
        | none =>
          rw [registered] at here
          exact registered ▸ apart here
        | some =>
          rw [registered] at here
          exact congrArg some here.symm
      rw [← here, update_self, known]
      simp only [isSome_some, ↓reduceIte]
      split
      · exact member
      · exact mem_append_left _ member
    · rwa [update_of_ne here]

theorem subscribed (mailbox : MailboxListeners) (hostId : OpaqueId) (id : SessionId) :
    (mailbox.subscribe hostId id).1.listeners hostId = some (mailbox.subscribe hostId id).2 ∧
    id ∈ (mailbox.subscribe hostId id).1.sets (mailbox.subscribe hostId id).2 := by
  simp only [subscribe, update_self, true_and]
  split
  · split
    · assumption
    · exact mem_append_right _ (mem_singleton.mpr rfl)
  · simp

end MailboxListeners

namespace AgentHostServer
variable {server before : AgentHostServer} {id other : SessionId} {hostId : OpaqueId}
  {connection : HostConnection} {delivery : MailboxDelivery} {change : HostConnection → HostConnection}
  {woken : List SessionId} {event : AgentHostEvent}

/-- The `stop` of a delivery that was stopped before, while its host listens through a set of a later session. -/
def stale (server : AgentHostServer) (id : SessionId) : Bool :=
  (server.connections id).any fun connection => connection.delivery.any fun delivery =>
    delivery.stopped && (server.mailbox.listeners connection.hostId).any (· ≠ delivery.subscription)

def stops (server : AgentHostServer) : AgentHostEvent → Option SessionId
  | .connect hostId _ _ | .disconnectHost hostId => server.sessions hostId
  | .socketError id => some id
  | .socketClosed id => if (server.connections id).any (·.socket ≠ .closed) then some id else none
  | .eventAcknowledged id failed =>
    if failed && (server.connections id).any (·.acknowledging ≠ []) then some id else none
  | _ => none

def mayStop (server : AgentHostServer) : AgentHostEvent → Option SessionId
  | .immediate id _ | .sendFailed id => some id
  | event => server.stops event

/-- Every delivery that was not stopped listens, and has been woken since the last message that was published to its
host. The sessions of `woken` are about to be woken. -/
structure Attended (woken : List SessionId) (server : AgentHostServer) : Prop where
  sound : server.Sound
  ordered : server.store.Ordered
  opened : server.closing = false
  published : ∀ sequence ∈ server.published, sequence ≤ server.store.lastRowid
  registered : ∀ id connection delivery, server.connections id = some connection → connection.delivery = some delivery →
    delivery.stopped = false → server.mailbox.listeners connection.hostId = some delivery.subscription ∧
      id ∈ server.mailbox.sets delivery.subscription
  attentive : ∀ id connection delivery, server.connections id = some connection → connection.delivery = some delivery →
    delivery.stopped = false → server.current id connection = true → id ∉ woken →
    delivery.Pending ∨ ∀ row ∈ server.store.rows, row.hostId = connection.hostId → row.sequence ∈ server.published →
      row.sequence ≤ delivery.sentSequence
  faithful : ∀ id connection, server.connections id = some connection → connection.Faithful server.store

theorem Attended.weaken_cons (attended : server.Attended woken) (id : SessionId) : server.Attended (id :: woken) := by
  refine { attended with attentive := fun other connection delivery found delivering running current rest => ?_ }
  refine attended.attentive other connection delivery found delivering running current fun member => ?_
  exact rest (mem_cons_of_mem id member)

theorem Attended.fill (attended : server.Attended (id :: woken))
    (attentive : ∀ connection delivery, server.connections id = some connection → connection.delivery = some delivery →
      delivery.stopped = false → server.current id connection = true →
      delivery.Pending ∨ ∀ row ∈ server.store.rows, row.hostId = connection.hostId → row.sequence ∈ server.published →
        row.sequence ≤ delivery.sentSequence) : server.Attended woken := by
  refine { attended with attentive := fun other connection delivery found delivering running current rest => ?_ }
  by_cases here : other = id
  · subst here
    exact attentive connection delivery found delivering running current
  · refine attended.attentive other connection delivery found delivering running current ?_
    exact fun member => (mem_cons.mp member).elim here rest

theorem Attended.onSession (attended : server.Attended woken) (id : SessionId)
    (change : HostConnection → HostConnection) (sound : (server.onConnection id change).Sound)
    (registered : ∀ connection delivery, server.connections id = some connection →
      (change connection).delivery = some delivery → delivery.stopped = false →
      server.mailbox.listeners (change connection).hostId = some delivery.subscription ∧
        id ∈ server.mailbox.sets delivery.subscription)
    (attentive : ∀ connection delivery, server.connections id = some connection →
      (change connection).delivery = some delivery → delivery.stopped = false →
      server.current id (change connection) = true → id ∉ woken →
      delivery.Pending ∨ ∀ row ∈ server.store.rows, row.hostId = (change connection).hostId →
        row.sequence ∈ server.published → row.sequence ≤ delivery.sentSequence)
    (faithful : ∀ connection, server.connections id = some connection → (change connection).Faithful server.store) :
    (server.onConnection id change).Attended woken where
  sound := sound
  ordered := attended.ordered
  opened := attended.opened
  published := attended.published
  registered other connection delivery found := by
    by_cases here : other = id
    · subst here
      rw [onConnection_self, map_eq_some_iff] at found
      obtain ⟨old, known, rfl⟩ := found
      exact registered old delivery known
    · rw [onConnection_other here] at found
      exact attended.registered other connection delivery found
  attentive other connection delivery found := by
    by_cases here : other = id
    · subst here
      rw [onConnection_self, map_eq_some_iff] at found
      obtain ⟨old, known, rfl⟩ := found
      exact attentive old delivery known
    · rw [onConnection_other here] at found
      exact attended.attentive other connection delivery found
  faithful other connection found := by
    by_cases here : other = id
    · subst here
      rw [onConnection_self, map_eq_some_iff] at found
      obtain ⟨old, known, rfl⟩ := found
      exact faithful old known
    · rw [onConnection_other here] at found
      exact attended.faithful other connection found

theorem current_iff : server.current id connection = true ↔
    server.closing = false ∧ server.sessions connection.hostId = some id ∧ connection.socket = .open := by
  simp [AgentHostServer.current, and_assoc]

structure Calm (connection other : HostConnection) : Prop where
  hostId : other.hostId = connection.hostId
  socket : other.socket = .open → connection.socket = .open
  delivery : ∀ delivery', other.delivery = some delivery' → delivery'.stopped = false →
    ∃ delivery, connection.delivery = some delivery ∧ delivery.stopped = false ∧
      delivery'.subscription = delivery.subscription ∧
      (delivery'.Pending ∨ delivery'.sentSequence = delivery.sentSequence ∧ (delivery.Pending → delivery'.Pending))

theorem Calm.of_same {other : HostConnection} (hostId : other.hostId = connection.hostId)
    (socket : other.socket = .open → connection.socket = .open) (delivery : other.delivery = connection.delivery) :
    Calm connection other :=
  ⟨hostId, socket, fun delivery' known running => ⟨delivery', delivery ▸ known, running, rfl, .inr ⟨rfl, id⟩⟩⟩

theorem Calm.current {other : HostConnection} (calm : Calm connection other)
    (current : server.current id other = true) : server.current id connection = true := by
  rw [current_iff, calm.hostId] at current
  exact current_iff.mpr ⟨current.1, current.2.1, calm.socket current.2.2⟩

theorem Attended.calm (attended : server.Attended woken) (id : SessionId) (same : Identical change)
    (calm : ∀ connection, server.connections id = some connection → Calm connection (change connection))
    (faithful : ∀ connection, server.connections id = some connection → connection.Faithful server.store →
      (change connection).Faithful server.store) :
    (server.onConnection id change).Attended woken := by
  refine attended.onSession id change (attended.sound.onConnection id same) ?_ ?_ ?_
  · intro connection delivery' found delivering running
    obtain ⟨delivery, known, running', subscribed, -⟩ := (calm connection found).delivery delivery' delivering running
    rw [(calm connection found).hostId, subscribed]
    exact attended.registered id connection delivery found known running'
  · intro connection delivery' found delivering running current rest
    obtain ⟨delivery, known, running', -, pending | ⟨reached, pending⟩⟩ :=
      (calm connection found).delivery delivery' delivering running
    · exact .inl pending
    · rw [(calm connection found).hostId, reached]
      exact (attended.attentive id connection delivery found known running' ((calm connection found).current current)
        rest).imp_left pending
  · exact fun connection found => faithful connection found (attended.faithful id connection found)

/-- A connection whose socket and session may only have ended. -/
structure Wanes (connection other : HostConnection) : Prop extends connection.SameRecord other where
  socket : other.socket = .open → connection.socket = .open
  delivery : other.delivery = connection.delivery
  acknowledging : other.acknowledging = connection.acknowledging
  initialized : other.initialized = connection.initialized

theorem Attended.wanes (attended : server.Attended woken) (id : SessionId)
    (wanes : ∀ connection, Wanes connection (change connection)) : (server.onConnection id change).Attended woken := by
  have same : Identical change := ⟨fun connection => (wanes connection).hostId, fun connection => by rw [(wanes connection).delivery]⟩
  refine attended.calm id same (fun connection _ => ?_) fun connection _ faithful => ?_
  · exact .of_same (wanes connection).hostId (wanes connection).socket (wanes connection).delivery
  · exact faithful.congr (wanes connection).toSameRecord (wanes connection).initialized (wanes connection).acknowledging
      (wanes connection).delivery

theorem Wanes.refl (connection : HostConnection) : Wanes connection connection :=
  ⟨⟨rfl, rfl, rfl, fun welcomed => welcomed⟩, fun opened => opened, rfl, rfl, rfl⟩

theorem close_wanes (code : Nat) (connection : HostConnection) : Wanes connection (connection.close code) := by
  unfold close
  split
  · exact ⟨⟨rfl, rfl, rfl, fun welcomed => welcomed⟩, nofun, rfl, rfl, rfl⟩
  · exact .refl connection

theorem terminate_wanes (connection : HostConnection) : Wanes connection connection.terminate := by
  unfold terminate
  split
  · exact ⟨⟨rfl, rfl, rfl, fun welcomed => welcomed⟩, nofun, rfl, rfl, rfl⟩
  · exact .refl connection

section Changes

section
variable (attended : server.Attended woken) (id : SessionId)
include attended

theorem Attended.clearTimers :
    (server.onConnection id HostConnection.clearTimers).Attended woken :=
  attended.wanes id fun connection => { Wanes.refl connection with }

theorem Attended.close (code : Nat) : (server.onConnection id (close code)).Attended woken :=
  attended.wanes id (close_wanes code)

theorem Attended.terminate : (server.onConnection id terminate).Attended woken :=
  attended.wanes id terminate_wanes

theorem Attended.closed :
    (server.onConnection id fun connection => { connection with socket := .closed }).Attended woken :=
  attended.wanes id fun _ => ⟨⟨rfl, rfl, rfl, fun welcomed => welcomed⟩, nofun, rfl, rfl, rfl⟩

theorem Attended.uninitialized :
    (server.onConnection id fun connection => { connection with sessionInitialized := false }).Attended woken :=
  attended.wanes id fun _ => ⟨⟨rfl, rfl, rfl, nofun⟩, fun opened => opened, rfl, rfl, rfl⟩

theorem Attended.pong :
    (server.onConnection id fun connection => { connection with alive := true }).Attended woken :=
  attended.wanes id fun connection => { Wanes.refl connection with }

theorem Attended.helloTimeout : (server.onHelloTimeout id).Attended woken := by
  refine attended.wanes id fun connection => ?_
  split
  · have ended := close_wanes 4002 { connection with helloTimeout := false }
    exact { ended with }
  · exact { Wanes.refl connection with }

theorem Attended.ping : (server.onPing id).Attended woken := by
  refine attended.wanes id fun connection => ?_
  split
  · exact .refl connection
  · split
    · exact { Wanes.refl connection with }
    · exact terminate_wanes connection

theorem Attended.send {frame : ServerFrame} (other : ∀ sequence, frame ≠ .mailboxMessage sequence) :
    (server.onConnection id (send frame)).Attended woken := by
  refine attended.calm id (identical_send frame) (fun connection _ => ?_) fun connection _ faithful => faithful.send other
  obtain ⟨-, delivery, -, -, socket, -⟩ := send_rest frame connection
  exact .of_same ((identical_send frame).hostId connection) (fun opened => socket ▸ opened) delivery

theorem Attended.withProcessing (frames : List HostFrame) :
    (server.onConnection id (withProcessing frames)).Attended woken :=
  attended.wanes id fun connection => { Wanes.refl connection with }

theorem Attended.withHandled (event : HostEvent) :
    (server.onConnection id (withHandled event)).Attended woken :=
  attended.calm id (identical_withHandled event) (fun _ _ => .of_same rfl (fun opened => opened) rfl)
    fun _ _ faithful => faithful.withHandled event
end

theorem wake_pending (active : Bool) (delivery : MailboxDelivery) :
    (delivery.wake active).stopped = delivery.stopped ∧ (delivery.Pending → (delivery.wake active).Pending) ∧
      (active = true → (delivery.wake active).Pending) := by
  unfold MailboxDelivery.wake
  split
  · rename_i idle
    refine ⟨rfl, id, fun running => ?_⟩
    simp only [running, Bool.not_true, Bool.false_or, Bool.or_eq_true] at idle
    exact idle.imp_right .inl
  · exact ⟨rfl, fun _ => .inl rfl, fun _ => .inl rfl⟩

theorem calm_wake (active : Bool) (connection : HostConnection) :
    Calm connection (connection.onDelivery (MailboxDelivery.wake active)) := by
  refine ⟨rfl, fun opened => opened, fun delivery' known running => ?_⟩
  obtain ⟨delivery, known', rfl⟩ := map_eq_some_iff.mp known
  obtain ⟨stopped, pending, -⟩ := wake_pending active delivery
  exact ⟨delivery, known', stopped ▸ running, wake_subscription active delivery,
    .inr ⟨(wake_record active delivery).2.1, pending⟩⟩

theorem Attended.wake_calm (attended : server.Attended woken) (id : SessionId) : (server.wake id).Attended woken := by
  unfold AgentHostServer.wake
  split
  · exact attended
  · exact attended.calm id (identical_onDelivery (wake_subscription _)) (fun connection _ => calm_wake _ connection)
      fun _ _ faithful => faithful.wake _

theorem Attended.wake (attended : server.Attended (id :: woken)) : (server.wake id).Attended woken := by
  refine (attended.wake_calm id).fill fun connection' delivery' found delivering running current => .inl ?_
  cases known : server.connections id with
  | none =>
    simp only [AgentHostServer.wake, known] at found
    cases found
  | some connection =>
    simp only [AgentHostServer.wake, known] at found current
    rw [onConnection_self, known, map_some, Option.some.injEq] at found
    subst found
    obtain ⟨delivery, known', rfl⟩ := map_eq_some_iff.mp delivering
    obtain ⟨stopped, -, pending⟩ := wake_pending (server.active id connection) delivery
    refine pending ?_
    have same : server.current id connection = true := current
    simp [AgentHostServer.active, same, known', stopped ▸ running]

theorem wake_mailbox : (server.wake id).mailbox = server.mailbox := by
  unfold AgentHostServer.wake
  split <;> rfl

end Changes

section Stops

theorem stale_of_not_stale (fresh : server.stale id = false) (found : server.connections id = some connection)
    (delivering : connection.delivery = some delivery) (ended : delivery.stopped = true) :
    server.mailbox.listeners connection.hostId = none ∨
      server.mailbox.listeners connection.hostId = some delivery.subscription := by
  simp only [stale, found, delivering, any_some, ended, Bool.true_and] at fresh
  cases listed : server.mailbox.listeners connection.hostId with
  | none => exact .inl rfl
  | some =>
    rw [listed] at fresh
    exact .inr (congrArg some (by simpa using fresh))

theorem Attended.captured (attended : server.Attended woken) (fresh : server.stale id = false)
    (found : server.connections id = some connection) (delivering : connection.delivery = some delivery) :
    server.mailbox.listeners connection.hostId = none ∨
      server.mailbox.listeners connection.hostId = some delivery.subscription := by
  cases ended : delivery.stopped with
  | true => exact stale_of_not_stale fresh found delivering ended
  | false => exact .inr (attended.registered id connection delivery found delivering ended).1

theorem stopDelivery_quiet (found : (server.stopDelivery id).connections id = some connection)
    (delivering : connection.delivery = some delivery) : delivery.stopped = true := by
  rcases stopDelivery_cases server id with ⟨idle, none⟩ | ⟨_, _, known, _, stopped⟩
  · rw [idle] at found
    rw [none connection found] at delivering
    cases delivering
  · rw [stopped] at found
    simp only [onConnection_self, known, map_some, Option.some.injEq] at found
    subst found
    obtain ⟨_, -, rfl⟩ := map_eq_some_iff.mp delivering
    rfl

theorem Attended.stopDelivery (attended : server.Attended woken) (fresh : server.stale id = false) :
    (server.stopDelivery id).Attended woken ∧
      server.mailbox.Keeps (some id) (server.stopDelivery id).mailbox := by
  have sound := attended.sound.stopDelivery id
  have quiet : ∀ connection delivery, (server.stopDelivery id).connections id = some connection →
      connection.delivery = some delivery → delivery.stopped = true := fun _ _ => stopDelivery_quiet
  rcases stopDelivery_cases server id with ⟨idle, -⟩ | ⟨connection, _, found, delivering, stopped⟩
  · rw [idle]
    exact ⟨attended, .refl _ _⟩
  have captured := attended.captured fresh found delivering
  have still : (server.onConnection id HostConnection.stopDelivery).Attended woken := by
    refine attended.calm id identical_stopDelivery (fun connection _ => ⟨rfl, fun opened => opened, ?_⟩)
      fun connection _ faithful => ?_
    · rintro _ known running
      obtain ⟨_, -, rfl⟩ := map_eq_some_iff.mp known
      cases running
    · exact faithful.onDelivery (fun _ => rfl) (fun _ => rfl) fun _ _ => rfl
  rw [stopped] at sound quiet ⊢
  refine ⟨⟨sound, attended.ordered, attended.opened, attended.published, ?_, still.attentive, still.faithful⟩,
    MailboxListeners.keeps_unsubscribe captured⟩
  intro other connection' delivery' found' delivering' running
  have different : other ≠ id := by
    rintro rfl
    rw [quiet connection' delivery' found' delivering'] at running
    cases running
  obtain ⟨listed, member⟩ := still.registered other connection' delivery' found' delivering' running
  exact MailboxListeners.unsubscribe_registered captured different listed member

theorem stale_onConnection (server : AgentHostServer) (id : SessionId) (change : HostConnection → HostConnection)
    (same : ∀ connection, (change connection).hostId = connection.hostId)
    (kept : ∀ connection, (change connection).delivery = connection.delivery) :
    (server.onConnection id change).stale id = server.stale id := by
  simp only [stale, onConnection_self, onConnection_mailbox]
  cases server.connections id with
  | none => rfl
  | some => simp [same, kept]

theorem connection_accept {fresh connection : HostConnection}
    (found : (server.accept fresh).connections id = some connection) :
    fresh = connection ∨ id ≠ server.nextSession ∧ server.connections id = some connection := by
  by_cases here : id = server.nextSession <;> simp_all [AgentHostServer.accept]

section
variable (attended : server.Attended woken)
include attended

theorem Attended.stopSessionWork (fresh : server.stale id = false) : (server.stopSessionWork id).Attended woken ∧
      server.mailbox.Keeps (some id) (server.stopSessionWork id).mailbox :=
  (attended.clearTimers id).stopDelivery ((stale_onConnection server id HostConnection.clearTimers (fun _ => rfl) fun _ => rfl).trans fresh)

theorem Attended.onSocketError (fresh : server.stale id = false) :
    (server.onSocketError id).Attended woken ∧ server.mailbox.Keeps (some id) (server.onSocketError id).mailbox := by
  obtain ⟨stopped, kept⟩ := attended.stopSessionWork fresh
  exact ⟨stopped.terminate id, kept⟩

theorem Attended.removeSession (hostId : OpaqueId) :
    { server with sessions := update server.sessions hostId none }.Attended woken := by
  refine { attended with
    sound := attended.sound.removeSession hostId
    attentive := fun id connection delivery found delivering running current rest => ?_ }
  refine attended.attentive id connection delivery found delivering running ?_ rest
  obtain ⟨opened, listed, socket⟩ := current_iff.mp current
  refine current_iff.mpr ⟨opened, ?_, socket⟩
  by_cases here : connection.hostId = hostId
  · simp [here] at listed
  · simpa [update_of_ne here] using listed

theorem Attended.onSocketClosed (fresh : ∀ id', server.stops (.socketClosed id) = some id' → server.stale id' = false) :
    (server.onSocketClosed id).Attended woken ∧
      server.mailbox.Keeps (server.stops (.socketClosed id)) (server.onSocketClosed id).mailbox := by
  unfold AgentHostServer.onSocketClosed
  split
  · exact ⟨attended, .refl _ _⟩
  rename_i connection found
  split
  · exact ⟨attended, .refl _ _⟩
  rename_i alive
  have stopping : server.stops (.socketClosed id) = some id := by simp [stops, found, alive]
  rw [stopping]
  obtain ⟨stopped, kept⟩ := attended.stopSessionWork (fresh id stopping)
  have closed := stopped.closed id
  simp only
  split
  · exact ⟨closed.removeSession _, kept⟩
  · exact ⟨closed, kept⟩

theorem Attended.disconnectHost (fresh : ∀ id, server.sessions hostId = some id → server.stale id = false) :
    (server.disconnectHost hostId).Attended woken ∧
      server.mailbox.Keeps (server.sessions hostId) (server.disconnectHost hostId).mailbox := by
  unfold AgentHostServer.disconnectHost
  split
  · exact ⟨attended, .refl _ _⟩
  rename_i id listed
  have same := stale_onConnection server id
    (fun connection => { connection with sessionInitialized := false }) (fun _ => rfl) fun _ => rfl
  obtain ⟨stopped, kept⟩ := (attended.uninitialized id).stopSessionWork (same.trans (fresh id listed))
  rw [listed]
  exact ⟨stopped.close id 4003, kept⟩

theorem Attended.supersede (fresh : ∀ id, server.sessions hostId = some id → server.stale id = false) :
    (server.supersede hostId).Attended woken ∧
      server.mailbox.Keeps (server.sessions hostId) (server.supersede hostId).mailbox := by
  unfold AgentHostServer.supersede
  split
  · exact ⟨attended, .refl _ _⟩
  · rename_i id listed
    obtain ⟨stopped, kept⟩ := attended.stopSessionWork (fresh id listed)
    rw [listed]
    exact ⟨stopped.close id 4001, kept⟩

theorem Attended.accept (hostId : OpaqueId) (exact' historical : Bool) :
    (server.accept { hostId, exactPermissionOptions := exact', historicalPermissionReplay := historical }).Attended
      woken := by
  refine { attended with sound := attended.sound.accept _ rfl, registered := ?_, attentive := ?_, faithful := ?_ }
  · intro id connection delivery found delivering
    rcases connection_accept found with rfl | ⟨_, found⟩
    · cases delivering
    · exact attended.registered id connection delivery found delivering
  · intro id connection delivery found delivering running current rest
    rcases connection_accept found with rfl | ⟨here, found⟩
    · cases delivering
    · refine attended.attentive id connection delivery found delivering running ?_ rest
      obtain ⟨opened, listed, socket⟩ := current_iff.mp current
      refine current_iff.mpr ⟨opened, ?_, socket⟩
      simp only [AgentHostServer.accept] at listed
      by_cases same : connection.hostId = hostId
      · rw [same, update_self, Option.some.injEq] at listed
        exact absurd listed.symm here
      · rwa [update_of_ne same] at listed
  · intro id connection found
    rcases connection_accept found with rfl | ⟨_, found⟩
    · exact ⟨List.Pairwise.nil, fun _ member => (by cases member), fun _ => rfl, fun _ => rfl,
        fun opened => (by cases opened), fun _ known => (by cases known), fun _ known => (by cases known)⟩
    · exact attended.faithful id connection found
end
end Stops
end AgentHostServer
end PlanWeave
