import PlanWeave.AgentHost.SessionFrames

namespace PlanWeave
open Function List MailboxListeners MailboxMessage Option

/-- A row as one host may learn of it: the acknowledgements of the other hosts are not its business. -/
def MailboxMessage.seenBy (viewer : OpaqueId) (row : MailboxMessage) : MailboxMessage :=
  if row.hostId = viewer then row else { row with acknowledged := false }

structure MailboxStore.Alike (viewer : OpaqueId) (left right : MailboxStore) : Prop where
  rows : left.rows.map (seenBy viewer) = right.rows.map (seenBy viewer)
  lastRowid : left.lastRowid = right.lastRowid
  cursor : left.lastAcknowledgedSequence viewer = right.lastAcknowledgedSequence viewer
  revoked : left.revoked viewer = right.revoked viewer

structure AgentHostServer.Alike (viewer : OpaqueId) (left right : AgentHostServer) : Prop where
  closing : left.closing = right.closing
  nextSession : left.nextSession = right.nextSession
  owner : ∀ id, left.owner id = right.owner id
  session : left.sessions viewer = right.sessions viewer
  connection : ∀ id, left.owner id = some viewer → left.connections id = right.connections id
  listener : left.mailbox.listeners viewer = right.mailbox.listeners viewer
  set : ∀ ref, left.owner ref = some viewer → left.mailbox.sets ref = right.mailbox.sets ref
  store : left.store.Alike viewer right.store

namespace MailboxStore
variable {viewer hostId messageId : OpaqueId} {left right middle store : MailboxStore} {sequence : Nat}

theorem Alike.refl (viewer : OpaqueId) (store : MailboxStore) : store.Alike viewer store := ⟨rfl, rfl, rfl, rfl⟩

theorem Alike.trans (first : left.Alike viewer middle) (second : middle.Alike viewer right) : left.Alike viewer right :=
  ⟨first.rows.trans second.rows, first.lastRowid.trans second.lastRowid, first.cursor.trans second.cursor,
    first.revoked.trans second.revoked⟩

theorem Alike.find (alike : left.Alike viewer right) (wanted : MailboxMessage → Bool)
    (blind : ∀ row, wanted (row.seenBy viewer) = wanted row) :
    (left.rows.find? wanted).map (seenBy viewer) =
      (right.rows.find? wanted).map (seenBy viewer) := by
  have searched : ∀ rows : List MailboxMessage, (rows.map (seenBy viewer)).find? wanted =
      (rows.find? wanted).map (seenBy viewer) := by
    intro rows
    rw [find?_map]
    congr 2
    funext row
    exact blind row
  rw [← searched, ← searched, alike.rows]

theorem seenBy_own {row : MailboxMessage} (own : row.hostId = viewer) : row.seenBy viewer = row := by
  simp [seenBy, own]

section
variable (row : MailboxMessage)
include row

@[simp] theorem seenBy_fields : (row.seenBy viewer).hostId = row.hostId ∧ (row.seenBy viewer).sequence = row.sequence ∧
    (row.seenBy viewer).messageId = row.messageId ∧ (row.seenBy viewer).command = row.command := by
  unfold seenBy
  split <;> exact ⟨rfl, rfl, rfl, rfl⟩
end

section
variable (alike : left.Alike viewer right)
include alike

theorem Alike.find_own (wanted : MailboxMessage → Bool)
    (blind : ∀ row, wanted (row.seenBy viewer) = wanted row) (own : ∀ row, wanted row = true → row.hostId = viewer) :
    left.rows.find? wanted = right.rows.find? wanted := by
  have found : ∀ rows : List MailboxMessage, (rows.find? wanted).map (seenBy viewer) = rows.find? wanted := by
    intro rows
    cases search : rows.find? wanted with
    | none => rfl
    | some row =>
      rw [map_some, seenBy_own (own row (find?_some search))]
  rw [← found left.rows, ← found right.rows, alike.find wanted blind]

theorem Alike.nextAfter (sequence : Nat) : left.nextAfter viewer sequence = right.nextAfter viewer sequence :=
  alike.find_own _ (by simp) fun _ wanted => (of_decide_eq_true wanted).1

theorem Alike.row (sequence : Nat) : left.row viewer sequence = right.row viewer sequence :=
  alike.find_own _ (by simp) fun _ wanted => (of_decide_eq_true wanted).1

theorem Alike.hasAcknowledgedSequence (sequence : Nat) :
    left.hasAcknowledgedSequence viewer sequence = right.hasAcknowledgedSequence viewer sequence := by
  have searched : ∀ store : MailboxStore, store.hasAcknowledgedSequence viewer sequence =
      (store.rows.map (seenBy viewer)).any
        fun row => row.hostId = viewer ∧ row.sequence = sequence ∧ row.acknowledged := by
    intro store
    rw [List.any_map]
    unfold MailboxStore.hasAcknowledgedSequence
    congr 1
    funext row
    by_cases own : row.hostId = viewer
    · simp [seenBy_own own]
    · simp [own]
  rw [searched, searched, alike.rows]

theorem Alike.acknowledgeSequence (sequence : Nat) : (∃ error, left.acknowledgeSequence viewer sequence = .error error ∧
      right.acknowledgeSequence viewer sequence = .error error) ∨
    ∃ left' right', left.acknowledgeSequence viewer sequence = .ok left' ∧
      right.acknowledgeSequence viewer sequence = .ok right' ∧ left'.Alike viewer right' := by
  unfold MailboxStore.acknowledgeSequence
  rw [← alike.row sequence, ← alike.cursor, ← alike.revoked]
  split
  · exact .inl ⟨_, rfl, rfl⟩
  split
  · exact .inr ⟨_, _, rfl, rfl, alike⟩
  split
  · exact .inl ⟨_, rfl, rfl⟩
  refine .inr ⟨_, _, rfl, rfl, ?_, alike.lastRowid, ?_, alike.revoked⟩
  · have marked : ∀ rows : List MailboxMessage,
        (rows.map fun row => if row.hostId = viewer ∧ row.sequence = sequence then
          { row with acknowledged := true } else row).map (seenBy viewer) =
        (rows.map (seenBy viewer)).map fun row =>
          if row.hostId = viewer ∧ row.sequence = sequence then { row with acknowledged := true } else row := by
      intro rows
      rw [List.map_map, List.map_map]
      refine List.map_congr_left fun row _ => ?_
      by_cases own : row.hostId = viewer
      · by_cases here : row.sequence = sequence <;> simp [own, here, seenBy]
      · simp [own, seenBy]
    rw [marked, marked, alike.rows]
  · simp only
    split
    · exact alike.cursor
    · simp
end

theorem alike_acknowledgeSequence {acknowledged : MailboxStore} (foreign : hostId ≠ viewer)
    (done : store.acknowledgeSequence hostId sequence = .ok acknowledged) : store.Alike viewer acknowledged := by
  unfold MailboxStore.acknowledgeSequence at done
  split at done
  · cases done
  split at done
  · cases done
    exact Alike.refl viewer store
  split at done
  · cases done
  cases done
  refine ⟨?_, rfl, ?_, rfl⟩
  · rw [List.map_map]
    refine List.map_congr_left fun row _ => ?_
    by_cases marked : row.hostId = hostId ∧ row.sequence = sequence
    · simp [marked, seenBy, foreign]
    · simp [marked]
  · simp only
    split
    · rfl
    · rw [update_of_ne foreign.symm]

section
variable (alike : left.Alike viewer right)
include alike

theorem Alike.lastSequence (hostId : OpaqueId) : left.lastSequence hostId = right.lastSequence hostId := by
  have listed : ∀ rows : List MailboxMessage, (rows.filter (·.hostId = hostId)).map (·.sequence) =
      ((rows.map (seenBy viewer)).filter (·.hostId = hostId)).map (·.sequence) := by
    intro rows
    rw [List.filter_map, List.map_map]
    congr 1
    · funext row
      simp
    · congr 1
      funext row
      simp
  unfold MailboxStore.lastSequence
  rw [listed left.rows, listed right.rows, alike.rows]

theorem Alike.message (messageId : OpaqueId) : (left.message messageId).map (seenBy viewer) =
      (right.message messageId).map (seenBy viewer) :=
  alike.find _ (by simp)

theorem Alike.enqueueOnce (messageId hostId : OpaqueId) (command : MailboxCommand) :
    (∃ error, left.enqueueOnce messageId hostId command = .error error ∧
      right.enqueueOnce messageId hostId command = .error error) ∨
    ∃ left' right', left.enqueueOnce messageId hostId command = .ok left' ∧
      right.enqueueOnce messageId hostId command = .ok right' ∧ left'.Alike viewer right' := by
  have same := alike.message messageId
  unfold MailboxStore.enqueueOnce
  cases known : left.message messageId with
  | none =>
    rw [known, map_none] at same
    rw [map_eq_none_iff.mp same.symm]
    refine .inr ⟨_, _, rfl, rfl, ?_, congrArg (· + 1) alike.lastRowid, alike.cursor, alike.revoked⟩
    simp [alike.rows, alike.lastRowid, alike.lastSequence hostId]
  | some row =>
    rw [known, map_some] at same
    obtain ⟨row', known', shown⟩ := map_eq_some_iff.mp same.symm
    have host : row'.hostId = row.hostId := by simpa using congrArg MailboxMessage.hostId shown
    have command' : row'.command = row.command := by simpa using congrArg MailboxMessage.command shown
    rw [known']
    simp only [host, command']
    split
    · exact .inl ⟨_, rfl, rfl⟩
    · exact .inr ⟨_, _, rfl, rfl, alike⟩
end
end MailboxStore

namespace AgentHostServer
variable {viewer hostId : OpaqueId} {left right middle server after : AgentHostServer} {id other : SessionId}
  {connection : HostConnection} {change : HostConnection → HostConnection}

theorem Alike.refl (viewer : OpaqueId) (server : AgentHostServer) : server.Alike viewer server :=
  ⟨rfl, rfl, fun _ => rfl, rfl, fun _ _ => rfl, rfl, fun _ _ => rfl, MailboxStore.Alike.refl viewer _⟩

theorem Alike.trans (first : left.Alike viewer middle) (second : middle.Alike viewer right) : left.Alike viewer right where
  closing := first.closing.trans second.closing
  nextSession := first.nextSession.trans second.nextSession
  owner id := (first.owner id).trans (second.owner id)
  session := first.session.trans second.session
  connection id own := (first.connection id own).trans (second.connection id (first.owner id ▸ own))
  listener := first.listener.trans second.listener
  set ref own := (first.set ref own).trans (second.set ref (first.owner ref ▸ own))
  store := first.store.trans second.store

theorem Alike.symm (alike : left.Alike viewer right) : right.Alike viewer left where
  closing := alike.closing.symm
  nextSession := alike.nextSession.symm
  owner id := (alike.owner id).symm
  session := alike.session.symm
  connection id own := (alike.connection id ((alike.owner id).trans own)).symm
  listener := alike.listener.symm
  set ref own := (alike.set ref ((alike.owner ref).trans own)).symm
  store := ⟨alike.store.rows.symm, alike.store.lastRowid.symm, alike.store.cursor.symm, alike.store.revoked.symm⟩

section Foreign

theorem alike_onConnection (foreign : server.owner id ≠ some viewer)
    (same : ∀ connection, (change connection).hostId = connection.hostId) :
    server.Alike viewer (server.onConnection id change) where
  closing := rfl
  nextSession := rfl
  owner other := (owner_onConnection same).symm
  session := rfl
  connection other own := (onConnection_other (by rintro rfl; exact foreign own)).symm
  listener := rfl
  set _ _ := rfl
  store := MailboxStore.Alike.refl viewer _

theorem alike_unsubscribe {ref : SessionId} (different : hostId ≠ viewer) (foreign : server.owner ref ≠ some viewer) :
    server.Alike viewer { server with mailbox := server.mailbox.unsubscribe hostId ref id } where
  closing := rfl
  nextSession := rfl
  owner _ := rfl
  session := rfl
  connection _ _ := rfl
  listener := by
    simp only [unsubscribe]
    split
    · rw [update_of_ne different.symm]
    · rfl
  set other own := by
    have apart : other ≠ ref := fun here => foreign (here ▸ own)
    simp [unsubscribe, update_of_ne apart]
  store := MailboxStore.Alike.refl viewer _

theorem alike_stopDelivery (sound : server.Sound) (foreign : server.owner id ≠ some viewer) :
    server.Alike viewer (server.stopDelivery id) := by
  rcases stopDelivery_cases server id with ⟨idle, -⟩ | ⟨connection, delivery, found, delivering, stopped⟩
  · rw [idle]
    exact Alike.refl viewer server
  rw [stopped]
  have different : connection.hostId ≠ viewer := fun same => foreign (same ▸ owner_of found)
  have subscribed := sound.subscription id connection delivery found delivering
  refine (alike_onConnection foreign identical_stopDelivery.hostId).trans (alike_unsubscribe different ?_)
  rw [owner_onConnection identical_stopDelivery.hostId, subscribed]
  exact fun same => different (Option.some.inj same)

theorem alike_session (different : hostId ≠ viewer) (session : Option SessionId) :
    server.Alike viewer { server with sessions := update server.sessions hostId session } where
  closing := rfl
  nextSession := rfl
  owner _ := rfl
  session := by simp [update_of_ne different.symm]
  connection _ _ := rfl
  listener := rfl
  set _ _ := rfl
  store := MailboxStore.Alike.refl viewer _

theorem alike_store {store : MailboxStore} (alike : server.store.Alike viewer store) :
    server.Alike viewer { server with store } :=
  ⟨rfl, rfl, fun _ => rfl, rfl, fun _ _ => rfl, rfl, fun _ _ => rfl, alike⟩

theorem alike_serve (different : hostId ≠ viewer) (event : HostEvent) (verdict : ServiceVerdict) (store : MailboxStore) :
    store.Alike viewer (serve hostId event verdict store).1 := by
  cases event with
  | other => exact MailboxStore.Alike.refl viewer store
  | mailboxAck _ sequence =>
    simp only [serve, acknowledge]
    cases verdict.inbox with
    | reused => exact MailboxStore.Alike.refl viewer store
    | repeated =>
      simp only
      split <;> rename_i result <;> split at result <;> cases result <;> exact MailboxStore.Alike.refl viewer store
    | fresh =>
      cases done : store.acknowledgeSequence hostId sequence with
      | error => exact MailboxStore.Alike.refl viewer store
      | ok => exact MailboxStore.alike_acknowledgeSequence different done

theorem alike_subscribe (sound : server.Sound) (foreign : server.owner id = some hostId) (different : hostId ≠ viewer) :
    server.Alike viewer { server with mailbox := (server.mailbox.subscribe hostId id).1 } where
  closing := rfl
  nextSession := rfl
  owner _ := rfl
  session := rfl
  connection _ _ := rfl
  listener := by simp [subscribe, update_of_ne different.symm]
  set ref own := by
    have apart : ref ≠ (server.mailbox.subscribe hostId id).2 := by
      rintro rfl
      rw [subscribe_owner sound foreign] at own
      exact different (Option.some.inj own)
    simp only [subscribe] at apart ⊢
    rw [update_of_ne apart]
  store := MailboxStore.Alike.refl viewer _

theorem greeted_hostId (delivery : MailboxDelivery) (connection : HostConnection) :
    (connection.greeted delivery).hostId = connection.hostId :=
  (identical_send (.welcome delivery.lastAcknowledgedSequence)).hostId connection

structure Serves (id : SessionId) (server after : AgentHostServer) : Prop where
  sound : after.Sound
  alike : ∀ viewer, server.owner id ≠ some viewer → server.Alike viewer after

structure SameSessions (server after : AgentHostServer) : Prop where
  owner : ∀ id, after.owner id = server.owner id
  nextSession : after.nextSession = server.nextSession

theorem SameSessions.trans (first : server.SameSessions middle) (second : middle.SameSessions after) :
    server.SameSessions after :=
  ⟨fun id => (second.owner id).trans (first.owner id), second.nextSession.trans first.nextSession⟩

/-- What another host cannot tell from the server as it was has opened no session. -/
theorem Alike.sameSessions (alike : server.Alike viewer after) : server.SameSessions after :=
  ⟨fun id => (alike.owner id).symm, alike.nextSession.symm⟩

def sampleHost : OpaqueId := ⟨"host-1", by decide⟩
def otherHost : OpaqueId := ⟨"host-2", by decide⟩

theorem exists_foreign (owner : Option OpaqueId) : ∃ viewer, owner ≠ some viewer := by
  by_cases first : owner = some sampleHost
  · exact ⟨otherHost, by rw [first]; decide⟩
  · exact ⟨sampleHost, first⟩

theorem Serves.same (serves : Serves id server after) : server.SameSessions after := by
  obtain ⟨viewer, foreign⟩ := exists_foreign (server.owner id)
  exact (serves.alike viewer foreign).sameSessions

theorem Serves.trans (first : Serves id server middle) (second : Serves id middle after) : Serves id server after :=
  ⟨second.sound, fun viewer foreign => (first.alike viewer foreign).trans
    (second.alike viewer (by rwa [first.same.owner]))⟩

theorem Sound.serves (sound : server.Sound) : Serves id server server := ⟨sound, fun viewer _ => Alike.refl viewer server⟩

theorem Serves.host (serves : Serves id server after) (owned : server.owner id = some hostId) :
    after.Sound ∧ ∀ viewer, hostId ≠ viewer → server.Alike viewer after :=
  ⟨serves.sound, fun viewer different => serves.alike viewer fun same => different (Option.some.inj (owned.symm.trans same))⟩

section
variable (serves : Serves id server middle)
include serves

theorem Serves.onConnection (same : Identical change) : Serves id server (middle.onConnection id change) :=
  serves.trans ⟨serves.sound.onConnection id same, fun _ foreign => alike_onConnection foreign same.hostId⟩

theorem Serves.stopDelivery : Serves id server (middle.stopDelivery id) :=
  serves.trans ⟨serves.sound.stopDelivery id, fun _ foreign => alike_stopDelivery serves.sound foreign⟩

theorem Serves.stopSessionWork : Serves id server (middle.stopSessionWork id) :=
  (serves.onConnection identical_clearTimers).stopDelivery

theorem Serves.wake : Serves id server (middle.wake id) := by
  unfold AgentHostServer.wake
  split
  · exact serves
  · exact serves.onConnection (identical_onDelivery (wake_subscription _))

theorem Serves.failDelivery (code : RejectionCode) : Serves id server (middle.failDelivery code id) := by
  unfold AgentHostServer.failDelivery
  split
  · exact serves
  · split
    · exact serves.stopDelivery.onConnection (identical_send _)
    · exact serves

theorem Serves.onSocketError : Serves id server (middle.onSocketError id) :=
  serves.stopSessionWork.onConnection identical_terminate

theorem Serves.onSocketClosed : Serves id server (middle.onSocketClosed id) := by
  unfold AgentHostServer.onSocketClosed
  split
  · exact serves
  rename_i connection found
  split
  · exact serves
  have stopped := serves.stopSessionWork.onConnection identical_closed
  have owned : server.owner id = some connection.hostId := (serves.same.owner id).symm.trans (owner_of found)
  simp only
  split
  · exact ⟨stopped.sound.removeSession _, fun viewer foreign => (stopped.alike viewer foreign).trans
      (alike_session (fun same => foreign (owned.trans (congrArg some same))) none)⟩
  · exact stopped

theorem Serves.onMessage (frame : HostFrame) : Serves id server (middle.onMessage id frame) := by
  unfold AgentHostServer.onMessage
  split
  · exact serves
  · split
    · exact serves
    · exact serves.onConnection (identical_withProcessing _)

section
variable (owned : middle.owner id = some hostId)
include owned

theorem Serves.handleHostEvent (event : HostEvent) (verdict : ServiceVerdict) :
    Serves id server (middle.handleHostEvent id hostId event verdict).1 := by
  have called := serves.onConnection (identical_withHandled event)
  have served : Serves id server { middle.onConnection id (HostConnection.withHandled event) with
      store := (serve hostId event verdict middle.store).1 } :=
    ⟨called.sound.withStore _, fun viewer foreign => (called.alike viewer foreign).trans (alike_store (alike_serve
      (fun same => foreign ((serves.same.owner id).symm.trans (owned.trans (congrArg some same)))) event verdict _))⟩
  unfold AgentHostServer.handleHostEvent
  simp only
  split
  · exact served
  · exact served.onConnection (identical_acknowledgeEvent event)

theorem Serves.welcome (cursor : Nat) : Serves id server (middle.welcome id hostId cursor) := by
  have subscribed : Serves id middle { middle with mailbox := (middle.mailbox.subscribe hostId id).1 } :=
    ⟨serves.sound.subscribe owned, fun _ foreign => alike_subscribe serves.sound owned fun same =>
      foreign (owned.trans (congrArg some same))⟩
  have inside : { middle with mailbox := (middle.mailbox.subscribe hostId id).1 }.owner
      (middle.mailbox.subscribe hostId id).2 = some hostId := subscribe_owner serves.sound owned
  exact ((serves.trans subscribed).trans ⟨subscribed.sound.deliver owned inside (greeted_hostId _) fun _ => rfl,
    fun _ foreign => alike_onConnection foreign (greeted_hostId _)⟩).wake

theorem Serves.handleHello (frame : HostFrame) (verdict : ServiceVerdict) :
    Serves id server (middle.handleHello id hostId frame verdict).1 := by
  unfold AgentHostServer.handleHello
  split
  · split
    · exact serves
    split
    · exact serves
    split
    · exact serves
    · split
      · exact serves.welcome owned _
      · exact serves
  · exact serves
end

theorem Serves.handleFrame (owned : middle.owner id = some connection.hostId) (frame : HostFrame)
    (verdict : ServiceVerdict) : Serves id server (middle.handleFrame id connection frame verdict).1 :=
  handleFrame_cases (motive := fun handled => Serves id server handled.1) (fun _ _ => serves)
    (fun _ => serves.handleHello owned frame verdict) fun event _ => serves.handleHostEvent owned event verdict

theorem Serves.reject (code : RejectionCode) :
    (middle.reject id code).Sound ∧ server.SameSessions (middle.reject id code) := by
  have told := serves.onConnection (identical_send (.protocolError code))
  unfold AgentHostServer.reject
  split
  · have shut : server.SameSessions { middle.onConnection id (HostConnection.send (.protocolError code)) with
        closing := true } := ⟨told.same.owner, told.same.nextSession⟩
    have closed : Serves id _ _ := told.sound.shut.serves.stopSessionWork.onConnection (identical_close 4003)
    exact ⟨closed.sound, shut.trans closed.same⟩
  · exact ⟨told.sound, told.same⟩

theorem Serves.onEventAcknowledged (failed : Bool) : Serves id server (middle.onEventAcknowledged id failed) := by
  unfold AgentHostServer.onEventAcknowledged
  split
  · exact serves
  split
  · exact serves
  have called := serves.onConnection (identical_withAcknowledging ‹List Nat›)
  split
  · exact called.onSocketError
  · exact called.onConnection (identical_onDelivery (confirm_subscription _ _))

theorem Serves.pump (connection : HostConnection) (delivery : MailboxDelivery) (bufferedAmount : Nat) :
    Serves id server (middle.pump id connection delivery bufferedAmount) := by
  have delayed := serves.onConnection (identical_onDelivery retryBuffer_subscription)
  unfold AgentHostServer.pump
  split
  · exact serves
  split
  · exact delayed
  split
  · exact serves
  split
  · exact serves.failDelivery _
  split
  · exact serves
  · split
    · exact delayed
    · exact (serves.onConnection (identical_transmit _ _)).wake

theorem Serves.onImmediate (bufferedAmount : Nat) : Serves id server (middle.onImmediate id bufferedAmount) := by
  unfold AgentHostServer.onImmediate
  split
  · exact serves
  split
  · exact serves
  · split
    · exact serves
    · exact (serves.onConnection identical_immediateFired).pump _ _ bufferedAmount

theorem Serves.onRetry : Serves id server (middle.onRetry id) := by
  unfold AgentHostServer.onRetry
  split
  · exact serves
  · split
    · exact (serves.onConnection identical_retryFired).wake
    · exact serves
end

section
variable (sound : server.Sound)
include sound

theorem Sound.processFrame_serves (spared : server.shutsOut id = false) (verdict : ServiceVerdict) :
    Serves id server (server.processFrame id verdict) := by
  have taken : ∀ rest, Serves id server _ := fun rest => sound.serves.onConnection (identical_withProcessing rest)
  refine processFrame_cases spared sound.serves taken ?_
  intro connection frame rest handled code found _ _ served
  have answered := (taken rest).handleFrame (((taken rest).same.owner id).trans (owner_of found)) frame verdict
  rw [served] at answered
  cases code with
  | none => exact answered
  | some => exact answered.onConnection (identical_send _)

theorem Sound.processFrame (id : SessionId) (verdict : ServiceVerdict) :
    (server.processFrame id verdict).Sound ∧ server.SameSessions (server.processFrame id verdict) := by
  have idle : server.Sound ∧ server.SameSessions server := ⟨sound, fun _ => rfl, rfl⟩
  unfold AgentHostServer.processFrame
  split
  · exact idle
  rename_i connection found
  split
  · exact idle
  rename_i frame rest _
  have taken : Serves id server _ := sound.serves.onConnection (identical_withProcessing rest)
  have handled := taken.handleFrame ((taken.same.owner id).trans (owner_of found)) frame verdict
  simp only
  split
  · exact ⟨taken.sound, taken.same⟩
  split
  · rename_i served
    rw [served] at handled
    exact ⟨handled.sound, handled.same⟩
  · rename_i served
    rw [served] at handled
    exact handled.reject _

theorem Sound.disconnectHost (hostId : OpaqueId) : (server.disconnectHost hostId).Sound ∧
    ∀ viewer, hostId ≠ viewer → server.Alike viewer (server.disconnectHost hostId) := by
  unfold AgentHostServer.disconnectHost
  split
  · exact ⟨sound, fun viewer _ => Alike.refl viewer server⟩
  · rename_i listed
    exact ((sound.serves.onConnection identical_uninitialized).stopSessionWork.onConnection (identical_close 4003)).host
      (sound.session hostId _ listed)

theorem Sound.supersede (hostId : OpaqueId) : (server.supersede hostId).Sound ∧
    ∀ viewer, hostId ≠ viewer → server.Alike viewer (server.supersede hostId) := by
  unfold AgentHostServer.supersede
  split
  · exact ⟨sound, fun viewer _ => Alike.refl viewer server⟩
  · rename_i listed
    exact (sound.serves.stopSessionWork.onConnection (identical_close 4001)).host (sound.session hostId _ listed)

theorem Sound.wakeAll (members : List SessionId) : (members.foldl (fun server id => server.wake id) server).Sound ∧
    server.SameSessions (members.foldl (fun server id => server.wake id) server) := by
  induction members generalizing server with
  | nil => exact ⟨sound, fun _ => rfl, rfl⟩
  | cons id _ ih =>
    have woken : Serves id server (server.wake id) := sound.serves.wake
    exact ⟨(ih woken.sound).1, woken.same.trans (ih woken.sound).2⟩

theorem Sound.publish (messageId : OpaqueId) :
    (server.publish messageId).Sound ∧ server.SameSessions (server.publish messageId) := by
  unfold AgentHostServer.publish
  split
  · exact ⟨sound, fun _ => rfl, rfl⟩
  · obtain ⟨woken, same⟩ := (sound.published _).wakeAll (server.mailbox.of _)
    exact ⟨woken, same.owner, same.nextSession⟩
end

theorem alike_revoke (different : hostId ≠ viewer) : server.Alike viewer (server.revoke hostId) :=
  alike_store ⟨rfl, rfl, rfl, by simp [update_of_ne different.symm]⟩

end Foreign
end AgentHostServer
end PlanWeave
