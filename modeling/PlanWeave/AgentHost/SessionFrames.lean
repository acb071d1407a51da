import PlanWeave.AgentHost.Session

namespace PlanWeave
open Function HostConnection List MailboxDelivery Option

def AgentHostServer.owner (server : AgentHostServer) (id : SessionId) : Option OpaqueId :=
  (server.connections id).map (·.hostId)

namespace AgentHostServer
variable {server before : AgentHostServer} {id other : SessionId} {hostId : OpaqueId}
  {connection : HostConnection} {change : HostConnection → HostConnection}

structure Sound (server : AgentHostServer) : Prop where
  fresh : ∀ id, server.nextSession ≤ id → server.connections id = none
  session : ∀ hostId id, server.sessions hostId = some id → server.owner id = some hostId
  subscription : ∀ id connection delivery, server.connections id = some connection →
    connection.delivery = some delivery → server.owner delivery.subscription = some connection.hostId
  registered : ∀ hostId ref, server.mailbox.listeners hostId = some ref → server.owner ref = some hostId
  members : ∀ ref id, id ∈ server.mailbox.sets ref → server.owner id = server.owner ref ∧ (server.owner ref).isSome

theorem owner_of (found : server.connections id = some connection) : server.owner id = some connection.hostId := by
  rw [owner, found]
  rfl

@[simp] theorem onConnection_self (id : SessionId) (change : HostConnection → HostConnection) :
    (server.onConnection id change).connections id = (server.connections id).map change := by
  simp [onConnection]

theorem onConnection_other (different : other ≠ id) :
    (server.onConnection id change).connections other = server.connections other := by
  simp [onConnection, update_of_ne different]

@[simp] theorem onConnection_store : (server.onConnection id change).store = server.store := rfl
@[simp] theorem onConnection_mailbox : (server.onConnection id change).mailbox = server.mailbox := rfl
structure Identical (change : HostConnection → HostConnection) : Prop where
  hostId : ∀ connection, (change connection).hostId = connection.hostId
  subscription : ∀ connection, (change connection).delivery.map (·.subscription) =
    connection.delivery.map (·.subscription)

theorem owner_onConnection (same : ∀ connection, (change connection).hostId = connection.hostId) :
    (server.onConnection id change).owner other = server.owner other := by
  unfold owner
  by_cases here : other = id
  · subst here
    simp [comp_def, same]
  · rw [onConnection_other here]

theorem Identical.comp {change' : HostConnection → HostConnection} (first : Identical change)
    (second : Identical change') : Identical (change' ∘ change) :=
  ⟨fun connection => (second.hostId _).trans (first.hostId connection),
    fun connection => (second.subscription _).trans (first.subscription connection)⟩

theorem identical_onDelivery {update : MailboxDelivery → MailboxDelivery}
    (same : ∀ delivery, (update delivery).subscription = delivery.subscription) :
    Identical (onDelivery update) := by
  refine ⟨fun _ => rfl, fun connection => ?_⟩
  simp [onDelivery, Option.map_map, comp_def, same]

theorem identical_close (code : Nat) : Identical (close code) := by
  constructor <;> intro connection <;> unfold close <;> split <;> rfl

theorem identical_terminate : Identical terminate := by
  constructor <;> intro connection <;> unfold terminate <;> split <;> rfl

theorem identical_send (frame : ServerFrame) : Identical (send frame) := by
  constructor <;> intro connection <;> unfold send <;> split <;> rfl

theorem identical_withProcessing (frames : List HostFrame) : Identical (withProcessing frames) :=
  ⟨fun _ => rfl, fun _ => rfl⟩

theorem identical_withHandled (event : HostEvent) : Identical (withHandled event) :=
  ⟨fun _ => rfl, fun _ => rfl⟩

theorem identical_withAcknowledging (sequences : List Nat) : Identical (withAcknowledging sequences) :=
  ⟨fun _ => rfl, fun _ => rfl⟩

theorem identical_transmit (message : MailboxMessage) (bytes : Nat) :
    Identical (HostConnection.transmit message bytes) :=
  (identical_send _).comp (identical_onDelivery fun _ => rfl)

theorem identical_acknowledgeEvent (event : HostEvent) : Identical (acknowledgeEvent event) := by
  cases event with
  | mailboxAck messageId =>
    exact ⟨(identical_send (.eventAck messageId)).hostId, (identical_send (.eventAck messageId)).subscription⟩
  | other messageId => exact identical_send (.eventAck messageId)

theorem identical_clearTimers : Identical clearTimers := ⟨fun _ => rfl, fun _ => rfl⟩

theorem identical_closed : Identical fun connection => { connection with socket := .closed } :=
  ⟨fun _ => rfl, fun _ => rfl⟩

theorem identical_uninitialized : Identical fun connection => { connection with sessionInitialized := false } :=
  ⟨fun _ => rfl, fun _ => rfl⟩

theorem identical_helloTimeout : Identical fun connection =>
    if connection.helloTimeout then { connection with helloTimeout := false }.close 4002 else connection := by
  constructor <;> intro connection <;> split
  · exact (identical_close 4002).hostId { connection with helloTimeout := false }
  · rfl
  · exact (identical_close 4002).subscription { connection with helloTimeout := false }
  · rfl

theorem identical_ping : Identical fun connection =>
    if !connection.pingTimer then connection
    else if connection.alive then { connection with alive := false } else connection.terminate := by
  constructor <;> intro connection <;> split
  · rfl
  · split
    · rfl
    · exact identical_terminate.hostId connection
  · rfl
  · split
    · rfl
    · exact identical_terminate.subscription connection

theorem identical_pong : Identical fun connection => { connection with alive := true } := ⟨fun _ => rfl, fun _ => rfl⟩

theorem identical_immediateFired : Identical (onDelivery immediateFired) :=
  identical_onDelivery fun _ => rfl

theorem identical_retryFired : Identical (onDelivery retryFired) :=
  identical_onDelivery fun _ => rfl

theorem wake_subscription (active : Bool) (delivery : MailboxDelivery) :
    (delivery.wake active).subscription = delivery.subscription := by
  unfold MailboxDelivery.wake
  split <;> rfl

theorem confirm_subscription (active : Bool) (sequence : Nat) (delivery : MailboxDelivery) :
    (delivery.confirm active sequence).subscription = delivery.subscription := by
  unfold confirm
  split
  · rfl
  · exact wake_subscription active _

theorem retryBuffer_subscription (delivery : MailboxDelivery) :
    delivery.retryBuffer.subscription = delivery.subscription := by
  unfold retryBuffer
  split <;> rfl

theorem Sound.onConnection (sound : server.Sound) (id : SessionId) (same : Identical change) :
    (server.onConnection id change).Sound where
  fresh other unknown := by
    by_cases here : other = id
    · subst here
      rw [onConnection_self, sound.fresh other unknown]
      rfl
    · rw [onConnection_other here]
      exact sound.fresh other unknown
  session hostId other registered := by
    rw [owner_onConnection same.hostId]
    exact sound.session hostId other registered
  subscription other connection delivery found delivering := by
    rw [owner_onConnection same.hostId]
    by_cases here : other = id
    · subst here
      rw [onConnection_self, map_eq_some_iff] at found
      obtain ⟨old, known, rfl⟩ := found
      have kept := same.subscription old
      rw [delivering, map_some] at kept
      obtain ⟨delivery', known', subscribed⟩ := map_eq_some_iff.mp kept.symm
      rw [same.hostId, ← subscribed]
      exact sound.subscription other old delivery' known known'
    · rw [onConnection_other here] at found
      exact sound.subscription other connection delivery found delivering
  registered hostId ref listed := by
    rw [owner_onConnection same.hostId]
    exact sound.registered hostId ref listed
  members ref other member := by
    rw [owner_onConnection same.hostId, owner_onConnection same.hostId]
    exact sound.members ref other member

theorem Sound.withStore (sound : server.Sound) (store : MailboxStore) : { server with store }.Sound :=
  ⟨sound.fresh, sound.session, sound.subscription, sound.registered, sound.members⟩

theorem Sound.shut (sound : server.Sound) : { server with closing := true }.Sound :=
  ⟨sound.fresh, sound.session, sound.subscription, sound.registered, sound.members⟩

theorem Sound.published (sound : server.Sound) (published : List Nat) : { server with published }.Sound :=
  ⟨sound.fresh, sound.session, sound.subscription, sound.registered, sound.members⟩

variable {mailbox : MailboxListeners} {verdict : ServiceVerdict}
variable {ref : SessionId}
variable {ref' : SessionId} {frame : HostFrame}

theorem mem_unsubscribe
    (member : other ∈ (mailbox.unsubscribe hostId ref id).sets ref') : other ∈ mailbox.sets ref' := by
  simp only [MailboxListeners.unsubscribe] at member
  by_cases here : ref' = ref
  · subst here
    rw [update_self] at member
    exact (mem_filter.mp member).1
  · rwa [update_of_ne here] at member

theorem registered_unsubscribe {hostId' : OpaqueId}
    (listed : (mailbox.unsubscribe hostId ref id).listeners hostId' = some ref') :
    mailbox.listeners hostId' = some ref' := by
  simp only [MailboxListeners.unsubscribe] at listed
  split at listed
  · by_cases here : hostId' = hostId
    · rw [here, update_self] at listed
      cases listed
    · rwa [update_of_ne here] at listed
  · exact listed

theorem Sound.unsubscribe (sound : server.Sound) (hostId : OpaqueId) (ref id : SessionId) :
    { server with mailbox := server.mailbox.unsubscribe hostId ref id }.Sound :=
  ⟨sound.fresh, sound.session, sound.subscription,
    fun _ _ listed => sound.registered _ _ (registered_unsubscribe listed),
    fun _ _ member => sound.members _ _ (mem_unsubscribe member)⟩

theorem identical_stopDelivery : Identical HostConnection.stopDelivery := by
  refine ⟨fun _ => rfl, fun connection => ?_⟩
  simp [HostConnection.stopDelivery, Option.map_map, comp_def, stop]

theorem stopDelivery_cases (server : AgentHostServer) (id : SessionId) :
    (server.stopDelivery id = server ∧ ∀ connection, server.connections id = some connection → connection.delivery = none) ∨
    ∃ connection delivery, server.connections id = some connection ∧ connection.delivery = some delivery ∧
      server.stopDelivery id = { server.onConnection id HostConnection.stopDelivery with
        mailbox := server.mailbox.unsubscribe connection.hostId delivery.subscription id } := by
  cases found : server.connections id with
  | none => exact .inl ⟨by simp [stopDelivery, found], fun _ => (nomatch ·)⟩
  | some connection =>
    cases delivering : connection.delivery with
    | none =>
      refine .inl ⟨by simp [stopDelivery, found, delivering], ?_⟩
      rintro _ ⟨⟩
      exact delivering
    | some delivery =>
      exact .inr ⟨connection, delivery, rfl, delivering, by simp [stopDelivery, found, delivering]⟩

theorem Sound.stopDelivery (sound : server.Sound) (id : SessionId) : (server.stopDelivery id).Sound := by
  rcases stopDelivery_cases server id with ⟨idle, -⟩ | ⟨_, _, -, -, stopped⟩
  · rw [idle]
    exact sound
  · rw [stopped]
    exact (sound.onConnection _ identical_stopDelivery).unsubscribe _ _ _

theorem Sound.removeSession (sound : server.Sound) (hostId : OpaqueId) :
    { server with sessions := Function.update server.sessions hostId none }.Sound := by
  refine ⟨sound.fresh, fun other id listed => ?_, sound.subscription, sound.registered, sound.members⟩
  by_cases here : other = hostId
  · simp [here] at listed
  · exact sound.session other id (by simpa [update_of_ne here] using listed)

theorem subscribe_members (member : other ∈ (mailbox.subscribe hostId id).1.sets ref) :
    other ∈ mailbox.sets ref ∨ (ref = (mailbox.subscribe hostId id).2 ∧ other = id) := by
  simp only [MailboxListeners.subscribe] at member ⊢
  by_cases here : ref = (mailbox.listeners hostId).getD id
  · rw [← here, update_self] at member
    by_cases listed : (mailbox.listeners hostId).isSome
    · rw [if_pos listed] at member
      split at member
      · exact .inl member
      · rcases mem_append.mp member with known | new
        · exact .inl known
        · exact .inr ⟨here, mem_singleton.mp new⟩
    · rw [if_neg listed] at member
      simp at member
      exact .inr ⟨here, member⟩
  · rw [update_of_ne here] at member
    exact .inl member

section
variable (sound : server.Sound) (owned : server.owner id = some hostId)
include sound owned

theorem subscribe_owner : server.owner (server.mailbox.subscribe hostId id).2 = some hostId := by
  simp only [MailboxListeners.subscribe]
  cases listed : server.mailbox.listeners hostId with
  | none => exact owned
  | some ref => exact sound.registered hostId ref listed

theorem Sound.subscribe : { server with mailbox := (server.mailbox.subscribe hostId id).1 }.Sound := by
  refine ⟨sound.fresh, sound.session, sound.subscription, fun other ref listed => ?_, fun ref other member => ?_⟩
  · by_cases here : other = hostId
    · subst here
      simp only [MailboxListeners.subscribe, update_self, Option.some.injEq] at listed
      exact listed ▸ subscribe_owner sound owned
    · simp only [MailboxListeners.subscribe] at listed
      rw [update_of_ne here] at listed
      exact sound.registered other ref listed
  · rcases subscribe_members member with known | ⟨rfl, rfl⟩
    · exact sound.members ref other known
    · have same : server.owner (server.mailbox.subscribe hostId other).2 = some hostId := subscribe_owner sound owned
      exact ⟨owned.trans same.symm, isSome_of_eq_some same⟩

theorem Sound.deliver
    (subscribed : server.owner ref = some hostId) (same : ∀ connection, (change connection).hostId = connection.hostId)
    (held : ∀ connection, (change connection).delivery.map (·.subscription) = some ref) :
    (server.onConnection id change).Sound := by
  refine ⟨fun other unknown => ?_, fun other id' listed => ?_, fun other connection delivery found delivering => ?_,
    fun other ref' listed => ?_, fun ref' other member => ?_⟩
  · by_cases here : other = id
    · subst here
      rw [onConnection_self, sound.fresh other unknown]
      rfl
    · rw [onConnection_other here]
      exact sound.fresh other unknown
  · rw [owner_onConnection same]
    exact sound.session other id' listed
  · rw [owner_onConnection same]
    by_cases here : other = id
    · subst here
      rw [onConnection_self, map_eq_some_iff] at found
      obtain ⟨old, known, rfl⟩ := found
      have kept := held old
      rw [delivering, map_some, Option.some.injEq] at kept
      rw [same, kept, subscribed, ← owned, owner_of known]
    · rw [onConnection_other here] at found
      exact sound.subscription other connection delivery found delivering
  · rw [owner_onConnection same]
    exact sound.registered other ref' listed
  · rw [owner_onConnection same, owner_onConnection same]
    exact sound.members ref' other member
end

theorem handleFrame_cases {motive : AgentHostServer × Option RejectionCode → Prop}
    (refused : ∀ code, (code = .protocolVersionIncompatible → frame = .incompatible) → motive (server, some code))
    (hello : connection.initialized = false → motive (server.handleHello id connection.hostId frame verdict))
    (served : ∀ event, connection.initialized = true →
      motive (server.handleHostEvent id connection.hostId event verdict)) :
    motive (server.handleFrame id connection frame verdict) := by
  unfold handleFrame
  split
  · exact refused _ nofun
  · exact refused _ nofun
  · exact refused _ fun _ => rfl
  cases greeted : connection.initialized with
  | false => exact hello greeted
  | true =>
    simp only [Bool.not_true, Bool.false_eq_true, ↓reduceIte]
    split
    · split
      · exact refused _ nofun
      · split
        · exact refused _ nofun
        · exact served _ greeted
    · exact served _ greeted
    · exact refused _ nofun

theorem handleHello_code (frame : HostFrame) (verdict : ServiceVerdict) :
    (server.handleHello id hostId frame verdict).2 ≠ some .protocolVersionIncompatible := by
  unfold handleHello
  split
  · split
    · nofun
    split
    · nofun
    split
    · rename_i refused
      unfold helloCursor at refused
      simp only at refused
      split at refused
      · cases refused
        nofun
      · split at refused
        · cases refused
          nofun
        · cases refused
    · split <;> nofun
  · nofun

theorem serve_code (event : HostEvent) (verdict : ServiceVerdict) (store : MailboxStore) :
    (serve hostId event verdict store).2 ≠ some .protocolVersionIncompatible := by
  cases event with
  | other =>
    simp only [serve]
    split <;> nofun
  | mailboxAck _ sequence =>
    simp only [serve, acknowledge]
    cases verdict.inbox with
    | reused => nofun
    | repeated =>
      simp only
      split <;> rename_i result <;> split at result <;> cases result
      · nofun
      · split <;> nofun
    | fresh =>
      cases store.acknowledgeSequence hostId sequence with
      | error => nofun
      | ok =>
        simp only
        split <;> nofun

theorem handleHostEvent_code (event : HostEvent) (verdict : ServiceVerdict) :
    (server.handleHostEvent id hostId event verdict).2 ≠ some .protocolVersionIncompatible := by
  unfold handleHostEvent
  simp only
  split
  · rename_i code thrown
    exact thrown ▸ serve_code event verdict _
  · nofun

theorem handleFrame_incompatible :
    (server.handleFrame id connection frame verdict).2 = some .protocolVersionIncompatible → frame = .incompatible :=
  handleFrame_cases (motive := fun handled => handled.2 = some .protocolVersionIncompatible → frame = .incompatible)
    (fun _ incompatible refused => incompatible (Option.some.inj refused))
    (fun _ refused => absurd refused (handleHello_code frame verdict))
    fun event _ refused => absurd refused (handleHostEvent_code event verdict)

/-- The next link of the session's chain reads a message of an incompatible version that came before its hello. -/
def shutsOut (server : AgentHostServer) (id : SessionId) : Bool :=
  (server.connections id).any fun connection =>
    server.current id connection && !connection.initialized && connection.processing.head? = some .incompatible

/-- A link of the chain that shuts nobody out answers an error with a frame. -/
theorem processFrame_cases {motive : AgentHostServer → Prop}
    (spared : server.shutsOut id = false) (idle : motive server)
    (dropped : ∀ rest, motive (server.onConnection id (withProcessing rest)))
    (served : ∀ connection frame rest handled code, server.connections id = some connection →
      connection.processing = frame :: rest → server.current id connection = true →
      (server.onConnection id (withProcessing rest)).handleFrame id connection frame verdict =
        (handled, code) →
      motive (code.elim handled fun code => handled.onConnection id (send (.protocolError code)))) :
    motive (server.processFrame id verdict) := by
  unfold processFrame
  split
  · exact idle
  rename_i connection found
  split
  · exact idle
  rename_i frame rest queued
  simp only
  split
  · exact dropped rest
  rename_i outdated
  have current : server.current id connection = true := by simpa using outdated
  have answered := fun handled code => served connection frame rest handled code found queued current
  split
  · rename_i handled result
    exact answered handled none result
  rename_i handled code result
  have told : handled.reject id code = handled.onConnection id (send (.protocolError code)) := by
    refine if_neg ?_
    rintro ⟨rfl, early⟩
    obtain rfl : frame = .incompatible := handleFrame_incompatible (congrArg Prod.snd result)
    cases result
    have initialized : connection.initialized = true := by
      simpa [shutsOut, found, queued, current] using spared
    simp [found, withProcessing, initialized] at early
  rw [told]
  exact answered handled (some code) result

section
variable (sound : server.Sound)
include sound

theorem owner_accept (connection : HostConnection) {owner : OpaqueId}
    (owned : server.owner id = some owner) : (server.accept connection).owner id = some owner := by
  have known : id ≠ server.nextSession := by
    rintro rfl
    simp [AgentHostServer.owner, sound.fresh _ le_rfl] at owned
  simpa [AgentHostServer.owner, accept, update_of_ne known] using owned

theorem Sound.accept (connection : HostConnection) (undelivered : connection.delivery = none) :
    (server.accept connection).Sound := by
  refine ⟨fun id unknown => ?_, fun hostId id listed => ?_, fun id found delivery known delivering => ?_,
    fun hostId ref listed => owner_accept sound connection (sound.registered hostId ref listed), fun ref id member => ?_⟩
  · have later : server.nextSession < id := Nat.lt_of_succ_le unknown
    show Function.update _ _ _ _ = _
    rw [update_of_ne (Nat.ne_of_gt later)]
    exact sound.fresh id (Nat.le_of_lt later)
  · by_cases here : hostId = connection.hostId
    · subst here
      simp only [AgentHostServer.accept, update_self, Option.some.injEq] at listed
      subst listed
      simp [AgentHostServer.owner, AgentHostServer.accept]
    · refine owner_accept sound connection (sound.session hostId id ?_)
      simpa [AgentHostServer.accept, update_of_ne here] using listed
  · by_cases here : id = server.nextSession
    · subst here
      simp only [AgentHostServer.accept, update_self, Option.some.injEq] at known
      rw [← known, undelivered] at delivering
      cases delivering
    · refine owner_accept sound connection (sound.subscription id found delivery ?_ delivering)
      simpa [AgentHostServer.accept, update_of_ne here] using known
  · obtain ⟨same, owned⟩ := sound.members ref id member
    obtain ⟨_, known⟩ := isSome_iff_exists.mp owned
    rw [owner_accept sound connection known, owner_accept sound connection (same.trans known)]
    exact ⟨rfl, rfl⟩
end

theorem sound_started (store : MailboxStore) : ({ store } : AgentHostServer).Sound :=
  ⟨fun _ _ => rfl, fun _ _ => (nomatch ·), fun _ _ _ => (nomatch ·), fun _ _ => (nomatch ·), fun _ _ => (nomatch ·)⟩

end AgentHostServer
end PlanWeave
