import PlanWeave.AgentHost.Mailbox

namespace PlanWeave

inductive SocketState where
  | «open» | closing | closed
deriving DecidableEq

def maxInflightMessages : Nat := 32
def maxInflightBytes : Nat := 128 * 1024
def maxBufferedBytes : Nat := 128 * 1024

/-- An event that passed the event schema. The session tells the acknowledgement from the others only. -/
inductive HostEvent where
  | mailboxAck (messageId : OpaqueId) (sequence : Nat)
  | other (messageId : OpaqueId)
deriving DecidableEq

def HostEvent.messageId : HostEvent → OpaqueId
  | mailboxAck messageId _ => messageId
  | other messageId => messageId

inductive HostFrame where
  | binary
  | invalidJson
  /-- An object whose `protocolVersion` is not the one of the server. -/
  | incompatible
  | malformed
  | hello (supportedExecutionEnvelopeVersions : Bool) (lastAcknowledgedSequence lastAcknowledgementRecoverySequence : Nat)
  /-- `host.permission_history` with the event that its text holds, if it parses. -/
  | permissionHistory (event : Option HostEvent)
  | event (event : HostEvent)
deriving DecidableEq

/-- The code of `publicHostProtocolRejection`, as far as the session depends on it. -/
inductive RejectionCode where
  | protocolVersionIncompatible | executionEnvelopeVersionIncompatible | mailboxCursorNotAcknowledged | schemaInvalid
  | invalidJson | binaryMessagesNotSupported | historicalPermissionReplayUnsupported | storedCommandProtocolIncompatible
  | mailbox (error : MailboxError)
  | service
deriving DecidableEq

inductive ServerFrame where
  | welcome (lastAcknowledgedSequence : Nat)
  | mailboxMessage (sequence : Nat)
  | eventAck (messageId : OpaqueId)
  | protocolError (code : RejectionCode)

/-- How the services behind a session answer one frame: what the inbox holds under the message id, and whether the
repositories that the frame reaches accept it. -/
inductive InboxVerdict where
  | fresh | repeated | reused
deriving DecidableEq

structure ServiceVerdict where
  inbox : InboxVerdict := .fresh
  accepts : Bool := true
deriving DecidableEq

structure MailboxDelivery where
  lastAcknowledgedSequence : Nat
  sentSequence : Nat
  confirmedSequence : Nat
  inflight : List (Nat × Nat) := []
  inflightBytes : Nat := 0
  stopped : Bool := false
  scheduled : Bool := false
  retry : Bool := false
  /-- The set that `unsubscribe` captured. -/
  subscription : SessionId

/-- The variables of one `handleConnection` closure with its `HostSession` and the frames handed to its socket. -/
structure HostConnection where
  hostId : OpaqueId
  exactPermissionOptions : Bool := true
  historicalPermissionReplay : Bool := true
  socket : SocketState := .open
  closedWith : Option Nat := none
  initialized : Bool := false
  sessionInitialized : Bool := false
  alive : Bool := true
  helloTimeout : Bool := true
  pingTimer : Bool := true
  delivery : Option MailboxDelivery := none
  /-- The frames whose link of the `processing` chain has not run. -/
  processing : List HostFrame := []
  /-- The acknowledgements whose `host.event_ack` is with the socket and whose callback has not run. -/
  acknowledging : List Nat := []
  handled : List HostEvent := []
  frames : List ServerFrame := []

/-- The state that `attachAgentHostWebSocketServer` closes over, with the mailbox. -/
structure AgentHostServer where
  store : MailboxStore := {}
  mailbox : MailboxListeners := {}
  sessions : OpaqueId → Option SessionId := fun _ => none
  connections : SessionId → Option HostConnection := fun _ => none
  nextSession : SessionId := 0
  closing : Bool := false
  published : List Nat := []

namespace MailboxDelivery

def stop (delivery : MailboxDelivery) : MailboxDelivery :=
  { delivery with stopped := true, scheduled := false, retry := false, inflight := [], inflightBytes := 0 }

def immediateFired (delivery : MailboxDelivery) : MailboxDelivery := { delivery with scheduled := false }

def retryFired (delivery : MailboxDelivery) : MailboxDelivery := { delivery with retry := false }

def wake (active : Bool) (delivery : MailboxDelivery) : MailboxDelivery :=
  if !active || delivery.scheduled || delivery.retry then delivery else { delivery with scheduled := true }

def retryBuffer (delivery : MailboxDelivery) : MailboxDelivery :=
  if delivery.retry then delivery else { delivery with retry := true }

/-- The second half of `confirm`, once the acknowledgement is known to be news. -/
def confirmed (sequence : Nat) (delivery : MailboxDelivery) : MailboxDelivery :=
  { delivery with
    confirmedSequence := sequence
    sentSequence := max delivery.sentSequence sequence
    inflight := delivery.inflight.filter (sequence < ·.1)
    inflightBytes := delivery.inflightBytes - ((delivery.inflight.filter (·.1 ≤ sequence)).map (·.2)).sum }

def confirm (active : Bool) (sequence : Nat) (delivery : MailboxDelivery) : MailboxDelivery :=
  if !active || sequence ≤ delivery.confirmedSequence then delivery else (delivery.confirmed sequence).wake active

def sent (message : MailboxMessage) (bytes : Nat) (delivery : MailboxDelivery) : MailboxDelivery :=
  { delivery with
    sentSequence := message.sequence
    inflight := delivery.inflight ++ [(message.sequence, bytes)]
    inflightBytes := delivery.inflightBytes + bytes }

end MailboxDelivery

def serializeMessage (historicalPermissionReplay : Bool) (command : MailboxCommand) : Except RejectionCode Nat :=
  match command.form with
  | .permissionHistory =>
    if historicalPermissionReplay then .ok command.bytes else .error .historicalPermissionReplayUnsupported
  | .outdated => .error .storedCommandProtocolIncompatible
  | .current => .ok command.bytes

namespace HostConnection

def clearTimers (connection : HostConnection) : HostConnection :=
  { connection with helloTimeout := false, pingTimer := false }

def close (code : Nat) (connection : HostConnection) : HostConnection :=
  if connection.socket = .open then { connection with socket := .closing, closedWith := some code } else connection

def terminate (connection : HostConnection) : HostConnection :=
  if connection.socket = .open then { connection with socket := .closing } else connection

def send (frame : ServerFrame) (connection : HostConnection) : HostConnection :=
  if connection.socket = .open then { connection with frames := connection.frames ++ [frame] } else connection

def stopDelivery (connection : HostConnection) : HostConnection :=
  { connection with delivery := connection.delivery.map MailboxDelivery.stop }

def onDelivery (change : MailboxDelivery → MailboxDelivery) (connection : HostConnection) : HostConnection :=
  { connection with delivery := connection.delivery.map change }

def withProcessing (frames : List HostFrame) (connection : HostConnection) : HostConnection :=
  { connection with processing := frames }

def withHandled (event : HostEvent) (connection : HostConnection) : HostConnection :=
  { connection with handled := connection.handled ++ [event] }

def withAcknowledging (sequences : List Nat) (connection : HostConnection) : HostConnection :=
  { connection with acknowledging := sequences }

def greeted (delivery : MailboxDelivery) (connection : HostConnection) : HostConnection :=
  { connection.send (.welcome delivery.lastAcknowledgedSequence) with
    initialized := true, sessionInitialized := true, helloTimeout := false, delivery := some delivery }

def transmit (message : MailboxMessage) (bytes : Nat) (connection : HostConnection) : HostConnection :=
  (connection.send (.mailboxMessage message.sequence)).onDelivery (MailboxDelivery.sent message bytes)

end HostConnection

namespace AgentHostServer

def onConnection (id : SessionId) (change : HostConnection → HostConnection) (server : AgentHostServer) :
    AgentHostServer :=
  { server with connections := Function.update server.connections id ((server.connections id).map change) }

/-- The delivery of the session `id` may send: `isActive()` of the session and an open socket. -/
def current (server : AgentHostServer) (id : SessionId) (connection : HostConnection) : Bool :=
  !server.closing && server.sessions connection.hostId = some id && connection.socket = .open

def active (server : AgentHostServer) (id : SessionId) (connection : HostConnection) : Bool :=
  server.current id connection && (connection.delivery.any (!·.stopped))

/-- `delivery.stop()`; it unsubscribes every time it is called. -/
def stopDelivery (id : SessionId) (server : AgentHostServer) : AgentHostServer :=
  match server.connections id with
  | none => server
  | some connection =>
    match connection.delivery with
    | none => server
    | some delivery =>
      { server.onConnection id HostConnection.stopDelivery with
        mailbox := server.mailbox.unsubscribe connection.hostId delivery.subscription id }

def stopSessionWork (id : SessionId) (server : AgentHostServer) : AgentHostServer :=
  (server.onConnection id HostConnection.clearTimers).stopDelivery id

def wake (id : SessionId) (server : AgentHostServer) : AgentHostServer :=
  match server.connections id with
  | none => server
  | some connection =>
    server.onConnection id (HostConnection.onDelivery (MailboxDelivery.wake (server.active id connection)))

def failDelivery (code : RejectionCode) (id : SessionId) (server : AgentHostServer) : AgentHostServer :=
  match server.connections id with
  | none => server
  | some connection =>
    if connection.delivery.any (!·.stopped) then
      (server.stopDelivery id).onConnection id (HostConnection.send (.protocolError code))
    else server

def supersede (hostId : OpaqueId) (server : AgentHostServer) : AgentHostServer :=
  match server.sessions hostId with
  | none => server
  | some prior => (server.stopSessionWork prior).onConnection prior (HostConnection.close 4001)

def accept (connection : HostConnection) (server : AgentHostServer) : AgentHostServer :=
  { server with
    sessions := Function.update server.sessions connection.hostId (some server.nextSession)
    connections := Function.update server.connections server.nextSession (some connection)
    nextSession := server.nextSession + 1 }

def handleConnection (hostId : OpaqueId) (exactPermissionOptions historicalPermissionReplay : Bool)
    (server : AgentHostServer) : AgentHostServer :=
  (server.supersede hostId).accept { hostId, exactPermissionOptions, historicalPermissionReplay }

def onSocketError (id : SessionId) (server : AgentHostServer) : AgentHostServer :=
  (server.stopSessionWork id).onConnection id HostConnection.terminate

def onSocketClosed (id : SessionId) (server : AgentHostServer) : AgentHostServer :=
  match server.connections id with
  | none => server
  | some connection =>
    if connection.socket = .closed then server
    else
      let stopped := (server.stopSessionWork id).onConnection id fun connection => { connection with socket := .closed }
      if stopped.sessions connection.hostId = some id then
        { stopped with sessions := Function.update stopped.sessions connection.hostId none }
      else stopped

def disconnectHost (hostId : OpaqueId) (server : AgentHostServer) : AgentHostServer :=
  match server.sessions hostId with
  | none => server
  | some id =>
    ((server.onConnection id fun connection => { connection with sessionInitialized := false }).stopSessionWork
      id).onConnection id (HostConnection.close 4003)

/-- The `message` listener appends a link to the `processing` chain. -/
def onMessage (id : SessionId) (frame : HostFrame) (server : AgentHostServer) : AgentHostServer :=
  match server.connections id with
  | none => server
  | some connection =>
    if server.closing || connection.socket = .closed then server
    else server.onConnection id (HostConnection.withProcessing (connection.processing ++ [frame]))

/-- `mailbox.acknowledge`: the row must exist also when the inbox knows the message. -/
def acknowledge (hostId : OpaqueId) (sequence : Nat) (inbox : InboxVerdict) (store : MailboxStore) :
    Except RejectionCode MailboxStore :=
  match inbox with
  | .reused => .error .service
  | .repeated => if (store.row hostId sequence).isSome then .ok store else .error (.mailbox .ackBeyondHighestSequence)
  | .fresh =>
    match store.acknowledgeSequence hostId sequence with
    | .ok acknowledged => .ok acknowledged
    | .error error => .error (.mailbox error)

/-- `handleHostEvent` up to its `sendEvent`: the store it leaves and the error it throws. -/
def serve (hostId : OpaqueId) (event : HostEvent) (verdict : ServiceVerdict) (store : MailboxStore) :
    MailboxStore × Option RejectionCode :=
  match event with
  | .other _ => (store, if verdict.accepts ∧ verdict.inbox ≠ .reused then none else some .service)
  | .mailboxAck _ sequence =>
    match acknowledge hostId sequence verdict.inbox store with
    | .error code => (store, some code)
    | .ok acknowledged => (acknowledged, if verdict.accepts then none else some .service)

/-- `host.event_ack`, with a callback if the event is an acknowledgement. -/
def acknowledgeEvent (event : HostEvent) (connection : HostConnection) : HostConnection :=
  match event with
  | .mailboxAck messageId sequence =>
    { connection.send (.eventAck messageId) with
      acknowledging := if connection.socket = .open then connection.acknowledging ++ [sequence]
        else connection.acknowledging }
  | .other messageId => connection.send (.eventAck messageId)

def handleHostEvent (id : SessionId) (hostId : OpaqueId) (event : HostEvent) (verdict : ServiceVerdict)
    (server : AgentHostServer) : AgentHostServer × Option RejectionCode :=
  let called := server.onConnection id (HostConnection.withHandled event)
  let served := serve hostId event verdict called.store
  match served.2 with
  | some code => ({ called with store := served.1 }, some code)
  | none => ({ called with store := served.1 }.onConnection id (acknowledgeEvent event), none)

def helloCursor (hostId : OpaqueId) (lastAcknowledgedSequence lastAcknowledgementRecoverySequence : Nat)
    (store : MailboxStore) : Except RejectionCode Nat :=
  let cursor := min (store.lastAcknowledgedSequence hostId) lastAcknowledgementRecoverySequence
  if store.lastAcknowledgedSequence hostId < lastAcknowledgedSequence then .error .mailboxCursorNotAcknowledged
  else if 0 < cursor ∧ store.hasAcknowledgedSequence hostId cursor = false then .error .mailboxCursorNotAcknowledged
  else .ok cursor

/-- What a welcomed session does: `host.welcome`, a delivery from the cursor on, and its first wake. -/
def welcome (id : SessionId) (hostId : OpaqueId) (cursor : Nat) (server : AgentHostServer) : AgentHostServer :=
  let subscribed := server.mailbox.subscribe hostId id
  ({ server with mailbox := subscribed.1 }.onConnection id (HostConnection.greeted
    { lastAcknowledgedSequence := cursor, sentSequence := cursor, confirmedSequence := cursor
      subscription := subscribed.2 })).wake id

def handleHello (id : SessionId) (hostId : OpaqueId) (frame : HostFrame) (verdict : ServiceVerdict)
    (server : AgentHostServer) : AgentHostServer × Option RejectionCode :=
  match frame with
  | .hello supported lastAcknowledged lastRecovery =>
    if lastRecovery < lastAcknowledged then (server, some .schemaInvalid)
    else if !supported then (server, some .executionEnvelopeVersionIncompatible)
    else match helloCursor hostId lastAcknowledged lastRecovery server.store with
      | .error code => (server, some code)
      | .ok cursor => if verdict.accepts then (server.welcome id hostId cursor, none) else (server, some .service)
  | _ => (server, some .schemaInvalid)

/-- One link of the `processing` chain up to its `catch`. -/
def handleFrame (id : SessionId) (connection : HostConnection) (frame : HostFrame) (verdict : ServiceVerdict)
    (server : AgentHostServer) : AgentHostServer × Option RejectionCode :=
  match frame with
  | .binary => (server, some .binaryMessagesNotSupported)
  | .invalidJson => (server, some .invalidJson)
  | .incompatible => (server, some .protocolVersionIncompatible)
  | frame =>
    if !connection.initialized then server.handleHello id connection.hostId frame verdict
    else match frame with
      | .permissionHistory event =>
        if !connection.historicalPermissionReplay || !connection.exactPermissionOptions then
          (server, some .historicalPermissionReplayUnsupported)
        else match event with
          | none => (server, some .schemaInvalid)
          | some event => server.handleHostEvent id connection.hostId event verdict
      | .event event => server.handleHostEvent id connection.hostId event verdict
      | _ => (server, some .schemaInvalid)

/-- The `catch` of the chain. An incompatible version before the hello shuts the session out, and sets `closing`. -/
def reject (id : SessionId) (code : RejectionCode) (server : AgentHostServer) : AgentHostServer :=
  let told := server.onConnection id (HostConnection.send (.protocolError code))
  if code = .protocolVersionIncompatible ∧ (server.connections id).any (!·.initialized) then
    ({ told with closing := true }.stopSessionWork id).onConnection id (HostConnection.close 4003)
  else told

def processFrame (id : SessionId) (verdict : ServiceVerdict) (server : AgentHostServer) : AgentHostServer :=
  match server.connections id with
  | none => server
  | some connection =>
    match connection.processing with
    | [] => server
    | frame :: rest =>
      let taken := server.onConnection id (HostConnection.withProcessing rest)
      if !server.current id connection then taken
      else match taken.handleFrame id connection frame verdict with
        | (handled, none) => handled
        | (handled, some code) => handled.reject id code

/-- The callback of the oldest `host.event_ack` that is with the socket. -/
def onEventAcknowledged (id : SessionId) (failed : Bool) (server : AgentHostServer) : AgentHostServer :=
  match server.connections id with
  | none => server
  | some connection =>
    match connection.acknowledging with
    | [] => server
    | sequence :: rest =>
      let called := server.onConnection id (HostConnection.withAcknowledging rest)
      if failed then called.onSocketError id
      else called.onConnection id
        (HostConnection.onDelivery (MailboxDelivery.confirm (server.active id connection) sequence))

/-- The window that `pump` keeps open, with the bytes of one more frame. -/
def MailboxDelivery.windowFull (delivery : MailboxDelivery) : Bool :=
  maxInflightMessages ≤ delivery.inflight.length || maxInflightBytes ≤ delivery.inflightBytes

/-- `socket.send(serialized)` followed by `wake()` -/
def transmit (id : SessionId) (message : MailboxMessage) (bytes : Nat) (server : AgentHostServer) : AgentHostServer :=
  (server.onConnection id (HostConnection.transmit message bytes)).wake id

def pump (id : SessionId) (connection : HostConnection) (delivery : MailboxDelivery) (bufferedAmount : Nat)
    (server : AgentHostServer) : AgentHostServer :=
  if !server.active id connection || MailboxDelivery.windowFull delivery then server
  else if maxBufferedBytes ≤ bufferedAmount then
    server.onConnection id (HostConnection.onDelivery MailboxDelivery.retryBuffer)
  else match server.store.nextAfter connection.hostId delivery.sentSequence with
    | none => server
    | some message =>
      match serializeMessage connection.historicalPermissionReplay message.command with
      | .error code => server.failDelivery code id
      | .ok bytes =>
        if delivery.inflight ≠ [] ∧ maxInflightBytes < delivery.inflightBytes + bytes then server
        else if 0 < bufferedAmount ∧ maxBufferedBytes < bufferedAmount + bytes then
          server.onConnection id (HostConnection.onDelivery MailboxDelivery.retryBuffer)
        else server.transmit id message bytes

/-- The `setImmediate` callback of `wake`. -/
def onImmediate (id : SessionId) (bufferedAmount : Nat) (server : AgentHostServer) : AgentHostServer :=
  match server.connections id with
  | none => server
  | some connection =>
    match connection.delivery with
    | none => server
    | some delivery =>
      if !delivery.scheduled then server
      else (server.onConnection id (HostConnection.onDelivery MailboxDelivery.immediateFired)).pump id connection
        delivery.immediateFired bufferedAmount

/-- The `setTimeout` callback of `retryBuffer`. -/
def onRetry (id : SessionId) (server : AgentHostServer) : AgentHostServer :=
  match server.connections id with
  | none => server
  | some connection =>
    if connection.delivery.any (·.retry) then
      (server.onConnection id (HostConnection.onDelivery MailboxDelivery.retryFired)).wake id
    else server

def onHelloTimeout (id : SessionId) (server : AgentHostServer) : AgentHostServer :=
  server.onConnection id fun connection =>
    if connection.helloTimeout then { connection with helloTimeout := false }.close 4002 else connection

def onPing (id : SessionId) (server : AgentHostServer) : AgentHostServer :=
  server.onConnection id fun connection =>
    if !connection.pingTimer then connection
    else if connection.alive then { connection with alive := false } else connection.terminate

def onPong (id : SessionId) (server : AgentHostServer) : AgentHostServer :=
  server.onConnection id fun connection => { connection with alive := true }

def enqueue (messageId hostId : OpaqueId) (command : MailboxCommand) (server : AgentHostServer) : AgentHostServer :=
  match server.store.enqueueOnce messageId hostId command with
  | .ok store => { server with store }
  | .error _ => server

def publish (messageId : OpaqueId) (server : AgentHostServer) : AgentHostServer :=
  match server.store.message messageId with
  | none => server
  | some message =>
    (server.mailbox.of message.hostId).foldl (fun server id => server.wake id)
      { server with published := server.published ++ [message.sequence] }

def revoke (hostId : OpaqueId) (server : AgentHostServer) : AgentHostServer :=
  { server with store := { server.store with revoked := Function.update server.store.revoked hostId true } }

end AgentHostServer

inductive AgentHostEvent where
  | connect (hostId : OpaqueId) (exactPermissionOptions historicalPermissionReplay : Bool)
  | message (id : SessionId) (frame : HostFrame)
  | process (id : SessionId) (verdict : ServiceVerdict)
  | eventAcknowledged (id : SessionId) (failed : Bool)
  | sendFailed (id : SessionId)
  | immediate (id : SessionId) (bufferedAmount : Nat)
  | retry (id : SessionId)
  | helloTimeout (id : SessionId)
  | ping (id : SessionId)
  | pong (id : SessionId)
  | socketError (id : SessionId)
  | socketClosed (id : SessionId)
  | enqueue (messageId hostId : OpaqueId) (command : MailboxCommand)
  | publish (messageId : OpaqueId)
  | revoke (hostId : OpaqueId)
  | disconnectHost (hostId : OpaqueId)
deriving DecidableEq

namespace AgentHostServer

def step (server : AgentHostServer) : AgentHostEvent → AgentHostServer
  | .connect hostId exact historical => server.handleConnection hostId exact historical
  | .message id frame => server.onMessage id frame
  | .process id verdict => server.processFrame id verdict
  | .eventAcknowledged id failed => server.onEventAcknowledged id failed
  | .sendFailed id => server.failDelivery .service id
  | .immediate id bufferedAmount => server.onImmediate id bufferedAmount
  | .retry id => server.onRetry id
  | .helloTimeout id => server.onHelloTimeout id
  | .ping id => server.onPing id
  | .pong id => server.onPong id
  | .socketError id => server.onSocketError id
  | .socketClosed id => server.onSocketClosed id
  | .enqueue messageId hostId command => server.enqueue messageId hostId command
  | .publish messageId => server.publish messageId
  | .revoke hostId => server.revoke hostId
  | .disconnectHost hostId => server.disconnectHost hostId

def run (server : AgentHostServer) (events : List AgentHostEvent) : AgentHostServer := events.foldl step server

end AgentHostServer
end PlanWeave
