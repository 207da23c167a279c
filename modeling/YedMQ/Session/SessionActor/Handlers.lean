import YedMQ.Session.SessionActor.Subscriptions

/-! # The session actor

What the actor does with its messages and with the results of its futures. Handlers run to
their end without being interrupted; they change the actor's own fields and start futures.
A future that keeps the write guard gives the lock back when it is done.
-/

namespace YedMQ.SessionActor

open Foundation Semantics Raft.SessionState

/-- What is left to do when a future is done. -/
inductive Completion where
  | nothing
  /-- The subscriptions are recovered; the messages that wait for the client come next. -/
  | recovered
  | popped (more : Bool)
  | delivered (reserved : Bool) (result : Except SessionActorError OutboundPublishDeliveryStatus)
  | deliveredRegistered (reserved : Bool) (deferred : DeferredOutboundPublish)
      (result : Except SessionActorError Bool)
  | published (result : Except HandlePublishError (Option Packet))
  | acknowledged (cleanup release : Bool)
  | retried (removed : List UInt16)
  | retriedAll (retryPackets : List Packet)
  | keepAliveWillSent
  | unexpectedWillSent
  | forceDisconnected (connectionAlreadyStopped : Bool)
  | protocolErrorWritten
  | stateDeleted
  | stopNotified
deriving DecidableEq

abbrev SessionStart := Start Op.Answer Completion

abbrev Handled := Session × List SessionStart

variable (future : Fut Completion)

def wait : SessionStart :=
  ⟨.wait, future⟩

def spawn : SessionStart :=
  ⟨.spawn, future⟩

def detach : SessionStart :=
  ⟨.detach, future⟩

/-! ## The futures of the actor -/

def quietly {α : Type} (future : Fut α) : Fut Completion := do
  let _ ← future
  return .nothing

def deliveryTask (publish : Publish) (context : OutboundPublishDeliveryContext)
    (reserved : Bool) : Fut Completion := do
  let result ← deliverOutboundPublish publish context
  return .delivered reserved result

def registeredTask (deferred : DeferredOutboundPublish)
    (context : OutboundPublishDeliveryContext) (reserved : Bool) : Fut Completion := do
  let result ← deliverRegistered deferred.publish context
  return .deliveredRegistered reserved deferred result

def publishTask (publish : Publish) (context : ClientContext) : Fut Completion := do
  let result ← doHandlePublish publish context
  return .published result

variable (packetId : UInt16)

def pubackTask (context : ClientContext) : Fut Completion := do
  let release ← handlePuback packetId context
  return .acknowledged (context.cleanSession && release) release

def pubrecTask (context : ClientContext) : Fut Completion := do
  let release ← handlePubrec packetId context
  return .acknowledged false release

def pubrelTask (context : ClientContext) : Fut Completion := do
  let cleanup ← handlePubrel packetId context
  return .acknowledged cleanup false

def pubcompTask (context : ClientContext) : Fut Completion := do
  handlePubcomp packetId context
  return .acknowledged context.cleanSession false

def retryTask (context : OutboundPublishDeliveryContext) (deferredPacketIds : List UInt16) :
    Fut Completion := do
  let removed ← inflightRetry context deferredPacketIds
  return .retried removed

def retryAllTask (context : OutboundPublishDeliveryContext) : Fut Completion := do
  let retryPackets ← allInflightRetryImmediate context
  return .retriedAll retryPackets

def Handled.andThen (handled : Handled) (next : Session → Handled) : Handled :=
  ((next handled.1).1, handled.2 ++ (next handled.1).2)

namespace Session

variable (session : Session)

def clientContext : ClientContext where
  tenantId := session.tenantId
  clientId := session.clientId
  cleanSession := session.cleanSession

def outboundDeliveryContext (deferDelivery : Bool) : OutboundPublishDeliveryContext where
  tenantId := session.tenantId
  clientId := session.clientId
  cleanSession := session.cleanSession
  protocolVersion := session.protocolVersion
  activityState := session.activityState
  connected := session.connected
  deferDelivery := deferDelivery

/-! ## The client's quota -/

def receiveMaximumLimit : Nat :=
  max session.receiveMaximum.toNat 1

def outboundPublishUsesReceiveSlot (publish : Publish) (session : Session) : Bool :=
  session.protocolVersion = .v5_0 && session.activityState = .active && 0 < publish.qos

def canReserveReceiveSlot : Bool :=
  session.outboundReceiveSlotsInUse < session.receiveMaximumLimit

def reserveReceiveSlot : Session :=
  { session with outboundReceiveSlotsInUse := session.outboundReceiveSlotsInUse + 1 }

def releaseReceiveSlot : Session :=
  { session with outboundReceiveSlotsInUse := session.outboundReceiveSlotsInUse - 1 }

def reserveIf (reserved : Bool) (session : Session) : Session :=
  if reserved then session.reserveReceiveSlot else session

def releaseIf (reserved : Bool) (session : Session) : Session :=
  if reserved then session.releaseReceiveSlot else session

def deferPublish (deferred : DeferredOutboundPublish) (session : Session) : Session :=
  { session with
    deferredOutboundPublishes := session.deferredOutboundPublishes ++ [deferred] }

def setDeferred (deferred : List DeferredOutboundPublish) (session : Session) : Session :=
  { session with deferredOutboundPublishes := deferred }

end Session

/-- Deliver a message. Without a free slot, a clean session keeps the message in the actor,
and a persistent session registers it first. The delivery of a persistent session is waited
for. -/
def startOutboundPublishDelivery (publish : Publish) (session : Session) : Handled :=
  let usesReceiveSlot := session.outboundPublishUsesReceiveSlot publish
  let deferDelivery := usesReceiveSlot && !session.canReserveReceiveSlot
  if deferDelivery && session.cleanSession then
    (session.deferPublish ⟨publish, false⟩, [])
  else
    let reserved := usesReceiveSlot && !deferDelivery
    let delivery := deliveryTask publish (session.outboundDeliveryContext deferDelivery) reserved
    (session.reserveIf reserved, [if session.cleanSession then spawn delivery else wait delivery])

def startRegisteredDelivery (deferred : DeferredOutboundPublish) (session : Session) :
    Handled :=
  let reserved := session.outboundPublishUsesReceiveSlot deferred.publish
  (session.reserveIf reserved,
    [wait (registeredTask deferred (session.outboundDeliveryContext false) reserved)])

def drainLoop : Nat → Session → Handled
  | 0, session => (session, [])
  | fuel + 1, session =>
    match session.deferredOutboundPublishes with
    | [] => (session, [])
    | next :: rest =>
      if session.outboundPublishUsesReceiveSlot next.publish && !session.canReserveReceiveSlot then
        (session, [])
      else if next.registered then
        startRegisteredDelivery next (session.setDeferred rest)
      else
        (startOutboundPublishDelivery next.publish (session.setDeferred rest)).andThen
          (drainLoop fuel)

variable (session : Session)

/-- Each turn of the loop takes one message from the front, and none comes back, so their
number bounds the turns. -/
def drainDeferredOutboundPublishes : Handled :=
  match session.activityState with
  | .inactive => (session, [])
  | .active => drainLoop session.deferredOutboundPublishes.length session

def releaseReceiveMaximumSlotAndDrain : Handled :=
  drainDeferredOutboundPublishes session.releaseReceiveSlot

/-! ## Start and end of a session -/

/-- Post a stored message to the actor, unless it has expired or its payload is gone. -/
def postStored (protocolVersion : ProtocolVersion) (key : String) : Fut Unit := do
  match ← getPayload key with
  | none => return ()
  | some packet =>
    let now ← nowUnixSecs
    match packet.prepareForDelivery protocolVersion now with
    | none => return ()
    | some packet => notify (.outboundMessage packet)

def poppedKey : Except RaftError SessionStateResponse → Option String
  | .ok (.popFromPendingQueueResult packetKey _) => packetKey
  | _ => none

/-- Take one message from the queue, and say whether there was one. The answer of raft may
carry the payload, which is the one that the store has or had. -/
def popPending (tenantId clientId : String) (protocolVersion : ProtocolVersion) : Fut Bool := do
  match poppedKey (← raft (.popFromPendingQueue tenantId clientId)) with
  | none => return false
  | some key =>
    postStored protocolVersion key
    return true

def popPendingOnce : Fut Completion := do
  let more ← popPending session.tenantId session.clientId session.protocolVersion
  return .popped more

/-- Recover the subscriptions of a session, and ask for the repetition of its unfinished
exchanges. -/
def recoverSession : Fut Completion := do
  let started : Bool ← call (.lifecycle .sessionStarted)
  if started then
    let subscriptions : List (String × SubscriptionState) ← access .subscriptions
    notify .allInflightRetryImmediate
    if session.cleanSession then
      return .nothing
    else
      let _ : Except RaftError SessionStateResponse ←
        raft (.updateSessionConnectionState session.tenantId session.clientId none none)
      recoverSubscriptions subscriptions
      return .recovered
  else
    notify .forceStop
    return .nothing

def started : Handled :=
  (session, [wait (recoverSession session)])

def notifySessionManagerStopped : Fut Completion := do
  let _ : Bool ← call (.lifecycle .sessionStopped)
  return .stopNotified

def forceStop : Handled :=
  (session, [wait notifySessionManagerStopped])

def deleteSessionState : Fut Completion := do
  let _ : Except RaftError SessionStateResponse ←
    raft (.deleteSessionState session.tenantId session.clientId none)
  return .stateDeleted

def shouldDeleteSessionOnDisconnect : Bool :=
  session.protocolVersion = .v5_0 && session.sessionExpiryInterval = some 0 && !session.cleanSession

def updateConnectionState (disconnectedAt : Option Nat) (session : Session) :
    Fut Completion :=
  quietly (raft (.updateSessionConnectionState session.tenantId session.clientId disconnectedAt
    (if session.protocolVersion = .v5_0 then session.sessionExpiryInterval else none)))

def setState (state : ActivityState) (session : Session) : Handled :=
  let disconnectedAt :=
    match state with
    | .active => none
    | .inactive => some session.clock
  ({ session with activityState := state }, (if session.cleanSession then []
      else [spawn (updateConnectionState disconnectedAt session)]) ++
      [wait (quietly (call (.lifecycle .sessionDeactivate)))])

def finishConnectionDisconnect : Handled :=
  if shouldDeleteSessionOnDisconnect session then
    (session, [spawn (deleteSessionState session)])
  else if session.cleanSession then
    forceStop session
  else
    setState .inactive session

def buildWillPublish (willMessage : WillMessage) (now : Nat) : Publish :=
  Publish.stampExpiry now
    { protocolVersion := willMessage.protocolVersion
      topicName := willMessage.willTopic
      payload := willMessage.willMessage
      qos := willMessage.willQos
      retain := willMessage.willRetain
      dup := false
      packetIdentifier := none
      messageExpiryInterval := willMessage.messageExpiryInterval
      expiresAtUnixSecs := none }

def sendWill (willMessage : Option WillMessage) (completion : Completion) : Fut Completion := do
  match willMessage with
  | none => return completion
  | some willMessage =>
    let now ← nowUnixSecs
    let _ : Bool ← route (buildWillPublish willMessage now)
    return completion

def sendWillMessage (completion : Completion) (session : Session) : Handled :=
  ({ session with willMessage := none }, [wait (sendWill session.willMessage completion)])

def updatedSessionExpiryInterval (current requested : Option UInt32) :
    Except ReasonCode (Option UInt32) :=
  match current, requested with
  | some current, some requested =>
    if current < requested then .error .protocolError else .ok (some requested)
  | current, requested => .ok (requested.or current)

def writeProtocolError (reasonCode : ReasonCode) : Fut Completion := do
  let _ : SendResult ← send (.disconnect ⟨.v5_0, reasonCode, none, none⟩)
  return .protocolErrorWritten

def disconnectNormally : Handled :=
  Handled.andThen (session, [wait (quietly (call .clientDisconnectedHook))])
    finishConnectionDisconnect

def handleDisconnect (disconnect : Disconnect) (session : Session) : Handled :=
  let session := { session with willMessage := none }
  match disconnect.protocolVersion with
  | .v3_1_1 => disconnectNormally session
  | .v5_0 =>
    match updatedSessionExpiryInterval session.sessionExpiryInterval
        (disconnect.sessionExpiryInterval.or disconnect.propertySessionExpiryInterval) with
    | .ok updated => disconnectNormally { session with sessionExpiryInterval := updated }
    | .error reasonCode =>
      if session.connected then
        (session, [wait (writeProtocolError reasonCode)])
      else
        finishConnectionDisconnect session

def resumeSession (protocolVersion : ProtocolVersion) : Fut Completion := do
  acquire
  let keys : List String ← access .drainPending
  Future.forEach keys (postStored protocolVersion)
  let subscriptions : List (String × SubscriptionState) ← access .subscriptions
  recoverSubscriptions subscriptions
  return .nothing

/-! ## Packets and messages -/

def ifConnected (start : SessionStart) : Handled :=
  (session, if session.connected then [start] else [])

def handlePublish (publish : Publish) (session : Session) : Handled :=
  (session, [spawn (publishTask (publish.stampExpiry session.clock) session.clientContext)])

def handlePacket (packet : Packet) (session : Session) : Handled :=
  match packet with
  | .pingreq => (if session.connected then session.write .pingresp else session, [])
  | .subscribe subscribe =>
    ifConnected session (wait (quietly (handleSubscribe subscribe session.clientContext)))
  | .unsubscribe unsubscribe =>
    ifConnected session (wait (quietly (handleUnsubscribe unsubscribe session.clientContext)))
  | .publish publish => handlePublish publish session
  | .puback ack =>
    (session, [wait (pubackTask ack.packetIdentifier session.clientContext)])
  | .pubrec ack =>
    ifConnected session (wait (pubrecTask ack.packetIdentifier session.clientContext))
  | .pubrel ack =>
    ifConnected session (wait (pubrelTask ack.packetIdentifier session.clientContext))
  | .pubcomp ack =>
    (session, [wait (pubcompTask ack.packetIdentifier session.clientContext)])
  | .disconnect disconnect => handleDisconnect disconnect session
  | _ => (session, [])

def deferredPacketIds : List UInt16 :=
  (session.deferredOutboundPublishes.filter DeferredOutboundPublish.registered).filterMap
    fun deferred => deferred.publish.packetIdentifier

def disconnectConnection : Fut Completion := do
  let stopped : Bool ← call .disconnectConnection
  return .forceDisconnected stopped

def handleMessage (message : SessionActorMessage) (session : Session) : Handled :=
  match message with
  | .inboundPacket packet =>
    handlePacket packet { session with traffic := session.traffic ++ [.received packet] }
  | .outboundMessage (.publish publish) => startOutboundPublishDelivery publish session
  | .outboundMessage _ => (session, [])
  | .acceptRoutedPublish (.publish publish) => startOutboundPublishDelivery publish session
  | .acceptRoutedPublish _ => (session, [])
  | .keepAliveExpired => sendWillMessage .keepAliveWillSent session
  | .inflightRetry => (session, [wait (retryTask (session.outboundDeliveryContext false)
      (deferredPacketIds session))])
  | .allInflightRetryImmediate =>
    (session, [wait (retryAllTask (session.outboundDeliveryContext false))])
  | .forceDisconnect =>
    if session.activityState = .active && session.connected then
      (session, [wait disconnectConnection])
    else
      (session, [])
  | .reconnect cleanSession protocolVersion sessionExpiryInterval receiveMaximum willMessage =>
      -- The raft update is made for the session as it was before, with the new interval.
      let (session, starts) := setState .active
        { session with
          protocolVersion := protocolVersion
          sessionExpiryInterval := sessionExpiryInterval
          receiveMaximum := receiveMaximum }
      ({ session with
          connected := true
          willMessage := willMessage
          cleanSession := cleanSession
          traffic := session.traffic ++ [.connected] },
        starts ++ [wait (resumeSession protocolVersion)])
  | .unexpectClientDisconnected => sendWillMessage .unexpectedWillSent session
  | .clientDisconnected => finishConnectionDisconnect session
  | .forceStop => forceStop session

def receive : Option Handled :=
  match session.mailbox with
  | [] => none
  | message :: rest => some (handleMessage message { session with mailbox := rest })

/-! ## Results of futures -/

def Session.release (task : Nat) (session : Session) : Session :=
  { session with lock := session.lock.release task }

def cleanupAfterPuback : SessionStart :=
  if session.cleanSession then
    detach (quietly cleanupLocalFinishedItems)
  else
    detach (quietly (cleanFinishedInflightItems session.clientContext))

def completePublish (result : Except HandlePublishError (Option Packet)) (session : Session) :
    Handled :=
  match result with
  | .ok (some (.puback ack)) =>
    if session.connected then
      (session.write (.puback ack), [cleanupAfterPuback session])
    else
      (session, [])
  | .ok (some packet) => (if session.connected then session.write packet else session, [])
  | .ok none => (session, [])
  | .error .packetIdNotExist =>
    ({ session with mailbox := session.mailbox ++ [.forceDisconnect] }, [])
  | .error _ => (session, [])

def completeDelivery (reserved : Bool)
    (result : Except SessionActorError OutboundPublishDeliveryStatus) (session : Session) :
    Handled :=
  match result with
  | .ok .sent => (session, [])
  | .ok (.deferred publish) => (session.deferPublish ⟨publish, true⟩, [])
  | .ok .notSent | .error _ =>
    if reserved then releaseReceiveMaximumSlotAndDrain session else (session, [])

def completeRegistered (reserved : Bool) (deferred : DeferredOutboundPublish)
    (result : Except SessionActorError Bool) (session : Session) : Handled :=
  match result with
  | .ok true => drainDeferredOutboundPublishes session
  | .ok false => drainDeferredOutboundPublishes (session.releaseIf reserved)
  | .error _ =>
    let session := session.releaseIf reserved
    (session.setDeferred (deferred :: session.deferredOutboundPublishes), [])

/-- Keep the messages to repeat for the drain, and write the other packets at once. -/
def takeRetryPacket : Packet → Session
  | .publish publish => session.deferPublish ⟨publish, true⟩
  | packet => if session.connected then session.write packet else session

def completeResult (completion : Completion) (session : Session) : Handled :=
  match completion with
  | .nothing => (session, [])
  | .recovered => (session, [wait (popPendingOnce session)])
  | .popped more => (session, if more then [wait (popPendingOnce session)] else [])
  | .delivered reserved result => completeDelivery reserved result session
  | .deliveredRegistered reserved deferred result =>
    completeRegistered reserved deferred result session
  | .published result => completePublish result session
  | .acknowledged cleanup release =>
    Handled.andThen (session, if cleanup then [detach (quietly cleanupLocalFinishedItems)] else [])
      fun session =>
        if release then releaseReceiveMaximumSlotAndDrain session else (session, [])
  | .retried removed =>
    drainDeferredOutboundPublishes (session.setDeferred
      (session.deferredOutboundPublishes.filter fun item =>
        !item.publish.packetIdentifier.any removed.contains))
  | .retriedAll retryPackets =>
    drainDeferredOutboundPublishes (retryPackets.foldl takeRetryPacket session)
  | .keepAliveWillSent =>
    if session.connected then finishConnectionDisconnect session else (session, [])
  | .unexpectedWillSent => finishConnectionDisconnect session
  | .forceDisconnected connectionAlreadyStopped =>
    if connectionAlreadyStopped then
      if session.cleanSession then forceStop session else setState .inactive session
    else
      (session, [])
  | .protocolErrorWritten => finishConnectionDisconnect session
  | .stateDeleted => forceStop session
  | .stopNotified => ({ session with running := false }, [])

def complete (task : Nat) (completion : Completion) (session : Session) : Handled :=
  completeResult completion (session.release task)

/-! ## The surroundings -/

inductive SurroundingEvent where
  /-- Someone sends a message to the actor. -/
  | post (message : SessionActorMessage)
  | clock (now : Nat)
  /-- Raft applies an entry that was not written by this actor. -/
  | raftEntry (request : SessionStateRequest) (now : Nat)
  /-- Someone else stores a payload. -/
  | storePayload (packetKey : String) (packet : Packet)

def surroundings : SurroundingEvent → Option Session
  | .post message => some { session with mailbox := session.mailbox ++ [message] }
  | .clock now => some { session with clock := now }
  | .raftEntry request now =>
    (applyRaft now request session.replicated).map fun (replicated, _) =>
      { session with replicated := replicated }
  | .storePayload packetKey packet =>
    some { session with payloads := session.payloads.insert packetKey packet }

def behaviour : Behaviour Op.Answer Op.Choice Session Completion SurroundingEvent where
  perform := perform
  park := park
  complete := complete
  receive := receive
  environment := surroundings
  running := Session.running

abbrev SessionSystem := System Op.Answer Session Completion

abbrev SessionInput := ActorInput Op.Choice SurroundingEvent

def step : SessionSystem → SessionInput → Option SessionSystem :=
  System.step behaviour

structure SessionActorConfig where
  tenantId : String
  clientId : String
  cleanSession : Bool
  protocolVersion : ProtocolVersion
  sessionExpiryInterval : Option UInt32
  receiveMaximum : UInt16
  willMessage : Option WillMessage
  sessionState : SessionState

def Session.new (config : SessionActorConfig) (clock : Nat) (replicated : SessionStateStorage)
    (payloads : HashMap String Packet) : Session where
  tenantId := config.tenantId
  clientId := config.clientId
  cleanSession := config.cleanSession
  protocolVersion := config.protocolVersion
  sessionExpiryInterval := config.sessionExpiryInterval
  receiveMaximum := config.receiveMaximum
  outboundReceiveSlotsInUse := 0
  deferredOutboundPublishes := []
  willMessage := config.willMessage
  activityState := .active
  connected := true
  running := true
  state := config.sessionState
  lock := .free
  mailbox := []
  clock := clock
  replicated := replicated
  payloads := payloads
  traffic := [.connected]
  routed := []

def initial : SessionSystem :=
  (System.new (started session).1).startAll (started session).2

/-! ## Obliging surroundings -/

def ExternalCall.granted : (what : ExternalCall) → what.Result
  | .authorizePublish _ _ => some true
  | .onMessagePublish _ => some ⟨true, none⟩
  | .messagePublished _ => ()
  | .authorizeSubscribe _ => some true
  | .onMessageSubscribe topic => some ⟨true, topic.qos⟩
  | .subscribeTopic _ _ _ _ => true
  | .unsubscribeTopic _ => true
  | .getRetainPublishPackets _ => some []
  | .registerRetainPublishPacket _ => true
  | .cleanRetainPublishPacket _ => true
  | .clientDisconnectedHook => ()
  | .lifecycle _ => true
  | .disconnectConnection => true

/-- Surroundings that refuse nothing, with the next payload key and the order of a hash
map's elements. -/
def granting (key : String) (orders : Access.Orders) : (op : Op) → op.Choice
  | .now => ()
  | .access _ => orders
  | .acquire => ()
  | .raft _ => ⟨.committed, 0⟩
  | .newKey => key
  | .putPayload _ _ => true
  | .getPayload _ => true
  | .deletePayload _ => true
  | .call what => what.granted
  | .route _ => true
  | .send _ => .written
  | .doSend _ => ()
  | .notify _ => ()

end YedMQ.SessionActor
