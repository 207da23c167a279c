import YedMQ.Raft.SessionState.StateMachine
import YedMQ.Semantics.Actor
import YedMQ.Semantics.FairLock
import YedMQ.Topic.Filter

/-! # The operations of a session actor

A session actor shares its session state with its futures behind a lock, and reaches the
rest of the broker by sending messages and awaiting the answers. Here are the state that
the futures see and the operations at which they may be suspended.

Most uses of the lock take a guard, do one thing and drop it before the next await: an
`Access` is such a use. Three futures keep a write guard from `acquire` to their end. A
future that finds the lock taken joins a queue, and the lock is handed to the next in the
queue when it is given back, whether or not that future is polled. Only futures that the
actor waits for take read guards, one at a time, so that a read guard excludes the same
futures as a write guard.

What an operation does may depend on a choice of its surroundings: the order of a hash
map's elements, whether a raft write is committed, what the connection does with a packet.
-/

namespace YedMQ.SessionActor

open Foundation Semantics
open Raft (WriteOutcome)
open Raft.SessionState (SessionStateRequest SessionStateResponse)

inductive ActivityState where
  | active
  | inactive
deriving DecidableEq, Repr

structure DeferredOutboundPublish where
  publish : Publish
  registered : Bool
deriving DecidableEq

structure WillMessage where
  protocolVersion : ProtocolVersion
  willTopic : String
  willMessage : List UInt8
  willQos : UInt8
  willRetain : Bool
  messageExpiryInterval : Option UInt32
deriving DecidableEq

inductive SessionActorMessage where
  | inboundPacket (packet : Packet)
  | outboundMessage (packet : Packet)
  | acceptRoutedPublish (packet : Packet)
  | keepAliveExpired
  | inflightRetry
  | allInflightRetryImmediate
  | forceDisconnect
  | reconnect (cleanSession : Bool) (protocolVersion : ProtocolVersion)
      (sessionExpiryInterval : Option UInt32) (receiveMaximum : UInt16)
      (willMessage : Option WillMessage)
  | unexpectClientDisconnected
  | clientDisconnected
  | forceStop
deriving DecidableEq

/-- What passes over the connection of a session. -/
inductive Traffic where
  | connected
  | received (packet : Packet)
  | written (packet : Packet)
deriving DecidableEq

/-- The actor, the state that it shares with its futures, and what these see of the
broker. -/
structure Session where
  tenantId : String
  clientId : String
  cleanSession : Bool
  protocolVersion : ProtocolVersion
  sessionExpiryInterval : Option UInt32
  receiveMaximum : UInt16
  outboundReceiveSlotsInUse : Nat
  deferredOutboundPublishes : List DeferredOutboundPublish
  willMessage : Option WillMessage
  activityState : ActivityState
  /-- There is a connection to send packets to. -/
  connected : Bool
  /-- The actor has not stopped. -/
  running : Bool
  /-- The session state behind the lock. -/
  state : SessionState
  lock : FairLock
  mailbox : List SessionActorMessage
  /-- The system clock, in seconds since the epoch. -/
  clock : Nat
  /-- The session states that raft replicates. -/
  replicated : SessionStateStorage
  payloads : HashMap String Packet
  /-- What the connections of this session have carried, in order. -/
  traffic : List Traffic
  /-- The messages that were sent to the routers, in order, with the futures that have sent
  them. -/
  routed : List (Nat × Publish)

def Session.write (packet : Packet) (session : Session) : Session :=
  { session with traffic := session.traffic ++ [.written packet] }

def Session.replicatedState (session : Session) : Option SessionState :=
  session.replicated.getSessionState session.tenantId session.clientId

/-! ## The session state behind the lock -/

inductive Access where
  | subscriptions
  | insertSubscription (topic : String) (subscription : SubscriptionState)
  | removeSubscription (topic : String)
  | allocatePacketId
  /-- Register an outbound packet, under a new identifier if its own is in use. -/
  | registerTx (packetId : UInt16) (qos : UInt8) (packetKey : String)
  /-- Register an outbound packet unless its identifier is in use. -/
  | registerTxIfAbsent (packetId : UInt16) (qos : UInt8) (packetKey : String)
  /-- Note that a registered packet was not handed to the connection. -/
  | postpone (packetId : UInt16)
  | registerRx (packetId : UInt16) (qos : UInt8) (packetKey : String)
  | pushPending (packetKey : String)
  | drainPending
  | discardUnsent (packetId : UInt16) (packetKey : String)
  /-- The items that were not handed to the connection. -/
  | unsentItems
  | item (packetId : UInt16)
  | markDeliveryStarted (packetId : UInt16) (packetKey : String)
  | currentState (packetId : UInt16)
  | nextState (packetId : UInt16)
  | cleanFinishedItems
  /-- The items whose retry is due, without the given identifiers. -/
  | expiredEntries (deferredPacketIds : List UInt16)
  | allEntries
deriving DecidableEq

/-- What a retry knows of an inflight item. -/
abbrev InflightEntry := UInt16 × String × InflightState

namespace Access

def Result : Access → Type
  | subscriptions => List (String × SubscriptionState)
  | allocatePacketId => Option UInt16
  | registerTx _ _ _ => Option UInt16
  | registerTxIfAbsent _ _ _ => Bool
  | drainPending => List String
  | discardUnsent _ _ => Option String
  | unsentItems => List InflightItem
  | item _ => Option InflightItem
  | currentState _ => Option InflightState
  | cleanFinishedItems => List String
  | expiredEntries _ | allEntries => List InflightEntry
  | _ => Unit

/-- The order in which a hash map gives its elements. -/
structure Orders where
  subscriptionOrder : List (String × SubscriptionState)
  itemOrder : List InflightItem
  keyOrder : List String

end Access

def listedSubscriptions (state : SessionState) : Multiset (String × SubscriptionState) :=
  state.subscriptions.entries.map fun entry => (entry.1, entry.2)

def refreshExpiredTime (now : Nat) (due : InflightItem → Bool) (inflight : Inflight) :
    Inflight :=
  { inflight with
    inner := inflight.inner.mapValues fun item =>
      if due item then { item with lastModified := now } else item }

def isRetryDue (now : Nat) (inflight : Inflight) (item : InflightItem) : Bool :=
  item.lastModified + inflight.expiredDuration < now

def inflightEntries (items : List InflightItem) : List InflightEntry :=
  items.filterMap fun item => item.packetKey.map fun key =>
    (item.packetIdentifier, key, item.state)

def registerOrReallocate (now : Nat) (packetId : UInt16) (qos : UInt8) (packetKey : String)
    (inflight : Inflight) : Inflight × Option UInt16 :=
  match inflight.registerWithTxPacket now packetId qos packetKey with
  | .ok (registered, _) => (registered, some packetId)
  | .error .packetIdentifierHasExisted =>
    match inflight.allocatePacketId with
    | none => (inflight, none)
    | some newId =>
      match inflight.registerWithTxPacket now newId qos packetKey with
      | .ok (registered, _) => (registered, some newId)
      | .error _ => (inflight, none)

def withInflight {α : Type} (state : SessionState) (outcome : Inflight × α) :
    SessionState × α :=
  ({ state with inflight := outcome.1 }, outcome.2)

/-- One use of the lock. There is no result if the orders do not list the elements of a
hash map. -/
def Access.run (now : Nat) (orders : Access.Orders) (state : SessionState) :
    (access : Access) → Option (SessionState × access.Result)
  | .subscriptions =>
    if (orders.subscriptionOrder : Multiset _) = listedSubscriptions state then
      some (state, orders.subscriptionOrder)
    else
      none
  | .insertSubscription topic subscription =>
    some ({ state with
      subscriptions := state.subscriptions.insert topic subscription }, ())
  | .removeSubscription topic =>
    some ({ state with subscriptions := state.subscriptions.erase topic }, ())
  | .allocatePacketId => some (state, state.inflight.allocatePacketId)
  | .registerTx packetId qos packetKey =>
    some (withInflight state (registerOrReallocate now packetId qos packetKey state.inflight))
  | .registerTxIfAbsent packetId qos packetKey =>
    if (state.inflight.getInflightCurrentState packetId).isNone then
      match state.inflight.registerWithTxPacket now packetId qos packetKey with
      | .ok (registered, _) => some ({ state with inflight := registered }, true)
      | .error _ => some (state, false)
    else
      some (state, true)
  | .postpone packetId =>
    some ({ state with
      inflight := SessionStateStorage.setDeliveryStarted packetId false state.inflight }, ())
  | .registerRx packetId qos packetKey =>
    some ({ state with
      inflight := (state.inflight.registerWithRxPacket now packetId qos packetKey).1 }, ())
  | .pushPending packetKey =>
    some ({ state with pendingMessages := state.pendingMessages ++ [packetKey] }, ())
  | .drainPending => some ({ state with pendingMessages := [] }, state.pendingMessages)
  | .discardUnsent packetId packetKey =>
    some (withInflight state (state.inflight.discardUnsent packetId packetKey))
  | .unsentItems =>
    if (orders.itemOrder : Multiset _) =
        state.inflight.inner.values.filter fun item => !item.deliveryStarted then
      some (state, orders.itemOrder)
    else
      none
  | .item packetId => some (state, state.inflight.inner.lookup packetId)
  | .markDeliveryStarted packetId packetKey =>
    some ({ state with
      inflight := (state.inflight.markDeliveryStarted packetId packetKey).1 }, ())
  | .currentState packetId => some (state, state.inflight.getInflightCurrentState packetId)
  | .nextState packetId =>
    some ({ state with inflight := (state.inflight.nextState now packetId).1 }, ())
  | .cleanFinishedItems =>
    if (orders.keyOrder : Multiset _) = state.inflight.cleanFinishedItems.2 then
      some ({ state with inflight := state.inflight.cleanFinishedItems.1 }, orders.keyOrder)
    else
      none
  | .expiredEntries deferredPacketIds =>
    if (orders.itemOrder : Multiset _) =
        state.inflight.inner.values.filter (isRetryDue now state.inflight ·) then
      some ({ state with
          inflight := refreshExpiredTime now (isRetryDue now state.inflight) state.inflight },
        (inflightEntries orders.itemOrder).filter fun entry =>
          !deferredPacketIds.contains entry.1)
    else
      none
  | .allEntries =>
    if (orders.itemOrder : Multiset _) = state.inflight.inner.values then
      some ({ state with
          inflight := refreshExpiredTime now (fun _ => true) state.inflight },
        inflightEntries orders.itemOrder)
    else
      none

/-! ## The rest of the broker -/

structure MessagePublishResult where
  allow : Bool
  /-- Topic, payload, retain and dup of a modified message. -/
  modifiedMessage : Option (String × List UInt8 × Bool × Bool)
deriving DecidableEq

structure SubscribeResultItem where
  allowed : Bool
  grantedQos : UInt8
deriving DecidableEq

inductive LifecycleMessage where
  | sessionStarted
  | sessionDeactivate
  | sessionStopped
deriving DecidableEq

/-- Calls whose answers are up to the surroundings and that leave the session as it is. -/
inductive ExternalCall where
  | authorizePublish (topic : String) (qos : UInt8)
  | onMessagePublish (publish : Publish)
  | messagePublished (publish : Publish)
  | authorizeSubscribe (topic : SubscribeTopic)
  | onMessageSubscribe (topic : SubscribeTopic)
  | subscribeTopic (topicFilter : String) (qos : UInt8) (noLocal retainAsPublished : Bool)
  | unsubscribeTopic (topicFilter : String)
  | getRetainPublishPackets (topicFilter : String)
  | registerRetainPublishPacket (publish : Publish)
  | cleanRetainPublishPacket (topic : String)
  | clientDisconnectedHook
  | lifecycle (message : LifecycleMessage)
  | disconnectConnection
deriving DecidableEq

/-- The answer to a call; a failed call answers `none` or `false`. -/
def ExternalCall.Result : ExternalCall → Type
  | authorizePublish _ _ => Option Bool
  | onMessagePublish _ => Option MessagePublishResult
  | authorizeSubscribe _ => Option Bool
  | onMessageSubscribe _ => Option SubscribeResultItem
  | getRetainPublishPackets _ => Option (List Packet)
  | messagePublished _ => Unit
  | clientDisconnectedHook => Unit
  | _ => Bool

inductive RaftError where
  | packetIdentifierHasExisted
  | sessionStateNotExisted
  | unavailable
deriving DecidableEq, Repr

/-- What becomes of a packet that the connection is asked to write. -/
inductive SendOutcome where
  /-- The connection actor has gone. -/
  | mailboxError
  /-- The connection actor answers with an error. -/
  | connectionError
  /-- The connection actor answers `Ok`, but leaves out an expired or oversized packet. -/
  | dropped
  | written
deriving DecidableEq, Repr

inductive SendResult where
  | mailboxError
  | connectionError
  | ok
deriving DecidableEq, Repr

def SendOutcome.result : SendOutcome → SendResult
  | mailboxError => .mailboxError
  | connectionError => .connectionError
  | dropped => .ok
  | written => .ok

inductive Op where
  | now
  | access (access : Access)
  /-- Take a write guard and keep it to the end. -/
  | acquire
  | raft (request : SessionStateRequest)
  | newKey
  | putPayload (packetKey : String) (packet : Packet)
  | getPayload (packetKey : String)
  | deletePayload (packetKey : String)
  | call (call : ExternalCall)
  | route (publish : Publish)
  /-- Send a packet to the connection and wait for its answer. -/
  | send (packet : Packet)
  /-- Send a packet to the connection. -/
  | doSend (packet : Packet)
  /-- Send a message to the actor itself. -/
  | notify (message : SessionActorMessage)
deriving DecidableEq

def Op.Answer : Op → Type
  | now => Nat
  | access what => what.Result
  | acquire => Unit
  | raft _ => Except RaftError SessionStateResponse
  | newKey => String
  | putPayload _ _ => Bool
  | getPayload _ => Option Packet
  | deletePayload _ => Bool
  | call what => what.Result
  | route _ => Bool
  | send _ => SendResult
  | doSend _ => Unit
  | notify _ => Unit

/-- How a raft write ends, and the clock of the replica that applies it. -/
structure RaftChoice where
  outcome : WriteOutcome
  now : Nat

def Op.Choice : Op → Type
  | access _ => Access.Orders
  | raft _ => RaftChoice
  | newKey => String
  | putPayload _ _ => Bool
  | getPayload _ => Bool
  | deletePayload _ => Bool
  | call what => what.Result
  | route _ => Bool
  | send _ => SendOutcome
  | _ => Unit

abbrev Fut := Future Op.Answer

/-! ## Performing an operation -/

def raftAnswer : SessionStateResponse → Except RaftError SessionStateResponse
  | .inflightRegisterTxPacketResponse (.error (.inflightError _)) =>
    .error .packetIdentifierHasExisted
  | .inflightRegisterTxPacketResponse (.error (.sessionStateNotExisted _)) =>
    .error .sessionStateNotExisted
  | .inflightRegisterRxPacketResponse (.error (.inflightError _)) =>
    .error .packetIdentifierHasExisted
  | response => .ok response

/-- The log position does not matter to the session states. -/
def someLogId : Raft.LogId := ⟨⟨0, 0⟩, 0⟩

def applyRaft (now : Nat) (request : SessionStateRequest) (storage : SessionStateStorage) :
    Option (SessionStateStorage × SessionStateResponse) :=
  match Raft.SessionState.applyRequest ⟨now, fun _ => none⟩ someLogId storage request with
  | .ok (applied, output) => some (applied, output.reply)
  | .error _ => none

def performRaft (choice : RaftChoice) (request : SessionStateRequest) (session : Session) :
    Option (Session × Except RaftError SessionStateResponse) :=
  match choice.outcome with
  | .lost => some (session, .error .unavailable)
  | .unacknowledged =>
    (applyRaft choice.now request session.replicated).map fun (replicated, _) =>
      ({ session with replicated := replicated }, .error .unavailable)
  | .committed =>
    (applyRaft choice.now request session.replicated).map fun (replicated, response) =>
      ({ session with replicated := replicated }, raftAnswer response)

def Session.mayAccess (task : Nat) (session : Session) : Bool :=
  session.lock.admits task

def performPut (stored : Bool) (packetKey : String) (packet : Packet) (session : Session) :
    Session × Bool :=
  (if stored then { session with payloads := session.payloads.insert packetKey packet }
    else session, stored)

def performDelete (deleted : Bool) (packetKey : String) (session : Session) :
    Session × Bool :=
  (if deleted then { session with payloads := session.payloads.erase packetKey }
    else session, deleted)

/-- A router that answers with an error has got the message all the same, and may have
brought it to some of its subscribers. -/
def performRoute (task : Nat) (taken : Bool) (publish : Publish) (session : Session) :
    Session × Bool :=
  ({ session with routed := session.routed ++ [(task, publish)] }, taken)

def performSend (outcome : SendOutcome) (packet : Packet) (session : Session) :
    Session × SendResult :=
  (if outcome = .written then session.write packet else session, outcome.result)

/-- What a future with the number `task` does to the session by an operation. There is no
result while it has to wait for the lock. -/
def perform (task : Nat) (session : Session) : (op : Op) → op.Choice → Option (Session × op.Answer)
  | .now, _ => some (session, session.clock)
  | .access access, orders =>
    if session.mayAccess task then
      (access.run session.clock orders session.state).map fun (state, result) =>
        ({ session with state := state, lock := session.lock.use task }, result)
    else
      none
  | .acquire, _ =>
    if session.lock.opens task then
      some ({ session with lock := session.lock.take task }, ())
    else
      none
  | .raft request, choice => performRaft choice request session
  | .newKey, key => some (session, key)
  | .putPayload packetKey packet, stored => some (performPut stored packetKey packet session)
  | .getPayload packetKey, found =>
    some (session, bif found then session.payloads.lookup packetKey else none)
  | .deletePayload packetKey, deleted => some (performDelete deleted packetKey session)
  | .call _, result => some (session, result)
  | .route publish, taken => some (performRoute task taken publish session)
  | .send packet, outcome => some (performSend outcome packet session)
  | .doSend packet, _ => some (session.write packet, ())
  | .notify message, _ =>
    some ({ session with mailbox := session.mailbox ++ [message] }, ())

def mustWait (task : Nat) (session : Session) : Op → Bool
  | .access _ => !session.mayAccess task
  | .acquire => !session.lock.opens task
  | _ => false

/-- A future that is polled and has to wait for the lock is put into the queue. -/
def park (task : Nat) (session : Session) (op : Op) : Option Session :=
  if mustWait task session op && !session.lock.queue.contains task then
    some { session with lock := session.lock.enqueue task }
  else
    none

/-! ## Futures of one operation -/

abbrev access (what : Access) : Fut what.Result :=
  Future.perform (Op.access what)

abbrev acquire : Fut Unit :=
  Future.perform Op.acquire

abbrev raft (request : SessionStateRequest) : Fut (Except RaftError SessionStateResponse) :=
  Future.perform (Op.raft request)

abbrev newKey : Fut String :=
  Future.perform Op.newKey

variable (packetKey : String)

abbrev putPayload (packet : Packet) : Fut Bool :=
  Future.perform (Op.putPayload packetKey packet)

abbrev getPayload : Fut (Option Packet) :=
  Future.perform (Op.getPayload packetKey)

abbrev deletePayload : Fut Bool :=
  Future.perform (Op.deletePayload packetKey)

abbrev call (what : ExternalCall) : Fut what.Result :=
  Future.perform (Op.call what)

abbrev nowUnixSecs : Fut Nat :=
  Future.perform Op.now

abbrev route (publish : Publish) : Fut Bool :=
  Future.perform (Op.route publish)

abbrev send (packet : Packet) : Fut SendResult :=
  Future.perform (Op.send packet)

abbrev doSend (packet : Packet) : Fut Unit :=
  Future.perform (Op.doSend packet)

abbrev notify (message : SessionActorMessage) : Fut Unit :=
  Future.perform (Op.notify message)

end YedMQ.SessionActor
