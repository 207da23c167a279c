import YedMQ.Foundation.NestedMap
import YedMQ.Foundation.RefCounts
import YedMQ.Foundation.Serde
import YedMQ.Mqtt.Packet
import YedMQ.Session.Inflight

/-! # Session states and their storage

A session state holds the queue of messages that wait for the client, the
inflight exchanges and the subscriptions. The storage keeps the states of all
tenants together with one table of payload reference counts. A state is reached
through a shared lock in the source; the storage methods hold that lock for the
whole update, so an update is a plain replacement here.
-/

namespace YedMQ

open Foundation

inductive QoS where
  | atMostOnce
  | atLeastOnce
  | exactlyOnce
deriving DecidableEq, Repr

namespace QoS

def asU8 : QoS → UInt8
  | atMostOnce => 0
  | atLeastOnce => 1
  | exactlyOnce => 2

/-- The conversion from a byte, which panics outside `0..=2`. -/
def fromU8 (qos : UInt8) : Option QoS :=
  if qos = 0 then some atMostOnce
  else if qos = 1 then some atLeastOnce
  else if qos = 2 then some exactlyOnce
  else none

end QoS

structure SubscriptionState where
  qos : QoS
  noLocal : Bool
  retainAsPublished : Bool
deriving DecidableEq

structure SessionState where
  pendingMessages : List String
  inflight : Inflight
  subscriptions : HashMap String SubscriptionState
  disconnectedAt : Option Nat
  protocolVersion : Option ProtocolVersion
  sessionExpiryInterval : Option UInt32
  expiresAt : Option Nat
deriving DecidableEq

deriving instance Countable for QoS, SubscriptionState, InflightState, InflightItem, Inflight,
  ProtocolVersion, SessionState

namespace SessionState

def newWithOptions (inflightDuration : Nat) (protocolVersion : Option ProtocolVersion)
    (sessionExpiryInterval : Option UInt32) : SessionState where
  pendingMessages := []
  inflight := Inflight.new inflightDuration
  subscriptions := ∅
  disconnectedAt := none
  protocolVersion := protocolVersion
  sessionExpiryInterval := sessionExpiryInterval
  expiresAt := none

def expiryDeadline (disconnectedAt : Nat) (sessionExpiryInterval : UInt32) :
    Option Nat :=
  if sessionExpiryInterval = 0xffffffff then none
  else some (saturatingAdd disconnectedAt sessionExpiryInterval.toNat)

def updateExpiryInterval (sessionExpiryIntervalUpdate : Option UInt32)
    (state : SessionState) : SessionState :=
  match sessionExpiryIntervalUpdate with
  | some sessionExpiryInterval =>
    { state with
      protocolVersion := some .v5_0
      sessionExpiryInterval := some sessionExpiryInterval }
  | none => state

def updateConnectionState (disconnectedAt : Option Nat)
    (sessionExpiryIntervalUpdate : Option UInt32) (state : SessionState) :
    SessionState :=
  let state := state.updateExpiryInterval sessionExpiryIntervalUpdate
  { state with
    disconnectedAt := disconnectedAt
    expiresAt :=
      match disconnectedAt, state.sessionExpiryInterval with
      | some disconnectedAt, some sessionExpiryInterval =>
        expiryDeadline disconnectedAt sessionExpiryInterval
      | _, _ => none }

def expiredDisconnectedAt (now legacyTtl : Nat) (state : SessionState) :
    Option Nat :=
  state.disconnectedAt.bind fun disconnectedAt =>
    match state.sessionExpiryInterval with
    | some sessionExpiryInterval =>
      if sessionExpiryInterval = 0xffffffff then none
      else
        let expiresAt := state.expiresAt.getD
          (saturatingAdd disconnectedAt sessionExpiryInterval.toNat)
        if expiresAt ≤ now then some disconnectedAt else none
    | none =>
      if legacyTtl < now - disconnectedAt then some disconnectedAt else none

end SessionState

inductive SessionStateStorageError where
  | inflightError (error : InflightError)
  | sessionStateNotExisted (clientId : String)
deriving DecidableEq, Repr

structure SessionStateStorage where
  inner : NestedMap String String SessionState
  refCounts : RefCounts String
deriving DecidableEq

namespace SessionStateStorage

def new : SessionStateStorage where
  inner := ∅
  refCounts := ∅

def incRef (key : String) (storage : SessionStateStorage) : SessionStateStorage :=
  { storage with refCounts := storage.refCounts.increment key }

def decRef (key : String) (storage : SessionStateStorage) :
    SessionStateStorage × Option String :=
  ({ storage with refCounts := (storage.refCounts.decrement key).1 },
    (storage.refCounts.decrement key).2)

def decRefAll (keys : Multiset String) (storage : SessionStateStorage) :
    SessionStateStorage × Multiset String :=
  ({ storage with refCounts := (storage.refCounts.decrementAll keys).1 },
    (storage.refCounts.decrementAll keys).2)

def decRefOption (key : Option String) (storage : SessionStateStorage) :
    SessionStateStorage × Option String :=
  match key with
  | some key => storage.decRef key
  | none => (storage, none)

variable (tenantId sessionId : String)

def getSessionState (storage : SessionStateStorage) : Option SessionState :=
  storage.inner.getAt tenantId sessionId

def setSessionState (state : SessionState) (storage : SessionStateStorage) : SessionStateStorage :=
  { storage with inner := storage.inner.setAt tenantId sessionId state }

def modifySessionState (update : SessionState → SessionState) (storage : SessionStateStorage) :
    SessionStateStorage :=
  match storage.getSessionState tenantId sessionId with
  | none => storage
  | some state => storage.setSessionState tenantId sessionId (update state)

def ensureTenant (tenantId : String) (storage : SessionStateStorage) :
    SessionStateStorage :=
  { storage with inner := storage.inner.ensureOuter tenantId }

def createSessionState (inflightDuration : Nat) (protocolVersion : Option ProtocolVersion)
    (sessionExpiryInterval : Option UInt32) (storage : SessionStateStorage) :
    SessionStateStorage :=
  storage.setSessionState tenantId sessionId
    (SessionState.newWithOptions inflightDuration protocolVersion sessionExpiryInterval)

def deleteSessionState (storage : SessionStateStorage) : SessionStateStorage × Multiset String :=
  match storage.getSessionState tenantId sessionId with
  | none => (storage, 0)
  | some state =>
    decRefAll (state.pendingMessages + state.inflight.getAllPacketKeys)
      { storage with
        inner := storage.inner.alterAt tenantId sessionId fun _ => none }

def inflightDiscardUnsent (tenant client : String) (id : UInt16) (key : String)
    (storage : SessionStateStorage) : SessionStateStorage × Option String :=
  match storage.getSessionState tenant client with
  | none => (storage, none)
  | some state =>
    let (inflight, removed) := state.inflight.discardUnsent id key
    decRefOption removed (storage.setSessionState tenant client { state with inflight := inflight })

def setDeliveryStarted (packetId : UInt16) (started : Bool) (inflight : Inflight) : Inflight :=
  { inflight with
    inner := inflight.inner.modify packetId fun item =>
      { item with deliveryStarted := started } }

def inflightRegisterTxPacket (now : Nat) (tenantId clientId : String)
    (packetId : UInt16) (qos : UInt8) (packetKey : String) (deferred : Bool)
    (storage : SessionStateStorage) :
    SessionStateStorage × Except SessionStateStorageError (Option String) :=
  let storage := storage.ensureTenant tenantId
  match storage.getSessionState tenantId clientId with
  | none => (storage, .error (.sessionStateNotExisted clientId))
  | some state =>
    match state.inflight.registerWithTxPacket now packetId qos packetKey with
    | .error error => (storage, .error (.inflightError error))
    | .ok (inflight, oldKey) =>
      let registered := storage.setSessionState tenantId clientId
        { state with inflight := setDeliveryStarted packetId (!deferred) inflight }
      let (released, freedKey) := decRefOption oldKey (registered.incRef packetKey)
      (released, .ok freedKey)

def inflightRegisterRxPacket (now : Nat) (tenantId clientId : String)
    (packetId : UInt16) (qos : UInt8) (packetKey : String)
    (storage : SessionStateStorage) : SessionStateStorage × Option String :=
  let storage := storage.ensureTenant tenantId
  match storage.getSessionState tenantId clientId with
  | none => (storage, none)
  | some state =>
    let (inflight, oldKey) :=
      state.inflight.registerWithRxPacket now packetId qos packetKey
    decRefOption oldKey ((storage.incRef packetKey).setSessionState tenantId clientId
        { state with inflight := inflight })

variable (tenantId clientId : String)

/-- The update that the state machine makes for a started delivery, with its
answer whether the exchange was still there. -/
def inflightStartDelivery (packetId : UInt16) (packetKey : String) (storage : SessionStateStorage) :
    SessionStateStorage × Bool :=
  (storage.modifySessionState tenantId clientId fun state =>
      { state with
        inflight := (state.inflight.markDeliveryStarted packetId packetKey).1 },
    match storage.getSessionState tenantId clientId with
    | none => false
    | some state => (state.inflight.markDeliveryStarted packetId packetKey).2)

def inflightGetCurrentPacketKey
    (packetIdentifier : UInt16) (storage : SessionStateStorage) : Option String :=
  (storage.getSessionState tenantId clientId).bind fun state =>
    state.inflight.getCurrentPacketKey packetIdentifier

/-- Advance one exchange. A finished exchange stays in the map, so no key is
reported as freed. -/
def inflightNextState (now : Nat) (tenantId clientId : String)
    (packetIdentifier : UInt16) (storage : SessionStateStorage) :
    SessionStateStorage :=
  storage.modifySessionState tenantId clientId fun state =>
    { state with inflight := (state.inflight.nextState now packetIdentifier).1 }

def inflightCleanFinishedItems
    (storage : SessionStateStorage) : SessionStateStorage × Multiset String :=
  match storage.getSessionState tenantId clientId with
  | none => (storage, 0)
  | some state =>
    let (inflight, keys) := state.inflight.cleanFinishedItems
    decRefAll keys (storage.setSessionState tenantId clientId { state with inflight := inflight })

def appendToPendingQueue (tenantId clientId packetKey : String)
    (storage : SessionStateStorage) : SessionStateStorage :=
  let storage := storage.ensureTenant tenantId
  match storage.getSessionState tenantId clientId with
  | none => storage
  | some state =>
    (storage.incRef packetKey).setSessionState tenantId clientId
      { state with pendingMessages := state.pendingMessages ++ [packetKey] }

/-- Take the last message of the queue. Returns its key, and the key again if
that was its last reference. -/
def popFromPendingQueue (storage : SessionStateStorage) :
    SessionStateStorage × Option String × Option String :=
  match storage.getSessionState tenantId clientId with
  | none => (storage, none, none)
  | some state =>
    let key := state.pendingMessages.getLast?
    let (released, freedKey) := decRefOption key (storage.setSessionState tenantId clientId
        { state with pendingMessages := state.pendingMessages.dropLast })
    (released, key, freedKey)

def subscribeTopicWithOptions (tenantId clientId topic : String) (qos : QoS)
    (noLocal retainAsPublished : Bool) (storage : SessionStateStorage) :
    SessionStateStorage :=
  (storage.ensureTenant tenantId).modifySessionState tenantId clientId fun state =>
    { state with
      subscriptions := state.subscriptions.insert topic
        { qos := qos
          noLocal := noLocal
          retainAsPublished := retainAsPublished } }

def unsubscribeTopic (tenantId clientId topic : String)
    (storage : SessionStateStorage) : SessionStateStorage :=
  storage.modifySessionState tenantId clientId fun state =>
    { state with subscriptions := state.subscriptions.erase topic }

def updateConnectionState
    (disconnectedAt : Option Nat) (sessionExpiryIntervalUpdate : Option UInt32)
    (storage : SessionStateStorage) : SessionStateStorage :=
  storage.modifySessionState tenantId clientId
    (SessionState.updateConnectionState disconnectedAt sessionExpiryIntervalUpdate)

/-! ## Reading back what was written -/

@[simp] theorem getSessionState_ensureTenant (tenantId : String)
    (storage : SessionStateStorage) (tenant client : String) :
    (storage.ensureTenant tenantId).getSessionState tenant client =
      storage.getSessionState tenant client :=
  NestedMap.getAt_ensureOuter tenantId storage.inner tenant client

@[simp] theorem getSessionState_setSessionState (tenantId sessionId : String)
    (state : SessionState) (storage : SessionStateStorage) :
    (storage.setSessionState tenantId sessionId state).getSessionState tenantId
      sessionId = some state :=
  NestedMap.getAt_setAt_self tenantId sessionId state storage.inner

@[simp] theorem getSessionState_modifySessionState (tenantId sessionId : String)
    (update : SessionState → SessionState) (storage : SessionStateStorage) :
    (storage.modifySessionState tenantId sessionId update).getSessionState tenantId
      sessionId = (storage.getSessionState tenantId sessionId).map update := by
  unfold modifySessionState
  cases present : storage.getSessionState tenantId sessionId with
  | none => exact present
  | some => simp

end SessionStateStorage

end YedMQ
