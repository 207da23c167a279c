import YedMQ.Raft.StateMachine
import YedMQ.Session.PayloadReferences

/-! # The session-state machine

Committed session-state requests and their application. Applying a request updates
the storage and reports the payload keys whose last reference it took. What the
applying replica reads from its surroundings, its clock and its payload store, is the
argument `reading`.
-/

namespace YedMQ.Raft.SessionState

open Foundation YedMQ

inductive SessionStateRequest where
  | createSessionState (tenantId clientId : String) (inflightDurationSecs : Nat)
      (protocolVersion : Option ProtocolVersion)
      (sessionExpiryInterval : Option UInt32)
  | deleteSessionState (tenantId clientId : String) (expectedDisconnectedAt : Option Nat)
  | inflightRegisterRxPacket (tenantId clientId : String) (packetId : UInt16)
      (qos : UInt8) (packetKey : String)
  | inflightRegisterTxPacket (tenantId clientId : String) (packetId : UInt16)
      (qos : UInt8) (packetKey : String) (deferred : Bool)
  | inflightStartDelivery (tenantId clientId : String) (packetId : UInt16) (packetKey : String)
  | inflightDiscardUnsent (tenantId clientId : String) (packetId : UInt16) (packetKey : String)
  | inflightGetCurrentPacket (tenantId clientId : String) (packetIdentifier : UInt16)
  | inflightNextState (tenantId clientId : String) (packetIdentifier : UInt16)
  | inflightCleanFinishItems (tenantId clientId : String)
  | appendToPendingQueue (tenantId clientId packetKey : String)
  | popFromPendingQueue (tenantId clientId : String)
  | subscribeTopic (tenantId clientId topic : String) (qos : UInt8)
      (noLocal retainAsPublished : Bool)
  | unsubscribeTopic (tenantId clientId topic : String)
  | updateSessionConnectionState (tenantId clientId : String)
      (disconnectedAt : Option Nat) (sessionExpiryIntervalUpdate : Option UInt32)
deriving DecidableEq

/-- The payload key that a request registers. The log store appends such a request
only with the payload at hand. -/
def SessionStateRequest.registeredKey : SessionStateRequest → Option String
  | .inflightRegisterRxPacket _ _ _ _ packetKey | .inflightRegisterTxPacket _ _ _ _ packetKey _
  | .appendToPendingQueue _ _ packetKey => some packetKey
  | _ => none

def registeredKey (entry : Entry SessionStateRequest) : Option String :=
  match entry.payload with
  | .normal request => request.registeredKey
  | _ => none

inductive SessionStateResponse where
  | inflightStartDeliveryResult (started : Bool)
  | inflightGetCurrentPacketResult (packetKey : Option String)
  | inflightRegisterTxPacketResponse (result : Except SessionStateStorageError Unit)
  | inflightRegisterRxPacketResponse (result : Except SessionStateStorageError Unit)
  | popFromPendingQueueResult (packetKey : Option String) (payload : Option (List UInt8))
  | none
deriving DecidableEq

/-- What a replica reads while it applies one entry: the system clock, in
seconds, and its payload store. -/
structure Reading where
  now : Nat
  payload : String → Option (List UInt8)

/-- What applying a request gives out: the payload keys to collect as garbage and
the reply. -/
structure Applied where
  freed : Multiset String
  reply : SessionStateResponse

/-- Where the source panics while applying: a subscription whose QoS byte is no
QoS. -/
inductive ApplyPanic where
  | invalidQoS (qos : UInt8)
deriving DecidableEq, Repr

def shouldDelete (tenantId clientId : String)
    (expectedDisconnectedAt : Option Nat) (storage : SessionStateStorage) : Bool :=
  match expectedDisconnectedAt with
  | some expected =>
    match storage.getSessionState tenantId clientId with
    | some state => state.disconnectedAt == some expected
    | none => false
  | none => true

def applyRequest (reading : Reading) (_logId : LogId) (storage : SessionStateStorage) :
    SessionStateRequest → Except ApplyPanic (SessionStateStorage × Applied)
  | .inflightRegisterRxPacket tenantId clientId packetId qos packetKey =>
    let (storage, freedKey) := storage.inflightRegisterRxPacket reading.now tenantId
      clientId packetId qos packetKey
    .ok (storage, ⟨freedKey.toList, .inflightRegisterRxPacketResponse (.ok ())⟩)
  | .inflightRegisterTxPacket tenantId clientId packetId qos packetKey deferred =>
    match storage.inflightRegisterTxPacket reading.now tenantId clientId packetId
        qos packetKey deferred with
    | (storage, .ok freedKey) =>
      .ok (storage, ⟨freedKey.toList, .inflightRegisterTxPacketResponse (.ok ())⟩)
    | (storage, .error error) =>
      .ok (storage, ⟨0, .inflightRegisterTxPacketResponse (.error error)⟩)
  | .inflightStartDelivery tenantId clientId packetId packetKey =>
    let (storage, started) := storage.inflightStartDelivery tenantId clientId packetId packetKey
    .ok (storage, ⟨0, .inflightStartDeliveryResult started⟩)
  | .inflightDiscardUnsent tenantId clientId packetId packetKey =>
    let (storage, freed) := storage.inflightDiscardUnsent tenantId clientId packetId packetKey
    .ok (storage, ⟨freed.toList, .none⟩)
  | .inflightGetCurrentPacket tenantId clientId packetIdentifier =>
    .ok (storage, ⟨0, .inflightGetCurrentPacketResult
      (storage.inflightGetCurrentPacketKey tenantId clientId packetIdentifier)⟩)
  | .inflightNextState tenantId clientId packetIdentifier =>
    .ok (storage.inflightNextState reading.now tenantId clientId packetIdentifier, ⟨0, .none⟩)
  | .inflightCleanFinishItems tenantId clientId =>
    let (storage, freedKeys) := storage.inflightCleanFinishedItems tenantId clientId
    .ok (storage, ⟨freedKeys, .none⟩)
  | .appendToPendingQueue tenantId clientId packetKey =>
    .ok (storage.appendToPendingQueue tenantId clientId packetKey, ⟨0, .none⟩)
  | .popFromPendingQueue tenantId clientId =>
    let (storage, packetKey, freedKey) := storage.popFromPendingQueue tenantId clientId
    .ok (storage, ⟨freedKey.toList,
      .popFromPendingQueueResult packetKey (freedKey.bind reading.payload)⟩)
  | .subscribeTopic tenantId clientId topic qos noLocal retainAsPublished =>
    match QoS.fromU8 qos with
    | some level =>
      .ok (storage.subscribeTopicWithOptions tenantId clientId topic level noLocal
        retainAsPublished, ⟨0, .none⟩)
    | none => .error (.invalidQoS qos)
  | .unsubscribeTopic tenantId clientId topic =>
    .ok (storage.unsubscribeTopic tenantId clientId topic, ⟨0, .none⟩)
  | .createSessionState tenantId clientId inflightDurationSecs protocolVersion
      sessionExpiryInterval =>
      .ok (storage.createSessionState tenantId clientId inflightDurationSecs
        protocolVersion sessionExpiryInterval, ⟨0, .none⟩)
  | .deleteSessionState tenantId clientId expectedDisconnectedAt =>
    if shouldDelete tenantId clientId expectedDisconnectedAt storage then
      let (storage, freedKeys) := storage.deleteSessionState tenantId clientId
      .ok (storage, ⟨freedKeys, .none⟩)
    else
      .ok (storage, ⟨0, .none⟩)
  | .updateSessionConnectionState tenantId clientId disconnectedAt sessionExpiryIntervalUpdate =>
      .ok (storage.updateConnectionState tenantId clientId disconnectedAt
        sessionExpiryIntervalUpdate, ⟨0, .none⟩)

def initial : StateMachineData SessionStateStorage :=
  .new SessionStateStorage.new

/-- The state machine as a step function: an input is a committed entry with
what the replica reads while applying it. -/
def step : StateMachineData SessionStateStorage →
    Entry SessionStateRequest × Reading → Option (StateMachineData SessionStateStorage) :=
  StateMachineData.step applyRequest ⟨0, .none⟩

end YedMQ.Raft.SessionState
