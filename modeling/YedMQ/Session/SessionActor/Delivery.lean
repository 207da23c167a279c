import Mathlib.Data.List.Sort
import YedMQ.Session.SessionActor.Operations

/-! # Outbound delivery

The futures that bring messages to the client: the delivery of a routed message, the
delivery of a message that was registered earlier, and the repetition of unfinished
exchanges.
-/

namespace YedMQ.SessionActor

open Semantics Raft.SessionState

inductive DeliveryFailure where
  | noPacketId
  | payloadStore
  | raft (error : RaftError)
  | inflight (error : InflightError)
  | connection
deriving DecidableEq

inductive SessionActorError where
  | connectionActorError
  | connectionNotSet
  | deliveryError (reason : DeliveryFailure)
deriving DecidableEq

/-- What a delivery keeps of the actor at its start. -/
structure OutboundPublishDeliveryContext where
  tenantId : String
  clientId : String
  cleanSession : Bool
  protocolVersion : ProtocolVersion
  activityState : ActivityState
  connected : Bool
  deferDelivery : Bool

inductive OutboundPublishDeliveryStatus where
  | sent
  | notSent
  | deferred (publish : Publish)
deriving DecidableEq

variable (publish : Publish)

def sendPublish : Fut (Except SessionActorError Unit) := do
  match ← send (.publish publish) with
  | .mailboxError => return .error .connectionActorError
  | .connectionError => return .error (.deliveryError .connection)
  | .ok => return .ok ()

def sendNow : Fut (Except SessionActorError OutboundPublishDeliveryStatus) := do
  let result ← sendPublish publish
  return result.map fun _ => .sent

variable (packetId : UInt16)

/-- Register a message of a clean session, under a new identifier if its own is in use. A
message with a new identifier is stored again. -/
def registerClean (key : String) : Fut (Except SessionActorError Publish) := do
  let registered : Option UInt16 ← access (.registerTx packetId publish.qos key)
  match registered with
  | none => return .error (.deliveryError .noPacketId)
  | some registeredId =>
    if registeredId = packetId then
      return .ok publish
    else
      let publish := { publish with packetIdentifier := some registeredId }
      if ← putPayload key (.publish publish) then
        return .ok publish
      else
        return .error (.deliveryError .payloadStore)

def registerLocal (key : String) : Fut (Except SessionActorError Publish) := do
  let registered : Bool ← access (.registerTxIfAbsent packetId publish.qos key)
  if registered then
    return .ok publish
  else
    return .error (.deliveryError (.inflight .packetIdentifierHasExisted))

/-- Register a message of a persistent session under a new identifier. The other nodes have
to see that identifier in the payload before the entry is written. -/
def registerReallocated (key : String) (context : OutboundPublishDeliveryContext) :
    Fut (Except SessionActorError Publish) := do
  let allocated : Option UInt16 ← access .allocatePacketId
  match allocated with
  | none => return .error (.deliveryError .noPacketId)
  | some newId =>
    let publish := { publish with packetIdentifier := some newId }
    if ← putPayload key (.publish publish) then
      match ← raft (.inflightRegisterTxPacket context.tenantId context.clientId newId
          publish.qos key context.deferDelivery) with
      | .ok _ => registerLocal publish newId key
      | .error error => return .error (.deliveryError (.raft error))
    else
      return .error (.deliveryError .payloadStore)

/-- Register a message of a persistent session in raft, once more under a new identifier if
its own is in use, and then locally. -/
def registerPersistent (key : String) (context : OutboundPublishDeliveryContext) :
    Fut (Except SessionActorError Publish) := do
  match ← raft (.inflightRegisterTxPacket context.tenantId context.clientId packetId
      publish.qos key context.deferDelivery) with
  | .ok _ => registerLocal publish packetId key
  | .error error =>
    if error = .packetIdentifierHasExisted then
      registerReallocated publish key context
    else
      return .error (.deliveryError (.raft error))

def registerOutbound (context : OutboundPublishDeliveryContext) :
    Fut (Except SessionActorError Publish) := do
  let key ← newKey
  if ← putPayload key (.publish publish) then
    if context.cleanSession then
      registerClean publish packetId key
    else
      registerPersistent publish packetId key context
  else
    return .error (.deliveryError .payloadStore)

variable (context : OutboundPublishDeliveryContext)

/-- Give a message an identifier if it has none, and register it. -/
def allocateAndRegister : Fut (Except SessionActorError Publish) := do
  match publish.packetIdentifier with
  | some packetId => registerOutbound publish packetId context
  | none =>
    let allocated : Option UInt16 ← access .allocatePacketId
    match allocated with
    | none => return .error (.deliveryError .noPacketId)
    | some packetId =>
      registerOutbound { publish with packetIdentifier := some packetId } packetId context

def postpone : Fut (Except SessionActorError OutboundPublishDeliveryStatus) := do
  match publish.packetIdentifier with
  | none => return .ok (.deferred publish)
  | some packetId =>
    let _ : Unit ← access (.postpone packetId)
    return .ok (.deferred publish)

def deliverTracked : Fut (Except SessionActorError OutboundPublishDeliveryStatus) := do
  match ← allocateAndRegister publish context with
  | .error error => return .error error
  | .ok registered =>
    if context.deferDelivery then
      postpone registered
    else
      sendNow registered

def storeOffline : Fut (Except SessionActorError OutboundPublishDeliveryStatus) := do
  let key ← newKey
  if ← putPayload key (.publish publish) then
    if context.cleanSession then
      if ← deletePayload key then
        return .ok .notSent
      else
        return .error (.deliveryError .payloadStore)
    else
      match ← raft (.appendToPendingQueue context.tenantId context.clientId key) with
      | .error error => return .error (.deliveryError (.raft error))
      | .ok _ =>
        let _ : Unit ← access (.pushPending key)
        return .ok .notSent
  else
    return .error (.deliveryError .payloadStore)

def deliverOutboundPublish : Fut (Except SessionActorError OutboundPublishDeliveryStatus) := do
  let now ← nowUnixSecs
  match publish.prepareForDelivery context.protocolVersion now with
  | none => return .ok .notSent
  | some publish =>
    match context.activityState with
    | .active =>
      if !context.connected then
        return .error .connectionNotSet
      else if publish.qos = 0 then
        sendNow publish
      else
        deliverTracked publish context
    | .inactive =>
      if publish.qos = 0 then
        return .ok .notSent
      else
        storeOffline publish context

/-! ## Registered messages that were not sent -/

def discardUnsent (id : UInt16) (key : String) (context : OutboundPublishDeliveryContext) :
    Fut (Except SessionActorError Unit) := do
  if context.cleanSession then
    let removed : Option String ← access (.discardUnsent id key)
    match removed with
    | none => return .ok ()
    | some key =>
      if ← deletePayload key then
        return .ok ()
      else
        return .error (.deliveryError .payloadStore)
  else
    match ← raft (.inflightDiscardUnsent context.tenantId context.clientId id key) with
    | .error error => return .error (.deliveryError (.raft error))
    | .ok _ =>
      let _ : Option String ← access (.discardUnsent id key)
      return .ok ()

def cleanupIfExpired (item : InflightItem) : Fut (Option UInt16) := do
  match item.packetKey with
  | none => return none
  | some key =>
    match ← getPayload key with
    | none => return none
    | some packet =>
      let now ← nowUnixSecs
      if packet.isExpired now then
        match ← discardUnsent item.packetIdentifier key context with
        | .ok () => return some item.packetIdentifier
        | .error _ => return none
      else
        return none

/-- Discard the messages that have expired before they were sent, and return their
identifiers. -/
def cleanupExpiredUnsent : Fut (List UInt16) := do
  let entries : List InflightItem ← access .unsentItems
  Future.collect entries (cleanupIfExpired context)

/-- Make a registered message ready for its first or a repeated transmission. There is
nothing to send if it has expired or is no longer registered. -/
def prepareRegisteredPublish : Fut (Except SessionActorError (Option Publish)) := do
  match publish.packetIdentifier with
  | none => return .ok none
  | some id =>
    let found : Option InflightItem ← access (.item id)
    match found with
    | none => return .ok none
    | some item =>
      match item.packetKey with
      | none => return .ok none
      | some key => prepareItem publish id key item
where
  prepareItem (publish : Publish) (id : UInt16) (key : String) (item : InflightItem) :
      Fut (Except SessionActorError (Option Publish)) := do
    let now ← nowUnixSecs
    match publish.prepareForDelivery context.protocolVersion now with
    | none =>
      if item.deliveryStarted then
        return .ok none
      else
        let discarded ← discardUnsent id key context
        return discarded.map fun _ => none
    | some publish =>
      if item.deliveryStarted then
        return .ok (some publish)
      else if context.cleanSession then
        let _ : Unit ← access (.markDeliveryStarted id key)
        return .ok (some publish)
      else
        match ← raft (.inflightStartDelivery context.tenantId context.clientId id key) with
        | .error error => return .error (.deliveryError (.raft error))
        | .ok response =>
          if response = .inflightStartDeliveryResult true then
            let _ : Unit ← access (.markDeliveryStarted id key)
            return .ok (some publish)
          else
            return .ok none

def deliverRegistered : Fut (Except SessionActorError Bool) := do
  match ← prepareRegisteredPublish publish context with
  | .error error => return .error error
  | .ok none => return .ok false
  | .ok (some publish) =>
    if context.connected then
      let result ← sendPublish publish
      return result.map fun _ => true
    else
      return .error .connectionNotSet

/-! ## Repeating unfinished exchanges -/

def ackWithReason (packetIdentifier : UInt16) (reasonCode : ReasonCode) : Ack where
  protocolVersion := .v3_1_1
  packetIdentifier := packetIdentifier
  reasonCode := reasonCode

def successAck (packetIdentifier : UInt16) : Ack :=
  ackWithReason packetIdentifier .success

def retryPacket (now : Nat) (entry : InflightEntry) : Fut (Option Packet) := do
  match entry.2.2 with
  | .waitPubcomp => return some (.pubrel (successAck entry.1))
  | .waitPubrel => return some (.pubrec (successAck entry.1))
  | .finish => return none
  | .waitPubrec | .waitPuback =>
    match ← getPayload entry.2.1 with
    | none => return none
    | some packet => return if packet.isExpired now then none else some packet.setDup

def collectInflightRetryPackets (inflightEntries : List InflightEntry) : Fut (List Packet) := do
  let now ← nowUnixSecs
  Future.collect inflightEntries (retryPacket now)

def writeInflightRetryPackets (packets : List Packet) : Fut Unit :=
  Future.forEach packets fun packet => do
    let _ : SendResult ← send packet
    return ()

/-- The repetition that the retry timer asks for. It returns the identifiers of the
messages that have expired before they were sent. -/
def inflightRetry (deferredPacketIds : List UInt16) : Fut (List UInt16) := do
  let removed ← cleanupExpiredUnsent context
  let entries : List InflightEntry ← access (.expiredEntries deferredPacketIds)
  let retryPackets ← collectInflightRetryPackets entries
  if context.connected then
    writeInflightRetryPackets retryPackets
    return removed
  else
    return removed

/-- The packets to repeat when a session is recovered, by identifier. -/
def allInflightRetryImmediate : Fut (List Packet) := do
  let _ ← cleanupExpiredUnsent context
  let entries : List InflightEntry ← access .allEntries
  collectInflightRetryPackets (entries.insertionSort fun first second => first.1 ≤ second.1)

end YedMQ.SessionActor
