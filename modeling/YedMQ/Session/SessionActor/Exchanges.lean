import YedMQ.Session.SessionActor.Delivery

/-! # Packets from the client

The futures that handle a PUBLISH of the client and the acknowledgements of both kinds of
exchanges. The future of a PUBLISH keeps the write guard from its registration to its end,
through the calls of the payload store, of raft, of the topic service and of the router.
The future of a PUBREL keeps it from start to end.
-/

namespace YedMQ.SessionActor

open Semantics Raft.SessionState

/-- The session that a future acts for, as it was when the future was started. -/
structure ClientContext where
  tenantId : String
  clientId : String
  cleanSession : Bool

/-! ## PUBLISH -/

inductive HandlePublishError where
  | packetIdNotExist
  | payloadStoreError
  | routeError
deriving DecidableEq

variable (publish : Publish)

def inboundPublishAck (reasonCode : ReasonCode) : Option Packet :=
  publish.packetIdentifier.bind fun packetIdentifier =>
    if publish.qos = 1 then some (.puback (ackWithReason packetIdentifier reasonCode))
    else if publish.qos = 2 then some (.pubrec (ackWithReason packetIdentifier reasonCode))
    else none

def inboundPublishSuccessAck : Option Packet :=
  inboundPublishAck publish .success

def applyModifiedMqttMessage (modified : String × List UInt8 × Bool × Bool) : Publish :=
  { publish with
    topicName := if modified.1.isEmpty then publish.topicName else modified.1
    payload := modified.2.1
    retain := modified.2.2.1
    dup := modified.2.2.2 }

def retainPublish : Fut Unit := do
  if publish.retain then
    if publish.payload.isEmpty then
      let _ : Bool ← call (.cleanRetainPublishPacket publish.topicName)
      return ()
    else
      let _ : Bool ← call (.registerRetainPublishPacket publish)
      return ()
  else
    return ()

def retainAndRoute (inflightPacket : Option Packet) :
    Fut (Except HandlePublishError (Option Packet)) := do
  retainPublish publish
  if ← route publish then
    return .ok inflightPacket
  else
    return .error .routeError

variable (packetId : UInt16)
variable (context : ClientContext)

/-- Register a PUBLISH of QoS 1 or 2 and go on. If raft does not take the registration, the
packet is neither acknowledged nor routed. -/
def registerInbound : Fut (Except HandlePublishError (Option Packet)) := do
  let key ← newKey
  if ← putPayload key (.publish publish) then
    let _ : Unit ← access (.registerRx packetId publish.qos key)
    let ack : Packet :=
      if publish.qos = 1 then .puback (successAck packetId) else .pubrec (successAck packetId)
    if context.cleanSession then
      retainAndRoute publish (some ack)
    else
      match ← raft (.inflightRegisterRxPacket context.tenantId context.clientId packetId
          publish.qos key) with
      | .error _ => return .ok none
      | .ok _ => retainAndRoute publish (some ack)
  else
    return .error .payloadStoreError

def acceptPublish : Fut (Except HandlePublishError (Option Packet)) := do
  let _ : Unit ← call (.messagePublished publish)
  acquire
  if publish.qos = 0 then
    retainAndRoute publish none
  else
    match publish.packetIdentifier with
    | none => return .error .packetIdNotExist
    | some packetId => registerInbound publish packetId context

def cleanExpiredTombstone : Fut Unit := do
  if publish.retain && publish.payload.isEmpty then
    let _ : Bool ← call (.cleanRetainPublishPacket publish.topicName)
    return ()
  else
    return ()

/-- The result is the acknowledgement to write. -/
def doHandlePublish : Fut (Except HandlePublishError (Option Packet)) := do
  let authorized : Option Bool ← call (.authorizePublish publish.topicName publish.qos)
  match authorized with
  | none => return .ok (inboundPublishAck publish .unspecifiedError)
  | some false => return .ok (inboundPublishAck publish .notAuthorized)
  | some true =>
    let now ← nowUnixSecs
    if publish.isExpired now then
      cleanExpiredTombstone publish
      return .ok (inboundPublishSuccessAck publish)
    else
      let policy : Option MessagePublishResult ← call (.onMessagePublish publish)
      match policy with
      | none => return .ok (inboundPublishSuccessAck publish)
      | some result =>
        if result.allow then
          match result.modifiedMessage with
          | none => acceptPublish publish context
          | some modified => acceptPublish (applyModifiedMqttMessage publish modified) context
        else
          return .ok (inboundPublishSuccessAck publish)

/-! ## Acknowledgements

The result of handling a PUBACK or PUBREC says whether a slot of the client's quota is
free again. -/

def advanceInflightState :
    Fut (Except RaftError SessionStateResponse) :=
  raft (.inflightNextState context.tenantId context.clientId packetId)

def cleanFinishedInflightItems :
    Fut (Except RaftError SessionStateResponse) :=
  raft (.inflightCleanFinishItems context.tenantId context.clientId)

def nextState : Fut Unit :=
  access (.nextState packetId)

/-- Drop the finished items of a persistent session; raft drops the payloads. -/
def cleanFinishedItems : Fut Unit := do
  let _ : List String ← access .cleanFinishedItems
  return ()

def cleanFinishedEverywhere : Fut Unit := do
  match ← cleanFinishedInflightItems context with
  | .ok _ => cleanFinishedItems
  | .error _ => return ()

def advanceEverywhere : Fut Bool := do
  match ← advanceInflightState packetId context with
  | .error _ => return false
  | .ok _ =>
    nextState packetId
    return true

def isExpected (expected : InflightState) : Fut Bool := do
  let state : Option InflightState ← access (.currentState packetId)
  return state == some expected

def handlePuback : Fut Bool := do
  if ← isExpected packetId .waitPuback then
    if context.cleanSession then
      nextState packetId
      return true
    else if ← advanceEverywhere packetId context then
      cleanFinishedEverywhere context
      return true
    else
      return false
  else
    return false

/-- A PUBREL that cannot be written does not keep the slot. -/
def handlePubrec : Fut Bool := do
  if ← isExpected packetId .waitPubrec then
    if (← send (.pubrel (successAck packetId))) = .mailboxError then
      return true
    else if context.cleanSession then
      nextState packetId
      return true
    else
      advanceEverywhere packetId context
  else
    return false

/-- Unlike `handlePuback` and `handlePubrec`, this does not look at the state of the
exchange. The result says whether the exchange of a clean session was advanced. -/
def handlePubrel : Fut Bool := do
  acquire
  if (← send (.pubcomp (successAck packetId))) = .mailboxError then
    return false
  else if context.cleanSession then
    nextState packetId
    return true
  else
    match ← advanceInflightState packetId context with
    | .error _ => return false
    | .ok _ =>
      nextState packetId
      let _ : Except RaftError SessionStateResponse ← cleanFinishedInflightItems context
      cleanFinishedItems
      return false

/-- This does not look at the state of the exchange either. -/
def handlePubcomp : Fut Unit := do
  if context.cleanSession then
    nextState packetId
  else if ← advanceEverywhere packetId context then
    cleanFinishedEverywhere context
  else
    return ()

def cleanupLocalFinishedItems : Fut Unit := do
  acquire
  let freedKeys : List String ← access .cleanFinishedItems
  Future.forEach freedKeys fun key => do
    let _ : Bool ← deletePayload key
    return ()

end YedMQ.SessionActor
