import YedMQ.Session.SessionActor.Exchanges

/-! # SUBSCRIBE and UNSUBSCRIBE

The futures that handle a SUBSCRIBE, with the retained messages that it brings, and an
UNSUBSCRIBE. Both reach the lock only for single uses.
-/

namespace YedMQ.SessionActor

open Semantics Raft.SessionState

structure RetainedPublishDelivery where
  packet : Packet
  requestedQos : UInt8
  retainAsPublished : Bool
  subscriberProtocol : ProtocolVersion

structure SubscribeOutcome where
  reasonCode : ReasonCode
  subscription : Option (String × SubscriptionState)
  retained : List RetainedPublishDelivery

def grantedQosReason (qos : UInt8) : ReasonCode :=
  if qos = 0 then .grantedQos0
  else if qos = 1 then .grantedQos1
  else if qos = 2 then .grantedQos2
  else .unspecifiedError

/-- A filter that looks like a shared subscription has to be one. -/
def subscribePrecheckReason (topicFilter : String) : Option ReasonCode :=
  if "$share/".toList.isPrefixOf topicFilter.toList then
    match Topic.parseSharedSubscriptionFilter topicFilter with
    | .ok _ => none
    | .error _ => some .topicFilterInvalid
  else
    none

def retainFilter (topicFilter : String) : String :=
  match Topic.parseSharedSubscriptionFilter topicFilter with
  | .ok (some shared) => shared.topicFilter
  | _ => topicFilter

def sendRetained (topic : SubscribeTopic) (existingSubscriptions : List String) : Bool :=
  match topic.retainHandling with
  | .sendAtSubscribe => true
  | .sendAtSubscribeIfNew => !existingSubscriptions.contains topic.topicFilter
  | .doNotSend => false

def refused (reasonCode : ReasonCode) : SubscribeOutcome where
  reasonCode := reasonCode
  subscription := none
  retained := []

def subscribeAllowed (protocolVersion : ProtocolVersion) (existingSubscriptions : List String)
    (topic : SubscribeTopic) (item : SubscribeResultItem) : Fut SubscribeOutcome := do
  let grantedQos := min (min item.grantedQos topic.qos) 2
  let subscribed : Bool ← call (.subscribeTopic topic.topicFilter grantedQos topic.noLocal
    topic.retainAsPublished)
  if subscribed then
    let subscription := (QoS.fromU8 grantedQos).map fun qos =>
      (topic.topicFilter, (⟨qos, topic.noLocal, topic.retainAsPublished⟩ : SubscriptionState))
    if sendRetained topic existingSubscriptions then
      let found : Option (List Packet) ←
        call (.getRetainPublishPackets (retainFilter topic.topicFilter))
      return ⟨grantedQosReason grantedQos, subscription, (found.getD []).map fun packet =>
        ⟨packet, grantedQos, topic.retainAsPublished, protocolVersion⟩⟩
    else
      return ⟨grantedQosReason grantedQos, subscription, []⟩
  else
    return refused .unspecifiedError

def subscribeOne (protocolVersion : ProtocolVersion) (existingSubscriptions : List String)
    (topic : SubscribeTopic) : Fut SubscribeOutcome := do
  match subscribePrecheckReason topic.topicFilter with
  | some reason => return refused reason
  | none =>
    let authorized : Option Bool ← call (.authorizeSubscribe topic)
    if authorized = some true then
      let policy : Option SubscribeResultItem ← call (.onMessageSubscribe topic)
      match policy with
      | none => return refused .notAuthorized
      | some item =>
        if item.allowed then
          subscribeAllowed protocolVersion existingSubscriptions topic item
        else
          return refused .notAuthorized
    else
      return refused .notAuthorized

def doHandleSubscribe (subscribe : Subscribe) (existingSubscriptions : List String) :
    Fut (List SubscribeOutcome) := do
  if subscribe.protocolVersion = .v5_0 && !subscribe.subscriptionIdentifiers.isEmpty then
    return subscribe.topics.map fun _ => refused .subscriptionIdentifiersNotSupported
  else
    Future.collect subscribe.topics fun topic => do
      let outcome ← subscribeOne subscribe.protocolVersion existingSubscriptions topic
      return some outcome

/-- A retained message as the subscriber gets it. Its identifier is dropped only if its QoS
goes down to 0. -/
def retainedPublish (retained : RetainedPublishDelivery) (publish : Publish) : Publish :=
  let minQos := min publish.qos retained.requestedQos
  { publish with
    packetIdentifier := if minQos = 0 ∧ 0 < publish.qos then none else publish.packetIdentifier
    qos := minQos
    retain :=
      match retained.subscriberProtocol with
      | .v3_1_1 => true
      | .v5_0 => retained.retainAsPublished && publish.retain }

def writeRetained (retained : RetainedPublishDelivery) : Fut Unit := do
  match retained.packet with
  | .publish publish =>
    let now ← nowUnixSecs
    match publish.prepareForDelivery retained.subscriberProtocol now with
    | none => return ()
    | some publish => doSend (.publish (retainedPublish retained publish))
  | _ => return ()

def storeSubscription (context : ClientContext)
    (subscription : String × SubscriptionState) : Fut Unit := do
  if context.cleanSession then
    let _ : Unit ← access (.insertSubscription subscription.1 subscription.2)
    return ()
  else
    match ← raft (.subscribeTopic context.tenantId context.clientId subscription.1
        subscription.2.qos.asU8 subscription.2.noLocal subscription.2.retainAsPublished) with
    | .error _ => return ()
    | .ok _ =>
      let _ : Unit ← access (.insertSubscription subscription.1 subscription.2)
      return ()

def handleSubscribe (subscribe : Subscribe) (context : ClientContext) : Fut Unit := do
  let existing : List (String × SubscriptionState) ← access .subscriptions
  let outcomes ← doHandleSubscribe subscribe (existing.map Prod.fst)
  Future.forEach (outcomes.flatMap SubscribeOutcome.retained) writeRetained
  doSend (.suback
    { protocolVersion := subscribe.protocolVersion
      packetIdentifier := subscribe.packetIdentifier
      reasonCodes := outcomes.map SubscribeOutcome.reasonCode })
  Future.forEach (outcomes.filterMap SubscribeOutcome.subscription) (storeSubscription context)

def removeSubscription (context : ClientContext) (topic : String) : Fut Unit := do
  let _ : Unit ← access (.removeSubscription topic)
  if context.cleanSession then
    return ()
  else
    let _ : Except RaftError SessionStateResponse ←
      raft (.unsubscribeTopic context.tenantId context.clientId topic)
    return ()

def handleUnsubscribe (unsubscribe : Unsubscribe) (context : ClientContext) : Fut Unit := do
  Future.forEach unsubscribe.topics fun topic => do
    let _ : Bool ← call (.unsubscribeTopic topic)
    return ()
  Future.forEach unsubscribe.topics (removeSubscription context)
  doSend (.unsuback
    { protocolVersion := unsubscribe.protocolVersion
      packetIdentifier := unsubscribe.packetIdentifier
      reasonCodes := List.replicate (max unsubscribe.topics.length 1) .success })

def recoverSubscriptions (subscriptions : List (String × SubscriptionState)) : Fut Unit :=
  Future.forEach subscriptions fun subscription => do
    let _ : Bool ← call (.subscribeTopic subscription.1 subscription.2.qos.asU8
      subscription.2.noLocal subscription.2.retainAsPublished)
    return ()

end YedMQ.SessionActor
