import YedMQ.Session.SessionActor.Frames

/-! # The operations that each future may perform

One predicate for each group of futures. A statement about all operations of a future
follows from the predicate of its group.
-/

namespace YedMQ.SessionActor

open Semantics Future Raft.SessionState

/-! ## Deliveries -/

inductive DeliveryOp (context : OutboundPublishDeliveryContext) : Op → Prop where
  | now : DeliveryOp context .now
  | newKey : DeliveryOp context .newKey
  | putPayload (key : String) (packet : Packet) : DeliveryOp context (.putPayload key packet)
  | deletePayload (key : String) : DeliveryOp context (.deletePayload key)
  | allocate : DeliveryOp context (.access .allocatePacketId)
  | registerTx (id : UInt16) (qos : UInt8) (key : String) :
      DeliveryOp context (.access (.registerTx id qos key))
  | registerTxIfAbsent (id : UInt16) (qos : UInt8) (key : String) :
      DeliveryOp context (.access (.registerTxIfAbsent id qos key))
  | postpone (id : UInt16) : DeliveryOp context (.access (.postpone id))
  | pushPending (key : String) : DeliveryOp context (.access (.pushPending key))
  | raftRegister (persistent : ¬ context.cleanSession) (id : UInt16) (qos : UInt8)
      (key : String) :
      DeliveryOp context (.raft (.inflightRegisterTxPacket context.tenantId context.clientId
        id qos key context.deferDelivery))
  | raftAppend (persistent : ¬ context.cleanSession) (key : String) :
      DeliveryOp context (.raft (.appendToPendingQueue context.tenantId context.clientId key))
  | send (publish : Publish) : DeliveryOp context (.send (.publish publish))

/-- How often an operation tries to bring a message into the inflight map or the queue. -/
def Op.registrations : Op → Nat
  | .access (.registerTx _ _ _) | .access (.registerTxIfAbsent _ _ _)
  | .access (.pushPending _) => 1
  | _ => 0

def Access.registers : (what : Access) → what.Result → Bool
  | .registerTx _ _ _, result => Option.isSome result
  | .registerTxIfAbsent _ _ _, result => result
  | .pushPending _, _ => true
  | _, _ => false

def isRegistration : Event Op.Answer → Bool
  | ⟨.access what, result⟩ => what.registers result
  | _ => false

section Delivery

variable (context : OutboundPublishDeliveryContext)

abbrev Registers (budget : Nat) {α : Type} (future : Fut α) : Prop :=
  future.Within (DeliveryOp context) Op.registrations budget

variable (publish : Publish)

theorem registers_sendNow : Registers context 0 (sendNow publish) := by
  refine Within.free (.send publish) rfl ?_
  intro result
  cases result <;> trivial

variable (packetId : UInt16)

theorem registers_registerClean (key : String) :
    Registers context 1 (registerClean publish packetId key) := by
  refine Within.last (.registerTx packetId publish.qos key) le_rfl ?_
  intro registered
  split
  · trivial
  · split
    · trivial
    · refine Within.free (.putPayload key _) rfl ?_
      intro stored
      split <;> trivial

theorem registers_registerLocal (key : String) :
    Registers context 1 (registerLocal publish packetId key) := by
  refine Within.last (.registerTxIfAbsent packetId publish.qos key) le_rfl ?_
  intro registered
  split <;> trivial

theorem registers_registerReallocated (persistent : ¬ context.cleanSession)
    (publish : Publish) (key : String) :
    Registers context 1 (registerReallocated publish key context) := by
  refine Within.free .allocate rfl ?_
  intro allocated
  split
  · trivial
  · refine Within.free (.putPayload key _) rfl ?_
    intro stored
    split
    · refine Within.free (.raftRegister persistent _ publish.qos key) rfl ?_
      intro answer
      split
      · exact registers_registerLocal context _ _ key
      · trivial
    · trivial

theorem registers_registerPersistent (persistent : ¬ context.cleanSession)
    (publish : Publish) (packetId : UInt16) (key : String) :
    Registers context 1 (registerPersistent publish packetId key context) := by
  refine Within.free (.raftRegister persistent packetId publish.qos key) rfl ?_
  intro answer
  split
  · exact registers_registerLocal context publish packetId key
  · split
    · exact registers_registerReallocated context persistent publish key
    · trivial

theorem registers_registerOutbound :
    Registers context 1 (registerOutbound publish packetId context) := by
  refine Within.free .newKey rfl ?_
  intro key
  refine Within.free (.putPayload key _) rfl ?_
  intro stored
  split
  · split
    · exact registers_registerClean context publish packetId key
    · rename_i persistent
      exact registers_registerPersistent context persistent publish packetId key
  · trivial

theorem registers_allocateAndRegister :
    Registers context 1 (allocateAndRegister publish context) := by
  rw [allocateAndRegister]
  split
  · exact registers_registerOutbound context publish _
  · refine Within.free .allocate rfl ?_
    intro allocated
    split
    · trivial
    · exact registers_registerOutbound context _ _

theorem registers_deliverTracked : Registers context 1 (deliverTracked publish context) := by
  apply Within.bind (registers_allocateAndRegister context publish)
  intro result
  split
  · trivial
  · split
    · rw [postpone]
      split
      · trivial
      · exact ⟨.postpone _, Nat.zero_le 0, fun _ => trivial⟩
    · exact registers_sendNow context _

theorem registers_storeOffline : Registers context 1 (storeOffline publish context) := by
  refine Within.free .newKey rfl ?_
  intro key
  refine Within.free (.putPayload key _) rfl ?_
  intro stored
  split
  · split
    · refine Within.free (.deletePayload key) rfl ?_
      intro deleted
      split <;> trivial
    · rename_i persistent
      refine Within.free (.raftAppend persistent key) rfl ?_
      intro answer
      split
      · trivial
      · exact ⟨.pushPending key, le_rfl, fun _ => trivial⟩
  · trivial

/-- A message comes into the session at one place at most. -/
theorem registers_deliverOutboundPublish :
    Registers context 1 (deliverOutboundPublish publish context) := by
  refine Within.free .now rfl ?_
  intro now
  split
  · trivial
  · split
    · split
      · trivial
      · split
        · exact (registers_sendNow context _).mono (Nat.zero_le 1)
        · exact registers_deliverTracked context _
    · split
      · trivial
      · exact registers_storeOffline context _

theorem countP_isRegistration_le {events : List (Event Op.Answer)}
    {final : Fut (Except SessionActorError OutboundPublishDeliveryStatus)}
    (follows : Follows (deliverOutboundPublish publish context) events final) :
    events.countP isRegistration ≤ 1 := by
  apply (registers_deliverOutboundPublish context publish).countP_le _ follows
  intro event
  rcases event with ⟨op, answer⟩
  cases op with
  | access what => cases what <;> first | exact Nat.zero_le 0 | exact Bool.toNat_le _
  | _ => exact Nat.zero_le 0

end Delivery

theorem only_deliveryTask (publish : Publish) (context : OutboundPublishDeliveryContext)
    (reserved : Bool) : (deliveryTask publish context reserved).Only (DeliveryOp context) := by
  exact Only.finish (registers_deliverOutboundPublish context publish).only

/-! ## Registered messages and repetitions -/

inductive RetryOp (context : OutboundPublishDeliveryContext) : Op → Prop where
  | now : RetryOp context .now
  | getPayload (key : String) : RetryOp context (.getPayload key)
  | deletePayload (key : String) : RetryOp context (.deletePayload key)
  | unsentItems : RetryOp context (.access .unsentItems)
  | item (id : UInt16) : RetryOp context (.access (.item id))
  | discardUnsent (id : UInt16) (key : String) : RetryOp context (.access (.discardUnsent id key))
  | markDeliveryStarted (id : UInt16) (key : String) :
      RetryOp context (.access (.markDeliveryStarted id key))
  | expiredEntries (deferredPacketIds : List UInt16) :
      RetryOp context (.access (.expiredEntries deferredPacketIds))
  | allEntries : RetryOp context (.access .allEntries)
  | raftDiscard (persistent : ¬ context.cleanSession) (id : UInt16) (key : String) :
      RetryOp context (.raft (.inflightDiscardUnsent context.tenantId context.clientId id key))
  | raftStart (persistent : ¬ context.cleanSession) (id : UInt16) (key : String) :
      RetryOp context (.raft (.inflightStartDelivery context.tenantId context.clientId id key))
  | send (packet : Packet) : RetryOp context (.send packet)

section Retry

variable (context : OutboundPublishDeliveryContext)

theorem only_discardUnsent (id : UInt16) (key : String) :
    (discardUnsent id key context).Only (RetryOp context) := by
  rw [discardUnsent]
  split
  · refine Only.perform (.discardUnsent id key) ?_
    intro removed
    split
    · trivial
    · refine Only.perform (.deletePayload _) ?_
      intro deleted
      split <;> trivial
  · rename_i persistent
    apply Only.perform (.raftDiscard persistent id key)
    intro answer
    split
    · trivial
    · exact ⟨.discardUnsent id key, fun _ => trivial⟩

theorem only_cleanupExpiredUnsent : (cleanupExpiredUnsent context).Only (RetryOp context) := by
  apply Only.perform .unsentItems
  intro entries
  apply only_collect
  intro item _
  rw [cleanupIfExpired]
  split
  · trivial
  · refine Only.perform (.getPayload _) ?_
    intro found
    split
    · trivial
    · refine Only.perform .now ?_
      intro now
      split
      · apply Only.bind (only_discardUnsent context _ _)
        intro result
        split <;> trivial
      · trivial

theorem only_prepareItem (publish : Publish) (id : UInt16) (key : String) (item : InflightItem) :
    (prepareRegisteredPublish.prepareItem context publish id key item).Only (RetryOp context) := by
  apply Only.perform .now
  intro now
  split
  · split
    · trivial
    · exact Only.finish (only_discardUnsent context id key)
  · split
    · trivial
    · split
      · exact ⟨.markDeliveryStarted id key, fun _ => trivial⟩
      · rename_i persistent
        apply Only.perform (.raftStart persistent id key)
        intro answer
        split
        · trivial
        · split
          · exact ⟨.markDeliveryStarted id key, fun _ => trivial⟩
          · trivial

theorem only_prepareRegisteredPublish (publish : Publish) :
    (prepareRegisteredPublish publish context).Only (RetryOp context) := by
  rw [prepareRegisteredPublish]
  split
  · trivial
  · refine Only.perform (.item _) ?_
    intro found
    split
    · trivial
    · split
      · trivial
      · exact only_prepareItem context publish _ _ _

theorem only_registeredTask (deferred : DeferredOutboundPublish) (reserved : Bool) :
    (registeredTask deferred context reserved).Only (RetryOp context) := by
  apply Only.finish
  apply Only.bind (only_prepareRegisteredPublish context deferred.publish)
  intro result
  split
  · trivial
  · trivial
  · split
    · apply Only.finish
      apply Only.perform (.send _)
      intro sent
      split <;> trivial
    · trivial

theorem only_collectInflightRetryPackets (entries : List InflightEntry) :
    (collectInflightRetryPackets entries).Only (RetryOp context) := by
  apply Only.perform .now
  intro now
  apply only_collect
  intro entry _
  rcases entry with ⟨_, key, state⟩
  cases state with
  | waitPubcomp | waitPubrel | finish => trivial
  | waitPubrec | waitPuback =>
    apply Only.perform (.getPayload key)
    intro found
    split <;> trivial

theorem only_retryTask (deferredPacketIds : List UInt16) :
    (retryTask context deferredPacketIds).Only (RetryOp context) := by
  apply Only.finish
  apply Only.bind (only_cleanupExpiredUnsent context)
  intro removed
  apply Only.perform (.expiredEntries _)
  intro entries
  apply Only.bind (only_collectInflightRetryPackets context entries)
  intro packets
  split
  · apply Only.finish
    apply only_forEach
    intro packet _
    exact ⟨.send packet, fun _ => trivial⟩
  · trivial

theorem only_retryAllTask : (retryAllTask context).Only (RetryOp context) := by
  apply Only.finish
  apply Only.bind (only_cleanupExpiredUnsent context)
  intro removed
  apply Only.perform .allEntries
  intro entries
  exact only_collectInflightRetryPackets context _

end Retry

/-! ## Messages of the client -/

/-- The operations on a message that the plugins have let pass. -/
inductive AcceptOp (context : ClientContext) (publish : Publish) : Op → Prop where
  | acquire : AcceptOp context publish .acquire
  | newKey : AcceptOp context publish .newKey
  | putPayload (key : String) (packet : Packet) : AcceptOp context publish (.putPayload key packet)
  | messagePublished : AcceptOp context publish (.call (.messagePublished publish))
  | registerRetain : AcceptOp context publish (.call (.registerRetainPublishPacket publish))
  | cleanRetain (topic : String) :
      AcceptOp context publish (.call (.cleanRetainPublishPacket topic))
  | registerRx (id : UInt16) (qos : UInt8) (key : String) :
      AcceptOp context publish (.access (.registerRx id qos key))
  | raftRegisterRx (persistent : ¬ context.cleanSession) (id : UInt16) (qos : UInt8)
      (key : String) :
      AcceptOp context publish (.raft (.inflightRegisterRxPacket context.tenantId
        context.clientId id qos key))
  | route : AcceptOp context publish (.route publish)

inductive PublishOp (context : ClientContext) : Op → Prop where
  | now : PublishOp context .now
  | authorizePublish (topic : String) (qos : UInt8) :
      PublishOp context (.call (.authorizePublish topic qos))
  | onMessagePublish (publish : Publish) : PublishOp context (.call (.onMessagePublish publish))
  | cleanRetain (topic : String) : PublishOp context (.call (.cleanRetainPublishPacket topic))
  | accept (publish : Publish) {op : Op} (kind : AcceptOp context publish op) : PublishOp context op

section Publish

variable (context : ClientContext)
variable (publish : Publish)

theorem only_retainAndRoute (ack : Option Packet) :
    (retainAndRoute publish ack).Only (AcceptOp context publish) := by
  apply Only.bind
  · rw [retainPublish]
    split
    · split
      · exact ⟨.cleanRetain _, fun _ => trivial⟩
      · exact ⟨.registerRetain, fun _ => trivial⟩
    · trivial
  · intro _
    apply Only.perform .route
    intro taken
    split <;> trivial

theorem only_registerInbound (packetId : UInt16) :
    (registerInbound publish packetId context).Only (AcceptOp context publish) := by
  apply Only.perform .newKey
  intro key
  apply Only.perform (.putPayload key _)
  intro stored
  split
  · refine Only.perform (.registerRx packetId publish.qos key) ?_
    intro _
    generalize (if publish.qos = 1 then Packet.puback (successAck packetId)
      else .pubrec (successAck packetId)) = ack
    split
    · exact only_retainAndRoute context publish _
    · rename_i persistent
      refine Only.perform (.raftRegisterRx persistent packetId publish.qos key) ?_
      intro answer
      split
      · trivial
      · exact only_retainAndRoute context publish _
  · trivial

theorem only_acceptPublish :
    (acceptPublish publish context).Only (AcceptOp context publish) := by
  apply Only.perform .messagePublished
  intro _
  apply Only.perform .acquire
  intro _
  split
  · exact only_retainAndRoute context publish none
  · split
    · trivial
    · exact only_registerInbound context publish _

theorem only_publishTask : (publishTask publish context).Only (PublishOp context) := by
  apply Only.finish
  apply Only.perform (.authorizePublish _ _)
  intro authorized
  split
  · trivial
  · trivial
  · refine Only.perform .now ?_
    intro now
    split
    · rw [cleanExpiredTombstone]
      split
      · exact ⟨.cleanRetain _, fun _ => trivial⟩
      · trivial
    · refine Only.perform (.onMessagePublish publish) ?_
      intro policy
      split
      · trivial
      · split
        · split
          · exact (only_acceptPublish context publish).mono fun _ => .accept publish
          · exact (only_acceptPublish context _).mono fun _ => .accept _
        · trivial

end Publish

/-! ## Acknowledgements -/

inductive AckOp (packetId : UInt16) (context : ClientContext) : Op → Prop where
  | acquire : AckOp packetId context .acquire
  | currentState : AckOp packetId context (.access (.currentState packetId))
  | nextState : AckOp packetId context (.access (.nextState packetId))
  | cleanFinishedItems : AckOp packetId context (.access .cleanFinishedItems)
  | raftNextState (persistent : ¬ context.cleanSession) :
      AckOp packetId context (.raft (.inflightNextState context.tenantId context.clientId packetId))
  | raftClean (persistent : ¬ context.cleanSession) :
      AckOp packetId context (.raft (.inflightCleanFinishItems context.tenantId context.clientId))
  | pubrel : AckOp packetId context (.send (.pubrel (successAck packetId)))
  | pubcomp : AckOp packetId context (.send (.pubcomp (successAck packetId)))

section Acknowledgements

variable (packetId : UInt16) (context : ClientContext)

theorem only_isExpected (expected : InflightState) :
    (isExpected packetId expected).Only (AckOp packetId context) :=
  ⟨.currentState, fun _ => trivial⟩

theorem only_advanceEverywhere (persistent : ¬ context.cleanSession) :
    (advanceEverywhere packetId context).Only (AckOp packetId context) := by
  apply Only.perform (.raftNextState persistent)
  intro answer
  split
  · trivial
  · exact ⟨.nextState, fun _ => trivial⟩

theorem only_cleanFinishedEverywhere (persistent : ¬ context.cleanSession) :
    (cleanFinishedEverywhere context).Only (AckOp packetId context) := by
  apply Only.perform (.raftClean persistent)
  intro answer
  split
  · exact ⟨.cleanFinishedItems, fun _ => trivial⟩
  · trivial

theorem only_pubackTask : (pubackTask packetId context).Only (AckOp packetId context) := by
  apply Only.finish
  apply Only.bind (only_isExpected packetId context .waitPuback)
  intro expected
  split
  · split
    · exact ⟨.nextState, fun _ => trivial⟩
    · rename_i persistent
      apply Only.bind (only_advanceEverywhere packetId context persistent)
      intro advanced
      split
      · exact Only.finish (only_cleanFinishedEverywhere packetId context persistent)
      · trivial
  · trivial

theorem only_pubrecTask : (pubrecTask packetId context).Only (AckOp packetId context) := by
  apply Only.finish
  apply Only.bind (only_isExpected packetId context .waitPubrec)
  intro expected
  split
  · refine Only.perform .pubrel ?_
    intro sent
    split
    · trivial
    · split
      · exact ⟨.nextState, fun _ => trivial⟩
      · rename_i persistent
        exact only_advanceEverywhere packetId context persistent
  · trivial

theorem only_pubrelTask : (pubrelTask packetId context).Only (AckOp packetId context) := by
  apply Only.finish
  apply Only.perform .acquire
  intro _
  apply Only.perform .pubcomp
  intro sent
  split
  · trivial
  · split
    · exact ⟨.nextState, fun _ => trivial⟩
    · rename_i persistent
      apply Only.perform (.raftNextState persistent)
      intro answer
      split
      · trivial
      · exact ⟨.nextState, fun _ => ⟨.raftClean persistent, fun _ =>
          ⟨.cleanFinishedItems, fun _ => trivial⟩⟩⟩

theorem only_pubcompTask : (pubcompTask packetId context).Only (AckOp packetId context) := by
  apply Only.finish
  rw [handlePubcomp]
  split
  · exact ⟨.nextState, fun _ => trivial⟩
  · rename_i persistent
    apply Only.bind (only_advanceEverywhere packetId context persistent)
    intro advanced
    split
    · exact only_cleanFinishedEverywhere packetId context persistent
    · trivial

end Acknowledgements

/-! ## Finished items -/

inductive CleanupOp : Op → Prop where
  | acquire : CleanupOp .acquire
  | cleanFinishedItems : CleanupOp (.access .cleanFinishedItems)
  | deletePayload (key : String) : CleanupOp (.deletePayload key)

theorem only_cleanupLocal : (quietly cleanupLocalFinishedItems).Only CleanupOp := by
  apply Only.finish
  apply Only.perform .acquire
  intro _
  apply Only.perform .cleanFinishedItems
  intro keys
  apply only_forEach
  intro key _
  exact ⟨.deletePayload key, fun _ => trivial⟩

/-! ## Subscriptions -/

inductive SubscriptionOp (context : ClientContext) : Op → Prop where
  | now : SubscriptionOp context .now
  | subscriptions : SubscriptionOp context (.access .subscriptions)
  | insertSubscription (topic : String) (subscription : SubscriptionState) :
      SubscriptionOp context (.access (.insertSubscription topic subscription))
  | authorizeSubscribe (topic : SubscribeTopic) :
      SubscriptionOp context (.call (.authorizeSubscribe topic))
  | onMessageSubscribe (topic : SubscribeTopic) :
      SubscriptionOp context (.call (.onMessageSubscribe topic))
  | subscribeTopic (topicFilter : String) (qos : UInt8) (noLocal retainAsPublished : Bool) :
      SubscriptionOp context (.call (.subscribeTopic topicFilter qos noLocal retainAsPublished))
  | getRetainPublishPackets (topicFilter : String) :
      SubscriptionOp context (.call (.getRetainPublishPackets topicFilter))
  | raftSubscribe (persistent : ¬ context.cleanSession) (topic : String) (qos : UInt8)
      (noLocal retainAsPublished : Bool) :
      SubscriptionOp context (.raft (.subscribeTopic context.tenantId context.clientId topic
        qos noLocal retainAsPublished))
  | retained (retained : RetainedPublishDelivery) (publish : Publish) :
      SubscriptionOp context (.doSend (.publish (retainedPublish retained publish)))
  | suback (suback : Suback) : SubscriptionOp context (.doSend (.suback suback))

inductive UnsubscribeOp (context : ClientContext) : Op → Prop where
  | unsubscribeTopic (topicFilter : String) :
      UnsubscribeOp context (.call (.unsubscribeTopic topicFilter))
  | removeSubscription (topic : String) :
      UnsubscribeOp context (.access (.removeSubscription topic))
  | raftUnsubscribe (persistent : ¬ context.cleanSession) (topic : String) :
      UnsubscribeOp context (.raft (.unsubscribeTopic context.tenantId context.clientId topic))
  | unsuback (unsuback : Unsuback) : UnsubscribeOp context (.doSend (.unsuback unsuback))

section Subscriptions

variable (context : ClientContext)

theorem only_subscribeAllowed (protocolVersion : ProtocolVersion) (existing : List String)
    (topic : SubscribeTopic) (item : SubscribeResultItem) :
    (subscribeAllowed protocolVersion existing topic item).Only (SubscriptionOp context) := by
  apply Only.perform (.subscribeTopic _ _ _ _)
  intro subscribed
  split
  · split
    · exact ⟨.getRetainPublishPackets _, fun _ => trivial⟩
    · trivial
  · trivial

theorem only_subscribeOne (protocolVersion : ProtocolVersion) (existing : List String)
    (topic : SubscribeTopic) :
    (subscribeOne protocolVersion existing topic).Only (SubscriptionOp context) := by
  rw [subscribeOne]
  split
  · trivial
  · refine Only.perform (.authorizeSubscribe topic) ?_
    intro authorized
    split
    · refine Only.perform (.onMessageSubscribe topic) ?_
      intro policy
      split
      · trivial
      · split
        · exact only_subscribeAllowed context protocolVersion existing topic _
        · trivial
    · trivial

theorem only_doHandleSubscribe (subscribe : Subscribe) (existing : List String) :
    (doHandleSubscribe subscribe existing).Only (SubscriptionOp context) := by
  rw [doHandleSubscribe]
  split
  · trivial
  · apply only_collect
    intro topic _
    exact Only.finish (only_subscribeOne context _ existing topic)

theorem only_writeRetained (retained : RetainedPublishDelivery) :
    (writeRetained retained).Only (SubscriptionOp context) := by
  rw [writeRetained]
  split
  · refine Only.perform .now ?_
    intro now
    split
    · trivial
    · exact ⟨.retained retained _, fun _ => trivial⟩
  · trivial

theorem only_storeSubscription (subscription : String × SubscriptionState) :
    (storeSubscription context subscription).Only (SubscriptionOp context) := by
  rw [storeSubscription]
  split
  · exact ⟨.insertSubscription _ _, fun _ => trivial⟩
  · rename_i persistent
    apply Only.perform (.raftSubscribe persistent _ _ _ _)
    intro answer
    split
    · trivial
    · exact ⟨.insertSubscription _ _, fun _ => trivial⟩

theorem only_subscribeTask (subscribe : Subscribe) :
    (quietly (handleSubscribe subscribe context)).Only (SubscriptionOp context) := by
  apply Only.finish
  apply Only.perform .subscriptions
  intro existing
  apply Only.bind (only_doHandleSubscribe context subscribe _)
  intro outcomes
  apply Only.bind
  · apply only_forEach
    intro retained _
    exact only_writeRetained context retained
  · intro _
    apply Only.perform (.suback _)
    intro _
    apply only_forEach
    intro subscription _
    exact only_storeSubscription context subscription

theorem only_unsubscribeTask (unsubscribe : Unsubscribe) :
    (quietly (handleUnsubscribe unsubscribe context)).Only (UnsubscribeOp context) := by
  apply Only.finish
  apply Only.bind
  · apply only_forEach
    intro topic _
    exact ⟨.unsubscribeTopic topic, fun _ => trivial⟩
  · intro _
    apply Only.bind
    · apply only_forEach
      intro topic _
      apply Only.perform (.removeSubscription topic)
      intro _
      split
      · trivial
      · rename_i persistent
        exact ⟨.raftUnsubscribe persistent topic, fun _ => trivial⟩
    · intro _
      exact ⟨.unsuback _, fun _ => trivial⟩

end Subscriptions

/-! ## Start, end and return of a session -/

inductive LifeOp (owner : ClientContext) : Op → Prop where
  | now : LifeOp owner .now
  | lifecycle (message : LifecycleMessage) : LifeOp owner (.call (.lifecycle message))
  | disconnectedHook : LifeOp owner (.call .clientDisconnectedHook)
  | disconnection : LifeOp owner (.call .disconnectConnection)
  | subscribeTopic (topicFilter : String) (qos : UInt8) (noLocal retainAsPublished : Bool) :
      LifeOp owner (.call (.subscribeTopic topicFilter qos noLocal retainAsPublished))
  | subscriptions : LifeOp owner (.access .subscriptions)
  | notifyRetry : LifeOp owner (.notify .allInflightRetryImmediate)
  | notifyStop : LifeOp owner (.notify .forceStop)
  | protocolError (disconnect : Disconnect) : LifeOp owner (.send (.disconnect disconnect))
  | will (willMessage : WillMessage) (now : Nat) :
      LifeOp owner (.route (buildWillPublish willMessage now))
  | connectionState (disconnectedAt : Option Nat) (interval : Option UInt32) :
      LifeOp owner (.raft (.updateSessionConnectionState owner.tenantId owner.clientId
        disconnectedAt interval))

section Life

variable (owner : ClientContext)

theorem only_recoverSubscriptions (subscriptions : List (String × SubscriptionState)) :
    (recoverSubscriptions subscriptions).Only (LifeOp owner) := by
  apply only_forEach
  intro subscription _
  exact ⟨.subscribeTopic _ _ _ _, fun _ => trivial⟩

theorem only_recoverSession (session : Session) :
    (recoverSession session).Only (LifeOp session.clientContext) := by
  apply Only.perform (.lifecycle .sessionStarted)
  intro started
  split
  · refine Only.perform .subscriptions ?_
    intro subscriptions
    apply Only.perform .notifyRetry
    intro _
    split
    · trivial
    · refine Only.perform (.connectionState none none) ?_
      intro _
      exact Only.finish (only_recoverSubscriptions _ subscriptions)
  · exact ⟨.notifyStop, fun _ => trivial⟩

theorem only_sendWill (willMessage : Option WillMessage) (completion : Completion) :
    (sendWill willMessage completion).Only (LifeOp owner) := by
  cases willMessage with
  | none => trivial
  | some willMessage => exact ⟨.now, fun now => ⟨.will willMessage now, fun _ => trivial⟩⟩

theorem only_connectionState (disconnectedAt : Option Nat) (session : Session) :
    (updateConnectionState disconnectedAt session).Only (LifeOp session.clientContext) :=
  ⟨.connectionState _ _, fun _ => trivial⟩

end Life

/-! ## Messages that waited for the client -/

inductive PendingOp (tenantId clientId : String) : Op → Prop where
  | now : PendingOp tenantId clientId .now
  | pop : PendingOp tenantId clientId (.raft (.popFromPendingQueue tenantId clientId))
  | getPayload (key : String) : PendingOp tenantId clientId (.getPayload key)
  | notify (packet : Packet) : PendingOp tenantId clientId (.notify (.outboundMessage packet))
  | acquire : PendingOp tenantId clientId .acquire
  | drainPending : PendingOp tenantId clientId (.access .drainPending)
  | subscriptions : PendingOp tenantId clientId (.access .subscriptions)
  | subscribeTopic (topicFilter : String) (qos : UInt8) (noLocal retainAsPublished : Bool) :
      PendingOp tenantId clientId
        (.call (.subscribeTopic topicFilter qos noLocal retainAsPublished))

theorem only_postStored {P : Op → Prop} (protocolVersion : ProtocolVersion) (key : String)
    (reads : P (.getPayload key)) (asks : P .now)
    (posts : ∀ packet, P (.notify (.outboundMessage packet))) :
    (postStored protocolVersion key).Only P := by
  apply Only.perform reads
  intro found
  split
  · trivial
  · refine Only.perform asks ?_
    intro now
    split
    · trivial
    · exact ⟨posts _, fun _ => trivial⟩

theorem only_popPendingOnce {P : Op → Prop} (session : Session)
    (pops : P (.raft (.popFromPendingQueue session.tenantId session.clientId)))
    (posts : ∀ key, (postStored session.protocolVersion key).Only P) :
    (popPendingOnce session).Only P := by
  apply Only.finish
  apply Only.perform pops
  intro answer
  split
  · trivial
  · exact (posts _).finish

theorem only_popTask (session : Session) :
    (popPendingOnce session).Only (PendingOp session.tenantId session.clientId) :=
  only_popPendingOnce session .pop fun key => only_postStored _ key (.getPayload key) .now .notify

theorem only_resumeSession (tenantId clientId : String) (protocolVersion : ProtocolVersion) :
    (resumeSession protocolVersion).Only (PendingOp tenantId clientId) := by
  apply Only.perform .acquire
  intro _
  apply Only.perform .drainPending
  intro keys
  apply Only.bind
  · apply only_forEach
    intro key _
    exact only_postStored protocolVersion key (.getPayload key) .now .notify
  · intro _
    apply Only.perform .subscriptions
    intro subscriptions
    apply Only.finish
    apply only_forEach
    intro subscription _
    exact ⟨.subscribeTopic _ _ _ _, fun _ => trivial⟩

/-! ## All futures -/

/-- The operations of the futures that act for a session, without those of acknowledgements
and of the client's messages. -/
inductive PlainOp (owner : ClientContext) : Op → Prop where
  | delivery (context : OutboundPublishDeliveryContext) (own : context.client = owner)
      {op : Op} (kind : DeliveryOp context op) : PlainOp owner op
  | retry (context : OutboundPublishDeliveryContext) (own : context.client = owner)
      {op : Op} (kind : RetryOp context op) : PlainOp owner op
  | subscription {op : Op} (kind : SubscriptionOp owner op) : PlainOp owner op
  | unsubscription {op : Op} (kind : UnsubscribeOp owner op) : PlainOp owner op
  | life {op : Op} (kind : LifeOp owner op) : PlainOp owner op
  | pending {op : Op} (kind : PendingOp owner.tenantId owner.clientId op) : PlainOp owner op
  | cleanup {op : Op} (kind : CleanupOp op) : PlainOp owner op
  | raftCleanup : PlainOp owner (.raft (.inflightCleanFinishItems owner.tenantId owner.clientId))
  | deletion : PlainOp owner (.raft (.deleteSessionState owner.tenantId owner.clientId none))

theorem only_plain {owner : ClientContext} {start : SessionStart}
    (plain : PlainProgram owner start)
    (other : ∀ publish, start.future ≠ publishTask publish owner) :
    start.future.Only (PlainOp owner) := by
  cases plain with
  | recovery session own =>
    subst own
    exact (only_recoverSession session).mono fun _ => .life
  | pop session own =>
    subst own
    exact (only_popTask session).mono fun _ kind => .pending kind
  | delivery mode publish context reserved own =>
    exact (only_deliveryTask publish context reserved).mono fun _ => .delivery context own
  | registered deferred context reserved own =>
    exact (only_registeredTask context deferred reserved).mono fun _ => .retry context own
  | publish publish => exact absurd rfl (other publish)
  | subscribe subscribe =>
    exact (only_subscribeTask owner subscribe).mono fun _ => .subscription
  | unsubscribe unsubscribe =>
    exact (only_unsubscribeTask owner unsubscribe).mono fun _ => .unsubscription
  | retry context deferredPacketIds own =>
    exact (only_retryTask context deferredPacketIds).mono fun _ => .retry context own
  | retryAll context own => exact (only_retryAllTask context).mono fun _ => .retry context own
  | resume protocolVersion =>
    exact (only_resumeSession owner.tenantId owner.clientId protocolVersion).mono fun _ => .pending
  | will willMessage completion =>
    exact (only_sendWill owner willMessage completion).mono fun _ => .life
  | cleanupLocal => exact only_cleanupLocal.mono fun _ => .cleanup
  | cleanupRaft => exact ⟨.raftCleanup, fun _ => trivial⟩
  | lifecycle message => exact ⟨.life (.lifecycle message), fun _ => trivial⟩
  | disconnectedHook => exact ⟨.life .disconnectedHook, fun _ => trivial⟩
  | protocolError => exact ⟨.life (.protocolError _), fun _ => trivial⟩
  | disconnection => exact ⟨.life .disconnection, fun _ => trivial⟩
  | connectionState disconnectedAt session own =>
    subst own
    exact (only_connectionState disconnectedAt session).mono fun _ => .life
  | deletion session own =>
    subst own
    exact ⟨.deletion, fun _ => trivial⟩
  | stopNotice => exact ⟨.life (.lifecycle .sessionStopped), fun _ => trivial⟩

theorem only_ackTask (kind : AckKind) (id : UInt16) (context : ClientContext) :
    (kind.task id context).Only (AckOp id context) := by
  cases kind with
  | puback => exact only_pubackTask id context
  | pubrec => exact only_pubrecTask id context
  | pubrel => exact only_pubrelTask id context
  | pubcomp => exact only_pubcompTask id context

end YedMQ.SessionActor
