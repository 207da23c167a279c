import YedMQ.Raft.StateMachine
import YedMQ.Topic.TopicStorage

/-! # The topic machine

Subscriptions and retained messages as committed requests. A refused subscription,
unsubscription or cleaning is dropped silently; a refused retained publication makes
`apply` return an error, which stops the replica.
-/

namespace YedMQ.Raft.Topic

open Foundation YedMQ.Topic StateMachineData TopicStorage

inductive TopicRequest where
  | subscribeTopic (tenantId clientIdentifier topic : String) (qos : UInt8)
      (noLocal retainAsPublished : Bool)
  | unsubscribeTopic (tenantId clientIdentifier topic : String)
  | registerRetainPublishPacket (tenantId sourceClientIdentifier : String) (publishPacket : Packet)
  | cleanRetainPublishPacket (tenantId topicFilter : String)
  | createTenant (tenantId : String)

def orUnchanged (storage : TopicStorage) : Except TopicStorageError TopicStorage → TopicStorage
  | .ok next => next
  | .error _ => storage

/-- The machine reads no clock and answers nothing. -/
def applyRequest (_ : Unit) (_ : LogId) (storage : TopicStorage) :
    TopicRequest → Except TopicStorageError (TopicStorage × Unit)
  | .subscribeTopic tenantId clientIdentifier topic qos noLocal retainAsPublished =>
    let storage :=
      if !storage.containsTenant tenantId then storage.createTenant tenantId
      else storage
    .ok (orUnchanged storage
      (storage.subscribeWithOptions tenantId clientIdentifier topic qos noLocal
        retainAsPublished), ())
  | .unsubscribeTopic tenantId clientIdentifier topic =>
    .ok (orUnchanged storage (storage.unsubscribe tenantId clientIdentifier topic), ())
  | .registerRetainPublishPacket tenantId sourceClientIdentifier publishPacket =>
    match storage.registerRetainPublishPacket tenantId sourceClientIdentifier publishPacket with
    | .ok storage => .ok (storage, ())
    | .error error => .error error
  | .cleanRetainPublishPacket tenantId topicFilter =>
    .ok (orUnchanged storage (storage.cleanRetainPublishPacket tenantId topicFilter), ())
  | .createTenant tenantId => .ok (storage.createTenant tenantId, ())

def initial : StateMachineData TopicStorage :=
  .new new

def step : StateMachineData TopicStorage → Entry TopicRequest × Unit →
    Option (StateMachineData TopicStorage) :=
  StateMachineData.step applyRequest ()

def TopicRequest.createdTenant : TopicRequest → Option String
  | .subscribeTopic tenantId _ _ _ _ _ => some tenantId
  | .createTenant tenantId => some tenantId
  | _ => none

end YedMQ.Raft.Topic
