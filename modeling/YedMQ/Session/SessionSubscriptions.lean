import YedMQ.Raft.Topic.Effects
import YedMQ.Session.ExpiredSessions
import YedMQ.Session.SessionActor.Handlers

/-! # The sessions of a client and its subscriptions

A client has one session after another. A session begins when a session actor is started
without a recovered state. It ends when its state is deleted (by a clean start, a connection
with expiry interval 0 or the cleanup), or when the actor of a clean session stops.
Subscriptions stand in the topic trie, which is another replicated machine; only SUBSCRIBE,
UNSUBSCRIBE and the recovery of a session write to it.

The model follows one client. Sessions are numbered, and a subscribe request of the client
carries the number of the session in which the client has asked for it, however late the
request is applied and whoever sends it.
-/

namespace YedMQ.SessionManager

open YedMQ.Raft.Topic (TopicRequest)
open YedMQ.Topic (TopicStorage Subscription StoredFilter acceptedFilter)
open YedMQ.Raft.SessionState (SessionStateRequest)
open Foundation Raft

inductive ActorStage where
  | running
  /-- The session state is being deleted, because the session ends with its connection. -/
  | deletingState
  | stopped
deriving DecidableEq, Repr

structure ClientActor where
  instanceId : SessionInstanceId
  session : Nat
  cleanSession : Bool
  protocolVersion : ProtocolVersion
  sessionExpiryInterval : Option UInt32
  stage : ActorStage
deriving DecidableEq

structure Subscriber where
  cluster : Cluster
  topics : TopicStorage
  actors : List ClientActor
  /-- The session that the client has. -/
  current : Option Nat
  /-- The number of the next session. -/
  upcoming : Nat
  /-- The filters that the client has asked for, each with the session in which it did. -/
  requested : List (Nat × String)

namespace Subscriber

def new (nodes : List NodeId) : Subscriber where
  cluster := .new nodes
  topics := TopicStorage.new
  actors := []
  current := none
  upcoming := 0
  requested := []

def setCluster (cluster : Cluster) (subscriber : Subscriber) : Subscriber :=
  { subscriber with cluster := cluster }

def setActor (number : Nat) (actor : ClientActor) (subscriber : Subscriber) : Subscriber :=
  { subscriber with actors := subscriber.actors.modify number fun _ => actor }

def endSession (subscriber : Subscriber) : Subscriber :=
  { subscriber with current := none }

def startActor (instanceId : SessionInstanceId) (sessionPresent : Bool)
    (message : CreateSessionMessage) (subscriber : Subscriber) : Subscriber :=
  let session :=
    if sessionPresent then subscriber.current.getD subscriber.upcoming
    else subscriber.upcoming
  { subscriber with
    actors := subscriber.actors ++ [{
      instanceId := instanceId
      session := session
      cleanSession := message.cleanSession
      protocolVersion := message.protocolVersion
      sessionExpiryInterval := message.sessionExpiryInterval
      stage := .running }]
    current := some session
    upcoming := subscriber.upcoming + 1 }

def stopActor (number : Nat) (actor : ClientActor) (subscriber : Subscriber) : Subscriber :=
  let stopped := subscriber.setActor number { actor with stage := .stopped }
  if actor.cleanSession && subscriber.current == some actor.session then stopped.endSession
  else stopped

end Subscriber

def Manager.startedActor (number : Nat) (manager : Manager) :
    Option (SessionInstanceId × Bool × CreateSessionMessage) :=
  match manager.creations[number]? with
  | some ⟨message, .checking instanceId sessionPresent (some current)⟩ =>
    if current = some instanceId then some (instanceId, sessionPresent, message) else none
  | _ => none

def startedActorBy (cluster : Cluster) : ClusterInput →
    Option (SessionInstanceId × Bool × CreateSessionMessage)
  | .node nodeId (.answer number _ false) => (cluster.view nodeId).startedActor number
  | _ => none

/-- A handler's unconditional delete is over. It was sent because the client starts anew. -/
def startsAnew (cluster : Cluster) : ClusterInput → Bool
  | .node nodeId (.command number _ _ _) =>
    match (cluster.view nodeId).progressAt number with
    | some (.deleting _) => true
    | _ => false
  | _ => false

variable (client : Client)

def endsSession (before after : Cluster) (input : ClusterInput) : Bool :=
  ((before.sessionState client).isSome && (after.sessionState client).isNone) ||
    startsAnew before input

/-- What a session actor does at the end of a connection; a DISCONNECT may have changed the
expiry interval before. -/
def ClientActor.finishConnectionDisconnect (actor : ClientActor) : ActorStage :=
  if actor.protocolVersion = .v5_0 && actor.sessionExpiryInterval = some 0 &&
      !actor.cleanSession then
    .deletingState
  else if actor.cleanSession then
    .stopped
  else
    .running

def ClientActor.updateInterval (requested : Option UInt32) (actor : ClientActor) :
    ClientActor :=
  match actor.protocolVersion with
  | .v3_1_1 => actor
  | .v5_0 =>
    match SessionActor.updatedSessionExpiryInterval actor.sessionExpiryInterval requested with
    | .ok updated => { actor with sessionExpiryInterval := updated }
    | .error _ => actor

inductive SubscriberInput where
  | cluster (input : ClusterInput)
  /-- A request of the topic machine's log is applied. A subscribe request of the client
  comes from a session. -/
  | topic (logId : LogId) (session : Option Nat) (request : TopicRequest)
  /-- The connection of a session actor ends. -/
  | disconnect (number : Nat) (requested : Option UInt32)
  /-- The delete command of a session actor ends. -/
  | stateDeleted (number : Nat) (logId : LogId) (reading : SessionState.Reading)
      (outcome : WriteOutcome)
  /-- A session actor is forced to stop. -/
  | stop (number : Nat)

def requestedFilter : TopicRequest → Option String
  | .subscribeTopic tenantId clientIdentifier topic _ _ _ =>
    if tenantId = client.tenantId ∧ clientIdentifier = client.clientId then some topic
    else none
  | _ => none

def Subscriber.note (session : Option Nat) (request : TopicRequest)
    (subscriber : Subscriber) : Subscriber :=
  { subscriber with
    requested := subscriber.requested ++
      (session.bind fun session => (requestedFilter client request).map fun topic =>
        (session, topic)).toList }

def topicStep (logId : LogId) (session : Option Nat) (request : TopicRequest)
    (subscriber : Subscriber) : Option Subscriber :=
  if session.all (fun session => session < subscriber.upcoming) then
    match Raft.Topic.applyRequest () logId subscriber.topics request with
    | .ok (topics, _) => some { subscriber.note client session request with topics := topics }
    | .error _ => none
  else
    none

def clusterStep (input : ClusterInput) (subscriber : Subscriber) :
    Option Subscriber :=
  (subscriber.cluster.step client input).map fun cluster =>
    let moved := subscriber.setCluster cluster
    let ended :=
      if endsSession client subscriber.cluster cluster input then moved.endSession else moved
    match startedActorBy subscriber.cluster input with
    | some (instanceId, sessionPresent, message) =>
      ended.startActor instanceId sessionPresent message
    | none => ended

def disconnectStep (number : Nat) (actor : ClientActor) (subscriber : Subscriber) :
    Option Subscriber :=
  match actor.finishConnectionDisconnect with
  | .stopped => some (subscriber.stopActor number actor)
  | stage => some (subscriber.setActor number { actor with stage := stage })

/-- A session actor stops after its delete command, whose answer is not looked at. The
session is over if it was the one of the actor, or if its state is gone. -/
def Subscriber.afterDelete (number : Nat) (actor : ClientActor)
    (cluster : Cluster) (subscriber : Subscriber) : Subscriber :=
  let stopped := (subscriber.setActor number { actor with stage := .stopped }).setCluster cluster
  if subscriber.current == some actor.session ||
      ((subscriber.cluster.sessionState client).isSome && (cluster.sessionState client).isNone) then
    stopped.endSession
  else
    stopped

def stateDeletedStep (number : Nat) (logId : LogId)
    (reading : SessionState.Reading) (outcome : WriteOutcome) (actor : ClientActor)
    (subscriber : Subscriber) : Option Subscriber :=
  if outcome = .lost then
    some (subscriber.afterDelete client number actor subscriber.cluster)
  else
    match SessionState.applyRequest reading logId subscriber.cluster.sessionStates
        (.deleteSessionState client.tenantId client.clientId none) with
    | .ok (sessionStates, _) =>
      some (subscriber.afterDelete client number actor
        { subscriber.cluster with sessionStates := sessionStates })
    | .error _ => none

namespace Subscriber

def step (client : Client) (subscriber : Subscriber) : SubscriberInput → Option Subscriber
  | .cluster input => clusterStep client input subscriber
  | .topic logId session request => topicStep client logId session request subscriber
  | .disconnect number requested =>
    (subscriber.actors[number]?.filter fun actor => actor.stage = .running).bind fun actor =>
      disconnectStep number (actor.updateInterval requested) subscriber
  | .stateDeleted number logId reading outcome =>
    (subscriber.actors[number]?.filter fun actor =>
      actor.stage = .deletingState).bind fun actor =>
        stateDeletedStep client number logId reading outcome actor subscriber
  | .stop number =>
    (subscriber.actors[number]?.filter fun actor => actor.stage ≠ .stopped).map fun actor =>
      subscriber.stopActor number actor

end Subscriber

/-! ## What is to be shown -/

def Subscriber.Asked (filter : StoredFilter) (subscriber : Subscriber) : Prop :=
  ∃ session topic, subscriber.current = some session ∧
    (session, topic) ∈ subscriber.requested ∧ acceptedFilter topic = some filter

def filterOf (subscription : Subscription) : StoredFilter where
  sharedGroup := subscription.sharedGroup
  topicFilter := subscription.topicFilter

def Subscriber.Stores (client : Client) (subscription : Subscription)
    (subscriber : Subscriber) : Prop :=
  subscriber.topics.Holds client.tenantId subscription ∧
    subscription.clientIdentifier = client.clientId

/-- The trie holds no subscription from an ended session, and messages are routed to the
client only through filters of its current session. -/
structure WithinSession (client : Client) (subscriber : Subscriber) : Prop where
  stored : ∀ subscription, subscriber.Stores client subscription →
    subscriber.Asked (filterOf subscription)
  routed : ∀ topic subscriptions,
    subscriber.topics.getSubscriptions client.tenantId topic = .ok subscriptions →
      ∀ subscription ∈ subscriptions, subscription.clientIdentifier = client.clientId →
        subscriber.Asked (filterOf subscription)

end YedMQ.SessionManager
