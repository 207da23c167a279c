import Mathlib.Data.List.Dedup
import Mathlib.Data.List.Sort
import YedMQ.Raft.Entry
import YedMQ.Topic.TopicStorage

/-! # Routing a message to its subscribers

`RouterActor::route` hands a message to every normal subscription and to one member of
each group that shares a subscription. It calls `deliver_to_subscriber` for one
subscription after another. What such a call meets (the session-actor map, the session
registry, the durable outbox) stands next to the subscription, because the call is made
once for each of them at most.
-/

namespace YedMQ.Router

open Raft Topic

inductive RouterActorError where
  | getSubscribers (error : TopicStorageError)
  | topicService (reason : String)
  | sessionActorMapRaft (reason : String)
  | serialization (reason : String)
  | payloadStore (reason : String)
  | routeStore (reason : String)
  | grpc (reason : String)
  | routedDelivery (reason : String)

structure SharedSubscriptionRouteKey where
  tenantId : String
  shareName : String
  topicFilter : String
deriving DecidableEq

/-- What a delivery meets: the node in the session-actor map (of this node, or else read
through raft), whether the session registry of this node has the session, and how the
durable outbox takes the message. The outbox accepts a message that has expired in the
meantime without storing it. -/
structure Surroundings where
  sessionActorMap : Except String (Option NodeId)
  registered : Bool
  enqueued : Except RouterActorError Bool

/-- A matching subscription, numbered by its place among all of them. -/
structure Candidate where
  number : Nat
  subscription : Subscription
  surroundings : Surroundings

/-- How a copy leaves the router. -/
inductive Way where
  | localSession
  | durableRoute (nodeId : NodeId)
  | bestEffortRoute (nodeId : NodeId)
deriving DecidableEq

structure Handed where
  number : Nat
  way : Way
  publish : Publish
deriving DecidableEq

inductive Effect where
  | handed (copy : Handed)
  | cursor (key : SharedSubscriptionRouteKey) (next : Nat)
  | messagesDropped

structure Outcome (α : Type) where
  effects : List Effect
  result : Except RouterActorError α

namespace Outcome

def fail {α : Type} (error : RouterActorError) : Outcome α where
  effects := []
  result := .error error

def tell (effect : Effect) : Outcome Unit where
  effects := [effect]
  result := .ok ()

def bind {α β : Type} (outcome : Outcome α) (next : α → Outcome β) : Outcome β :=
  match outcome.result with
  | .error error => { effects := outcome.effects, result := .error error }
  | .ok value =>
    { effects := outcome.effects ++ (next value).effects, result := (next value).result }

instance : Monad Outcome where
  pure value := { effects := [], result := .ok value }
  bind := bind

end Outcome

def adjustPublishForSubscriber (publish : Publish) (subscriberQos : UInt8)
    (retainAsPublished : Bool) : Publish :=
  let publish :=
    if publish.qos ≥ subscriberQos then
      if subscriberQos = 0 ∧ publish.qos > 0 then
        { publish with qos := 0, packetIdentifier := none }
      else
        { publish with qos := subscriberQos }
    else
      publish
  if !retainAsPublished then { publish with retain := false } else publish

def shouldRouteDurably (publish : Publish) : Bool :=
  publish.qos ≥ 1

/-- The part of the router's context that the routing reads. The groups come in the order
of a hash map. -/
structure RouteContext where
  currentNodeId : NodeId
  cursors : SharedSubscriptionRouteKey → Nat
  order : List SharedSubscriptionRouteKey → List SharedSubscriptionRouteKey
  order_perm : ∀ keys, (order keys).Perm keys

/-- A message to be routed, and the subscriptions that the topic storage of this node, and
a linearizable read of the topics, find for it. -/
structure Arrival where
  tenantId : String
  publish : Publish
  sourceClientIdentifier : Option String
  now : Nat
  subscriptions : Except TopicStorageError (List (Subscription × Surroundings))
  linearizable : Except String (List (Subscription × Surroundings))

section Route

variable (context : RouteContext) (arrival : Arrival)
variable (candidate : Candidate)

def routeToLocalSession (publish : Publish) : Outcome Bool := do
  if candidate.surroundings.registered then
    Outcome.tell (.handed ⟨candidate.number, .localSession, publish⟩)
    return true
  else
    return false

def deliverToSubscriber : Outcome Bool :=
  match candidate.surroundings.sessionActorMap with
  | .error reason => Outcome.fail (.sessionActorMapRaft reason)
  | .ok none => pure false
  | .ok (some nodeId) =>
    let adjusted := adjustPublishForSubscriber arrival.publish candidate.subscription.qos
      candidate.subscription.retainAsPublished
    if nodeId ≠ context.currentNodeId then
      if shouldRouteDurably adjusted then
        match candidate.surroundings.enqueued with
        | .error error => Outcome.fail error
        | .ok false => pure true
        | .ok true => do
          Outcome.tell (.handed ⟨candidate.number, .durableRoute nodeId, adjusted⟩)
          return true
      else do
        Outcome.tell (.handed ⟨candidate.number, .bestEffortRoute nodeId, adjusted⟩)
        return true
    else
      routeToLocalSession candidate adjusted

def isExcluded : Bool :=
  candidate.subscription.noLocal && (arrival.sourceClientIdentifier.map fun source =>
      source == candidate.subscription.clientIdentifier).getD false

def routeKey : Option SharedSubscriptionRouteKey :=
  candidate.subscription.sharedGroup.map fun shareName =>
    { tenantId := arrival.tenantId
      shareName := shareName
      topicFilter := candidate.subscription.topicFilter }

def deliverNormal : List Candidate → Outcome Unit
  | [] => return ()
  | item :: rest => do
    if isExcluded arrival item then
      deliverNormal rest
    else
      let _ ← deliverToSubscriber context arrival item
      deliverNormal rest

def fallbackOrder (sorted : List Candidate) (start : Nat) : List Candidate :=
  (List.range sorted.length).filterMap fun i => sorted[(start + i) % sorted.length]?

def tryMembers : List Candidate → Outcome Bool
  | [] => return false
  | member :: rest => do
    if ← deliverToSubscriber context arrival member then
      return true
    else
      tryMembers rest

def eligibleMembers (candidates : List Candidate) (key : SharedSubscriptionRouteKey) :
    List Candidate :=
  (candidates.filter fun candidate => routeKey arrival candidate = some key).filter
    fun candidate => !isExcluded arrival candidate

def sortMembers (members : List Candidate) : List Candidate :=
  members.insertionSort fun left right =>
    left.subscription.clientIdentifier ≤ right.subscription.clientIdentifier

def deliverShared (candidates : List Candidate) : List SharedSubscriptionRouteKey → Outcome Unit
  | [] => return ()
  | key :: rest => do
    let eligible := eligibleMembers arrival candidates key
    if eligible.isEmpty then
      deliverShared candidates rest
    else
      let sorted := sortMembers eligible
      let start := context.cursors key % sorted.length
      Outcome.tell (.cursor key (start + 1))
      let delivered ← tryMembers context arrival (fallbackOrder sorted start)
      if !delivered then
        Outcome.tell .messagesDropped
      deliverShared candidates rest

def number (subscriptions : List (Subscription × Surroundings)) : List Candidate :=
  subscriptions.zipIdx.map fun ((subscription, surroundings), number) =>
    { number := number, subscription := subscription, surroundings := surroundings }

def groupKeys (candidates : List Candidate) : List SharedSubscriptionRouteKey :=
  context.order (candidates.filterMap (routeKey arrival)).dedup

def fanOut (candidates : List Candidate) : Outcome Unit := do
  deliverNormal context arrival
    (candidates.filter fun candidate => routeKey arrival candidate = none)
  deliverShared context arrival candidates (groupKeys context arrival candidates)

/-- The subscriptions of this node's storage or, if there are none, those of a
linearizable read. -/
def Arrival.matching : Except RouterActorError (List (Subscription × Surroundings)) :=
  match arrival.subscriptions with
  | .error error => .error (.getSubscribers error)
  | .ok [] =>
    match arrival.linearizable with
    | .error reason => .error (.topicService reason)
    | .ok subscriptions => .ok subscriptions
  | .ok subscriptions => .ok subscriptions

def route : Outcome Unit :=
  if arrival.publish.isExpired arrival.now then
    Outcome.tell .messagesDropped
  else
    match arrival.matching with
    | .error error => Outcome.fail error
    | .ok [] => Outcome.tell .messagesDropped
    | .ok subscriptions => fanOut context arrival (number subscriptions)

end Route

end YedMQ.Router
