import YedMQ.Raft.Topic.Listings
import YedMQ.Session.SessionState

/-! # Snapshots that are stored and loaded

The serialised forms of the two storages have the fields of the storages, without their
locks. Loading a topic storage files every subscription under a key that is computed anew.
-/

namespace YedMQ

open Foundation

/-! ## Topics -/

namespace Topic

section Nodes

variable (change : NodeContent → NodeContent)

mutual
def TopicStorageNode.mapContents : TopicStorageNode → TopicStorageNode
  | .mk topicPattern content leaves => .mk topicPattern (change content) leaves.mapContents

def Leaves.mapContents : Leaves → Leaves
  | .nil => .nil
  | .cons topicPattern leaf rest => .cons topicPattern leaf.mapContents rest.mapContents
end

theorem Leaves.patterns_mapContents (leaves : Leaves) :
    (leaves.mapContents change).toList.map Prod.fst = leaves.toList.map Prod.fst := by
  match leaves with
  | .nil => rfl
  | .cons topicPattern leaf rest =>
    exact congrArg (topicPattern :: ·) (patterns_mapContents rest)

mutual
theorem TopicStorageNode.WellFormed.mapContents : ∀ {node : TopicStorageNode},
    node.WellFormed → (node.mapContents change).WellFormed
  | .mk _ _ _, wellFormed => Leaves.WellFormed.mapContents wellFormed

theorem Leaves.WellFormed.mapContents : ∀ {leaves : Leaves},
    leaves.WellFormed → (leaves.mapContents change).WellFormed
  | .nil, _ => trivial
  | .cons _ _ rest, wellFormed =>
    ⟨(Leaves.patterns_mapContents change rest).symm ▸ wellFormed.1,
      wellFormed.2.1.mapContents, wellFormed.2.2.mapContents⟩
end

variable {change}

mutual
theorem TopicStorageNode.mapContents_eq_self : ∀ {node : TopicStorageNode},
    node.WellFormed → (∀ path content, node.contentAt path = some content →
      change content = content) → node.mapContents change = node
  | .mk topicPattern content leaves, wellFormed, same => by
    rw [TopicStorageNode.mapContents, same [] content rfl, Leaves.mapContents_eq_self wellFormed]
    intro leaf member path content present
    apply same (leaf.1 :: path) content
    have found : leaves.get? leaf.1 = some leaf.2 := Leaves.get?_of_mem_toList wellFormed member
    simpa [TopicStorageNode.contentAt, TopicStorageNode.getLeaf, TopicStorageNode.leaves, found]
      using present

theorem Leaves.mapContents_eq_self : ∀ {leaves : Leaves},
    leaves.WellFormed → (∀ leaf ∈ leaves.toList, ∀ path content,
      leaf.2.contentAt path = some content → change content = content) →
    leaves.mapContents change = leaves
  | .nil, _, _ => rfl
  | .cons pattern leaf rest, wellFormed, same => by
    rw [Leaves.mapContents,
      TopicStorageNode.mapContents_eq_self wellFormed.2.1 (same _ List.mem_cons_self),
      Leaves.mapContents_eq_self wellFormed.2.2
        fun other member => same other (List.mem_cons_of_mem _ member)]
end

end Nodes

def TopicTree.mapContents (change : NodeContent → NodeContent) (tree : TopicTree) : TopicTree where
  root := tree.root.mapContents change
  wellFormed := tree.wellFormed.mapContents change

theorem TopicTree.mapContents_eq_self {change : NodeContent → NodeContent} {tree : TopicTree}
    (same : ∀ path content, tree.root.contentAt path = some content → change content = content) :
    tree.mapContents change = tree := by
  simp [TopicTree.mapContents, TopicStorageNode.mapContents_eq_self tree.wellFormed same]

def NodeContent.toSerializable (content : NodeContent) : NodeContent where
  subscriptions := content.subscriptions.mapValues fun subscription => subscription
  retainPublishPacket := content.retainPublishPacket

def NodeContent.fromSerializable (iteration : Iteration String Subscription)
    (data : NodeContent) : NodeContent where
  subscriptions := rekeySubscriptions (iteration.order data.subscriptions) ∅
  retainPublishPacket := data.retainPublishPacket

/-- A node whose subscriptions stand under their own keys is loaded as it was. -/
theorem NodeContent.fromSerializable_eq_self {iteration : Iteration String Subscription}
    {content : NodeContent}
    (filed : ∀ key subscription, content.subscriptions.lookup key = some subscription →
      key = subscription.nodeKey) : content.fromSerializable iteration = content :=
  Restored.eq ⟨_, iteration.mem content.subscriptions, rfl, rfl⟩ filed

/-- The nodes of a serialised tree have the fields of the tree's nodes. -/
structure SerializableTopicStorage where
  retainMessageRecorder : NestedMap String String (String × UInt8)
  topicInfoRecorder : NestedMap String String UInt8
  topicTree : HashMap String TopicTree

namespace TopicStorage

def toSerializable (storage : TopicStorage) : SerializableTopicStorage where
  retainMessageRecorder := storage.retainMessageRecorder
  topicInfoRecorder := storage.topicInfoRecorder
  topicTree := storage.topicTree.mapValues (TopicTree.mapContents NodeContent.toSerializable)

def fromSerializable (iteration : Iteration String Subscription)
    (data : SerializableTopicStorage) : TopicStorage where
  retainMessageRecorder := data.retainMessageRecorder
  topicInfoRecorder := data.topicInfoRecorder
  topicTree := data.topicTree.mapValues
    (TopicTree.mapContents (NodeContent.fromSerializable iteration))

def toSnapshot (serde : Serde SerializableTopicStorage) (storage : TopicStorage) : List UInt8 :=
  serde.toVec storage.toSerializable

def fromSnapshot (serde : Serde SerializableTopicStorage)
    (iteration : Iteration String Subscription) (snapshot : List UInt8) : Option TopicStorage :=
  (serde.fromSlice snapshot).map (fromSerializable iteration)

variable {storage : TopicStorage}

theorem fromSerializable_toSerializable (wellFiled : storage.WellFiled)
    (iteration : Iteration String Subscription) :
    fromSerializable iteration storage.toSerializable = storage := by
  have trees : (storage.topicTree.mapValues
      (TopicTree.mapContents NodeContent.toSerializable)).mapValues
        (TopicTree.mapContents (NodeContent.fromSerializable iteration)) = storage.topicTree := by
    apply Finmap.ext_lookup
    intro tenantId
    rw [HashMap.lookup_mapValues, HashMap.lookup_mapValues]
    cases present : storage.topicTree.lookup tenantId with
    | none => rfl
    | some tree =>
      have copied : tree.mapContents NodeContent.toSerializable = tree := by
        apply TopicTree.mapContents_eq_self
        intro path content _
        rw [NodeContent.toSerializable, HashMap.mapValues_self]
      have loaded : tree.mapContents (NodeContent.fromSerializable iteration) = tree := by
        apply TopicTree.mapContents_eq_self
        intro path content found
        apply NodeContent.fromSerializable_eq_self
        intro key subscription stored
        apply (wellFiled tenantId path key subscription _).2
        rw [TopicStorage.content_of_tree present, TopicTree.contentOf, TopicTree.contentAt, found]
        exact stored
      rw [Option.map_some, copied, Option.map_some, loaded]
  rw [toSerializable, fromSerializable]
  dsimp only
  rw [trees]

end TopicStorage

end Topic

/-! ## Session states -/

structure SerializableSessionStateStorage where
  inner : NestedMap String String SessionState
  refCounts : RefCounts String

namespace SessionStateStorage

def toSerializable (storage : SessionStateStorage) : SerializableSessionStateStorage where
  inner := storage.inner.mapValues fun sessions => sessions.mapValues fun state => state
  refCounts := storage.refCounts

def fromSerializable (data : SerializableSessionStateStorage) : SessionStateStorage where
  inner := data.inner.mapValues fun sessions => sessions.mapValues fun state => state
  refCounts := data.refCounts

def toSnapshot (serde : Serde SerializableSessionStateStorage) (storage : SessionStateStorage) :
    List UInt8 :=
  serde.toVec storage.toSerializable

def fromSnapshot (serde : Serde SerializableSessionStateStorage) (snapshot : List UInt8) :
    Option SessionStateStorage :=
  (serde.fromSlice snapshot).map fromSerializable

theorem fromSerializable_toSerializable (storage : SessionStateStorage) :
    fromSerializable storage.toSerializable = storage := by
  simp only [toSerializable, fromSerializable, HashMap.mapValues_self]

end SessionStateStorage

/-! ## Snapshots -/

open Topic Raft.Topic

/-- Every storage is loaded from its snapshot as it was, so that it answers every query and
takes every later operation alike. -/
theorem fromSnapshot_toSnapshot (topics : Serde SerializableTopicStorage)
    (iteration : Iteration String Subscription) (calls : List TopicRequest)
    (states : Serde SerializableSessionStateStorage) (storage : SessionStateStorage) :
    TopicStorage.fromSnapshot topics iteration ((performed calls).1.toSnapshot topics) =
      some (performed calls).1 ∧
    SessionStateStorage.fromSnapshot states (storage.toSnapshot states) = some storage := by
  constructor
  · have wellFiled := (performed_spec calls).2.1
    rw [TopicStorage.fromSnapshot, TopicStorage.toSnapshot, topics.fromSlice_toVec,
      Option.map_some, TopicStorage.fromSerializable_toSerializable wellFiled]
  · rw [SessionStateStorage.fromSnapshot, SessionStateStorage.toSnapshot, states.fromSlice_toVec,
      Option.map_some, SessionStateStorage.fromSerializable_toSerializable]

deriving instance Countable for SerializableSessionStateStorage, ReasonCode, RetainHandling,
  Publish, Ack, SubscribeTopic, Subscribe, Suback, Unsubscribe, Unsuback, Disconnect, Packet,
  Subscription, NodeContent, TopicStorageNode, TopicTree, SerializableTopicStorage

def queuedMessage : SessionStateStorage :=
  (SessionStateStorage.new.createSessionState "tenant" "client" 10 none none).appendToPendingQueue
    "tenant" "client" "key"

def subscribedTopic : List TopicRequest :=
  [.createTenant "tenant", .subscribeTopic "tenant" "client" "topic" 1 false false]

theorem fromSnapshot_toSnapshot_countable :
    (TopicStorage.fromSnapshot (.ofCountable _) (.sorted _ _)
        ((performed subscribedTopic).1.toSnapshot (.ofCountable _))).map
        (fun storage => (storage.topicInfoRecorder.getAt "tenant" (generateKey "client" "topic"))) =
      some (some 1) ∧
    (SessionStateStorage.fromSnapshot (.ofCountable _)
        (queuedMessage.toSnapshot (.ofCountable _))).map (·.refCounts.lookup "key") =
      some (some 1) := by
  rcases fromSnapshot_toSnapshot (.ofCountable _) (.sorted _ _) subscribedTopic (.ofCountable _)
    queuedMessage with ⟨topics, states⟩
  rw [topics, states]
  decide +kernel

end YedMQ
