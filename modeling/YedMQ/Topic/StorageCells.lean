import YedMQ.Foundation.Serde
import YedMQ.Topic.Subscriptions

/-! # The cells of a topic storage

A storage is determined by small cells: which tenants and nodes exist, the subscription
at each key of a node, the message retained at each node, and the lines of the two
recorders. This module says what the operations do to the existence of nodes and to the
recorders, and that a recorder lists nothing without a node. The contents of nodes are
described with the storage itself.
-/

namespace YedMQ.Topic

open Foundation TopicStorageNode

theorem generateKey_injective {leftClient leftTopic rightClient rightTopic : String}
    (equal : generateKey leftClient leftTopic = generateKey rightClient rightTopic) :
    leftClient = rightClient ∧ leftTopic = rightTopic := by
  have lists := congrArg String.toList equal
  simp only [generateKey, String.toList_append, List.append_assoc] at lists
  have parts := (List.append_cons_inj_of_notMem (Base64.colon_notMem_encode leftClient)
    (Base64.colon_notMem_encode leftTopic)).mp lists
  exact ⟨Base64.encode_injective (String.toList_inj.mp parts.1),
    Base64.encode_injective (String.toList_inj.mp parts.2.2)⟩

def acceptedFilter (topicFilter : String) : Option StoredFilter :=
  match parseFilter topicFilter with
  | .ok stored => if testTopic stored.topicFilter then some stored else none
  | .error _ => none

theorem acceptedFilter_eq_some {topicFilter : String} {stored : StoredFilter}
    (parsed : parseFilter topicFilter = .ok stored)
    (valid : testTopic stored.topicFilter = true) :
    acceptedFilter topicFilter = some stored := by
  rw [acceptedFilter, parsed]
  exact if_pos valid

variable (keys : List String)

def removes (clientIdentifier : String)
    (sharedGroup : Option String) (key : String) (subscription : Subscription) : Bool :=
  keys.contains key && subscription.clientIdentifier == clientIdentifier &&
    subscription.sharedGroup == sharedGroup

theorem NodeContent.lookup_removeSubscriptions
    (clientId : String) (sharedGroup : Option String) (content : NodeContent)
    (key : String) :
    (content.removeSubscriptions keys clientId sharedGroup).subscriptions.lookup key =
      (content.subscriptions.lookup key).filter fun subscription =>
        !removes keys clientId sharedGroup key subscription := by
  induction keys generalizing content with
  | nil =>
    cases found : content.subscriptions.lookup key with
    | none => simp [removeSubscriptions, found]
    | some => simp [removeSubscriptions, found, removes, Option.filter]
  | cons first keys induction =>
    have rest := induction (content.removeSubscription clientId sharedGroup first)
    rw [removeSubscriptions, List.foldl_cons]
    rw [removeSubscriptions] at rest
    rw [rest, removeSubscription, HashMap.lookup_retain]
    rw [Option.filter_filter]
    congr 1
    simp only [removes, List.contains_cons]
    cases key == first <;> cases keys.contains key <;> simp

theorem NodeContent.retainPublishPacket_removeSubscriptions
    (clientId : String) (sharedGroup : Option String) (content : NodeContent) :
    (content.removeSubscriptions keys clientId sharedGroup).retainPublishPacket =
      content.retainPublishPacket := by
  induction keys generalizing content with
  | nil => rfl
  | cons first keys induction =>
    exact induction (content.removeSubscription clientId sharedGroup first)

namespace TopicTree

theorem isSome_contentAt_update (change : NodeContent → NodeContent)
    (path : List String) (tree : TopicTree) (other : List String) :
    ((tree.update change path).contentAt other).isSome =
      ((tree.contentAt other).isSome || decide (other <+: path)) := by
  rw [contentAt, contentAt, update, contentAt_recursionUpdate]
  split
  · rename_i atEnd
    subst atEnd
    simp
  · split
    · rename_i onWay
      simp [onWay]
    · rename_i elsewhere
      simp [elsewhere]

variable {change : NodeContent → NodeContent} {path : List String}

theorem isSome_contentAt_updateExisting {tree updated : TopicTree}
    (succeeded : tree.updateExisting change path = .ok updated) (other : List String) :
    (updated.contentAt other).isSome = (tree.contentAt other).isSome := by
  rw [(contentAt_updateExisting succeeded).2]
  split
  · rename_i atEnd
    rw [atEnd, Option.isSome_map]
  · rfl

theorem contentAt_of_updateExisting_error {tree : TopicTree} {error : TopicStorageError}
    (failed : tree.updateExisting change path = .error error) :
    tree.contentAt path = none := by
  have outcome := tree.root.recursionUpdateExisting_spec change path
  rw [updateExisting] at failed
  split at failed
  · cases failed
  · rename_i found
    rw [found] at outcome
    exact outcome

end TopicTree

namespace TopicStorage

/-! ## Nodes -/

def hasNode (tenantId : String) (path : List String) (storage : TopicStorage) : Bool :=
  ((storage.topicTree.lookup tenantId).bind (TopicTree.contentAt path)).isSome

variable {tenantId : String} {tree : TopicTree} {storage : TopicStorage}

theorem hasNode_of_tree (present : storage.topicTree.lookup tenantId = some tree)
    (path : List String) :
    storage.hasNode tenantId path = (tree.contentAt path).isSome := by
  rw [hasNode, present]
  rfl

theorem hasNode_root (tenantId : String) (storage : TopicStorage) :
    storage.hasNode tenantId [] = storage.containsTenant tenantId := by
  rw [hasNode, containsTenant]
  cases storage.topicTree.lookup tenantId <;> rfl

variable {path : List String}

theorem content_of_not_hasNode (missing : storage.hasNode tenantId path = false) :
    storage.content tenantId path = .empty := by
  cases present : storage.topicTree.lookup tenantId with
  | none => simp [content, present]
  | some =>
    rw [hasNode_of_tree present, Option.isSome_eq_false_iff, Option.isNone_iff_eq_none] at missing
    rw [content_of_tree present, TopicTree.contentOf, missing]
    rfl

theorem hasNode_createTenant (tenant tenantId : String) (path : List String)
    (storage : TopicStorage) :
    (storage.createTenant tenant).hasNode tenantId path =
      (storage.hasNode tenantId path || decide (tenantId = tenant ∧ path = [])) := by
  rw [hasNode, hasNode, createTenant]
  cases present : storage.topicTree.lookup tenant with
  | some =>
    cases path with
    | cons => simp
    | nil =>
      rcases eq_or_ne tenantId tenant with same | different
      · subst same
        simp [present, TopicTree.contentAt, contentAt]
      · simp [different]
  | none =>
    rcases eq_or_ne tenantId tenant with same | different
    · subst same
      cases path with
      | nil => simp [TopicTree.contentAt, contentAt]
      | cons =>
        simp [present, TopicTree.contentAt, TopicTree.new, contentAt_new]
    · simp [different]

variable {before after : TopicStorage}

theorem hasNode_of_replaced {old : TopicTree} {Grown : List String → Prop} [DecidablePred Grown]
    (present : before.topicTree.lookup tenantId = some old)
    (replaced : after.topicTree = before.topicTree.insert tenantId tree)
    (grown : ∀ other, (tree.contentAt other).isSome =
      ((old.contentAt other).isSome || decide (Grown other))) (otherTenant : String)
    (other : List String) :
    after.hasNode otherTenant other = (before.hasNode otherTenant other ||
        decide (otherTenant = tenantId ∧ Grown other)) := by
  rcases eq_or_ne otherTenant tenantId with same | different
  · subst same
    have found : after.topicTree.lookup otherTenant = some tree := by
      rw [replaced, Finmap.lookup_insert]
    rw [hasNode_of_tree found, hasNode_of_tree present, grown]
    simp
  · rw [hasNode, hasNode, replaced, Finmap.lookup_insert_of_ne _ different]
    simp [different]

theorem hasNode_of_same_nodes {old : TopicTree}
    (present : before.topicTree.lookup tenantId = some old)
    (replaced : after.topicTree = before.topicTree.insert tenantId tree)
    (same : ∀ other, (tree.contentAt other).isSome = (old.contentAt other).isSome)
    (otherTenant : String) (other : List String) :
    after.hasNode otherTenant other = before.hasNode otherTenant other := by
  have grown : ∀ other, (tree.contentAt other).isSome =
      ((old.contentAt other).isSome || decide False) := by simpa using same
  simpa using hasNode_of_replaced present replaced grown otherTenant other

/-! ## Refused operations -/

theorem containsTenant_eq_true :
    storage.containsTenant tenantId = true ↔
      ∃ tree, storage.topicTree.lookup tenantId = some tree :=
  Option.isSome_iff_exists

variable {topicFilter : String} {stored : StoredFilter}

theorem subscribeWithOptions_of_accepted (accepted : acceptedFilter topicFilter = some stored)
    (present : storage.topicTree.lookup tenantId = some tree) (clientId : String)
    (qos : UInt8) (noLocal retainAsPublished : Bool) :
    ∃ next, storage.subscribeWithOptions tenantId clientId topicFilter qos noLocal
        retainAsPublished = .ok next ∧
      next.topicTree = storage.topicTree.insert tenantId
        (tree.recursionSubscribe (levels stored.topicFilter)
          (subscriptionOf clientId stored qos noLocal retainAsPublished)) ∧
      (next.topicInfoRecorder = storage.topicInfoRecorder.alterInner tenantId
        (generateKey clientId topicFilter)
        fun recorded => some (recorded.getD qos)) ∧
      next.retainMessageRecorder = storage.retainMessageRecorder := by
  rw [acceptedFilter] at accepted
  split at accepted
  · rename_i parsed parses
    split at accepted
    · rename_i valid
      cases accepted
      simp [subscribeWithOptions, parses, valid, present]
    · cases accepted
  · cases accepted

theorem subscribeWithOptions_of_refused (refused : acceptedFilter topicFilter = none)
    (tenantId clientId : String) (qos : UInt8) (noLocal retainAsPublished : Bool)
    (storage : TopicStorage) :
    ∃ error, storage.subscribeWithOptions tenantId clientId topicFilter qos noLocal
      retainAsPublished = .error error := by
  rw [subscribeWithOptions]
  cases parsed : parseFilter topicFilter with
  | error error => exact ⟨error, rfl⟩
  | ok stored =>
    cases valid : testTopic stored.topicFilter with
    | false =>
      simp [valid]
    | true =>
      rw [acceptedFilter_eq_some parsed valid] at refused
      cases refused

variable {error : TopicStorageError}

theorem hasNode_of_error {change : NodeContent → NodeContent}
    (refused : ∀ tree, storage.topicTree.lookup tenantId = some tree →
      ∃ error, tree.updateExisting change path = .error error) :
    storage.hasNode tenantId path = false := by
  cases present : storage.topicTree.lookup tenantId with
  | none => simp [hasNode, present]
  | some tree =>
    rcases refused tree present with ⟨_, failed⟩
    rw [hasNode_of_tree present, TopicTree.contentAt_of_updateExisting_error failed]
    rfl

theorem hasNode_of_unsubscribe_error {clientId : String}
    (parsed : parseFilter topicFilter = .ok stored)
    (failed : storage.unsubscribe tenantId clientId topicFilter = .error error) :
    storage.hasNode tenantId (levels stored.topicFilter) = false := by
  apply hasNode_of_error
  intro tree present
  simp only [unsubscribe, parsed, present] at failed
  split at failed
  · rename_i outcome
    exact ⟨_, outcome⟩
  · cases failed

theorem hasNode_of_clean_error
    (failed : storage.cleanRetainPublishPacket tenantId topicFilter = .error error) :
    storage.hasNode tenantId (levels topicFilter) = false := by
  apply hasNode_of_error
  intro tree present
  simp only [cleanRetainPublishPacket, present] at failed
  split at failed
  · rename_i outcome
    exact ⟨_, outcome⟩
  · cases failed

end TopicStorage

/-! ## Serialized nodes -/

namespace NodeContent

def rekeySubscriptions (entries : List (String × Subscription))
    (filed : HashMap String Subscription) : HashMap String Subscription :=
  entries.foldl (fun filed entry => filed.insert entry.2.nodeKey entry.2) filed

/-- What `from_serializable` makes of the content of a node. The order in which it
takes the serialized subscriptions is not known. -/
def Restored (serialized restored : NodeContent) : Prop :=
  ∃ entries, (∀ key subscription, (key, subscription) ∈ entries ↔
      serialized.subscriptions.lookup key = some subscription) ∧
    restored.subscriptions = rekeySubscriptions entries ∅ ∧
    restored.retainPublishPacket = serialized.retainPublishPacket

theorem lookup_rekeySubscriptions {entries : List (String × Subscription)}
    {filed : HashMap String Subscription} {key : String} {found : Option Subscription}
    (agree : ∀ entry ∈ entries, entry.2.nodeKey = key → some entry.2 = found)
    (starts : filed.lookup key = found ∨ ∃ entry ∈ entries, entry.2.nodeKey = key) :
    (rekeySubscriptions entries filed).lookup key = found := by
  induction entries generalizing filed with
  | nil => simpa [rekeySubscriptions] using starts
  | cons first entries induction =>
    apply induction fun entry later => agree entry (List.mem_cons_of_mem _ later)
    by_cases same : first.2.nodeKey = key
    · subst same
      exact .inl ((Finmap.lookup_insert _).trans (agree first List.mem_cons_self rfl))
    · rw [Finmap.lookup_insert_of_ne _ (Ne.symm same)]
      apply starts.imp_right
      rintro ⟨entry, member, own⟩
      rcases List.mem_cons.mp member with here | later
      · subst here
        exact absurd own same
      · exact ⟨entry, later, own⟩

theorem Restored.eq {serialized restored : NodeContent} (restores : Restored serialized restored)
    (filed : ∀ key subscription, serialized.subscriptions.lookup key = some subscription →
        key = subscription.nodeKey) : restored = serialized := by
  rcases restores with ⟨entries, listed, subscriptions, retained⟩
  refine NodeContent.ext ?_ retained
  rw [subscriptions]
  apply Finmap.ext_lookup
  intro key
  apply lookup_rekeySubscriptions
  · intro entry member own
    have found := (listed entry.1 entry.2).mp member
    rw [← own, ← filed entry.1 entry.2 found, found]
  · cases found : serialized.subscriptions.lookup key with
    | none => exact .inl rfl
    | some subscription =>
      exact .inr ⟨(key, subscription), (listed _ _).mpr found, (filed _ _ found).symm⟩

theorem Restored.refl {content : NodeContent}
    (filed : ∀ key subscription, content.subscriptions.lookup key = some subscription →
      key = subscription.nodeKey) : Restored content content := by
  have restored : Restored content ⟨rekeySubscriptions
      ((Iteration.sorted String Subscription).order content.subscriptions) ∅,
        content.retainPublishPacket⟩ :=
    ⟨_, (Iteration.sorted String Subscription).mem content.subscriptions, rfl, rfl⟩
  have same := restored.eq filed
  rwa [same] at restored

end NodeContent

end YedMQ.Topic
