import YedMQ.Foundation.NestedMap
import YedMQ.Topic.TopicTree

/-! # The topic storage

One topic tree per tenant, and for each tenant two recorders that list its
subscriptions and retained messages for the administration interface. A failing
operation leaves the storage unchanged.
-/

namespace YedMQ.Topic

open Foundation

def generateKey (clientId topic : String) : String :=
  Base64.encode clientId ++ ":" ++ Base64.encode topic

structure TopicStorage where
  retainMessageRecorder : NestedMap String String (String × UInt8)
  topicInfoRecorder : NestedMap String String UInt8
  topicTree : HashMap String TopicTree

namespace TopicStorage

def containsTenant (tenantId : String) (storage : TopicStorage) : Bool :=
  (storage.topicTree.lookup tenantId).isSome

def createTenant (tenant : String) (storage : TopicStorage) : TopicStorage where
  topicTree :=
    match storage.topicTree.lookup tenant with
    | some _ => storage.topicTree
    | none => storage.topicTree.insert tenant TopicTree.new
  topicInfoRecorder := storage.topicInfoRecorder.ensureOuter tenant
  retainMessageRecorder := storage.retainMessageRecorder.ensureOuter tenant

def new : TopicStorage :=
  createTenant "public"
    { retainMessageRecorder := ∅
      topicInfoRecorder := ∅
      topicTree := ∅ }

def subscriptionOf (clientIdentifier : String) (stored : StoredFilter) (qos : UInt8)
    (noLocal retainAsPublished : Bool) : Subscription where
  clientIdentifier := clientIdentifier
  qos := qos
  noLocal := noLocal
  retainAsPublished := retainAsPublished
  sharedGroup := stored.sharedGroup
  topicFilter := stored.topicFilter

def subscribeWithOptions (tenantId clientIdentifier topicFilter : String)
    (qos : UInt8) (noLocal retainAsPublished : Bool) (storage : TopicStorage) :
    Except TopicStorageError TopicStorage :=
  match parseFilter topicFilter with
  | .error error => .error error
  | .ok stored =>
    if !testTopic stored.topicFilter then
      .error (.invalidTopicFilter stored.topicFilter)
    else
      match storage.topicTree.lookup tenantId with
      | none => .error (.tenantNotFound tenantId)
      | some tree =>
        let subscription :=
          subscriptionOf clientIdentifier stored qos noLocal retainAsPublished
        .ok { storage with
          topicTree := storage.topicTree.insert tenantId
            (tree.recursionSubscribe (levels stored.topicFilter) subscription)
          topicInfoRecorder := storage.topicInfoRecorder.alterInner tenantId
            (generateKey clientIdentifier topicFilter)
            fun recorded => some (recorded.getD qos) }

def nodeKeys (clientIdentifier : String) (sharedGroup : Option String) : List String :=
  match sharedGroup with
  | some shareName => [sharedSubscriptionKey clientIdentifier shareName]
  | none =>
    [normalSubscriptionKey clientIdentifier, legacyNormalSubscriptionKey clientIdentifier]

def unsubscribe (tenantId clientIdentifier topicFilter : String)
    (storage : TopicStorage) : Except TopicStorageError TopicStorage :=
  match parseFilter topicFilter with
  | .error error => .error error
  | .ok stored =>
    match storage.topicTree.lookup tenantId with
    | none => .error (.tenantNotFound tenantId)
    | some tree =>
      match tree.recursionUnsubscription (levels stored.topicFilter)
          (nodeKeys clientIdentifier stored.sharedGroup) clientIdentifier
          stored.sharedGroup with
      | .error error => .error error
      | .ok tree =>
        .ok { storage with
          topicTree := storage.topicTree.insert tenantId tree
          topicInfoRecorder := storage.topicInfoRecorder.alterInner tenantId
            (generateKey clientIdentifier topicFilter) fun _ => none }

def getSubscriptions (tenantId msgTopic : String) (storage : TopicStorage) :
    Except TopicStorageError (Multiset Subscription) :=
  match storage.topicTree.lookup tenantId with
  | none => .error (.tenantNotFound tenantId)
  | some tree => .ok (tree.root.recursionGetSubscriptions (levels msgTopic))

def cleanRetainPublishPacket (tenantId topicFilter : String)
    (storage : TopicStorage) : Except TopicStorageError TopicStorage :=
  match storage.topicTree.lookup tenantId with
  | none => .error (.tenantNotFound tenantId)
  | some tree =>
    match tree.recursionCleanRetainPublishPacket (levels topicFilter) with
    | .error error => .error error
    | .ok tree =>
      .ok { storage with
        topicTree := storage.topicTree.insert tenantId tree
        retainMessageRecorder := storage.retainMessageRecorder.alterInner tenantId
          topicFilter fun _ => none }

/-- The unexpired messages retained for topics that match a filter, in no order. -/
def getRetainPublishPacket (now : Nat) (tenantId topicFilter : String)
    (storage : TopicStorage) : Except TopicStorageError (Multiset Packet) :=
  if !testTopic topicFilter then
    .error (.invalidTopicFilter topicFilter)
  else
    match storage.topicTree.lookup tenantId with
    | none => .error (.tenantNotFound tenantId)
    | some tree =>
      .ok ((tree.root.recursionGetRetainPacket (levels topicFilter)).filter
        fun packet => !packet.isExpired now)

def registerRetainPublishPacket (tenantId sourceClientIdentifier : String)
    (publishPacket : Packet) (storage : TopicStorage) :
    Except TopicStorageError TopicStorage :=
  match publishPacket with
  | .publish publish =>
    if !testTopic publish.topicName then
      .error (.invalidTopicFilter publish.topicName)
    else
      match storage.topicTree.lookup tenantId with
      | none => .error (.tenantNotFound tenantId)
      | some tree =>
        .ok { storage with
          topicTree := storage.topicTree.insert tenantId
            (tree.recursionRetainPublishPacket (levels publish.topicName) (.publish publish))
          retainMessageRecorder :=
            storage.retainMessageRecorder.alterInner tenantId publish.topicName
              fun _ => some (sourceClientIdentifier, publish.qos) }
  | _ => .ok storage

/-! ## What a successful operation does -/

variable {tenantId clientIdentifier topicFilter : String} {qos : UInt8}
  {noLocal retainAsPublished : Bool} {storage next : TopicStorage}

theorem subscribeWithOptions_eq_ok
    (succeeded : storage.subscribeWithOptions tenantId clientId topicFilter qos
      noLocal retainAsPublished = .ok next) :
    ∃ stored tree, parseFilter topicFilter = .ok stored ∧ testTopic stored.topicFilter = true ∧
      storage.topicTree.lookup tenantId = some tree ∧
      next = { storage with
        topicTree := storage.topicTree.insert tenantId
          (tree.recursionSubscribe (levels stored.topicFilter)
            (subscriptionOf clientId stored qos noLocal retainAsPublished))
        topicInfoRecorder := storage.topicInfoRecorder.alterInner tenantId
          (generateKey clientId topicFilter)
          fun recorded => some (recorded.getD qos) } := by
  unfold subscribeWithOptions at succeeded
  cases parsed : parseFilter topicFilter with
  | error => simp [parsed] at succeeded
  | ok stored =>
    cases valid : testTopic stored.topicFilter with
    | false => simp [parsed, valid] at succeeded
    | true =>
      cases present : storage.topicTree.lookup tenantId with
      | none => simp [parsed, valid, present] at succeeded
      | some tree =>
        simp only [parsed, valid, present, Bool.not_true, Bool.false_eq_true,
          if_false, Except.ok.injEq] at succeeded
        exact ⟨stored, tree, rfl, valid, rfl, succeeded.symm⟩

theorem unsubscribe_eq_ok
    (succeeded : storage.unsubscribe tenantId clientId topicFilter = .ok next) :
    ∃ stored tree updated, parseFilter topicFilter = .ok stored ∧
      storage.topicTree.lookup tenantId = some tree ∧
      tree.recursionUnsubscription (levels stored.topicFilter)
        (nodeKeys clientId stored.sharedGroup) clientId
        stored.sharedGroup = .ok updated ∧
      next.topicTree = storage.topicTree.insert tenantId updated ∧
      (next.topicInfoRecorder = storage.topicInfoRecorder.alterInner tenantId
        (generateKey clientId topicFilter) fun _ => none) ∧
      next.retainMessageRecorder = storage.retainMessageRecorder := by
  unfold unsubscribe at succeeded
  cases parsed : parseFilter topicFilter with
  | error => simp [parsed] at succeeded
  | ok stored =>
    cases present : storage.topicTree.lookup tenantId with
    | none => simp [parsed, present] at succeeded
    | some tree =>
      simp only [parsed, present] at succeeded
      split at succeeded
      · cases succeeded
      · rename_i updated outcome
        cases succeeded
        exact ⟨stored, tree, updated, rfl, rfl, outcome, rfl, rfl, rfl⟩

theorem cleanRetainPublishPacket_eq_ok
    (succeeded : storage.cleanRetainPublishPacket tenantId topicFilter = .ok next) :
    ∃ tree updated, storage.topicTree.lookup tenantId = some tree ∧
      tree.recursionCleanRetainPublishPacket (levels topicFilter) = .ok updated ∧
      next.topicTree = storage.topicTree.insert tenantId updated ∧
      next.topicInfoRecorder = storage.topicInfoRecorder ∧
      next.retainMessageRecorder = storage.retainMessageRecorder.alterInner tenantId
        topicFilter fun _ => none := by
  unfold cleanRetainPublishPacket at succeeded
  cases present : storage.topicTree.lookup tenantId with
  | none => simp [present] at succeeded
  | some tree =>
    simp only [present] at succeeded
    split at succeeded
    · cases succeeded
    · rename_i updated outcome
      cases succeeded
      exact ⟨tree, updated, rfl, outcome, rfl, rfl, rfl⟩

theorem registerRetainPublishPacket_publish (tenantId sourceClientId : String)
    (publish : Publish) (storage : TopicStorage) :
    (∃ next, storage.registerRetainPublishPacket tenantId sourceClientId
        (.publish publish) = .ok next) ↔
      testTopic publish.topicName = true ∧ storage.containsTenant tenantId = true := by
  unfold registerRetainPublishPacket containsTenant
  cases valid : testTopic publish.topicName with
  | false => simp [valid]
  | true =>
    cases present : storage.topicTree.lookup tenantId with
    | none | some => simp [valid]

variable {sourceClientIdentifier : String} {publish : Publish}

theorem registerRetainPublishPacket_eq_ok
    (succeeded : storage.registerRetainPublishPacket tenantId sourceClientId
      (.publish publish) = .ok next) :
    testTopic publish.topicName = true ∧ ∃ tree, storage.topicTree.lookup tenantId = some tree ∧
      next.topicTree = storage.topicTree.insert tenantId
        (tree.recursionRetainPublishPacket (levels publish.topicName) (.publish publish)) ∧
      next.topicInfoRecorder = storage.topicInfoRecorder ∧
      next.retainMessageRecorder = storage.retainMessageRecorder.alterInner tenantId
        publish.topicName fun _ => some (sourceClientId, publish.qos) := by
  unfold registerRetainPublishPacket at succeeded
  cases valid : testTopic publish.topicName with
  | false => simp [valid] at succeeded
  | true =>
    cases present : storage.topicTree.lookup tenantId with
    | none => simp [valid, present] at succeeded
    | some tree =>
      simp only [valid, present, Bool.not_true, Bool.false_eq_true, if_false,
        Except.ok.injEq] at succeeded
      subst succeeded
      exact ⟨rfl, tree, rfl, rfl, rfl, rfl⟩

/-! ## Tenants -/

theorem containsTenant_createTenant (tenant other : String) (storage : TopicStorage) :
    (storage.createTenant tenant).containsTenant other = true ↔
      other = tenant ∨ storage.containsTenant other = true := by
  unfold createTenant containsTenant
  cases present : storage.topicTree.lookup tenant with
  | some =>
    constructor
    · exact Or.inr
    · rintro (rfl | found)
      · simp [present]
      · exact found
  | none =>
    by_cases same : other = tenant
    · subst same
      simp
    · simp [same]

theorem containsTenant_new (tenant : String) :
    new.containsTenant tenant = true ↔ tenant = "public" := by
  rw [new, containsTenant_createTenant]
  simp [containsTenant]

variable {before after : TopicStorage} {tree : TopicTree}

theorem containsTenant_of_replaced {old : TopicTree}
    (present : before.topicTree.lookup tenantId = some old)
    (replaced : after.topicTree = before.topicTree.insert tenantId tree) (other : String) :
    after.containsTenant other = before.containsTenant other := by
  unfold containsTenant
  rw [replaced]
  by_cases same : other = tenantId
  · subst same
    simp [present]
  · rw [Finmap.lookup_insert_of_ne _ same]

theorem containsTenant_cleanRetainPublishPacket
    (succeeded : storage.cleanRetainPublishPacket tenantId topicFilter = .ok next) (other : String)
    : next.containsTenant other = storage.containsTenant other := by
  rcases cleanRetainPublishPacket_eq_ok succeeded with ⟨_, _, present, _, replaced, _⟩
  exact containsTenant_of_replaced present replaced other

theorem containsTenant_registerRetainPublishPacket {publishPacket : Packet}
    (succeeded : storage.registerRetainPublishPacket tenantId sourceClientId
      publishPacket = .ok next) (other : String) :
    next.containsTenant other = storage.containsTenant other := by
  cases publishPacket with
  | publish =>
    rcases registerRetainPublishPacket_eq_ok succeeded with ⟨_, tree, present, replaced, _⟩
    exact containsTenant_of_replaced present replaced other
  | _ =>
    cases succeeded
    rfl

/-! ## Content of a tenant's tree -/

def content (tenantId : String) (path : List String) (storage : TopicStorage) :
    NodeContent :=
  match storage.topicTree.lookup tenantId with
  | some tree => tree.contentOf path
  | none => .empty

theorem content_of_tree (present : storage.topicTree.lookup tenantId = some tree)
    (path : List String) :
    storage.content tenantId path = tree.contentOf path := by
  simp [content, present]

theorem content_createTenant (tenant tenantId : String) (path : List String)
    (storage : TopicStorage) :
    (storage.createTenant tenant).content tenantId path = storage.content tenantId path := by
  unfold createTenant content
  cases present : storage.topicTree.lookup tenant with
  | some => rfl
  | none =>
    by_cases same : tenantId = tenant
    · subst same
      simp [present, TopicTree.contentOf_new]
    · simp [Finmap.lookup_insert_of_ne _ same]

theorem content_new (tenantId : String) (path : List String) :
    new.content tenantId path = .empty := by
  rw [new, content_createTenant]
  simp [content]

/-- Replacing the tree of a tenant by one that differs at a single path changes the
content there and nowhere else. -/
theorem content_of_replaced {old : TopicTree} {path : List String}
    {change : NodeContent → NodeContent} (present : before.topicTree.lookup tenantId = some old)
    (replaced : after.topicTree = before.topicTree.insert tenantId tree)
    (changed : ∀ other, tree.contentOf other =
      if other = path then change (old.contentOf other) else old.contentOf other)
    (otherTenant : String) (other : List String) :
    after.content otherTenant other =
      if otherTenant = tenantId ∧ other = path then
        change (before.content otherTenant other)
      else
        before.content otherTenant other := by
  by_cases same : otherTenant = tenantId
  · subst same
    have found : after.topicTree.lookup otherTenant = some tree := by
      rw [replaced, Finmap.lookup_insert]
    rw [content_of_tree found, content_of_tree present, changed other]
    simp
  · have found : after.topicTree.lookup otherTenant = before.topicTree.lookup otherTenant := by
      rw [replaced, Finmap.lookup_insert_of_ne _ same]
    simp [content, found, same]

end TopicStorage

end YedMQ.Topic
