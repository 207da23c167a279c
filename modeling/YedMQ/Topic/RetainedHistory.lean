import YedMQ.Topic.RetainedMessages
import YedMQ.Topic.SubscriptionHistory

/-! # Histories of retained messages

What a storage retains after a series of register and clean operations, said without
the tree: the message of the last operation on a topic. Retrieval for a filter is
compared with the delivery of live publications to a subscription on the same filter.
-/

namespace YedMQ.Topic

open Foundation Semantics TopicStorage Raft.Topic

inductive RetainOperation where
  | register (tenantId sourceClientIdentifier : String) (publishPacket : Packet)
  | clean (tenantId topicFilter : String)

namespace RetainOperation

def perform (storage : TopicStorage) : RetainOperation → TopicStorage
  | .register tenantId sourceClientIdentifier publishPacket =>
    match storage.registerRetainPublishPacket tenantId sourceClientIdentifier publishPacket with
    | .ok next => next
    | .error _ => storage
  | .clean tenantId topicFilter =>
    match storage.cleanRetainPublishPacket tenantId topicFilter with
    | .ok next => next
    | .error _ => storage

def target : RetainOperation → Option (String × String)
  | .register tenantId _ (.publish publish) =>
    if testTopic publish.topicName then some (tenantId, publish.topicName) else none
  | .register _ _ _ => none
  | .clean tenantId topicFilter => some (tenantId, topicFilter)

def outcome : RetainOperation → Option Packet
  | .register _ _ publishPacket => some publishPacket
  | .clean _ _ => none

end RetainOperation

def LastRetained (operations : List RetainOperation) (tenantId : String)
    (publish : Publish) : Prop :=
  LastStores (fun operation => operation.target = some (tenantId, publish.topicName) ∧
      operation.outcome = some (.publish publish))
    (fun operation => operation.target = some (tenantId, publish.topicName)) operations

def retainedBy (tenants : List String) (operations : List RetainOperation) :
    TopicStorage :=
  operations.foldl RetainOperation.perform (withTenants tenants)

/-! ## What one operation does -/

variable {tenantId topicFilter : String}

namespace RetainOperation

variable {storage : TopicStorage} {operation : RetainOperation} {tenantId : String}

theorem consistent_perform (consistent : Consistent storage) (operation : RetainOperation) :
    Consistent (perform storage operation) := by
  cases operation with
  | clean otherTenant topicFilter =>
    exact (actsOn_clean consistent otherTenant topicFilter).consistent consistent
  | register =>
    rw [perform]
    split
    · rename_i next succeeded
      exact (actsOn_register consistent succeeded).consistent consistent
    · exact consistent

theorem retained_perform (consistent : Consistent storage)
    (known : storage.containsTenant tenantId = true) (path : List String) :
    ((perform storage operation).content tenantId path).retainPublishPacket =
      match operation.target with
      | some (otherTenant, topic) =>
        if tenantId = otherTenant ∧ path = levels topic then operation.outcome
        else (storage.content tenantId path).retainPublishPacket
      | none => (storage.content tenantId path).retainPublishPacket := by
  cases operation with
  | clean otherTenant topicFilter =>
    apply ((actsOn_clean consistent otherTenant topicFilter).retained tenantId path).trans
    rw [TopicRequest.onRetained]
    dsimp only [target]
    split <;> rfl
  | register otherTenant source publishPacket =>
    cases publishPacket with
    | publish publish =>
      simp only [perform, target]
      split
      · rename_i next succeeded
        have valid := (registerRetainPublishPacket_eq_ok succeeded).1
        rw [(actsOn_register consistent succeeded).retained, TopicRequest.onRetained]
        simp only [valid, if_true]
        split <;> rfl
      · rename_i error failed
        cases valid : testTopic publish.topicName with
        | false => simp
        | true =>
          -- A valid topic is refused only for a missing tenant.
          have otherwise : tenantId ≠ otherTenant := by
            intro same
            subst same
            rcases (registerRetainPublishPacket_publish tenantId
              source publish storage).mpr ⟨valid, known⟩ with ⟨_, succeeded⟩
            rw [succeeded] at failed
            cases failed
          simp [otherwise]
    | _ => rfl

theorem containsTenant_perform (storage : TopicStorage) (operation : RetainOperation)
    (tenantId : String) :
    (perform storage operation).containsTenant tenantId = storage.containsTenant tenantId := by
  cases operation with
  | clean =>
    rw [perform]
    split
    · rename_i next succeeded
      exact containsTenant_cleanRetainPublishPacket succeeded tenantId
    · rfl
  | register =>
    rw [perform]
    split
    · rename_i next succeeded
      exact containsTenant_registerRetainPublishPacket succeeded tenantId
    · rfl

theorem outcome_of_target {topic : String} {packet : Packet}
    (targeted : operation.target = some (tenantId, topic))
    (retained : operation.outcome = some packet) :
    ∃ publish, packet = .publish publish ∧ publish.topicName = topic := by
  cases operation with
  | clean => cases retained
  | register =>
    cases retained
    cases packet with
    | publish publish =>
      refine ⟨publish, rfl, ?_⟩
      rw [target] at targeted
      split at targeted
      · exact (Prod.mk.inj (Option.some.inj targeted)).2
      · cases targeted
    | _ => cases targeted

end RetainOperation

/-! ## What a series of operations leaves -/

theorem retainedBy_concat (tenants : List String) (operations : List RetainOperation)
    (operation : RetainOperation) :
    retainedBy tenants (operations ++ [operation]) =
      RetainOperation.perform (retainedBy tenants operations) operation := by
  simp [retainedBy]

theorem retainedBy_spec (tenants : List String) (operations : List RetainOperation) :
    Consistent (retainedBy tenants operations) ∧
      ∀ tenantId, (retainedBy tenants operations).containsTenant tenantId = true ↔
        tenantId = "public" ∨ tenantId ∈ tenants := by
  induction operations using List.reverseRecOn with
  | nil =>
    rcases withTenants_spec tenants with ⟨consistent, _, _, known⟩
    exact ⟨consistent, known⟩
  | append_singleton operations operation induction =>
    rw [retainedBy_concat]
    refine ⟨RetainOperation.consistent_perform induction.1 operation, ?_⟩
    intro tenantId
    rw [RetainOperation.containsTenant_perform]
    exact induction.2 tenantId

variable {tenants : List String}

theorem retained_retainedBy (known : tenantId = "public" ∨ tenantId ∈ tenants)
    (operations : List RetainOperation) (path : List String) (packet : Packet) :
    ((retainedBy tenants operations).content tenantId path).retainPublishPacket = some packet ↔
      ∃ publish, packet = .publish publish ∧ path = levels publish.topicName ∧
        LastRetained operations tenantId publish := by
  induction operations using List.reverseRecOn with
  | nil =>
    rw [retainedBy, List.foldl_nil, (withTenants_spec tenants).2.2.1]
    constructor
    · intro held
      cases held
    · intro last
      rcases last with ⟨publish, _, _, last⟩
      exact absurd last not_lastStores_nil
  | append_singleton operations operation induction =>
    rcases retainedBy_spec tenants operations with ⟨consistent, contains⟩
    rw [retainedBy_concat,
      RetainOperation.retained_perform consistent ((contains tenantId).mpr known) path]
    simp only [LastRetained, lastStores_concat]
    cases targeted : operation.target with
    | none =>
      rw [induction]
      simp [LastRetained]
    | some place =>
      rcases place with ⟨otherTenant, topic⟩
      dsimp only
      split
      · -- The operation decides this path.
        rename_i here
        rcases here with ⟨sameTenant, samePath⟩
        subst sameTenant samePath
        constructor
        · intro left
          rcases RetainOperation.outcome_of_target targeted left with
            ⟨publish, isPublish, sameTopic⟩
          subst isPublish sameTopic
          exact ⟨publish, rfl, rfl, .inl ⟨rfl, left⟩⟩
        · intro last
          rcases last with ⟨publish, isPublish, samePath, stored | kept⟩
          · rw [stored.2, isPublish]
          · have sameTopic := levels_injective samePath
            exact absurd (by rw [sameTopic]) kept.2
      · rename_i elsewhere
        have untouched : ∀ publish : Publish, path = levels publish.topicName →
            some (otherTenant, topic) ≠ some (tenantId, publish.topicName) := by
          intro publish isPath same
          cases same
          exact elsewhere ⟨rfl, isPath⟩
        rw [induction]
        constructor
        · intro last
          rcases last with ⟨publish, isPublish, isPath, last⟩
          exact ⟨publish, isPublish, isPath, .inr ⟨last, untouched publish isPath⟩⟩
        · intro last
          rcases last with ⟨publish, isPublish, isPath, stored | kept⟩
          · exact absurd stored.1 (untouched publish isPath)
          · exact ⟨publish, isPublish, isPath, kept.1⟩

/-! ## Retained and live delivery -/

def Receives (call : SubscribeCall) (topic : String) : Prop :=
  ∃ subscriptions subscription,
    (subscribed [call.tenantId] [call]).getSubscriptions call.tenantId topic = .ok subscriptions ∧
    call.subscription = some subscription ∧ subscription ∈ subscriptions

variable {call : SubscribeCall} {subscription : Subscription}

theorem receives_iff (asked : call.subscription = some subscription) (topic : String) :
    Receives call topic ↔ liveMatches (levels subscription.topicFilter) (levels topic) = true := by
  have known : call.tenantId = "public" ∨ call.tenantId ∈ [call.tenantId] := by simp
  rcases subscribed_spec [call.tenantId] [call] with ⟨_, wellFiled, contains⟩
  have held : (subscribed [call.tenantId] [call]).Holds call.tenantId subscription :=
    (holds_subscribed known [call] subscription).mpr ⟨[], call, [], rfl, ⟨rfl, asked⟩, by simp⟩
  constructor
  · intro receives
    rcases receives with ⟨subscriptions, _, returned, alsoAsked, member⟩
    rw [asked] at alsoAsked
    cases alsoAsked
    exact ((mem_getSubscriptions wellFiled returned _).mp member).2
  · intro isMatch
    rcases exists_getSubscriptions ((contains call.tenantId).mpr known) topic with
      ⟨subscriptions, returned⟩
    exact ⟨subscriptions, subscription, returned, asked,
      (mem_getSubscriptions wellFiled returned _).mpr ⟨held, isMatch⟩⟩

theorem testTopic_of_asked (asked : call.subscription = some subscription) :
    testTopic subscription.topicFilter = true := by
  rw [SubscribeCall.subscription] at asked
  split at asked
  · split at asked
    · rename_i valid
      cases asked
      exact valid
    · cases asked
  · cases asked

theorem count_getRetainPublishPacket (known : tenantId = "public" ∨ tenantId ∈ tenants)
    (operations : List RetainOperation) (valid : testTopic topicFilter = true) (now : Nat) :
    ∃ packets, (retainedBy tenants operations).getRetainPublishPacket now tenantId
        topicFilter = .ok packets ∧
      ∀ packet, (∀ publish, packet = .publish publish →
          LastRetained operations tenantId publish → publish.isExpired now = false →
          retainMatches (levels topicFilter) (levels publish.topicName) = true →
            packets.count packet = 1) ∧
        (¬ (∃ publish, packet = .publish publish ∧
          LastRetained operations tenantId publish ∧ publish.isExpired now = false ∧
          retainMatches (levels topicFilter) (levels publish.topicName) = true) →
            packets.count packet = 0) := by
  rcases Option.isSome_iff_exists.mp
    (((retainedBy_spec tenants operations).2 tenantId).mpr known) with
    ⟨tree, present⟩
  have returned : (retainedBy tenants operations).getRetainPublishPacket now tenantId
      topicFilter = .ok ((tree.root.recursionGetRetainPacket (levels topicFilter)).filter
        fun packet => !packet.isExpired now) := by
    simp [getRetainPublishPacket, valid, present]
  have retained : ∀ path packet, tree.root.retainedOf path = some packet ↔
      ∃ publish, packet = .publish publish ∧ path = levels publish.topicName ∧
        LastRetained operations tenantId publish := by
    intro path packet
    rw [← retained_retainedBy known operations path packet, content_of_tree present]
    rfl
  have only : ∀ publish path, tree.root.retainedOf path = some (.publish publish) →
      path = levels publish.topicName := by
    intro publish path held
    rcases (retained path _).mp held with ⟨_, same, isPath, _⟩
    cases same
    exact isPath
  refine ⟨_, returned, fun packet => ⟨?_, ?_⟩⟩
  · intro publish isPublish last unexpired isMatch
    subst isPublish
    have held : tree.root.retainedOf (levels publish.topicName) =
        some (.publish publish) := (retained _ _).mpr ⟨publish, rfl, rfl, last⟩
    rw [Multiset.count_filter_of_pos (by simp [Packet.isExpired, unexpired]),
      TopicStorageNode.count_recursionGetRetainPacket tree.wellFormed (only publish),
      if_pos ⟨isMatch, held⟩]
  · intro notDue
    apply Multiset.count_eq_zero_of_notMem
    intro member
    rcases Multiset.mem_filter.mp member with ⟨walked, unexpired⟩
    rcases TopicStorageNode.retainedOf_of_mem_recursionGetRetainPacket tree.wellFormed
      walked with ⟨path, held⟩
    rcases (retained path _).mp held with ⟨publish, isPublish, _, last⟩
    subst isPublish
    have positive := Multiset.count_pos.mpr walked
    rw [TopicStorageNode.count_recursionGetRetainPacket tree.wellFormed (only publish)] at positive
    split at positive
    · rename_i found
      exact notDue ⟨publish, rfl, last, by simpa [Packet.isExpired] using unexpired, found.1⟩
    · cases positive

/-- The packet is one that a subscription made by the call has to see: the last message
retained for its topic, unexpired, on a topic from which the subscription would receive
live publications. -/
def Due (operations : List RetainOperation) (tenantId : String) (now : Nat)
    (call : SubscribeCall) (packet : Packet) : Prop :=
  ∃ publish, packet = .publish publish ∧ LastRetained operations tenantId publish ∧
    publish.isExpired now = false ∧ Receives call publish.topicName

/-- Retained and live delivery agree on a filter if and only if no topic with an
unexpired retained message is the parent level of the filter. -/
theorem getRetainPublishPacket_agrees_iff (tenants : List String)
    (operations : List RetainOperation) (tenantId : String)
    (known : tenantId = "public" ∨ tenantId ∈ tenants) (now : Nat)
    (call : SubscribeCall) (subscription : Subscription)
    (asked : call.subscription = some subscription) :
    (∃ packets, (retainedBy tenants operations).getRetainPublishPacket now tenantId
        subscription.topicFilter = .ok packets ∧
      ∀ packet, (Due operations tenantId now call packet → packets.count packet = 1) ∧
        (¬ Due operations tenantId now call packet → packets.count packet = 0)) ↔
      ∀ publish, LastRetained operations tenantId publish → publish.isExpired now = false →
        ¬ ParentLevel (levels subscription.topicFilter) (levels publish.topicName) := by
  have valid := testTopic_of_asked asked
  rcases count_getRetainPublishPacket known operations valid now with
    ⟨packets, returned, counts⟩
  constructor
  · intro agrees publish last unexpired parent
    rcases agrees with ⟨_, alsoReturned, agrees⟩
    rw [returned] at alsoReturned
    cases alsoReturned
    have found := (counts (.publish publish)).1 publish rfl last unexpired
      ((retainMatches_iff valid).mpr (.inr parent))
    have notDue : ¬ Due operations tenantId now call (.publish publish) := by
      intro due
      rcases due with ⟨_, same, _, _, receives⟩
      cases same
      rw [receives_iff asked, not_liveMatches_of_parentLevel parent] at receives
      cases receives
    rw [(agrees (.publish publish)).2 notDue] at found
    cases found
  · intro noParent
    refine ⟨packets, returned, fun packet => ⟨?_, ?_⟩⟩
    · intro due
      rcases due with ⟨publish, isPublish, last, unexpired, receives⟩
      rw [receives_iff asked] at receives
      exact (counts packet).1 publish isPublish last unexpired
        ((retainMatches_iff valid).mpr (.inl receives))
    · intro notDue
      apply (counts packet).2
      intro found
      rcases found with ⟨publish, isPublish, last, unexpired, isMatch⟩
      rcases (retainMatches_iff valid).mp isMatch with live | parent
      · exact notDue ⟨publish, isPublish, last, unexpired,
          (receives_iff asked publish.topicName).mpr live⟩
      · exact noParent publish last unexpired parent

def announcement (topicName : String) : Publish where
  protocolVersion := .v5_0
  topicName := topicName
  payload := [0]
  qos := 0
  retain := true
  dup := false
  packetIdentifier := none
  messageExpiryInterval := none
  expiresAtUnixSecs := none

def below : SubscribeCall where
  tenantId := "public"
  clientIdentifier := "client"
  topicFilter := "a/#"
  qos := 0
  noLocal := false
  retainAsPublished := false

def belowSubscription : Subscription where
  clientIdentifier := "client"
  qos := 0
  noLocal := false
  retainAsPublished := false
  sharedGroup := none
  topicFilter := "a/#"

def announced (topicName : String) : List RetainOperation :=
  [.register "public" "client" (.publish (announcement topicName))]

theorem lastRetained_announced {topicName : String}
    (valid : testTopic topicName = true) (publish : Publish) :
    LastRetained (announced topicName) "public" publish ↔ publish = announcement topicName := by
  constructor
  · intro last
    rcases (@lastStores_concat _ _ _ [] _).mp last with stored | earlier
    · exact (Packet.publish.inj (Option.some.inj stored.2)).symm
    · exact absurd earlier.1 not_lastStores_nil
  · intro same
    subst same
    refine ⟨[], _, [], rfl, ⟨?_, rfl⟩, by simp⟩
    simp [RetainOperation.target, announcement, valid]

theorem getRetainPublishPacket_agrees_below :
    below.subscription = some belowSubscription ∧
      ∃ packets, (retainedBy [] (announced "a/b")).getRetainPublishPacket 0 "public"
          "a/#" = .ok packets ∧
        packets.count (.publish (announcement "a/b")) = 1 := by
  have asked : below.subscription = some belowSubscription := by decide
  have last := lastRetained_announced (show testTopic "a/b" = true by decide)
  refine ⟨asked, ?_⟩
  rcases (getRetainPublishPacket_agrees_iff [] (announced "a/b") "public" (.inl rfl) 0
    below belowSubscription asked).mpr (by
      intro publish retained _ parent
      rw [(last publish).mp retained,
        show levels belowSubscription.topicFilter = ["a", "#"] by decide,
        parentLevel_cons_iff (by decide)] at parent
      rcases parent with ⟨_, _, split, _, root⟩
      cases split
      cases parentLevel_sharp_iff.mp root) with ⟨packets, returned, agrees⟩
  refine ⟨packets, returned, (agrees _).1 ⟨_, rfl, (last _).mpr rfl, rfl, ?_⟩⟩
  rw [receives_iff asked]
  decide

/-- A message retained for the parent level is returned for a filter whose
subscriptions never receive that topic. -/
theorem parentLevel_disagrees :
    below.subscription = some belowSubscription ∧
      (retainedBy [] (announced "a")).getRetainPublishPacket 0 "public" "a/#" =
        .ok {.publish (announcement "a")} ∧
      (subscribed [] [below]).getSubscriptions "public" "a" = .ok 0 ∧
      ¬ Due (announced "a") "public" 0 below (.publish (announcement "a")) := by
  have asked : below.subscription = some belowSubscription := by decide
  refine ⟨asked, rfl, rfl, ?_⟩
  intro due
  rcases due with ⟨_, same, _, _, receives⟩
  cases same
  rw [receives_iff asked] at receives
  exact absurd receives (by decide)

end YedMQ.Topic
