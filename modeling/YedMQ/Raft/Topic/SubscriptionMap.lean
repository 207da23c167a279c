import YedMQ.Raft.Topic.Replay
import YedMQ.Semantics.History

/-! # The trie as a map

Calls on the topic storage, in any number and order. The subscriptions in the trie form a
map from tenant, client, share group and filter: each successful call writes or erases one
entry, and nothing else is stored.
-/

namespace YedMQ.Raft.Topic

open Foundation Semantics YedMQ.Topic TopicStorage TopicRequest

structure SubscriptionEntry where
  tenantId : String
  clientIdentifier : String
  filter : StoredFilter
deriving DecidableEq

def entryOf (tenantId : String) (subscription : Subscription) : SubscriptionEntry where
  tenantId := tenantId
  clientIdentifier := subscription.clientIdentifier
  filter := ⟨subscription.topicFilter, subscription.sharedGroup⟩

def held (storage : TopicStorage) (entry : SubscriptionEntry) : Option Subscription :=
  (storage.content entry.tenantId (levels entry.filter.topicFilter)).subscriptions.lookup
    (subscriptionOf entry.clientIdentifier entry.filter 0 false false).nodeKey

namespace TopicRequest

def call (storage : TopicStorage) : TopicRequest → Except TopicStorageError TopicStorage
  | subscribeTopic tenantId clientIdentifier topic qos noLocal retainAsPublished =>
    storage.subscribeWithOptions tenantId clientIdentifier topic qos noLocal retainAsPublished
  | unsubscribeTopic tenantId clientIdentifier topic =>
    storage.unsubscribe tenantId clientIdentifier topic
  | registerRetainPublishPacket tenantId sourceClientIdentifier publishPacket =>
    storage.registerRetainPublishPacket tenantId sourceClientIdentifier publishPacket
  | cleanRetainPublishPacket tenantId topicFilter =>
    storage.cleanRetainPublishPacket tenantId topicFilter
  | createTenant tenantId => .ok (storage.createTenant tenantId)

def named : TopicRequest → Option SubscriptionEntry
  | subscribeTopic tenantId clientIdentifier topic _ _ _ =>
    (acceptedFilter topic).map (SubscriptionEntry.mk tenantId clientIdentifier)
  | unsubscribeTopic tenantId clientIdentifier topic =>
    (parseFilter topic).toOption.map (SubscriptionEntry.mk tenantId clientIdentifier)
  | _ => none

def asked : TopicRequest → Option Subscription
  | subscribeTopic _ clientIdentifier topic qos noLocal retainAsPublished =>
    (acceptedFilter topic).map fun stored =>
      subscriptionOf clientIdentifier stored qos noLocal retainAsPublished
  | _ => none

def leavesRetained : TopicRequest → Bool
  | registerRetainPublishPacket .. => false
  | cleanRetainPublishPacket .. => false
  | _ => true

def LastAsked (tenantId : String) (subscription : Subscription) (calls : List TopicRequest) :
    Prop :=
  LastStores (fun call => call.named = some (entryOf tenantId subscription) ∧
      call.asked = some subscription)
    (fun call => call.named = some (entryOf tenantId subscription)) calls

end TopicRequest

def perform (before : TopicStorage × List TopicRequest) (request : TopicRequest) :
    TopicStorage × List TopicRequest :=
  match request.call before.1 with
  | .ok next => (next, before.2 ++ [request])
  | .error _ => before

variable (calls : List TopicRequest)

def performed : TopicStorage × List TopicRequest :=
  calls.foldl perform (TopicStorage.new, [])

variable {request : TopicRequest} {storage next : TopicStorage}

/-- A successful call does what the request does. -/
theorem actsOn_call (consistent : Consistent storage)
    (succeeded : request.call storage = .ok next) :
    ActsOn request storage next := by
  have applied : applyRequest () ⟨⟨0, 0⟩, 0⟩ storage request = .ok (next, ()) := by
    cases request with
    | subscribeTopic =>
      rcases subscribeWithOptions_eq_ok succeeded with ⟨_, tree, _, _, present, _⟩
      have known := containsTenant_eq_true.mpr ⟨tree, present⟩
      rw [call] at succeeded
      simp [applyRequest, known, succeeded, orUnchanged]
    | registerRetainPublishPacket =>
      rw [call] at succeeded
      rw [applyRequest, succeeded]
    | createTenant =>
      cases succeeded
      rfl
    | unsubscribeTopic | cleanRetainPublishPacket =>
      rw [call] at succeeded
      rw [applyRequest, succeeded, orUnchanged]
  exact applyRequest_actsOn consistent applied

theorem entryOf_of_held (wellFiled : storage.WellFiled) {entry : SubscriptionEntry}
    {subscription : Subscription} (found : held storage entry = some subscription) :
    entryOf entry.tenantId subscription = entry := by
  rcases wellFiled _ _ _ _ found with ⟨place, own⟩
  rcases Subscription.nodeKey_eq_iff.mp own with ⟨client, group⟩
  have filter := levels_injective place
  rcases entry with ⟨_, _, _, _⟩
  cases client
  cases group
  cases filter
  rfl

/-- Under its own key, a subscription is removed by the calls of its client for its group. -/
theorem filter_removes (clientId : String) (sharedGroup : Option String)
    (subscription : Subscription) :
    ((some subscription).filter fun stored =>
        !removes (nodeKeys clientId sharedGroup) clientId sharedGroup
          subscription.nodeKey stored) =
      if clientId = subscription.clientIdentifier ∧
          sharedGroup = subscription.sharedGroup then
        none
      else
        some subscription := by
  split
  · rename_i own
    rcases own with ⟨rfl, rfl⟩
    rw [Option.filter_some, removes, Subscription.nodeKey]
    cases subscription.sharedGroup <;> simp [nodeKeys]
  · rw [Option.filter_some, removes, if_pos]
    simp only [Bool.not_eq_true', Bool.and_eq_false_iff, beq_eq_false_iff_ne]
    tauto

/-- A call writes or erases the entry that it is about, and leaves the others. -/
theorem ActsOn.held_eq (acts : ActsOn request storage next) (wellFiled : storage.WellFiled)
    (entry : SubscriptionEntry) :
    held next entry =
      if request.named = some entry then request.asked else held storage entry := by
  rw [held, acts.subscription]
  cases request with
  | subscribeTopic tenant clientId topic qos noLocal retainAsPublished =>
    cases accepted : acceptedFilter topic with
    | none => simp [onSubscription, named, accepted, held]
    | some stored =>
      have about : (entry.tenantId = tenant ∧
          levels entry.filter.topicFilter = levels stored.topicFilter ∧
          (subscriptionOf entry.clientIdentifier entry.filter 0 false false).nodeKey =
            (subscriptionOf clientId stored qos noLocal retainAsPublished).nodeKey) ↔
          SubscriptionEntry.mk tenant clientId stored = entry := by
        rw [Subscription.nodeKey_eq_iff]
        constructor
        · rintro ⟨here, path, client, group⟩
          rcases entry with ⟨tenantId, _, topicFilter, sharedGroup⟩
          cases here
          cases levels_injective path
          cases client
          cases group
          rfl
        · intro same
          subst same
          exact ⟨rfl, rfl, rfl, rfl⟩
      simp only [onSubscription, named, asked,
        accepted, Option.elim, Option.map_some, Option.some.injEq, about]
      split <;> rfl
  | unsubscribeTopic tenant clientId topic =>
    cases parsed : (parseFilter topic).toOption with
    | none => simp [onSubscription, named, parsed, held]
    | some stored =>
      simp only [onSubscription, named, asked, parsed, Option.elim]
      cases found : held storage entry with
      | none =>
        rw [held] at found
        rw [found]
        split <;> simp
      | some subscription =>
        rcases entry with ⟨_, _, _⟩
        cases entryOf_of_held wellFiled found
        rw [held] at found
        rw [found]
        split
        · rename_i here
          rcases here with ⟨rfl, path⟩
          rcases stored with ⟨_, sharedGroup⟩
          cases levels_injective path
          apply (filter_removes clientId sharedGroup subscription).trans
          simp
        · rename_i elsewhere
          rw [if_neg]
          · rfl
          · intro same
            cases same
            exact elsewhere ⟨rfl, rfl⟩
  | registerRetainPublishPacket | cleanRetainPublishPacket | createTenant => rfl

theorem performed_concat (request : TopicRequest) :
    performed (calls ++ [request]) = perform (performed calls) request := by
  simp [performed]

theorem performed_spec :
    Consistent (performed calls).1 ∧ (performed calls).1.WellFiled ∧
      ∀ tenantId subscription,
        held (performed calls).1 (entryOf tenantId subscription) = some subscription ↔
          TopicRequest.LastAsked tenantId subscription (performed calls).2 := by
  induction calls using List.reverseRecOn with
  | nil =>
    refine ⟨consistent_initial, .new, ?_⟩
    intro tenantId subscription
    have empty : held (performed []).1 (entryOf tenantId subscription) ≠ some subscription := by
      rw [held, performed, List.foldl_nil, content_new]
      exact nofun
    exact iff_of_false empty not_lastStores_nil
  | append_singleton calls request induction =>
    rcases induction with ⟨consistent, wellFiled, holds⟩
    rw [performed_concat, perform]
    split
    · rename_i next succeeded
      have acts := actsOn_call consistent succeeded
      refine ⟨acts.consistent consistent, acts.wellFiled wellFiled, ?_⟩
      intro tenantId subscription
      rw [TopicRequest.LastAsked, lastStores_concat, ← TopicRequest.LastAsked,
        acts.held_eq wellFiled]
      split <;> simp [*]
    · exact ⟨consistent, wellFiled, holds⟩

/-- After any calls, the trie stores the subscriptions whose last successful call asked for
them, each at its place. A failing call changes nothing, and a successful one leaves every
entry that it is not about; retained messages are left alone by the calls about tenants
and subscriptions. -/
theorem trie_is_map : (∀ tenantId path key subscription,
      ((performed calls).1.content tenantId path).subscriptions.lookup key = some subscription ↔
        path = levels subscription.topicFilter ∧ key = subscription.nodeKey ∧
          TopicRequest.LastAsked tenantId subscription (performed calls).2) ∧
    ∀ request : TopicRequest, (∀ error, request.call (performed calls).1 = .error error →
        perform (performed calls) request = performed calls) ∧
      ∀ next, request.call (performed calls).1 = .ok next → (∀ entry, request.named ≠ some entry →
          held next entry = held (performed calls).1 entry) ∧
        (request.leavesRetained = true → ∀ tenantId path,
          (next.content tenantId path).retainPublishPacket =
            ((performed calls).1.content tenantId path).retainPublishPacket) := by
  rcases performed_spec calls with ⟨consistent, wellFiled, holds⟩
  constructor
  · intro tenantId path key subscription
    rw [← holds]
    constructor
    · intro found
      rcases wellFiled tenantId path key subscription found with ⟨place, own⟩
      rw [place, own] at found
      exact ⟨place, own, found⟩
    · rintro ⟨place, own, found⟩
      rw [place, own]
      exact found
  · intro request
    constructor
    · intro error failed
      rw [perform, failed]
    · intro next succeeded
      have acts := actsOn_call consistent succeeded
      constructor
      · intro entry other
        rw [acts.held_eq wellFiled, if_neg other]
      · intro leaves tenantId path
        rw [acts.retained]
        cases request with
        | registerRetainPublishPacket | cleanRetainPublishPacket => cases leaves
        | _ => rfl

end YedMQ.Raft.Topic
