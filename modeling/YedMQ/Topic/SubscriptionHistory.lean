import YedMQ.Raft.Topic.SubscriptionMap

/-! # Histories of subscribe calls

What a storage holds after a series of subscribe calls, said without the tree: the
subscription that the last call for a client, group and filter asked for. Retrieval is
compared with the matching rules in these terms.
-/

namespace YedMQ.Topic

open Foundation Semantics TopicStorage Raft.Topic

structure SubscribeCall where
  tenantId : String
  clientIdentifier : String
  topicFilter : String
  qos : UInt8
  noLocal : Bool
  retainAsPublished : Bool

namespace SubscribeCall

def perform (storage : TopicStorage) (call : SubscribeCall) : TopicStorage :=
  match storage.subscribeWithOptions call.tenantId call.clientIdentifier
      call.topicFilter call.qos call.noLocal call.retainAsPublished with
  | .ok next => next
  | .error _ => storage

def subscription (call : SubscribeCall) : Option Subscription :=
  match parseFilter call.topicFilter with
  | .ok stored =>
    if testTopic stored.topicFilter then
      some (subscriptionOf call.clientIdentifier stored call.qos
        call.noLocal call.retainAsPublished)
    else
      none
  | .error _ => none

def Overwrites (tenantId : String) (old : Subscription) (call : SubscribeCall) : Prop :=
  call.tenantId = tenantId ∧ ∃ replacement, call.subscription = some replacement ∧
    replacement.clientIdentifier = old.clientIdentifier ∧
    replacement.sharedGroup = old.sharedGroup ∧
    replacement.topicFilter = old.topicFilter

end SubscribeCall

def IsStored (calls : List SubscribeCall) (tenantId : String)
    (subscription : Subscription) : Prop :=
  LastStores (fun call => call.tenantId = tenantId ∧ call.subscription = some subscription)
    (fun call => call.Overwrites tenantId subscription) calls

def withTenants (tenants : List String) : TopicStorage :=
  tenants.foldl (fun storage tenant => storage.createTenant tenant) new

def subscribed (tenants : List String) (calls : List SubscribeCall) : TopicStorage :=
  calls.foldl SubscribeCall.perform (withTenants tenants)

namespace SubscribeCall

variable {call : SubscribeCall}

def request (call : SubscribeCall) : TopicRequest :=
  .subscribeTopic call.tenantId call.clientIdentifier call.topicFilter call.qos call.noLocal
    call.retainAsPublished

theorem asked_request (call : SubscribeCall) : call.request.asked = call.subscription := by
  rw [request, TopicRequest.asked, subscription, acceptedFilter]
  cases parseFilter call.topicFilter with
  | error => rfl
  | ok =>
    dsimp only
    split <;> rfl

theorem named_request (tenantId : String) (subscription : Subscription) :
    call.request.named = some (entryOf tenantId subscription) ↔
      call.Overwrites tenantId subscription := by
  rw [Overwrites, ← asked_request, request, TopicRequest.named, TopicRequest.asked]
  cases acceptedFilter call.topicFilter with
  | none => simp
  | some stored =>
    rcases stored with ⟨_, _⟩
    simp only [Option.map_some, Option.some.injEq, entryOf, SubscriptionEntry.mk.injEq,
      StoredFilter.mk.injEq, exists_eq_left']
    tauto

variable {storage : TopicStorage} {tenantId : String}

/-- A call acts on the storage like its request if it finds its tenant, and does nothing
otherwise. -/
theorem perform_cases (consistent : Consistent storage) (call : SubscribeCall) :
    ActsOn call.request storage (perform storage call) ∧
        storage.containsTenant call.tenantId = true ∨
      perform storage call = storage ∧ storage.containsTenant call.tenantId = false := by
  cases known : storage.containsTenant call.tenantId with
  | true =>
    have acts := actsOn_subscribe consistent call.tenantId call.clientIdentifier
      call.topicFilter call.qos call.noLocal call.retainAsPublished
    rw [createTenant_of_containsTenant consistent known] at acts
    exact .inl ⟨acts, rfl⟩
  | false =>
    refine .inr ⟨?_, rfl⟩
    rw [perform]
    split
    · rename_i next succeeded
      rcases subscribeWithOptions_eq_ok succeeded with ⟨_, _, _, _, present, _⟩
      rw [containsTenant, present] at known
      cases known
    · rfl

theorem holds_perform (consistent : Consistent storage) (wellFiled : storage.WellFiled)
    (known : storage.containsTenant tenantId = true) (subscription : Subscription) :
    (perform storage call).Holds tenantId subscription ↔
      (call.tenantId = tenantId ∧ call.subscription = some subscription) ∨
        (storage.Holds tenantId subscription ∧ ¬ call.Overwrites tenantId subscription) := by
  rcases perform_cases consistent call with ⟨acts, _⟩ | ⟨same, missing⟩
  · have entry := acts.held_eq wellFiled (entryOf tenantId subscription)
    rw [asked_request] at entry
    apply (Eq.congr_left entry).trans
    rw [← named_request]
    split
    · rename_i named
      have here := ((named_request tenantId subscription).mp named).1
      simp [named, here]
    · rename_i other
      have notAsked : ¬ (call.tenantId = tenantId ∧ call.subscription = some subscription) := by
        rintro ⟨here, asked⟩
        exact other ((named_request tenantId subscription).mpr
          ⟨here, subscription, asked, rfl, rfl, rfl⟩)
      simp only [notAsked, other, false_or, not_false_eq_true, and_true]
      rfl
  · have otherTenant : call.tenantId ≠ tenantId := by
      intro here
      rw [here, known] at missing
      cases missing
    simp [same, Overwrites, otherTenant]

end SubscribeCall

variable (tenants : List String)
variable (calls : List SubscribeCall)

theorem subscribed_concat (call : SubscribeCall) :
    subscribed tenants (calls ++ [call]) =
      SubscribeCall.perform (subscribed tenants calls) call := by
  simp [subscribed]

theorem withTenants_spec :
    Consistent (withTenants tenants) ∧ (withTenants tenants).WellFiled ∧
      (∀ tenantId path, (withTenants tenants).content tenantId path = .empty) ∧
      ∀ tenantId, (withTenants tenants).containsTenant tenantId = true ↔
        tenantId = "public" ∨ tenantId ∈ tenants := by
  induction tenants using List.reverseRecOn with
  | nil =>
    exact ⟨consistent_initial, .new, content_new, by simp [withTenants, containsTenant_new]⟩
  | append_singleton tenants tenant induction =>
    rcases induction with ⟨consistent, wellFiled, empty, known⟩
    have added : withTenants (tenants ++ [tenant]) = (withTenants tenants).createTenant tenant := by
      simp [withTenants]
    have acts := actsOn_createTenant tenant (withTenants tenants)
    rw [added]
    refine ⟨acts.consistent consistent, acts.wellFiled wellFiled, ?_, ?_⟩
    · intro tenantId path
      rw [content_createTenant]
      exact empty tenantId path
    · intro tenantId
      rw [containsTenant_createTenant, known]
      simp only [List.mem_append, List.mem_singleton]
      tauto

theorem subscribed_spec :
    Consistent (subscribed tenants calls) ∧ (subscribed tenants calls).WellFiled ∧
      ∀ tenantId, (subscribed tenants calls).containsTenant tenantId = true ↔
        tenantId = "public" ∨ tenantId ∈ tenants := by
  induction calls using List.reverseRecOn with
  | nil =>
    rcases withTenants_spec tenants with ⟨consistent, wellFiled, _, known⟩
    exact ⟨consistent, wellFiled, known⟩
  | append_singleton calls call induction =>
    rw [subscribed_concat]
    rcases SubscribeCall.perform_cases induction.1 call with ⟨acts, present⟩ | ⟨same, _⟩
    · refine ⟨acts.consistent induction.1, acts.wellFiled induction.2.1, ?_⟩
      intro tenantId
      rw [← induction.2.2, acts.tenant, raise, Bool.or_eq_true, decide_eq_true_eq]
      refine ⟨?_, .inl⟩
      rintro (found | created)
      · exact found
      · cases created
        exact present
    · rw [same]
      exact induction

theorem holds_subscribed {tenants : List String} {tenantId : String}
    (known : tenantId = "public" ∨ tenantId ∈ tenants) (calls : List SubscribeCall)
    (subscription : Subscription) :
    (subscribed tenants calls).Holds tenantId subscription ↔
      IsStored calls tenantId subscription := by
  induction calls using List.reverseRecOn with
  | nil =>
    constructor
    · intro held
      rw [TopicStorage.Holds, subscribed, List.foldl_nil, (withTenants_spec tenants).2.2.1] at held
      cases held
    · intro stored
      exact absurd stored not_lastStores_nil
  | append_singleton calls call induction =>
    rcases subscribed_spec tenants calls with ⟨consistent, wellFiled, tenants⟩
    rw [subscribed_concat, IsStored, lastStores_concat, SubscribeCall.holds_perform consistent
      wellFiled ((tenants tenantId).mpr known), induction]
    rfl

/-- Retrieval returns a stored subscription exactly once if its filter matches the
topic level by level, and does not return it otherwise. Filters that end in a sharp
below the topic itself are left open. -/
theorem getSubscriptions_matches
    (tenantId topic : String) (known : tenantId = "public" ∨ tenantId ∈ tenants)
    (free : WildcardFree topic) :
    ∃ subscriptions,
      (subscribed tenants calls).getSubscriptions tenantId topic = .ok subscriptions ∧
      ∀ subscription, ¬ ParentLevel (levels subscription.topicFilter) (levels topic) →
        (IsStored calls tenantId subscription →
          LevelsMatch (levels subscription.topicFilter) (levels topic) →
            subscriptions.count subscription = 1) ∧
        (¬ (IsStored calls tenantId subscription ∧
          LevelsMatch (levels subscription.topicFilter) (levels topic)) →
            subscriptions.count subscription = 0) := by
  rcases subscribed_spec tenants calls with ⟨_, wellFiled, contains⟩
  rcases exists_getSubscriptions ((contains tenantId).mpr known) topic with
    ⟨subscriptions, returned⟩
  refine ⟨subscriptions, returned, ?_⟩
  intro subscription notParent
  have counted := count_getSubscriptions wellFiled free returned subscription
  rw [holds_subscribed known] at counted
  constructor
  · intro stored matched
    exact counted.1 stored (liveMatches_of_levelsMatch matched notParent)
  · intro notBoth
    apply counted.2
    rintro ⟨stored, found⟩
    exact notBoth ⟨stored,
      levelsMatch_of_liveMatches (fun level member => free.level_ne member) found⟩

def everything : SubscribeCall where
  tenantId := "public"
  clientIdentifier := "client"
  topicFilter := "#"
  qos := 0
  noLocal := false
  retainAsPublished := false

def everythingSubscription : Subscription where
  clientIdentifier := "client"
  qos := 0
  noLocal := false
  retainAsPublished := false
  sharedGroup := none
  topicFilter := "#"

theorem everything_isStored : IsStored [everything] "public" everythingSubscription :=
  ⟨[], everything, [], rfl, ⟨rfl, by decide⟩, by simp⟩

theorem getSubscriptions_matches_everything : WildcardFree "a/b" ∧ ∃ subscriptions,
      (subscribed [] [everything]).getSubscriptions "public" "a/b" = .ok subscriptions ∧
        subscriptions.count everythingSubscription = 1 := by
  have free : WildcardFree "a/b" := by decide
  refine ⟨free, ?_⟩
  rcases getSubscriptions_matches [] [everything] "public" "a/b" (.inl rfl) free with
    ⟨subscriptions, returned, counts⟩
  have filterLevels : levels everythingSubscription.topicFilter = ["#"] := by decide
  have topicLevels : levels "a/b" = ["a", "b"] := by decide
  have notParent : ¬ ParentLevel (levels everythingSubscription.topicFilter) (levels "a/b") := by
    rw [filterLevels]
    rintro ⟨parent, ends, _, matched⟩
    have root : parent = [] := by simpa using ends
    subst root
    cases matched
  refine ⟨subscriptions, returned, (counts _ notParent).1 everything_isStored ?_⟩
  exact .sharp _

/-- Topics that start with a dollar sign are not treated specially: a leading wildcard
receives them. -/
theorem everything_receives_dollar_topics :
    WildcardFree "$SYS/broker/uptime" ∧ IsStored [everything] "public" everythingSubscription ∧
      ¬ MqttMatches everythingSubscription.topicFilter "$SYS/broker/uptime" ∧
      ∃ subscriptions, (subscribed [] [everything]).getSubscriptions "public" "$SYS/broker/uptime" =
          .ok subscriptions ∧
        subscriptions.count everythingSubscription = 1 := by
  refine ⟨by decide, everything_isStored, ?_, _, rfl, by decide⟩
  intro matched
  exact matched.2 ⟨.inr (by decide), by decide⟩

end YedMQ.Topic
