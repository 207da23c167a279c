import YedMQ.Raft.Topic.Replay
import YedMQ.Session.CleanupRaces
import YedMQ.Session.SessionSubscriptions

/-! # Subscriptions of ended sessions

No step by which a session ends writes to the topic trie. So the subscriptions of a client
are those of its current session exactly in the runs in which a session ends only when the
client has no subscription left, and no subscribe request from an ended session is applied.
-/

namespace YedMQ.Raft.Topic

open YedMQ.Topic

theorem ActsOn.subscribed {storage next : TopicStorage} {tenantId clientId topic : String}
    {qos : UInt8}
    {noLocal retainAsPublished : Bool} {stored : StoredFilter}
    (acts : ActsOn (.subscribeTopic tenantId clientId topic qos noLocal
      retainAsPublished) storage next)
    (accepted : acceptedFilter topic = some stored) :
    next.Holds tenantId (TopicStorage.subscriptionOf clientId stored qos noLocal
      retainAsPublished) := by
  rw [TopicStorage.Holds, acts.subscription, TopicRequest.onSubscription, accepted]
  dsimp only [Option.elim_some]
  rw [if_pos ⟨rfl, rfl, rfl⟩]

end YedMQ.Raft.Topic

namespace YedMQ.SessionManager

open YedMQ.Raft.Topic (TopicRequest)
open YedMQ.Topic (TopicStorage Subscription StoredFilter acceptedFilter)
open Foundation Raft Semantics

/-- A subscribe request of the client is for a filter of its current session, and its
session ends or is replaced only when the trie holds no subscription of the client. -/
def Separated (client : Client) (subscriber : Subscriber) : SubscriberInput → Prop
  | .topic _ session request => ∀ topic, requestedFilter client request = some topic →
      ∀ filter, acceptedFilter topic = some filter →
        (subscriber.note client session request).Asked filter
  | input => (∀ next, subscriber.step client input = some next →
      next.current = subscriber.current) ∨ ∀ subscription, ¬ subscriber.Stores client subscription

variable {client : Client} {subscriber next : Subscriber}

/-! ## Steps of the sessions -/

/-- A step that leaves the trie alone: the session stays, ends, or is a new one. -/
structure Moves (subscriber next : Subscriber) : Prop where
  topics : next.topics = subscriber.topics
  requested : next.requested = subscriber.requested
  upcoming : subscriber.upcoming ≤ next.upcoming
  current : next.current = subscriber.current ∨ next.current = none ∨
    next.current = some subscriber.upcoming

theorem moves_stopActor (number : Nat) (actor : ClientActor) (subscriber : Subscriber) :
    Moves subscriber (subscriber.stopActor number actor) := by
  rw [Subscriber.stopActor]
  split
  · exact ⟨rfl, rfl, Nat.le_refl _, .inr (.inl rfl)⟩
  · exact ⟨rfl, rfl, Nat.le_refl _, .inl rfl⟩

theorem moves_afterDelete (number : Nat) (actor : ClientActor) (cluster : Cluster)
    (subscriber : Subscriber) :
    Moves subscriber (subscriber.afterDelete client number actor cluster) := by
  rw [Subscriber.afterDelete]
  split
  · exact ⟨rfl, rfl, Nat.le_refl _, .inr (.inl rfl)⟩
  · exact ⟨rfl, rfl, Nat.le_refl _, .inl rfl⟩

theorem Moves.startActor (moves : Moves subscriber next)
    (sameNumber : next.upcoming = subscriber.upcoming)
    (noneNew : next.current = subscriber.current ∨ next.current = none)
    (instanceId : SessionInstanceId) (sessionPresent : Bool) (message : CreateSessionMessage) :
    Moves subscriber (next.startActor instanceId sessionPresent message) := by
  refine ⟨moves.topics, moves.requested, Nat.le_succ_of_le moves.upcoming, ?_⟩
  have begun : (next.startActor instanceId sessionPresent message).current =
      some (if sessionPresent then next.current.getD next.upcoming else next.upcoming) := rfl
  rw [begun, sameNumber]
  cases sessionPresent with
  | false => exact .inr (.inr rfl)
  | true =>
    rcases noneNew with kept | ended
    · rw [kept]
      cases subscriber.current with
      | none => exact .inr (.inr rfl)
      | some => exact .inl rfl
    · rw [ended]
      exact .inr (.inr rfl)

theorem moves_clusterStep {input : ClusterInput}
    (stepped : clusterStep client input subscriber = some next) : Moves subscriber next := by
  rcases Option.map_eq_some_iff.mp stepped with ⟨cluster, _, made⟩
  subst made
  dsimp only
  have unchanged : Moves subscriber (subscriber.setCluster cluster) :=
    ⟨rfl, rfl, Nat.le_refl _, .inl rfl⟩
  have ended : Moves subscriber (subscriber.setCluster cluster).endSession :=
    ⟨rfl, rfl, Nat.le_refl _, .inr (.inl rfl)⟩
  split
  · split
    · exact ended.startActor rfl (.inr rfl) _ _ _
    · exact unchanged.startActor rfl (.inl rfl) _ _ _
  · split
    · exact ended
    · exact unchanged

variable {actor : ClientActor}

theorem moves_disconnectStep {number : Nat}
    (stepped : disconnectStep number actor subscriber = some next) : Moves subscriber next := by
  rw [disconnectStep] at stepped
  split at stepped
  · cases stepped
    exact moves_stopActor number actor subscriber
  · cases stepped
    exact ⟨rfl, rfl, Nat.le_refl _, .inl rfl⟩

variable {logId : LogId}

theorem moves_stateDeletedStep {number : Nat} {reading : SessionState.Reading}
    {outcome : WriteOutcome}
    (stepped : stateDeletedStep client number logId reading outcome actor subscriber =
      some next) : Moves subscriber next := by
  rw [stateDeletedStep] at stepped
  split at stepped
  · cases stepped
    exact moves_afterDelete number actor _ subscriber
  · split at stepped
    · cases stepped
      exact moves_afterDelete number actor _ subscriber
    · cases stepped

variable {input : SubscriberInput}

/-- Every step but those of the topic machine leaves the trie alone. -/
theorem moves_step (other : ∀ logId session request, input ≠ .topic logId session request)
    (stepped : subscriber.step client input = some next) : Moves subscriber next := by
  cases input with
  | topic logId session request => exact absurd rfl (other logId session request)
  | cluster => exact moves_clusterStep stepped
  | disconnect =>
    rcases Option.bind_eq_some_iff.mp stepped with ⟨actor, _, goesOn⟩
    exact moves_disconnectStep goesOn
  | stateDeleted =>
    rcases Option.bind_eq_some_iff.mp stepped with ⟨actor, _, goesOn⟩
    exact moves_stateDeletedStep goesOn
  | stop number =>
    rcases Option.map_eq_some_iff.mp stepped with ⟨actor, _, made⟩
    subst made
    exact moves_stopActor number actor subscriber

variable {session : Option Nat} {request : TopicRequest}

theorem topicStep_eq_some
    (stepped : topicStep client logId session request subscriber = some next) :
    (∀ number, session = some number → number < subscriber.upcoming) ∧
      ∃ topics, Raft.Topic.applyRequest () logId subscriber.topics request = .ok (topics, ()) ∧
        next = { subscriber.note client session request with topics := topics } := by
  rw [topicStep] at stepped
  split at stepped
  · rename_i begun
    split at stepped
    · rename_i topics answer applied
      cases stepped
      refine ⟨?_, topics, applied, rfl⟩
      intro number same
      simpa [same] using begun
    · cases stepped
  · cases stepped

/-! ## Subscriptions and sessions -/

/-- The trie is well formed, and every request comes from a session that has begun. -/
structure Tidy (subscriber : Subscriber) : Prop where
  consistent : Raft.Topic.Consistent subscriber.topics
  wellFiled : subscriber.topics.WellFiled
  begun : ∀ entry ∈ subscriber.requested, entry.1 < subscriber.upcoming

theorem tidy_new (nodes : List NodeId) : Tidy (Subscriber.new nodes) := by
  exact ⟨Raft.Topic.consistent_initial, TopicStorage.WellFiled.new, List.forall_mem_nil _⟩

variable (tidy : Tidy subscriber)

include tidy

theorem Tidy.moves (moves : Moves subscriber next) : Tidy next := by
  constructor
  · rw [moves.topics]
    exact tidy.consistent
  · rw [moves.topics]
    exact tidy.wellFiled
  · intro entry member
    rw [moves.requested] at member
    exact Nat.lt_of_lt_of_le (tidy.begun entry member) moves.upcoming

theorem Tidy.topicStep
    (stepped : topicStep client logId session request subscriber = some next) : Tidy next := by
  rcases topicStep_eq_some stepped with ⟨begun, _, applied, made⟩
  subst made
  have acts := Raft.Topic.applyRequest_actsOn tidy.consistent applied
  refine ⟨acts.consistent tidy.consistent, acts.wellFiled tidy.wellFiled, ?_⟩
  intro entry member
  rcases List.mem_append.mp member with old | new
  · exact tidy.begun entry old
  · rcases Option.bind_eq_some_iff.mp (Option.mem_toList.mp new) with ⟨number, same, asked⟩
    rcases Option.map_eq_some_iff.mp asked with ⟨_, _, made⟩
    subst made
    exact begun number same

theorem Tidy.step (stepped : subscriber.step client input = some next) : Tidy next := by
  cases input with
  | topic => exact tidy.topicStep stepped
  | _ =>
    apply tidy.moves (moves_step _ stepped)
    intro _ _ _ same
    cases same

theorem Tidy.withinSession_iff :
    WithinSession client subscriber ↔ ∀ subscription, subscriber.Stores client subscription →
        subscriber.Asked (filterOf subscription) := by
  constructor
  · intro within
    exact within.stored
  · intro stored
    refine ⟨stored, ?_⟩
    intro topic subscriptions returned subscription member own
    have held := (TopicStorage.mem_getSubscriptions tidy.wellFiled returned subscription).mp member
    exact stored subscription ⟨held.1, own⟩

omit tidy

/-- A step that leaves the trie alone is good exactly if the session stays or the trie holds
nothing of the client. -/
theorem Moves.withinSession_iff (moves : Moves subscriber next) (tidy : Tidy subscriber)
    (within : WithinSession client subscriber) :
    WithinSession client next ↔ next.current = subscriber.current ∨
      ∀ subscription, ¬ subscriber.Stores client subscription := by
  rw [(tidy.moves moves).withinSession_iff]
  constructor
  · intro stored
    by_cases same : next.current = subscriber.current
    · exact .inl same
    · right
      intro subscription stores
      have still : next.Stores client subscription := by
        rw [Subscriber.Stores, moves.topics]
        exact stores
      rcases stored subscription still with ⟨session, topic, current, asked, _⟩
      rw [moves.requested] at asked
      rcases moves.current with kept | ended | begun
      · exact same kept
      · rw [ended] at current
        cases current
      · -- No request comes from a session that has just begun.
        rw [begun] at current
        cases current
        exact absurd (tidy.begun _ asked) (Nat.lt_irrefl _)
  · intro allowed subscription stores
    rw [Subscriber.Stores, moves.topics] at stores
    rcases allowed with same | nothing
    · rcases within.stored subscription stores with ⟨session, topic, current, asked, accepted⟩
      exact ⟨session, topic, same.trans current, moves.requested ▸ asked, accepted⟩
    · exact absurd stores (nothing subscription)

theorem Subscriber.Asked.note {filter : StoredFilter} (asked : subscriber.Asked filter)
    (session : Option Nat) (request : TopicRequest) :
    (subscriber.note client session request).Asked filter := by
  rcases asked with ⟨number, topic, current, member, accepted⟩
  exact ⟨number, topic, current, List.mem_append_left _ member, accepted⟩

include tidy

/-- A step of the topic machine is good exactly if the filter that it stores for the client is
one of its current session. -/
theorem topicStep_withinSession_iff (within : WithinSession client subscriber)
    (stepped : topicStep client logId session request subscriber = some next) :
    WithinSession client next ↔ Separated client subscriber (.topic logId session request) := by
  rw [(tidy.topicStep stepped).withinSession_iff]
  rcases topicStep_eq_some stepped with ⟨_, _, applied, made⟩
  subst made
  have acts := Raft.Topic.applyRequest_actsOn tidy.consistent applied
  constructor
  · intro stored topic asks filter accepted
    cases request with
    | subscribeTopic =>
      rw [requestedFilter] at asks
      split at asks
      · rename_i own
        cases asks
        rcases own with ⟨tenant, isClient⟩
        subst tenant isClient
        exact stored _ ⟨acts.subscribed accepted, rfl⟩
      · cases asks
    | _ => cases asks
  · intro separated subscription stores
    rcases stores with ⟨held, own⟩
    rcases acts.origin held with before | ⟨_, topic, filter, _, _, _, same, accepted, made, _⟩
    · exact (within.stored subscription ⟨before, own⟩).note session request
    · subst made
      have asks : requestedFilter client request = some topic := by
        rw [same, requestedFilter, if_pos ⟨rfl, own⟩]
      exact separated topic asks filter accepted

theorem withinSession_step_iff (within : WithinSession client subscriber)
    (stepped : subscriber.step client input = some next) :
    WithinSession client next ↔ Separated client subscriber input := by
  -- The condition of the other steps speaks of the only next state.
  have others : (∀ logId session request, input ≠ .topic logId session request) →
      (WithinSession client next ↔ (∀ after, subscriber.step client input = some after →
          after.current = subscriber.current) ∨
            ∀ subscription, ¬ subscriber.Stores client subscription) := by
    intro other
    rw [(moves_step other stepped).withinSession_iff tidy within]
    apply or_congr_left
    constructor
    · intro same after reached
      rw [stepped] at reached
      cases reached
      exact same
    · intro all
      exact all next stepped
  cases input with
  | topic => exact topicStep_withinSession_iff tidy within stepped
  | _ =>
    apply others
    intro _ _ _ same
    cases same

omit tidy

/-- The runs in which the client's subscriptions are always those of its current session. -/
theorem withinSession_iff_separated (client : Client) (nodes : List NodeId)
    (inputs : List SubscriberInput) :
    Throughout (Subscriber.step client) (WithinSession client) (.new nodes) inputs ↔
      EachStep (Subscriber.step client) (Separated client) (.new nodes) inputs := by
  have initial : Tidy (.new nodes) ∧ WithinSession client (.new nodes) := by
    refine ⟨tidy_new nodes, (tidy_new nodes).withinSession_iff.mpr ?_⟩
    intro subscription stores
    have empty := stores.1
    rw [Subscriber.new, TopicStorage.Holds, TopicStorage.content_new] at empty
    cases empty
  have both : Throughout (Subscriber.step client)
      (fun subscriber => Tidy subscriber ∧ WithinSession client subscriber) (.new nodes) inputs ↔
        EachStep (Subscriber.step client) (Separated client) (.new nodes) inputs := by
    apply throughout_iff_eachStep
    · intro subscriber input next before stepped
      constructor
      · intro after
        exact (withinSession_step_iff before.1 before.2 stepped).mp after.2
      · intro separated
        exact ⟨before.1.step stepped,
          (withinSession_step_iff before.1 before.2 stepped).mpr separated⟩
    · exact initial
  rw [← both]
  constructor
  · intro within visited isPrefix reached runs
    refine ⟨?_, within visited isPrefix reached runs⟩
    apply run_invariant _ initial.1 runs
    intro subscriber input next tidy stepped
    exact tidy.step stepped
  · intro all visited isPrefix reached runs
    exact (all visited isPrefix reached runs).2

/-! ## Four ways to end a session -/

def observeRoute (topic : String) (subscriber : Subscriber) :
    Option Nat × List (Nat × String) × Option (Multiset String) :=
  (subscriber.current, subscriber.requested,
    (subscriber.topics.getSubscriptions "tenant" topic).toOption.map fun subscriptions =>
      subscriptions.map Subscription.clientIdentifier)

/-- The client gets a message for which it has not asked in its session. -/
theorem not_withinSession_of_route {topic : String} {current : Option Nat}
    {requested : List (Nat × String)} {clients : Multiset String}
    (seen : observeRoute topic subscriber = (current, requested, some clients))
    (receives : "client" ∈ clients)
    (unasked : ∀ entry ∈ requested, current ≠ some entry.1) :
    ¬ WithinSession briefClient subscriber := by
  simp only [observeRoute, Prod.mk.injEq] at seen
  rcases seen with ⟨sameCurrent, sameRequests, delivered⟩
  rcases Option.map_eq_some_iff.mp delivered with ⟨subscriptions, found, same⟩
  have returned : subscriber.topics.getSubscriptions "tenant" topic = .ok subscriptions := by
    cases outcome : subscriber.topics.getSubscriptions "tenant" topic with
    | error =>
      rw [outcome] at found
      cases found
    | ok =>
      rw [outcome] at found
      cases found
      rfl
  rw [← same] at receives
  rcases Multiset.mem_map.mp receives with ⟨subscription, member, own⟩
  intro within
  rcases within.routed topic subscriptions returned subscription member own with
    ⟨_, _, isCurrent, asked, _⟩
  rw [sameRequests] at asked
  rw [sameCurrent] at isCurrent
  exact unasked _ asked isCurrent

def subscribeFirst : SubscriberInput :=
  .topic (logAt 1) (some 0) (.subscribeTopic "tenant" "client" "news" 0 false false)

def startAnew (number logIndex : Nat) (cleanSession : Bool) : List Input :=
  [.create ⟨true, cleanSession, .v3_1_1, none⟩, .register number (logAt logIndex) 0 .committed,
    .command number (logAt 10) (readingAt 0) .committed]

def inCluster (inputs : List ClusterInput) : List SubscriberInput :=
  inputs.map .cluster

def cleanDisconnect : List SubscriberInput :=
  inCluster (onNode (startAnew 0 1 true ++ checkAndStart 0 0)) ++
    [subscribeFirst, .disconnect 0 none]

def cleanStartAgain : List SubscriberInput :=
  inCluster (onNode firstSession) ++ [subscribeFirst] ++ inCluster (onNode (startAnew 1 2 false ++
      [.command 1 (logAt 11) (readingAt 0) .committed] ++ checkAndStart 1 0))

def expiryIntervalZero : List SubscriberInput :=
  inCluster (onNode ([.create ⟨false, false, .v5_0, some 0⟩,
    .register 0 (logAt 1) 0 .committed, .linearize 0, .answer 0 0 false,
    .command 0 (logAt 1) (readingAt 0) .committed] ++ checkAndStart 0 0)) ++
    [subscribeFirst, .disconnect 0 none, .stateDeleted 0 (logAt 2) (readingAt 0) .committed]

def expiredAndCleaned : List SubscriberInput :=
  inCluster (onNode firstSession) ++ [subscribeFirst] ++
    inCluster [.scan 200, .lookUp 0 none, .delete 0 (logAt 4) (readingAt 200) .committed]

/-- However a session ends, the subscription stays, and the client gets messages through it
in its next session or without one. -/
theorem ended_sessions_keep_subscriptions :
    (∃ final, run (Subscriber.step briefClient) (.new [1]) cleanDisconnect = some final ∧
      observeRoute "news" final = (none, [(0, "news")], some {"client"}) ∧
      ¬ WithinSession briefClient final) ∧
    (∃ final, run (Subscriber.step briefClient) (.new [1]) cleanStartAgain = some final ∧
      observeRoute "news" final = (some 1, [(0, "news")], some {"client"}) ∧
      ¬ WithinSession briefClient final) ∧
    (∃ final, run (Subscriber.step briefClient) (.new [1]) expiryIntervalZero = some final ∧
      observeRoute "news" final = (none, [(0, "news")], some {"client"}) ∧
      ¬ WithinSession briefClient final) ∧
    ∃ final, run (Subscriber.step briefClient) (.new [1]) expiredAndCleaned = some final ∧
      observeRoute "news" final = (none, [(0, "news")], some {"client"}) ∧
      ¬ WithinSession briefClient final := by
  have observed : ∀ inputs current, current ≠ some 0 →
      (run (Subscriber.step briefClient) (.new [1]) inputs).map (observeRoute "news") =
        some (current, [(0, "news")], some {"client"}) →
      ∃ final, run (Subscriber.step briefClient) (.new [1]) inputs = some final ∧
        observeRoute "news" final = (current, [(0, "news")], some {"client"}) ∧
        ¬ WithinSession briefClient final := by
    intro inputs current other observed
    rcases Option.map_eq_some_iff.mp observed with ⟨final, runs, seen⟩
    refine ⟨final, runs, seen, not_withinSession_of_route seen (by simp) ?_⟩
    intro entry member
    rw [List.mem_singleton.mp member]
    exact other
  refine ⟨observed _ _ (by decide) ?_, observed _ _ (by decide) ?_,
    observed _ _ (by decide) ?_, observed _ _ (by decide) ?_⟩
  · decide +kernel
  · decide +kernel
  · decide +kernel
  · decide +kernel

end YedMQ.SessionManager
